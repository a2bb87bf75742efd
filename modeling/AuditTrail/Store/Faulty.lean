import AuditTrail.Number.Digits
import AuditTrail.Store.Basic

/-
  A store that refuses on demand. For each stage of a transaction a number of failures can be
  asked for; a stage that fails does not reach the store behind it. Besides, the commit of a
  transaction can be held back by a gate until the gate is opened.
-/
namespace AuditTrail

/-- The stages of a transaction. -/
inductive Stage where
  | begin
  | insert
  | delete
  | commit
  | rollback
  deriving DecidableEq, Repr

namespace Stage

def name : Stage → String
  | .begin => "begin"
  | .insert => "insert"
  | .delete => "delete"
  | .commit => "commit"
  | .rollback => "rollback"

def all : List Stage := [.begin, .insert, .delete, .commit, .rollback]

/-- The stage with a name. -/
def ofName? (name : String) : Option Stage := all.find? (·.name == name)

/-- The error of a stage that fails on demand. -/
def failure (s : Stage) : StoreError :=
  let reason := "injected " ++ s.name ++ " failure"
  match s with
  | .delete => .internal reason
  | _ => .unavailable reason

end Stage

/-- A store with the failures still to come and the gates, of which each is open or not. -/
structure Faulty (σ : Type) where
  inner : σ
  faults : Stage → Nat := fun _ => 0
  gates : List Bool := []
  /-- The gate that the next transaction takes. -/
  offered : Option Nat := none

/-- A transaction with the gate it waits at. -/
structure Gated (τ : Type) where
  inner : τ
  gate : Option Nat

namespace Faulty

variable {σ τ : Type}

/-- Asks for a number of failures of a stage, in place of an earlier demand. -/
def demand (stage : Stage) (n : Nat) (s : Faulty σ) : Faulty σ :=
  { s with faults := fun x => if x = stage then n else s.faults x }

/-- Makes a gate for the next transaction. -/
def hold (s : Faulty σ) : Faulty σ :=
  { s with gates := s.gates ++ [false], offered := some s.gates.length }

/-- Opens the first gate that is not open. -/
def openFirst : List Bool → List Bool
  | [] => []
  | true :: rest => true :: openFirst rest
  | false :: rest => true :: rest

/-- Opens the oldest gate that is not open. -/
def release (s : Faulty σ) : Faulty σ := { s with gates := openFirst s.gates }

/-- Whether the gate of a transaction is open. -/
def isOpen (s : Faulty σ) (t : Gated τ) : Bool := t.gate.all fun g => s.gates[g]?.getD true

/-- Runs a stage unless it fails on demand. -/
def attempt {α : Type} (stage : Stage) (s : Faulty σ) (refused : StoreError → α)
    (run : Faulty σ → α × Faulty σ) : α × Faulty σ :=
  match s.faults stage with
  | 0 => run s
  | n + 1 => (refused stage.failure, s.demand stage n)

/-- A store behind failures and gates. -/
def store (S : Store σ τ) : Store (Faulty σ) (Gated τ) where
  name := S.name
  start s := s.attempt .begin .error fun s =>
    match S.start s.inner with
    | (.ok t, inner) => (.ok ⟨t, s.offered⟩, { s with inner := inner, offered := none })
    | (.error e, inner) => (.error e, { s with inner := inner })
  insert events t s :=
    let ((result, t), s) := s.attempt .insert (fun e => (.error e, t)) fun s =>
      let (result, inner, contents) := S.insert events t.inner s.inner
      ((result, { t with inner := inner }), { s with inner := contents })
    (result, t, s)
  deleteBefore c cutoff t s :=
    let ((result, t), s) := s.attempt .delete (fun e => (.error e, t)) fun s =>
      let (result, inner, contents) := S.deleteBefore c cutoff t.inner s.inner
      ((result, { t with inner := inner }), { s with inner := contents })
    (result, t, s)
  commit t s := s.attempt .commit .error fun s =>
    let (result, inner) := S.commit t.inner s.inner
    (result, { s with inner := inner })
  rollback t s := s.attempt .rollback .error fun s =>
    let (result, inner) := S.rollback t.inner s.inner
    (result, { s with inner := inner })
  ready t s := s.isOpen t && S.ready t.inner s.inner

end Faulty

end AuditTrail
