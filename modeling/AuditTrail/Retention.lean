import AuditTrail.Journal
import AuditTrail.Settings
import AuditTrail.Store.Basic

/-
  Sweeping out expired events: of every category with a greatest age, the events created before the
  time that lies that age back. Where that time cannot be represented nothing is deleted.
-/
namespace AuditTrail

/-- How many events of each category a sweep deleted. -/
structure Swept where
  request : Nat := 0
  model : Nat := 0
  unspecified : Nat := 0
  deriving DecidableEq, Repr

namespace Swept

def count (s : Swept) : Category → Nat
  | .request => s.request
  | .model => s.model
  | .unspecified => s.unspecified

def set (c : Category) (n : Nat) (s : Swept) : Swept :=
  match c with
  | .request => { s with request := n }
  | .model => { s with model := n }
  | .unspecified => { s with unspecified := n }

def total (s : Swept) : Nat := s.request + s.model + s.unspecified

def hasDeletions (s : Swept) : Bool := 0 < s.total

theorem count_set (c d : Category) (n : Nat) (s : Swept) :
    (s.set c n).count d = if d = c then n else s.count d := by
  cases c <;> cases d <;> rfl

end Swept

/-- The time before which events of a category are expired, if any are. -/
def Config.cutoff? (config : Config) (now : Timestamp) (c : Category) : Option Timestamp :=
  (config.maxAge c).bind now.minus?

/-- Counts what a sweep deleted of a category. -/
def Journal.countDeleted (c : Category) (n : Nat) (j : Journal) : Journal :=
  if n = 0 then j else j.count "autolog_retention_deleted_total" [("category", c.name)] n

/-- Stages the deletion of the expired events of some categories. -/
def sweepCategories {σ τ : Type} (S : Store σ τ) (config : Config) (now : Timestamp) :
    List Category → Swept → τ → σ → Journal → Except StoreError Swept × τ × σ × Journal
  | [], swept, t, s, j => (.ok swept, t, s, j)
  | c :: rest, swept, t, s, j =>
    match config.cutoff? now c with
    | none => sweepCategories S config now rest swept t s j
    | some cutoff =>
      match S.deleteBefore c cutoff t s with
      | (.error e, t, s) => (.error e, t, s, j)
      | (.ok n, t, s) => sweepCategories S config now rest (swept.set c n) t s (j.countDeleted c n)

/-- Stages the deletion of all expired events. -/
def sweep {σ τ : Type} (S : Store σ τ) (config : Config) (now : Timestamp) (t : τ) (s : σ)
    (j : Journal) : Except StoreError Swept × τ × σ × Journal :=
  sweepCategories S config now Category.all {} t s j

end AuditTrail
