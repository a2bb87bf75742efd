import AuditTrail.Proofs.Store.Trace
import AuditTrail.Store.Tables

/-
  Stores in use: transactions made one after the other on a store behind failures. A transaction is
  any sequence of calls and an end (`Session`); a call that is refused does not keep the later ones
  from being made. Beside the store it is kept which calls of committed transactions have reached it
  (`InUse.done`).

  Of the store it is relied on that an open transaction shows what the stored contents would become,
  and that a commit makes them so (`Store.Stages`): the store in memory goes through what was
  staged, the tables are worked on in a copy. Then what is stored is what the calls in `done` make
  of the contents at the start (`InUse.run_follows`), and a transaction that is not committed
  changes nothing (`Session.conduct_spec`).
-/
namespace AuditTrail

variable {σ τ κ : Type}

/-! ## Stores -/

/-- A transaction shows the contents as its calls have changed them so far; a commit that succeeds
stores what the transaction shows, and nothing else changes what is stored. -/
structure Store.Stages (S : Store σ τ) (contents : σ → κ) (shown : τ → σ → κ)
    (effect : κ → StagedOp → κ) : Prop extends S.ChangesByCommit contents where
  started {s s' : σ} {t : τ} : S.start s = (.ok t, s') → shown t s' = contents s
  inserts (events : List EventRecord) (t : τ) (s : σ) :
    shown (S.insert events t s).2.1 (S.insert events t s).2.2 = effect (shown t s) (.insert events)
  deletes (c : Category) (cutoff : Timestamp) (t : τ) (s : σ) :
    shown (S.deleteBefore c cutoff t s).2.1 (S.deleteBefore c cutoff t s).2.2 =
      effect (shown t s) (.delete c cutoff)
  commits {t : τ} {s s' : σ} : S.commit t s = (.ok (), s') → contents s' = shown t s

/-- The store in memory shows what the staged operations would leave. -/
theorem MemoryStore.stages : MemoryStore.store.Stages MemoryStore.archive
    (fun staged s => staged.foldl StagedOp.apply s.archive) StagedOp.apply where
  toChangesByCommit := MemoryStore.changesByCommit
  started h := by
    simp only [store, Prod.mk.injEq, Except.ok.injEq] at h
    rw [← h.1, ← h.2]
    rfl
  inserts events staged s := List.foldl_append
  deletes c cutoff staged s := List.foldl_append
  commits h := by
    simp only [store, Prod.mk.injEq] at h
    rw [← h.2]

namespace Tables

/-- What a call leaves in the tables, refused or not. -/
def apply (t : Tables) : StagedOp → Tables
  | .insert events => ((events.forM insertEvent).run.run t).2
  | .delete c cutoff => (t.deleteBefore c cutoff.toMicros).2

/-- A transaction on the tables shows the copy it works on. -/
theorem stages : Tables.store.Stages id (fun work _ => work) apply where
  start _ := rfl
  insert _ _ _ := rfl
  delete _ _ _ _ := rfl
  refused h := by simp [store] at h
  rollback _ _ := rfl
  started h := by
    simp only [store, Prod.mk.injEq, Except.ok.injEq] at h
    exact h.1.symm
  inserts _ _ _ := rfl
  deletes _ _ _ _ := rfl
  commits h := by
    simp only [store, Prod.mk.injEq] at h
    exact h.2.symm

end Tables

/-! ## Transactions -/

/-- A transaction: the calls that are made on it, and whether it is committed after them. -/
structure Session where
  calls : List StagedOp
  commits : Bool := true

/-- What is done with a store behind failures: a number of failures is asked for, or a transaction
is made. -/
inductive Deed where
  | demand (stage : Stage) (n : Nat)
  | transaction (x : Session)

/-- A store in use, with the calls of committed transactions that have reached it. -/
structure InUse (σ : Type) where
  store : Faulty σ
  done : List StagedOp := []

/-- The stage that a call is. -/
def StagedOp.stage : StagedOp → Stage
  | .insert _ => .insert
  | .delete _ _ => .delete

namespace Faulty

/-- Makes a call on a transaction, and whether it reaches the store behind the failures. -/
def call (S : Store σ τ) (op : StagedOp) (t : Gated τ) (s : Faulty σ) :
    Bool × Gated τ × Faulty σ :=
  match op with
  | .insert events => (s.faults .insert == 0, ((store S).insert events t s).2)
  | .delete c cutoff => (s.faults .delete == 0, ((store S).deleteBefore c cutoff t s).2)

/-- Makes calls one after the other; the ones that reach the store come with the result. -/
def callAll (S : Store σ τ) : List StagedOp → Gated τ → Faulty σ →
    List StagedOp × Gated τ × Faulty σ
  | [], t, s => ([], t, s)
  | op :: ops, t, s =>
    let (reaches, t, s) := call S op t s
    let (reached, t, s) := callAll S ops t s
    (if reaches then op :: reached else reached, t, s)

end Faulty

/-- Makes a transaction, and whether it was committed. -/
def Session.conduct (S : Store σ τ) (x : Session) (u : InUse σ) : Bool × InUse σ :=
  match (Faulty.store S).start u.store with
  | (.error _, s) => (false, { u with store := s })
  | (.ok t, s) =>
    let (reached, t, s) := Faulty.callAll S x.calls t s
    if x.commits then
      match (Faulty.store S).commit t s with
      | (.ok (), s) => (true, ⟨s, u.done ++ reached⟩)
      | (.error _, s) => (false, { u with store := s })
    else (false, { u with store := ((Faulty.store S).rollback t s).2 })

namespace InUse

/-- Does one thing with a store. -/
def act (S : Store σ τ) (u : InUse σ) : Deed → InUse σ
  | .demand stage n => { u with store := u.store.demand stage n }
  | .transaction x => (x.conduct S u).2

/-- Does several things, one after the other. -/
def run (S : Store σ τ) (deeds : List Deed) (u : InUse σ) : InUse σ := deeds.foldl (act S) u

end InUse

/-! ## What is stored -/

section

variable {S : Store σ τ} {contents : σ → κ} {shown : τ → σ → κ} {effect : κ → StagedOp → κ}

namespace Faulty

theorem call_spec (hS : S.Stages contents shown effect) (op : StagedOp) (t : Gated τ)
    (s : Faulty σ) :
    contents (call S op t s).2.2.inner = contents s.inner ∧
      shown (call S op t s).2.1.inner (call S op t s).2.2.inner =
        if (call S op t s).1 then effect (shown t.inner s.inner) op else shown t.inner s.inner := by
  cases op with
  | insert events =>
    refine ⟨(changesByCommit hS.toChangesByCommit).insert events t s, ?_⟩
    cases hfaults : s.faults .insert with
    | zero =>
      simp only [call, store, attempt, hfaults]
      exact hS.inserts events t.inner s.inner
    | succ n =>
      simp only [call, store, attempt, hfaults]
      rfl
  | delete c cutoff =>
    refine ⟨(changesByCommit hS.toChangesByCommit).delete c cutoff t s, ?_⟩
    cases hfaults : s.faults .delete with
    | zero =>
      simp only [call, store, attempt, hfaults]
      exact hS.deletes c cutoff t.inner s.inner
    | succ n =>
      simp only [call, store, attempt, hfaults]
      rfl

/-- A transaction shows what the calls that reached the store have made of the contents. -/
theorem callAll_spec (hS : S.Stages contents shown effect) (ops : List StagedOp) (t : Gated τ)
    (s : Faulty σ) :
    (callAll S ops t s).1.Sublist ops ∧
      contents (callAll S ops t s).2.2.inner = contents s.inner ∧
      shown (callAll S ops t s).2.1.inner (callAll S ops t s).2.2.inner =
        (callAll S ops t s).1.foldl effect (shown t.inner s.inner) := by
  induction ops generalizing t s with
  | nil => exact ⟨.refl [], rfl, rfl⟩
  | cons op ops ih =>
    obtain ⟨hcontents, hshown⟩ := call_spec hS op t s
    obtain ⟨hreached, hcontents', hshown'⟩ := ih (call S op t s).2.1 (call S op t s).2.2
    rw [callAll]
    refine ⟨?_, hcontents'.trans hcontents, ?_⟩
    · dsimp only
      split
      · exact hreached.cons_cons op
      · exact hreached.cons op
    · refine hshown'.trans ?_
      rw [hshown]
      dsimp only
      split <;> rfl

/-- A transaction that is begun shows what is stored. -/
theorem start_spec (hS : S.Stages contents shown effect) {s s' : Faulty σ} {t : Gated τ}
    (h : (store S).start s = (.ok t, s')) :
    contents s'.inner = contents s.inner ∧ shown t.inner s'.inner = contents s.inner := by
  have hcontents := (changesByCommit hS.toChangesByCommit).start s
  rw [h] at hcontents
  refine ⟨hcontents, ?_⟩
  simp only [store, attempt] at h
  split at h
  next =>
    split at h
    next t' inner hstart =>
      simp only [Prod.mk.injEq, Except.ok.injEq] at h
      obtain ⟨rfl, rfl⟩ := h
      exact hS.started hstart
    next => simp at h
  next => simp at h

theorem commit_spec (hS : S.Stages contents shown effect) {s s' : Faulty σ} {t : Gated τ}
    (h : (store S).commit t s = (.ok (), s')) :
    contents s'.inner = shown t.inner s.inner := by
  simp only [store, attempt] at h
  split at h
  next =>
    simp only [Prod.mk.injEq] at h
    obtain ⟨hresult, rfl⟩ := h
    exact hS.commits (Prod.ext hresult rfl)
  next => simp at h

end Faulty

/-- A transaction that was committed has changed what is stored by those of its calls that reached
the store; one that was not has changed nothing. -/
theorem Session.conduct_spec (hS : S.Stages contents shown effect) (x : Session) (u : InUse σ) :
    ((x.conduct S u).1 = true ∧ x.commits = true ∧ ∃ reached : List StagedOp,
        reached.Sublist x.calls ∧ (x.conduct S u).2.done = u.done ++ reached ∧
        contents (x.conduct S u).2.store.inner = reached.foldl effect (contents u.store.inner)) ∨
      ((x.conduct S u).1 = false ∧ (x.conduct S u).2.done = u.done ∧
        contents (x.conduct S u).2.store.inner = contents u.store.inner) := by
  have hfaulty := Faulty.changesByCommit hS.toChangesByCommit
  rw [conduct]
  cases hstart : (Faulty.store S).start u.store with | mk result s =>
  cases result with
  | error e =>
    have hs := hfaulty.start u.store
    rw [hstart] at hs
    exact .inr ⟨rfl, rfl, hs⟩
  | ok t =>
    obtain ⟨hs, hshown⟩ := Faulty.start_spec hS hstart
    obtain ⟨hreached, hs', hshown'⟩ := Faulty.callAll_spec hS x.calls t s
    dsimp only
    cases hcommits : x.commits with
    | false =>
      rw [if_neg Bool.false_ne_true]
      exact .inr ⟨rfl, rfl, (hfaulty.rollback _ _).trans (hs'.trans hs)⟩
    | true =>
      rw [if_pos rfl]
      cases hcommit : (Faulty.store S).commit (Faulty.callAll S x.calls t s).2.1
        (Faulty.callAll S x.calls t s).2.2 with | mk result s'' =>
      cases result with
      | error e => exact .inr ⟨rfl, rfl, (hfaulty.refused hcommit).trans (hs'.trans hs)⟩
      | ok _ =>
        refine .inl ⟨rfl, rfl, _, hreached, rfl, ?_⟩
        rw [← hshown, ← hshown']
        exact Faulty.commit_spec hS hcommit

/-- A transaction that is not committed, or that inserts nothing, keeps all of the contents that
calls without events keep. -/
theorem Session.conduct_keeps {ρ : Type} {kept : κ → ρ} (hS : S.Stages contents shown effect)
    (hkept : ∀ k op, op.inserted = [] → kept (effect k op) = kept k) (x : Session) (u : InUse σ)
    (h : (x.conduct S u).1 = false ∨ ∀ op ∈ x.calls, op.inserted = []) :
    kept (contents (x.conduct S u).2.store.inner) = kept (contents u.store.inner) := by
  have hspec := x.conduct_spec hS u
  obtain ⟨hcommitted, -, reached, hreached, -, hstored⟩ | ⟨-, -, hstored⟩ := hspec
  · have hnone := h.resolve_left (hcommitted ▸ Bool.noConfusion)
    rw [hstored]
    have hfold : ∀ ops : List StagedOp, (∀ op ∈ ops, op.inserted = []) →
        ∀ k, kept (ops.foldl effect k) = kept k := by
      intro ops
      induction ops with
      | nil => exact fun _ _ => rfl
      | cons op ops ih =>
        intro hops k
        rw [List.foldl_cons, ih fun op' hop' => hops op' (List.mem_cons_of_mem op hop')]
        exact hkept k op (hops op List.mem_cons_self)
    exact hfold reached (fun op hop => hnone op (hreached.subset hop)) _
  · rw [hstored]

/-- Steps each of which adds to a list, one after the other. -/
theorem prefix_foldl {α β γ : Type} {f : α → List γ} {step : α → β → α}
    (h : ∀ u d, f u <+: f (step u d)) (ds : List β) (u : α) : f u <+: f (ds.foldl step u) := by
  induction ds generalizing u with
  | nil => exact List.prefix_rfl
  | cons d ds ih => exact (h u d).trans (ih (step u d))

namespace InUse

/-- What is stored is what the calls of committed transactions that reached the store have made of
what was there at first. -/
def Follows (contents : σ → κ) (effect : κ → StagedOp → κ) (first : κ) (u : InUse σ) : Prop :=
  contents u.store.inner = u.done.foldl effect first

theorem act_follows (hS : S.Stages contents shown effect) {first : κ} {u : InUse σ}
    (hu : u.Follows contents effect first) (d : Deed) :
    (u.act S d).Follows contents effect first := by
  cases d with
  | demand stage n => exact hu
  | transaction x =>
    have hspec := x.conduct_spec hS u
    obtain ⟨-, -, reached, -, hdone, hstored⟩ | ⟨-, hdone, hstored⟩ := hspec
    · unfold Follows
      rw [act, hstored, hdone, List.foldl_append, hu]
    · unfold Follows
      rw [act, hstored, hdone, hu]

theorem run_follows (hS : S.Stages contents shown effect) (deeds : List Deed) {first : κ}
    {u : InUse σ} (hu : u.Follows contents effect first) :
    (u.run S deeds).Follows contents effect first := by
  induction deeds generalizing u with
  | nil => exact hu
  | cons d deeds ih => exact ih (act_follows hS hu d)

/-- What is done later comes after what was done before. -/
theorem done_prefix_act (hS : S.Stages contents shown effect) (u : InUse σ) (d : Deed) :
    u.done <+: (u.act S d).done := by
  cases d with
  | demand stage n => exact List.prefix_rfl
  | transaction x =>
    have hspec := x.conduct_spec hS u
    obtain ⟨-, -, reached, -, hdone, -⟩ | ⟨-, hdone, -⟩ := hspec
    · exact ⟨reached, hdone.symm⟩
    · exact ⟨[], by rw [List.append_nil]; exact hdone.symm⟩

end InUse

end

/-! ## The store in memory and the tables in use -/

/-- What is done with the store in memory; besides, events can be added to it outside of
transactions. -/
inductive MemoryDeed where
  | deed (d : Deed)
  | seed (events : List EventRecord)

namespace MemoryStore

/-- Does one thing with the store in memory. -/
def act (u : InUse MemoryStore) : MemoryDeed → InUse MemoryStore
  | .deed d => u.act store d
  | .seed events =>
    ⟨{ u.store with inner := u.store.inner.seed events }, u.done ++ [.insert events]⟩

/-- The store in memory after several things, empty at first. -/
def after (deeds : List MemoryDeed) : InUse MemoryStore := deeds.foldl act ⟨{ inner := {} }, []⟩

theorem act_follows {u : InUse MemoryStore} (hu : u.Follows archive StagedOp.apply {})
    (d : MemoryDeed) : (act u d).Follows archive StagedOp.apply {} := by
  cases d with
  | deed d => exact InUse.act_follows stages hu d
  | seed events =>
    unfold InUse.Follows at hu ⊢
    rw [act, List.foldl_append, ← hu]
    rfl

theorem after_follows (deeds : List MemoryDeed) :
    (after deeds).Follows archive StagedOp.apply {} := by
  have hrun : ∀ u : InUse MemoryStore, u.Follows archive StagedOp.apply {} →
      (deeds.foldl act u).Follows archive StagedOp.apply {} := by
    intro u hu
    induction deeds generalizing u with
    | nil => exact hu
    | cons d deeds ih => exact ih _ (act_follows hu d)
  exact hrun _ rfl

end MemoryStore

namespace Tables

/-- The tables after several things, empty at first. -/
def after (deeds : List Deed) : InUse Tables := InUse.run store deeds ⟨{ inner := {} }, []⟩

theorem after_follows (deeds : List Deed) : (after deeds).Follows id apply {} :=
  InUse.run_follows stages deeds rfl

end Tables

end AuditTrail
