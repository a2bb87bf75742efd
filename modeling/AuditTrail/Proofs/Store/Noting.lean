import AuditTrail.Proofs.Handler.Projection
import AuditTrail.Proofs.Store.Trace

/-
  Everything that is asked of a store, also the start of a transaction that it refuses.
  `Store.noting` is a store that does what another one does and takes note of what it is asked and
  whether it grants that. `Transacted` is all that makes up one transaction for some events, which
  is either refused or begun, filled with these events and ended. It is one start, and if nothing is
  refused then the events are its only generation. `Noted.Begun` and `Noted.Ended` follow such a
  transaction from the contents before it.
-/
namespace AuditTrail

variable {σ τ : Type} {S : Store σ τ}

/-- Something asked of a store: a transaction, or a call on one. -/
inductive Ask where
  | start
  | call (c : StoreCall)
  deriving DecidableEq

namespace Ask

def isStart : Ask → Bool
  | .start => true
  | .call _ => false

def isDelete : Ask → Bool
  | .call (.delete _ _) => true
  | _ => false

/-- Whether this ends a transaction. -/
def isEnd : Ask → Bool
  | .start => false
  | .call c => c.ends

/-- The events that are to be inserted, if it is that what is asked. -/
def generation? : Ask → Option (List EventRecord)
  | .call (.insert events) => some events
  | _ => none

/-- Deletions and ends start nothing and insert nothing. -/
def IsPlain (ask : Ask) : Prop := ask.isStart = false ∧ ask.generation? = none

theorem isPlain_of_isDelete {ask : Ask} (h : ask.isDelete = true) : ask.IsPlain :=
  match ask, h with
  | .call (.delete _ _), _ => ⟨rfl, rfl⟩

theorem isPlain_of_isEnd {ask : Ask} (h : ask.isEnd = true) : ask.IsPlain :=
  match ask, h with
  | .call .commit, _ => ⟨rfl, rfl⟩
  | .call .rollback, _ => ⟨rfl, rfl⟩

end Ask

/-- Something asked, and whether it was granted. -/
structure Asked where
  ask : Ask
  granted : Bool
  deriving DecidableEq

/-- How many transactions were asked for. -/
def startsOf (asked : List Asked) : Nat := asked.countP (·.ask.isStart)

/-- What was to be inserted, in order. -/
def generationsOf (asked : List Asked) : List (List EventRecord) :=
  asked.filterMap (·.ask.generation?)

theorem startsOf_append (asked more : List Asked) :
    startsOf (asked ++ more) = startsOf asked + startsOf more :=
  List.countP_append

theorem generationsOf_append (asked more : List Asked) :
    generationsOf (asked ++ more) = generationsOf asked ++ generationsOf more :=
  List.filterMap_append

/-- All that makes up one transaction for some events: its start is refused, or the events are
inserted, something may be deleted, and it is committed or rolled back. -/
inductive Transacted (events : List EventRecord) : List Asked → Prop
  | refused : Transacted events [⟨.start, false⟩]
  | ended {ok : Bool} {deletions : List Asked} {last : Asked} :
      (∀ a ∈ deletions, a.ask.isDelete = true) → last.ask.isEnd = true →
        Transacted events
          (⟨.start, true⟩ :: ⟨.call (.insert events), ok⟩ :: (deletions ++ [last]))

namespace Transacted

variable {events : List EventRecord} {asked : List Asked}

theorem isPlain_of_mem {deletions : List Asked} {last : Asked}
    (hdeletions : ∀ a ∈ deletions, a.ask.isDelete = true) (hlast : last.ask.isEnd = true) :
    ∀ a ∈ deletions ++ [last], a.ask.IsPlain := by
  intro a ha
  rcases List.mem_append.mp ha with ha | ha
  · exact Ask.isPlain_of_isDelete (hdeletions a ha)
  · rw [List.mem_singleton.mp ha]
    exact Ask.isPlain_of_isEnd hlast

theorem starts (h : Transacted events asked) : startsOf asked = 1 := by
  cases h with
  | refused => rfl
  | @ended ok deletions last hdeletions hlast =>
    have hnone : (deletions ++ [last]).countP (·.ask.isStart) = 0 :=
      List.countP_eq_zero.mpr fun a ha =>
        Bool.eq_false_iff.mp (isPlain_of_mem hdeletions hlast a ha).1
    rw [startsOf, List.countP_cons_of_pos rfl, List.countP_cons_of_neg Bool.false_ne_true, hnone]

theorem generations (h : Transacted events asked) (hgranted : ∀ a ∈ asked, a.granted = true) :
    generationsOf asked = [events] := by
  cases h with
  | refused => cases hgranted _ List.mem_cons_self
  | @ended ok deletions last hdeletions hlast =>
    have hnone : generationsOf (deletions ++ [last]) = [] :=
      List.filterMap_eq_nil_iff.mpr fun a ha => (isPlain_of_mem hdeletions hlast a ha).2
    exact congrArg (events :: ·) hnone

end Transacted

/-! ## A store that takes note -/

/-- The contents of a store with what it was asked. -/
structure Noted (σ : Type) where
  inner : σ
  asked : List Asked := []

/-- The contents after something asked. -/
def Noted.note (ask : Ask) (granted : Bool) (inner : σ) (s : Noted σ) : Noted σ :=
  { inner := inner, asked := s.asked ++ [⟨ask, granted⟩] }

namespace Store

/-- A store that takes note of what it is asked. -/
def noting (S : Store σ τ) : Store (Noted σ) τ where
  name := S.name
  start s :=
    let (result, inner) := S.start s.inner
    (result, s.note .start result.isOk inner)
  insert events t s :=
    let (result, t, inner) := S.insert events t s.inner
    (result, t, s.note (.call (.insert events)) result.isOk inner)
  deleteBefore c cutoff t s :=
    let (result, t, inner) := S.deleteBefore c cutoff t s.inner
    (result, t, s.note (.call (.delete c cutoff)) result.isOk inner)
  commit t s :=
    let (result, inner) := S.commit t s.inner
    (result, s.note (.call .commit) result.isOk inner)
  rollback t s :=
    let (result, inner) := S.rollback t s.inner
    (result, s.note (.call .rollback) result.isOk inner)
  ready t s := S.ready t s.inner

/-- Notes are only kept beside what a store does. -/
theorem noting_projects (S : Store σ τ) : S.noting.Projects S Noted.inner id where
  name := rfl
  start s := by
    rw [Except.map_id]
    rfl
  insert _ _ _ := rfl
  delete _ _ _ _ := rfl
  commit _ _ := rfl
  rollback _ _ := rfl
  ready _ _ := rfl

theorem noting_start (s : Noted σ) :
    ∃ result inner, S.noting.start s = (result, s.note .start result.isOk inner) :=
  ⟨_, _, rfl⟩

theorem noting_insert (events : List EventRecord) (t : τ) (s : Noted σ) :
    ∃ result t' inner, S.noting.insert events t s =
      (result, t', s.note (.call (.insert events)) result.isOk inner) :=
  ⟨_, _, _, rfl⟩

theorem noting_deleteBefore (c : Category) (cutoff : Timestamp) (t : τ) (s : Noted σ) :
    ∃ result t' inner, S.noting.deleteBefore c cutoff t s =
      (result, t', s.note (.call (.delete c cutoff)) result.isOk inner) :=
  ⟨_, _, _, rfl⟩

theorem noting_commit (t : τ) (s : Noted σ) :
    ∃ result inner, S.noting.commit t s = (result, s.note (.call .commit) result.isOk inner) :=
  ⟨_, _, rfl⟩

theorem noting_rollback (t : τ) (s : Noted σ) :
    ∃ result inner, S.noting.rollback t s =
      (result, s.note (.call .rollback) result.isOk inner) :=
  ⟨_, _, rfl⟩

end Store

/-! ## One transaction -/

namespace Noted

/-- Since `s` a transaction was started and asked to insert some events and to delete others, which
was all granted or not. -/
def Begun (events : List EventRecord) (s : Noted σ) (ok : Bool) (s' : Noted σ) : Prop :=
  ∃ inserted deletions,
    s'.asked = s.asked ++ ⟨.start, true⟩ :: ⟨.call (.insert events), inserted⟩ :: deletions ∧
      (∀ a ∈ deletions, a.ask.isDelete = true) ∧ (inserted && deletions.all (·.granted)) = ok

/-- Since `s` one transaction for some events was asked for, which was all granted or not. -/
def Ended (events : List EventRecord) (s : Noted σ) (ok : Bool) (s' : Noted σ) : Prop :=
  ∃ asked, s'.asked = s.asked ++ asked ∧ Transacted events asked ∧ asked.all (·.granted) = ok

variable {events : List EventRecord} {s s' : Noted σ} {inner : σ} {ok granted : Bool}

theorem Begun.inserted (events : List EventRecord) (granted : Bool) (inner inner' : σ) :
    Begun events s granted
      ((s.note .start true inner).note (.call (.insert events)) granted inner') := by
  refine ⟨granted, [], ?_, List.forall_mem_nil _, Bool.and_true _⟩
  exact List.append_assoc _ _ _

theorem Begun.swept (h : Begun events s true s') {s'' : Noted σ} {deletions : List Asked}
    (hasked : s''.asked = s'.asked ++ deletions)
    (hdeletions : ∀ a ∈ deletions, a.ask.isDelete = true) :
    Begun events s (deletions.all (·.granted)) s'' := by
  obtain ⟨inserted, earlier, hbegun, hearlier, hgranted⟩ := h
  obtain ⟨rfl, hall⟩ := Bool.and_eq_true_iff.mp hgranted
  refine ⟨true, earlier ++ deletions, ?_, List.forall_mem_append.mpr ⟨hearlier, hdeletions⟩, ?_⟩
  · rw [hasked, hbegun, List.append_assoc]
    rfl
  · rw [List.all_append, hall]
    rfl

theorem Begun.ended (h : Begun events s ok s') {ask : Ask} (hask : ask.isEnd = true) :
    Ended events s (ok && granted) (s'.note ask granted inner) := by
  obtain ⟨inserted, deletions, hbegun, hdeletions, hgranted⟩ := h
  have htransacted : Transacted events (⟨.start, true⟩ :: ⟨.call (.insert events), inserted⟩ ::
      (deletions ++ [⟨ask, granted⟩])) := .ended hdeletions hask
  refine ⟨_, ?_, htransacted, ?_⟩
  · rw [Noted.note, hbegun, List.append_assoc]
    rfl
  · rw [List.all_cons, List.all_cons, List.all_append, ← Bool.and_assoc, ← Bool.and_assoc,
      Bool.true_and, hgranted]
    exact congrArg (ok && ·) (Bool.and_true granted)

theorem Ended.refused : Ended events s false (s.note .start false inner) :=
  ⟨_, rfl, .refused, rfl⟩

end Noted

/-- A sweep asks for deletions only, and has succeeded if all of them were granted. -/
theorem sweepCategories_noting (config : Config) (now : Timestamp) (cs : List Category)
    (swept : Swept) (t : τ) (s : Noted σ) (j : Journal) :
    ∃ deletions,
      (sweepCategories S.noting config now cs swept t s j).2.2.1.asked = s.asked ++ deletions ∧
      (∀ a ∈ deletions, a.ask.isDelete = true) ∧
      (sweepCategories S.noting config now cs swept t s j).1.isOk =
        deletions.all (·.granted) := by
  induction cs generalizing swept t s j with
  | nil => exact ⟨[], (List.append_nil _).symm, List.forall_mem_nil _, rfl⟩
  | cons c cs ih =>
    unfold sweepCategories
    cases config.cutoff? now c with
    | none => exact ih swept t s j
    | some cutoff =>
      obtain ⟨result, t', inner, hdelete⟩ := S.noting_deleteBefore c cutoff t s
      dsimp only
      rw [hdelete]
      cases result with
      | error e =>
        refine ⟨[⟨.call (.delete c cutoff), false⟩], rfl, fun a ha => ?_, rfl⟩
        rw [List.mem_singleton.mp ha]
        rfl
      | ok n =>
        obtain ⟨deletions, hasked, hdeletions, hok⟩ := ih (swept.set c n) t'
          (s.note (.call (.delete c cutoff)) true inner) (j.countDeleted c n)
        refine ⟨⟨.call (.delete c cutoff), true⟩ :: deletions, ?_, ?_, ?_⟩
        · refine hasked.trans ?_
          rw [Noted.note, List.append_assoc]
          rfl
        · exact List.forall_mem_cons.mpr ⟨rfl, hdeletions⟩
        · rw [List.all_cons, Bool.true_and]
          exact hok

end AuditTrail
