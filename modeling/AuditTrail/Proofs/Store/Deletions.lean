import AuditTrail.Proofs.Store.Agreement

/-
  What the deletions of a transaction are said to delete. The store in memory answers a deletion
  with the number of all events from before its time that were stored or inserted earlier
  (`answers`), whatever was staged to be deleted by then, but goes through what is staged in order.
  So a deletion removes as many events as was said exactly if no earlier one of the transaction has
  struck one of them (`counted_iff`), and over the whole transaction what was said makes up what is
  gone exactly if that is true of every deletion (`reported_iff`).
-/
namespace AuditTrail

variable {σ τ : Type}

/-! ## Transactions of any calls -/

namespace Store

/-- Makes a call on a transaction. -/
def stage (S : Store σ τ) : StagedOp → τ → σ → Except StoreError Nat × τ × σ
  | .insert events => S.insert events
  | .delete c cutoff => S.deleteBefore c cutoff

/-- Makes calls on a transaction one after the other. -/
def stageAll (S : Store σ τ) : List StagedOp → τ → σ → List (Except StoreError Nat) × τ × σ
  | [], t, s => ([], t, s)
  | op :: ops, t, s =>
    let (answer, t, s) := S.stage op t s
    let (answers, t, s) := stageAll S ops t s
    (answer :: answers, t, s)

/-- Starts a transaction, makes calls on it and commits it: what the calls answered, and how the
commit went. -/
def transact (S : Store σ τ) (ops : List StagedOp) (s : σ) :
    Except StoreError (List (Except StoreError Nat) × Except StoreError Unit) × σ :=
  match S.start s with
  | (.error e, s) => (.error e, s)
  | (.ok t, s) =>
    let (answers, t, s) := S.stageAll ops t s
    let (ended, s) := S.commit t s
    (.ok (answers, ended), s)

end Store

namespace StagedOp

/-- An event is from before the times of two deletions that were made after it had come. -/
def StruckTwice (a : Archive) (ops : Staged) : Prop :=
  ∃ before first between second after, ops = before ++ first :: (between ++ second :: after) ∧
    ∃ e ∈ a.gathered before, first.strikes e = true ∧ second.strikes e = true

/-- Every deletion answers how many events it removes when its turn comes. -/
def CountsEach (a : Archive) (ops : Staged) (answers : List (Except StoreError Nat)) : Prop :=
  ∀ before c cutoff after, ops = before ++ .delete c cutoff :: after →
    ∃ n, answers[before.length]? = some (.ok n) ∧
      ((before ++ [.delete c cutoff]).foldl apply a).events.length + n =
        (before.foldl apply a).events.length

/-- What the deletions answered, taken together. -/
def reported : Staged → List (Except StoreError Nat) → Nat
  | .delete _ _ :: ops, .ok n :: answers => n + reported ops answers
  | _ :: ops, _ :: answers => reported ops answers
  | _, _ => 0

theorem not_struckTwice_iff {a : Archive} {ops : Staged} : ¬ StruckTwice a ops ↔
    ∀ before op after, ops = before ++ op :: after → Spare op.strikes a before := by
  constructor
  · rintro h _ second after rfl before first between rfl e he hfirst
    refine Bool.eq_false_iff.mpr fun hsecond => h ?_
    exact ⟨before, first, between, second, after, by simp, e, he, hfirst, hsecond⟩
  · rintro h ⟨before, first, between, second, after, rfl, e, he, hfirst, hsecond⟩
    have hspare := h (before ++ first :: between) second after (by simp)
    rw [hspare before first between rfl e he hfirst] at hsecond
    cases hsecond

end StagedOp

/-! ## The store in memory -/

namespace MemoryStore

open StagedOp

variable {s : MemoryStore} {staged ops : Staged}

/-- What a call is answered after what is staged. -/
def answer (s : MemoryStore) (staged : Staged) : StagedOp → Nat
  | .insert events => events.length
  | .delete c cutoff => s.countBefore c cutoff staged

/-- What calls are answered after what is staged. -/
def answers (s : MemoryStore) : Staged → List StagedOp → List (Except StoreError Nat)
  | _, [] => []
  | staged, op :: ops => .ok (s.answer staged op) :: answers s (staged ++ [op]) ops

theorem stageAll_memory :
    store.stageAll ops staged s = (s.answers staged ops, staged ++ ops, s) := by
  induction ops generalizing staged with
  | nil => exact congrArg (fun t => ([], t, s)) (List.append_nil staged).symm
  | cons op ops ih =>
    have hop : store.stage op staged s = (.ok (s.answer staged op), staged ++ [op], s) := by
      cases op <;> rfl
    rw [Store.stageAll, hop]
    dsimp only
    rw [ih, List.append_assoc]
    rfl

theorem answers_getElem? {before after : Staged} {op : StagedOp} :
    (s.answers staged (before ++ op :: after))[before.length]? =
      some (.ok (s.answer (staged ++ before) op)) := by
  induction before generalizing staged with
  | nil =>
    rw [List.append_nil]
    rfl
  | cons first before ih =>
    have hrest : (s.answers (staged ++ [first]) (before ++ op :: after))[before.length]? = _ := ih
    rw [List.append_assoc] at hrest
    exact hrest

/-- A deletion answers how many events it removes exactly if none of those that it counts has been
struck before. -/
theorem counted_iff (c : Category) (cutoff : Timestamp) (before : Staged) :
    ((before ++ [StagedOp.delete c cutoff]).foldl apply s.archive).events.length +
        s.countBefore c cutoff before = (before.foldl apply s.archive).events.length ↔
      Spare (StagedOp.delete c cutoff).strikes s.archive before := by
  have hlength := length_apply (before.foldl apply s.archive) (StagedOp.delete c cutoff)
  rw [← countP_survivors_iff, countBefore_gathered, List.foldl_append, List.foldl_cons,
    List.foldl_nil]
  rw [inserted, List.length_nil] at hlength
  omega

/-- Every deletion is answered rightly exactly if nothing is struck twice. -/
theorem countsEach_iff :
    CountsEach s.archive ops (s.answers [] ops) ↔ ¬ StruckTwice s.archive ops := by
  rw [not_struckTwice_iff]
  constructor
  · rintro h before op after rfl
    cases op with
    | insert events => exact fun _ _ _ _ _ _ _ => rfl
    | delete c cutoff =>
      obtain ⟨n, hn, hcount⟩ := h before c cutoff after rfl
      cases answers_getElem?.symm.trans hn
      exact (counted_iff c cutoff before).mp hcount
  · rintro h before c cutoff after rfl
    exact ⟨_, answers_getElem?, (counted_iff c cutoff before).mpr (h before _ after rfl)⟩

theorem reported_cons (op : StagedOp) :
    reported (op :: ops) (s.answers staged (op :: ops)) =
      (s.archive.gathered staged).countP op.strikes +
        reported ops (s.answers (staged ++ [op]) ops) := by
  cases op with
  | insert events =>
    have hnone : (s.archive.gathered staged).countP (insert events).strikes = 0 :=
      List.countP_eq_zero.mpr fun _ _ => Bool.false_ne_true
    rw [hnone, Nat.zero_add]
    rfl
  | delete c cutoff =>
    rw [← countBefore_gathered]
    rfl

/-- From what is staged on, the deletions are said to remove at least what they do, and exactly that
if none of them counts an event that has been struck before it. -/
theorem reported_from (s : MemoryStore) (staged ops : Staged) :
    (staged.foldl apply s.archive).events.length + (ops.flatMap (·.inserted)).length ≤
        reported ops (s.answers staged ops) +
          ((staged ++ ops).foldl apply s.archive).events.length ∧
      (reported ops (s.answers staged ops) +
            ((staged ++ ops).foldl apply s.archive).events.length =
          (staged.foldl apply s.archive).events.length + (ops.flatMap (·.inserted)).length ↔
        ∀ before op after, ops = before ++ op :: after →
          Spare op.strikes s.archive (staged ++ before)) := by
  induction ops generalizing staged with
  | nil =>
    rw [List.append_nil]
    exact ⟨Nat.le_add_left _ _, iff_of_true (Nat.zero_add _) fun _ _ _ heq => by simp at heq⟩
  | cons op ops ih =>
    obtain ⟨hle, hiff⟩ := ih (staged ++ [op])
    have hnext : (staged ++ [op]).foldl apply s.archive =
        apply (staged.foldl apply s.archive) op := List.foldl_append
    have hlength := length_apply (staged.foldl apply s.archive) op
    have hcounted := (survivors_sublist s.archive staged).countP_le (p := op.strikes)
    simp only [hnext, List.append_assoc, List.singleton_append] at hle hiff
    rw [forall_split_cons, List.append_nil, ← hiff, ← countP_survivors_iff, reported_cons,
      List.flatMap_cons, List.length_append]
    omega

/-- What the deletions are said to remove makes up what is gone exactly if nothing is struck
twice. -/
theorem reported_iff :
    reported ops (s.answers [] ops) + (ops.foldl apply s.archive).events.length =
        s.archive.events.length + (ops.flatMap (·.inserted)).length ↔
      ¬ StruckTwice s.archive ops := by
  rw [not_struckTwice_iff]
  exact (reported_from s [] ops).2

/-- **What deletions answer.** Events are inserted and deleted in one transaction on the store in
memory, in any order and whatever the store holds, and the transaction is committed. No call is
refused, and every deletion answers the number of all events from before its time that were stored
or inserted before it. That is the number of events that it removes when its turn comes, for all
deletions, exactly if no event is from before the times of two deletions made after it had come; and
in the same case only do all answers together make up what was stored or inserted and is gone. -/
theorem deletions_counted_iff (s : MemoryStore) (ops : Staged) :
    ∃ answers s', store.transact ops s = (.ok (answers, .ok ()), s') ∧
      s'.archive = ops.foldl apply s.archive ∧
      (∀ before c cutoff after, ops = before ++ .delete c cutoff :: after →
        answers[before.length]? = some (.ok ((s.archive.gathered before).countP
          (·.isBefore c cutoff)))) ∧
      (CountsEach s.archive ops answers ↔ ¬ StruckTwice s.archive ops) ∧
      (reported ops answers + s'.archive.events.length =
          s.archive.events.length + (ops.flatMap (·.inserted)).length ↔
        ¬ StruckTwice s.archive ops) := by
  obtain ⟨begun, hbegun⟩ : ∃ begun, begun = { s with started := s.started + 1 } := ⟨_, rfl⟩
  have harchive : begun.archive = s.archive := by
    rw [hbegun]
  refine ⟨begun.answers [] ops, (store.commit ops begun).2, ?_, ?_, ?_, ?_, ?_⟩
  · have hstart : store.start s = (.ok [], begun) := by
      rw [hbegun]
      rfl
    rw [Store.transact, hstart]
    dsimp only
    rw [stageAll_memory]
    rfl
  · rw [← harchive]
    rfl
  · rintro before c cutoff after rfl
    rw [answers_getElem?, answer, countBefore_gathered, harchive]
    rfl
  · rw [← harchive]
    exact countsEach_iff
  · rw [← harchive]
    exact reported_iff

/-- A deletion that is made twice is said twice to have deleted the same event. -/
theorem deletions_counted_iff_repeated :
    let s : MemoryStore := { archive := { events := [logged 1 8] } }
    let ops : Staged := [.delete .unspecified ⟨9, 0⟩, .delete .unspecified ⟨9, 0⟩]
    ∃ s', store.transact ops s = (.ok ([.ok 1, .ok 1], .ok ()), s') ∧ s'.archive.events = [] ∧
      ¬ CountsEach s.archive ops [.ok 1, .ok 1] ∧
      reported ops [.ok 1, .ok 1] + s'.archive.events.length ≠
        s.archive.events.length + (ops.flatMap (·.inserted)).length := by
  refine ⟨_, rfl, rfl, fun hcounts => ?_, by decide⟩
  obtain ⟨n, hn, hcount⟩ := hcounts [.delete .unspecified ⟨9, 0⟩] _ _ [] rfl
  cases hn
  revert hcount
  decide

end MemoryStore

end AuditTrail
