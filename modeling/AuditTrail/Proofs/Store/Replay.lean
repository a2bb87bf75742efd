import AuditTrail.Proofs.Store.Rows

/-
  Going through staged operations. Each one removes some events and adds some (`events_apply`), so
  what is left of all events that were stored or added (`Archive.gathered`) is some of them
  (`survivors_sublist`). All that have a property are left exactly if no operation strikes one of
  them after it has come (`countP_survivors_iff`).
-/
namespace AuditTrail

/-- What is true of every member of a list, with those before and behind it. -/
theorem forall_split_cons {α : Type} {P : List α → α → List α → Prop} {x : α} {xs : List α} :
    (∀ before y after, x :: xs = before ++ y :: after → P before y after) ↔
      P [] x xs ∧ ∀ before y after, xs = before ++ y :: after → P (x :: before) y after := by
  constructor
  · intro h
    exact ⟨h [] x xs rfl, fun before y after heq => h (x :: before) y after (by rw [heq]; rfl)⟩
  · rintro ⟨hfirst, hrest⟩ before y after heq
    cases before with
    | nil =>
      cases heq
      exact hfirst
    | cons z before =>
      obtain ⟨rfl, htail⟩ := List.cons.inj heq
      exact hrest before y after htail

/-- All members with a property are kept by a filter that drops none of them. -/
theorem countP_filter_iff {α : Type} (p drop : α → Bool) (xs : List α) :
    (xs.filter fun x => !drop x).countP p = xs.countP p ↔
      ∀ x ∈ xs, drop x = true → p x = false := by
  have hsplit : xs.countP p =
      (xs.filter fun x => !drop x).countP p + (xs.filter drop).countP p := by
    rw [List.countP_eq_countP_filter_add xs p fun x => !drop x]
    simp
  have hdropped : (xs.filter drop).countP p = 0 ↔ ∀ x ∈ xs, drop x = true → p x = false := by
    simp [List.countP_eq_zero, List.mem_filter]
  rw [← hdropped]
  omega

/-- All events that have been stored once some operations are gone through, if none is removed. -/
def Archive.gathered (a : Archive) (ops : Staged) : List EventRecord :=
  a.events ++ ops.flatMap (·.inserted)

namespace StagedOp

/-- Whether an operation removes an event that is there. -/
def strikes : StagedOp → EventRecord → Bool
  | .insert _, _ => false
  | .delete c cutoff, e => e.isBefore c cutoff

theorem events_apply (a : Archive) (op : StagedOp) :
    (apply a op).events = (a.events.filter fun e => !op.strikes e) ++ op.inserted := by
  cases op with
  | insert events =>
    have hall : (a.events.filter fun e => !(insert events).strikes e) = a.events :=
      List.filter_eq_self.mpr fun _ _ => rfl
    rw [hall]
    exact Archive.events_insert events a
  | delete c cutoff => exact (List.append_nil _).symm

theorem length_apply (a : Archive) (op : StagedOp) :
    (apply a op).events.length + a.events.countP op.strikes =
      a.events.length + op.inserted.length := by
  have hsplit := List.length_eq_countP_add_countP op.strikes (l := a.events)
  have hleft : (a.events.filter fun e => !op.strikes e).length =
      a.events.countP fun e => decide ¬op.strikes e = true := by
    rw [← List.countP_eq_length_filter]
    simp
  rw [events_apply, List.length_append, hleft]
  omega

variable {a : Archive} {ops : Staged}

theorem survivors_sublist (a : Archive) (ops : Staged) :
    (ops.foldl apply a).events.Sublist (a.gathered ops) := by
  induction ops generalizing a with
  | nil => exact (List.append_nil a.events).symm ▸ List.Sublist.refl a.events
  | cons op ops ih =>
    refine (ih (apply a op)).trans ?_
    unfold Archive.gathered
    rw [events_apply, List.append_assoc, List.flatMap_cons]
    exact List.filter_sublist.append (List.Sublist.refl _)

/-- No operation strikes an event with a property that has come before it. -/
def Spare (p : EventRecord → Bool) (a : Archive) (ops : Staged) : Prop :=
  ∀ before op after, ops = before ++ op :: after →
    ∀ e ∈ a.gathered before, op.strikes e = true → p e = false

theorem spare_cons {p : EventRecord → Bool} {op : StagedOp} :
    Spare p a (op :: ops) ↔
      (∀ e ∈ a.events, op.strikes e = true → p e = false) ∧ Spare p (apply a op) ops := by
  unfold Spare
  rw [forall_split_cons]
  have hnil : a.gathered [] = a.events := List.append_nil _
  rw [hnil]
  refine and_congr_right fun hfirst => forall_congr' fun before => forall_congr' fun later =>
    forall_congr' fun after => imp_congr_right fun _ => forall_congr' fun e => ?_
  have hmem : e ∈ a.gathered (op :: before) ↔
      e ∈ a.events ∨ e ∈ op.inserted ∨ e ∈ before.flatMap (·.inserted) := by
    simp [Archive.gathered]
  have hmem' : e ∈ (apply a op).gathered before ↔
      (e ∈ a.events ∧ op.strikes e = false) ∨ e ∈ op.inserted ∨
        e ∈ before.flatMap (·.inserted) := by
    simp [Archive.gathered, events_apply]
  rw [hmem, hmem']
  constructor
  · rintro h (⟨he, -⟩ | he)
    · exact h (.inl he)
    · exact h (.inr he)
  · rintro h (he | he) hlater
    · cases hstruck : op.strikes e with
      | true => exact hfirst e he hstruck
      | false => exact h (.inl ⟨he, hstruck⟩) hlater
    · exact h (.inr he) hlater

/-- All events with a property are left exactly if none of them is struck. -/
theorem countP_survivors_iff (p : EventRecord → Bool) :
    (ops.foldl apply a).events.countP p = (a.gathered ops).countP p ↔ Spare p a ops := by
  induction ops generalizing a with
  | nil =>
    have hnil : a.gathered [] = a.events := List.append_nil _
    rw [hnil]
    exact iff_of_true rfl fun before op after heq => absurd heq (by simp)
  | cons op ops ih =>
    have hleft := (survivors_sublist (apply a op) ops).countP_le (p := p)
    have hkept := (List.filter_sublist (p := fun e => !op.strikes e)
      (l := a.events)).countP_le (p := p)
    have happly : (apply a op).events.countP p =
        (a.events.filter fun e => !op.strikes e).countP p + op.inserted.countP p := by
      rw [events_apply, List.countP_append]
    rw [spare_cons, ← ih, ← countP_filter_iff, List.foldl_cons]
    unfold Archive.gathered at hleft ⊢
    rw [List.countP_append] at hleft ⊢
    rw [List.countP_append, List.flatMap_cons, List.countP_append]
    omega

end StagedOp

/-- What is said to be deleted is whatever of all events that came is from before the time. -/
theorem MemoryStore.countBefore_gathered (c : Category) (cutoff : Timestamp) (staged : Staged)
    (s : MemoryStore) : s.countBefore c cutoff staged =
      (s.archive.gathered staged).countP (StagedOp.delete c cutoff).strikes :=
  List.countP_append.symm

end AuditTrail
