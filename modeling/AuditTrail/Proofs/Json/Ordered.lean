import AuditTrail.Json.Reader
import Mathlib.Data.String.Basic
import Mathlib.Data.List.Nodup
import Mathlib.Tactic.SplitIfs

/-
  The order of members. A record that was read from text has its members in the order of their keys
  and every key once (`Json.parseBytes_ordered`), since members are put in one by one and each keeps
  that order (`Json.Ordered.insertMember`). Records in order with the same values under all keys are
  the same (`Json.Ordered.ext`).
-/
namespace AuditTrail.Json

/-- The members stand in the order of their keys, each key once. -/
def Ordered (ms : List (String × Json)) : Prop := ms.Pairwise fun a b => a.1 < b.1

/-- A value that has ordered members if it is a record. -/
def MembersOrdered : Json → Prop
  | .object ms => Ordered ms
  | _ => True

namespace Ordered

variable {ms ms' : List (String × Json)} {key : String} {value : Json}

/-- All keys after putting in a member come after what all keys came after before. -/
theorem lt_insertMember {k : String} (hkey : k < key) (h : ∀ m ∈ ms, k < m.1) :
    ∀ m ∈ Json.insertMember key value ms, k < m.1 := by
  induction ms with
  | nil =>
    intro m hm
    rw [List.mem_singleton.mp hm]
    exact hkey
  | cons m ms ih =>
    rw [List.forall_mem_cons] at h
    unfold Json.insertMember
    split
    next => exact List.forall_mem_cons.mpr ⟨hkey, List.forall_mem_cons.mpr h⟩
    next =>
      split
      next => exact List.forall_mem_cons.mpr ⟨hkey, h.2⟩
      next => exact List.forall_mem_cons.mpr ⟨h.1, ih h.2⟩

theorem insertMember (h : Ordered ms) : Ordered (Json.insertMember key value ms) := by
  induction ms with
  | nil => exact List.pairwise_singleton _ _
  | cons m ms ih =>
    obtain ⟨hfirst, hrest⟩ := List.pairwise_cons.mp h
    unfold Json.insertMember
    split
    next hlt =>
      refine List.pairwise_cons.mpr ⟨List.forall_mem_cons.mpr ⟨hlt, ?_⟩, h⟩
      exact fun n hn => lt_trans hlt (hfirst n hn)
    next hnot =>
      split
      next heq => exact List.pairwise_cons.mpr ⟨fun n hn => heq ▸ hfirst n hn, hrest⟩
      next hne =>
        have hlt : m.1 < key := lt_of_le_of_ne (not_lt.mp hnot) (Ne.symm hne)
        exact List.pairwise_cons.mpr ⟨lt_insertMember hlt hfirst, ih hrest⟩

/-- A member is what is found under its key. -/
theorem lookup_eq_some_iff (h : Ordered ms) :
    ms.lookup key = some value ↔ (key, value) ∈ ms := by
  induction ms with
  | nil => exact iff_of_false nofun List.not_mem_nil
  | cons m ms ih =>
    obtain ⟨hfirst, hrest⟩ := List.pairwise_cons.mp h
    rw [List.lookup_cons, List.mem_cons]
    by_cases hkey : key = m.1
    · have hnot : (key, value) ∉ ms := fun hmem => (hfirst _ hmem).ne hkey.symm
      rw [beq_iff_eq.mpr hkey, or_iff_left hnot, Prod.ext_iff, Option.some.injEq]
      exact ⟨fun hvalue => ⟨hkey, hvalue.symm⟩, fun hsame => hsame.2.symm⟩
    · have hother : (key, value) ≠ m := fun heq => hkey (congrArg Prod.fst heq)
      rw [beq_eq_false_iff_ne.mpr hkey, or_iff_right hother]
      exact ih hrest

/-- Records with the same values under all keys are the same. -/
theorem ext (h : Ordered ms) (h' : Ordered ms') (hsame : ∀ k, ms.lookup k = ms'.lookup k) :
    ms = ms' := by
  have hmem : ∀ m : String × Json, m ∈ ms ↔ m ∈ ms' := fun m => by
    rw [← h.lookup_eq_some_iff, ← h'.lookup_eq_some_iff, hsame]
  have hperm : ms.Perm ms' := (List.perm_ext_iff_of_nodup
    (h.imp fun hlt heq => hlt.ne (congrArg Prod.fst heq))
    (h'.imp fun hlt heq => hlt.ne (congrArg Prod.fst heq))).mpr hmem
  exact hperm.eq_of_pairwise (fun a b _ _ hab hba => absurd hba (lt_asymm hab)) h h'

end Ordered

/-! ## Reading -/

section Reading

variable {negative : Bool} {n fuel depth : Nat} {exponent : Int} {cs rest : List Char} {v : Json}

theorem makeDouble_ordered (h : (makeDouble negative n exponent).map (·, cs) = some (v, rest)) :
    v.MembersOrdered := by
  obtain ⟨x, hx, heq⟩ := Option.map_eq_some_iff.mp h
  cases heq
  obtain ⟨_, -, rfl⟩ := Option.map_eq_some_iff.mp hx
  trivial

theorem readExponent_ordered (h : readExponent negative n exponent cs = some (v, rest)) :
    v.MembersOrdered := by
  unfold readExponent at h
  dsimp only at h
  -- the cases are those of the sign, which does not matter
  split at h
  all_goals
    dsimp only at h
    split at h
    next => cases h
    next =>
      split at h
      next =>
        split at h
        next => cases h
        next => cases h; trivial
      next => exact makeDouble_ordered h

theorem readTail_ordered (h : readTail negative n exponent cs = some (v, rest)) :
    v.MembersOrdered := by
  unfold readTail at h
  split at h
  next => exact readExponent_ordered h
  next => exact readExponent_ordered h
  next => exact makeDouble_ordered h

theorem readFraction_ordered (h : readFraction negative n exponent cs = some (v, rest)) :
    v.MembersOrdered := by
  unfold readFraction at h
  dsimp only at h
  split at h
  next =>
    split at h
    next => exact readTail_ordered h
    next =>
      split at h
      next => cases h
      next => exact readTail_ordered h
  next =>
    split at h
    next => cases h
    next => exact readTail_ordered h

theorem readMagnitude_ordered (h : readMagnitude negative cs = some (v, rest)) :
    v.MembersOrdered := by
  unfold readMagnitude at h
  split at h
  next => cases h
  next =>
    dsimp only at h
    split_ifs at h
    · split at h
      next => exact readFraction_ordered h
      next => exact readTail_ordered h
    -- without a point or an exponent, each sort of number is made in its own way
    all_goals
      split at h
      next => exact readFraction_ordered h
      next => exact readExponent_ordered h
      next => exact readExponent_ordered h
      next => cases h; trivial

theorem readNumber_ordered (h : readNumber cs = some (v, rest)) : v.MembersOrdered := by
  unfold readNumber at h
  split at h
  next => exact readMagnitude_ordered h
  next => exact readMagnitude_ordered h

theorem readWord_ordered {word : List Char} {value : Json}
    (h : readWord word value cs = some (v, rest)) (hvalue : value.MembersOrdered) :
    v.MembersOrdered := by
  unfold readWord at h
  split at h
  next => cases h; exact hvalue
  next => cases h

theorem readItems_ordered {done : List Json}
    (h : readItems fuel depth done cs = some (v, rest)) : v.MembersOrdered := by
  induction fuel generalizing done cs with
  | zero => cases h
  | succ fuel ih =>
    unfold readItems at h
    split at h
    next => cases h
    next =>
      split at h
      next => exact ih h
      next => cases h; trivial
      next => cases h

/-- The members are put in one by one, from those that were read before. -/
theorem readMembers_ordered {done : List (String × Json)} (hdone : Ordered done)
    (h : readMembers fuel depth done cs = some (v, rest)) : v.MembersOrdered := by
  induction fuel generalizing done cs with
  | zero => cases h
  | succ fuel ih =>
    unfold readMembers at h
    split at h
    next =>
      split at h
      next => cases h
      next =>
        split at h
        next =>
          split at h
          next => cases h
          next =>
            split at h
            next => exact ih hdone.insertMember h
            next => cases h; exact hdone.insertMember
            next => cases h
        next => cases h
    next => cases h

theorem readValue_ordered (h : readValue fuel depth cs = some (v, rest)) : v.MembersOrdered := by
  cases fuel with
  | zero => cases h
  | succ fuel =>
    unfold readValue at h
    split at h
    next => cases h
    next => exact readWord_ordered h trivial
    next => exact readWord_ordered h trivial
    next => exact readWord_ordered h trivial
    next =>
      obtain ⟨_, -, heq⟩ := Option.map_eq_some_iff.mp h
      cases heq
      trivial
    next =>
      split at h
      next => cases h
      next =>
        split at h
        next => cases h; trivial
        next => exact readItems_ordered h
    next =>
      split at h
      next => cases h
      next =>
        split at h
        next => cases h; exact List.Pairwise.nil
        next => exact readMembers_ordered List.Pairwise.nil h
    next => exact readNumber_ordered h

end Reading

theorem parse_ordered {text : String} {v : Json} (h : parse text = some v) :
    v.MembersOrdered := by
  unfold parse at h
  dsimp only at h
  split at h
  next w rest hread =>
    split at h
    next => cases h; exact readValue_ordered hread
    next => cases h
  next => cases h

/-- A record that was read has its members in order. -/
theorem parseBytes_ordered {bytes : ByteArray} {ms : List (String × Json)}
    (h : parseBytes bytes = some (.object ms)) : Ordered ms := by
  obtain ⟨text, -, hparse⟩ := Option.bind_eq_some_iff.mp h
  exact parse_ordered hparse

end AuditTrail.Json
