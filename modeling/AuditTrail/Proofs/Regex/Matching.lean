import AuditTrail.Regex.Basic
import Mathlib.Data.List.Basic

/-
  What regular expressions match. A text is matched in its place, between a character before it and
  one after it, either of which may be missing (`Regex.Matches`): assertions look at these two and
  at nothing else. Repetitions match a number of texts one after another (`Repeats`).

  What is left of an expression after a character matches what may follow that character
  (`matches_cons`). So the search finds a match exactly where one begins (`search_iff`), and an
  expression has a match in a text if one begins somewhere in it (`isMatch_iff`). This asks of
  counted repetitions that the least number is not above the greatest (`WellFormed`).
-/
namespace AuditTrail.Regex

/-! ## Texts in their places -/

/-- The character before what follows a text. -/
def lastOf (before : Option Char) (s : List Char) : Option Char := s.getLast?.or before

/-- The character after what stands before a text. -/
def nextOf (s : List Char) (after : Option Char) : Option Char := s.head?.or after

@[simp] theorem lastOf_nil (before : Option Char) : lastOf before [] = before := rfl

@[simp] theorem nextOf_nil (after : Option Char) : nextOf [] after = after := rfl

@[simp] theorem nextOf_cons (c : Char) (s : List Char) (after : Option Char) :
    nextOf (c :: s) after = some c := rfl

@[simp] theorem lastOf_cons (before : Option Char) (c : Char) (s : List Char) :
    lastOf before (c :: s) = lastOf (some c) s := by
  rw [lastOf, lastOf, List.getLast?_cons]
  cases s.getLast? <;> rfl

/-- Some texts one after another, each in its place. -/
def Repeats (M : Option Char → List Char → Option Char → Prop) :
    Nat → Option Char → List Char → Option Char → Prop
  | 0, _, s, _ => s = []
  | n + 1, before, s, after => ∃ s₁ s₂, s = s₁ ++ s₂ ∧ M before s₁ (nextOf s₂ after) ∧
      Repeats M n (lastOf before s₁) s₂ after

/-- An expression matches a text between two characters. -/
def Matches : Regex → Option Char → List Char → Option Char → Prop
  | .empty, _, s, _ => s = []
  | .chars set, _, s, _ => ∃ c, s = [c] ∧ set.contains c = true
  | .look l, before, s, after => s = [] ∧ l.holds before after = true
  | .seq a b, before, s, after => ∃ s₁ s₂, s = s₁ ++ s₂ ∧ a.Matches before s₁ (nextOf s₂ after) ∧
      b.Matches (lastOf before s₁) s₂ after
  | .alt a b, before, s, after => a.Matches before s after ∨ b.Matches before s after
  | .times a min max, before, s, after => ∃ n, min ≤ n ∧ (∀ m ∈ max, n ≤ m) ∧
      Repeats (fun before s after => a.Matches before s after) n before s after

/-- No least number of repetitions is above the greatest. -/
def WellFormed : Regex → Prop
  | .empty => True
  | .chars _ => True
  | .look _ => True
  | .seq a b => a.WellFormed ∧ b.WellFormed
  | .alt a b => a.WellFormed ∧ b.WellFormed
  | .times a min max => a.WellFormed ∧ ∀ m ∈ max, min ≤ m

/-! ## Repetitions -/

section Repeats

variable {M : Option Char → List Char → Option Char → Prop} {before after : Option Char}

theorem repeats_nil (n : Nat) :
    Repeats M n before [] after ↔ n = 0 ∨ M before [] after := by
  induction n with
  | zero => exact ⟨fun _ => .inl rfl, fun _ => rfl⟩
  | succ n ih =>
    constructor
    · rintro ⟨s₁, s₂, hs, hfirst, -⟩
      obtain ⟨rfl, rfl⟩ := List.append_eq_nil_iff.mp hs.symm
      exact .inr hfirst
    · rintro (h | h)
      · cases h
      · exact ⟨[], [], rfl, h, ih.mpr (.inr h)⟩

/-- Empty texts in front do not show. -/
theorem Repeats.prepend {s : List Char} {n : Nat} (k : Nat)
    (hempty : k = 0 ∨ M before [] (nextOf s after)) (h : Repeats M n before s after) :
    Repeats M (k + n) before s after := by
  induction k with
  | zero => rwa [Nat.zero_add]
  | succ k ih =>
    have hfirst := hempty.resolve_left (Nat.succ_ne_zero k)
    rw [Nat.add_right_comm]
    exact ⟨[], s, rfl, hfirst, ih (.inr hfirst)⟩

/-- Of the texts that begin with a character, one after some empty ones holds it. -/
theorem repeats_cons {c : Char} {s : List Char} {n : Nat} :
    Repeats M n before (c :: s) after ↔
      ∃ k j s₁ s₂, n = k + (j + 1) ∧ s = s₁ ++ s₂ ∧ (k = 0 ∨ M before [] (some c)) ∧
        M before (c :: s₁) (nextOf s₂ after) ∧ Repeats M j (lastOf (some c) s₁) s₂ after := by
  constructor
  · intro h
    induction n with
    | zero => cases h
    | succ n ih =>
      obtain ⟨first, rest, hs, hfirst, hrest⟩ := h
      cases first with
      | nil =>
        rw [List.nil_append] at hs
        subst hs
        rw [lastOf_nil] at hrest
        obtain ⟨k, j, s₁, s₂, rfl, hs, -, hheld, hafter⟩ := ih hrest
        exact ⟨k + 1, j, s₁, s₂, by omega, hs, .inr hfirst, hheld, hafter⟩
      | cons d s₁ =>
        obtain ⟨rfl, rfl⟩ := List.cons_eq_cons.mp hs
        rw [lastOf_cons] at hrest
        exact ⟨0, n, s₁, rest, by omega, rfl, .inl rfl, hfirst, hrest⟩
  · rintro ⟨k, j, s₁, s₂, rfl, rfl, hempty, hheld, hafter⟩
    refine Repeats.prepend k hempty ⟨c :: s₁, s₂, rfl, hheld, ?_⟩
    rwa [lastOf_cons]

end Repeats

/-! ## The empty text -/

/-- Whether an expression matches the empty text at a place is what the search takes it to be. -/
theorem matches_nil {r : Regex} (hr : r.WellFormed) (before after : Option Char) :
    r.Matches before [] after ↔ r.matchesEmpty before after = true := by
  induction r with
  | empty => exact ⟨fun _ => rfl, fun _ => rfl⟩
  | chars set =>
    refine ⟨?_, fun h => absurd h Bool.false_ne_true⟩
    rintro ⟨c, hc, -⟩
    cases hc
  | look l => exact and_iff_right rfl
  | seq a b iha ihb =>
    rw [matchesEmpty, Bool.and_eq_true, ← iha hr.1, ← ihb hr.2]
    constructor
    · rintro ⟨s₁, s₂, hs, ha, hb⟩
      obtain ⟨rfl, rfl⟩ := List.append_eq_nil_iff.mp hs.symm
      exact ⟨ha, hb⟩
    · rintro ⟨ha, hb⟩
      exact ⟨[], [], rfl, ha, hb⟩
  | alt a b iha ihb => rw [matchesEmpty, Bool.or_eq_true, ← iha hr.1, ← ihb hr.2, Matches]
  | times a min max ih =>
    rw [matchesEmpty, Bool.or_eq_true, beq_iff_eq, ← ih hr.1, Matches]
    simp only [repeats_nil]
    constructor
    · rintro ⟨n, hmin, -, rfl | hempty⟩
      · exact .inl (Nat.le_zero.mp hmin)
      · exact .inr hempty
    · rintro (rfl | hempty)
      · exact ⟨0, Nat.le_refl 0, fun _ _ => Nat.zero_le _, .inl rfl⟩
      · exact ⟨min, Nat.le_refl min, hr.2, .inr hempty⟩

/-! ## What is left after a character -/

theorem matches_andThen {a b : Regex} {before after : Option Char} {s : List Char} :
    (a.andThen b).Matches before s after ↔ (seq a b).Matches before s after := by
  unfold andThen
  split
  next =>
    rw [Matches]
    constructor
    · exact fun h => ⟨[], s, rfl, rfl, h⟩
    · rintro ⟨s₁, s₂, rfl, rfl, h⟩
      exact h
  next => exact Iff.rfl

theorem WellFormed.andThen {a b : Regex} (ha : a.WellFormed) (hb : b.WellFormed) :
    (a.andThen b).WellFormed := by
  unfold Regex.andThen
  split
  next => exact hb
  next => exact ⟨ha, hb⟩

theorem WellFormed.step {r : Regex} (hr : r.WellFormed) {before : Option Char} {c : Char} :
    ∀ q ∈ r.step before c, q.WellFormed := by
  induction r with
  | empty => exact fun q hq => absurd hq List.not_mem_nil
  | chars set =>
    intro q hq
    rw [Regex.step] at hq
    split at hq
    next => rw [List.mem_singleton.mp hq]; trivial
    next => cases hq
  | look l => exact fun q hq => absurd hq List.not_mem_nil
  | seq a b iha ihb =>
    intro q hq
    rw [Regex.step, List.mem_append, List.mem_map] at hq
    rcases hq with ⟨a', ha', rfl⟩ | hq
    · exact (iha hr.1 a' ha').andThen hr.2
    · split at hq
      next => exact ihb hr.2 q hq
      next => cases hq
  | alt a b iha ihb =>
    intro q hq
    rw [Regex.step, List.mem_append] at hq
    exact hq.elim (iha hr.1 q) (ihb hr.2 q)
  | times a min max ih =>
    intro q hq
    rw [Regex.step] at hq
    split at hq
    next => cases hq
    next =>
      obtain ⟨a', ha', rfl⟩ := List.mem_map.mp hq
      refine (ih hr.1 a' ha').andThen ⟨hr.1, ?_⟩
      intro m hm
      obtain ⟨m', hm', rfl⟩ := Option.map_eq_some_iff.mp hm
      have := hr.2 m' hm'
      split <;> omega

/-- A text that begins with a character is matched if what follows is matched by something that is
left of the expression after that character. -/
theorem matches_cons {r : Regex} (hr : r.WellFormed) {before after : Option Char} {c : Char}
    {s : List Char} :
    r.Matches before (c :: s) after ↔ ∃ q ∈ r.step before c, q.Matches (some c) s after := by
  induction r generalizing before after s with
  | empty =>
    constructor
    · intro h
      cases h
    · rintro ⟨q, hq, -⟩
      cases hq
  | chars set =>
    rw [step, Matches]
    constructor
    · rintro ⟨d, hd, hset⟩
      obtain ⟨rfl, rfl⟩ := List.cons_eq_cons.mp hd
      rw [if_pos hset]
      exact ⟨.empty, List.mem_singleton_self _, rfl⟩
    · rintro ⟨q, hq, hmatches⟩
      split at hq
      next hset =>
        rw [List.mem_singleton.mp hq, Matches] at hmatches
        exact ⟨c, by rw [hmatches], hset⟩
      next => cases hq
  | look l =>
    constructor
    · rintro ⟨h, -⟩
      cases h
    · rintro ⟨q, hq, -⟩
      cases hq
  | alt a b iha ihb =>
    rw [step, Matches, iha hr.1, ihb hr.2]
    simp only [List.mem_append, or_and_right, exists_or]
  | seq a b iha ihb =>
    rw [step, Matches]
    constructor
    · rintro ⟨s₁, s₂, hs, ha, hb⟩
      cases s₁ with
      | nil =>
        rw [List.nil_append] at hs
        subst hs
        obtain ⟨q, hq, hmatches⟩ := (ihb hr.2).mp hb
        rw [nextOf_cons, matches_nil hr.1] at ha
        exact ⟨q, List.mem_append_right _ (by rwa [if_pos ha]), hmatches⟩
      | cons d s₁ =>
        obtain ⟨rfl, rfl⟩ := List.cons_eq_cons.mp hs
        obtain ⟨a', ha', hmatches⟩ := (iha hr.1).mp ha
        rw [lastOf_cons] at hb
        exact ⟨a'.andThen b, List.mem_append_left _ (List.mem_map_of_mem ha'),
          matches_andThen.mpr ⟨s₁, s₂, rfl, hmatches, hb⟩⟩
    · rintro ⟨q, hq, hmatches⟩
      rcases List.mem_append.mp hq with hq | hq
      · obtain ⟨a', ha', rfl⟩ := List.mem_map.mp hq
        obtain ⟨s₁, s₂, rfl, hleft, hright⟩ := matches_andThen.mp hmatches
        exact ⟨c :: s₁, s₂, rfl, (iha hr.1).mpr ⟨a', ha', hleft⟩, by rwa [lastOf_cons]⟩
      · split at hq
        next hempty =>
          exact ⟨[], c :: s, rfl, (matches_nil hr.1 _ _).mpr hempty,
            (ihb hr.2).mpr ⟨q, hq, hmatches⟩⟩
        next => cases hq
  | times a min max ih =>
    rw [step, Matches]
    simp only [repeats_cons, matches_nil hr.1]
    constructor
    · rintro ⟨_, hmin, hmax, k, j, s₁, s₂, rfl, rfl, hempty, hheld, hafter⟩
      obtain ⟨a', ha', hmatches⟩ := (ih hr.1).mp hheld
      have hpositive : ¬ (max == some 0) = true := by
        intro hzero
        have := hmax 0 (by rw [beq_iff_eq.mp hzero]; rfl)
        omega
      rw [if_neg hpositive]
      refine ⟨_, List.mem_map_of_mem ha',
        matches_andThen.mpr ⟨s₁, s₂, rfl, hmatches, j, ?_, ?_, hafter⟩⟩
      · split
        next => exact Nat.zero_le j
        next hnone =>
          have := hempty.resolve_right hnone
          omega
      · intro m hm
        obtain ⟨m', hm', rfl⟩ := Option.map_eq_some_iff.mp hm
        have := hmax m' hm'
        omega
    · rintro ⟨q, hq, hmatches⟩
      split at hq
      next => cases hq
      next hpositive =>
        obtain ⟨a', ha', rfl⟩ := List.mem_map.mp hq
        obtain ⟨s₁, s₂, rfl, hleft, j, hmin, hmax, hafter⟩ := matches_andThen.mp hmatches
        have hheld := (ih hr.1).mpr ⟨a', ha', hleft⟩
        have hbound : ∀ m ∈ max, j + 1 ≤ m := by
          intro m hm
          have hpred := hmax (m - 1) (Option.mem_map_of_mem _ hm)
          have hne : m ≠ 0 := by
            rintro rfl
            exact hpositive (beq_iff_eq.mpr hm)
          omega
        -- Where the empty text is matched, it makes up for what is missing to the least number.
        by_cases hempty : a.matchesEmpty before (some c) = true
        · refine ⟨(min - (j + 1)) + (j + 1), by omega, ?_, min - (j + 1), j, s₁, s₂, rfl, rfl,
            .inr hempty, hheld, hafter⟩
          intro m hm
          have := hbound m hm
          have := hr.2 m hm
          omega
        · rw [if_neg hempty] at hmin
          refine ⟨0 + (j + 1), by omega, ?_, 0, j, s₁, s₂, rfl, rfl, .inl rfl, hheld, hafter⟩
          intro m hm
          have := hbound m hm
          omega

/-! ## The search -/

/-- A match of the expression begins at the place between a character and the rest of a text. -/
def Begins (r : Regex) (before : Option Char) (text : List Char) : Prop :=
  ∃ s rest, text = s ++ rest ∧ r.Matches before s rest.head?

theorem begins_nil {r : Regex} (hr : r.WellFormed) (before : Option Char) :
    r.Begins before [] ↔ r.matchesEmpty before none = true := by
  rw [← matches_nil hr]
  constructor
  · rintro ⟨s, rest, htext, hmatches⟩
    obtain ⟨rfl, rfl⟩ := List.append_eq_nil_iff.mp htext.symm
    exact hmatches
  · exact fun h => ⟨[], [], rfl, h⟩

theorem begins_cons {r : Regex} (hr : r.WellFormed) (before : Option Char) (c : Char)
    (text : List Char) :
    r.Begins before (c :: text) ↔ r.matchesEmpty before (some c) = true ∨
      ∃ q ∈ r.step before c, q.Begins (some c) text := by
  rw [← matches_nil hr]
  constructor
  · rintro ⟨s, rest, htext, hmatches⟩
    cases s with
    | nil =>
      rw [List.nil_append] at htext
      subst htext
      exact .inl hmatches
    | cons d s =>
      obtain ⟨rfl, rfl⟩ := List.cons_eq_cons.mp htext
      obtain ⟨q, hq, hleft⟩ := (matches_cons hr).mp hmatches
      exact .inr ⟨q, hq, s, rest, rfl, hleft⟩
  · rintro (hempty | ⟨q, hq, s, rest, rfl, hleft⟩)
    · exact ⟨[], c :: text, rfl, hempty⟩
    · exact ⟨c :: s, rest, rfl, (matches_cons hr).mpr ⟨q, hq, hleft⟩⟩

theorem mem_distinct {r : Regex} {rs : List Regex} : r ∈ distinct rs ↔ r ∈ rs := by
  induction rs with
  | nil => exact Iff.rfl
  | cons first rs ih =>
    have hstep : distinct (first :: rs) =
        if (distinct rs).contains first then distinct rs else first :: distinct rs := rfl
    rw [hstep, List.mem_cons]
    split
    next hseen =>
      rw [ih, or_iff_right_of_imp]
      rintro rfl
      exact ih.mp (List.contains_iff_mem.mp hseen)
    next => rw [List.mem_cons, ih]

/-- The search succeeds if a match that has begun goes on to its end, or one begins from here on. -/
theorem search_iff {r : Regex} (hr : r.WellFormed) {before : Option Char} {begun : List Regex}
    (hbegun : ∀ q ∈ begun, q.WellFormed) {text : List Char} :
    r.search before begun text = true ↔ (∃ q ∈ begun, q.Begins before text) ∨
      ∃ passed rest, text = passed ++ rest ∧ r.Begins (lastOf before passed) rest := by
  induction text generalizing before begun with
  | nil =>
    have hsplit : (∃ passed rest, ([] : List Char) = passed ++ rest ∧
        r.Begins (lastOf before passed) rest) ↔ r.Begins before [] := by
      constructor
      · rintro ⟨passed, rest, htext, hbegins⟩
        obtain ⟨rfl, rfl⟩ := List.append_eq_nil_iff.mp htext.symm
        exact hbegins
      · exact fun h => ⟨[], [], rfl, h⟩
    have hempty : ∀ q ∈ begun, (q.Begins before [] ↔ q.matchesEmpty before none = true) :=
      fun q hq => begins_nil (hbegun q hq) before
    rw [search, List.any_cons, Bool.or_eq_true, List.any_eq_true, hsplit, begins_nil hr, or_comm,
      exists_congr fun q => and_congr_right (hempty q)]
  | cons c text ih =>
    have hall : ∀ q ∈ r :: begun, q.WellFormed := by
      intro q hq
      rcases List.mem_cons.mp hq with rfl | hq
      · exact hr
      · exact hbegun q hq
    have hleft : ∀ q ∈ distinct ((r :: begun).flatMap (·.step before c)), q.WellFormed := by
      intro q hq
      obtain ⟨q', hq', hstep⟩ := List.mem_flatMap.mp (mem_distinct.mp hq)
      exact (hall q' hq').step q hstep
    have hsplit : (∃ passed rest, c :: text = passed ++ rest ∧
        r.Begins (lastOf before passed) rest) ↔ r.Begins before (c :: text) ∨
          ∃ passed rest, text = passed ++ rest ∧ r.Begins (lastOf (some c) passed) rest := by
      constructor
      · rintro ⟨passed, rest, htext, hbegins⟩
        cases passed with
        | nil =>
          rw [List.nil_append] at htext
          exact .inl (htext ▸ hbegins)
        | cons d passed =>
          obtain ⟨rfl, rfl⟩ := List.cons_eq_cons.mp htext
          exact .inr ⟨passed, rest, rfl, by rwa [lastOf_cons] at hbegins⟩
      · rintro (hbegins | ⟨passed, rest, rfl, hbegins⟩)
        · exact ⟨[], c :: text, rfl, hbegins⟩
        · exact ⟨c :: passed, rest, rfl, by rwa [lastOf_cons]⟩
    have hbegins : (∃ q ∈ r :: begun, q.Begins before (c :: text)) ↔
        ((r :: begun).any (·.matchesEmpty before (some c))) = true ∨
          ∃ q ∈ distinct ((r :: begun).flatMap (·.step before c)), q.Begins (some c) text := by
      rw [List.any_eq_true]
      simp only [mem_distinct, List.mem_flatMap]
      constructor
      · rintro ⟨q, hq, h⟩
        rcases (begins_cons (hall q hq) before c text).mp h with hempty | ⟨q', hstep, h⟩
        · exact .inl ⟨q, hq, hempty⟩
        · exact .inr ⟨q', ⟨q, hq, hstep⟩, h⟩
      · rintro (⟨q, hq, hempty⟩ | ⟨q', ⟨q, hq, hstep⟩, h⟩)
        · exact ⟨q, hq, (begins_cons (hall q hq) before c text).mpr (.inl hempty)⟩
        · exact ⟨q, hq, (begins_cons (hall q hq) before c text).mpr (.inr ⟨q', hstep, h⟩)⟩
    rw [search, Bool.or_eq_true, ih hleft, ← or_assoc, ← hbegins, hsplit, List.exists_mem_cons_iff,
      or_assoc, or_left_comm]

/-- An expression has a match in a text if one begins somewhere in it. -/
theorem isMatch_iff {r : Regex} (hr : r.WellFormed) (text : String) :
    r.isMatch text = true ↔
      ∃ passed rest, text.toList = passed ++ rest ∧ r.Begins passed.getLast? rest := by
  rw [isMatch, search_iff hr fun _ h => absurd h List.not_mem_nil, or_iff_right]
  · simp only [lastOf, Option.or_none]
  · rintro ⟨q, hq, -⟩
    cases hq

end AuditTrail.Regex
