import AuditTrail.Proofs.Number.Digits
import AuditTrail.Proofs.Text.Stable
import AuditTrail.Proofs.Time.Components

/-
  Whole seconds survive their notation (`parse_format`). What is written are components: days as a
  date, and what is left of a day as a time (`toList_format`). They add up to the seconds
  (`denotes_format`), and neither blanks nor small letters get in the way (`isSign_plain`,
  `signs_format`).
-/
namespace AuditTrail

namespace Duration

/-! ## Signs -/

/-- The characters that durations are written with. -/
def isSign (c : Char) : Bool := c.isDigit || ['P', 'D', 'T', 'H', 'M', 'S'].contains c

theorem isSign_ascii {c : Char} (h : isSign c = true) : c.toNat < 128 := by
  simp only [isSign, Char.isDigit, Bool.or_eq_true, Bool.and_eq_true, decide_eq_true_eq,
    List.contains_iff_mem, List.mem_cons, List.not_mem_nil, or_false] at h
  rcases h with ⟨-, h⟩ | rfl | rfl | rfl | rfl | rfl | rfl
  · rw [UInt32.le_iff_toNat_le] at h
    exact Nat.lt_of_le_of_lt h (by decide)
  all_goals decide

theorem isSign_plain {c : Char} (h : isSign c = true) :
    Text.isBlank c = false ∧ c.toUpper = c :=
  Text.forall_ascii (fun c => isSign c = true → Text.isBlank c = false ∧ c.toUpper = c)
    (by decide +kernel) (isSign_ascii h) h

/-- A text of such characters. -/
def Signs (s : String) : Prop := s.toList.all isSign = true

theorem Signs.append {s t : String} (hs : Signs s) (ht : Signs t) : Signs (s ++ t) := by
  rw [Signs, String.toList_append, List.all_append, hs, ht]
  rfl

theorem isDigit_of_mem_toDigits {n : Nat} {c : Char} (h : c ∈ Nat.toDigits 10 n) :
    c.isDigit = true :=
  Nat.isDigit_of_mem_toDigits (by decide) (by decide) h

theorem toList_component (n : Nat) (designator : String) :
    (component n designator).toList
      = if n = 0 then [] else Nat.toDigits 10 n ++ designator.toList := by
  rw [component]
  split
  · rfl
  · rw [String.toList_append, Digits.text, String.toList_ofList]

theorem signs_component (n : Nat) {designator : String} (hdesignator : Signs designator) :
    Signs (component n designator) := by
  rw [component]
  split
  · rfl
  · refine Signs.append ?_ hdesignator
    rw [Signs, Digits.text, String.toList_ofList, List.all_eq_true]
    intro c hc
    rw [isSign, isDigit_of_mem_toDigits hc, Bool.true_or]

theorem signs_format (d : Duration) : Signs d.format := by
  have hP : Signs "P" := rfl
  have hD : Signs "D" := rfl
  have hT : Signs "T" := rfl
  have hH : Signs "H" := rfl
  have hM : Signs "M" := rfl
  have hS : Signs "S" := rfl
  rw [format]
  dsimp only
  split
  · rfl
  · refine (hP.append (signs_component _ hD)).append ?_
    split
    · rfl
    · exact hT.append (((signs_component _ hH).append (signs_component _ hM)).append
        (signs_component _ hS))

/-! ## Components that are written -/

/-- A number of units as a component, left out if it is zero. -/
def counted (n : Nat) (u : Char × Nat) : List Component :=
  if n = 0 then [] else [⟨Nat.toDigits 10 n, u⟩]

theorem counted_eq_nil_iff {n : Nat} {u : Char × Nat} : counted n u = [] ↔ n = 0 := by
  rw [counted]
  split <;> simp_all

theorem total_counted (n : Nat) (u : Char × Nat) : total (counted n u) = n * u.2 := by
  rw [counted]
  split
  next hn =>
    rw [hn, Nat.zero_mul]
    rfl
  next =>
    rw [total_cons, Digits.number_eq, Nat.ofDigitChars_toDigits (by decide) (by decide)]
    rfl

theorem orderly_counted (n : Nat) (u : Char × Nat) : Orderly [u] (counted n u) := by
  rw [counted]
  split
  · exact orderly_nil
  · exact orderly_nil.take Nat.toDigits_ne_nil fun _ => isDigit_of_mem_toDigits

theorem written_counted (n : Nat) (u : Char × Nat) {designator : String}
    (hdesignator : designator.toList = [u.1]) :
    written (counted n u) = (component n designator).toList := by
  rw [counted, toList_component, hdesignator]
  split
  · rfl
  · exact written_cons _ u []

/-- Days as a date. -/
def dateOf (days : Nat) : List Component := counted days ('D', day)

/-- Less than a day as a time. -/
def timeOf (seconds : Nat) : List Component :=
  counted (seconds / hour) ('H', hour) ++ counted (seconds % hour / minute) ('M', minute) ++
    counted (seconds % minute) ('S', 1)

theorem orderly_dateOf (days : Nat) : Orderly dateUnits (dateOf days) :=
  (orderly_counted days _).skip.skip.skip

theorem orderly_timeOf (seconds : Nat) : Orderly timeUnits (timeOf seconds) :=
  ((orderly_counted _ _).append (orderly_counted _ _)).append (orderly_counted _ _)

theorem total_timeOf (seconds : Nat) : total (timeOf seconds) = seconds := by
  rw [timeOf, total_append, total_append, total_counted, total_counted, total_counted]
  simp only [hour, minute]
  omega

theorem timeOf_eq_nil_iff {seconds : Nat} : timeOf seconds = [] ↔ seconds = 0 := by
  constructor
  · intro h
    rw [← total_timeOf seconds, h]
    rfl
  · rintro rfl
    rfl

theorem written_timeOf (seconds : Nat) : written (timeOf seconds) =
    (component (seconds / hour) "H" ++ component (seconds % hour / minute) "M" ++
      component (seconds % minute) "S").toList := by
  have hH : "H".toList = ['H'] := rfl
  have hM : "M".toList = ['M'] := rfl
  have hS : "S".toList = ['S'] := rfl
  rw [timeOf, written_append, written_append, written_counted _ _ hH, written_counted _ _ hM,
    written_counted _ _ hS, String.toList_append, String.toList_append]

/-! ## The notation -/

theorem toList_format {d : Duration} (hd : d.secs.toNat ≠ 0) : d.format.toList =
    'P' :: (written (dateOf (d.secs.toNat / day)) ++
      if timeOf (d.secs.toNat % day) = [] then []
      else 'T' :: written (timeOf (d.secs.toNat % day))) := by
  have hD : "D".toList = ['D'] := rfl
  have hP : "P".toList = ['P'] := rfl
  rw [format]
  dsimp only
  rw [if_neg hd, String.toList_append, String.toList_append, dateOf, written_counted _ _ hD, hP,
    List.append_assoc, List.singleton_append]
  congr 2
  by_cases hrest : d.secs.toNat % day = 0
  · rw [if_pos hrest, if_pos (timeOf_eq_nil_iff.mpr hrest)]
    rfl
  · rw [if_neg hrest, if_neg fun h => hrest (timeOf_eq_nil_iff.mp h), String.toList_append,
      written_timeOf]
    rfl

/-- The written form denotes the seconds. -/
theorem denotes_format (d : Duration) : Denotes d.format d.secs.toNat := by
  have hchars : ∀ c ∈ d.format.toList, isSign c = true := List.all_eq_true.mp (signs_format d)
  have htrim : Text.trim d.format = d.format :=
    Text.trim_of_no_blank fun c hc => (isSign_plain (hchars c hc)).1
  have hupper : d.format.toList.map Char.toUpper = d.format.toList :=
    (List.map_congr_left fun c hc => (isSign_plain (hchars c hc)).2).trans (List.map_id _)
  rw [Denotes, htrim, hupper]
  by_cases hd : d.secs.toNat = 0
  · refine ⟨[], [⟨['0'], ('S', 1)⟩], ?_, orderly_nil, ?_, .inr (List.cons_ne_nil _ _), hd⟩
    · rw [format, if_pos hd]
      rfl
    · have hdigits : ∀ d ∈ ['0'], d.isDigit = true := List.forall_mem_singleton.mpr rfl
      exact (orderly_nil.take (List.cons_ne_nil _ _) hdigits).skip.skip
  · refine ⟨dateOf (d.secs.toNat / day), timeOf (d.secs.toNat % day), toList_format hd,
      orderly_dateOf _, orderly_timeOf _, ?_, ?_⟩
    · rw [dateOf, Ne, Ne, counted_eq_nil_iff, timeOf_eq_nil_iff]
      simp only [day, hour, minute]
      omega
    · rw [dateOf, total_counted, total_timeOf, Nat.div_add_mod']

/-- Whole seconds are read back as they were written. -/
theorem parse_format {d : Duration} (hd : d.nanos = 0) : parse d.format = .ok d :=
  parse_eq_ok_iff.mpr ⟨denotes_format d, hd⟩

end Duration

end AuditTrail
