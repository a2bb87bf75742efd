import AuditTrail.Proofs.Config.RoundTrip
import AuditTrail.Proofs.Json.Faults

/-
  What is read as a greatest age, and what is left of it when it is written. A number of nanoseconds
  is a span whenever its seconds fit into 64 bits (`Duration.ofNanos?_eq_some_iff`); so a number
  with a fraction is read rounded to the nanosecond (`Duration.ofSeconds_eq_ok_iff`), and a table of
  seconds and nanoseconds as their sum (`Decoder.durationParts_eq_ok_iff`). The written form holds
  whole seconds only. An age is read back without its part of a second, which is the age itself
  exactly if its value stands for whole seconds (`Decoder.age_survives_iff_wholeSeconds`).
-/
namespace AuditTrail

/-! ## Nanoseconds -/

/-- The nanoseconds of a number of seconds, rounded to the nearest. -/
def Double.nanos (x : Double) : Nat :=
  Duration.roundDiv (x.mantissa * Nat.pow 2 x.power * 1000000000) (Nat.pow 2 1074)

namespace Duration

/-- No two numbers of nanoseconds are the same span, and every span is one. -/
theorem ofNanos?_eq_some_iff {n : Nat} {d : Duration} : ofNanos? n = some d ↔ d.toNanos = n := by
  have hsecs := d.secs.toNat_lt
  have hnanos := d.nanos.isLt
  constructor
  · intro h
    rw [ofNanos?] at h
    split at h
    next hfits =>
      cases h
      have hword : (n / 1000000000).toUInt64.toNat = n / 1000000000 := Nat.mod_eq_of_lt hfits
      rw [toNanos, hword, Nat.div_add_mod']
    next => cases h
  · rintro rfl
    have hdiv : d.toNanos / 1000000000 = d.secs.toNat := by
      rw [toNanos]
      omega
    have hmod : d.toNanos % 1000000000 = d.nanos.val := by
      rw [toNanos]
      omega
    simp only [ofNanos?, hdiv, hmod]
    rw [if_pos hsecs]
    exact congrArg some (congrArg (Duration.mk · d.nanos) UInt64.ofNat_toNat)

theorem ofNanos?_eq_none_iff {n : Nat} :
    ofNanos? n = none ↔ 0x10000000000000000 * 1000000000 ≤ n := by
  rw [ofNanos?]
  split
  next hfits => exact ⟨nofun, fun h => by omega⟩
  next hfits => exact ⟨fun _ => by omega, fun _ => rfl⟩

/-- The nanoseconds of spans are those whose seconds fit into 64 bits. -/
theorem exists_toNanos_iff {n : Nat} :
    (∃ d : Duration, d.toNanos = n) ↔ n < 0x10000000000000000 * 1000000000 := by
  rw [← Nat.not_le, ← ofNanos?_eq_none_iff]
  simp only [← ofNanos?_eq_some_iff]
  exact Option.ne_none_iff_exists'.symm

/-- A span has a part of a second if its nanoseconds do not make up whole seconds. -/
theorem nanos_eq_zero_iff (d : Duration) : d.nanos = 0 ↔ d.toNanos % 1000000000 = 0 := by
  have hnanos := d.nanos.isLt
  have hzero : d.nanos = 0 ↔ d.nanos.val = 0 := Fin.ext_iff
  rw [hzero, toNanos]
  omega

theorem ofSeconds_eq_ok_iff {x : Double} {d : Duration} :
    ofSeconds x = .ok d ↔
      x.isBelowZero = false ∧ x.isFinite = true ∧ d.toNanos = x.nanos := by
  rw [ofSeconds, ← Double.nanos, ← ofNanos?_eq_some_iff]
  cases x.isBelowZero <;> cases x.isFinite <;> cases ofNanos? x.nanos <;> simp

end Duration

namespace Decoder

/-! ## Tables of seconds and nanoseconds -/

/-- Members are seconds of 64 bits and nanoseconds of 32 bits, which may be left out, and nothing
else. -/
structure Tabled (ms : List (String × Json)) (secs nanos : Nat) : Prop where
  secs_at : ms.lookup "secs" = some (.nat secs)
  secs_lt : secs < 0x10000000000000000
  nanos_at : ms.lookup "nanos" = some (.nat nanos) ∨ ms.lookup "nanos" = none ∧ nanos = 0
  nanos_lt : nanos < 0x100000000
  keys : ∀ m ∈ ms, m.1 = "secs" ∨ m.1 = "nanos"

theorem below_eq_ok_iff {bound n : Nat} {w : Notation} {v : Json} :
    below bound w v = .ok n ↔ v = .nat n ∧ n < bound := by
  constructor
  · intro h
    cases v with
    | int i =>
      rw [below] at h
      split at h
      next hi =>
        cases h
        refine ⟨congrArg Json.int (Int.toNat_of_nonneg hi.1).symm, ?_⟩
        omega
      next => cases h
    | _ => cases h
  · rintro ⟨rfl, hn⟩
    exact below_reads hn w

theorem part_eq_ok_iff {key : String} {bound n : Nat} {missing : Except DecodeError Nat}
    {ms : List (String × Json)} : part key bound missing ms = .ok n ↔
      ms.lookup key = some (.nat n) ∧ n < bound ∨ ms.lookup key = none ∧ missing = .ok n := by
  rw [part]
  cases ms.lookup key with
  | none => simp
  | some v => simp [below_eq_ok_iff]

/-- A part that is refused has the wrong form, or is missing. -/
theorem part_error {key : String} {bound : Nat} {missing : Except DecodeError Nat}
    {ms : List (String × Json)} {e : DecodeError} (h : part key bound missing ms = .error e) :
    e = .mismatch ∨ missing = .error e := by
  rw [part] at h
  split at h
  · exact .inl (by_contra fun he => below_spares he bound _ _ h)
  · exact .inr h

/-- A table is read as the sum of its parts, if that fits. -/
theorem durationParts_of_tabled {ms : List (String × Json)} {secs nanos : Nat}
    (h : Tabled ms secs nanos) (overflow : DecodeError) :
    durationParts false overflow ms =
      (Duration.ofNanos? (secs * 1000000000 + nanos)).elim (.error overflow) .ok := by
  have hnanos : part "nanos" 0x100000000 (if false = true then .error .mismatch else .ok 0) ms =
      .ok nanos := by
    refine part_eq_ok_iff.mpr (h.nanos_at.imp (fun hat => ⟨hat, h.nanos_lt⟩) ?_)
    rintro ⟨hat, rfl⟩
    exact ⟨hat, rfl⟩
  have hsecs : part "secs" 0x10000000000000000 (.error .mismatch) ms = .ok secs :=
    part_eq_ok_iff.mpr (.inl ⟨h.secs_at, h.secs_lt⟩)
  have hkeys : (ms.any fun m => m.1 != "secs" && m.1 != "nanos") = false :=
    List.any_eq_false.mpr fun m hm => by
      rcases h.keys m hm with hkey | hkey <;> rw [hkey] <;> decide
  have hword : secs.toUInt64.toNat = secs := Nat.mod_eq_of_lt h.secs_lt
  rw [durationParts, hnanos, ok_bind, hsecs, ok_bind, hkeys, if_neg Bool.false_ne_true,
    Duration.ofParts?, hword]
  cases Duration.ofNanos? _ <;> rfl

/-- What is no such table is not taken. -/
theorem tabled_of_ne_mismatch {ms : List (String × Json)} {overflow : DecodeError}
    (h : durationParts false overflow ms ≠ .error .mismatch) :
    ∃ secs nanos, Tabled ms secs nanos := by
  rw [durationParts] at h
  cases hnanos : part "nanos" 0x100000000 (if false = true then .error .mismatch else .ok 0) ms with
  | error e =>
    obtain rfl | hmissing := part_error hnanos
    · rw [hnanos] at h
      exact absurd rfl h
    · cases hmissing
  | ok nanos =>
    rw [hnanos, ok_bind] at h
    cases hsecs : part "secs" 0x10000000000000000 (.error .mismatch) ms with
    | error e =>
      obtain rfl : e = .mismatch := (part_error hsecs).elim id fun he => (Except.error.inj he).symm
      rw [hsecs] at h
      exact absurd rfl h
    | ok secs =>
      rw [hsecs, ok_bind] at h
      have hkeys : ∀ m ∈ ms, m.1 = "secs" ∨ m.1 = "nanos" := by
        intro m hm
        by_contra hkey
        have hany : (ms.any fun m => m.1 != "secs" && m.1 != "nanos") = true :=
          List.any_eq_true.mpr ⟨m, hm, by simpa [not_or] using hkey⟩
        rw [if_pos hany] at h
        exact h rfl
      obtain ⟨hat, hlt⟩ | ⟨-, hmissing⟩ := part_eq_ok_iff.mp hsecs
      · obtain ⟨hat', hlt'⟩ | ⟨hat', hzero⟩ := part_eq_ok_iff.mp hnanos
        · exact ⟨secs, nanos, hat, hlt, .inl hat', hlt', hkeys⟩
        · cases hzero
          exact ⟨secs, 0, hat, hlt, .inr ⟨hat', rfl⟩, by decide, hkeys⟩
      · cases hmissing

theorem durationParts_eq_ok_iff {ms : List (String × Json)} {overflow : DecodeError}
    {d : Duration} : durationParts false overflow ms = .ok d ↔
      ∃ secs nanos, Tabled ms secs nanos ∧ d.toNanos = secs * 1000000000 + nanos := by
  have hread : ∀ {secs nanos}, Tabled ms secs nanos → (durationParts false overflow ms = .ok d ↔
      d.toNanos = secs * 1000000000 + nanos) := fun h => by
    rw [durationParts_of_tabled h, ← Duration.ofNanos?_eq_some_iff]
    cases Duration.ofNanos? _ <;> simp
  constructor
  · intro h
    have hne : durationParts false overflow ms ≠ .error .mismatch := by
      rw [h]
      exact (error_ne_ok _ d).symm
    obtain ⟨secs, nanos, htabled⟩ := tabled_of_ne_mismatch hne
    exact ⟨secs, nanos, htabled, (hread htabled).mp h⟩
  · rintro ⟨secs, nanos, htabled, hnanos⟩
    exact (hread htabled).mpr hnanos

end Decoder

/-! ## Ages of whole seconds -/

/-- The form of an age stands for whole seconds: a whole number, a text, a number with a fraction
that is rounded away, or a table whose nanoseconds make up whole seconds. -/
def Json.WholeSeconds : Json → Prop
  | .double x => x.nanos % 1000000000 = 0
  | .object ms => ∀ nanos : Nat, ms.lookup "nanos" = some (.nat nanos) → nanos % 1000000000 = 0
  | _ => True

namespace Decoder

/-- The span read has no part of a second exactly if its form stands for whole seconds. -/
theorem nanos_eq_zero_iff_wholeSeconds {w : Notation} {v : Json} {d : Duration}
    (h : maxAge w v = .ok (some d)) : d.nanos = 0 ↔ v.WholeSeconds := by
  cases v with
  | null => cases h
  | bool b => cases h
  | int n =>
    rw [maxAge] at h
    split at h
    · split at h <;> cases h
    · split at h
      · cases h
        exact iff_of_true rfl trivial
      · cases h
  | double x =>
    obtain ⟨d', hread, hsome⟩ := map_eq_ok.mp h
    cases hsome
    rw [d.nanos_eq_zero_iff, (Duration.ofSeconds_eq_ok_iff.mp (mapError_eq_ok.mp hread)).2.2]
    rfl
  | string s =>
    obtain ⟨d', hread, hsome⟩ := map_eq_ok.mp h
    cases hsome
    exact iff_of_true (Duration.parse_eq_ok_iff.mp (mapError_eq_ok.mp hread)).2 trivial
  | array items => cases h
  | object ms =>
    obtain ⟨d', hread, hsome⟩ := map_eq_ok.mp h
    cases hsome
    obtain ⟨secs, nanos, htabled, hnanos⟩ := durationParts_eq_ok_iff.mp hread
    rw [d.nanos_eq_zero_iff, hnanos, Nat.mul_add_mod', Json.WholeSeconds]
    rcases htabled.nanos_at with hat | ⟨hat, rfl⟩
    · rw [hat]
      refine ⟨fun hzero n hn => ?_, fun hall => hall nanos rfl⟩
      cases hn
      exact hzero
    · rw [hat]
      refine iff_of_true rfl fun n hn => ?_
      cases hn

/-- Only null stands for no age. -/
theorem eq_null_of_maxAge {w : Notation} {v : Json} (h : maxAge w v = .ok none) : v = .null := by
  cases v with
  | null => rfl
  | bool b => cases h
  | int n =>
    rw [maxAge] at h
    split at h
    · split at h <;> cases h
    · split at h <;> cases h
  | array items => cases h
  | _ =>
    obtain ⟨d, -, hsome⟩ := map_eq_ok.mp h
    cases hsome

/-- A written age is read as its whole seconds. -/
theorem maxAge_reads_wholeSeconds (age : Option Duration) :
    maxAge.Reads (.maxAge age) (age.map fun d => .ofSecs d.secs) := by
  cases age with
  | none => exact maxAge_reads nofun
  | some d =>
    have hformat : Json.maxAge (some d) = Json.maxAge (some (.ofSecs d.secs)) := rfl
    rw [hformat]
    refine maxAge_reads fun d' hd' => ?_
    cases hd'
    rfl

/-- An age that was read comes back from its written form without its part of a second, and so
unchanged exactly if its form stands for whole seconds. -/
theorem age_survives_iff_wholeSeconds {w : Notation} {v : Json} {age : Option Duration}
    (h : maxAge w v = .ok age) :
    maxAge.Reads (.maxAge age) (age.map fun d => .ofSecs d.secs) ∧
      (maxAge.Reads (.maxAge age) age ↔ v.WholeSeconds) := by
  refine ⟨maxAge_reads_wholeSeconds age, ?_⟩
  cases age with
  | none =>
    obtain rfl := eq_null_of_maxAge h
    exact iff_of_true (maxAge_reads nofun) trivial
  | some d =>
    rw [← nanos_eq_zero_iff_wholeSeconds h]
    constructor
    · intro hread
      have hsame : Except.ok (some d) = Except.ok (some (Duration.ofSecs d.secs)) :=
        (hread .json).symm.trans (maxAge_reads_wholeSeconds (some d) .json)
      have hd : d = Duration.ofSecs d.secs := Option.some.inj (Except.ok.inj hsame)
      rw [hd]
      rfl
    · intro hd
      refine maxAge_reads fun d' hd' => ?_
      cases hd'
      exact hd

/-- The number one and a half. -/
def oneAndHalf : Double := ⟨0x3ff8000000000000⟩

/-- One second and a half. -/
def secondAndHalf : Duration := ⟨1, ⟨500000000, by decide⟩⟩

theorem age_survives_not_oneAndHalf :
    maxAge .json (.double oneAndHalf) = .ok (some secondAndHalf) ∧
      maxAge.Reads (.maxAge (some secondAndHalf)) (some (.ofSecs 1)) ∧
      (maxAge.Reads (.maxAge (some secondAndHalf)) (some secondAndHalf) ↔
        (Json.double oneAndHalf).WholeSeconds) := by
  have hread : maxAge .json (.double oneAndHalf) = .ok (some secondAndHalf) := by decide +kernel
  exact ⟨hread, age_survives_iff_wholeSeconds hread⟩

/-- It is written as one second. -/
theorem half_second_lost :
    maxAge .json (.double oneAndHalf) = .ok (some secondAndHalf) ∧
      Json.maxAge (some secondAndHalf) = .string "PT1S" ∧
      maxAge .json (.maxAge (some secondAndHalf)) = .ok (some (.ofSecs 1)) ∧
      Duration.ofSecs 1 ≠ secondAndHalf := by
  decide +kernel

end Decoder

end AuditTrail
