import AuditTrail.Time.Timestamp

/-
  The time a span before another one. Counted in nanoseconds it is earlier by exactly the span
  (`total_back`); which second it is put into matters for leap seconds only. Main statement:
  `minus?_eq_some_iff`, which says when there is such a time and which one it is. There is none if
  the span is too long or leads to before the first second (`minus?_eq_none`).
-/
namespace AuditTrail.Timestamp

/-- Nanoseconds since 1970-01-01, where a leap second counts on into the next second. -/
def total (t : Timestamp) : Int := t.secs * 1000000000 + t.nanos

/-- The time `past` lies a span before `now`, and both the span and the time can be represented. -/
structure LiesBack (now : Timestamp) (d : Duration) (past : Timestamp) : Prop where
  span : d.toNanos ≤ maxSpanNanos
  length : past.total + d.toNanos = now.total
  /-- Less than a second back from a leap second one is still in it, or in the second before. -/
  second : if 1000000000 ≤ now.nanos ∧ d.secs = 0 then past.secs = now.secs
    else past.nanos < 1000000000
  notBefore : minSecs ≤ past.secs
  notAfter : past.secs ≤ maxSecs

theorem toNanos_of_secs_zero {d : Duration} (hd : d.secs = 0) : d.toNanos = d.nanos.val := by
  have hzero : (0 : UInt64).toNat = 0 := rfl
  rw [Duration.toNanos, hd, hzero, Nat.zero_mul, Nat.zero_add]

theorem total_back (now : Timestamp) (d : Duration) :
    (now.back d).total + d.toNanos = now.total := by
  unfold back
  split
  next hleap =>
    have hshort := toNanos_of_secs_zero hleap.2
    have hpart := d.nanos.isLt
    simp only [total]
    omega
  next =>
    have hdivide : 1000000000 * (now.total - d.toNanos).fdiv 1000000000 +
        (now.total - d.toNanos).fmod 1000000000 = now.total - d.toNanos := Int.mul_fdiv_add_fmod _ _
    have hrest : 0 ≤ (now.total - d.toNanos).fmod 1000000000 := Int.fmod_nonneg_of_pos _ (by decide)
    simp only [total] at hdivide hrest ⊢
    omega

theorem second_back (now : Timestamp) (d : Duration) :
    if 1000000000 ≤ now.nanos ∧ d.secs = 0 then (now.back d).secs = now.secs
    else (now.back d).nanos < 1000000000 := by
  unfold back
  split
  next => rfl
  next =>
    have hrest : (now.total - d.toNanos).fmod 1000000000 < 1000000000 :=
      Int.fmod_lt_of_pos _ (by decide)
    simp only [total] at hrest ⊢
    omega

/-- Length and second leave no choice. -/
theorem eq_back {now past : Timestamp} {d : Duration} (hlength : past.total + d.toNanos = now.total)
    (hsecond : if 1000000000 ≤ now.nanos ∧ d.secs = 0 then past.secs = now.secs
      else past.nanos < 1000000000) : past = now.back d := by
  have htotal := total_back now d
  have hback := second_back now d
  have hsecs : past.secs = (now.back d).secs := by
    simp only [total] at hlength htotal
    split at hback
    next hleap =>
      rw [if_pos hleap] at hsecond
      rw [hsecond, hback]
    next hleap =>
      rw [if_neg hleap] at hsecond
      omega
  have hnanos : past.nanos = (now.back d).nanos := by
    simp only [total] at hlength htotal
    omega
  calc past = ⟨past.secs, past.nanos⟩ := rfl
    _ = ⟨(now.back d).secs, (now.back d).nanos⟩ := by rw [hsecs, hnanos]

/-- The time a span before another one is given if there is one. -/
theorem minus?_eq_some_iff {now past : Timestamp} {d : Duration} :
    now.minus? d = some past ↔ now.LiesBack d past := by
  unfold minus?
  constructor
  · intro h
    split at h
    next => cases h
    next hspan =>
      split at h
      next hrange =>
        cases h
        exact ⟨Nat.le_of_not_lt hspan, total_back now d, second_back now d, hrange.1, hrange.2⟩
      next => cases h
  · intro h
    rw [if_neg (Nat.not_lt_of_le h.span), ← eq_back h.length h.second,
      if_pos ⟨h.notBefore, h.notAfter⟩]

-- A leap second and its next second share their nanoseconds; half a second back one is still in it.
example : (⟨59, 1500000000⟩ : Timestamp).minus? ⟨0, ⟨500000000, by decide⟩⟩ =
    some ⟨59, 1000000000⟩ := by decide

/-- There is none if the span is too long or leads to before the first second. -/
theorem minus?_eq_none {now : Timestamp} {d : Duration}
    (h : maxSpanNanos < d.toNanos ∨ now.total - d.toNanos < minSecs * 1000000000) :
    now.minus? d = none := by
  cases hpast : now.minus? d with
  | none => rfl
  | some past =>
    have hback := minus?_eq_some_iff.mp hpast
    have hlength := hback.length
    have hfirst := hback.notBefore
    have hspan := hback.span
    simp only [total] at hlength h
    omega

/-- No time is earlier than itself. -/
theorem before_irrefl (t : Timestamp) : t.before t = false := by
  rw [before, decide_eq_false (Int.lt_irrefl _), decide_eq_false (Nat.lt_irrefl _), Bool.and_false]
  rfl

end AuditTrail.Timestamp
