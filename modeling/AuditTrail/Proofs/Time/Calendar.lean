import AuditTrail.Time.Calendar

/-
  The calendar and the count of days agree: the date of a day exists, and its day is the one it was
  made from (`isValid_ofDays`, `toDays_ofDays`). Years begin in March here, so that a leap day is
  the last of its year; in a cycle of four hundred years the years are found century by century
  (`century_spec`, `yearOfCycle_spec`), and then the months (`isValid_dayOfYear`,
  `toDays_dayOfYear`).
-/
namespace AuditTrail.Calendar

/-- The year of a day within a cycle of four hundred years. -/
def yearOfCycle (day : Int) : Int := (day - day / 1460 + day / 36524 - day / 146096) / 365

/-- The day of that year. -/
def dayOfYear (day : Int) : Int :=
  day - (365 * yearOfCycle day + yearOfCycle day / 4 - yearOfCycle day / 100)

/-- A date from the day of its cycle, with the months counted from March. -/
theorem ofDays_eq (days : Int) : Date.ofDays days =
    let day := (days + 719468) % 146097
    let fromMarch := (5 * dayOfYear day + 2) / 153
    let month := if fromMarch < 10 then fromMarch + 3 else fromMarch - 9
    ⟨yearOfCycle day + (days + 719468) / 146097 * 400 + (if month ≤ 2 then 1 else 0), month.toNat,
      (dayOfYear day - (153 * fromMarch + 2) / 5 + 1).toNat⟩ := rfl

/-- Within a century of a cycle every fourth year has a day more, except for the last one. The
leap days that are taken off are counted with a shift, since a century is a day shorter than
twenty-five times four years. -/
theorem century_spec {day shift leaps year : Int} (h0 : 0 ≤ day) (h1 : day < 36524)
    (hs0 : 0 ≤ shift) (hs1 : shift ≤ 72) (hleaps : leaps = (day + shift) / 1460)
    (hyear : year = (day - leaps) / 365) :
    (0 ≤ year ∧ year ≤ 99) ∧
      365 * year + year / 4 ≤ day ∧ day ≤ 365 * year + year / 4 + 365 ∧
      (day = 365 * year + year / 4 + 365 → year % 4 = 3 ∧ year ≠ 99) := by
  have hcentury : 0 ≤ year ∧ year ≤ 99 := by omega
  have hbegun : 365 * year + year / 4 ≤ day := by omega
  have hends : day ≤ 365 * year + year / 4 + 365 := by omega
  exact ⟨hcentury, hbegun, hends, by omega⟩

/-- Every day of a cycle lies in one of its years, and the day 365 is there in leap years only. -/
theorem yearOfCycle_spec (day : Int) (h0 : 0 ≤ day) (h1 : day < 146097) :
    (0 ≤ yearOfCycle day ∧ yearOfCycle day ≤ 399) ∧ 0 ≤ dayOfYear day ∧ dayOfYear day ≤ 365 ∧
      (dayOfYear day = 365 → isLeap (yearOfCycle day + 1) = true) := by
  by_cases hlast : day = 146096
  · subst hlast
    decide
  · -- the day `r` of the century `c`, and its year `y` in that century
    obtain ⟨c, hc⟩ : ∃ c, c = day / 36524 := ⟨_, rfl⟩
    obtain ⟨r, hr⟩ : ∃ r, r = day - 36524 * c := ⟨_, rfl⟩
    obtain ⟨q, hq⟩ : ∃ q, q = (r + 24 * c) / 1460 := ⟨_, rfl⟩
    obtain ⟨y, hy⟩ : ∃ y, y = (r - q) / 365 := ⟨_, rfl⟩
    have hcentury : 0 ≤ r ∧ r < 36524 ∧ 0 ≤ c ∧ c ≤ 3 := by omega
    obtain ⟨hyears, hbegun, hends, hleap⟩ :=
      century_spec hcentury.1 hcentury.2.1 (by omega) (by omega) hq hy
    have hyear : yearOfCycle day = 100 * c + y := by
      have : day / 1460 = 25 * c + q := by omega
      have : day / 146096 = 0 := by omega
      unfold yearOfCycle
      omega
    have hday : dayOfYear day = r - (365 * y + y / 4) := by
      have : (100 * c + y) / 4 = 25 * c + y / 4 := by omega
      have : (100 * c + y) / 100 = c := by omega
      rw [dayOfYear, hyear]
      omega
    rw [hyear, hday]
    refine ⟨by omega, by omega, by omega, fun h => ?_⟩
    simp only [isLeap, Bool.and_eq_true, Bool.or_eq_true, beq_iff_eq, bne_iff_ne]
    omega

/-- The date of a day of a year that begins in March exists. -/
theorem isValid_dayOfYear {year day fromMarch : Int} (h0 : 0 ≤ day) (h1 : day ≤ 365)
    (hleap : day = 365 → isLeap (year + 1) = true) (hmarch : fromMarch = (5 * day + 2) / 153) :
    let month := if fromMarch < 10 then fromMarch + 3 else fromMarch - 9
    (Date.mk (year + (if month ≤ 2 then 1 else 0)) month.toNat
      (day - (153 * fromMarch + 2) / 5 + 1).toNat).isValid = true := by
  by_cases hlast : day = 365
  · have hfebruary : fromMarch = 11 := by omega
    subst hlast hfebruary
    simp [Date.isValid, daysInMonth, hleap rfl]
  · have hmonths : fromMarch = 0 ∨ fromMarch = 1 ∨ fromMarch = 2 ∨ fromMarch = 3 ∨ fromMarch = 4 ∨
        fromMarch = 5 ∨ fromMarch = 6 ∨ fromMarch = 7 ∨ fromMarch = 8 ∨ fromMarch = 9 ∨
        fromMarch = 10 ∨ fromMarch = 11 := by omega
    rcases hmonths with rfl | rfl | rfl | rfl | rfl | rfl | rfl | rfl | rfl | rfl | rfl | rfl
    all_goals
      simp [Date.isValid, daysInMonth]
      try split
      all_goals omega

/-- It is the day it was made from. -/
theorem toDays_dayOfYear {year cycle day fromMarch : Int} (hyear0 : 0 ≤ year) (hyear1 : year ≤ 399)
    (h0 : 0 ≤ day) (h1 : day ≤ 365) (hmarch : fromMarch = (5 * day + 2) / 153) :
    let month := if fromMarch < 10 then fromMarch + 3 else fromMarch - 9
    (Date.mk (year + cycle * 400 + (if month ≤ 2 then 1 else 0)) month.toNat
        (day - (153 * fromMarch + 2) / 5 + 1).toNat).toDays =
      cycle * 146097 + (year * 365 + year / 4 - year / 100 + day) - 719468 := by
  intro month
  have hfirst : 0 ≤ day - (153 * fromMarch + 2) / 5 := by omega
  have hmonth : 1 ≤ month ∧ (month + 9) % 12 = fromMarch := by
    dsimp only [month]
    split <;> omega
  have hback : ((month.toNat : Int) + 9) % 12 = fromMarch := by omega
  have hyear : (if month.toNat ≤ 2 then year + cycle * 400 + (if month ≤ 2 then 1 else 0) - 1
      else year + cycle * 400 + (if month ≤ 2 then 1 else 0)) = year + cycle * 400 := by
    split <;> split <;> omega
  unfold Date.toDays
  dsimp only
  rw [hyear, hback]
  omega

/-- The date of a day exists. -/
theorem isValid_ofDays (days : Int) : (Date.ofDays days).isValid = true := by
  obtain ⟨-, h0, h1, hleap⟩ :=
    yearOfCycle_spec ((days + 719468) % 146097) (by omega) (by omega)
  rw [ofDays_eq]
  refine isValid_dayOfYear h0 h1 (fun hlast => ?_) rfl
  have hcycles := hleap hlast
  simp only [isLeap, Bool.and_eq_true, Bool.or_eq_true, beq_iff_eq, bne_iff_ne] at hcycles ⊢
  omega

/-- A day is found again from its date. -/
theorem toDays_ofDays (days : Int) : (Date.ofDays days).toDays = days := by
  obtain ⟨day, hday⟩ : ∃ day, day = (days + 719468) % 146097 := ⟨_, rfl⟩
  obtain ⟨⟨hyear0, hyear1⟩, h0, h1, -⟩ := yearOfCycle_spec day (by omega) (by omega)
  have hsum : dayOfYear day =
    day - (365 * yearOfCycle day + yearOfCycle day / 4 - yearOfCycle day / 100) := rfl
  rw [ofDays_eq, ← hday]
  refine (toDays_dayOfYear hyear0 hyear1 h0 h1 rfl).trans ?_
  omega

end AuditTrail.Calendar
