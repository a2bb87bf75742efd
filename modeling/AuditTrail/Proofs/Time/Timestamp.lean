import AuditTrail.Proofs.Number.Digits
import AuditTrail.Proofs.Text.Stable
import AuditTrail.Proofs.Time.Calendar
import AuditTrail.Time.Timestamp

/-
  A point in time of the years 0 to 9999 is read back from its written form (`parse_toText`). Each
  part of the reader takes off what the writer put there, whatever follows: a number of a width
  (`readNumber_padded`), a mark, a fraction of none, three, six or nine places
  (`readFraction_text`). The date exists and gives its day back, and the seconds fit
  (`Plain.representable`).
-/
namespace AuditTrail.Timestamp

open Calendar (Date)

/-- The year of a point in time. -/
def year (t : Timestamp) : Int := (Date.ofDays (t.secs.fdiv 86400)).year

/-- A point in time of the years that are written with four digits, outside of leap seconds. -/
structure Plain (t : Timestamp) : Prop where
  notBefore : 0 ≤ t.year
  notAfter : t.year ≤ 9999
  nanos : t.nanos < 1000000000

/-! ## Numbers and marks -/

theorem isBlank_of_isDigit {c : Char} (h : c.isDigit = true) : Text.isBlank c = false := by
  have hsmall : c.toNat < 128 := by
    have hle : c.val ≤ '9'.val := by
      simp only [Char.isDigit, Bool.and_eq_true, decide_eq_true_eq] at h
      exact h.2
    exact Nat.lt_of_le_of_lt (UInt32.le_iff_toNat_le.mp hle) (by decide)
  exact Text.forall_ascii (fun c => c.isDigit = true → Text.isBlank c = false)
    (by decide +kernel) hsmall h

/-- A number begins with a digit. -/
theorem exists_digit {width n : Nat} (hwidth : 0 < width) (hn : n < 10 ^ width) :
    ∃ c cs, (Digits.padded width n).toList = c :: cs ∧ c.isDigit = true := by
  have hlength := Digits.length_padded hwidth hn
  cases hdigits : (Digits.padded width n).toList with
  | nil =>
    rw [hdigits] at hlength
    exact absurd hlength (Nat.ne_of_lt hwidth)
  | cons c cs =>
    have hmem : c ∈ (Digits.padded width n).toList := by
      rw [hdigits]
      exact List.mem_cons_self
    exact ⟨c, cs, rfl, Digits.isDigit_of_mem_padded hmem⟩

theorem skipBlanks_padded {width n : Nat} (hwidth : 0 < width) (hn : n < 10 ^ width)
    (rest : List Char) : skipBlanks ((Digits.padded width n).toList ++ rest) =
      (Digits.padded width n).toList ++ rest := by
  obtain ⟨c, cs, hdigits, hc⟩ := exists_digit hwidth hn
  have hblank : ¬ Text.isBlank c = true := by
    rw [isBlank_of_isDigit hc]
    exact Bool.false_ne_true
  rw [hdigits, List.cons_append, skipBlanks, List.dropWhile_cons_of_neg hblank]

theorem takeWhile_padded (width n : Nat) :
    (Digits.padded width n).toList.takeWhile Char.isDigit = (Digits.padded width n).toList :=
  List.takeWhile_eq_self_iff.mpr fun _ hc => Digits.isDigit_of_mem_padded hc

theorem takeNumber_padded {width n : Nat} (hwidth : 0 < width) (hn : n < 10 ^ width)
    (rest : List Char) :
    takeNumber width ((Digits.padded width n).toList ++ rest) = some (n, rest) := by
  have hlength := Digits.length_padded hwidth hn
  have hne : (Digits.padded width n).toList ≠ [] := by
    intro h
    rw [h] at hlength
    exact absurd hlength (Nat.ne_of_lt hwidth)
  unfold takeNumber
  dsimp only
  rw [List.take_left' hlength, takeWhile_padded, if_neg hne, Digits.number_padded, List.drop_left]

theorem readNumber_padded {width n : Nat} (hwidth : 0 < width) (hn : n < 10 ^ width)
    (rest : List Char) :
    readNumber width ((Digits.padded width n).toList ++ rest) = some (n, rest) := by
  rw [readNumber, skipBlanks_padded hwidth hn, takeNumber_padded hwidth hn]

/-- A year that does not begin with a sign has up to four digits. -/
theorem readYear_padded {n : Nat} (hn : n < 10 ^ 4) (rest : List Char) :
    readYear ((Digits.padded 4 n).toList ++ rest) = some ((n : Int), rest) := by
  have hskip := skipBlanks_padded (by decide) hn rest
  have htake := takeNumber_padded (by decide) hn rest
  obtain ⟨c, cs, hdigits, hc⟩ := exists_digit (by decide) hn
  rw [hdigits, List.cons_append] at hskip htake ⊢
  unfold readYear
  rw [hskip]
  split
  case h_1 tail heq =>
    obtain ⟨rfl, -⟩ := List.cons.inj heq
    exact absurd hc (by decide)
  case h_2 tail heq =>
    obtain ⟨rfl, -⟩ := List.cons.inj heq
    exact absurd hc (by decide)
  case h_3 => rw [htake, Option.map_some]

theorem takeMark_self {mark : Char} (h : Text.isBlank mark = false) (rest : List Char) :
    takeMark mark (mark :: rest) = some rest := by
  have hblank : ¬ Text.isBlank mark = true := by
    rw [h]
    exact Bool.false_ne_true
  rw [takeMark, skipBlanks, List.dropWhile_cons_of_neg hblank]
  exact if_pos rfl

/-! ## The fraction of a second -/

theorem readFraction_point (cs : List Char) : readFraction ('.' :: cs) =
    let ds := cs.takeWhile Char.isDigit
    if ds = [] then none
    else some (Digits.number (ds.take 9) * Nat.pow 10 (9 - (ds.take 9).length),
      cs.dropWhile Char.isDigit) := rfl

/-- Places that were left out are zeros. -/
theorem readFraction_padded {places n : Nat} (h0 : 0 < places) (h9 : places ≤ 9)
    (hn : n < 10 ^ places) (rest : List Char) :
    readFraction ('.' :: ((Digits.padded places n).toList ++ 'Z' :: rest)) =
      some (n * Nat.pow 10 (9 - places), 'Z' :: rest) := by
  have hlength := Digits.length_padded h0 hn
  have hdigits : ∀ c ∈ (Digits.padded places n).toList, c.isDigit = true :=
    fun c hc => Digits.isDigit_of_mem_padded hc
  have htake : ((Digits.padded places n).toList ++ 'Z' :: rest).takeWhile Char.isDigit =
      (Digits.padded places n).toList := by
    rw [List.takeWhile_append_of_pos hdigits, List.takeWhile_cons_of_neg (by decide),
      List.append_nil]
  have hdrop : ((Digits.padded places n).toList ++ 'Z' :: rest).dropWhile Char.isDigit =
      'Z' :: rest := by
    rw [List.dropWhile_append_of_pos hdigits, List.dropWhile_cons_of_neg (by decide)]
  have hne : (Digits.padded places n).toList ≠ [] := by
    intro h
    rw [h] at hlength
    exact absurd hlength (Nat.ne_of_lt h0)
  have hnine : (Digits.padded places n).toList.take 9 = (Digits.padded places n).toList :=
    List.take_of_length_le (by omega)
  rw [readFraction_point, htake]
  dsimp only
  rw [if_neg hne, hnine, Digits.number_padded, hlength, hdrop]

/-- As many places are written as the fraction has. -/
theorem readFraction_text {nanos : Nat} (h : nanos < 1000000000) (rest : List Char) :
    readFraction ((fractionText nanos).toList ++ 'Z' :: rest) = some (nanos, 'Z' :: rest) := by
  have hpoint : ∀ places n, ("." ++ Digits.padded places n).toList ++ 'Z' :: rest =
      '.' :: ((Digits.padded places n).toList ++ 'Z' :: rest) := by
    intro places n
    rw [String.toList_append]
    rfl
  rw [fractionText]
  split
  case isTrue hzero =>
    subst hzero
    rfl
  split
  case isTrue hmillis =>
    rw [hpoint, readFraction_padded (by decide) (by decide) (by omega)]
    have hback : nanos / 1000000 * 1000000 = nanos := by omega
    exact congrArg (fun n => some (n, 'Z' :: rest)) hback
  split
  case isTrue hmicros =>
    rw [hpoint, readFraction_padded (by decide) (by decide) (by omega)]
    have hback : nanos / 1000 * 1000 = nanos := by omega
    exact congrArg (fun n => some (n, 'Z' :: rest)) hback
  rw [hpoint, readFraction_padded (by decide) (by decide) (by omega)]
  exact congrArg (fun n => some (n, 'Z' :: rest)) (Nat.mul_one nanos)

/-! ## Points in time -/

/-- The characters of a date and a time of day, in the order in which they are read. -/
def characters (year month day hour minute second : Nat) (fraction : List Char) : List Char :=
  (Digits.padded 4 year).toList ++ '-' :: ((Digits.padded 2 month).toList ++ '-' ::
    ((Digits.padded 2 day).toList ++ 'T' :: ((Digits.padded 2 hour).toList ++ ':' ::
    ((Digits.padded 2 minute).toList ++ ':' :: ((Digits.padded 2 second).toList ++
    (fraction ++ 'Z' :: []))))))

theorem toList_toText {t : Timestamp} (h : t.Plain) :
    let date := Date.ofDays (t.secs.fdiv 86400)
    let rest := (t.secs.fmod 86400).toNat
    t.toText.toList = characters date.year.toNat date.month date.day (rest / 3600)
      (rest % 3600 / 60) (rest % 60) (fractionText t.nanos).toList := by
  intro date rest
  have hyear : yearText date.year = Digits.padded 4 date.year.toNat :=
    if_pos ⟨h.notBefore, h.notAfter⟩
  have hsecond : rest % 60 + t.nanos / 1000000000 = rest % 60 := by
    rw [Nat.div_eq_of_lt h.nanos, Nat.add_zero]
  have hhyphen : "-".toList = ['-'] := rfl
  have hcolon : ":".toList = [':'] := rfl
  have htime : "T".toList = ['T'] := rfl
  have hzone : "Z".toList = ['Z'] := rfl
  rw [toText, hyear, hsecond, Nat.mod_eq_of_lt h.nanos, characters]
  simp only [String.toList_append, List.append_assoc, hhyphen, hcolon, htime, hzone,
    List.singleton_append]
  rfl

/-- The month and the day of a date have two digits. -/
theorem digits_of_isValid {d : Date} (h : d.isValid = true) :
    d.month < 10 ^ 2 ∧ d.day < 10 ^ 2 := by
  simp only [Date.isValid, Bool.and_eq_true, decide_eq_true_eq] at h
  obtain ⟨⟨⟨-, hmonth⟩, -⟩, hday⟩ := h
  have hlength : Calendar.daysInMonth d.year d.month ≤ 31 := by
    unfold Calendar.daysInMonth
    split
    case h_1 => split <;> decide
    all_goals decide
  omega

/-- Each part is taken off by its reader, and what they make up is a point in time if it can be
represented. -/
theorem parse_characters {text : String} {year month day hour minute second nanos : Nat}
    (htext : text.toList =
      characters year month day hour minute second (fractionText nanos).toList)
    (hyear : year ≤ 9999) (hdate : (Date.mk year month day).isValid = true) (hhour : hour ≤ 23)
    (hminute : minute ≤ 59) (hsecond : second ≤ 59) (hnanos : nanos < 1000000000) {secs : Int}
    (hsecs : secs = (Date.mk year month day).toDays * 86400 + (hour * 3600 + minute * 60 + second))
    (hfirst : minSecs ≤ secs) (hlast : secs ≤ maxSecs) : parse text = some ⟨secs, nanos⟩ := by
  have hmonth : month < 10 ^ 2 := (digits_of_isValid hdate).1
  have hday : day < 10 ^ 2 := (digits_of_isValid hdate).2
  have hhyphen : Text.isBlank '-' = false := by decide
  have hcolon : Text.isBlank ':' = false := by decide
  rw [parse, htext, characters]
  refine Option.bind_eq_some_iff.mpr ⟨_, readYear_padded (by omega) _, ?_⟩
  refine Option.bind_eq_some_iff.mpr ⟨_, takeMark_self hhyphen _, ?_⟩
  refine Option.bind_eq_some_iff.mpr ⟨_, readNumber_padded (by decide) hmonth _, ?_⟩
  refine Option.bind_eq_some_iff.mpr ⟨_, takeMark_self hhyphen _, ?_⟩
  refine Option.bind_eq_some_iff.mpr ⟨_, readNumber_padded (by decide) hday _, ?_⟩
  refine (if_pos (Or.inl rfl)).trans (Option.bind_eq_some_iff.mpr ⟨_, rfl, ?_⟩)
  refine Option.bind_eq_some_iff.mpr ⟨_, readNumber_padded (by decide) (by omega) _, ?_⟩
  refine Option.bind_eq_some_iff.mpr ⟨_, takeMark_self hcolon _, ?_⟩
  refine Option.bind_eq_some_iff.mpr ⟨_, readNumber_padded (by decide) (by omega) _, ?_⟩
  refine Option.bind_eq_some_iff.mpr ⟨_, takeMark_self hcolon _, ?_⟩
  refine Option.bind_eq_some_iff.mpr ⟨_, readNumber_padded (by decide) (by omega) _, ?_⟩
  refine Option.bind_eq_some_iff.mpr ⟨_, readFraction_text hnanos _, ?_⟩
  refine Option.bind_eq_some_iff.mpr ⟨(0, []), rfl, ?_⟩
  have hseconds : min second 59 = second := Nat.min_eq_left hsecond
  have hleap : ¬ second = 60 := by omega
  have hyears : minYear ≤ (year : Int) ∧ (year : Int) ≤ maxYear := by
    rw [minYear, maxYear]
    omega
  refine (if_pos ⟨rfl, hdate, hyears.1, hyears.2, hhour, hminute, by omega, by decide⟩).trans ?_
  dsimp only
  rw [hseconds, Int.sub_zero, ← hsecs, if_pos ⟨hfirst, hlast⟩, if_neg hleap, Nat.add_zero]

/-- The days of the years that are written with four digits. -/
theorem Plain.days {t : Timestamp} (h : t.Plain) :
    -1000000 ≤ t.secs.fdiv 86400 ∧ t.secs.fdiv 86400 ≤ 3000000 := by
  have hyear := h.notBefore
  have hyear' := h.notAfter
  rw [year, Calendar.ofDays_eq] at hyear hyear'
  obtain ⟨⟨h0, h1⟩, -⟩ := Calendar.yearOfCycle_spec ((t.secs.fdiv 86400 + 719468) % 146097)
    (by omega) (by omega)
  dsimp only at hyear hyear'
  split at hyear <;> omega

theorem minSecs_eq : minSecs = -8334601228800 := by decide

theorem maxSecs_eq : maxSecs = 8210266876799 := by decide

/-- A point in time is read back from its written form. -/
theorem parse_toText {t : Timestamp} (h : t.Plain) : parse t.toText = some t := by
  obtain ⟨hfirst, hlast⟩ := h.days
  have hyear0 := h.notBefore
  have hyear1 := h.notAfter
  have hdate := Calendar.isValid_ofDays (t.secs.fdiv 86400)
  have hdays := Calendar.toDays_ofDays (t.secs.fdiv 86400)
  have htext := toList_toText h
  rw [year] at hyear0 hyear1
  generalize Date.ofDays (t.secs.fdiv 86400) = date at hyear0 hyear1 hdate hdays htext
  have hrepresented : (Date.mk date.year.toNat date.month date.day) = date := by
    rw [Int.toNat_of_nonneg hyear0]
  have hdiv := Int.mul_fdiv_add_fmod t.secs 86400
  have hmod0 : 0 ≤ t.secs.fmod 86400 := Int.fmod_nonneg_of_pos t.secs (by decide)
  have hmod1 : t.secs.fmod 86400 < 86400 := Int.fmod_lt_of_pos t.secs (by decide)
  obtain ⟨rest, hrest⟩ := Int.eq_ofNat_of_zero_le hmod0
  rw [hrest] at htext hdiv hmod1
  refine parse_characters htext (by omega) (by rw [hrepresented, hdate]) (by omega) (by omega)
    (by omega) h.nanos ?_ ?_ ?_
  · rw [hrepresented, hdays]
    omega
  · rw [minSecs_eq]
    omega
  · rw [maxSecs_eq]
    omega

end AuditTrail.Timestamp
