import AuditTrail.Time.Duration
import AuditTrail.Proofs.Text.Separator

/-
  What the notation of durations means. A component is a run of digits with a unit; a list of
  components follows some units if their units come in that order, each at most once (`Orderly`).
  Adding components up in 64 bits succeeds on the texts of such lists, as long as the sum fits, and
  gives the sum (`addComponents_eq_some_iff`): as every unit is at least a second long, a number or
  a product that does not fit leads to a sum that does not fit.

  A text denotes a number of seconds if it is `P`, components of a date, and optionally `T` with
  components of a time (`Denotes`). Main statement: `parse_iff_denotes`.
-/
namespace AuditTrail.Duration

/-! ## Components -/

/-- A number with the unit that it counts. -/
structure Component where
  digits : List Char
  unit : Char × Nat

namespace Component

/-- The digits and the designator. -/
def text (c : Component) : List Char := c.digits ++ [c.unit.1]

/-- The length in seconds. -/
def seconds (c : Component) : Nat := Digits.number c.digits * c.unit.2

end Component

/-- The text of some components. -/
def written (components : List Component) : List Char := components.flatMap Component.text

/-- The sum of some components. -/
def total : List Component → Nat
  | [] => 0
  | c :: later => c.seconds + total later

/-- Some components have digits, and units from a list in the order of that list. -/
structure Orderly (units : List (Char × Nat)) (components : List Component) : Prop where
  order : (components.map (·.unit)).Sublist units
  digits : ∀ c ∈ components, c.digits ≠ [] ∧ ∀ d ∈ c.digits, d.isDigit = true

/-- Units with different designators, none of them a digit, of at least a second each. -/
structure Designated (units : List (Char × Nat)) : Prop where
  apart : (units.map (·.1)).Nodup
  letter : ∀ u ∈ units, u.1.isDigit = false
  positive : ∀ u ∈ units, 0 < u.2

theorem Designated.tail {u : Char × Nat} {units : List (Char × Nat)}
    (h : Designated (u :: units)) : Designated units where
  apart := (List.nodup_cons.mp h.apart).2
  letter v hv := h.letter v (List.mem_cons_of_mem u hv)
  positive v hv := h.positive v (List.mem_cons_of_mem u hv)

theorem designated_dateUnits : Designated dateUnits := ⟨by decide, by decide, by decide⟩

theorem designated_timeUnits : Designated timeUnits := ⟨by decide, by decide, by decide⟩

/-! ## Reading components -/

theorem exists_word {n : Nat} (h : n < UInt64.size) : ∃ w : UInt64, w.toNat = n :=
  ⟨n.toUInt64, UInt64.toNat_ofNat_of_lt' h⟩

theorem word?_eq_some_iff {n : Nat} {w : UInt64} : word? n = some w ↔ w.toNat = n := by
  rw [word?]
  split
  next hn =>
    have hword : n.toUInt64.toNat = n := UInt64.toNat_ofNat_of_lt' hn
    rw [Option.some.injEq, ← UInt64.toNat_inj, hword, eq_comm]
  next hn =>
    have := w.toNat_lt
    constructor
    · intro h
      cases h
    · omega

/-- A run of digits ends before what is no digit. -/
theorem span_digits {digits : List Char} {c : Char} (hdigits : ∀ d ∈ digits, d.isDigit = true)
    (hc : c.isDigit = false) (rest : List Char) :
    (digits ++ c :: rest).takeWhile Char.isDigit = digits ∧
      (digits ++ c :: rest).dropWhile Char.isDigit = c :: rest := by
  rw [List.takeWhile_append_of_pos hdigits, List.dropWhile_append_of_pos hdigits,
    List.takeWhile_cons_of_neg (by simp [hc]), List.dropWhile_cons_of_neg (by simp [hc]),
    List.append_nil]
  exact ⟨rfl, rfl⟩

theorem splitComponent_eq_some_iff {c : Char} (hc : c.isDigit = false)
    {cs digits rest : List Char} : splitComponent c cs = some (digits, rest) ↔
      cs = digits ++ c :: rest ∧ digits ≠ [] ∧ ∀ d ∈ digits, d.isDigit = true := by
  have hcs : cs.takeWhile Char.isDigit ++ cs.dropWhile Char.isDigit = cs :=
    List.takeWhile_append_dropWhile
  constructor
  · intro h
    rw [splitComponent] at h
    split at h
    next => cases h
    next c' rest' hdrop =>
      dsimp only at h
      split at h
      next hboth =>
        obtain ⟨rfl, hne⟩ := hboth
        obtain ⟨rfl, rfl⟩ := Prod.mk.inj (Option.some.inj h)
        rw [hdrop] at hcs
        exact ⟨hcs.symm, hne, fun d hd => List.mem_takeWhile_imp hd⟩
      next => cases h
  · rintro ⟨rfl, hne, hdigits⟩
    obtain ⟨htake, hdrop⟩ := span_digits hdigits hc rest
    rw [splitComponent, hdrop, htake]
    exact if_pos ⟨rfl, hne⟩

section Orderly

variable {u : Char × Nat} {units : List (Char × Nat)} {components : List Component}

theorem orderly_nil : Orderly units [] := ⟨List.nil_sublist _, fun _ h => absurd h List.not_mem_nil⟩

/-- The first unit may be left out. -/
theorem Orderly.skip (h : Orderly units components) : Orderly (u :: units) components :=
  ⟨h.order.cons u, h.digits⟩

/-- The first unit may be the first component's. -/
theorem Orderly.take (h : Orderly units components) {digits : List Char} (hne : digits ≠ [])
    (hdigits : ∀ d ∈ digits, d.isDigit = true) : Orderly (u :: units) (⟨digits, u⟩ :: components) :=
  ⟨h.order.cons_cons u, List.forall_mem_cons.mpr ⟨⟨hne, hdigits⟩, h.digits⟩⟩

/-- The first unit is left out, or it is the first component's. -/
theorem Orderly.cases (h : Orderly (u :: units) components) :
    Orderly units components ∨ ∃ digits later, components = ⟨digits, u⟩ :: later ∧ digits ≠ [] ∧
      (∀ d ∈ digits, d.isDigit = true) ∧ Orderly units later := by
  obtain ⟨order, digits⟩ := h
  cases components with
  | nil => exact .inl orderly_nil
  | cons first later =>
    rw [List.map_cons] at order
    rcases List.sublist_cons_iff.mp order with hskip | ⟨_, htake, hlater⟩
    · exact .inl ⟨hskip, digits⟩
    · obtain ⟨rfl, rfl⟩ := List.cons_eq_cons.mp htake
      obtain ⟨hne, hdigits⟩ := digits first List.mem_cons_self
      exact .inr ⟨first.digits, later, rfl, hne, hdigits, hlater,
        fun c hc => digits c (List.mem_cons_of_mem first hc)⟩

/-- A text of components begins with the digits of the first. -/
theorem Orderly.begins (h : Orderly units components) (hne : components ≠ []) :
    ∃ digits v rest, v ∈ units ∧ written components = digits ++ v.1 :: rest ∧ digits ≠ [] ∧
      ∀ d ∈ digits, d.isDigit = true := by
  obtain ⟨first, later, rfl⟩ := List.exists_cons_of_ne_nil hne
  obtain ⟨hfirst, hdigits⟩ := h.digits first List.mem_cons_self
  refine ⟨first.digits, first.unit, written later, ?_, ?_, hfirst, hdigits⟩
  · exact h.order.subset (List.mem_map_of_mem List.mem_cons_self)
  · rw [written, List.flatMap_cons, Component.text, List.append_assoc]
    rfl

end Orderly

theorem Orderly.append {units units' : List (Char × Nat)} {components components' : List Component}
    (h : Orderly units components) (h' : Orderly units' components') :
    Orderly (units ++ units') (components ++ components') where
  order := by
    rw [List.map_append]
    exact h.order.append h'.order
  digits c hc := (List.mem_append.mp hc).elim (h.digits c) (h'.digits c)

theorem written_append (components components' : List Component) :
    written (components ++ components') = written components ++ written components' :=
  List.flatMap_append

theorem total_append (components components' : List Component) :
    total (components ++ components') = total components + total components' := by
  induction components with
  | nil => exact (Nat.zero_add _).symm
  | cons c later ih => rw [List.cons_append, total, total, ih, Nat.add_assoc]

theorem written_cons (digits : List Char) (u : Char × Nat) (components : List Component) :
    written (⟨digits, u⟩ :: components) = digits ++ u.1 :: written components := by
  rw [written, List.flatMap_cons, Component.text, List.append_assoc]
  rfl

theorem total_cons (digits : List Char) (u : Char × Nat) (components : List Component) :
    total (⟨digits, u⟩ :: components) = Digits.number digits * u.2 + total components := rfl

/-- Another unit cannot come first where this one does. -/
theorem Orderly.uncons {u : Char × Nat} {units : List (Char × Nat)} {components : List Component}
    {digits rest : List Char} (h : Orderly (u :: units) components)
    (hunits : Designated (u :: units)) (hdigits : ∀ d ∈ digits, d.isDigit = true)
    (hcs : digits ++ u.1 :: rest = written components) :
    ∃ later, components = ⟨digits, u⟩ :: later ∧ Orderly units later ∧ rest = written later := by
  have hletter := hunits.letter u List.mem_cons_self
  have hspan := span_digits hdigits hletter rest
  rw [hcs] at hspan
  rcases h.cases with hlater | ⟨digits', later, rfl, -, hdigits', hlater⟩
  · have hne : components ≠ [] := by
      rintro rfl
      exact List.append_ne_nil_of_right_ne_nil digits (List.cons_ne_nil u.1 rest) hcs
    obtain ⟨digits', v, rest', hv, hwritten, -, hdigits'⟩ := hlater.begins hne
    have hspan' := span_digits hdigits' (hunits.tail.letter v hv) rest'
    rw [hwritten, hspan'.2] at hspan
    have hmem : u.1 ∈ units.map (·.1) :=
      List.head_eq_of_cons_eq hspan.2 ▸ List.mem_map_of_mem hv
    exact absurd hmem (List.nodup_cons.mp hunits.apart).1
  · rw [written_cons] at hspan
    have hspan' := span_digits hdigits' hletter (written later)
    obtain rfl := hspan'.1.symm.trans hspan.1
    obtain rfl := List.tail_eq_of_cons_eq (hspan'.2.symm.trans hspan.2)
    exact ⟨later, rfl, hlater, rfl⟩

/-- A number and its product fit if the sum does. -/
theorem addComponents_take {digits rest : List Char} {u : Char × Nat} {units : List (Char × Nat)}
    (hu : 0 < u.2) {start result : UInt64} {cs : List Char}
    (hsplit : splitComponent u.1 cs = some (digits, rest)) :
    addComponents (u :: units) start cs = some result ↔
      ∃ sum : UInt64, sum.toNat = start.toNat + Digits.number digits * u.2 ∧
        addComponents units sum rest = some result := by
  rw [addComponents, hsplit]
  simp only [Option.bind_eq_bind, Option.bind_eq_some_iff, word?_eq_some_iff]
  constructor
  · rintro ⟨value, hvalue, product, hproduct, sum, hsum, hrest⟩
    exact ⟨sum, by rw [hsum, hproduct, hvalue], hrest⟩
  · rintro ⟨sum, hsum, hrest⟩
    have hbound := sum.toNat_lt
    have hle : Digits.number digits ≤ Digits.number digits * u.2 := Nat.le_mul_of_pos_right _ hu
    obtain ⟨value, hvalue⟩ := exists_word (by omega : Digits.number digits < 2 ^ 64)
    obtain ⟨product, hproduct⟩ := exists_word (by omega : Digits.number digits * u.2 < 2 ^ 64)
    exact ⟨value, hvalue, product, by rw [hproduct, hvalue], sum, by rw [hsum, hproduct], hrest⟩

/-- Components are added up if they are in order and the sum fits into 64 bits. -/
theorem addComponents_eq_some_iff {units : List (Char × Nat)} (hunits : Designated units)
    {start result : UInt64} {cs : List Char} : addComponents units start cs = some result ↔
      ∃ components, Orderly units components ∧ cs = written components ∧
        result.toNat = start.toNat + total components := by
  induction units generalizing start cs with
  | nil =>
    rw [addComponents]
    constructor
    · intro h
      split at h
      next hcs =>
        cases h
        exact ⟨[], orderly_nil, hcs, rfl⟩
      next => cases h
    · rintro ⟨components, horder, rfl, hresult⟩
      obtain rfl := List.map_eq_nil_iff.mp (List.sublist_nil.mp horder.order)
      exact congrArg some (UInt64.toNat_inj.mp hresult.symm)
  | cons u units ih =>
    have hletter := hunits.letter u List.mem_cons_self
    cases hsplit : splitComponent u.1 cs with
    | none =>
      have hskip : addComponents (u :: units) start cs = addComponents units start cs := by
        rw [addComponents, hsplit]
      rw [hskip, ih hunits.tail]
      constructor
      · rintro ⟨components, horder, hcs, hresult⟩
        exact ⟨components, horder.skip, hcs, hresult⟩
      · rintro ⟨components, horder, rfl, hresult⟩
        rcases horder.cases with hlater | ⟨digits, later, rfl, hne, hdigits, -⟩
        · exact ⟨components, hlater, rfl, hresult⟩
        · have htake := (splitComponent_eq_some_iff hletter).mpr
            ⟨written_cons digits u later, hne, hdigits⟩
          rw [hsplit] at htake
          cases htake
    | some parts =>
      obtain ⟨digits, rest⟩ := parts
      obtain ⟨rfl, hne, hdigits⟩ := (splitComponent_eq_some_iff hletter).mp hsplit
      rw [addComponents_take (hunits.positive u List.mem_cons_self) hsplit]
      simp only [ih hunits.tail]
      constructor
      · rintro ⟨sum, hsum, components, horder, rfl, hresult⟩
        refine ⟨⟨digits, u⟩ :: components, horder.take hne hdigits, (written_cons ..).symm, ?_⟩
        rw [total_cons, hresult, hsum, Nat.add_assoc]
      · rintro ⟨components, horder, hcs, hresult⟩
        obtain ⟨later, rfl, horder', rfl⟩ := horder.uncons hunits hdigits hcs
        rw [total_cons] at hresult
        have hbound := result.toNat_lt
        obtain ⟨sum, hsum⟩ := exists_word
          (by omega : start.toNat + Digits.number digits * u.2 < 2 ^ 64)
        exact ⟨sum, hsum, later, horder', rfl, by rw [hresult, hsum, Nat.add_assoc]⟩

/-! ## The notation -/

/-- A text is the notation of a number of seconds: `P`, components of a date, and then, if there are
any, `T` and components of a time. Blanks around it and the case of ASCII letters do not count. -/
def Denotes (text : String) (seconds : Nat) : Prop :=
  ∃ date time, (Text.trim text).toList.map Char.toUpper =
      'P' :: (written date ++ if time = [] then [] else 'T' :: written time) ∧
    Orderly dateUnits date ∧ Orderly timeUnits time ∧ (date ≠ [] ∨ time ≠ []) ∧
    seconds = total date + total time

theorem Orderly.not_mem_T {components : List Component} (h : Orderly dateUnits components) :
    'T' ∉ written components := by
  intro hmem
  obtain ⟨c, hc, hmem⟩ := List.mem_flatMap.mp hmem
  rw [Component.text, List.mem_append, List.mem_singleton] at hmem
  rcases hmem with hmem | hmem
  · have := (h.digits c hc).2 'T' hmem
    cases this
  · have hunit := h.order.subset (List.mem_map_of_mem hc)
    have hall : ∀ u ∈ dateUnits, 'T' ≠ u.1 := by decide
    exact hall c.unit hunit hmem

theorem Orderly.head?_written {units : List (Char × Nat)} {components : List Component}
    (h : Orderly units components) (hne : components ≠ []) :
    (written components).head?.any Char.isDigit = true := by
  obtain ⟨digits, v, rest, -, hwritten, hdigitsNe, hdigits⟩ := h.begins hne
  obtain ⟨d, ds, rfl⟩ := List.exists_cons_of_ne_nil hdigitsNe
  rw [hwritten]
  exact hdigits d List.mem_cons_self

theorem written_eq_nil_iff {components : List Component} :
    written components = [] ↔ components = [] := by
  rw [written, List.flatMap_eq_nil_iff]
  constructor
  · intro h
    by_contra hne
    obtain ⟨first, later, rfl⟩ := List.exists_cons_of_ne_nil hne
    have hfirst := h first List.mem_cons_self
    exact List.append_ne_nil_of_right_ne_nil _ (List.cons_ne_nil _ _) hfirst
  · rintro rfl c hc
    cases hc

/-- What follows `P` is read if it is a date and optionally a time whose sum fits into 64 bits. -/
theorem sumParts_eq_some_iff {cs : List Char} {result : UInt64} : sumParts cs = some result ↔
    ∃ date time, cs = written date ++ (if time = [] then [] else 'T' :: written time) ∧
      Orderly dateUnits date ∧ Orderly timeUnits time ∧ (date ≠ [] ∨ time ≠ []) ∧
      result.toNat = total date + total time := by
  constructor
  · intro h
    rw [sumParts] at h
    split at h
    next => cases h
    next hne =>
      split at h
      next hdrop =>
        obtain ⟨date, hdate, rfl, hresult⟩ :=
          (addComponents_eq_some_iff designated_dateUnits).mp h
        refine ⟨date, [], (List.append_nil _).symm, hdate, orderly_nil, .inl ?_, ?_⟩
        · exact fun hnil => hne (written_eq_nil_iff.mpr hnil)
        · rw [hresult]
          exact Nat.add_comm _ _
      next t rest hdrop =>
        obtain ⟨seconds, hseconds, h⟩ := Option.bind_eq_some_iff.mp h
        split at h
        next hdigit =>
          obtain ⟨date, hdate, htake, hsum⟩ :=
            (addComponents_eq_some_iff designated_dateUnits).mp hseconds
          obtain ⟨time, htime, rfl, hresult⟩ :=
            (addComponents_eq_some_iff designated_timeUnits).mp h
          have htimeNe : time ≠ [] := by
            rintro rfl
            cases hdigit
          refine ⟨date, time, ?_, hdate, htime, .inr htimeNe, ?_⟩
          · rw [if_neg htimeNe, ← htake]
            exact Text.joined_of_cut hdrop
          · rw [hresult, hsum]
            exact congrArg (· + _) (Nat.zero_add _)
        next => cases h
  · rintro ⟨date, time, rfl, hdate, htime, hne, hresult⟩
    rw [sumParts]
    by_cases htimeNil : time = []
    · subst htimeNil
      have hdateNe := hne.resolve_right fun h => h rfl
      rw [if_pos rfl, List.append_nil, if_neg fun h => hdateNe (written_eq_nil_iff.mp h),
        (Text.cut_none hdate.not_mem_T).2]
      refine (addComponents_eq_some_iff designated_dateUnits).mpr ⟨date, hdate, rfl, ?_⟩
      rw [hresult]
      exact Nat.add_comm _ _
    · have hbound := result.toNat_lt
      obtain ⟨seconds, hseconds⟩ := exists_word (by omega : total date < 2 ^ 64)
      obtain ⟨htake, hdrop⟩ := Text.cut_at hdate.not_mem_T (written time)
      rw [if_neg htimeNil,
        if_neg (List.append_ne_nil_of_right_ne_nil _ (List.cons_ne_nil _ _)), hdrop, htake]
      refine Option.bind_eq_some_iff.mpr ⟨seconds, ?_, ?_⟩
      · refine (addComponents_eq_some_iff designated_dateUnits).mpr ⟨date, hdate, rfl, ?_⟩
        rw [hseconds]
        exact (Nat.zero_add _).symm
      · rw [if_pos (htime.head?_written htimeNil)]
        refine (addComponents_eq_some_iff designated_timeUnits).mpr ⟨time, htime, rfl, ?_⟩
        rw [hresult, hseconds]

/-- A duration is read from the notation of its seconds. -/
theorem parse_eq_ok_iff {text : String} {d : Duration} :
    parse text = .ok d ↔ Denotes text d.secs.toNat ∧ d.nanos = 0 := by
  have hparse : parse text = .ok d ↔ ∃ rest seconds,
      (Text.trim text).toList.map Char.toUpper = 'P' :: rest ∧ sumParts rest = some seconds ∧
        ofSecs seconds = d := by
    rw [parse]
    constructor
    · intro h
      split at h
      next rest hrest =>
        split at h
        next seconds hsum => exact ⟨rest, seconds, hrest, hsum, Except.ok.inj h⟩
        next => cases h
      next => cases h
    · rintro ⟨rest, seconds, hrest, hsum, rfl⟩
      simp only [hrest, hsum]
  rw [hparse]
  simp only [sumParts_eq_some_iff]
  constructor
  · rintro ⟨rest, seconds, hrest, ⟨date, time, rfl, hdate, htime, hne, hsum⟩, rfl⟩
    exact ⟨⟨date, time, hrest, hdate, htime, hne, hsum⟩, rfl⟩
  · rintro ⟨⟨date, time, htext, hdate, htime, hne, hsum⟩, hnanos⟩
    refine ⟨_, d.secs, htext, ⟨date, time, rfl, hdate, htime, hne, hsum⟩, ?_⟩
    rw [ofSecs, ← hnanos]

theorem eq_of_parse_error {text : String} {e : DurationError} (h : parse text = .error e) :
    e = .invalid text := by
  rw [parse] at h
  split at h
  next =>
    split at h
    next => cases h
    next => exact (Except.error.inj h).symm
  next => exact (Except.error.inj h).symm

/-- A text is read as a duration exactly if it denotes a number of seconds of 64 bits; then the
duration has that many seconds and no nanoseconds. Any other text is refused with an error that
holds it. -/
theorem parse_iff_denotes (text : String) :
    (∀ d, parse text = .ok d ↔ ∃ seconds, Denotes text seconds ∧
      seconds ≤ 0xFFFFFFFFFFFFFFFF ∧ d.secs.toNat = seconds ∧ d.nanos = 0) ∧
    (∀ e, parse text = .error e ↔ e = .invalid text ∧
      ¬ ∃ seconds, Denotes text seconds ∧ seconds ≤ 0xFFFFFFFFFFFFFFFF) := by
  have hok : ∀ d, parse text = .ok d ↔ ∃ seconds, Denotes text seconds ∧
      seconds ≤ 0xFFFFFFFFFFFFFFFF ∧ d.secs.toNat = seconds ∧ d.nanos = 0 := by
    intro d
    rw [parse_eq_ok_iff]
    constructor
    · rintro ⟨hdenotes, hnanos⟩
      exact ⟨d.secs.toNat, hdenotes, Nat.le_of_lt_succ d.secs.toNat_lt, rfl, hnanos⟩
    · rintro ⟨_, hdenotes, -, rfl, hnanos⟩
      exact ⟨hdenotes, hnanos⟩
  refine ⟨hok, fun e => ?_⟩
  constructor
  · intro h
    refine ⟨eq_of_parse_error h, ?_⟩
    rintro ⟨seconds, hdenotes, hbound⟩
    obtain ⟨secs, rfl⟩ := exists_word (Nat.lt_succ_of_le hbound)
    have hread := (hok (ofSecs secs)).mpr ⟨secs.toNat, hdenotes, hbound, rfl, rfl⟩
    rw [h] at hread
    cases hread
  · rintro ⟨rfl, hnone⟩
    cases hread : parse text with
    | error e => rw [eq_of_parse_error hread]
    | ok d =>
      obtain ⟨seconds, hdenotes, hbound, -⟩ := (hok d).mp hread
      exact absurd ⟨seconds, hdenotes, hbound⟩ hnone

end AuditTrail.Duration
