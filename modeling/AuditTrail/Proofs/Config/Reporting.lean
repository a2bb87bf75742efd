import AuditTrail.Proofs.Config.Ages
import AuditTrail.Proofs.Config.Checking
import AuditTrail.Proofs.Json.Faults

/-
  Which bad patterns and ages are reported by key. The look that is taken at them first goes through
  the lists of patterns and the greatest ages and reports the first one in which it finds a fault
  (`check_eq`). It finds a fault exactly in what the readers of the sections refuse, apart from one
  thing: a number of seconds that is too large is an age it does not object to (`refuses_iff`, from
  `accepts_patterns_iff` and `accepts_age_iff`). So of a configuration that is refused for its
  patterns and ages only, the first bad one is reported, unless it is such a number
  (`first_offending_reported_iff`).
-/
namespace AuditTrail

/-- A number of seconds from `2 ^ 64` on, or no finite number. -/
def Json.TooManySeconds : Json → Prop
  | .int n => 0x10000000000000000 ≤ n
  | .double x => x.isFinite = true →
      x.isBelowZero = false ∧ 0x10000000000000000 * 1000000000 ≤ x.nanos
  | _ => False

namespace Config

/-! ## Places -/

/-- A place of a configuration that is looked at before the sections are read. -/
inductive Place where
  | patterns (path : List String)
  | age (c : Category)
  deriving DecidableEq

namespace Place

/-- All places, in the order in which they are looked at. -/
def all : List Place := patternLists.map .patterns ++ Category.all.map .age

def path : Place → List String
  | patterns path => path
  | age c => [c.name, "max_age"]

/-- The dotted key of a place. -/
def key (p : Place) : String := ".".intercalate p.path

/-- The fault that is found in a value at a place. -/
def fault? : Place → Json → Option ConfigError
  | patterns path, .array items => (badPattern? items).map (.invalidPattern (".".intercalate path))
  | patterns _, _ => none
  | age c, v => (badAge? v).map (.invalidDuration (".".intercalate [c.name, "max_age"]))

/-- An error reports a place by its key. -/
def Reports : Place → ConfigError → Prop
  | patterns path, .invalidPattern field _ => field = (patterns path).key
  | age c, .invalidDuration field _ => field = (age c).key
  | _, _ => False

/-- The reader of the sections does not take a value at a place. -/
def Refuses : Place → Json → Prop
  | patterns _, v => ¬ (Decoder.list Decoder.pattern).Accepts .json v
  | age _, v => ¬ Decoder.maxAge.Accepts .json v

/-- A value at a place has the form of what belongs there: texts and tables of a kind and a value
in a list of patterns, a text or a number as an age. -/
def Shaped : Place → Json → Prop
  | patterns _, .array items => ∀ v ∈ items, (patternText? v).isSome = true
  | patterns _, _ => False
  | age _, .string _ => True
  | age _, .int _ => True
  | age _, .double _ => True
  | age _, _ => False

/-- A value at a place is an age of too many seconds. -/
def TooLarge : Place → Json → Prop
  | patterns _, _ => False
  | age _, v => v.TooManySeconds

end Place

/-- The fault of a configuration at a place. -/
def faultAt? (v : Json) (p : Place) : Option ConfigError := (valueAt? v p.path).bind p.fault?

/-! ## The first fault -/

/-- A walk over a list stops at the first fault. -/
theorem forIn_eq_findSome? {α ε : Type} (fault? : α → Option ε)
    {f : α → PUnit → Except ε (ForInStep PUnit)}
    (h : ∀ a, f a ⟨⟩ = (fault? a).elim (.ok (.yield ⟨⟩)) .error) (as : List α) :
    forIn as PUnit.unit f = (as.findSome? fault?).elim (.ok ⟨⟩) .error := by
  induction as with
  | nil => rfl
  | cons a as ih =>
    rw [List.forIn_cons, h, List.findSome?_cons]
    cases fault? a with
    | none => exact ih
    | some e => rfl

/-- The look reports the first fault. -/
theorem check_eq (v : Json) :
    check v = (Place.all.findSome? (faultAt? v)).elim (.ok ()) .error := by
  rw [check, Place.all, List.findSome?_append, List.findSome?_map, List.findSome?_map,
    forIn_eq_findSome? (faultAt? v ∘ .patterns) ?patterns,
    forIn_eq_findSome? (faultAt? v ∘ .age) ?ages]
  case patterns =>
    intro path
    show _ = ((valueAt? v path).bind (Place.patterns path).fault?).elim _ _
    cases valueAt? v path with
    | none => rfl
    | some x =>
      cases x with
      | array items => cases hbad : badPattern? items <;> simp [Place.fault?, hbad] <;> rfl
      | _ => rfl
  case ages =>
    intro c
    show _ = ((valueAt? v [c.name, "max_age"]).bind (Place.age c).fault?).elim _ _
    dsimp only
    cases valueAt? v [c.name, "max_age"] with
    | none => rfl
    | some x => cases hbad : badAge? x <;> simp [Place.fault?, hbad] <;> rfl
  cases patternLists.findSome? (faultAt? v ∘ Place.patterns) with
  | some e => rfl
  | none => cases Category.all.findSome? (faultAt? v ∘ Place.age) <;> rfl

/-- A fault names its place. -/
theorem reports_of_fault? {p : Place} {x : Json} {e : ConfigError} (h : p.fault? x = some e) :
    p.Reports e := by
  cases p with
  | patterns path =>
    cases x with
    | array items =>
      obtain ⟨bad, -, rfl⟩ := Option.map_eq_some_iff.mp h
      rfl
    | _ => cases h
  | age c =>
    obtain ⟨bad, -, rfl⟩ := Option.map_eq_some_iff.mp h
    rfl

/-- No two places have the same key. -/
theorem keys_nodup : (Place.all.map Place.key).Nodup := by decide +kernel

theorem Place.Reports.key_eq {p q : Place} {e : ConfigError} (hp : p.Reports e)
    (hq : q.Reports e) : p.key = q.key := by
  cases e with
  | invalidPattern field bad =>
    cases p <;> cases q
    · exact hp.symm.trans hq
    all_goals first | exact hp.elim | exact hq.elim
  | invalidDuration field bad =>
    cases p <;> cases q
    · exact hp.elim
    · exact hp.elim
    · exact hq.elim
    · exact hp.symm.trans hq
  | _ => cases p <;> exact hp.elim

/-! ## What the readers of the sections refuse -/

theorem patternText?_read {v : Json} {text : String} (h : patternText? v = some text)
    (w : Notation) : Decoder.pattern w v = (Pattern.parse text).mapError .pattern := by
  cases v with
  | string s =>
    cases h
    rfl
  | object ms =>
    rw [patternText?] at h
    split at h
    next kind value hkind hvalue =>
      cases h
      simp only [Decoder.pattern, hkind, hvalue]
    next => cases h
  | _ => cases h

/-- A list of texts and tables is read as patterns unless the look finds a bad one. -/
theorem accepts_patterns_iff {items : List Json} (w : Notation)
    (hshaped : ∀ v ∈ items, (patternText? v).isSome = true) :
    (Decoder.list Decoder.pattern).Accepts w (.array items) ↔ badPattern? items = none := by
  rw [Decoder.Accepts, Decoder.list]
  induction items with
  | nil => exact iff_of_true ⟨[], rfl⟩ rfl
  | cons v items ih =>
    rw [List.forall_mem_cons] at hshaped
    obtain ⟨text, htext⟩ := Option.isSome_iff_exists.mp hshaped.1
    rw [badPattern?, htext]
    simp only [List.mapM_cons, patternText?_read htext]
    cases Pattern.parse text with
    | error e =>
      refine iff_of_false ?_ (Option.some_ne_none e)
      rintro ⟨ps, h⟩
      exact Decoder.error_ne_ok _ ps h
    | ok p =>
      rw [← ih hshaped.2]
      constructor
      · rintro ⟨ps, h⟩
        obtain ⟨_, -, h⟩ := Decoder.bind_eq_ok.mp h
        obtain ⟨qs, hqs, -⟩ := Decoder.bind_eq_ok.mp h
        exact ⟨qs, hqs⟩
      · rintro ⟨qs, hqs⟩
        exact ⟨p :: qs, by rw [hqs]; rfl⟩

/-- A text or a number is read as an age unless the look finds it bad or it is too large. -/
theorem accepts_age_iff {c : Category} {x : Json} (w : Notation)
    (hshaped : (Place.age c).Shaped x) :
    Decoder.maxAge.Accepts w x ↔ badAge? x = none ∧ ¬ x.TooManySeconds := by
  cases x with
  | string s =>
    rw [badAge?]
    cases hparse : Duration.parse s with
    | ok d =>
      have hread : Decoder.maxAge w (.string s) = .ok (some d) := by
        rw [Decoder.maxAge, hparse]
        rfl
      exact iff_of_true ⟨some d, hread⟩ ⟨rfl, id⟩
    | error e =>
      have hread : Decoder.maxAge w (.string s) = .error (.duration e) := by
        rw [Decoder.maxAge, hparse]
        rfl
      exact iff_of_false (Decoder.not_accepts_of_error hread) fun h => by cases h.1
  | int n =>
    rw [Decoder.Accepts, Decoder.maxAge, badAge?, Json.TooManySeconds]
    by_cases hbelow : n < 0
    · rw [if_pos hbelow, if_pos hbelow]
      refine iff_of_false ?_ fun h => by cases h.1
      rintro ⟨age, h⟩
      split at h <;> cases h
    · rw [if_neg hbelow, if_neg hbelow]
      by_cases hfits : n < 0x10000000000000000
      · rw [if_pos hfits]
        exact iff_of_true ⟨_, rfl⟩ ⟨rfl, Int.not_le.mpr hfits⟩
      · rw [if_neg hfits]
        refine iff_of_false ?_ fun h => h.2 (Int.not_lt.mp hfits)
        rintro ⟨age, h⟩
        exact Decoder.error_ne_ok _ age h
  | double x =>
    have hread : Decoder.maxAge.Accepts w (.double x) ↔ x.isBelowZero = false ∧
        x.isFinite = true ∧ x.nanos < 0x10000000000000000 * 1000000000 := by
      rw [← Duration.exists_toNanos_iff]
      constructor
      · rintro ⟨age, h⟩
        obtain ⟨d, hd, -⟩ := Decoder.map_eq_ok.mp h
        obtain ⟨hzero, hfinite, hnanos⟩ :=
          Duration.ofSeconds_eq_ok_iff.mp (Decoder.mapError_eq_ok.mp hd)
        exact ⟨hzero, hfinite, d, hnanos⟩
      · rintro ⟨hzero, hfinite, d, hnanos⟩
        have hd := Duration.ofSeconds_eq_ok_iff.mpr ⟨hzero, hfinite, hnanos⟩
        exact ⟨some d, Decoder.map_eq_ok.mpr ⟨d, Decoder.mapError_eq_ok.mpr hd, rfl⟩⟩
    rw [hread, badAge?, Json.TooManySeconds, ← Nat.not_le]
    cases x.isFinite <;> cases x.isBelowZero <;> simp
  | _ => exact hshaped.elim

/-- What is too large is not found. -/
theorem badAge?_of_tooManySeconds {x : Json} (h : x.TooManySeconds) : badAge? x = none := by
  cases x with
  | int n =>
    have hn : 0x10000000000000000 ≤ n := h
    exact if_neg (by omega)
  | double x =>
    refine if_neg fun hbelow => ?_
    rw [Bool.and_eq_true] at hbelow
    rw [(h hbelow.1).1] at hbelow
    exact absurd hbelow.2 Bool.false_ne_true
  | _ => exact h.elim

/-- The readers refuse what the look finds bad and what is too large. -/
theorem refuses_iff {p : Place} {x : Json} (hshaped : p.Shaped x) :
    p.Refuses x ↔ p.fault? x ≠ none ∨ p.TooLarge x := by
  cases p with
  | patterns path =>
    cases x with
    | array items =>
      rw [Place.Refuses, accepts_patterns_iff .json hshaped, Place.fault?, Ne, Option.map_eq_none_iff]
      exact (or_iff_left id).symm
    | _ => exact hshaped.elim
  | age c =>
    rw [Place.Refuses, accepts_age_iff .json hshaped, Place.fault?, Ne, Option.map_eq_none_iff,
      not_and_or, not_not]
    rfl

theorem fault?_of_tooLarge {p : Place} {x : Json} (h : p.TooLarge x) : p.fault? x = none := by
  cases p with
  | patterns path => exact h.elim
  | age c => exact Option.map_eq_none_iff.mpr (badAge?_of_tooManySeconds h)

/-! ## Bad values and their repair -/

/-- There is a value at a place that the reader of the sections does not take. -/
def Offends (v : Json) (p : Place) : Prop := ∃ x, valueAt? v p.path = some x ∧ p.Refuses x

/-- A place is the first one with such a value. -/
def FirstOffending (v : Json) (p : Place) : Prop :=
  ∃ before after, Place.all = before ++ p :: after ∧ Offends v p ∧ ∀ q ∈ before, ¬ Offends v q

/-- The values at all places have the form of what belongs there. -/
def WellShaped (v : Json) : Prop := ∀ p ∈ Place.all, ∀ x, valueAt? v p.path = some x → p.Shaped x

/-- Changes the first member under a key. -/
def editMember (f : Json → Json) (key : String) : List (String × Json) → List (String × Json)
  | [] => []
  | (k, v) :: rest => if key = k then (k, f v) :: rest else (k, v) :: editMember f key rest

/-- Changes the value at the end of a path of keys. -/
def editAt (f : Json → Json) : List String → Json → Json
  | [], v => f v
  | key :: path, .object ms => .object (editMember (editAt f path) key ms)
  | _ :: _, v => v

/-- Changes the values at all places. -/
def amend (fix : Place → Json → Json) (v : Json) : Json :=
  Place.all.foldl (fun v p => editAt (fix p) p.path v) v

/-- A configuration is refused, but taken with other values in place of those that the readers of
patterns and ages do not take. -/
structure FailsForValues (v : Json) : Prop where
  refused : ∀ c, ofJson v ≠ .ok c
  repaired : ∃ fix : Place → Json → Json, (∀ p x, ¬ p.Refuses x → fix p x = x) ∧
    ∃ c, ofJson (amend fix v) = .ok c

theorem editMember_eq_self {f : Json → Json} {key : String} {ms : List (String × Json)}
    (h : ∀ x, ms.lookup key = some x → f x = x) : editMember f key ms = ms := by
  induction ms with
  | nil => rfl
  | cons m ms ih =>
    obtain ⟨k, v⟩ := m
    rw [editMember]
    by_cases hkey : key = k
    · rw [if_pos hkey, h v (by rw [List.lookup_cons, hkey, beq_self_eq_true])]
    · rw [if_neg hkey, ih fun x hx => h x (by rw [List.lookup_cons, beq_false_of_ne hkey]; exact hx)]

theorem editAt_eq_self {f : Json → Json} {path : List String} {v : Json}
    (h : ∀ x, valueAt? v path = some x → f x = x) : editAt f path v = v := by
  induction path generalizing v with
  | nil => exact h v rfl
  | cons key path ih =>
    cases v with
    | object ms =>
      refine congrArg Json.object (editMember_eq_self fun x hx => ih fun y hy => h y ?_)
      show (Json.get? (.object ms) key).bind (valueAt? · path) = some y
      rw [Json.get?, hx]
      exact hy
    | _ => rfl

/-- Without a bad value there is nothing to change. -/
theorem amend_eq_self {fix : Place → Json → Json} (hfix : ∀ p x, ¬ p.Refuses x → fix p x = x)
    {v : Json} (h : ∀ p ∈ Place.all, ¬ Offends v p) : amend fix v = v := by
  rw [amend]
  generalize Place.all = ps at h
  induction ps with
  | nil => rfl
  | cons p ps ih =>
    rw [List.forall_mem_cons] at h
    rw [List.foldl_cons, editAt_eq_self fun x hx => hfix p x fun hrefuses => h.1 ⟨x, hx, hrefuses⟩]
    exact ih h.2

/-- A configuration that is refused for its values has a first bad one. -/
theorem FailsForValues.exists_first {v : Json} (h : FailsForValues v) :
    ∃ p, FirstOffending v p := by
  have hsome : ∃ p ∈ Place.all, Offends v p := by
    by_contra hnone
    push Not at hnone
    obtain ⟨fix, hfix, c, hc⟩ := h.repaired
    rw [amend_eq_self hfix hnone] at hc
    exact h.refused c hc
  classical
  obtain ⟨q, hq, hoffends⟩ := hsome
  have hfound : (Place.all.find? fun q => decide (Offends v q)).isSome = true :=
    List.find?_isSome.mpr ⟨q, hq, decide_eq_true hoffends⟩
  obtain ⟨p, hp⟩ := Option.isSome_iff_exists.mp hfound
  obtain ⟨hfirst, before, after, hall, hbefore⟩ := List.find?_eq_some_iff_append.mp hp
  refine ⟨p, before, after, hall, of_decide_eq_true hfirst, fun r hr => ?_⟩
  have hr := hbefore r hr
  simpa using hr

/-! ## What is reported -/

/-- A configuration is refused with a report of a place. -/
def ReportedAt (v : Json) (p : Place) : Prop := ∃ e, ofJson v = .error e ∧ p.Reports e

/-- What the look finds is reported at a place. -/
theorem reports_of_check {v : Json} {e : ConfigError} (h : check v = .error e) :
    ∃ p : Place, p.Reports e := by
  rw [check_eq] at h
  cases hfault : Place.all.findSome? (faultAt? v) with
  | none =>
    rw [hfault] at h
    cases h
  | some e' =>
    rw [hfault] at h
    cases h
    obtain ⟨p, -, hat⟩ := List.exists_of_findSome?_eq_some hfault
    obtain ⟨x, -, hx⟩ := Option.bind_eq_some_iff.mp hat
    exact ⟨p, reports_of_fault? hx⟩

/-- What goes wrong after the look is not reported at a place. -/
theorem not_reports_of_readSections {w : Notation} {v : Json} {e : ConfigError}
    (h : readSections w v = .error e) (p : Place) : ¬ p.Reports e := by
  rw [readSections, Decoder.bind_eq_error] at h
  rcases h with h | ⟨c, -, h⟩
  · cases hdecode : Decoder.config w v <;> rw [hdecode] at h <;> cases h
    cases p <;> exact id
  · split at h <;> cases h
    cases p <;> exact id

theorem faultAt?_of_value {v x : Json} {p : Place} (hx : valueAt? v p.path = some x) :
    faultAt? v p = p.fault? x := by
  rw [faultAt?, hx, Option.bind_some]

theorem faultAt?_eq_none {v : Json} (hshaped : WellShaped v) {p : Place} (hp : p ∈ Place.all)
    (h : ¬ Offends v p) : faultAt? v p = none := by
  cases hx : valueAt? v p.path with
  | none => rw [faultAt?, hx, Option.bind_none]
  | some x =>
    rw [faultAt?_of_value hx]
    by_contra hfault
    exact h ⟨x, hx, (refuses_iff (hshaped p hp x hx)).mpr (.inl hfault)⟩

/-- Before the first bad value nothing is found. -/
theorem findSome?_of_first {v : Json} (hshaped : WellShaped v) {p : Place}
    {before after : List Place} (hall : Place.all = before ++ p :: after)
    (hbefore : ∀ q ∈ before, ¬ Offends v q) :
    Place.all.findSome? (faultAt? v) = (p :: after).findSome? (faultAt? v) := by
  have hnone : before.findSome? (faultAt? v) = none :=
    List.findSome?_eq_none_iff.mpr fun q hq =>
      faultAt?_eq_none hshaped (hall ▸ List.mem_append_left _ hq) (hbefore q hq)
  rw [hall, List.findSome?_append, hnone, Option.none_or]

/-- Of a configuration that is refused for its patterns and ages only, the first bad one is reported
by its key exactly if it is not a number of seconds that is too large. -/
theorem first_offending_reported_iff {v : Json} (hshaped : WellShaped v)
    (hfails : FailsForValues v) :
    ∃ p, FirstOffending v p ∧
      (ReportedAt v p ↔ ¬ ∃ x, valueAt? v p.path = some x ∧ p.TooLarge x) := by
  obtain ⟨p, hfirst⟩ := hfails.exists_first
  refine ⟨p, hfirst, ?_⟩
  obtain ⟨before, after, hall, ⟨x, hx, hrefuses⟩, hbefore⟩ := hfirst
  have hmem : p ∈ Place.all := hall ▸ List.mem_append_right _ List.mem_cons_self
  have hfind := findSome?_of_first hshaped hall hbefore
  rw [List.findSome?_cons, faultAt?_of_value hx] at hfind
  rcases (refuses_iff (hshaped p hmem x hx)).mp hrefuses with hfault | hlarge
  · obtain ⟨e, he⟩ := Option.ne_none_iff_exists'.mp hfault
    rw [he] at hfind
    refine iff_of_true ⟨e, ?_, reports_of_fault? he⟩ ?_
    · rw [ofJson, check_eq, hfind]
      rfl
    · rintro ⟨y, hy, hlarge⟩
      cases hx.symm.trans hy
      exact hfault (fault?_of_tooLarge hlarge)
  · rw [fault?_of_tooLarge hlarge] at hfind
    refine iff_of_false ?_ fun h => h ⟨x, hx, hlarge⟩
    rintro ⟨e, he, hreports⟩
    rcases Decoder.bind_eq_error.mp he with hcheck | ⟨_, -, hread⟩
    · -- Another fault is found, and that one is reported at its own place.
      rw [check_eq, hfind] at hcheck
      cases hafter : after.findSome? (faultAt? v) with
      | none =>
        rw [hafter] at hcheck
        cases hcheck
      | some e' =>
        rw [hafter] at hcheck
        cases hcheck
        obtain ⟨q, hq, hat⟩ := List.exists_of_findSome?_eq_some hafter
        obtain ⟨y, -, hy⟩ := Option.bind_eq_some_iff.mp hat
        have hkey : p.key = q.key := hreports.key_eq (reports_of_fault? hy)
        have hnodup := keys_nodup
        rw [hall, List.map_append, List.map_cons, List.nodup_append, List.nodup_cons] at hnodup
        exact hnodup.2.1.1 (hkey ▸ List.mem_map_of_mem hq)
    · exact not_reports_of_readSections hread p hreports

/-- A configuration with a greatest age of changes. -/
def agedModels (age : Json) : Json := .object [("model", .object [("max_age", age)])]

theorem valueAt?_agedModels (age : Json) {p : Place} (hp : p ∈ Place.all) :
    valueAt? (agedModels age) p.path = if p = .age .model then some age else none := by
  simp only [Place.all, patternLists, Category.all, List.map_cons, List.map_nil, List.cons_append,
    List.nil_append, List.mem_cons, List.not_mem_nil, or_false] at hp
  rcases hp with rfl | rfl | rfl | rfl | rfl | rfl | rfl | rfl | rfl | rfl <;> rfl

theorem wellShaped_agedModels {age : Json} (hage : (Place.age .model).Shaped age) :
    WellShaped (agedModels age) := by
  intro p hp x hx
  rw [valueAt?_agedModels age hp] at hx
  split at hx
  next hmodel =>
    cases hx
    rw [hmodel]
    exact hage
  next => cases hx

/-- Its only value can be left out. -/
theorem failsForValues_agedModels {age : Json} (hage : ∀ p : Place, p.Refuses age)
    (hrefused : ∀ c, ofJson (agedModels age) ≠ .ok c) : FailsForValues (agedModels age) where
  refused := hrefused
  repaired := by
    refine ⟨fun _ x => if x = age then .null else x, fun p x hx => if_neg ?_, {}, ?_⟩
    · rintro rfl
      exact hx (hage p)
    · have hamend : amend (fun _ x => if x = age then .null else x) (agedModels age) =
          agedModels .null := by
        simp [amend, agedModels, Place.all, patternLists, Category.all, editAt, editMember,
          Place.path, Category.name]
      rw [hamend]
      decide +kernel

/-- What neither reader takes is bad at every place. -/
theorem refuses_of_errors {x : Json} {e e' : DecodeError}
    (hlist : Decoder.list Decoder.pattern .json x = .error e)
    (hage : Decoder.maxAge .json x = .error e') (p : Place) : p.Refuses x := by
  cases p with
  | patterns path => exact Decoder.not_accepts_of_error hlist
  | age c => exact Decoder.not_accepts_of_error hage

theorem first_offending_reported_tomorrow :
    WellShaped (agedModels (.string "tomorrow")) ∧
      FailsForValues (agedModels (.string "tomorrow")) ∧
      ∃ p, FirstOffending (agedModels (.string "tomorrow")) p ∧
        (ReportedAt (agedModels (.string "tomorrow")) p ↔
          ¬ ∃ x, valueAt? (agedModels (.string "tomorrow")) p.path = some x ∧ p.TooLarge x) := by
  have hshaped : WellShaped (agedModels (.string "tomorrow")) := wellShaped_agedModels trivial
  have hrefused : ofJson (agedModels (.string "tomorrow")) =
      .error (.invalidDuration "model.max_age" (.invalid "tomorrow")) := by decide +kernel
  have hread : Decoder.maxAge .json (.string "tomorrow") =
      .error (.duration (.invalid "tomorrow")) := by decide +kernel
  have hfails : FailsForValues (agedModels (.string "tomorrow")) :=
    failsForValues_agedModels (refuses_of_errors rfl hread) fun c hc => by
      cases hrefused.symm.trans hc
  exact ⟨hshaped, hfails, first_offending_reported_iff hshaped hfails⟩

/-- The number `10 ^ 20`. -/
def largeSeconds : Double := ⟨0x4415af1d78b58c40⟩

/-- It is a bad age that is refused without its key. -/
theorem large_age_unreported :
    WellShaped (agedModels (.double largeSeconds)) ∧
      FailsForValues (agedModels (.double largeSeconds)) ∧
      FirstOffending (agedModels (.double largeSeconds)) (.age .model) ∧
      ofJson (agedModels (.double largeSeconds)) =
        .error (.value .json (.duration (.outOfRange largeSeconds))) ∧
      ¬ ReportedAt (agedModels (.double largeSeconds)) (.age .model) := by
  have hread : Decoder.maxAge .json (.double largeSeconds) =
      .error (.duration (.outOfRange largeSeconds)) := by decide +kernel
  have hage : ∀ p : Place, p.Refuses (.double largeSeconds) := refuses_of_errors rfl hread
  have hrefused : ofJson (agedModels (.double largeSeconds)) =
      .error (.value .json (.duration (.outOfRange largeSeconds))) := by decide +kernel
  have hfails : FailsForValues (agedModels (.double largeSeconds)) :=
    failsForValues_agedModels hage fun c hc => by cases hrefused.symm.trans hc
  refine ⟨wellShaped_agedModels trivial, hfails, ?_, hrefused, ?_⟩
  · have hall : Place.all =
        (patternLists.map .patterns ++ [.age .request]) ++ .age .model :: [.age .unspecified] := rfl
    refine ⟨_, _, hall, ⟨_, rfl, hage _⟩, fun q hq => ?_⟩
    rintro ⟨x, hx, -⟩
    have hne : q ≠ .age .model := by
      rintro rfl
      revert hq
      decide
    rw [valueAt?_agedModels _ (hall ▸ List.mem_append_left _ hq), if_neg hne] at hx
    cases hx
  · rintro ⟨e, he, hreports⟩
    cases hrefused.symm.trans he
    exact hreports

end Config

end AuditTrail
