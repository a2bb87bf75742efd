import AuditTrail.Proofs.Config.Reporting

/-
  When the reading of a configuration breaks off. The seconds and nanoseconds of a table are put
  together without a look at whether they fit, so a table whose nanoseconds carry the seconds over
  64 bits overflows (`Decoder.maxAge_overflows_iff`). No other value does: a configuration overflows
  exactly if the early look at it finds nothing, and one of its sections is read up to such a table
  as the greatest age (`Config.ofJson_overflows_iff`).
-/
namespace AuditTrail

/-- A table whose seconds and nanoseconds make up no span. -/
def Json.Overflows : Json → Prop
  | .object ms => ∃ secs nanos, Decoder.Tabled ms secs nanos ∧
      0x10000000000000000 * 1000000000 ≤ secs * 1000000000 + nanos
  | _ => False

namespace Decoder

theorem overflow_ne_mismatch : DecodeError.durationOverflow ≠ .mismatch := by decide

theorem durationParts_overflows_iff {ms : List (String × Json)} :
    durationParts false .durationOverflow ms = .error .durationOverflow ↔
      (Json.object ms).Overflows := by
  have hread : ∀ {secs nanos}, Tabled ms secs nanos →
      (durationParts false .durationOverflow ms = .error .durationOverflow ↔
        0x10000000000000000 * 1000000000 ≤ secs * 1000000000 + nanos) := fun h => by
    rw [durationParts_of_tabled h, ← Duration.ofNanos?_eq_none_iff]
    cases Duration.ofNanos? _ <;> simp
  constructor
  · intro h
    have hne : durationParts false .durationOverflow ms ≠ .error .mismatch := by
      rw [h]
      exact fun he => overflow_ne_mismatch (Except.error.inj he)
    obtain ⟨secs, nanos, htabled⟩ := tabled_of_ne_mismatch hne
    exact ⟨secs, nanos, htabled, (hread htabled).mp h⟩
  · rintro ⟨secs, nanos, htabled, hlarge⟩
    exact (hread htabled).mpr hlarge

/-- Nothing but a table overflows as a greatest age. -/
theorem maxAge_overflows_iff {w : Notation} {v : Json} :
    maxAge w v = .error .durationOverflow ↔ v.Overflows := by
  cases v with
  | null => exact iff_of_false (error_ne_ok _ _).symm id
  | bool b => exact iff_of_false (fun h => overflow_ne_mismatch (Except.error.inj h).symm) id
  | int n =>
    refine iff_of_false (fun h => ?_) id
    rw [maxAge] at h
    split at h
    · split at h <;> cases h
    · split at h <;> cases h
  | double x =>
    refine iff_of_false (fun h => ?_) id
    have hread := map_eq_error.mp h
    cases hseconds : Duration.ofSeconds x <;> rw [hseconds] at hread <;> cases hread
  | string s =>
    refine iff_of_false (fun h => ?_) id
    have hread := map_eq_error.mp h
    cases hparse : Duration.parse s <;> rw [hparse] at hread <;> cases hread
  | array items => exact iff_of_false (fun h => overflow_ne_mismatch (Except.error.inj h).symm) id
  | object ms => exact map_eq_error.trans durationParts_overflows_iff

/-! ## What never overflows -/

theorem pattern_spares : pattern.Spares .durationOverflow := by
  intro w v h
  have hparse : ∀ text, (Pattern.parse text).mapError DecodeError.pattern ≠
      .error .durationOverflow := by
    intro text
    cases Pattern.parse text <;> exact fun h => by cases h
  cases v with
  | string s => exact hparse s h
  | object ms =>
    rw [pattern] at h
    split at h
    · exact hparse _ h
    · cases h
  | _ => cases h

theorem level_spares : level.Spares .durationOverflow := by
  intro w v h
  unfold level at h
  split at h
  · split at h
    · split at h <;> cases h
    · cases h
  · split at h <;> cases h
  · cases h

theorem patterns_spares : (list pattern).Spares .durationOverflow :=
  list_spares overflow_ne_mismatch pattern_spares

theorem texts_spares : (list string).Spares .durationOverflow :=
  list_spares overflow_ne_mismatch (string_spares overflow_ne_mismatch)

theorem flag_spares : bool.Spares .durationOverflow := bool_spares overflow_ne_mismatch

theorem choices_spares {α : Type} (names : List (String × α)) :
    (list (choice names)).Spares .durationOverflow :=
  list_spares overflow_ne_mismatch (choice_spares overflow_ne_mismatch names)

theorem requestExclude_spares : requestExclude.Spares .durationOverflow := by
  refine record_spares overflow_ne_mismatch ?_
  simp only [List.forall_mem_cons, List.not_mem_nil, false_implies, implies_true, and_true]
  have hstatus : (list (below 0x10000)).Spares .durationOverflow :=
    list_spares overflow_ne_mismatch (below_spares overflow_ne_mismatch _)
  exact ⟨field_spares flag_spares _ _, field_spares patterns_spares _ _,
    field_spares texts_spares _ _, field_spares hstatus _ _⟩

theorem capture_spares : capture.Spares .durationOverflow := by
  refine record_spares overflow_ne_mismatch ?_
  simp only [List.forall_mem_cons, List.not_mem_nil, false_implies, implies_true, and_true]
  exact ⟨field_spares (choices_spares _) _ _, field_spares flag_spares _ _,
    field_spares texts_spares _ _, field_spares texts_spares _ _,
    field_spares (choices_spares _) _ _⟩

theorem modelExclude_spares : modelExclude.Spares .durationOverflow := by
  refine record_spares overflow_ne_mismatch ?_
  simp only [List.forall_mem_cons, List.not_mem_nil, false_implies, implies_true, and_true]
  exact ⟨field_spares flag_spares _ _, field_spares patterns_spares _ _,
    field_spares patterns_spares _ _, field_spares patterns_spares _ _⟩

theorem unspecifiedExclude_spares : unspecifiedExclude.Spares .durationOverflow := by
  refine record_spares overflow_ne_mismatch ?_
  simp only [List.forall_mem_cons, List.not_mem_nil, false_implies, implies_true, and_true]
  exact ⟨field_spares flag_spares _ _, field_spares patterns_spares _ _,
    field_spares patterns_spares _ _⟩

theorem globals_spares : globals.Spares .durationOverflow := by
  refine record_spares overflow_ne_mismatch ?_
  simp only [List.forall_mem_cons, List.not_mem_nil, false_implies, implies_true, and_true]
  refine field_spares (record_spares overflow_ne_mismatch ?_) _ _
  simp only [List.forall_mem_cons, List.not_mem_nil, false_implies, implies_true, and_true]
  exact field_spares patterns_spares _ _

theorem handler_spares : handler.Spares .durationOverflow := by
  refine record_spares overflow_ne_mismatch ?_
  simp only [List.forall_mem_cons, List.not_mem_nil, false_implies, implies_true, and_true]
  exact ⟨field_spares (below_spares overflow_ne_mismatch _) _ _,
    (field_spares flag_spares _ _).rename _⟩

theorem logging_spares : logging.Spares .durationOverflow := by
  refine record_spares overflow_ne_mismatch ?_
  simp only [List.forall_mem_cons, List.not_mem_nil, false_implies, implies_true, and_true]
  have hfilter : (optional string).Spares .durationOverflow :=
    optional_spares (string_spares overflow_ne_mismatch)
  exact ⟨field_spares (choice_spares overflow_ne_mismatch _) _ _,
    field_spares (choice_spares overflow_ne_mismatch _) _ _, field_spares flag_spares _ _,
    field_spares flag_spares _ _, field_spares hfilter _ _, field_spares flag_spares _ _⟩

/-! ## Sections -/

theorem request_overflows_iff {w : Notation} {v : Json} :
    request w v = .error .durationOverflow ↔
      ∃ age, Reaches (request.Accepts w) "max_age" 5 v age ∧ age.Overflows := by
  have hnonempty : Nonempty RequestConfig := ⟨{}⟩
  refine (record_error_iff ?plain ?nodup overflow_ne_mismatch).trans ?_
  case plain =>
    simp only [ageField, List.forall_mem_cons, List.not_mem_nil, false_implies, implies_true,
      field_plain, and_self]
  case nodup =>
    simp only [ageField, List.map_cons, List.map_nil, field_name]
    decide
  simp only [exists_getElem?_cons, not_exists_getElem?_nil, ageField, field_name, field_fails_iff,
    level_spares.iff_false, requestExclude_spares.iff_false, capture_spares.iff_false,
    flag_spares.iff_false, and_false, exists_false, false_or, or_false, maxAge_overflows_iff]
  rfl

theorem model_overflows_iff {w : Notation} {v : Json} :
    model w v = .error .durationOverflow ↔
      ∃ age, Reaches (model.Accepts w) "max_age" 5 v age ∧ age.Overflows := by
  have hnonempty : Nonempty ModelConfig := ⟨{}⟩
  refine (record_error_iff ?plain ?nodup overflow_ne_mismatch).trans ?_
  case plain =>
    simp only [ageField, List.forall_mem_cons, List.not_mem_nil, false_implies, implies_true,
      field_plain, and_self]
  case nodup =>
    simp only [ageField, List.map_cons, List.map_nil, field_name]
    decide
  simp only [exists_getElem?_cons, not_exists_getElem?_nil, ageField, field_name, field_fails_iff,
    level_spares.iff_false, modelExclude_spares.iff_false, flag_spares.iff_false, and_false,
    exists_false, false_or, or_false, maxAge_overflows_iff]
  rfl

theorem unspecified_overflows_iff {w : Notation} {v : Json} :
    unspecified w v = .error .durationOverflow ↔
      ∃ age, Reaches (unspecified.Accepts w) "max_age" 2 v age ∧ age.Overflows := by
  have hnonempty : Nonempty UnspecifiedConfig := ⟨{}⟩
  refine (record_error_iff ?plain ?nodup overflow_ne_mismatch).trans ?_
  case plain =>
    simp only [ageField, List.forall_mem_cons, List.not_mem_nil, false_implies, implies_true,
      field_plain, and_self]
  case nodup =>
    simp only [ageField, List.map_cons, List.map_nil, field_name]
    decide
  simp only [exists_getElem?_cons, not_exists_getElem?_nil, ageField, field_name, field_fails_iff,
    level_spares.iff_false, unspecifiedExclude_spares.iff_false, and_false, exists_false, false_or,
    or_false, maxAge_overflows_iff]
  rfl

theorem config_overflows_iff {w : Notation} {v : Json} :
    config w v = .error .durationOverflow ↔
      (∃ settings, Reaches (config.Accepts w) "request" 2 v settings ∧
        request w settings = .error .durationOverflow) ∨
      (∃ settings, Reaches (config.Accepts w) "model" 3 v settings ∧
        model w settings = .error .durationOverflow) ∨
      (∃ settings, Reaches (config.Accepts w) "unspecified" 4 v settings ∧
        unspecified w settings = .error .durationOverflow) := by
  have hnonempty : Nonempty Config := ⟨{}⟩
  have hmodules : (list category).Spares .durationOverflow := choices_spares _
  refine (record_error_iff ?plain ?nodup overflow_ne_mismatch).trans ?_
  case plain =>
    simp only [List.forall_mem_cons, List.not_mem_nil, false_implies, implies_true, field_plain,
      and_self]
  case nodup =>
    simp only [List.map_cons, List.map_nil, field_name]
    decide
  simp only [exists_getElem?_cons, not_exists_getElem?_nil, field_name, field_fails_iff,
    hmodules.iff_false, globals_spares.iff_false, handler_spares.iff_false,
    logging_spares.iff_false, and_false, exists_false, false_or, or_false]
  rfl

end Decoder

namespace Category

/-- The place of a category among the sections. -/
def place : Category → Nat
  | .request => 2
  | .model => 3
  | .unspecified => 4

/-- The place of the greatest age among the settings of a category. -/
def agePlace : Category → Nat
  | .request => 5
  | .model => 5
  | .unspecified => 2

/-- The settings of a category are taken. -/
def Accepts (w : Notation) : Category → Json → Prop
  | .request => Decoder.request.Accepts w
  | .model => Decoder.model.Accepts w
  | .unspecified => Decoder.unspecified.Accepts w

end Category

namespace Config

open Decoder

/-- A configuration is read up to a value for the greatest age of a category. -/
def ReachesAge (w : Notation) (c : Category) (v age : Json) : Prop :=
  ∃ settings, Reaches (config.Accepts w) c.name c.place v settings ∧
    Reaches (c.Accepts w) "max_age" c.agePlace settings age

theorem decode_overflows_iff {w : Notation} {v : Json} :
    config w v = .error .durationOverflow ↔ ∃ c age, ReachesAge w c v age ∧ age.Overflows := by
  rw [config_overflows_iff]
  simp only [request_overflows_iff, model_overflows_iff, unspecified_overflows_iff]
  constructor
  · rintro (⟨settings, hsettings, age, hage, hlarge⟩ | ⟨settings, hsettings, age, hage, hlarge⟩ |
      ⟨settings, hsettings, age, hage, hlarge⟩)
    · exact ⟨.request, age, ⟨settings, hsettings, hage⟩, hlarge⟩
    · exact ⟨.model, age, ⟨settings, hsettings, hage⟩, hlarge⟩
    · exact ⟨.unspecified, age, ⟨settings, hsettings, hage⟩, hlarge⟩
  · rintro ⟨c, age, ⟨settings, hsettings, hage⟩, hlarge⟩
    cases c with
    | request => exact .inl ⟨settings, hsettings, age, hage, hlarge⟩
    | model => exact .inr (.inl ⟨settings, hsettings, age, hage, hlarge⟩)
    | unspecified => exact .inr (.inr ⟨settings, hsettings, age, hage, hlarge⟩)

/-- A table of seconds and nanoseconds. -/
def ageTable (secs : UInt64) (nanos : UInt32) : Json :=
  .object [("nanos", .nat nanos.toNat), ("secs", .nat secs.toNat)]

theorem tabled_ageTable (secs : UInt64) (nanos : UInt32) :
    Tabled [("nanos", .nat nanos.toNat), ("secs", .nat secs.toNat)] secs.toNat nanos.toNat where
  secs_at := rfl
  secs_lt := secs.toNat_lt
  nanos_at := .inl rfl
  nanos_lt := nanos.toNat_lt
  keys := by simp

theorem readSections_overflows_iff {w : Notation} {v : Json} :
    readSections w v = .error (.value w .durationOverflow) ↔
      config w v = .error .durationOverflow := by
  rw [readSections]
  cases config w v with
  | error e =>
    constructor
    · intro h
      cases h
      rfl
    · intro h
      cases h
      rfl
  | ok c =>
    refine iff_of_false (fun h => ?_) (error_ne_ok _ c).symm
    obtain h | ⟨_, ha, h⟩ := bind_eq_error.mp h
    · cases h
    · cases ha
      split at h <;> cases h

/-- The only values that break off the reading of a configuration are tables whose sum is no span,
and every one does that is reached as a greatest age. Any other table is read as its exact sum. -/
theorem ofJson_overflows_iff (v : Json) (w : Notation) (secs : UInt64) (nanos : UInt32) :
    (ofJson v = .error (.value .json .durationOverflow) ↔
      check v = .ok () ∧ ∃ c age, ReachesAge .json c v age ∧ age.Overflows) ∧
    ((∃ d : Duration, Decoder.maxAge w (ageTable secs nanos) = .ok (some d) ∧
        d.toNanos = secs.toNat * 1000000000 + nanos.toNat) ∨
      (ageTable secs nanos).Overflows ∧
        Decoder.maxAge w (ageTable secs nanos) = .error .durationOverflow) := by
  constructor
  · rw [← decode_overflows_iff, ← readSections_overflows_iff, ofJson, bind_eq_error]
    constructor
    · rintro (hcheck | ⟨_, hcheck, hread⟩)
      · obtain ⟨p, hreports⟩ := reports_of_check hcheck
        cases p <;> exact hreports.elim
      · exact ⟨hcheck, hread⟩
    · rintro ⟨hcheck, hread⟩
      exact .inr ⟨(), hcheck, hread⟩
  · have htabled := tabled_ageTable secs nanos
    by_cases hfits : secs.toNat * 1000000000 + nanos.toNat < 0x10000000000000000 * 1000000000
    · obtain ⟨d, hd⟩ := Duration.exists_toNanos_iff.mpr hfits
      refine .inl ⟨d, ?_, hd⟩
      rw [ageTable, Decoder.maxAge, durationParts_eq_ok_iff.mpr ⟨_, _, htabled, hd⟩]
      rfl
    · have hlarge : (ageTable secs nanos).Overflows := ⟨_, _, htabled, Nat.le_of_not_lt hfits⟩
      exact .inr ⟨hlarge, maxAge_overflows_iff.mpr hlarge⟩

/-- The most seconds there are, and nanoseconds that make up one more. -/
theorem ofJson_overflows_agedModels :
    ofJson (agedModels (ageTable 0xffffffffffffffff 1000000000)) =
      .error (.value .json .durationOverflow) := by
  decide +kernel

end Config

end AuditTrail
