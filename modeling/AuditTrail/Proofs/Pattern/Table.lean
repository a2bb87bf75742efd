import AuditTrail.Proofs.Config.Checking
import AuditTrail.Proofs.Pattern.Notation
import AuditTrail.Proofs.Text.Length

/-
  Patterns given as tables of a type and a value. A table is read as the text that has a colon
  between the two. If the type is a word, that colon is the first one, and what is read is what the
  table says. Otherwise the reader splits the text elsewhere or not at all, and a part of the type
  ends up in the value (`value_ne_of_not_word`).

  Main statement: `honest_iff`. A table means what it says exactly if its type is a word or the
  table is refused.
-/
namespace AuditTrail

/-! ## Values -/

namespace PatternKind

/-- A value as the patterns of a kind hold it. -/
def kept (kind : PatternKind) (value : String) : String :=
  match kind with
  | .regex => value
  | _ => Text.lower value

/-- What stands before a colon makes a difference in what is held. -/
theorem kept_ne (kind : PatternKind) (front value : String) :
    kind.kept (front ++ ":" ++ value) ≠ kind.kept value := by
  have hcolon : Text.lowerLength ":" = 1 := by decide
  have hlower : Text.lower (front ++ ":" ++ value) ≠ Text.lower value := by
    apply Text.lower_ne_of_lowerLength_ne
    rw [Text.lowerLength_append, Text.lowerLength_append, hcolon]
    omega
  cases kind with
  | glob => exact hlower
  | plain => exact hlower
  | regex =>
    intro heq
    have hlength := congrArg String.length heq
    have hone : ":".length = 1 := rfl
    rw [kept, kept, String.length_append, String.length_append, hone] at hlength
    omega

end PatternKind

namespace Pattern

theorem ofKind_eq_ok {kind : PatternKind} {value : String} {p : Pattern}
    (h : ofKind kind value = .ok p) : p.kind = kind ∧ p.value = kind.kept value := by
  cases kind with
  | glob =>
    rw [ofKind, glob] at h
    split at h
    · cases h
      exact ⟨rfl, rfl⟩
    · cases h
  | plain =>
    cases h
    exact ⟨rfl, rfl⟩
  | regex =>
    rw [ofKind, regex] at h
    split at h
    · cases h
      exact ⟨rfl, rfl⟩
    · cases h

/-- Where the type is no word, a part of it goes into the value. -/
theorem value_ne_of_not_word {type value : String} (hword : ¬ IsWord type) {p : Pattern}
    (h : parse (type ++ ":" ++ value) = .ok p) : p.value ≠ p.kind.kept value := by
  rcases ofKind_of_parse h with hwhole | ⟨name, rest, kind, hname, htext, hrest⟩
  · obtain ⟨hkind, hvalue⟩ := ofKind_eq_ok hwhole
    rw [hvalue, hkind]
    exact PatternKind.kept_ne _ type value
  · obtain ⟨rfl, hvalue⟩ := ofKind_eq_ok hrest
    have hne : name ≠ type := by
      rintro rfl
      exact hword hname
    have hlists : type.toList ++ ':' :: value.toList = name.toList ++ ':' :: rest.toList := by
      rw [← toList_joined, ← toList_joined, htext]
    -- The first colon stands in the type, so what follows it there goes before the value.
    obtain ⟨inner, hinner⟩ : ∃ inner, rest.toList = inner ++ ':' :: value.toList := by
      rcases List.append_eq_append_iff.mp hlists with ⟨more, hmore, htail⟩ | ⟨more, hmore, htail⟩
      · cases more with
        | nil => exact absurd (String.toList_inj.mp (by rw [hmore, List.append_nil])) hne
        | cons c more =>
          obtain ⟨rfl, -⟩ := List.cons_eq_cons.mp htail
          exact absurd (hmore ▸ List.mem_append_right _ List.mem_cons_self) hname.not_mem
      · cases more with
        | nil => exact absurd (String.toList_inj.mp (by rw [hmore, List.append_nil])).symm hne
        | cons c more => exact ⟨more, List.tail_eq_of_cons_eq htail⟩
    have hjoined : rest = String.ofList inner ++ ":" ++ value := by
      rw [← String.toList_inj, toList_joined, String.toList_ofList, hinner]
    rw [hvalue, hjoined]
    exact p.kind.kept_ne _ value

/-! ## Tables -/

/-- A table of a type and a value. -/
def table (type value : String) : Json :=
  .object [("type", .string type), ("value", .string value)]

theorem pattern_table (w : Notation) (type value : String) :
    Decoder.pattern w (table type value) =
      (parse (type ++ ":" ++ value)).mapError .pattern := rfl

/-- In every list of patterns a table is looked at as it is read. -/
theorem check_table {path : List String} (hpath : path ∈ Config.patternLists) (w : Notation)
    (type value : String) : Config.check (Config.listing path [table type value]) = .ok () ↔
      ∃ p, Decoder.pattern w (table type value) = .ok p := by
  rw [Config.check_listing hpath, pattern_table]
  have htext : Config.patternText? (table type value) = some (type ++ ":" ++ value) := rfl
  rw [Config.badPattern?, htext]
  dsimp only
  cases parse (type ++ ":" ++ value) with
  | ok p => exact ⟨fun _ => ⟨p, rfl⟩, fun _ => rfl⟩
  | error e =>
    constructor
    · intro h
      cases h
    · rintro ⟨p, hp⟩
      cases hp

/-- A table means what it says. -/
structure Honest (w : Notation) (type value : String) : Prop where
  /-- What is read is of the kind that the type names and holds the value alone. -/
  read : ∀ p, Decoder.pattern w (table type value) = .ok p →
    p.kind.NamedBy type ∧ p.value = p.kind.kept value
  /-- What is refused is an unknown kind or an expression that cannot be read. -/
  refused : ∀ e, Decoder.pattern w (table type value) = .error e →
    (∃ name, e = .pattern (.unknownKind name)) ∨
      ∃ expression, e = .pattern (.invalidExpression expression)
  /-- A type that names no kind is refused. -/
  unnamed : (∀ kind : PatternKind, ¬ kind.NamedBy type) →
    ∃ e, Decoder.pattern w (table type value) = .error e
  /-- The check of a configuration accepts the table in a list of patterns if it can be read. -/
  checked : ∀ path ∈ Config.patternLists,
    (Config.check (Config.listing path [table type value]) = .ok () ↔
      ∃ p, Decoder.pattern w (table type value) = .ok p)

/-- What is read under a type that is a word is what the table says. -/
theorem read_of_isWord {type : String} (hword : IsWord type) {value : String} {p : Pattern}
    (h : parse (type ++ ":" ++ value) = .ok p) :
    p.kind.NamedBy type ∧ p.value = p.kind.kept value := by
  by_cases hkind : ∃ kind : PatternKind, kind.NamedBy type
  · obtain ⟨kind, hkind⟩ := hkind
    rw [parse_of_namedBy hword hkind] at h
    obtain ⟨rfl, hvalue⟩ := ofKind_eq_ok h
    exact ⟨hkind, hvalue⟩
  · rw [parse_of_unnamed hword (not_exists.mp hkind)] at h
    cases h

/-- Only what is read can be other than the table says. -/
theorem honest_of_read {w : Notation} {type value : String}
    (hread : ∀ p, parse (type ++ ":" ++ value) = .ok p →
      p.kind.NamedBy type ∧ p.value = p.kind.kept value) : Honest w type value where
  read p hp := hread p (Decoder.mapError_eq_ok.mp hp)
  refused e he := by
    rw [pattern_table] at he
    cases hparse : parse (type ++ ":" ++ value) with
    | ok p =>
      rw [hparse] at he
      cases he
    | error cause =>
      rw [hparse] at he
      cases he
      cases cause with
      | unknownKind name => exact .inl ⟨name, rfl⟩
      | invalidExpression expression => exact .inr ⟨expression, rfl⟩
  unnamed hnone := by
    rw [pattern_table]
    cases hparse : parse (type ++ ":" ++ value) with
    | ok p => exact absurd (hread p hparse).1 (hnone p.kind)
    | error cause => exact ⟨.pattern cause, rfl⟩
  checked path hpath := check_table hpath w type value

/-- A table means what it says exactly if its type is a run of letters, digits and underscores or
the table is refused. -/
theorem honest_iff (w : Notation) (type value : String) : Honest w type value ↔
    (∀ c ∈ type.toList, isKindChar c = true) ∨
      ∃ e, Decoder.pattern w (table type value) = .error e := by
  constructor
  · intro h
    by_cases hword : IsWord type
    · exact .inl hword
    · right
      cases hread : Decoder.pattern w (table type value) with
      | error e => exact ⟨e, rfl⟩
      | ok p =>
        have hparse := Decoder.mapError_eq_ok.mp hread
        exact absurd (h.read p hread).2 (value_ne_of_not_word hword hparse)
  · rintro (hword | ⟨e, he⟩)
    · exact honest_of_read fun p => read_of_isWord hword
    · refine honest_of_read fun p hp => ?_
      rw [pattern_table, hp] at he
      cases he

/-- A type that is no word and names no kind is accepted, and becomes a part of the value. -/
theorem dottedType_in_value :
    Decoder.pattern .json (table "fuzzy.x" "y") = .ok ⟨.glob, "fuzzy.x:y"⟩ ∧
      (∀ kind : PatternKind, ¬ kind.NamedBy "fuzzy.x") ∧ ¬ Honest .json "fuzzy.x" "y" := by
  have hread : Decoder.pattern .json (table "fuzzy.x" "y") = .ok ⟨.glob, "fuzzy.x:y"⟩ := by
    decide +kernel
  have hnone : ∀ kind : PatternKind, ¬ kind.NamedBy "fuzzy.x" := by
    intro kind
    cases kind <;> decide +kernel
  exact ⟨hread, hnone, fun h => hnone .glob (h.read _ hread).1⟩

end Pattern

end AuditTrail
