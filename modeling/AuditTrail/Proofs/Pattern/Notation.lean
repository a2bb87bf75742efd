import AuditTrail.Pattern
import AuditTrail.Proofs.Glob.Lowering
import AuditTrail.Proofs.Text.Separator

/-
  How the notation `kind:value` of patterns is read. A word in front of a colon is taken for the
  name of a kind: what follows is the value of a pattern of that kind (`parse_of_namedBy`), and a
  word that names none is refused (`parse_of_unnamed`).
-/
namespace AuditTrail

namespace PatternKind

/-- The letters by which a kind is recognised. -/
def initials : PatternKind → List Char
  | .glob => ['g', 'l']
  | .plain => ['p', 'l']
  | .regex => ['r', 'e']

/-- A text names a kind if it begins with the letters of the kind, in whatever case. The empty text
names wildcards. -/
def NamedBy (kind : PatternKind) (name : String) : Prop :=
  kind.initials <+: (Text.lower name).toList ∨ kind = .glob ∧ name = ""

instance (kind : PatternKind) (name : String) : Decidable (kind.NamedBy name) :=
  inferInstanceAs (Decidable (_ ∨ _))

end PatternKind

namespace Pattern

/-- A text that can stand for a kind. -/
def IsWord (name : String) : Prop := ∀ c ∈ name.toList, isKindChar c = true

theorem IsWord.not_mem {name : String} (h : IsWord name) : ':' ∉ name.toList :=
  fun hmem => absurd (h ':' hmem) (by decide)

theorem toList_joined (name value : String) :
    (name ++ ":" ++ value).toList = name.toList ++ ':' :: value.toList := by
  rw [String.toList_append, String.toList_append, List.append_assoc]
  rfl

/-- A word before a colon is taken for a kind. -/
theorem parse_joined {name : String} (hword : IsWord name) (value : String) :
    parse (name ++ ":" ++ value) = ofNamed (Text.lower name) value := by
  obtain ⟨htake, hdrop⟩ := Text.cut_at hword.not_mem value.toList
  have hall : name.toList.all isKindChar = true := List.all_eq_true.mpr hword
  rw [parse, toList_joined, htake, hdrop, hall]
  simp only [String.ofList_toList]
  rfl

theorem parse_of_namedBy {name : String} (hword : IsWord name) {kind : PatternKind}
    (h : kind.NamedBy name) (value : String) :
    parse (name ++ ":" ++ value) = ofKind kind value := by
  rw [parse_joined hword]
  rcases h with ⟨rest, hname⟩ | ⟨rfl, rfl⟩
  · rw [ofNamed, ← hname]
    cases kind <;> rfl
  · rfl

theorem eq_empty_of_lower {name : String} (h : (Text.lower name).toList = []) : name = "" := by
  rw [Text.lower, String.toList_ofList] at h
  have hsame := Text.respelled_lowerFrom [] name.toList
  rw [h] at hsame
  exact String.toList_inj.mp hsame.eq_nil

theorem parse_of_unnamed {name : String} (hword : IsWord name)
    (h : ∀ kind : PatternKind, ¬ kind.NamedBy name) (value : String) :
    parse (name ++ ":" ++ value) = .error (.unknownKind (Text.lower name)) := by
  rw [parse_joined hword, ofNamed]
  split
  next hname => exact absurd (.inr ⟨rfl, eq_empty_of_lower hname⟩) (h .glob)
  next rest hname => exact absurd (.inl ⟨rest, hname.symm⟩) (h .glob)
  next rest hname => exact absurd (.inl ⟨rest, hname.symm⟩) (h .plain)
  next rest hname => exact absurd (.inl ⟨rest, hname.symm⟩) (h .regex)
  next => rfl

/-- What is read as a pattern is the whole text as a wildcard pattern, or what follows a word that
names a kind. -/
theorem ofKind_of_parse {text : String} {p : Pattern} (h : parse text = .ok p) :
    ofKind .glob text = .ok p ∨ ∃ name value kind, IsWord name ∧ text = name ++ ":" ++ value ∧
      ofKind kind value = .ok p := by
  by_cases hsplit : ∃ name value, IsWord name ∧ text = name ++ ":" ++ value
  · obtain ⟨name, value, hword, rfl⟩ := hsplit
    by_cases hkind : ∃ kind : PatternKind, kind.NamedBy name
    · obtain ⟨kind, hkind⟩ := hkind
      rw [parse_of_namedBy hword hkind] at h
      exact .inr ⟨name, value, kind, hword, rfl, h⟩
    · rw [parse_of_unnamed hword (not_exists.mp hkind)] at h
      cases h
  · left
    rw [parse] at h
    split at h
    next => exact h
    next c value hdrop =>
      split at h
      next => exact h
      next hword =>
        refine absurd ⟨String.ofList (text.toList.takeWhile (· ≠ ':')), String.ofList value, ?_, ?_⟩
          hsplit
        · rw [IsWord, String.toList_ofList, ← List.all_eq_true]
          simpa using hword
        · rw [← String.toList_inj, toList_joined, String.toList_ofList, String.toList_ofList]
          exact Text.joined_of_cut hdrop

end Pattern

end AuditTrail
