import AuditTrail.Proofs.Glob.Matching
import AuditTrail.Proofs.Rule.Caching
import AuditTrail.Proofs.Rule.Precedence
import AuditTrail.Proofs.Text.Joined

/-
  Which files plain patterns exclude. They are to stand for whole components of a path: all of it,
  its end, or directories in it (`Path.Named`). The path as it is and its ends are compared as they
  stand (`Path.AtEnd`), but directories are found by wildcard patterns made of the value. These
  match where the value, read as a wildcard pattern itself, fits a stretch of the path that goes up
  to a slash or to the end (`Path.Fits`); nothing holds the stretch to begin where a component does.

  Log records are excluded so, whatever was called before (`excluded_iff_fits`). The answers are by
  whole components as long as nothing else fits, and sets in brackets do not keep a value from
  fitting itself (`byComponents_iff`); a name that ends in an excluded one is excluded as well
  (`endOfName_excluded`).
-/
namespace AuditTrail

open Glob (HasSet Matches)
open GlobPart (Ranged InOrder Undoubled)

/-! ## Splitting and joining -/

section Split

variable {separator : Char → Bool} (word : List Char) {cs : List Char}

theorem splitChars_ne_nil (cs : List Char) : splitChars separator word cs ≠ [] := by
  induction cs generalizing word with
  | nil => exact List.cons_ne_nil _ _
  | cons c cs ih =>
    rw [splitChars]
    split
    · exact List.cons_ne_nil _ _
    · exact ih _

/-- What has been read of a component stands in front of the first one. -/
theorem splitChars_word {first : String} {rest : List String}
    (h : splitChars separator [] cs = first :: rest) :
    splitChars separator word cs = (String.ofList word.reverse ++ first) :: rest := by
  induction cs generalizing word first rest with
  | nil =>
    obtain ⟨rfl, rfl⟩ := List.cons_eq_cons.mp h
    exact congrArg (· :: []) (String.append_empty).symm
  | cons c cs ih =>
    rw [splitChars] at h ⊢
    split
    next hc =>
      rw [if_pos hc] at h
      obtain ⟨rfl, rfl⟩ := List.cons_eq_cons.mp h
      exact congrArg (· :: _) (String.append_empty).symm
    next hc =>
      rw [if_neg hc] at h
      obtain ⟨first', rest', hcs⟩ :=
        List.exists_cons_of_ne_nil (@splitChars_ne_nil separator [] cs)
      rw [ih [c] hcs] at h
      obtain ⟨rfl, rfl⟩ := List.cons_eq_cons.mp h
      rw [ih (c :: word) hcs, ← String.append_assoc, ← String.ofList_append, List.reverse_cons]
      rfl

theorem splitChars_of_free (h : ∀ c ∈ cs, separator c = false) :
    splitChars separator word cs = [String.ofList (word.reverse ++ cs)] := by
  induction cs generalizing word with
  | nil => rw [splitChars, List.append_nil]
  | cons c cs ih =>
    have hc : ¬ separator c = true := by
      rw [h c List.mem_cons_self]
      exact Bool.false_ne_true
    rw [splitChars, if_neg hc, ih _ fun d hd => h d (List.mem_cons_of_mem c hd), List.reverse_cons,
      List.append_assoc, List.singleton_append]

theorem splitChars_append (h : ∀ c ∈ cs, separator c = false) {c : Char} (hc : separator c = true)
    (rest : List Char) : splitChars separator word (cs ++ c :: rest) =
      String.ofList (word.reverse ++ cs) :: splitChars separator [] rest := by
  induction cs generalizing word with
  | nil => rw [List.nil_append, splitChars, if_pos hc, List.append_nil]
  | cons d cs ih =>
    have hd : ¬ separator d = true := by
      rw [h d List.mem_cons_self]
      exact Bool.false_ne_true
    rw [List.cons_append, splitChars, if_neg hd, ih _ fun e he => h e (List.mem_cons_of_mem d he),
      List.reverse_cons, List.append_assoc, List.singleton_append]

end Split

theorem toList_intercalate_cons (part next : String) (parts : List String) :
    ("/".intercalate (part :: next :: parts)).toList =
      part.toList ++ '/' :: ("/".intercalate (next :: parts)).toList := by
  rw [String.intercalate_cons_cons, String.toList_append, String.toList_append, List.append_assoc]
  rfl

namespace Path

/-- The components of a text written with slashes. -/
def components (text : String) : List String := splitChars (· == '/') [] text.toList

/-- The components of a path in small letters. -/
def lowered (file : String) : List String := (pathParts file).map Text.lower

theorem components_of_free {text : String} (h : '/' ∉ text.toList) : components text = [text] := by
  have hfree : ∀ c ∈ text.toList, (c == '/') = false :=
    fun c hc => beq_false_of_ne fun heq => h (heq ▸ hc)
  rw [components, splitChars_of_free [] hfree, List.reverse_nil, List.nil_append,
    String.ofList_toList]

theorem components_slash {part : String} (h : '/' ∉ part.toList) (rest : String) :
    components (part ++ "/" ++ rest) = part :: components rest := by
  have hfree : ∀ c ∈ part.toList, (c == '/') = false :=
    fun c hc => beq_false_of_ne fun heq => h (heq ▸ hc)
  have hchars : (part ++ "/" ++ rest).toList = part.toList ++ '/' :: rest.toList := by
    rw [String.toList_append, String.toList_append, List.append_assoc]
    rfl
  rw [components, hchars, splitChars_append [] hfree rfl, List.reverse_nil, List.nil_append,
    String.ofList_toList]
  rfl

/-- Components put together are found again. -/
theorem components_intercalate {parts : List String} (hsome : parts ≠ [])
    (hfree : ∀ part ∈ parts, '/' ∉ part.toList) : components ("/".intercalate parts) = parts := by
  induction parts with
  | nil => exact absurd rfl hsome
  | cons part parts ih =>
    have hpart := hfree part List.mem_cons_self
    cases parts with
    | nil => exact components_of_free hpart
    | cons next parts =>
      rw [String.intercalate_cons_cons, components_slash hpart,
        ih (List.cons_ne_nil _ _) fun part hmem => hfree part (List.mem_cons_of_mem _ hmem)]

theorem components_ne_nil (text : String) : components text ≠ [] := splitChars_ne_nil _ _

/-- A text is put together from its components. -/
theorem intercalate_components (text : String) : "/".intercalate (components text) = text := by
  have hsplit : ∀ word cs : List Char,
      "/".intercalate (splitChars (· == '/') word cs) = String.ofList (word.reverse ++ cs) := by
    intro word cs
    induction cs generalizing word with
    | nil =>
      rw [splitChars, List.append_nil]
      rfl
    | cons c cs ih =>
      rw [splitChars]
      split
      next hslash =>
        obtain rfl := eq_of_beq hslash
        obtain ⟨part, parts, hparts⟩ :=
          List.exists_cons_of_ne_nil (@splitChars_ne_nil (· == '/') [] cs)
        rw [hparts, ← String.toList_inj, toList_intercalate_cons, ← hparts, ih]
        simp only [String.toList_ofList, List.reverse_nil, List.nil_append]
      next => rw [ih, List.reverse_cons, List.append_assoc, List.singleton_append]
  rw [components, hsplit, List.reverse_nil, List.nil_append, String.ofList_toList]

theorem slash_not_mem_pathParts {file part : String} (h : part ∈ pathParts file) :
    '/' ∉ part.toList := by
  intro hslash
  have hfree := forall_mem_splitChars file.toList [] (List.forall_mem_nil _) part
    (List.mem_filter.mp h).1 '/' hslash
  cases hfree

theorem slash_not_mem_lowered {file part : String} (h : part ∈ lowered file) :
    '/' ∉ part.toList := by
  obtain ⟨part, hpart, rfl⟩ := List.mem_map.mp h
  intro hslash
  rw [Text.lower, String.toList_ofList] at hslash
  exact slash_not_mem_pathParts hpart (Text.mem_of_mem_lowerFrom Text.isSign_slash hslash)

/-! ## Whole components -/

/-- A value is a path, or its components stand one after another among those of the path, all in
small letters. -/
def Named (value file : String) : Prop :=
  Text.lower file = value ∨ components value <:+: lowered file

/-- A value is a path, or its components are the last ones of the path, all in small letters. -/
def AtEnd (value file : String) : Prop :=
  Text.lower file = value ∨ components value <:+ lowered file

instance (value file : String) : Decidable (Named value file) :=
  inferInstanceAs (Decidable (_ ∨ _))

instance (value file : String) : Decidable (AtEnd value file) :=
  inferInstanceAs (Decidable (_ ∨ _))

theorem AtEnd.named {value file : String} (h : AtEnd value file) : Named value file :=
  h.imp_right List.IsSuffix.isInfix

/-- The ends of a path that are equal to a value are those of its components. -/
theorem components_suffix_iff {value file : String} : components value <:+ lowered file ↔
    ∃ parts, parts ≠ [] ∧ parts <:+ pathParts file ∧
      Text.lower ("/".intercalate parts) = value := by
  constructor
  · rintro ⟨passed, hpassed⟩
    obtain ⟨_, parts, hparts, -, hmap⟩ := List.map_eq_append_iff.mp hpassed.symm
    refine ⟨parts, fun hnil => ?_, ⟨_, hparts.symm⟩, ?_⟩
    · rw [hnil, List.map_nil] at hmap
      exact splitChars_ne_nil _ _ hmap.symm
    · rw [Text.lower_intercalate, hmap, intercalate_components]
  · rintro ⟨parts, hsome, ⟨passed, hpassed⟩, rfl⟩
    have hmap : passed.map Text.lower ++ parts.map Text.lower = lowered file := by
      rw [lowered, ← hpassed, List.map_append]
    have hfree : ∀ part ∈ parts.map Text.lower, '/' ∉ part.toList := by
      intro part hpart
      exact slash_not_mem_lowered (hmap ▸ List.mem_append_right _ hpart)
    have hlower : parts.map Text.lower ≠ [] := fun hnil => hsome (List.map_eq_nil_iff.mp hnil)
    rw [Text.lower_intercalate, components_intercalate hlower hfree]
    exact ⟨_, hmap⟩

/-! ## Stretches of a path -/

/-- A value, read as a wildcard pattern, fits a stretch of the path in small letters. The path has a
slash in front; the stretch goes up to a slash or to the end, and is not all there is. -/
def Fits (value file : String) : Prop :=
  ∃ before stretch after, '/' :: ("/".intercalate (lowered file)).toList =
      before ++ (stretch ++ after) ∧ Matches Ranged value.toList stretch ∧
    (after = [] ∨ ∃ below, after = '/' :: below) ∧ (before = [] → after ≠ [])

/-- The wildcard patterns made of a value, for what lies below it, for what ends in it and for what
lies below a directory that does. -/
def forms (value : String) : List String := [value ++ "/*", "/*" ++ value, "/*" ++ value ++ "/*"]

end Path

namespace Glob

variable {inSet : List Char → Char → Prop} {value s : List Char}

theorem parse_below (value : List Char) :
    parse (value ++ ['/', '*']) = parse value ++ [.char '/', .run] := by
  rw [parse_append (by decide), parse_char (by decide) (by decide) (by decide), parse, parse]

theorem parse_behind (value : List Char) :
    parse ('/' :: '*' :: value) = .char '/' :: .run :: parse value := by
  rw [parse_char (by decide) (by decide) (by decide), parse]

theorem matches_below : Matches inSet (value ++ ['/', '*']) s ↔
    ∃ stretch below, s = stretch ++ '/' :: below ∧ Matches inSet value stretch := by
  rw [matches_iff, parse_below, accepts_append]
  constructor
  · rintro ⟨stretch, _, rfl, hstretch, _, _, rfl, rfl, below, _, rfl, -, rfl⟩
    rw [List.append_nil]
    exact ⟨stretch, below, rfl, matches_iff.mpr hstretch⟩
  · rintro ⟨stretch, below, rfl, hstretch⟩
    exact ⟨stretch, '/' :: below, rfl, matches_iff.mp hstretch, ['/'], below, rfl, rfl, below, [],
      (List.append_nil below).symm, trivial, rfl⟩

theorem matches_behind : Matches inSet ('/' :: '*' :: value) s ↔
    ∃ passed stretch, s = '/' :: (passed ++ stretch) ∧ Matches inSet value stretch := by
  rw [matches_iff, parse_behind]
  constructor
  · rintro ⟨_, _, rfl, rfl, passed, stretch, rfl, -, hstretch⟩
    exact ⟨passed, stretch, rfl, matches_iff.mpr hstretch⟩
  · rintro ⟨passed, stretch, rfl, hstretch⟩
    exact ⟨['/'], passed ++ stretch, rfl, rfl, passed, stretch, rfl, trivial,
      matches_iff.mp hstretch⟩

end Glob

namespace Path

variable {value file : String}

theorem toList_below (value : String) : (value ++ "/*").toList = value.toList ++ ['/', '*'] := by
  rw [String.toList_append]
  rfl

theorem toList_behind (value : String) : ("/*" ++ value).toList = '/' :: '*' :: value.toList := by
  rw [String.toList_append]
  rfl

/-- The sets of the wildcard patterns made of a value are those of the value. -/
theorem hasSet_of_forms {form : String} (hform : form ∈ forms value) {body : List Char}
    (h : HasSet body form.toList) : HasSet body value.toList := by
  obtain ⟨negated, hset⟩ := Glob.mem_parse_iff.mpr h
  refine Glob.mem_parse_iff.mp ⟨negated, ?_⟩
  simp only [forms, List.mem_cons, List.not_mem_nil, or_false] at hform
  rcases hform with rfl | rfl | rfl
  · rw [toList_below, Glob.parse_below] at hset
    simpa using hset
  · rw [toList_behind, Glob.parse_behind] at hset
    simpa using hset
  · rw [toList_below, toList_behind, Glob.parse_below, Glob.parse_behind] at hset
    simpa using hset

/-- The wildcard patterns made of a value match the path, with or without a slash in front, exactly
where the value fits a stretch of it. -/
theorem fits_iff : Fits value file ↔ ∃ form ∈ forms value,
    Matches Ranged form.toList ('/' :: ("/".intercalate (lowered file)).toList) ∨
      Matches Ranged form.toList ("/".intercalate (lowered file)).toList := by
  simp only [forms, List.mem_cons, List.not_mem_nil, or_false, exists_eq_or_imp, exists_eq_left,
    toList_below, toList_behind, List.cons_append, Glob.matches_below, Glob.matches_behind]
  constructor
  · rintro ⟨before, stretch, after, hpath, hstretch, hafter, hsome⟩
    cases before with
    | nil =>
      rcases hafter with rfl | ⟨below, rfl⟩
      · exact absurd rfl (hsome rfl)
      · exact .inl (.inl ⟨stretch, below, hpath, hstretch⟩)
    | cons c passed =>
      obtain ⟨rfl, -⟩ := List.cons_eq_cons.mp hpath
      rcases hafter with rfl | ⟨below, rfl⟩
      · rw [List.append_nil] at hpath
        exact .inr (.inl (.inl ⟨passed, stretch, hpath, hstretch⟩))
      · exact .inr (.inr (.inl ⟨passed, _, hpath, stretch, below, rfl, hstretch⟩))
  · rintro ((⟨stretch, below, hpath, hstretch⟩ | ⟨stretch, below, hpath, hstretch⟩) |
      (⟨passed, stretch, hpath, hstretch⟩ | ⟨passed, stretch, hpath, hstretch⟩) |
      (⟨passed, _, hpath, stretch, below, rfl, hstretch⟩ |
        ⟨passed, _, hpath, stretch, below, rfl, hstretch⟩))
    · exact ⟨[], stretch, _, hpath, hstretch, .inr ⟨below, rfl⟩, fun _ => List.cons_ne_nil _ _⟩
    · exact ⟨['/'], stretch, _, congrArg ('/' :: ·) hpath, hstretch, .inr ⟨below, rfl⟩,
        fun _ => List.cons_ne_nil _ _⟩
    · exact ⟨'/' :: passed, stretch, [], by rw [hpath, List.append_nil]; rfl, hstretch, .inl rfl,
        fun h => absurd h (List.cons_ne_nil _ _)⟩
    · exact ⟨'/' :: '/' :: passed, stretch, [], by rw [hpath, List.append_nil]; rfl, hstretch,
        .inl rfl, fun h => absurd h (List.cons_ne_nil _ _)⟩
    · exact ⟨'/' :: passed, stretch, _, hpath, hstretch, .inr ⟨below, rfl⟩,
        fun _ => List.cons_ne_nil _ _⟩
    · exact ⟨'/' :: '/' :: passed, stretch, _, congrArg ('/' :: ·) hpath, hstretch,
        .inr ⟨below, rfl⟩, fun _ => List.cons_ne_nil _ _⟩

end Path

/-! ## Plain patterns -/

/-- The sets in brackets of a text, read as a wildcard pattern, are in order and hold no doubled
hyphen, and the wildcard patterns made of it keep within the limit of size. -/
structure Path.Regular (value : String) : Prop where
  sets : ∀ body, HasSet body value.toList → InOrder body ∧ Undoubled body
  sizes : ∀ form ∈ Path.forms value, Pattern.WithinLimit form

namespace Pattern

open AuditTrail.Path

variable {v file : String}

theorem lower_forms {form : String} (hform : form ∈ forms (Text.lower v)) :
    Text.lower form = form := by
  have hsettled : ∀ c ∈ form.toList, Text.Settled c.toNat := by
    have hslash : Text.Settled '/'.toNat := Text.settled_of_isSign (by decide)
    have hstar : Text.Settled '*'.toNat := Text.settled_of_isSign (by decide)
    have hvalue : ∀ c ∈ (Text.lower v).toList, Text.Settled c.toNat := by
      intro c hc
      rw [Text.lower, String.toList_ofList] at hc
      exact Text.settled_of_mem_lowerFrom hc
    intro c hc
    have hchar : c ∈ (Text.lower v).toList ∨ c = '/' ∨ c = '*' := by
      simp only [forms, List.mem_cons, List.not_mem_nil, or_false] at hform
      rcases hform with rfl | rfl | rfl <;>
        simp only [toList_below, toList_behind, List.cons_append, List.mem_cons, List.mem_append,
          List.not_mem_nil, or_false] at hc <;> tauto
    rcases hchar with hc | rfl | rfl
    · exact hvalue c hc
    · exact hslash
    · exact hstar
  rw [Text.lower, Text.lowerFrom_of_settled hsettled, String.ofList_toList]

/-- The wildcard patterns made of a regular value are accepted and match what they say. -/
theorem exists_form (hregular : Regular (Text.lower v)) {form : String}
    (hform : form ∈ forms (Text.lower v)) : ∃ q, glob form = .ok q ∧
      ∀ candidate, q.isMatch candidate = true ↔
        Matches Ranged form.toList (Text.lower candidate).toList := by
  have hlower := lower_forms hform
  have hsets : ∀ body, HasSet body (Text.lower form).toList → InOrder body ∧ Undoubled body := by
    intro body hset
    rw [hlower] at hset
    exact hregular.sets body (hasSet_of_forms hform hset)
  have hundoubled : ∀ body, HasSet body (Text.lower form).toList → Undoubled body :=
    fun body hset => (hsets body hset).2
  obtain ⟨q, hq⟩ := (accepted_iff hundoubled (hregular.sizes form hform)).mpr
    fun body hset => (hsets body hset).1
  refine ⟨q, hq, fun candidate => ?_⟩
  rw [isMatch_iff hundoubled hq, hlower]

theorem isMatch_plain {candidate : String} :
    (plain v).isMatch candidate = true ↔ Text.lower candidate = Text.lower v := by
  rw [isMatch, plain]
  exact beq_iff_eq

/-- A plain pattern matches a path within if its components are the last ones, or its value fits a
stretch. -/
theorem matchesWithin_plain_iff (hregular : Regular (Text.lower v)) :
    (plain v).MatchesWithin file ↔
      components (Text.lower v) <:+ lowered file ∨ Path.Fits (Text.lower v) file := by
  have hbare : Text.lower ("/".intercalate (pathParts file)) = "/".intercalate (lowered file) :=
    Text.lower_intercalate _
  have hslashed : (Text.lower ("/" ++ "/".intercalate (pathParts file))).toList =
      '/' :: ("/".intercalate (lowered file)).toList := by
    rw [Text.toList_lower_slash, hbare]
  rw [components_suffix_iff, fits_iff]
  constructor
  · intro h
    cases h with
    | trailing parts hsome hsuffix hmatch =>
      exact .inl ⟨parts, hsome, hsuffix, isMatch_plain.mp hmatch⟩
    | directory wildcard q hwildcard hglob hmatch =>
      obtain ⟨q', hq', hmatches⟩ := exists_form hregular hwildcard
      obtain rfl := Except.ok.inj (hglob.symm.trans hq')
      rw [hmatches, hmatches, hslashed, hbare] at hmatch
      exact .inr ⟨wildcard, hwildcard, hmatch⟩
  · rintro (⟨parts, hsome, hsuffix, hmatch⟩ | ⟨form, hform, hmatch⟩)
    · exact .trailing parts hsome hsuffix (isMatch_plain.mpr hmatch)
    · obtain ⟨q, hq, hmatches⟩ := exists_form hregular hform
      refine .directory form q hform hq ?_
      rw [hmatches, hmatches, hslashed, hbare]
      exact hmatch

end Pattern

/-! ## Values without brackets -/

namespace Glob

/-- A text without an opening bracket has no sets. -/
theorem not_hasSet {text : List Char} (h : '[' ∉ text) (body : List Char) : ¬ HasSet body text := by
  intro hset
  induction hset with
  | here => exact h List.mem_cons_self
  | behind => exact h List.mem_cons_self
  | unclosed => exact h List.mem_cons_self
  | later _ _ ih => exact ih fun hmem => h (List.mem_cons_of_mem _ hmem)

theorem size_toEnd_cons (part : GlobPart) (g : Glob) :
    (toEnd (part :: g)).size = part.deep.regex.size + (toEnd g).size := rfl

/-- Each character of a text without brackets is a part of its own, and of bounded size. -/
theorem size_toEnd_le {text : List Char} (h : '[' ∉ text) :
    (parse text).toEnd.size ≤ 32 + 500 * text.length := by
  have hrun : GlobPart.run.deep.regex.size ≤ 500 := by decide
  have hone : GlobPart.one.deep.regex.size ≤ 500 := by decide
  have hchar : ∀ c, (GlobPart.char c).deep.regex.size ≤ 500 := by
    intro c
    rw [GlobPart.deep, Regex.size, CharSet.single, CharSet.size]
    split_ifs <;> omega
  induction text using byParts with
  | nil =>
    rw [parse]
    exact Nat.le_refl _
  | run text ih =>
    have hrest := ih fun hmem => h (List.mem_cons_of_mem _ hmem)
    rw [parse, size_toEnd_cons, List.length_cons]
    omega
  | one text ih =>
    have hrest := ih fun hmem => h (List.mem_cons_of_mem _ hmem)
    rw [parse, size_toEnd_cons, List.length_cons]
    omega
  | set => exact absurd List.mem_cons_self h
  | unclosed => exact absurd List.mem_cons_self h
  | self c text hnotRun hnotOne hnotSet ih =>
    have hrest := ih fun hmem => h (List.mem_cons_of_mem _ hmem)
    have hc := hchar c
    rw [parse_char hnotRun hnotOne hnotSet, size_toEnd_cons, List.length_cons]
    omega

/-- A text without brackets matches itself. -/
theorem matches_self {inSet : List Char → Char → Prop} {text : List Char} (h : '[' ∉ text) :
    Matches inSet text text := by
  induction text with
  | nil => exact .nil
  | cons c text ih =>
    have hrest := ih fun hmem => h (List.mem_cons_of_mem _ hmem)
    by_cases hrun : c = '*'
    · subst hrun
      exact @Matches.run inSet text ['*'] text hrest
    by_cases hone : c = '?'
    · subst hone
      exact .one hrest
    exact .self hrun hone (fun hset => h (hset ▸ List.mem_cons_self)) hrest

/-- Characters other than those of wildcard patterns stand for themselves. -/
theorem matches_literal {inSet : List Char → Char → Prop} {text s : List Char}
    (h : ∀ c ∈ text, c ≠ '*' ∧ c ≠ '?' ∧ c ≠ '[') : Matches inSet text s ↔ s = text := by
  constructor
  · intro hmatch
    induction hmatch with
    | nil => rfl
    | run => exact absurd rfl (h _ List.mem_cons_self).1
    | one => exact absurd rfl (h _ List.mem_cons_self).2.1
    | set => exact absurd rfl (h _ List.mem_cons_self).2.2
    | unclosed => exact absurd rfl (h _ List.mem_cons_self).2.2
    | self _ _ _ _ ih =>
      exact congrArg (_ :: ·) (ih fun c hc => h c (List.mem_cons_of_mem _ hc))
  · rintro rfl
    exact matches_self fun hset => (h _ hset).2.2 rfl

end Glob

namespace Path

open Pattern (WithinLimit)

/-- Values without brackets are regular unless they are very long. -/
theorem regular_of_length {v : String} (h : '[' ∉ (Text.lower v).toList)
    (hlength : (Text.lower v).length ≤ 20000) : Regular (Text.lower v) where
  sets body hset := absurd hset (Glob.not_hasSet h body)
  sizes form hform := by
    have hchars : '[' ∉ form.toList ∧ form.toList.length ≤ 20004 := by
      rw [← String.length_toList] at hlength
      simp only [forms, List.mem_cons, List.not_mem_nil, or_false] at hform
      rcases hform with rfl | rfl | rfl
      all_goals
        simp only [toList_below, toList_behind, List.cons_append, List.mem_cons, List.mem_append,
          List.length_cons, List.length_append, List.length_nil, h, List.not_mem_nil, or_false,
          false_or]
        exact ⟨by decide, by omega⟩
    have hlower := Pattern.lower_forms hform
    refine Pattern.withinLimit_of_size (fun body hset => ?_) ?_
    · rw [hlower] at hset
      exact absurd hset (Glob.not_hasSet hchars.1 body)
    · have hsize := Glob.size_toEnd_le hchars.1
      have hregex : (Glob.parse form.toList).regex.size =
          32 + (32 + (Glob.parse form.toList).toEnd.size) := rfl
      rw [hlower, hregex, Regex.sizeLimit]
      omega

/-- Components with a slash in front of each. -/
def slashed (parts : List String) : List Char := parts.flatMap fun part => '/' :: part.toList

theorem slashed_cons (part : String) (parts : List String) :
    slashed (part :: parts) = '/' :: (part.toList ++ slashed parts) := rfl

theorem slashed_append (parts parts' : List String) :
    slashed (parts ++ parts') = slashed parts ++ slashed parts' := List.flatMap_append

theorem slashed_eq {parts : List String} (h : parts ≠ []) :
    '/' :: ("/".intercalate parts).toList = slashed parts := by
  induction parts with
  | nil => exact absurd rfl h
  | cons part parts ih =>
    cases parts with
    | nil => exact congrArg ('/' :: ·) (List.append_nil _).symm
    | cons next parts =>
      rw [toList_intercalate_cons, ih (List.cons_ne_nil _ _), slashed_cons part]

theorem slashed_components (text : String) : slashed (components text) = '/' :: text.toList := by
  rw [← slashed_eq (components_ne_nil text), intercalate_components]

/-- A value without brackets fits its components where they stand, if something follows. -/
theorem Named.atEnd_or_fits {value file : String} (h : Named value file)
    (hplain : '[' ∉ value.toList) : AtEnd value file ∨ Fits value file := by
  rcases h with hwhole | ⟨before, after, hparts⟩
  · exact .inl (.inl hwhole)
  · cases after with
    | nil => exact .inl (.inr ⟨before, by rw [← hparts, List.append_nil]⟩)
    | cons next after =>
      have hsome : lowered file ≠ [] := by
        rw [← hparts]
        exact List.append_ne_nil_of_right_ne_nil _ (List.cons_ne_nil _ _)
      have hafter : slashed (next :: after) ≠ [] := List.cons_ne_nil _ _
      refine .inr ⟨slashed before ++ ['/'], value.toList, slashed (next :: after), ?_,
        Glob.matches_self hplain, .inr ⟨_, rfl⟩, fun _ => hafter⟩
      rw [slashed_eq hsome, ← hparts, slashed_append, slashed_append, slashed_components]
      simp only [List.append_assoc, List.nil_append, List.cons_append]

/-- The last component of one text and the first of another become one. -/
theorem components_append (s : String) : ∃ init last, components s = init ++ [last] ∧
    ∀ t first rest, components t = first :: rest →
      components (s ++ t) = init ++ (last ++ first) :: rest := by
  have hsplit : ∀ word cs : List Char, ∃ init last,
      splitChars (· == '/') word cs = init ++ [last] ∧
      ∀ ds first rest, splitChars (· == '/') [] ds = first :: rest →
        splitChars (· == '/') word (cs ++ ds) = init ++ (last ++ first) :: rest := by
    intro word cs
    induction cs generalizing word with
    | nil => exact ⟨[], String.ofList word.reverse, rfl, fun ds first rest => splitChars_word word⟩
    | cons c cs ih =>
      cases hc : c == '/' with
      | true =>
        obtain ⟨init, last, hcs, happend⟩ := ih []
        refine ⟨String.ofList word.reverse :: init, last, ?_, fun ds first rest hds => ?_⟩
        · rw [splitChars, if_pos hc, hcs, List.cons_append]
        · rw [List.cons_append, splitChars, if_pos hc, happend ds first rest hds, List.cons_append]
      | false =>
        have hnot : ¬ (c == '/') = true := by
          rw [hc]
          exact Bool.false_ne_true
        obtain ⟨init, last, hcs, happend⟩ := ih (c :: word)
        refine ⟨init, last, ?_, fun ds first rest hds => ?_⟩
        · rw [splitChars, if_neg hnot, hcs]
        · rw [List.cons_append, splitChars, if_neg hnot, happend ds first rest hds]
  obtain ⟨init, last, hs, happend⟩ := hsplit [] s.toList
  refine ⟨init, last, hs, fun t first rest ht => ?_⟩
  rw [components, String.toList_append]
  exact happend t.toList first rest ht

/-- A slash keeps the components of two texts apart. -/
theorem components_append_slash (s t : String) :
    components (s ++ ("/" ++ t)) = components s ++ components t := by
  obtain ⟨init, last, hs, happend⟩ := components_append s
  have ht : components ("/" ++ t) = "" :: components t := @components_slash "" (by simp) t
  rw [happend _ _ _ ht, hs, String.append_empty, List.append_assoc, List.singleton_append]

/-- A value without characters of wildcard patterns fits exactly where its components stand, the
first of them with anything in front. -/
theorem fits_iff_of_literal {value file first : String} {rest : List String}
    (hliteral : ∀ c ∈ value.toList, c ≠ '*' ∧ c ≠ '?' ∧ c ≠ '[')
    (hparts : components value = first :: rest) (hfirst : first ≠ "") : Fits value file ↔
      ∃ before front after, lowered file = before ++ (front ++ first) :: (rest ++ after) := by
  have hvalue : '/' :: value.toList = '/' :: (first.toList ++ slashed rest) := by
    rw [← slashed_components, hparts, slashed_cons]
  constructor
  · rintro ⟨before, stretch, after, hpath, hstretch, hafter, -⟩
    rw [Glob.matches_literal hliteral] at hstretch
    subst hstretch
    obtain ⟨rest', hbehind⟩ : ∃ rest', components (value ++ String.ofList after) =
        first :: (rest ++ rest') := by
      rcases hafter with rfl | ⟨below, rfl⟩
      · exact ⟨[], by rw [String.ofList_nil, String.append_empty, hparts, List.append_nil]⟩
      · have hslash : String.ofList ('/' :: below) = "/" ++ String.ofList below := by
          rw [← String.toList_inj]
          simp
        refine ⟨components (String.ofList below), ?_⟩
        rw [← List.cons_append, ← hparts, hslash, components_append_slash]
    obtain ⟨init, last, -, happend⟩ := components_append (String.ofList before)
    have htext : "/" ++ "/".intercalate (lowered file) =
        String.ofList before ++ (value ++ String.ofList after) := by
      rw [← String.toList_inj]
      simpa using hpath
    have hall : "" :: components ("/".intercalate (lowered file)) =
        init ++ (last ++ first) :: (rest ++ rest') := by
      rw [← happend _ _ _ hbehind, ← htext]
      exact (@components_slash "" (by simp) _).symm
    -- The first component of the whole is the empty one in front of the first slash.
    have hne : last ++ first ≠ "" := fun hempty => hfirst (String.append_eq_empty_iff.mp hempty).2
    cases init with
    | nil => exact absurd (List.cons_eq_cons.mp hall).1.symm hne
    | cons part before' =>
      have hlowered := (List.cons_eq_cons.mp hall).2
      refine ⟨before', last, rest', ?_⟩
      by_cases hsome : lowered file = []
      · rw [hsome] at hlowered
        have hmem : last ++ first ∈ [""] := by
          have hempty : components ("/".intercalate []) = [""] := rfl
          rw [← hempty, hlowered]
          exact List.mem_append_right _ List.mem_cons_self
        exact absurd (List.mem_singleton.mp hmem) hne
      · rwa [components_intercalate hsome fun part => slash_not_mem_lowered] at hlowered
  · rintro ⟨before, front, after, hlowered⟩
    have hsome : lowered file ≠ [] := by
      rw [hlowered]
      exact List.append_ne_nil_of_right_ne_nil _ (List.cons_ne_nil _ _)
    refine ⟨slashed before ++ '/' :: front.toList, value.toList, slashed after, ?_,
      (Glob.matches_literal hliteral).mpr rfl, ?_, fun hnil => ?_⟩
    · rw [slashed_eq hsome, hlowered, slashed_append, slashed_cons, slashed_append,
        String.toList_append, List.tail_eq_of_cons_eq hvalue]
      simp only [List.append_assoc, List.cons_append]
    · cases after with
      | nil => exact .inl rfl
      | cons next after => exact .inr ⟨_, rfl⟩
    · exact absurd hnil (List.append_ne_nil_of_right_ne_nil _ (List.cons_ne_nil _ _))

end Path

/-! ## Log records -/

namespace Rules

open AuditTrail.Path (AtEnd Named Regular)

section Plain

variable {s : Snapshot} {values : List String} {application : Option String}
  (hfiles : s.config.unspecified.exclude.files = values.map Pattern.plain)
  (happlication : ¬ ApplicationExcluded s.config.unspecified.exclude.applications
    s.config.unspecified.exclude.unknown application)
  (hregular : ∀ v ∈ values, Regular (Text.lower v))

include hfiles happlication hregular

/-- Log records from a file are excluded if a value is its end or fits a stretch of it. -/
theorem excluded_iff_fits (calls : List Call) (file : String) :
    ((after calls).shouldExclude s (.log application (some file))).1 = true ↔
      ∃ v ∈ values, AtEnd (Text.lower v) file ∨ Path.Fits (Text.lower v) file := by
  have hverdict : ((after calls).shouldExclude s (.log application (some file))).1 =
      s.config.verdict (.log application (some file)) :=
    (shouldExclude_unkeyed (after_justified calls).sound rfl).1
  rw [hverdict, Config.verdict_iff, Config.Excludes, or_iff_left happlication, hfiles]
  simp only [Option.some.injEq, exists_eq_left', Matched, List.mem_map, exists_exists_and_eq_and,
    Pattern.isMatch_plain]
  constructor
  · rintro (⟨v, hv, hwhole⟩ | ⟨v, hv, -, hwithin⟩)
    · exact ⟨v, hv, .inl (.inl hwhole)⟩
    · refine ⟨v, hv, ?_⟩
      rcases (Pattern.matchesWithin_plain_iff (hregular v hv)).mp hwithin with hend | hfits
      · exact .inl (.inr hend)
      · exact .inr hfits
  · rintro ⟨v, hv, (hwhole | hend) | hfits⟩
    · exact .inl ⟨v, hv, hwhole⟩
    · exact .inr ⟨v, hv, nofun, (Pattern.matchesWithin_plain_iff (hregular v hv)).mpr (.inl hend)⟩
    · exact .inr ⟨v, hv, nofun, (Pattern.matchesWithin_plain_iff (hregular v hv)).mpr (.inr hfits)⟩

/-- Files are excluded by whole components exactly if values fit other stretches only where there
are whole components as well, and whole components are at the end or fitted. -/
theorem byComponents_iff (calls : List Call) (file : String) :
    (((after calls).shouldExclude s (.log application (some file))).1 = true ↔
        ∃ v ∈ values, Named (Text.lower v) file) ↔
      ((∃ v ∈ values, Path.Fits (Text.lower v) file) → ∃ v ∈ values, Named (Text.lower v) file) ∧
        ((∃ v ∈ values, Named (Text.lower v) file) →
          ∃ v ∈ values, AtEnd (Text.lower v) file ∨ Path.Fits (Text.lower v) file) := by
  rw [excluded_iff_fits hfiles happlication hregular]
  constructor
  · intro h
    refine ⟨?_, h.mpr⟩
    rintro ⟨v, hv, hfits⟩
    exact h.mp ⟨v, hv, .inr hfits⟩
  · rintro ⟨hfits, hwithin⟩
    refine ⟨?_, hwithin⟩
    rintro ⟨v, hv, hend | hv'⟩
    · exact ⟨v, hv, hend.named⟩
    · exact hfits ⟨v, hv, hv'⟩

end Plain

/-- Settings that exclude files by plain patterns. -/
def excluding (values : List String) : Snapshot where
  version := 1
  config := { unspecified := { exclude := { files := values.map Pattern.plain } } }

theorem not_applicationExcluded_excluding (values : List String) :
    ¬ ApplicationExcluded (excluding values).config.unspecified.exclude.applications
      (excluding values).config.unspecified.exclude.unknown none := by
  rintro (⟨a, ha, -⟩ | ⟨-, hunknown⟩)
  · cases ha
  · cases hunknown

theorem byComponents_iff_directory : (∀ v ∈ ["Vendor", "api/schema.py"], Regular (Text.lower v)) ∧
    (((after []).shouldExclude (excluding ["Vendor", "api/schema.py"])
        (.log none (some "/srv/vendor/x.py"))).1 = true ↔
      ∃ v ∈ ["Vendor", "api/schema.py"], Named (Text.lower v) "/srv/vendor/x.py") := by
  have hregular : ∀ v ∈ ["Vendor", "api/schema.py"], Regular (Text.lower v) := by
    intro v hv
    simp only [List.mem_cons, List.not_mem_nil, or_false] at hv
    rcases hv with rfl | rfl <;> exact Path.regular_of_length (by decide) (by decide)
  have hnamed : ∃ v ∈ ["Vendor", "api/schema.py"], Named (Text.lower v) "/srv/vendor/x.py" := by
    decide
  refine ⟨hregular, (byComponents_iff rfl (not_applicationExcluded_excluding _) hregular []
    "/srv/vendor/x.py").mpr ⟨fun _ => hnamed, fun _ => ?_⟩⟩
  obtain ⟨v, hv, hv'⟩ := hnamed
  refine ⟨v, hv, hv'.atEnd_or_fits ?_⟩
  simp only [List.mem_cons, List.not_mem_nil, or_false] at hv
  rcases hv with rfl | rfl <;> decide

/-- The directory `myvendor` is excluded with `vendor`, which is no component of the path. -/
theorem endOfName_excluded :
    ((after []).shouldExclude (excluding ["vendor"])
        (.log none (some "/srv/myvendor/x.py"))).1 = true ∧
      ¬ ∃ v ∈ ["vendor"], Named (Text.lower v) "/srv/myvendor/x.py" := by
  decide +kernel

end Rules

end AuditTrail
