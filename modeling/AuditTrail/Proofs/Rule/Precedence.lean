import AuditTrail.Proofs.Rule.Registration
import Mathlib.Data.List.Infix

/-
  The order in which the rules decide, told from the registrations made and from the configuration
  alone (`Excluded`): a candidate that an inclusion covers is recorded; of the others, those that an
  exclusion covers, those that their type asks not to be recorded and those that the configuration
  excludes are not. What the configuration excludes is said without the lists and tests by which it
  is found out (`Config.Excludes`). `shouldExclude_iff_excluded` is that the rules answer so.
-/
namespace AuditTrail

/-! ## What the configuration excludes -/

/-- One of the patterns matches a text. -/
def Matched (ps : List Pattern) (text : String) : Prop := ∃ p ∈ ps, p.isMatch text = true

/-- An application is excluded by a pattern, and the lack of one by the setting for that. -/
def ApplicationExcluded (ps : List Pattern) (unknown : Bool) (application : Option String) : Prop :=
  (∃ a, application = some a ∧ Matched ps a) ∨ application = none ∧ unknown = true

/-- The names by which a type of entities can be excluded; its module alone is one of them. -/
inductive EntityType.Named (e : EntityType) : String → Prop where
  | bare : e.Named e.name
  | inModule {m : String} : e.moduleName = some m → e.Named (m ++ "." ++ e.name)
  | inApplication {a : String} : e.application = some a → e.Named (a ++ "." ++ e.name)
  | moduleAlone {m : String} : e.moduleName = some m → e.Named m

/-- The names by which a field can be excluded. -/
inductive EntityType.FieldNamed (e : EntityType) (field : String) : String → Prop where
  | bare : e.FieldNamed field field
  | inType : e.FieldNamed field (e.name ++ "." ++ field)
  | inApplication {a : String} : e.application = some a →
      e.FieldNamed field (a ++ "." ++ e.name ++ "." ++ field)

/-- A pattern matches a path by some components at its end, or by directories: a wildcard pattern
made of its value for what lies below, for what ends so, or for what lies below such a directory
matches the path with or without a slash in front. -/
inductive Pattern.MatchesWithin (p : Pattern) (file : String) : Prop where
  | trailing (parts : List String) : parts ≠ [] → parts <:+ pathParts file →
      p.isMatch ("/".intercalate parts) = true → p.MatchesWithin file
  | directory (wildcard : String) (q : Pattern) :
      wildcard ∈ [p.value ++ "/*", "/*" ++ p.value, "/*" ++ p.value ++ "/*"] →
      Pattern.glob wildcard = .ok q →
      q.isMatch ("/" ++ "/".intercalate (pathParts file)) = true ∨
        q.isMatch ("/".intercalate (pathParts file)) = true → p.MatchesWithin file

/-- What a configuration excludes. -/
def Config.Excludes (c : Config) : Candidate → Prop
  | .model e _ =>
    (∃ name, e.Named name ∧ Matched c.model.exclude.models name) ∨
      ApplicationExcluded c.model.exclude.applications c.model.exclude.unknown e.application
  | .field e field => ∃ name, e.FieldNamed field name ∧ Matched c.model.exclude.fields name
  | .request _ method application status =>
    Text.lower method ∈ c.request.exclude.methods ∨ status ∈ c.request.exclude.status ∨
      ApplicationExcluded c.request.exclude.applications c.request.exclude.unknown application
  | .log application file =>
    (∃ f, file = some f ∧ (Matched c.unspecified.exclude.files f ∨
      ∃ p ∈ c.unspecified.exclude.files, p.kind ≠ .regex ∧ p.MatchesWithin f)) ∨
      ApplicationExcluded c.unspecified.exclude.applications c.unspecified.exclude.unknown
        application

theorem Pattern.anyMatch_iff (ps : List Pattern) (text : String) :
    anyMatch ps text = true ↔ Matched ps text := List.any_eq_true

theorem applicationExcluded_iff (ps : List Pattern) (unknown : Bool) (application : Option String) :
    applicationExcluded ps unknown application = true ↔
      ApplicationExcluded ps unknown application := by
  unfold applicationExcluded ApplicationExcluded
  cases application with
  | none => simp
  | some a => simp [Pattern.anyMatch_iff]

namespace ModelExclude

theorem excludesType_iff (x : ModelExclude) (e : EntityType) :
    x.excludesType e = true ↔ (∃ name, e.Named name ∧ Matched x.models name) ∨
      ApplicationExcluded x.applications x.unknown e.application := by
  unfold excludesType
  rw [Bool.or_eq_true, applicationExcluded_iff]
  refine or_congr_left ?_
  rw [Bool.or_eq_true, List.any_eq_true, Option.any_eq_true]
  constructor
  · rintro (⟨name, hname, hmatch⟩ | ⟨m, hm, hmatch⟩)
    · refine ⟨name, ?_, (Pattern.anyMatch_iff _ _).mp hmatch⟩
      simp only [EntityType.names, List.cons_append, List.mem_cons, List.mem_append,
        Option.mem_toList, Option.map_eq_some_iff] at hname
      rcases hname with rfl | ⟨m, hm, rfl⟩ | ⟨a, ha, rfl⟩
      · exact .bare
      · exact .inModule hm
      · exact .inApplication ha
    · exact ⟨m, .moduleAlone hm, (Pattern.anyMatch_iff _ _).mp hmatch⟩
  · rintro ⟨name, hname, hmatch⟩
    rw [← Pattern.anyMatch_iff] at hmatch
    cases hname with
    | bare => exact .inl ⟨_, List.mem_cons_self, hmatch⟩
    | inModule hm => exact .inl ⟨_, by simp [EntityType.names, hm], hmatch⟩
    | inApplication ha => exact .inl ⟨_, by simp [EntityType.names, ha], hmatch⟩
    | moduleAlone hm => exact .inr ⟨_, hm, hmatch⟩

theorem excludesField_iff (x : ModelExclude) (e : EntityType) (field : String) :
    x.excludesField e field = true ↔ ∃ name, e.FieldNamed field name ∧ Matched x.fields name := by
  unfold excludesField
  rw [List.any_eq_true]
  constructor
  · rintro ⟨name, hname, hmatch⟩
    refine ⟨name, ?_, (Pattern.anyMatch_iff _ _).mp hmatch⟩
    simp only [EntityType.fieldNames, List.cons_append, List.nil_append, List.mem_cons,
      Option.mem_toList, Option.map_eq_some_iff] at hname
    rcases hname with rfl | rfl | ⟨a, ha, rfl⟩
    · exact .bare
    · exact .inType
    · exact .inApplication ha
  · rintro ⟨name, hname, hmatch⟩
    rw [← Pattern.anyMatch_iff] at hmatch
    cases hname with
    | bare => exact ⟨_, by simp [EntityType.fieldNames], hmatch⟩
    | inType => exact ⟨_, by simp [EntityType.fieldNames], hmatch⟩
    | inApplication ha => exact ⟨_, by simp [EntityType.fieldNames, ha], hmatch⟩

end ModelExclude

theorem RequestExclude.excludes_iff (x : RequestExclude) (method : String)
    (application : Option String) (status : Nat) :
    x.excludes method application status = true ↔
      Text.lower method ∈ x.methods ∨ status ∈ x.status ∨
        ApplicationExcluded x.applications x.unknown application := by
  unfold excludes ApplicationExcluded
  cases application with
  | none => simp [or_assoc]
  | some a =>
    simp only [Option.any_some, Option.isNone_some, Bool.false_and, Bool.or_false, Bool.or_eq_true,
      List.contains_iff_mem, Pattern.anyMatch_iff, Option.some.injEq, exists_eq_left',
      reduceCtorEq, false_and, or_false]
    rw [or_assoc, or_comm (a := Matched _ _)]

/-! ## Paths -/

theorem mem_trailing {α : Type} (part all : List α) :
    part ∈ trailing all ↔ part ≠ [] ∧ part <:+ all := by
  induction all with
  | nil => simp [trailing]
  | cons a as ih =>
    rw [trailing, List.mem_cons, ih, List.suffix_cons_iff]
    constructor
    · rintro (rfl | ⟨hsome, hpart⟩)
      · exact ⟨List.cons_ne_nil a as, .inl rfl⟩
      · exact ⟨hsome, .inr hpart⟩
    · rintro ⟨hsome, rfl | hpart⟩
      · exact .inl rfl
      · exact .inr ⟨hsome, hpart⟩

/-- No separator is left in what a text is split into. -/
theorem forall_mem_splitChars {separator : Char → Bool} (cs word : List Char)
    (hword : ∀ c ∈ word, separator c = false) :
    ∀ part ∈ splitChars separator word cs, ∀ c ∈ part.toList, separator c = false := by
  induction cs generalizing word with
  | nil =>
    intro part hpart c hc
    rw [splitChars, List.mem_singleton] at hpart
    rw [hpart, String.toList_ofList, List.mem_reverse] at hc
    exact hword c hc
  | cons d cs ih =>
    unfold splitChars
    cases hd : separator d with
    | true =>
      rw [if_pos rfl]
      intro part hpart c hc
      rcases List.mem_cons.mp hpart with rfl | hpart
      · rw [String.toList_ofList, List.mem_reverse] at hc
        exact hword c hc
      · exact ih [] (List.forall_mem_nil _) part hpart c hc
    | false =>
      rw [if_neg Bool.false_ne_true]
      exact ih (d :: word) (List.forall_mem_cons.mpr ⟨hd, hword⟩)

/-- A path put together from its components does not begin with a slash. -/
theorem dropWhile_slashes (file : String) :
    String.ofList (("/" ++ "/".intercalate (pathParts file)).toList.dropWhile (· == '/')) =
      "/".intercalate (pathParts file) := by
  have hparts : ∀ part ∈ pathParts file, ∃ c cs, part.toList = c :: cs ∧ (c == '/') = false := by
    intro part hpart
    obtain ⟨hsplit, hsome⟩ := List.mem_filter.mp hpart
    have hfree := forall_mem_splitChars file.toList [] (List.forall_mem_nil _) part hsplit
    cases hchars : part.toList with
    | nil =>
      have hempty : part = "" := String.toList_eq_nil_iff.mp hchars
      simp [hempty] at hsome
    | cons c cs =>
      rw [hchars] at hfree
      have hc := hfree c List.mem_cons_self
      rw [Bool.or_eq_false_iff] at hc
      exact ⟨c, cs, rfl, hc.1⟩
  have hstart : ("/".intercalate (pathParts file)).toList.dropWhile (· == '/') =
      ("/".intercalate (pathParts file)).toList := by
    cases hpath : pathParts file with
    | nil => rfl
    | cons part parts =>
      obtain ⟨c, cs, hchars, hc⟩ := hparts part (by rw [hpath]; exact List.mem_cons_self)
      have hfirst : ∃ rest, ("/".intercalate (part :: parts)).toList = c :: rest := by
        cases parts with
        | nil => exact ⟨cs, hchars⟩
        | cons part' parts =>
          rw [String.intercalate_cons_cons, String.toList_append, String.toList_append, hchars]
          exact ⟨_, rfl⟩
      obtain ⟨rest, hrest⟩ := hfirst
      rw [hrest, List.dropWhile_cons, hc, if_neg Bool.false_ne_true]
  have hslash : ("/" : String).toList = ['/'] := rfl
  rw [String.toList_append, hslash, List.singleton_append, List.dropWhile_cons_of_pos rfl, hstart,
    String.ofList_toList]

theorem mem_pathGlobs (value : String) (q : Pattern) :
    q ∈ pathGlobs value ↔
      ∃ wildcard ∈ [value ++ "/*", "/*" ++ value, "/*" ++ value ++ "/*"],
        Pattern.glob wildcard = .ok q := by
  unfold pathGlobs
  rw [List.mem_filterMap]
  refine exists_congr fun wildcard => and_congr_right fun _ => ?_
  cases Pattern.glob wildcard with
  | ok q' => simp
  | error e => simp

theorem Pattern.matchesPath_iff (p : Pattern) (file : String) :
    p.matchesPath file = true ↔ p.MatchesWithin file := by
  unfold matchesPath matchesTrailing anyGlobInPath
  dsimp only
  rw [dropWhile_slashes, Bool.or_eq_true, Bool.or_eq_true, List.any_eq_true, anyMatch_iff,
    anyMatch_iff]
  constructor
  · rintro (⟨parts, hparts, hmatch⟩ | ⟨q, hq, hmatch⟩ | ⟨q, hq, hmatch⟩)
    · obtain ⟨hsome, hsuffix⟩ := (mem_trailing parts _).mp hparts
      exact .trailing parts hsome hsuffix hmatch
    · obtain ⟨wildcard, hwildcard, hglob⟩ := (mem_pathGlobs p.value q).mp hq
      exact .directory wildcard q hwildcard hglob (.inl hmatch)
    · obtain ⟨wildcard, hwildcard, hglob⟩ := (mem_pathGlobs p.value q).mp hq
      exact .directory wildcard q hwildcard hglob (.inr hmatch)
  · intro hwithin
    cases hwithin with
    | trailing parts hsome hsuffix hmatch =>
      exact .inl ⟨parts, (mem_trailing parts _).mpr ⟨hsome, hsuffix⟩, hmatch⟩
    | directory wildcard q hwildcard hglob hmatch =>
      have hq := (mem_pathGlobs p.value q).mpr ⟨wildcard, hwildcard, hglob⟩
      rcases hmatch with hmatch | hmatch
      · exact .inr (.inl ⟨q, hq, hmatch⟩)
      · exact .inr (.inr ⟨q, hq, hmatch⟩)

namespace UnspecifiedExclude

theorem excludesFile_iff (x : UnspecifiedExclude) (file : String) :
    x.excludesFile file = true ↔
      Matched x.files file ∨ ∃ p ∈ x.files, p.kind ≠ .regex ∧ p.MatchesWithin file := by
  unfold excludesFile
  rw [Bool.or_eq_true, Pattern.anyMatch_iff, List.any_eq_true]
  refine or_congr_right (exists_congr fun p => ?_)
  rw [List.mem_filter, bne_iff_ne, Pattern.matchesPath_iff, and_assoc]

theorem excludes_iff (x : UnspecifiedExclude) (application file : Option String) :
    x.excludes application file = true ↔
      (∃ f, file = some f ∧
        (Matched x.files f ∨ ∃ p ∈ x.files, p.kind ≠ .regex ∧ p.MatchesWithin f)) ∨
        ApplicationExcluded x.applications x.unknown application := by
  have hfile : file.any x.excludesFile = true ↔ ∃ f, file = some f ∧
      (Matched x.files f ∨ ∃ p ∈ x.files, p.kind ≠ .regex ∧ p.MatchesWithin f) := by
    rw [Option.any_eq_true]
    exact exists_congr fun f => and_congr_right fun _ => excludesFile_iff x f
  unfold excludes ApplicationExcluded
  rw [← hfile]
  cases application with
  | none => simp
  | some a =>
    simp only [Option.any_some, Option.isNone_some, Bool.false_and, Bool.or_false, Bool.or_eq_true,
      Pattern.anyMatch_iff, Option.some.injEq, exists_eq_left', reduceCtorEq, false_and, or_false]
    exact or_comm

end UnspecifiedExclude

theorem Config.verdict_iff (c : Config) (x : Candidate) : c.verdict x = true ↔ c.Excludes x := by
  cases x with
  | model e op => exact c.model.exclude.excludesType_iff e
  | field e field => exact c.model.exclude.excludesField_iff e field
  | request handler method application status =>
    exact c.request.exclude.excludes_iff method application status
  | log application file => exact c.unspecified.exclude.excludes_iff application file

/-! ## Precedence -/

/-- What a type of entities asks not to be recorded. -/
def Candidate.Ignored : Candidate → Prop
  | .model e op => e.ignore.complete = true ∨ op ∈ e.ignore.operations
  | .field e name => e.ignore.complete = true ∨ name ∈ e.ignore.fields
  | .request _ _ _ _ => False
  | .log _ _ => False

/-- What is not to be recorded after a history of registrations: an inclusion comes before
everything else, and then one reason is enough. -/
def Excluded (history : List Registration) (c : Config) (x : Candidate) : Prop :=
  ¬ Covered .inclusion history x ∧ (Covered .exclusion history x ∨ x.Ignored ∨ c.Excludes x)

theorem decided?_getD (included excluded ignored verdict : Bool) :
    (decided? included excluded ignored).getD verdict = true ↔
      ¬ included = true ∧ (excluded = true ∨ ignored = true ∨ verdict = true) := by
  cases included <;> cases excluded <;> cases ignored <;> simp [decided?]

theorem Registry.decides_iff (g : Registry) (c : Config) (x : Candidate) :
    g.decides c x = true ↔ ¬ g.covers .inclusion x = true ∧
      (g.covers .exclusion x = true ∨ x.Ignored ∨ c.Excludes x) := by
  rw [← c.verdict_iff, decides]
  cases x with
  | model e op =>
    rw [ruling?, decided?_getD, covers_model, covers_model, Bool.or_eq_true, List.contains_iff_mem]
    rfl
  | field e field =>
    rw [ruling?, decided?_getD, covers_field, covers_field, Bool.or_eq_true, List.contains_iff_mem]
    rfl
  | request handler method application status =>
    rw [ruling?, decided?_getD, covers_request, covers_request, Bool.false_eq_true]
    rfl
  | log application file =>
    simp [ruling?, covers, Candidate.identity?, Candidate.Ignored]

namespace Rules

/-- **Precedence.** Rules that remember nothing answer as the history of registrations and the
configuration say: not excluded if an inclusion covers the candidate, else excluded if an exclusion
does, else excluded if its type asks for that, else as the configuration has it. -/
theorem shouldExclude_iff_excluded (history : List Registration) (s : Snapshot) (x : Candidate) :
    (({ registry := .after history } : Rules).shouldExclude s x).1 = true ↔
      Excluded history s.config x := by
  rw [shouldExclude_fresh, Registry.decides_iff, covers_after, covers_after]
  exact Iff.rfl

end Rules

end AuditTrail
