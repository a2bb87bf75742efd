import AuditTrail.Proofs.Config.Union
import AuditTrail.Proofs.Rule.Precedence
import AuditTrail.Proofs.Text.AsciiCase
import AuditTrail.Proofs.Text.Joined

/-
  Rules look at names without regard to the case of ASCII letters, unless a regular expression is
  among the patterns. A candidate may have its ASCII letters made small (`Candidate.asciiLower`)
  before it is decided about: the names under which it is looked for and the components of its path
  are then those of before, made small one by one, and no wildcard or plain pattern tells a text
  from the text made small (`Pattern.isMatch_asciiLower`). So the configuration decides as before
  (`Config.verdict_asciiLower`), and candidates that become the same are decided about alike.

  Overrides for types of entities and what a type itself asks for go by names as they are written,
  but overrides for a request handler compare methods without regard to case.

  Main statement: `Rules.ascii_case_ignored`.
-/
namespace AuditTrail

open Text (asciiLower)

/-! ## Candidates in small letters -/

/-- The type with the ASCII letters of its names made small. -/
def EntityType.asciiLower (e : EntityType) : EntityType :=
  { e with
    name := Text.asciiLower e.name
    moduleName := e.moduleName.map Text.asciiLower
    application := e.application.map Text.asciiLower
    fields := e.fields.map fun f => { f with name := Text.asciiLower f.name } }

namespace Candidate

/-- The candidate with the ASCII letters of its names made small. The path of a request handler is
left as it is. -/
def asciiLower : Candidate → Candidate
  | .model e op => .model e.asciiLower op
  | .field e name => .field e.asciiLower (Text.asciiLower name)
  | .request handler method application status =>
    .request handler (Text.asciiLower method) (application.map Text.asciiLower) status
  | .log application file => .log (application.map Text.asciiLower) (file.map Text.asciiLower)

/-- The candidates differ in the case of ASCII letters at most. -/
def SameButCase (x y : Candidate) : Prop := x.asciiLower = y.asciiLower

/-- If the candidate is about a type of entities, that asks for nothing. -/
def Unmarked (x : Candidate) : Prop := ∀ e ∈ x.entity?, e.ignore = {}

theorem entity?_asciiLower (x : Candidate) :
    x.asciiLower.entity? = x.entity?.map EntityType.asciiLower := by
  cases x <;> rfl

theorem unmarked_asciiLower (x : Candidate) : x.asciiLower.Unmarked ↔ x.Unmarked := by
  unfold Unmarked
  rw [entity?_asciiLower]
  cases x.entity? with
  | none => exact ⟨fun _ _ => nofun, fun _ _ => nofun⟩
  | some e => simp only [Option.map_some, Option.mem_some, forall_eq', EntityType.asciiLower]

end Candidate

/-! ## Patterns -/

/-- No pattern is a regular expression. -/
def Pattern.WithoutRegex (ps : List Pattern) : Prop := ∀ p ∈ ps, p.kind ≠ .regex

instance : DecidablePred Pattern.WithoutRegex := fun ps =>
  inferInstanceAs (Decidable (∀ p ∈ ps, p.kind ≠ .regex))

/-- No pattern of the configuration is a regular expression. -/
structure Config.WithoutRegex (c : Config) : Prop where
  models : Pattern.WithoutRegex c.model.exclude.models
  fields : Pattern.WithoutRegex c.model.exclude.fields
  files : Pattern.WithoutRegex c.unspecified.exclude.files
  applications : ∀ k, Pattern.WithoutRegex (c.applications k)

theorem Config.WithoutRegex.resolved {c : Config} (h : c.WithoutRegex)
    (hglobals : Pattern.WithoutRegex c.globals.applications) : c.resolved.WithoutRegex where
  models := h.models
  fields := h.fields
  files := h.files
  applications k := by
    rw [Config.resolved_eq, Config.applications_withApplications]
    intro p hp
    rw [Pattern.mem_union] at hp
    exact hp.elim (h.applications k p) (hglobals p)

theorem any_congr_of_mem {α : Type} {p q : α → Bool} {as : List α} (h : ∀ a ∈ as, p a = q a) :
    as.any p = as.any q := by
  rw [Bool.eq_iff_iff, List.any_eq_true, List.any_eq_true]
  exact exists_congr fun a => and_congr_right fun ha => by rw [h a ha]

namespace Pattern

variable {ps : List Pattern}

theorem isMatch_asciiLower {p : Pattern} (h : p.kind ≠ .regex) (text : String) :
    p.isMatch (asciiLower text) = p.isMatch text := by
  unfold isMatch
  cases hkind : p.kind with
  | glob => rw [Text.lower_asciiLower]
  | plain => rw [Text.lower_asciiLower]
  | regex => exact absurd hkind h

theorem anyMatch_asciiLower (h : WithoutRegex ps) (text : String) :
    anyMatch ps (asciiLower text) = anyMatch ps text :=
  any_congr_of_mem fun p hp => isMatch_asciiLower (h p hp) text

theorem anyMatch_option (h : WithoutRegex ps) (text : Option String) :
    (text.map asciiLower).any (anyMatch ps) = text.any (anyMatch ps) := by
  cases text with
  | none => rfl
  | some text => exact anyMatch_asciiLower h text

theorem any_anyMatch_map (h : WithoutRegex ps) (texts : List String) :
    (texts.map asciiLower).any (anyMatch ps) = texts.any (anyMatch ps) := by
  rw [List.any_map]
  exact congrArg texts.any (funext (anyMatch_asciiLower h))

theorem kind_of_glob {value : String} {p : Pattern} (h : glob value = .ok p) : p.kind = .glob := by
  unfold glob at h
  dsimp only at h
  split at h
  · cases h
    rfl
  · cases h

theorem withoutRegex_pathGlobs (value : String) : WithoutRegex (pathGlobs value) := by
  intro q hq
  obtain ⟨wildcard, -, hglob⟩ := (mem_pathGlobs value q).mp hq
  rw [kind_of_glob hglob]
  decide

end Pattern

/-! ## Paths -/

theorem splitChars_map_toLower (separator : Char → Bool)
    (h : ∀ c, separator c.toLower = separator c) (word cs : List Char) :
    splitChars separator (word.map Char.toLower) (cs.map Char.toLower) =
      (splitChars separator word cs).map asciiLower := by
  induction cs generalizing word with
  | nil =>
    rw [List.map_nil, splitChars, splitChars, ← List.map_reverse, ← Text.asciiLower_ofList]
    rfl
  | cons c cs ih =>
    rw [List.map_cons, splitChars, splitChars, h]
    cases separator c with
    | true =>
      rw [if_pos rfl, if_pos rfl, List.map_cons, Text.asciiLower_ofList, List.map_reverse, ← ih]
      rfl
    | false => exact ih (c :: word)

theorem pathParts_asciiLower (file : String) :
    pathParts (asciiLower file) = (pathParts file).map asciiLower := by
  have hseparator : ∀ c : Char,
      (c.toLower == '/' || c.toLower == '\\') = (c == '/' || c == '\\') := by
    intro c
    rw [Text.beq_toLower Text.isSign_slash, Text.beq_toLower (by decide)]
  have hsplit := splitChars_map_toLower (fun c => c == '/' || c == '\\') hseparator [] file.toList
  rw [List.map_nil] at hsplit
  unfold pathParts
  rw [Text.toList_asciiLower, hsplit, List.filter_map]
  refine congrArg (List.map asciiLower) (List.filter_congr fun part _ => ?_)
  simp only [Function.comp_apply, ne_eq, Text.asciiLower_eq_empty]

theorem trailing_map {α β : Type} (f : α → β) (as : List α) :
    trailing (as.map f) = (trailing as).map (List.map f) := by
  induction as with
  | nil => rfl
  | cons a as ih => rw [List.map_cons, trailing, trailing, List.map_cons, List.map_cons, ih]

theorem Pattern.matchesTrailing_asciiLower {p : Pattern} (h : p.kind ≠ .regex) (file : String) :
    p.matchesTrailing (asciiLower file) = p.matchesTrailing file := by
  unfold matchesTrailing
  rw [pathParts_asciiLower, trailing_map, List.any_map]
  refine congrArg (trailing (pathParts file)).any (funext fun parts => ?_)
  rw [Function.comp_apply, ← Text.asciiLower_intercalate, isMatch_asciiLower h]

theorem anyGlobInPath_asciiLower {globs : List Pattern} (h : Pattern.WithoutRegex globs)
    (file : String) : anyGlobInPath globs (asciiLower file) = anyGlobInPath globs file := by
  have hpath : "/" ++ asciiLower ("/".intercalate (pathParts file)) =
      asciiLower ("/" ++ "/".intercalate (pathParts file)) := by
    rw [Text.asciiLower_append, Text.asciiLower_slash]
  unfold anyGlobInPath
  dsimp only
  rw [dropWhile_slashes, dropWhile_slashes, pathParts_asciiLower, ← Text.asciiLower_intercalate,
    hpath, Pattern.anyMatch_asciiLower h, Pattern.anyMatch_asciiLower h]

theorem UnspecifiedExclude.excludesFile_asciiLower {x : UnspecifiedExclude}
    (h : Pattern.WithoutRegex x.files) (file : String) :
    x.excludesFile (asciiLower file) = x.excludesFile file := by
  have hpath : ∀ p ∈ x.files.filter (·.kind != .regex),
      p.matchesPath (asciiLower file) = p.matchesPath file := by
    intro p hp
    have hkind := h p (List.mem_filter.mp hp).1
    unfold Pattern.matchesPath
    rw [Pattern.matchesTrailing_asciiLower hkind,
      anyGlobInPath_asciiLower (Pattern.withoutRegex_pathGlobs p.value)]
  unfold excludesFile
  rw [Pattern.anyMatch_asciiLower h, any_congr_of_mem hpath]

/-! ## Decisions -/

namespace EntityType

variable (e : EntityType)

theorem names_asciiLower : e.asciiLower.names = e.names.map Text.asciiLower := by
  have hjoined : ∀ owner : Option String,
      ((owner.map Text.asciiLower).map (· ++ "." ++ Text.asciiLower e.name)).toList =
        ((owner.map (· ++ "." ++ e.name)).toList).map Text.asciiLower := by
    intro owner
    cases owner with
    | none => rfl
    | some owner =>
      simp only [Option.map_some, Option.toList_some, List.map_cons, List.map_nil,
        Text.asciiLower_append, Text.asciiLower_dot]
  simp only [names, asciiLower, hjoined, List.cons_append, List.map_cons, List.map_append]

theorem fieldNames_asciiLower (field : String) :
    e.asciiLower.fieldNames (Text.asciiLower field) =
      (e.fieldNames field).map Text.asciiLower := by
  unfold fieldNames asciiLower
  cases e.application with
  | none =>
    simp only [Option.map_none, Option.toList_none, List.append_nil, List.map_cons, List.map_nil,
      Text.asciiLower_append, Text.asciiLower_dot]
  | some a =>
    simp only [Option.map_some, Option.toList_some, List.cons_append, List.nil_append,
      List.map_cons, List.map_nil, Text.asciiLower_append, Text.asciiLower_dot]

end EntityType

theorem applicationExcluded_asciiLower {ps : List Pattern} (h : Pattern.WithoutRegex ps)
    (unknown : Bool) (application : Option String) :
    applicationExcluded ps unknown (application.map asciiLower) =
      applicationExcluded ps unknown application := by
  cases application with
  | none => rfl
  | some a => exact Pattern.anyMatch_asciiLower h a

/-- A configuration without regular expressions decides about a candidate as about the candidate in
small letters. -/
theorem Config.verdict_asciiLower {c : Config} (h : c.WithoutRegex) (x : Candidate) :
    c.verdict x.asciiLower = c.verdict x := by
  cases x with
  | model e op =>
    show c.model.exclude.excludesType e.asciiLower = c.model.exclude.excludesType e
    have happlication := applicationExcluded_asciiLower (h.applications .model)
      c.model.exclude.unknown e.application
    unfold ModelExclude.excludesType
    rw [e.names_asciiLower, Pattern.any_anyMatch_map h.models]
    exact congr_arg₂ _ (congr_arg₂ _ rfl (Pattern.anyMatch_option h.models e.moduleName))
      happlication
  | field e name =>
    show c.model.exclude.excludesField e.asciiLower (asciiLower name) =
      c.model.exclude.excludesField e name
    unfold ModelExclude.excludesField
    rw [e.fieldNames_asciiLower, Pattern.any_anyMatch_map h.fields]
  | request handler method application status =>
    show c.request.exclude.excludes (asciiLower method) (application.map asciiLower) status =
      c.request.exclude.excludes method application status
    unfold RequestExclude.excludes
    have happlication := Pattern.anyMatch_option (h.applications .request) application
    rw [Text.lower_asciiLower, Option.isNone_map]
    exact congrArg (fun b => (_ || b || _) || _) happlication
  | log application file =>
    show c.unspecified.exclude.excludes (application.map asciiLower) (file.map asciiLower) =
      c.unspecified.exclude.excludes application file
    have happlication := Pattern.anyMatch_option (h.applications .unspecified) application
    have hfile : (file.map asciiLower).any c.unspecified.exclude.excludesFile =
        file.any c.unspecified.exclude.excludesFile := by
      cases file with
      | none => rfl
      | some file => exact UnspecifiedExclude.excludesFile_asciiLower h.files file
    unfold UnspecifiedExclude.excludes
    rw [hfile, Option.isNone_map]
    exact congrArg (fun b => b || _ || _) happlication

/-- Without overrides everything about which its type says nothing comes to the configuration. -/
theorem ruling?_of_unmarked {x : Candidate} (h : x.Unmarked) :
    ({} : Registry).ruling? x = none := by
  cases x with
  | model e op =>
    have hignore := h e rfl
    rw [Registry.ruling?, hignore]
    rfl
  | field e name =>
    have hignore := h e rfl
    rw [Registry.ruling?, hignore]
    rfl
  | request handler _ _ _ => cases handler <;> rfl
  | log _ _ => rfl

theorem decides_of_sameButCase {c : Config} (hc : c.WithoutRegex) {x y : Candidate}
    (hx : x.Unmarked) (h : x.SameButCase y) :
    ({} : Registry).decides c x = ({} : Registry).decides c y := by
  have hsame : x.asciiLower = y.asciiLower := h
  have hy : y.Unmarked := by
    rw [← y.unmarked_asciiLower, ← hsame]
    exact x.unmarked_asciiLower.mpr hx
  rw [Registry.decides, Registry.decides, ruling?_of_unmarked hx, ruling?_of_unmarked hy,
    Option.getD_none, Option.getD_none, ← Config.verdict_asciiLower hc x, hsame,
    Config.verdict_asciiLower hc y]

theorem RequestOverride.covers_congr (o : RequestOverride) {method method' : String}
    (h : asciiLower method = asciiLower method') : o.covers method = o.covers method' := by
  have hequal : Text.equalIgnoringAsciiCase method = Text.equalIgnoringAsciiCase method' := by
    funext item
    rw [Text.equalIgnoringAsciiCase, Text.equalIgnoringAsciiCase, h]
  unfold covers
  rw [hequal]

namespace Rules

/-- Overrides and the configuration both compare methods without regard to case. -/
theorem requestExcluded_congr (r : Rules) (s : Snapshot) (handler application : Option String)
    (status : Nat) {method method' : String} (h : asciiLower method = asciiLower method') :
    r.requestExcluded s handler method application status =
      r.requestExcluded s handler method' application status := by
  have hcovers : (fun o : RequestOverride => o.covers method) = fun o => o.covers method' :=
    funext fun o => o.covers_congr h
  have hlower : Text.lower method = Text.lower method' := by
    rw [← Text.lower_asciiLower method, h, Text.lower_asciiLower]
  unfold requestExcluded RequestExclude.excludes
  rw [hcovers, hlower]

/-- **ASCII case is ignored.** Under a configuration without regular expressions, rules without
overrides that remember nothing decide alike about candidates that differ in the case of ASCII
letters at most, if the types ask for nothing themselves. Requests that differ in the case of the
method are decided about alike by any rules and under any configuration. -/
theorem ascii_case_ignored (s : Snapshot) :
    (s.config.WithoutRegex → ∀ (r : Rules) (x y : Candidate), r.registry = {} → r.Unasked →
      x.Unmarked → x.SameButCase y → (r.shouldExclude s x).1 = (r.shouldExclude s y).1) ∧
    ∀ (r : Rules) (handler application : Option String) (status : Nat) (method method' : String),
      asciiLower method = asciiLower method' →
      (r.shouldExclude s (.request handler method application status)).1 =
        (r.shouldExclude s (.request handler method' application status)).1 := by
  constructor
  · intro hconfig r x y hregistry hunasked hx h
    rw [shouldExclude_of_unasked hunasked, shouldExclude_of_unasked hunasked, hregistry]
    exact decides_of_sameButCase hconfig hx h
  · intro r handler application status method method' h
    exact r.requestExcluded_congr s handler application status h

/-- A type is excluded by its name in a module, which ends in a sigma, and a request by an
override. -/
theorem ascii_case_ignored_orders :
    let source : Config :=
      { model := { exclude := { models := [.plain "shop.OrderΣ"] } }
        unspecified := { exclude := { files := [⟨.glob, "vendor*"⟩] } } }
    let s : Snapshot := ⟨1, source.resolved⟩
    let x : Candidate := .model { name := "OrderΣ", moduleName := some "Shop" } .create
    let y : Candidate := .model { name := "ORDERΣ", moduleName := some "sHOP" } .create
    let r : Rules :=
      { registry := { requestExclusions := [("shop.orders", .ofMethods ["Post"])] } }
    s.config.WithoutRegex ∧ ({} : Rules).Unasked ∧ x.Unmarked ∧ x.SameButCase y ∧
      (({} : Rules).shouldExclude s x).1 = true ∧ (({} : Rules).shouldExclude s y).1 = true ∧
      asciiLower "post" = asciiLower "POST" ∧
      (r.shouldExclude s (.request (some "shop.orders") "post" none 302)).1 =
        (r.shouldExclude s (.request (some "shop.orders") "POST" none 302)).1 := by
  intro source s x y r
  have hsource : source.WithoutRegex := by
    refine ⟨by decide, by decide, by decide, fun k => ?_⟩
    cases k <;> decide
  have hconfig : s.config.WithoutRegex := hsource.resolved (by decide)
  have hx : x.Unmarked := by
    intro e he
    cases he
    rfl
  have hsame : x.SameButCase y := by
    have hname : asciiLower "OrderΣ" = asciiLower "ORDERΣ" :=
      Text.asciiLower_eq_iff.mpr (by decide)
    have hmodule : asciiLower "Shop" = asciiLower "sHOP" :=
      Text.asciiLower_eq_iff.mpr (by decide)
    simp only [x, y, Candidate.SameButCase, Candidate.asciiLower, EntityType.asciiLower, hname,
      Option.map_some, hmodule]
  have hunasked := unasked_fresh {}
  have hexcluded : (({} : Rules).shouldExclude s x).1 = true := by decide +kernel
  have hmethod : asciiLower "post" = asciiLower "POST" := Text.asciiLower_eq_iff.mpr (by decide)
  obtain ⟨hsecond, hrequests⟩ := ascii_case_ignored s
  exact ⟨hconfig, hunasked, hx, hsame, hexcluded,
    (hsecond hconfig {} x y rfl hunasked hx hsame).symm.trans hexcluded, hmethod,
    hrequests r (some "shop.orders") none 302 "post" "POST" hmethod⟩

end Rules

end AuditTrail
