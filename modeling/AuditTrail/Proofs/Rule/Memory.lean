import AuditTrail.Proofs.Lookup
import AuditTrail.Rule.Decision

/-
  What the rules answer and what they remember. A candidate is decided by the overrides and by what
  its type asks for (`Registry.ruling?`), or else by the configured patterns (`Config.verdict`).
  Only verdicts about types of entities and fields are remembered, under a key that holds the
  version (`Candidate.memoKey?`); `Rules.remembered` is what the memory holds for a version.

  One question is one equation: its answer (`shouldExclude_fst`) and what is remembered after it
  (`remembered_shouldExclude`). Questions about requests and log records leave the remembered
  decisions alone, and the wildcard patterns remembered for paths are those made anew
  (`logExcluded_spec`).
-/
namespace AuditTrail

/-! ## Decisions without memory -/

/-- An inclusion comes before an exclusion, and an exclusion before what a type asks for. -/
def decided? (included excluded ignored : Bool) : Option Bool :=
  if included then some false else if excluded then some true else if ignored then some true
  else none

theorem decided?_eq_none {included excluded ignored : Bool} :
    decided? included excluded ignored = none ↔
      included = false ∧ excluded = false ∧ ignored = false := by
  cases included <;> cases excluded <;> cases ignored <;> decide

/-- What the overrides and the type itself decide about a candidate, if they do. -/
def Registry.ruling? (g : Registry) : Candidate → Option Bool
  | .model e op =>
    decided? ((g.modelInclusion? e.qualifiedName).any (·.operations.contains op))
      ((g.modelExclusion? e.qualifiedName).any (·.operations.contains op))
      (e.ignore.complete || e.ignore.operations.contains op)
  | .field e field =>
    decided? ((g.modelInclusion? e.qualifiedName).any (·.fields.contains field))
      ((g.modelExclusion? e.qualifiedName).any (·.fields.contains field))
      (e.ignore.complete || e.ignore.fields.contains field)
  | .request handler method _ _ =>
    decided? ((handler.bind g.requestInclusion?).any (·.covers method))
      ((handler.bind g.requestExclusion?).any (·.covers method)) false
  | .log _ _ => none

/-- What the configured patterns and settings decide about a candidate. -/
def Config.verdict (c : Config) : Candidate → Bool
  | .model e _ => c.model.exclude.excludesType e
  | .field e field => c.model.exclude.excludesField e field
  | .request _ method application status => c.request.exclude.excludes method application status
  | .log application file => c.unspecified.exclude.excludes application file

/-- The decision about a candidate. -/
def Registry.decides (g : Registry) (c : Config) (x : Candidate) : Bool :=
  (g.ruling? x).getD (c.verdict x)

/-- The type of entities that a candidate is about, or a field of which it is. -/
def Candidate.entity? : Candidate → Option EntityType
  | .model e _ => some e
  | .field e _ => some e
  | _ => none

/-- What a remembered decision about a candidate is found by. -/
def Candidate.memoKey? (version : Nat) : Candidate → Option MemoKey
  | .model e op => some ⟨version, e.qualifiedName, e.application, .model, op.name⟩
  | .field e name => some ⟨version, e.qualifiedName, e.application, .field, name⟩
  | _ => none

theorem Candidate.entity?_of_memoKey? {x : Candidate} {version : Nat} {key : MemoKey}
    (h : x.memoKey? version = some key) : ∃ e, x.entity? = some e := by
  cases x with
  | model e op => exact ⟨e, rfl⟩
  | field e name => exact ⟨e, rfl⟩
  | request _ _ _ _ => cases h
  | log _ _ => cases h

/-- A key holds the qualified name and the application of the type. -/
theorem Candidate.memoKey?_type {x : Candidate} {version : Nat} {key : MemoKey} {e : EntityType}
    (h : x.memoKey? version = some key) (he : x.entity? = some e) :
    key.entity = e.qualifiedName ∧ key.application = e.application := by
  cases x with
  | model e' op =>
    obtain rfl := Option.some.inj h
    obtain rfl := Option.some.inj he
    exact ⟨rfl, rfl⟩
  | field e' name =>
    obtain rfl := Option.some.inj h
    obtain rfl := Option.some.inj he
    exact ⟨rfl, rfl⟩
  | request _ _ _ _ => cases h
  | log _ _ => cases h

/-- A type that asks not to be recorded at all never comes to the patterns. -/
theorem Registry.complete_of_ruling?_none {g : Registry} {x : Candidate} (h : g.ruling? x = none)
    {e : EntityType} (he : x.entity? = some e) : e.ignore.complete = false := by
  cases x with
  | model e' op =>
    obtain rfl := Option.some.inj he
    rw [ruling?, decided?_eq_none, Bool.or_eq_false_iff] at h
    exact h.2.2.1
  | field e' field =>
    obtain rfl := Option.some.inj he
    rw [ruling?, decided?_eq_none, Bool.or_eq_false_iff] at h
    exact h.2.2.1
  | request _ _ _ _ => cases he
  | log _ _ => cases he

/-- Without overrides, a field that its type does not ignore comes to the patterns. -/
theorem ruling?_field_eq_none {e : EntityType} {field : String}
    (hcomplete : e.ignore.complete = false) (hfield : field ∉ e.ignore.fields) :
    ({} : Registry).ruling? (.field e field) = none := by
  rw [Registry.ruling?, decided?_eq_none, Bool.or_eq_false_iff]
  exact ⟨rfl, rfl, hcomplete, by simpa using hfield⟩

namespace Rules

variable {r : Rules} {s : Snapshot} {x : Candidate}

/-! ## Remembered decisions -/

/-- What is remembered under a key for a version. -/
def remembered (r : Rules) (version : Nat) (key : MemoKey) : Option Bool :=
  (r.forVersion version).memo.lookup key

theorem forVersion_frame (r : Rules) (version : Nat) :
    ∃ memo, r.forVersion version = { r with version := version, memo := memo } := by
  unfold forVersion
  split
  next h => exact ⟨r.memo, by rw [← h]⟩
  next => exact ⟨[], rfl⟩

theorem forVersion_version (r : Rules) (version : Nat) :
    (r.forVersion version).version = version := by
  obtain ⟨memo, h⟩ := forVersion_frame r version
  rw [h]

/-- What is remembered for a version depends on the version last asked about and on the memory. -/
theorem remembered_congr {r₁ r₂ : Rules} (hversion : r₁.version = r₂.version)
    (hmemo : r₁.memo = r₂.memo) (version : Nat) (key : MemoKey) :
    r₁.remembered version key = r₂.remembered version key := by
  unfold remembered forVersion
  rw [hversion]
  split
  next => rw [hmemo]
  next => rfl

theorem remembered_nil (h : r.memo = []) (version : Nat) (key : MemoKey) :
    r.remembered version key = none := by
  unfold remembered forVersion
  split
  next => rw [h]; rfl
  next => rfl

theorem remembered_forVersion (r : Rules) (version version' : Nat) (key : MemoKey) :
    (r.forVersion version).remembered version' key =
      if version' = version then r.remembered version key else none := by
  rw [remembered, forVersion, forVersion_version]
  by_cases hversion : version' = version
  · rw [if_pos hversion.symm, if_pos hversion, remembered]
  · rw [if_neg (Ne.symm hversion), if_neg hversion, List.lookup_nil]

/-- Rules with an entry in front remember it for its version and nothing for another. -/
theorem remembered_cons (r : Rules) (version : Nat) (key : MemoKey) (decide : Bool)
    (version' : Nat) (key' : MemoKey) :
    ({ r.forVersion version with memo := (key, decide) :: (r.forVersion version).memo } :
        Rules).remembered version' key' =
      if version' = version then
        if key' = key then some decide else r.remembered version key'
      else none := by
  rw [remembered, forVersion]
  dsimp only
  rw [forVersion_version]
  by_cases hversion : version' = version
  · rw [if_pos hversion.symm, if_pos hversion, List.lookup_cons]
    by_cases hkey : key' = key
    · rw [if_pos hkey, hkey, beq_self_eq_true]
    · rw [if_neg hkey, beq_eq_false_iff_ne.2 hkey, remembered]
  · rw [if_neg (Ne.symm hversion), if_neg hversion, List.lookup_nil]

theorem memoized_fst (r : Rules) (version : Nat) (e : EntityType) (kind : CandidateKind)
    (detail : String) (decide : Bool) :
    (r.memoized version e kind detail decide).1 =
      (r.remembered version
        ⟨version, e.qualifiedName, e.application, kind, detail⟩).getD decide := by
  unfold memoized remembered
  dsimp only
  split
  next hit h => rw [h, Option.getD_some]
  next h => rw [h, Option.getD_none]

/-- After a question to the memory its own decision is remembered; the others of its version are as
before, and nothing is remembered of any other version. -/
theorem remembered_memoized (r : Rules) (version : Nat) (e : EntityType) (kind : CandidateKind)
    (detail : String) (decide : Bool) (version' : Nat) (key : MemoKey) :
    (r.memoized version e kind detail decide).2.remembered version' key =
      if version' = version then
        if key = ⟨version, e.qualifiedName, e.application, kind, detail⟩ then
          some ((r.remembered version key).getD decide)
        else r.remembered version key
      else none := by
  unfold memoized
  dsimp only
  split
  next hit hhit =>
    rw [remembered_forVersion]
    by_cases hkey : key = ⟨version, e.qualifiedName, e.application, kind, detail⟩
    · have hmemo : r.remembered version key = some hit := by rw [hkey, remembered, hhit]
      rw [if_pos hkey, hmemo, Option.getD_some]
    · rw [if_neg hkey]
  next hmiss =>
    rw [remembered_cons]
    by_cases hkey : key = ⟨version, e.qualifiedName, e.application, kind, detail⟩
    · have hmemo : r.remembered version key = none := by rw [hkey, remembered, hmiss]
      rw [if_pos hkey, if_pos hkey, hmemo, Option.getD_none]
    · rw [if_neg hkey, if_neg hkey]

/-- Besides the version and the decisions remembered nothing changes. -/
theorem memoized_frame (r : Rules) (version : Nat) (e : EntityType) (kind : CandidateKind)
    (detail : String) (decide : Bool) :
    ∃ version' memo, (r.memoized version e kind detail decide).2 =
      { r with version := version', memo := memo } := by
  obtain ⟨memo, h⟩ := forVersion_frame r version
  unfold memoized
  rw [h]
  dsimp only
  split
  next => exact ⟨version, memo, rfl⟩
  next => exact ⟨version, _, rfl⟩

/-! ## Questions about entities and fields -/

theorem shouldExclude_model (r : Rules) (s : Snapshot) (e : EntityType) (op : Operation) :
    r.shouldExclude s (.model e op) =
      match r.registry.ruling? (.model e op) with
      | some d => (d, r)
      | none => r.memoized s.version e .model op.name (s.config.verdict (.model e op)) := by
  unfold shouldExclude modelExcluded Registry.ruling? decided?
  dsimp only
  split
  next => rfl
  next =>
    split
    next => rfl
    next => split <;> rfl

theorem shouldExclude_field (r : Rules) (s : Snapshot) (e : EntityType) (name : String) :
    r.shouldExclude s (.field e name) =
      match r.registry.ruling? (.field e name) with
      | some d => (d, r)
      | none => r.memoized s.version e .field name (s.config.verdict (.field e name)) := by
  unfold shouldExclude fieldExcluded Registry.ruling? decided?
  dsimp only
  split
  next => rfl
  next =>
    split
    next => rfl
    next => split <;> rfl

theorem shouldExclude_request (r : Rules) (s : Snapshot) (handler : Option String)
    (method : String) (application : Option String) (status : Nat) :
    r.shouldExclude s (.request handler method application status) =
      (r.registry.decides s.config (.request handler method application status), r) := by
  unfold shouldExclude requestExcluded Registry.decides Registry.ruling? decided?
  dsimp only
  split
  next => rfl
  next => split <;> rfl

/-- A candidate with a key goes to the memory under it, unless the overrides or the type decide. -/
theorem shouldExclude_keyed {key : MemoKey} (hkey : x.memoKey? s.version = some key) :
    ∃ e kind detail, key = ⟨s.version, e.qualifiedName, e.application, kind, detail⟩ ∧
      r.shouldExclude s x =
        match r.registry.ruling? x with
        | some d => (d, r)
        | none => r.memoized s.version e kind detail (s.config.verdict x) := by
  cases x with
  | model e op => exact ⟨e, _, _, (Option.some.inj hkey).symm, shouldExclude_model r s e op⟩
  | field e name => exact ⟨e, _, _, (Option.some.inj hkey).symm, shouldExclude_field r s e name⟩
  | request _ _ _ _ => cases hkey
  | log _ _ => cases hkey

/-- The answer about an entity or a field is what the overrides and the type decide, else what is
remembered, else what the patterns decide. -/
theorem shouldExclude_fst {key : MemoKey} (hkey : x.memoKey? s.version = some key) :
    (r.shouldExclude s x).1 =
      (r.registry.ruling? x).getD ((r.remembered s.version key).getD (s.config.verdict x)) := by
  obtain ⟨e, kind, detail, rfl, hask⟩ := shouldExclude_keyed (r := r) hkey
  rw [hask]
  split
  next h => rw [h, Option.getD_some]
  next h => rw [h, Option.getD_none, memoized_fst]

/-- What is remembered after a question about an entity or a field. Nothing changes where the
overrides or the type decide. -/
theorem remembered_shouldExclude {key : MemoKey} (hkey : x.memoKey? s.version = some key)
    (version : Nat) (key' : MemoKey) :
    (r.shouldExclude s x).2.remembered version key' =
      if (r.registry.ruling? x).isSome then r.remembered version key'
      else if version = s.version then
        if key' = key then some ((r.remembered s.version key').getD (s.config.verdict x))
        else r.remembered s.version key'
      else none := by
  obtain ⟨e, kind, detail, rfl, hask⟩ := shouldExclude_keyed (r := r) hkey
  rw [hask]
  split
  next h => rw [h, Option.isSome_some, if_pos rfl]
  next h => rw [h, Option.isSome_none, if_neg Bool.false_ne_true, remembered_memoized]

/-- A question about an entity or a field leaves the overrides and the wildcard patterns alone. -/
theorem shouldExclude_frame {key : MemoKey} (hkey : x.memoKey? s.version = some key) :
    ∃ version memo, (r.shouldExclude s x).2 = { r with version := version, memo := memo } := by
  obtain ⟨e, kind, detail, rfl, hask⟩ := shouldExclude_keyed (r := r) hkey
  rw [hask]
  split
  next => exact ⟨r.version, r.memo, rfl⟩
  next => exact memoized_frame r _ _ _ _ _

theorem shouldExclude_registry {key : MemoKey} (hkey : x.memoKey? s.version = some key) :
    (r.shouldExclude s x).2.registry = r.registry := by
  obtain ⟨version, memo, h⟩ := shouldExclude_frame (r := r) hkey
  rw [h]

theorem shouldExclude_pathMemo {key : MemoKey} (hkey : x.memoKey? s.version = some key) :
    (r.shouldExclude s x).2.pathMemo = r.pathMemo := by
  obtain ⟨version, memo, h⟩ := shouldExclude_frame (r := r) hkey
  rw [h]

/-- Of two candidates with one key that come to the patterns, the second is answered like the
first. -/
theorem shouldExclude_after {y : Candidate} {key : MemoKey}
    (hx : x.memoKey? s.version = some key) (hy : y.memoKey? s.version = some key)
    (hxruling : r.registry.ruling? x = none) (hyruling : r.registry.ruling? y = none) :
    ((r.shouldExclude s x).2.shouldExclude s y).1 = (r.shouldExclude s x).1 := by
  have hmemo : (r.shouldExclude s x).2.remembered s.version key =
      some ((r.remembered s.version key).getD (s.config.verdict x)) := by
    rw [remembered_shouldExclude hx, hxruling, Option.isSome_none, if_neg Bool.false_ne_true,
      if_pos rfl, if_pos rfl]
  rw [shouldExclude_fst hy, shouldExclude_registry hx, hyruling, hmemo, shouldExclude_fst hx,
    hxruling, Option.getD_none, Option.getD_none, Option.getD_some]

/-! ## Settled answers -/

/-- An answer that later questions under the same snapshot do not change: it is decided without the
patterns, or it is remembered. -/
def Settled (r : Rules) (s : Snapshot) (x : Candidate) (d : Bool) : Prop :=
  r.registry.ruling? x = some d ∨ r.registry.ruling? x = none ∧
    ∃ key, x.memoKey? s.version = some key ∧ r.remembered s.version key = some d

theorem Settled.answer {d : Bool} {key : MemoKey} (hkey : x.memoKey? s.version = some key)
    (h : r.Settled s x d) : (r.shouldExclude s x).1 = d := by
  rw [shouldExclude_fst hkey]
  rcases h with hruling | ⟨hruling, key', hkey', hmemo⟩
  · rw [hruling, Option.getD_some]
  · obtain rfl := Option.some.inj (hkey.symm.trans hkey')
    rw [hruling, hmemo, Option.getD_none, Option.getD_some]

/-- Once given, an answer is settled. -/
theorem settled_shouldExclude {key : MemoKey} (hkey : x.memoKey? s.version = some key) :
    (r.shouldExclude s x).2.Settled s x (r.shouldExclude s x).1 := by
  unfold Settled
  rw [shouldExclude_registry hkey, shouldExclude_fst hkey]
  cases hruling : r.registry.ruling? x with
  | some d => exact .inl rfl
  | none =>
    refine .inr ⟨rfl, key, hkey, ?_⟩
    rw [remembered_shouldExclude hkey, hruling, Option.isSome_none, if_neg Bool.false_ne_true,
      if_pos rfl, if_pos rfl, Option.getD_none]

/-- A settled answer stays. -/
theorem Settled.shouldExclude {d : Bool} (h : r.Settled s x d) {y : Candidate} {key : MemoKey}
    (hkey : y.memoKey? s.version = some key) : (r.shouldExclude s y).2.Settled s x d := by
  unfold Settled
  rw [shouldExclude_registry hkey]
  rcases h with hruling | ⟨hruling, key', hkey', hmemo⟩
  · exact .inl hruling
  · refine .inr ⟨hruling, key', hkey', ?_⟩
    rw [remembered_shouldExclude hkey, hmemo, if_pos rfl]
    split
    next => rfl
    next => split <;> rfl

/-! ## Questions about log records -/

/-- Every remembered list of wildcard patterns is the one that would be made anew. -/
def PathSound (r : Rules) : Prop :=
  ∀ value globs, r.pathMemo.lookup value = some globs → globs = pathGlobs value

/-- A question leaves everything but the remembered wildcard patterns, and those sound. -/
def Widens (r r' : Rules) : Prop :=
  ∃ globs, r' = { r with pathMemo := globs } ∧ r'.PathSound

theorem Widens.refl (h : r.PathSound) : r.Widens r := ⟨r.pathMemo, rfl, h⟩

theorem Widens.trans {r₁ r₂ r₃ : Rules} (h : r₁.Widens r₂) (h' : r₂.Widens r₃) :
    r₁.Widens r₃ := by
  obtain ⟨globs, rfl, -⟩ := h
  obtain ⟨globs', rfl, hsound⟩ := h'
  exact ⟨globs', rfl, hsound⟩

theorem Widens.sound {r' : Rules} (h : r.Widens r') : r'.PathSound := h.choose_spec.2

theorem globsFor_spec (h : r.PathSound) (value : String) :
    (r.globsFor value).1 = pathGlobs value ∧ r.Widens (r.globsFor value).2 := by
  unfold globsFor
  split
  next globs hlookup => exact ⟨h value globs hlookup, .refl h⟩
  next hlookup =>
    refine ⟨rfl, _, rfl, ?_⟩
    intro value' globs' hlookup'
    dsimp only at hlookup'
    rw [List.lookup_cons] at hlookup'
    split at hlookup'
    next heq => rw [← Option.some.inj hlookup', eq_of_beq heq]
    next => exact h value' globs' hlookup'

theorem pathMatches_spec (h : r.PathSound) (file : String) (p : Pattern) :
    (r.pathMatches file p).1 = p.matchesPath file ∧ r.Widens (r.pathMatches file p).2 := by
  unfold pathMatches Pattern.matchesPath
  split
  next htrailing => exact ⟨by rw [htrailing, Bool.true_or], .refl h⟩
  next htrailing =>
    obtain ⟨hglobs, hwidens⟩ := globsFor_spec h p.value
    dsimp only
    rw [hglobs, Bool.eq_false_iff.2 htrailing, Bool.false_or]
    exact ⟨rfl, hwidens⟩

theorem anyPathMatches_spec (file : String) (ps : List Pattern) {r : Rules} (h : r.PathSound) :
    (anyPathMatches file ps r).1 = ps.any (·.matchesPath file) ∧
      r.Widens (anyPathMatches file ps r).2 := by
  induction ps generalizing r with
  | nil => exact ⟨rfl, .refl h⟩
  | cons p ps ih =>
    obtain ⟨hp, hwidens⟩ := pathMatches_spec h file p
    unfold anyPathMatches
    rw [List.any_cons, ← hp]
    split
    next r' hmatch =>
      rw [hmatch] at hwidens ⊢
      exact ⟨rfl, hwidens⟩
    next r' hmatch =>
      rw [hmatch] at hwidens ⊢
      obtain ⟨hrest, hwidens'⟩ := ih hwidens.sound
      exact ⟨by rw [hrest, Bool.false_or], hwidens.trans hwidens'⟩

theorem fileExcluded_spec (h : r.PathSound) (x : UnspecifiedExclude) (file : String) :
    (r.fileExcluded x file).1 = x.excludesFile file ∧ r.Widens (r.fileExcluded x file).2 := by
  unfold fileExcluded UnspecifiedExclude.excludesFile
  split
  next hwhole => exact ⟨by rw [hwhole, Bool.true_or], .refl h⟩
  next hwhole =>
    rw [Bool.eq_false_iff.2 hwhole, Bool.false_or]
    exact anyPathMatches_spec file _ h

/-- Remembered wildcard patterns do not change the answer about a log record. -/
theorem logExcluded_spec (h : r.PathSound) (s : Snapshot) (application file : Option String) :
    (r.logExcluded s application file).1 =
        s.config.unspecified.exclude.excludes application file ∧
      r.Widens (r.logExcluded s application file).2 := by
  unfold logExcluded UnspecifiedExclude.excludes
  dsimp only
  split
  next happlication => exact ⟨by rw [happlication, Bool.true_or, Bool.true_or], .refl h⟩
  next happlication =>
    rw [Bool.eq_false_iff.2 happlication, Bool.false_or]
    cases file with
    | none => exact ⟨by rw [Option.any_none, Bool.false_or], .refl h⟩
    | some file =>
      obtain ⟨hfile, hwidens⟩ := fileExcluded_spec h s.config.unspecified.exclude file
      dsimp only
      rw [Option.any_some, ← hfile]
      split
      next r' hexcluded =>
        rw [hexcluded] at hwidens ⊢
        exact ⟨by rw [Bool.true_or], hwidens⟩
      next r' hexcluded =>
        rw [hexcluded] at hwidens ⊢
        exact ⟨by rw [Bool.false_or], hwidens⟩

/-! ## Questions in general -/

/-- Questions about requests and log records are answered as decided, and leave the decisions
remembered alone. -/
theorem shouldExclude_unkeyed (h : r.PathSound) (hkey : x.memoKey? s.version = none) :
    (r.shouldExclude s x).1 = r.registry.decides s.config x ∧
      r.Widens (r.shouldExclude s x).2 := by
  cases x with
  | model e op => cases hkey
  | field e name => cases hkey
  | request handler method application status =>
    rw [shouldExclude_request]
    exact ⟨rfl, .refl h⟩
  | log application file => exact logExcluded_spec h s application file

theorem shouldExclude_sound (h : r.PathSound) (s : Snapshot) (x : Candidate) :
    (r.shouldExclude s x).2.PathSound := by
  cases hkey : x.memoKey? s.version with
  | none => exact (shouldExclude_unkeyed h hkey).2.sound
  | some key =>
    intro value globs hlookup
    rw [shouldExclude_pathMemo hkey] at hlookup
    exact h value globs hlookup

/-- Nothing is remembered: nothing was asked yet, or all was forgotten since. -/
structure Unasked (r : Rules) : Prop where
  memo : r.memo = []
  pathMemo : r.pathMemo = []

theorem Unasked.sound (h : r.Unasked) : r.PathSound := by
  intro value globs hlookup
  rw [h.pathMemo] at hlookup
  cases hlookup

theorem unasked_fresh (g : Registry) : ({ registry := g } : Rules).Unasked := ⟨rfl, rfl⟩

theorem pathSound_fresh (g : Registry) : ({ registry := g } : Rules).PathSound :=
  (unasked_fresh g).sound

theorem unasked_invalidate (r : Rules) : r.invalidate.Unasked := ⟨rfl, rfl⟩

/-- Rules that remember nothing answer as the overrides and the configuration decide. -/
theorem shouldExclude_of_unasked (h : r.Unasked) (s : Snapshot) (x : Candidate) :
    (r.shouldExclude s x).1 = r.registry.decides s.config x := by
  cases hkey : x.memoKey? s.version with
  | none => exact (shouldExclude_unkeyed h.sound hkey).1
  | some key =>
    rw [shouldExclude_fst hkey, remembered_nil h.memo, Option.getD_none, Registry.decides]

/-- New rules answer as the overrides and the configuration decide. -/
theorem shouldExclude_fresh (g : Registry) (s : Snapshot) (x : Candidate) :
    (({ registry := g } : Rules).shouldExclude s x).1 = g.decides s.config x :=
  shouldExclude_of_unasked (unasked_fresh g) s x

end Rules

end AuditTrail
