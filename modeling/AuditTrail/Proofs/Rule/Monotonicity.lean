import AuditTrail.Proofs.Config.Union
import AuditTrail.Proofs.Rule.Precedence

/-
  Excluding more never lets anything through. A situation is no stricter than another if everything
  that excludes in it excludes in the other as well: what the configuration lists
  (`Config.NoStricter`), what exclusions cover and inclusions do not (`Registry.NoStricter`), and
  what a type asks for (`Ignore.NoStricter`). What is excluded in the first is then excluded in the
  second (`shouldExclude_mono`).

  The configuration excludes a candidate for one reason out of several, all of them positive
  (`Config.Excludes`), so each reason can be carried over by itself. The one thing that speaks
  against excluding is an inclusion, and of these the stricter situation has fewer.
-/
namespace AuditTrail

/-! ## Stricter situations -/

/-- Whether things without an application are excluded from a category. -/
def Config.excludesUnknown (c : Config) : Category → Bool
  | .request => c.request.exclude.unknown
  | .model => c.model.exclude.unknown
  | .unspecified => c.unspecified.exclude.unknown

/-- All that one configuration lists for exclusion another lists as well. -/
structure Config.NoStricter (c c' : Config) : Prop where
  models : c.model.exclude.models ⊆ c'.model.exclude.models
  fields : c.model.exclude.fields ⊆ c'.model.exclude.fields
  methods : c.request.exclude.methods ⊆ c'.request.exclude.methods
  status : c.request.exclude.status ⊆ c'.request.exclude.status
  files : c.unspecified.exclude.files ⊆ c'.unspecified.exclude.files
  applications : ∀ k, c.applications k ⊆ c'.applications k
  unknown : ∀ k, c.excludesUnknown k = true → c'.excludesUnknown k = true

/-- Exclusions cover at least as much in another registry, and inclusions at most as much. -/
structure Registry.NoStricter (g g' : Registry) : Prop where
  exclusions : ∀ x, g.covers .exclusion x = true → g'.covers .exclusion x = true
  inclusions : ∀ x, g'.covers .inclusion x = true → g.covers .inclusion x = true

/-- Another type asks for at least as much not to be recorded. -/
structure Ignore.NoStricter (i i' : Ignore) : Prop where
  complete : i.complete = true → i'.complete = true
  operations : i.operations ⊆ i'.operations
  fields : i.fields ⊆ i'.fields

/-- The same type of entities that asks for something else not to be recorded. -/
def EntityType.ignoring (e : EntityType) (i : Ignore) : EntityType := { e with ignore := i }

/-- The same candidate, whose type may ask for more not to be recorded. -/
inductive Candidate.NoStricter : Candidate → Candidate → Prop where
  | model (e : EntityType) (op : Operation) {i : Ignore} (h : e.ignore.NoStricter i) :
      Candidate.NoStricter (.model e op) (.model (e.ignoring i) op)
  | field (e : EntityType) (name : String) {i : Ignore} (h : e.ignore.NoStricter i) :
      Candidate.NoStricter (.field e name) (.field (e.ignoring i) name)
  | request (handler : Option String) (method : String) (application : Option String)
      (status : Nat) : Candidate.NoStricter (.request handler method application status)
        (.request handler method application status)
  | log (application file : Option String) :
      Candidate.NoStricter (.log application file) (.log application file)

/-! ## What the configuration excludes -/

theorem Matched.mono {ps ps' : List Pattern} (h : ps ⊆ ps') {text : String}
    (hmatch : Matched ps text) : Matched ps' text := by
  obtain ⟨p, hp, hmatch⟩ := hmatch
  exact ⟨p, h hp, hmatch⟩

theorem ApplicationExcluded.mono {ps ps' : List Pattern} {unknown unknown' : Bool}
    {application : Option String} (h : ps ⊆ ps') (hunknown : unknown = true → unknown' = true)
    (hexcluded : ApplicationExcluded ps unknown application) :
    ApplicationExcluded ps' unknown' application := by
  rcases hexcluded with ⟨a, ha, hmatch⟩ | ⟨hnone, hset⟩
  · exact .inl ⟨a, ha, hmatch.mono h⟩
  · exact .inr ⟨hnone, hunknown hset⟩

/-- A pattern in the longer list finds what it finds in the shorter one, also along the components
of a path. -/
theorem Config.Excludes.mono {c c' : Config} (h : c.NoStricter c') {x : Candidate}
    (hx : c.Excludes x) : c'.Excludes x := by
  cases x with
  | model e op =>
    rcases hx with ⟨name, hname, hmatch⟩ | happlication
    · exact .inl ⟨name, hname, hmatch.mono h.models⟩
    · exact .inr (happlication.mono (h.applications .model) (h.unknown .model))
  | field e field =>
    obtain ⟨name, hname, hmatch⟩ := hx
    exact ⟨name, hname, hmatch.mono h.fields⟩
  | request handler method application status =>
    rcases hx with hmethod | hstatus | happlication
    · exact .inl (h.methods hmethod)
    · exact .inr (.inl (h.status hstatus))
    · exact .inr (.inr (happlication.mono (h.applications .request) (h.unknown .request)))
  | log application file =>
    rcases hx with ⟨f, hf, hfile⟩ | happlication
    · refine .inl ⟨f, hf, ?_⟩
      rcases hfile with hmatch | ⟨p, hp, hkind, hwithin⟩
      · exact .inl (hmatch.mono h.files)
      · exact .inr ⟨p, h.files hp, hkind, hwithin⟩
    · exact .inr (happlication.mono (h.applications .unspecified) (h.unknown .unspecified))

/-- Sources with longer lists, the global ones among them, are resolved to longer lists. -/
theorem Config.NoStricter.resolved {c c' : Config} (h : c.NoStricter c')
    (hglobals : c.globals.applications ⊆ c'.globals.applications) :
    c.resolved.NoStricter c'.resolved where
  models := h.models
  fields := h.fields
  methods := h.methods
  status := h.status
  files := h.files
  applications k := by
    rw [Config.resolved_eq, Config.resolved_eq, Config.applications_withApplications,
      Config.applications_withApplications]
    intro p hp
    rw [Pattern.mem_union] at hp ⊢
    exact hp.imp (fun hp => h.applications k hp) (fun hp => hglobals hp)
  unknown k := by
    cases k with
    | request => exact h.unknown .request
    | model => exact h.unknown .model
    | unspecified => exact h.unknown .unspecified

/-! ## What a type asks for -/

namespace Candidate.NoStricter

variable {x x' : Candidate}

theorem ignored (h : x.NoStricter x') (hx : x.Ignored) : x'.Ignored := by
  cases h with
  | model e op h => exact hx.imp h.complete fun hop => h.operations hop
  | field e name h => exact hx.imp h.complete fun hname => h.fields hname
  | request _ _ _ _ => exact hx
  | log _ _ => exact hx

/-- Neither overrides nor the configuration look at what a type asks for. -/
theorem covers_eq (h : x.NoStricter x') (g : Registry) (effect : Effect) :
    g.covers effect x = g.covers effect x' := by
  cases h <;> rfl

theorem excludes_iff (h : x.NoStricter x') (c : Config) : c.Excludes x ↔ c.Excludes x' := by
  rw [← c.verdict_iff, ← c.verdict_iff]
  cases h <;> exact Iff.rfl

end Candidate.NoStricter

/-! ## Decisions -/

theorem Registry.NoStricter.decides {g g' : Registry} (hg : g.NoStricter g') {c c' : Config}
    (hc : c.NoStricter c') {x x' : Candidate} (hx : x.NoStricter x')
    (h : g.decides c x = true) : g'.decides c' x' = true := by
  rw [decides_iff] at h ⊢
  obtain ⟨hincluded, hreason⟩ := h
  rw [hx.covers_eq] at hincluded
  refine ⟨fun hincluded' => hincluded (hg.inclusions x' hincluded'), ?_⟩
  rcases hreason with hexcluded | hignored | hconfigured
  · rw [hx.covers_eq] at hexcluded
    exact .inl (hg.exclusions x' hexcluded)
  · exact .inr (.inl (hx.ignored hignored))
  · exact .inr (.inr (((hx.excludes_iff c).mp hconfigured).mono hc))

namespace Rules

/-- **Exclusion is monotone.** What rules that remember nothing exclude is excluded as well by such
rules with no fewer exclusions and no more inclusions, under a configuration that lists at least as
much for exclusion, if its type asks for at least as much not to be recorded. -/
theorem shouldExclude_mono {r r' : Rules} (hr : r.Unasked) (hr' : r'.Unasked)
    (hregistry : r.registry.NoStricter r'.registry) {s s' : Snapshot}
    (hconfig : s.config.NoStricter s'.config) {x x' : Candidate} (hx : x.NoStricter x')
    (h : (r.shouldExclude s x).1 = true) : (r'.shouldExclude s' x').1 = true := by
  rw [shouldExclude_of_unasked hr] at h
  rw [shouldExclude_of_unasked hr']
  exact hregistry.decides hconfig hx h

/-- The module of a type is excluded by a pattern. In the other situation deletions are no longer
included, modifications are excluded by an override, the type asks for its own, and the
configuration lists more. -/
theorem shouldExclude_mono_orders :
    let order : EntityType := { name := "Order", moduleName := some "shop.models" }
    let source : Config := { model := { exclude := { models := [.plain "shop.models"] } } }
    let source' : Config :=
      { globals := { applications := .plain "tests" :: defaultExcludedApplications }
        request := { exclude := { methods := ["get", "head"], status := [200, 304] } }
        model :=
          { exclude := { unknown := true, models := [.plain "Line", .plain "shop.models"] } } }
    let r : Rules :=
      { registry := { modelInclusions := [("shop.models.Order", ⟨.only [.delete], .nothing⟩)] } }
    let r' : Rules := Rules.invalidate
      { registry := { modelExclusions := [("shop.models.Order", ⟨.only [.modify], .all⟩)] }
        version := 1 }
    let s : Snapshot := ⟨1, source.resolved⟩
    let s' : Snapshot := ⟨2, source'.resolved⟩
    let x : Candidate := .model order .create
    let x' : Candidate := .model (order.ignoring { fields := ["note"] }) .create
    r.Unasked ∧ r'.Unasked ∧ r.registry.NoStricter r'.registry ∧
      s.config.NoStricter s'.config ∧ x.NoStricter x' ∧
      (r.shouldExclude s x).1 = true ∧ (r'.shouldExclude s' x').1 = true := by
  intro order source source' r r' s s' x x'
  have hregistry : r.registry.NoStricter r'.registry := by
    refine ⟨fun y hy => ?_, fun y hy => ?_⟩
    · cases y <;> simp [r, Registry.covers, Registry.models, Registry.requests] at hy
    · cases y <;>
        simp [r', Rules.invalidate, Registry.covers, Registry.models, Registry.requests] at hy
  have hsource : source.NoStricter source' := by
    refine ⟨?_, List.Subset.refl _, ?_, ?_, List.Subset.refl _, ?_, ?_⟩
    · simp [source, source']
    · simp [source, source']
    · simp [source, source']
    · exact fun k => by cases k <;> exact List.Subset.refl _
    · exact fun k => by cases k <;> simp [source, source', Config.excludesUnknown]
  have hconfig : s.config.NoStricter s'.config :=
    hsource.resolved (List.subset_cons_self _ _)
  have hx : x.NoStricter x' :=
    .model order .create ⟨fun h => absurd h Bool.false_ne_true, List.nil_subset _, List.nil_subset _⟩
  have hexcluded : (r.shouldExclude s x).1 = true := by decide +kernel
  have hr := unasked_fresh r.registry
  have hr' := unasked_invalidate r'
  exact ⟨hr, hr', hregistry, hconfig, hx, hexcluded,
    shouldExclude_mono hr hr' hregistry hconfig hx hexcluded⟩

end Rules

end AuditTrail
