import AuditTrail.Proofs.Mutation.Twins

/-
  Whether values of fields that are not declared or excluded can be noticed in the trail: in the
  events of a context, up to what is generated, or in the lines of the audit.

  They cannot as long as the runs are twins. The exception are confused types: a hidden value of one
  makes the rules decide, and remember, a field under a key that is also that of the other. Of two
  types confused over a field, under patterns that hide the field of one only, the hidden value
  takes the modification of the other out of its event (`saves_noticed`). So no hidden value of a
  set of types can be noticed exactly if no two types of the set are confused over a field
  (`hidden_unnoticed_iff`).
-/
namespace AuditTrail

namespace Engine

variable {σ τ : Type}

/-! ## Confused types -/

/-- An engine that records every operation on types of one qualified name, and excludes some of
their fields by a pattern. -/
def telling [Inhabited σ] (p : Pattern) (qualifiedName : String) : Engine σ τ where
  settings := ⟨{}, ⟨1, { model := { exclude := { fields := [p] } } }⟩⟩
  counter := ⟨2⟩
  rules := { registry := { modelInclusions := [(qualifiedName, ⟨.all, .nothing⟩)] } }
  handler := { store := default, surroundings := ⟨0, default⟩ }

/-- An instance of a type with a primary key and values. -/
def instanceOf (t : EntityType) (key : String) (values : Values) : Instance where
  entity := t
  primaryKey := some key
  values := values

/-- Something with some values is about to be saved, then something with one value is saved. -/
def saves (first second : EntityType) (values : Values) (field : String) : List Probe :=
  [.beforeSave (instanceOf first "1" values) none,
    .beforeSave (instanceOf second "2" [(field, .string "new")]) none,
    .afterSave (instanceOf second "2" [(field, .string "new")]) true none]

theorem saves_subjects {T : EntityType → Prop} {first second : EntityType} (hfirst : T first)
    (hsecond : T second) {values : Values} {field : String} :
    ∀ p ∈ saves first second values field, T p.subject.entity := by
  intro p hp
  simp only [saves, List.mem_cons, List.not_mem_nil, or_false] at hp
  rcases hp with rfl | rfl | rfl
  · exact hfirst
  · exact hsecond
  · exact hsecond

theorem keptOf_none (p : PendingSave) : keptOf (some p) none = p.modifications := by
  simp [keptOf]

theorem sift_registry (s : Snapshot) (t : EntityType) (changes : List Change) (r : Rules) :
    (r.sift s t changes).2.registry = r.registry := by
  induction changes generalizing r with
  | nil => rfl
  | cons change changes ih =>
    unfold Rules.sift
    dsimp only
    rw [ih, Rules.shouldExclude_registry rfl]

/-- Where an inclusion decides, nothing is remembered. -/
theorem asked_of_ruled {e : Engine σ τ} {t : EntityType} {op : Operation} {d : Bool}
    (h : e.rules.registry.ruling? (.model t op) = some d) :
    e.answer (.model t op) = d ∧ (e.asked (.model t op)).rules = e.rules := by
  unfold answer asked
  rw [Rules.shouldExclude_model, h]
  exact ⟨rfl, rfl⟩

/-- A save of an instance whose operations are included makes an event of the changes that are
admitted. -/
theorem save_included {e : Engine σ τ} {i : Instance} (c : Context)
    (henabled : e.config.isEnabled .model = true)
    (hruled : ∀ op, e.rules.registry.ruling? (.model i.entity op) = some false) :
    ∃ m, (e.observeAll [.beforeSave i none, .afterSave i true none] c).1.events = c.events ++ [m] ∧
      m.modifications = (e.rules.sift e.snapshot i.entity (changesOf i none)).1.filterMap
        (modificationOf i.entity) := by
  have hasked : e.answer (Probe.beforeSave i none).question = false ∧
      (e.asked (Probe.beforeSave i none).question).rules = e.rules := asked_of_ruled (hruled _)
  obtain ⟨started, e₁, hresult₁, -, hyields₁⟩ := beforeSave_admitted (c := c) henabled hasked.1
  have hregistry : e₁.rules.registry = e.rules.registry := by
    rw [hyields₁.rules, sift_registry, hasked.2]
  have henabled₁ : e₁.config.isEnabled .model = true := by rw [hyields₁.config, henabled]
  have hasked₁ : e₁.answer (Probe.afterSave i true none).question = false :=
    (asked_of_ruled (by rw [hregistry]; exact hruled _)).1
  generalize hc : c.stash i ⟨((e.asked (Probe.beforeSave i none).question).rules.sift e.snapshot
    i.entity (changesOf i none)).1.filterMap (modificationOf i.entity), started⟩ = c₁ at hresult₁
  obtain ⟨id, entryId, time, duration, e₂, m, hm, -, hresult₂, -⟩ :=
    afterSave_admitted (c := c₁) henabled₁ hasked₁
  refine ⟨m, ?_, ?_⟩
  · have hevents : (e.observeAll [.beforeSave i none, .afterSave i true none] c).1 =
        ((e.beforeSave i none c).2.afterSave i true none (e.beforeSave i none c).1).1 := rfl
    rw [hevents, hresult₁, hresult₂, Context.enter, Context.takePending_events, ← hc]
    rfl
  · rw [hm, ← hc, Context.takePending_stash, keptOf_none, hasked.2]

/-- What comes of the two saves: one event, with what the rules admit after the questions that came
of the values of the first. -/
theorem saves_event {e : Engine σ τ} {first second : EntityType}
    (henabled : e.config.isEnabled .model = true)
    (hfirst : ∀ op, e.rules.registry.ruling? (.model first op) = some false)
    (hsecond : ∀ op, e.rules.registry.ruling? (.model second op) = some false)
    (values : Values) (field : String) :
    ∃ m, (e.observeAll (saves first second values field) {}).1.events = [m] ∧
      m.modifications =
        ((e.rules.sift e.snapshot first (changesOf (instanceOf first "1" values) none)).2.sift
          e.snapshot second (changesOf (instanceOf second "2" [(field, .string "new")])
            none)).1.filterMap (modificationOf second) := by
  have hasked : e.answer (Probe.beforeSave (instanceOf first "1" values) none).question = false ∧
      (e.asked (Probe.beforeSave (instanceOf first "1" values) none).question).rules = e.rules :=
    asked_of_ruled (hfirst _)
  obtain ⟨started, e₁, hresult, -, hyields⟩ := beforeSave_admitted (c := {}) henabled hasked.1
  rw [hasked.2] at hresult hyields
  have henabled₁ : e₁.config.isEnabled .model = true := by rw [hyields.config, henabled]
  have hruled₁ : ∀ op, e₁.rules.registry.ruling? (.model second op) = some false := by
    rw [hyields.rules, sift_registry]
    exact hsecond
  generalize hc : (e.beforeSave (instanceOf first "1" values) none {}).1 = c₁
  have hempty : c₁.events = [] := by
    rw [← hc, hresult]
    rfl
  obtain ⟨m, hevents, hm⟩ := save_included
    (i := instanceOf second "2" [(field, .string "new")]) c₁ henabled₁ hruled₁
  refine ⟨m, ?_, ?_⟩
  · rw [saves, observeAll, observe]
    rw [hc, hresult, hevents, hempty]
    rfl
  · rw [hm, hyields.rules, hyields.snapshot]
    rfl

theorem changesOf_instanceOf {t : EntityType} {field : String} (h : t.declares field = true)
    (key text : String) (htext : text ≠ "") :
    changesOf (instanceOf t key [(field, .string text)]) none =
      [⟨.create, field, none, some text⟩] := by
  simp [changesOf, instanceOf, Instance.declaredValues, h, Change.between, Change.ofPost,
    Change.normalize, htext]

section Telling

variable [Inhabited σ] {p : Pattern} {name field : String} {t : EntityType}

theorem telling_ruling_model (hname : t.qualifiedName = name) (op : Operation) :
    (telling p name : Engine σ τ).rules.registry.ruling? (.model t op) = some false := by
  unfold telling Registry.ruling? Registry.modelInclusion?
  dsimp only
  rw [hname, List.lookup_cons, beq_self_eq_true]
  rfl

theorem telling_ruling_field (hname : t.qualifiedName = name) (h : t.Watches field) :
    (telling p name : Engine σ τ).rules.registry.ruling? (.field t field) = none := by
  obtain ⟨-, hcomplete, hfield⟩ := h
  unfold telling Registry.ruling? Registry.modelInclusion?
  dsimp only
  rw [hname, List.lookup_cons, beq_self_eq_true, decided?_eq_none, Bool.or_eq_false_iff]
  exact ⟨rfl, rfl, hcomplete, by simpa using hfield⟩

theorem telling_answer (hname : t.qualifiedName = name) (h : t.Watches field) :
    (telling p name : Engine σ τ).answer (.field t field) =
      ({ fields := [p] } : ModelExclude).excludesField t field := by
  rw [answer, Rules.shouldExclude_fst rfl, telling_ruling_field hname h, Option.getD_none,
    Rules.remembered_nil rfl, Option.getD_none]
  rfl

end Telling

theorem sift_excluded {t : EntityType} {s : Snapshot} {r : Rules} (change : Change)
    (h : (r.shouldExclude s (.field t change.key)).1 = true) :
    r.sift s t [change] = ([], (r.shouldExclude s (.field t change.key)).2) := by
  simp only [Rules.sift, h, if_true]

theorem sift_admitted {t : EntityType} {s : Snapshot} {r : Rules} (change : Change)
    (h : (r.shouldExclude s (.field t change.key)).1 = false) :
    r.sift s t [change] = ([change], (r.shouldExclude s (.field t change.key)).2) := by
  simp only [Rules.sift, h, Bool.false_eq_true, if_false]

section Noticed

variable [Inhabited σ] {hidden seen : EntityType} {field : String} {p : Pattern}

/-- The hidden value keeps the modification of the other instance out of the event. -/
theorem saves_hidden (hqualified : hidden.qualifiedName = seen.qualifiedName)
    (happlication : hidden.application = seen.application)
    (hhidden : hidden.Watches field) (hseen : seen.Watches field)
    (hexcluded : ({ fields := [p] } : ModelExclude).excludesField hidden field = true) :
    ∃ m, ((telling p hidden.qualifiedName : Engine σ τ).observeAll
        (saves hidden seen [(field, .string "old")] field) {}).1.events = [m] ∧
      m.modifications = [] := by
  let e : Engine σ τ := telling p hidden.qualifiedName
  have hruled : ∀ op, e.rules.registry.ruling? (.model hidden op) = some false :=
    telling_ruling_model rfl
  have hruled' : ∀ op, e.rules.registry.ruling? (.model seen op) = some false :=
    telling_ruling_model hqualified.symm
  have hanswer : (e.rules.shouldExclude e.snapshot (.field hidden field)).1 = true :=
    (telling_answer rfl hhidden).trans hexcluded
  have htaken : ((e.rules.shouldExclude e.snapshot (.field hidden field)).2.shouldExclude e.snapshot
      (.field seen field)).1 = true := by
    rw [Rules.shouldExclude_after rfl (by rw [hqualified, happlication]; rfl)
      (telling_ruling_field rfl hhidden) (telling_ruling_field hqualified.symm hseen), hanswer]
  obtain ⟨m, hevents, hm⟩ := saves_event (e := e) rfl hruled hruled' [(field, .string "old")] field
  refine ⟨m, hevents, ?_⟩
  rw [hm, changesOf_instanceOf hhidden.1 "1" "old" (by decide),
    changesOf_instanceOf hseen.1 "2" "new" (by decide),
    sift_excluded ⟨.create, field, none, some "old"⟩ hanswer,
    sift_excluded ⟨.create, field, none, some "new"⟩ htaken]
  rfl

/-- Without it, the modification is in the event. -/
theorem saves_seen (hqualified : hidden.qualifiedName = seen.qualifiedName)
    (hseen : seen.Watches field)
    (hadmitted : ({ fields := [p] } : ModelExclude).excludesField seen field = false) :
    ∃ m, ((telling p hidden.qualifiedName : Engine σ τ).observeAll
        (saves hidden seen [] field) {}).1.events = [m] ∧ m.modifications ≠ [] := by
  let e : Engine σ τ := telling p hidden.qualifiedName
  have hruled : ∀ op, e.rules.registry.ruling? (.model hidden op) = some false :=
    telling_ruling_model rfl
  have hruled' : ∀ op, e.rules.registry.ruling? (.model seen op) = some false :=
    telling_ruling_model hqualified.symm
  have hanswer : (e.rules.shouldExclude e.snapshot (.field seen field)).1 = false :=
    (telling_answer hqualified.symm hseen).trans hadmitted
  have hempty : e.rules.sift e.snapshot hidden (changesOf (instanceOf hidden "1" []) none) =
      ([], e.rules) := rfl
  obtain ⟨m, hevents, hm⟩ := saves_event (e := e) rfl hruled hruled' [] field
  refine ⟨m, hevents, ?_⟩
  obtain ⟨d, hd⟩ := exists_fieldDef? hseen.1
  rw [hm, hempty, changesOf_instanceOf hseen.1 "2" "new" (by decide),
    sift_admitted ⟨.create, field, none, some "new"⟩ hanswer]
  simp [modificationOf, hd]

/-- A hidden value of one type is noticed in the event of another that it is confused with. -/
theorem saves_noticed (hqualified : hidden.qualifiedName = seen.qualifiedName)
    (happlication : hidden.application = seen.application)
    (hhidden : hidden.Watches field) (hseen : seen.Watches field)
    (hexcluded : ({ fields := [p] } : ModelExclude).excludesField hidden field = true)
    (hadmitted : ({ fields := [p] } : ModelExclude).excludesField seen field = false) :
    let e : Engine σ τ := telling p hidden.qualifiedName
    List.Forall₂ e.SameBut (saves hidden seen [(field, .string "old")] field)
        (saves hidden seen [] field) ∧
      (e.observeAll (saves hidden seen [(field, .string "old")] field) {}).1.events.map (·.blank) ≠
        (e.observeAll (saves hidden seen [] field) {}).1.events.map (·.blank) := by
  intro e
  refine ⟨?_, ?_⟩
  · have hanswer : e.answer (.field hidden field) = true :=
      (telling_answer rfl hhidden).trans hexcluded
    have hhides : e.hides hidden field = true := by rw [hides, hanswer, Bool.or_true]
    have halike : e.Alike (instanceOf hidden "1" [(field, .string "old")])
        (instanceOf hidden "1" []) := by
      refine ⟨rfl, rfl, rfl, ?_⟩
      simp [instanceOf, visible, hhides]
    exact .cons (.beforeSave halike .none) (.cons (.beforeSave (.refl _) .none)
      (.cons (.afterSave (.refl _)) .nil))
  · obtain ⟨m, hevents, hm⟩ :=
      saves_hidden (σ := σ) (τ := τ) hqualified happlication hhidden hseen hexcluded
    obtain ⟨m', hevents', hm'⟩ := saves_seen (σ := σ) (τ := τ) hqualified hseen hadmitted
    intro heq
    rw [hevents, hevents'] at heq
    have hblank : m.blank = m'.blank := (List.cons.inj heq).1
    apply hm'
    rw [← MutationEvent.blank_modifications, ← hblank, MutationEvent.blank_modifications, hm]

end Noticed

/-! ## The trail -/

/-- Two runs that have left the same events, up to what is generated, and the same lines of the
audit. -/
def SameTrail (e₁ e₂ : Engine σ τ) (out₁ out₂ : Context × Engine σ τ) : Prop :=
  out₁.1.events.map (·.blank) = out₂.1.events.map (·.blank) ∧
    ∃ lines, out₁.2.audit = e₁.audit ++ lines ∧ out₂.2.audit = e₂.audit ++ lines

/-- Whatever is observed of entities of some types, two engines that differ in what they have
written and generated leave the same trail of observations that differ in hidden values, exactly if
no two of the types are confused over a field that both watch. -/
theorem hidden_unnoticed_iff [Inhabited σ] (T : EntityType → Prop) :
    (∀ (e : Engine σ τ) (handler : Handler σ τ) (c : Context) (ps qs : List Probe),
        e.config.model.snapshot = false → (∀ p ∈ ps, T p.subject.entity) →
          List.Forall₂ e.SameBut ps qs →
            SameTrail e { e with handler := handler } (e.observeAll ps c)
              ({ e with handler := handler }.observeAll qs c)) ↔
      Unconfused T := by
  constructor
  · rintro h ⟨a, b, field, ha, hb, ⟨hqualified, happlication, hname⟩, hwatchesA, hwatchesB⟩
    obtain ⟨p, hp⟩ := exists_excludesField_ne hqualified hname field
    cases hexcluded : ({ fields := [p] } : ModelExclude).excludesField a field with
    | true =>
      rw [hexcluded] at hp
      obtain ⟨hsame, hnoticed⟩ := saves_noticed (σ := σ) (τ := τ) hqualified happlication hwatchesA
        hwatchesB hexcluded (Bool.eq_false_iff.mpr hp.symm)
      exact hnoticed (h _ _ {} _ _ rfl (saves_subjects ha hb) hsame).1
    | false =>
      rw [hexcluded] at hp
      obtain ⟨hsame, hnoticed⟩ := saves_noticed (σ := σ) (τ := τ) hqualified.symm happlication.symm
        hwatchesB hwatchesA (eq_true_of_ne_false hp.symm) hexcluded
      exact hnoticed (h _ _ {} _ _ rfl (saves_subjects hb ha) hsame).1
  · intro hunconfused e handler c ps qs hsnapshot hT hpqs
    have hstart : Twins T e e.audit { e with handler := handler }.audit c e c
        { e with handler := handler } :=
      ⟨rfl, rfl, .refl T _ _, rfl, [], (List.append_nil _).symm, (List.append_nil _).symm⟩
    have htwins := observeAll_twins hunconfused hsnapshot hpqs hT hstart
    exact ⟨congrArg Context.events htwins.context, htwins.audit⟩

/-- A type `Order` of a module `shop.models`. -/
def order : EntityType where
  name := "Order"
  moduleName := some "shop.models"
  fields := [⟨"total", "decimal"⟩]

/-- A type `models.Order` of a module `shop`. -/
def nestedOrder : EntityType where
  name := "models.Order"
  moduleName := some "shop"
  fields := [⟨"total", "decimal"⟩]

/-- An engine under which totals of the first type are excluded. -/
def hidingTotals : Engine Unit Unit where
  settings := ⟨{}, ⟨1, { model := { exclude := { fields := [.plain "Order.total"] } } }⟩⟩
  counter := ⟨2⟩
  handler := { store := (), surroundings := ⟨0, ⟨0, 0⟩⟩ }

theorem excluded_total_noticed :
    List.Forall₂ hidingTotals.SameBut (saves order nestedOrder [("total", .string "9")] "total")
        (saves order nestedOrder [] "total") ∧
      ¬SameTrail hidingTotals hidingTotals
        (hidingTotals.observeAll (saves order nestedOrder [("total", .string "9")] "total") {})
        (hidingTotals.observeAll (saves order nestedOrder [] "total") {}) := by
  refine ⟨?_, ?_⟩
  · have halike : hidingTotals.Alike (instanceOf order "1" [("total", .string "9")])
        (instanceOf order "1" []) := ⟨rfl, rfl, rfl, by decide +kernel⟩
    exact .cons (.beforeSave halike .none) (.cons (.beforeSave (.refl _) .none)
      (.cons (.afterSave (.refl _)) .nil))
  · intro h
    have hlengths := congrArg (List.map (·.modifications.length)) h.1
    exact absurd hlengths (by decide +kernel)

end Engine

end AuditTrail
