import AuditTrail.Proofs.Mutation.Blank
import AuditTrail.Proofs.Mutation.Changes

/-
  Two engines with the same settings and rules that are told the same, but for values of fields that
  are not declared or excluded (`Engine.SameBut`). Snapshots of whole instances are off.

  The runs stay twins (`Engine.Twins`) as long as no types are confused: the settings are those of
  the start, both memories answer as they did at the start about declared fields and hold the same
  about operations, the contexts are equal up to what is generated, and the same lines have been
  added to the audit. One observation keeps this (`observe_twins`): hidden values make other
  changes, but those admitted are found in the visible values alone, and contexts and lines are made
  of these.
-/
namespace AuditTrail

namespace Engine

variable {σ τ : Type}

/-! ## What is to stay hidden -/

/-- Whether a field of a type is not declared or excluded. -/
def hides (t : EntityType) (field : String) (e : Engine σ τ) : Bool :=
  !t.declares field || e.answer (.field t field)

/-- The values of an instance of a type that may be seen. -/
def visible (t : EntityType) (values : Values) (e : Engine σ τ) : Values :=
  values.filter fun v => !e.hides t v.1

/-- Instances that are equal but for hidden values. -/
structure Alike (e : Engine σ τ) (i j : Instance) : Prop where
  entity : i.entity = j.entity
  primaryKey : i.primaryKey = j.primaryKey
  display : i.display = j.display
  values : e.visible i.entity i.values = e.visible i.entity j.values

/-- Observations that are equal but for hidden values. The stored state of an instance is one of
its type. -/
inductive SameBut (e : Engine σ τ) : Probe → Probe → Prop
  | beforeSave {i j : Instance} {prior prior' : Option Instance} (h : e.Alike i j)
      (hprior : Option.Rel (fun p q => p.entity = i.entity ∧ e.Alike p q) prior prior') :
      SameBut e (.beforeSave i prior) (.beforeSave j prior')
  | afterSave {i j : Instance} {created : Bool} {touched : Option (List String)}
      (h : e.Alike i j) : SameBut e (.afterSave i created touched) (.afterSave j created touched)
  | afterDelete {i j : Instance} (h : e.Alike i j) : SameBut e (.afterDelete i) (.afterDelete j)
  | relation {i j : Instance} {field : String} {related related' : List Instance}
      {action : RelationAction} (h : e.Alike i j)
      (hrelated : List.Forall₂ e.Alike related related') :
      SameBut e (.relation i field related action) (.relation j field related' action)

/-- The rules are first asked the same. -/
theorem SameBut.question {e : Engine σ τ} {p q : Probe} (h : e.SameBut p q) :
    p.question = q.question := by
  cases h with
  | beforeSave hij hprior =>
    rw [Probe.question, Probe.question, Probe.subject, Probe.subject, hij.entity]
    cases hprior <;> rfl
  | afterSave hij | afterDelete hij | relation hij =>
    rw [Probe.question, Probe.question, Probe.subject, Probe.subject, hij.entity]
    rfl

/-! ## Alike instances -/

section Alike

variable {e : Engine σ τ} {i j : Instance}

theorem Alike.refl (i : Instance) : e.Alike i i := ⟨rfl, rfl, rfl, rfl⟩

theorem Alike.key (h : e.Alike i j) : InstanceKey.of i = InstanceKey.of j := by
  rw [InstanceKey.of, InstanceKey.of, h.entity, h.primaryKey]

theorem Alike.toText (h : e.Alike i j) : i.toText = j.toText := by
  rw [Instance.toText, Instance.toText, h.display, h.entity, h.primaryKey]

theorem Alike.entry (h : e.Alike i j) (id id' : Uuid) :
    (EntityEntry.ofInstance id i).blank = (EntityEntry.ofInstance id' j).blank := by
  unfold EntityEntry.ofInstance EntityEntry.blank
  rw [h.entity, h.toText, Instance.primaryKeyOrEmpty, Instance.primaryKeyOrEmpty, h.primaryKey]

/-- Events about alike instances with the same contents are the same, up to what is generated. -/
theorem Alike.event (h : e.Alike i j) {c₁ c₂ : Context} (hactor : c₁.actor = c₂.actor)
    (op : Operation) (id id' entryId entryId' : Uuid) (time time' : Timestamp)
    (modifications : List ValueModification) {duration duration' : Option Duration}
    (hduration : duration.isSome = duration'.isSome) {ms ms' : List RelationshipModification}
    (hms : ms.map (·.blank) = ms'.map (·.blank)) :
    MutationEvent.blank { c₁.event i op id entryId time with
      modifications := modifications, duration := duration, relationships := ms } =
    MutationEvent.blank { c₂.event j op id' entryId' time' with
      modifications := modifications, duration := duration', relationships := ms' } := by
  unfold MutationEvent.blank Context.event
  dsimp only
  rw [h.entry entryId entryId', hactor, map_const_eq hduration, hms]

/-- Related instances that are alike give the same relationships, up to identifiers. -/
theorem relationships_alike {op : Operation} {mirror : FieldMirror}
    {ms ms' : List RelationshipModification} {related related' : List Instance}
    (h : List.Forall₂ (fun m i => ∃ id, m = ⟨op, mirror, .ofInstance id i⟩) ms related)
    (h' : List.Forall₂ (fun m i => ∃ id, m = ⟨op, mirror, .ofInstance id i⟩) ms' related')
    (hrelated : List.Forall₂ e.Alike related related') :
    ms.map (·.blank) = ms'.map (·.blank) := by
  induction hrelated generalizing ms ms' with
  | nil =>
    cases h
    cases h'
    rfl
  | cons hi _ ih =>
    cases h with
    | cons hm hms =>
      cases h' with
      | cons hm' hms' =>
        obtain ⟨id, rfl⟩ := hm
        obtain ⟨id', rfl⟩ := hm'
        rw [List.map_cons, List.map_cons, ih hms hms', RelationshipModification.blank,
          RelationshipModification.blank, hi.entry id id']

/-- Visible values of alike instances are declared and the same. -/
theorem Alike.declaredValues (h : e.Alike i j) :
    i.declaredValues.filter (fun v => !e.answer (.field i.entity v.1)) =
      j.declaredValues.filter (fun v => !e.answer (.field i.entity v.1)) := by
  have hvalues := h.values
  unfold visible hides at hvalues
  unfold Instance.declaredValues
  rw [List.filter_filter, List.filter_filter, ← h.entity]
  simpa only [Bool.not_or, Bool.not_not, Bool.and_comm] using hvalues

theorem prior_entity {prior prior' : Option Instance} (h : e.Alike i j)
    (hprior : Option.Rel (fun p q => p.entity = i.entity ∧ e.Alike p q) prior prior') :
    (∀ p ∈ prior, p.entity = i.entity) ∧ ∀ q ∈ prior', q.entity = j.entity := by
  cases hprior with
  | none => exact ⟨nofun, nofun⟩
  | some hpq =>
    obtain ⟨hentity, hpq⟩ := hpq
    refine ⟨?_, ?_⟩
    · rintro p ⟨⟩
      exact hentity
    · rintro q ⟨⟩
      rw [← hpq.entity, hentity, h.entity]

/-- The changes of fields that are not excluded are the same. -/
theorem changesOf_alike {prior prior' : Option Instance} (h : e.Alike i j)
    (hprior : Option.Rel (fun p q => p.entity = i.entity ∧ e.Alike p q) prior prior') :
    (changesOf i prior).filter (fun change => !e.answer (.field i.entity change.key)) =
      (changesOf j prior').filter (fun change => !e.answer (.field i.entity change.key)) := by
  unfold changesOf
  rw [Change.between_filter fun key => !e.answer (.field i.entity key),
    Change.between_filter fun key => !e.answer (.field i.entity key), h.declaredValues]
  cases hprior with
  | none => rfl
  | some hpq =>
    obtain ⟨hentity, hpq⟩ := hpq
    have hdeclared := hpq.declaredValues
    rw [hentity] at hdeclared
    rw [Option.map_some, Option.map_some, Option.getD_some, Option.getD_some, hdeclared]

end Alike

end Engine

/-! ## Rules in step -/

namespace Rules

variable {T : EntityType → Prop} {s : Snapshot} {r₀ r₁ r₂ : Rules}

/-- Two memories that answer about declared fields as at the start and agree on operations. -/
structure Paired (T : EntityType → Prop) (s : Snapshot) (r₀ r₁ r₂ : Rules) : Prop where
  left : Faithful T s r₀ r₁
  right : Faithful T s r₀ r₂
  models : ∀ key, key.kind = .model → r₁.remembered s.version key = r₂.remembered s.version key

theorem Paired.refl (T : EntityType → Prop) (s : Snapshot) (r₀ : Rules) : Paired T s r₀ r₀ r₀ :=
  ⟨.refl T s r₀, .refl T s r₀, fun _ _ => rfl⟩

/-- Both give the same answer about an operation. -/
theorem Paired.answer (h : Paired T s r₀ r₁ r₂) (t : EntityType) (op : Operation) :
    (r₁.shouldExclude s (.model t op)).1 = (r₂.shouldExclude s (.model t op)).1 := by
  rw [shouldExclude_fst rfl, shouldExclude_fst rfl, h.left.registry, h.right.registry,
    h.models _ rfl]

theorem Paired.model (h : Paired T s r₀ r₁ r₂) (t : EntityType) (op : Operation) :
    Paired T s r₀ (r₁.shouldExclude s (.model t op)).2 (r₂.shouldExclude s (.model t op)).2 := by
  refine ⟨h.left.model t op, h.right.model t op, ?_⟩
  intro key hkind
  rw [remembered_shouldExclude rfl, remembered_shouldExclude rfl, h.left.registry, h.right.registry,
    h.models key hkind]

theorem Paired.field (hunconfused : Unconfused T) (h : Paired T s r₀ r₁ r₂) {t : EntityType}
    {name : String} (hT : T t) (hdeclared : t.declares name = true) :
    Paired T s r₀ (r₁.shouldExclude s (.field t name)).2
      (r₂.shouldExclude s (.field t name)).2 := by
  refine ⟨h.left.field hunconfused hT hdeclared, h.right.field hunconfused hT hdeclared, ?_⟩
  intro key hkind
  have hother : key ≠ ⟨s.version, t.qualifiedName, t.application, .field, name⟩ := by
    intro heq
    rw [heq] at hkind
    cases hkind
  rw [remembered_shouldExclude_other rfl hother, remembered_shouldExclude_other rfl hother,
    h.models key hkind]

/-- Other changes may be asked about in both, as long as they are of declared fields. -/
theorem Paired.sift (hunconfused : Unconfused T) (h : Paired T s r₀ r₁ r₂) {t : EntityType}
    (hT : T t) {changes₁ changes₂ : List Change}
    (h₁ : ∀ change ∈ changes₁, t.declares change.key = true)
    (h₂ : ∀ change ∈ changes₂, t.declares change.key = true) :
    Paired T s r₀ (r₁.sift s t changes₁).2 (r₂.sift s t changes₂).2 := by
  refine ⟨(sift_faithful hunconfused hT h₁ h.left).2,
    (sift_faithful hunconfused hT h₂ h.right).2, ?_⟩
  intro key hkind
  rw [remembered_model_sift t changes₁ hkind, remembered_model_sift t changes₂ hkind,
    h.models key hkind]

end Rules

/-! ## Runs in step -/

namespace Engine

variable {σ τ : Type} {T : EntityType → Prop} {e₀ e₁ e₂ e₁' e₂' : Engine σ τ}
  {a₁ a₂ : List LogLine} {c₁ c₂ c₁' c₂' : Context}

/-- Two runs that cannot be told apart so far, from an engine and two audits. -/
structure Twins (T : EntityType → Prop) (e₀ : Engine σ τ) (a₁ a₂ : List LogLine) (c₁ : Context)
    (e₁ : Engine σ τ) (c₂ : Context) (e₂ : Engine σ τ) : Prop where
  settings₁ : e₁.settings = e₀.settings
  settings₂ : e₂.settings = e₀.settings
  rules : Rules.Paired T e₀.snapshot e₀.rules e₁.rules e₂.rules
  context : c₁.blank = c₂.blank
  audit : ∃ lines, e₁.audit = a₁ ++ lines ∧ e₂.audit = a₂ ++ lines

theorem Twins.config₁ (h : Twins T e₀ a₁ a₂ c₁ e₁ c₂ e₂) : e₁.config = e₀.config := by
  rw [config, h.settings₁, config]

theorem Twins.config₂ (h : Twins T e₀ a₁ a₂ c₁ e₁ c₂ e₂) : e₂.config = e₀.config := by
  rw [config, h.settings₂, config]

/-- Both record what the engine at the start records. -/
theorem Twins.enabled (h : Twins T e₀ a₁ a₂ c₁ e₁ c₂ e₂) {k : Category} {b : Bool}
    (henabled : e₀.config.isEnabled k = b) :
    e₁.config.isEnabled k = b ∧ e₂.config.isEnabled k = b := by
  rw [h.config₁, h.config₂]
  exact ⟨henabled, henabled⟩

theorem Twins.snapshot₁ (h : Twins T e₀ a₁ a₂ c₁ e₁ c₂ e₂) : e₁.snapshot = e₀.snapshot := by
  rw [snapshot, h.settings₁, snapshot]

theorem Twins.snapshot₂ (h : Twins T e₀ a₁ a₂ c₁ e₁ c₂ e₂) : e₂.snapshot = e₀.snapshot := by
  rw [snapshot, h.settings₂, snapshot]

/-- Twins stay twins if both yield rules in step and the same lines. -/
theorem Twins.yields (h : Twins T e₀ a₁ a₂ c₁ e₁ c₂ e₂) {r₁ r₂ : Rules} {lines : List LogLine}
    (h₁ : e₁.Yields r₁ lines e₁') (h₂ : e₂.Yields r₂ lines e₂')
    (hrules : Rules.Paired T e₀.snapshot e₀.rules r₁ r₂) (hcontext : c₁'.blank = c₂'.blank) :
    Twins T e₀ a₁ a₂ c₁' e₁' c₂' e₂' := by
  refine ⟨h₁.settings.trans h.settings₁, h₂.settings.trans h.settings₂, ?_, hcontext, ?_⟩
  · rw [h₁.rules, h₂.rules]
    exact hrules
  · obtain ⟨lines', ha₁, ha₂⟩ := h.audit
    refine ⟨lines' ++ lines, ?_, ?_⟩
    · rw [h₁.audit, ha₁, List.append_assoc]
    · rw [h₂.audit, ha₂, List.append_assoc]

theorem actor_congr (h : c₁.blank = c₂.blank) : c₁.actor = c₂.actor := by
  have hactor : c₁.blank.actor = c₂.blank.actor := by rw [h]
  exact hactor

theorem memo_congr (h : c₁.blank = c₂.blank) : c₁.memo = c₂.memo := by
  have hmemo : c₁.blank.memo = c₂.blank.memo := by rw [h]
  exact hmemo

theorem discardPending_congr (h : c₁.blank = c₂.blank) {i j : Instance}
    (hkey : InstanceKey.of i = InstanceKey.of j) :
    (c₁.discardPending i).blank = (c₂.discardPending j).blank := by
  rw [Context.blank_discardPending, Context.blank_discardPending, h, Context.discardPending,
    Context.discardPending, hkey]

theorem snapshotOf_eq_none {e : Engine σ τ} (h : e.config.model.snapshot = false) {i : Instance} :
    e.snapshotOf i = none := by
  rw [snapshotOf, h]
  rfl

/-- Both engines answer the first question of an observation alike. -/
theorem Twins.answer (h : Twins T e₀ a₁ a₂ c₁ e₁ c₂ e₂) {p q : Probe}
    (hpq : p.question = q.question) : e₁.answer p.question = e₂.answer q.question := by
  rw [Engine.answer, Engine.answer, h.snapshot₁, h.snapshot₂, ← hpq]
  exact h.rules.answer _ _

theorem Twins.asked (h : Twins T e₀ a₁ a₂ c₁ e₁ c₂ e₂) {p q : Probe}
    (hpq : p.question = q.question) :
    Rules.Paired T e₀.snapshot e₀.rules (e₁.asked p.question).rules
      (e₂.asked q.question).rules := by
  rw [Engine.asked, Engine.asked, h.snapshot₁, h.snapshot₂, ← hpq]
  exact h.rules.model _ _

theorem afterDelete_twins (h : Twins T e₀ a₁ a₂ c₁ e₁ c₂ e₂)
    (hsnapshot : e₀.config.model.snapshot = false) (henabled : e₀.config.isEnabled .model = true)
    {i j : Instance} (hij : e₀.Alike i j) :
    Twins T e₀ a₁ a₂ (e₁.afterDelete i c₁).1 (e₁.afterDelete i c₁).2 (e₂.afterDelete j c₂).1
      (e₂.afterDelete j c₂).2 := by
  obtain ⟨henabled₁, henabled₂⟩ := h.enabled henabled
  have hquestion := (SameBut.afterDelete hij).question
  have hdiscard := discardPending_congr h.context hij.key
  cases hanswer : e₁.answer (Probe.afterDelete i).question with
  | true =>
    obtain ⟨e₁', hresult₁, hyields₁⟩ := afterDelete_excluded (c := c₁) henabled₁ hanswer
    rw [h.answer hquestion] at hanswer
    obtain ⟨e₂', hresult₂, hyields₂⟩ := afterDelete_excluded (c := c₂) henabled₂ hanswer
    rw [hresult₁, hresult₂]
    exact h.yields hyields₁ hyields₂ (h.asked hquestion) hdiscard
  | false =>
    obtain ⟨id, entryId, time, e₁', m, hm, hresult₁, hyields₁⟩ :=
      afterDelete_admitted (c := c₁) henabled₁ hanswer
    rw [h.answer hquestion] at hanswer
    obtain ⟨id', entryId', time', e₂', m', hm', hresult₂, hyields₂⟩ :=
      afterDelete_admitted (c := c₂) henabled₂ hanswer
    have hblank : m.blank = m'.blank := by
      rw [hm, hm', snapshotOf_eq_none (by rw [h.config₁, hsnapshot]),
        snapshotOf_eq_none (by rw [h.config₂, hsnapshot])]
      exact hij.event (actor_congr h.context) .delete id id' entryId entryId' time time' [] rfl rfl
    have hline := mutationLine_congr (h.config₁.trans h.config₂.symm) hij.entity hblank
    rw [hresult₁, hresult₂]
    rw [hline] at hyields₁
    exact h.yields hyields₁ hyields₂ (h.asked hquestion)
      (Context.blank_enter_congr hdiscard hij.key hblank)

theorem beforeSave_twins (hunconfused : Unconfused T) (h : Twins T e₀ a₁ a₂ c₁ e₁ c₂ e₂)
    (henabled : e₀.config.isEnabled .model = true) {i j : Instance} (hT : T i.entity)
    (hij : e₀.Alike i j) {prior prior' : Option Instance}
    (hprior : Option.Rel (fun p q => p.entity = i.entity ∧ e₀.Alike p q) prior prior') :
    Twins T e₀ a₁ a₂ (e₁.beforeSave i prior c₁).1 (e₁.beforeSave i prior c₁).2
      (e₂.beforeSave j prior' c₂).1 (e₂.beforeSave j prior' c₂).2 := by
  obtain ⟨henabled₁, henabled₂⟩ := h.enabled henabled
  have hquestion := (SameBut.beforeSave hij hprior).question
  cases hanswer : e₁.answer (Probe.beforeSave i prior).question with
  | true =>
    obtain ⟨e₁', hresult₁, hyields₁⟩ := beforeSave_excluded (c := c₁) henabled₁ hanswer
    rw [h.answer hquestion] at hanswer
    obtain ⟨e₂', hresult₂, hyields₂⟩ := beforeSave_excluded (c := c₂) henabled₂ hanswer
    rw [hresult₁, hresult₂]
    exact h.yields hyields₁ hyields₂ (h.asked hquestion) (discardPending_congr h.context hij.key)
  | false =>
    obtain ⟨started, e₁', hresult₁, hstarted, hyields₁⟩ :=
      beforeSave_admitted (c := c₁) henabled₁ hanswer
    rw [h.answer hquestion] at hanswer
    obtain ⟨started', e₂', hresult₂, hstarted', hyields₂⟩ :=
      beforeSave_admitted (c := c₂) henabled₂ hanswer
    have hrules := h.asked hquestion
    obtain ⟨hentity, hentity'⟩ := prior_entity hij hprior
    have hdeclared := changesOf_declared hentity
    have hdeclared' := changesOf_declared hentity'
    rw [← hij.entity] at hdeclared'
    rw [h.snapshot₁] at hresult₁ hyields₁
    rw [h.snapshot₂, ← hij.entity] at hresult₂ hyields₂
    rw [hresult₁, hresult₂]
    refine h.yields hyields₁ hyields₂ (hrules.sift hunconfused hT hdeclared hdeclared') ?_
    have hadmitted := (Rules.sift_faithful hunconfused hT hdeclared hrules.left).1
    have hadmitted' := (Rules.sift_faithful hunconfused hT hdeclared' hrules.right).1
    have hmeasured : started.isSome = started'.isSome := by
      rw [hstarted, hstarted', h.config₁, h.config₂]
    have hsame := changesOf_alike hij hprior
    unfold Engine.answer at hsame
    rw [hadmitted, hadmitted', hsame, Context.blank_stash, Context.blank_stash, h.context,
      Context.stash, Context.stash, hij.key, PendingSave.blank, PendingSave.blank]
    dsimp only
    rw [map_const_eq hmeasured]

theorem keptOf_blank (pending : Option PendingSave) (touched : Option (List String)) :
    keptOf (pending.map (·.blank)) touched = keptOf pending touched := by
  cases pending <;> rfl

theorem takePending_congr (h : c₁.blank = c₂.blank) {i j : Instance}
    (hkey : InstanceKey.of i = InstanceKey.of j) :
    (c₁.takePending i).1.map (·.blank) = (c₂.takePending j).1.map (·.blank) ∧
      (c₁.takePending i).2.blank = (c₂.takePending j).2.blank := by
  obtain ⟨hpending₁, hcontext₁⟩ := Context.blank_takePending i c₁
  obtain ⟨hpending₂, hcontext₂⟩ := Context.blank_takePending j c₂
  rw [hpending₁, hpending₂, hcontext₁, hcontext₂, h, Context.takePending, Context.takePending, hkey]
  exact ⟨rfl, rfl⟩

theorem started_congr {p q : Option PendingSave} (h : p.map (·.blank) = q.map (·.blank)) :
    (p.bind (·.started)).isSome = (q.bind (·.started)).isSome := by
  cases p with
  | none =>
    cases q with
    | none => rfl
    | some q => cases h
  | some p =>
    cases q with
    | none => cases h
    | some q =>
      have hstarted := congrArg (fun b => b.started.isSome) (Option.some.inj h)
      dsimp only [PendingSave.blank] at hstarted
      rw [Option.isSome_map, Option.isSome_map] at hstarted
      exact hstarted

theorem afterSave_twins (h : Twins T e₀ a₁ a₂ c₁ e₁ c₂ e₂)
    (hsnapshot : e₀.config.model.snapshot = false) (henabled : e₀.config.isEnabled .model = true)
    {i j : Instance} (hij : e₀.Alike i j) {created : Bool} {touched : Option (List String)} :
    Twins T e₀ a₁ a₂ (e₁.afterSave i created touched c₁).1 (e₁.afterSave i created touched c₁).2
      (e₂.afterSave j created touched c₂).1 (e₂.afterSave j created touched c₂).2 := by
  obtain ⟨henabled₁, henabled₂⟩ := h.enabled henabled
  have hquestion : (Probe.afterSave i created touched).question =
      (Probe.afterSave j created touched).question := (SameBut.afterSave hij).question
  cases hanswer : e₁.answer (Probe.afterSave i created touched).question with
  | true =>
    obtain ⟨e₁', hresult₁, hyields₁⟩ := afterSave_excluded (c := c₁) henabled₁ hanswer
    rw [h.answer hquestion] at hanswer
    obtain ⟨e₂', hresult₂, hyields₂⟩ := afterSave_excluded (c := c₂) henabled₂ hanswer
    rw [hresult₁, hresult₂]
    exact h.yields hyields₁ hyields₂ (h.asked hquestion) (discardPending_congr h.context hij.key)
  | false =>
    obtain ⟨id, entryId, time, duration, e₁', m, hm, hduration, hresult₁, hyields₁⟩ :=
      afterSave_admitted (c := c₁) henabled₁ hanswer
    rw [h.answer hquestion] at hanswer
    obtain ⟨id', entryId', time', duration', e₂', m', hm', hduration', hresult₂, hyields₂⟩ :=
      afterSave_admitted (c := c₂) henabled₂ hanswer
    obtain ⟨hpending, hcontext⟩ := takePending_congr h.context hij.key
    have hactor := actor_congr hcontext
    have hmeasured : duration.isSome = duration'.isSome := by
      rw [hduration, hduration', started_congr hpending]
    have hblank : m.blank = m'.blank := by
      rw [hm, hm', snapshotOf_eq_none (by rw [h.config₁, hsnapshot]),
        snapshotOf_eq_none (by rw [h.config₂, hsnapshot]), ← keptOf_blank, hpending, keptOf_blank]
      exact hij.event hactor _ id id' entryId entryId' time time' _ hmeasured rfl
    have hline := mutationLine_congr (h.config₁.trans h.config₂.symm) hij.entity hblank
    rw [hresult₁, hresult₂]
    rw [hline, ← MutationEvent.blank_isEmptyModification, hblank,
      MutationEvent.blank_isEmptyModification] at hyields₁
    exact h.yields hyields₁ hyields₂ (h.asked hquestion)
      (Context.blank_enter_congr hcontext hij.key hblank)

theorem declares_of_fieldDef? {t : EntityType} {field : String} {d : FieldDef}
    (h : t.fieldDef? field = some d) : t.declares field = true := by
  unfold EntityType.fieldDef? at h
  have hname := List.find?_some h
  rw [EntityType.declares, List.any_eq_true]
  exact ⟨d, List.mem_of_find?_eq_some h, hname⟩

/-- Both engines, having been asked the first question, answer alike about a declared field. -/
theorem Twins.answer_field (h : Twins T e₀ a₁ a₂ c₁ e₁ c₂ e₂) {p q : Probe}
    (hpq : p.question = q.question) {i j : Instance} (hij : e₀.Alike i j) (hT : T i.entity)
    {field : String} (hdeclared : i.entity.declares field = true) :
    (e₁.asked p.question).answer (.field i.entity field) =
      (e₂.asked q.question).answer (.field j.entity field) := by
  have hrules := h.asked hpq
  have hleft := hrules.left.answer hT hdeclared
  have hright := hrules.right.answer hT hdeclared
  have hsnapshot₁ : (e₁.asked p.question).snapshot = e₀.snapshot := h.snapshot₁
  have hsnapshot₂ : (e₂.asked q.question).snapshot = e₀.snapshot := h.snapshot₂
  rw [Engine.answer, Engine.answer, hsnapshot₁, hsnapshot₂, ← hij.entity, hleft, hright]

/-- And their memories stay in step. -/
theorem Twins.asked_field (hunconfused : Unconfused T) (h : Twins T e₀ a₁ a₂ c₁ e₁ c₂ e₂)
    {p q : Probe} (hpq : p.question = q.question) {i j : Instance} (hij : e₀.Alike i j)
    (hT : T i.entity) {field : String} (hdeclared : i.entity.declares field = true) :
    Rules.Paired T e₀.snapshot e₀.rules
      ((e₁.asked p.question).asked (.field i.entity field)).rules
      ((e₂.asked q.question).asked (.field j.entity field)).rules := by
  have hsnapshot₁ : (e₁.asked p.question).snapshot = e₀.snapshot := h.snapshot₁
  have hsnapshot₂ : (e₂.asked q.question).snapshot = e₀.snapshot := h.snapshot₂
  unfold Engine.asked at hsnapshot₁ hsnapshot₂ ⊢
  dsimp only
  rw [hsnapshot₁, hsnapshot₂, ← hij.entity]
  exact (h.asked hpq).field hunconfused hT hdeclared

section Relation

variable {i j : Instance} {field : String} {related related' : List Instance}
  {action : RelationAction}

/-- Alike relationships become part of the same event: of the one in flight, or of a new one. -/
theorem relation_admitted_twins (h : Twins T e₀ a₁ a₂ c₁ e₁ c₂ e₂)
    (henabled : e₀.config.isEnabled .model = true) (hij : e₀.Alike i j)
    (hrelated : List.Forall₂ e₀.Alike related related') (hempty : related ≠ [])
    (hempty' : related' ≠ []) {d : FieldDef} (hfield : i.entity.fieldDef? field = some d)
    (hanswer : e₁.answer (Probe.relation i field related action).question = false)
    (hadmitted : (e₁.asked (Probe.relation i field related action).question).answer
      (.field i.entity field) = false)
    (hadmitted' : (e₂.asked (Probe.relation j field related' action).question).answer
      (.field j.entity field) = false)
    (hrules : Rules.Paired T e₀.snapshot e₀.rules
      ((e₁.asked (Probe.relation i field related action).question).asked
        (.field i.entity field)).rules
      ((e₂.asked (Probe.relation j field related' action).question).asked
        (.field j.entity field)).rules) :
    Twins T e₀ a₁ a₂ (e₁.relationChanged i field related action c₁).1
      (e₁.relationChanged i field related action c₁).2
      (e₂.relationChanged j field related' action c₂).1
      (e₂.relationChanged j field related' action c₂).2 := by
  obtain ⟨henabled₁, henabled₂⟩ := h.enabled henabled
  have hquestion : (Probe.relation i field related action).question =
      (Probe.relation j field related' action).question := (SameBut.relation hij hrelated).question
  have hanswer' := hanswer
  rw [h.answer hquestion] at hanswer'
  have hfield' : j.entity.fieldDef? field = some d := by rw [← hij.entity, hfield]
  have hconfig : e₁.config = e₂.config := h.config₁.trans h.config₂.symm
  have hmemo : c₁.memo.lookup (.of i) = c₂.memo.lookup (.of j) := by
    rw [memo_congr h.context, hij.key]
  cases hposition : c₁.memo.lookup (.of i) with
  | some position =>
    have hposition' := hmemo.symm.trans hposition
    obtain ⟨ms, e₁', hms, hresult₁, hyields₁⟩ :=
      relation_inFlight henabled₁ hempty hanswer hfield hadmitted hposition
    obtain ⟨ms', e₂', hms', hresult₂, hyields₂⟩ :=
      relation_inFlight henabled₂ hempty' hanswer' hfield' hadmitted' hposition'
    rw [← hij.entity] at hms'
    have hblank := relationships_alike hms hms' hrelated
    have hactor : c₁.events[position]?.bind (·.actor) = c₂.events[position]?.bind (·.actor) := by
      rw [← Context.blank_actor, h.context, Context.blank_actor]
    have hline := relationLine_congr hconfig hij.entity (c₁.events[position]?.bind (·.actor)) field
      hblank
    rw [hresult₁, hresult₂]
    rw [hline, hactor] at hyields₁
    refine h.yields hyields₁ hyields₂ hrules ?_
    rw [Context.blank_editEvent, Context.blank_editEvent, h.context, hblank]
  | none =>
    have hposition' := hmemo.symm.trans hposition
    obtain ⟨ms, id, entryId, time, e₁', hms, hresult₁, hyields₁⟩ :=
      relation_new henabled₁ hempty hanswer hfield hadmitted hposition
    obtain ⟨ms', id', entryId', time', e₂', hms', hresult₂, hyields₂⟩ :=
      relation_new henabled₂ hempty' hanswer' hfield' hadmitted' hposition'
    rw [← hij.entity] at hms'
    have hblank := relationships_alike hms hms' hrelated
    have hactor := actor_congr h.context
    have hline := relationLine_congr hconfig hij.entity c₁.actor field hblank
    rw [hresult₁, hresult₂]
    rw [hline, hactor] at hyields₁
    refine h.yields hyields₁ hyields₂ hrules (Context.blank_enter_congr h.context hij.key ?_)
    exact hij.event hactor .modify id id' entryId entryId' time time' [] rfl hblank

theorem relation_twins (hunconfused : Unconfused T) (h : Twins T e₀ a₁ a₂ c₁ e₁ c₂ e₂)
    (henabled : e₀.config.isEnabled .model = true) (hT : T i.entity) (hij : e₀.Alike i j)
    (hrelated : List.Forall₂ e₀.Alike related related') :
    Twins T e₀ a₁ a₂ (e₁.relationChanged i field related action c₁).1
      (e₁.relationChanged i field related action c₁).2
      (e₂.relationChanged j field related' action c₂).1
      (e₂.relationChanged j field related' action c₂).2 := by
  by_cases hempty : related = []
  · subst hempty
    cases hrelated
    rw [relation_empty, relation_empty]
    exact h
  have hempty' : related' ≠ [] := by
    intro h'
    subst h'
    cases hrelated
    exact hempty rfl
  obtain ⟨henabled₁, henabled₂⟩ := h.enabled henabled
  have hquestion : (Probe.relation i field related action).question =
      (Probe.relation j field related' action).question := (SameBut.relation hij hrelated).question
  cases hanswer : e₁.answer (Probe.relation i field related action).question with
  | true =>
    obtain ⟨e₁', hresult₁, hyields₁⟩ := relation_excluded (c := c₁) henabled₁ hempty hanswer
    rw [h.answer hquestion] at hanswer
    obtain ⟨e₂', hresult₂, hyields₂⟩ := relation_excluded (c := c₂) henabled₂ hempty' hanswer
    rw [hresult₁, hresult₂]
    exact h.yields hyields₁ hyields₂ (h.asked hquestion) h.context
  | false =>
    have hanswer' := hanswer
    rw [h.answer hquestion] at hanswer'
    cases hfield : i.entity.fieldDef? field with
    | none =>
      have hfield' : j.entity.fieldDef? field = none := by rw [← hij.entity, hfield]
      obtain ⟨e₁', hresult₁, hyields₁⟩ :=
        relation_undeclared (c := c₁) henabled₁ hempty hanswer hfield
      obtain ⟨e₂', hresult₂, hyields₂⟩ :=
        relation_undeclared (c := c₂) henabled₂ hempty' hanswer' hfield'
      rw [hresult₁, hresult₂]
      exact h.yields hyields₁ hyields₂ (h.asked hquestion) h.context
    | some d =>
      have hfield' : j.entity.fieldDef? field = some d := by rw [← hij.entity, hfield]
      have hdeclared := declares_of_fieldDef? hfield
      have hsame := h.answer_field hquestion hij hT hdeclared
      have hrules := h.asked_field hunconfused hquestion hij hT hdeclared
      cases hexcluded : (e₁.asked (Probe.relation i field related action).question).answer
          (.field i.entity field) with
      | true =>
        have hexcluded' := hsame.symm.trans hexcluded
        obtain ⟨e₁', hresult₁, hyields₁⟩ :=
          relation_fieldExcluded (c := c₁) henabled₁ hempty hanswer hfield hexcluded
        obtain ⟨e₂', hresult₂, hyields₂⟩ :=
          relation_fieldExcluded (c := c₂) henabled₂ hempty' hanswer' hfield' hexcluded'
        rw [hresult₁, hresult₂]
        exact h.yields hyields₁ hyields₂ hrules h.context
      | false =>
        have hadmitted' := hsame.symm.trans hexcluded
        exact relation_admitted_twins h henabled hij hrelated hempty hempty' hfield hanswer
          hexcluded hadmitted' hrules

end Relation

/-- One observation keeps twins, whatever hidden values it comes with. -/
theorem observe_twins (hunconfused : Unconfused T) (h : Twins T e₀ a₁ a₂ c₁ e₁ c₂ e₂)
    (hsnapshot : e₀.config.model.snapshot = false) {p q : Probe} (hT : T p.subject.entity)
    (hpq : e₀.SameBut p q) :
    Twins T e₀ a₁ a₂ (e₁.observe p c₁).1 (e₁.observe p c₁).2 (e₂.observe q c₂).1
      (e₂.observe q c₂).2 := by
  cases henabled : e₀.config.isEnabled .model with
  | false =>
    obtain ⟨hdisabled₁, hdisabled₂⟩ := h.enabled henabled
    rw [observe_disabled hdisabled₁, observe_disabled hdisabled₂]
    exact h
  | true =>
    cases hpq with
    | beforeSave hij hprior => exact beforeSave_twins hunconfused h henabled hT hij hprior
    | afterSave hij => exact afterSave_twins h hsnapshot henabled hij
    | afterDelete hij => exact afterDelete_twins h hsnapshot henabled hij
    | relation hij hrelated => exact relation_twins hunconfused h henabled hT hij hrelated

/-- So do all observations. -/
theorem observeAll_twins (hunconfused : Unconfused T)
    (hsnapshot : e₀.config.model.snapshot = false) {ps qs : List Probe}
    (hpqs : List.Forall₂ e₀.SameBut ps qs) (hT : ∀ p ∈ ps, T p.subject.entity)
    {c₁ c₂ : Context} {e₁ e₂ : Engine σ τ} (h : Twins T e₀ a₁ a₂ c₁ e₁ c₂ e₂) :
    Twins T e₀ a₁ a₂ (e₁.observeAll ps c₁).1 (e₁.observeAll ps c₁).2 (e₂.observeAll qs c₂).1
      (e₂.observeAll qs c₂).2 := by
  induction hpqs generalizing c₁ c₂ e₁ e₂ with
  | nil => exact h
  | cons hpq _ ih =>
    exact ih (fun p hp => hT p (List.mem_cons_of_mem _ hp))
      (observe_twins hunconfused h hsnapshot (hT _ List.mem_cons_self) hpq)

end Engine

end AuditTrail
