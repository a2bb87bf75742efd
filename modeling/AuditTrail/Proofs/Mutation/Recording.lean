import AuditTrail.Proofs.Mutation.Suppression

/-
  Saves of types of which nothing is excluded. What waits in a context stands under the keys of
  instances, and what waits for an instance is taken from its key, or from the key that it had
  before it had a primary key (`Context.takePending_eq`). Rules that exclude nothing of some types
  go on to do so, so an engine that records everything of them does too: what a save is going to
  change waits after the call before it (`Engine.RecordsAll.beforeSave`), and comes into the event
  of the save (`Engine.RecordsAll.afterSave`).
-/
namespace AuditTrail

/-! ## Pending saves under keys -/

namespace Keyed

variable {α : Type}

theorem lookup_remove (k k' : InstanceKey) (m : Keyed α) :
    (Keyed.remove k m).lookup k' = if k' = k then none else m.lookup k' := by
  rw [remove, lookup_filter_key (· != k)]
  by_cases hk : k' = k
  · rw [if_pos hk, hk, bne_self_eq_false, if_neg Bool.false_ne_true]
  · rw [if_neg hk, if_pos (bne_iff_ne.mpr hk)]

theorem lookup_put (k k' : InstanceKey) (a : α) (m : Keyed α) :
    (Keyed.put k a m).lookup k' = if k' = k then some a else m.lookup k' := by
  rw [put, List.lookup_cons]
  by_cases hk : k' = k
  · rw [if_pos hk, hk, beq_self_eq_true]
  · rw [if_neg hk, beq_eq_false_iff_ne.mpr hk, lookup_remove, if_neg hk]

/-- The key that what waits for an instance is taken from: its own if something is there, or else
the one that it had before it had a primary key. -/
def TakenFrom (m : Keyed α) (i : Instance) (k : InstanceKey) : Prop :=
  (k = .of i ∧ ∃ a, m.lookup (.of i) = some a) ∨
    k = (InstanceKey.of i).unsaved ∧ m.lookup (.of i) = none

end Keyed

namespace Context

variable {c : Context} {i : Instance}

theorem lookup_stash (i : Instance) (p : PendingSave) (c : Context) (k : InstanceKey) :
    (c.stash i p).pending.lookup k = if k = .of i then some p else c.pending.lookup k :=
  Keyed.lookup_put (.of i) k p c.pending

theorem takePending_of_some {p : PendingSave} (h : c.pending.lookup (.of i) = some p) :
    c.takePending i = (some p, { c with pending := Keyed.remove (.of i) c.pending }) := by
  unfold takePending
  dsimp only
  rw [h]

theorem takePending_of_none (h : c.pending.lookup (.of i) = none) :
    c.takePending i = (c.pending.lookup (InstanceKey.of i).unsaved,
      { c with pending := Keyed.remove (InstanceKey.of i).unsaved c.pending }) := by
  unfold takePending
  dsimp only
  rw [h]

/-- What is taken is found under one key, and no longer there afterwards. -/
theorem takePending_eq (i : Instance) (c : Context) :
    ∃ k, c.takePending i = (c.pending.lookup k, { c with pending := Keyed.remove k c.pending }) ∧
      c.pending.TakenFrom i k := by
  cases hlookup : c.pending.lookup (.of i) with
  | some p =>
    refine ⟨.of i, ?_, .inl ⟨rfl, p, hlookup⟩⟩
    rw [takePending_of_some hlookup, hlookup]
  | none => exact ⟨_, takePending_of_none hlookup, .inr ⟨rfl, hlookup⟩⟩

end Context

/-! ## Rules that exclude nothing -/

/-- Nothing of some types is excluded, nor remembered as excluded. -/
structure Rules.Admits (T : EntityType → Prop) (s : Snapshot) (r : Rules) : Prop where
  decides : ∀ x t, x.entity? = some t → T t → r.registry.decides s.config x = false
  remembered : ∀ key d, r.remembered s.version key = some d → d = false

namespace Rules.Admits

variable {T : EntityType → Prop} {s : Snapshot} {r : Rules} {x : Candidate} {t : EntityType}
  {key : MemoKey}

theorem answer (h : r.Admits T s) (hkey : x.memoKey? s.version = some key)
    (hx : x.entity? = some t) (hT : T t) : (r.shouldExclude s x).1 = false := by
  have hdecides := h.decides x t hx hT
  rw [Registry.decides] at hdecides
  rw [shouldExclude_fst hkey]
  cases hruling : r.registry.ruling? x with
  | some d =>
    rw [hruling, Option.getD_some] at hdecides
    rw [Option.getD_some, hdecides]
  | none =>
    rw [hruling, Option.getD_none] at hdecides
    rw [Option.getD_none]
    cases hmemo : r.remembered s.version key with
    | some d => rw [Option.getD_some, h.remembered key d hmemo]
    | none => rw [Option.getD_none, hdecides]

theorem shouldExclude (h : r.Admits T s) (hkey : x.memoKey? s.version = some key)
    (hx : x.entity? = some t) (hT : T t) : (r.shouldExclude s x).2.Admits T s := by
  refine ⟨?_, ?_⟩
  · rw [shouldExclude_registry hkey]
    exact h.decides
  · intro key' d hmemo
    rw [remembered_shouldExclude hkey] at hmemo
    cases hruling : r.registry.ruling? x with
    | some d' =>
      rw [hruling, Option.isSome_some, if_pos rfl] at hmemo
      exact h.remembered key' d hmemo
    | none =>
      rw [hruling, Option.isSome_none, if_neg Bool.false_ne_true, if_pos rfl] at hmemo
      by_cases hsame : key' = key
      · have hverdict := h.decides x t hx hT
        rw [Registry.decides, hruling, Option.getD_none] at hverdict
        rw [if_pos hsame, hverdict] at hmemo
        cases hbefore : r.remembered s.version key' with
        | some d' =>
          rw [hbefore, Option.getD_some] at hmemo
          rw [← Option.some.inj hmemo]
          exact h.remembered key' d' hbefore
        | none =>
          rw [hbefore, Option.getD_none] at hmemo
          exact (Option.some.inj hmemo).symm
      · rw [if_neg hsame] at hmemo
        exact h.remembered key' d hmemo

/-- All changes of fields are admitted. -/
theorem sift (h : r.Admits T s) (hT : T t) (changes : List Change) :
    (r.sift s t changes).1 = changes ∧ (r.sift s t changes).2.Admits T s := by
  induction changes generalizing r with
  | nil => exact ⟨rfl, h⟩
  | cons change changes ih =>
    have hanswer := h.answer (x := .field t change.key) rfl rfl hT
    obtain ⟨hrest, hadmits⟩ := ih (h.shouldExclude (x := .field t change.key) rfl rfl hT)
    unfold Rules.sift
    dsimp only
    rw [hanswer, hrest, if_neg Bool.false_ne_true]
    exact ⟨rfl, hadmits⟩

end Rules.Admits

/-- An engine that records everything of some types. -/
structure Engine.RecordsAll {σ τ : Type} (T : EntityType → Prop) (e : Engine σ τ) : Prop where
  enabled : e.config.isEnabled .model = true
  admits : e.rules.Admits T e.snapshot

/-- What a save is going to change. -/
def computed (i : Instance) (prior : Option Instance) : List ValueModification :=
  (Engine.changesOf i prior).filterMap (Engine.modificationOf i.entity)

theorem computed_of_no_fields {i : Instance} (h : i.entity.fields = []) (prior : Option Instance) :
    computed i prior = [] := by
  have hnone : ∀ change, Engine.modificationOf i.entity change = none := by
    intro change
    rw [Engine.modificationOf, EntityType.fieldDef?, h]
    rfl
  rw [computed, List.filterMap_eq_nil_iff]
  exact fun change _ => hnone change

namespace Engine.RecordsAll

variable {σ τ : Type} {T : EntityType → Prop} {e : Engine σ τ} {i : Instance}

theorem answer (h : e.RecordsAll T) (hT : T i.entity) (op : Operation) :
    e.answer (.model i.entity op) = false :=
  h.admits.answer (x := .model i.entity op) rfl rfl hT

theorem yields {e' : Engine σ τ} {r : Rules} {lines : List LogLine} (h : e.RecordsAll T)
    (hyields : e.Yields r lines e') (hr : r.Admits T e.snapshot) : e'.RecordsAll T := by
  refine ⟨?_, ?_⟩
  · rw [hyields.config, h.enabled]
  · rw [hyields.rules, hyields.snapshot]
    exact hr

/-- What was computed before a save waits in the context. -/
theorem beforeSave (h : e.RecordsAll T) (hT : T i.entity) (prior : Option Instance) (c : Context) :
    ∃ started e', e.observe (.beforeSave i prior) c =
        (c.stash i ⟨computed i prior, started⟩, e') ∧ e'.RecordsAll T := by
  have hanswer := h.answer hT (Probe.beforeSave i prior).asksAbout
  have hadmits : (e.asked (Probe.beforeSave i prior).question).rules.Admits T e.snapshot :=
    h.admits.shouldExclude (x := (Probe.beforeSave i prior).question) rfl rfl hT
  obtain ⟨hsift, hadmits'⟩ := hadmits.sift hT (changesOf i prior)
  obtain ⟨started, e', hresult, -, hyields⟩ := beforeSave_admitted (c := c) h.enabled hanswer
  rw [hsift] at hresult
  exact ⟨started, e', hresult, h.yields hyields hadmits'⟩

/-- The event of a save carries what waited for it. -/
theorem afterSave (h : e.RecordsAll T) (hT : T i.entity) (created : Bool)
    (touched : Option (List String)) (c : Context) :
    ∃ m e', e.observe (.afterSave i created touched) c = ((c.takePending i).2.enter i m, e') ∧
      m.modifications = keptOf (c.takePending i).1 touched ∧
      (∃ id, m.entry = .ofInstance id i) ∧ e'.RecordsAll T := by
  have hanswer := h.answer hT (Probe.afterSave i created touched).asksAbout
  have hadmits : (e.asked (Probe.afterSave i created touched).question).rules.Admits T e.snapshot :=
    h.admits.shouldExclude (x := (Probe.afterSave i created touched).question) rfl rfl hT
  obtain ⟨id, entryId, time, duration, e', m, hm, -, hresult, hyields⟩ :=
    afterSave_admitted (c := c) h.enabled hanswer
  refine ⟨m, e', hresult, ?_, ⟨entryId, ?_⟩, h.yields hyields hadmits⟩
  · rw [hm]
  · rw [hm]
    rfl

end Engine.RecordsAll

namespace Engine

/-- The default settings and no overrides exclude nothing of types that ask for nothing. -/
theorem byDefault_recordsAll {T : EntityType → Prop} (h : ∀ t, T t → t.ignore = {}) :
    byDefault.RecordsAll T := by
  refine ⟨by decide +kernel, ⟨?_, ?_⟩⟩
  · intro x t hx hT
    have hignore := h t hT
    have hnopattern : ∀ names : List String, names.any (Pattern.anyMatch []) = false := by
      intro names
      rw [List.any_eq_false]
      intro name _
      exact Bool.false_ne_true
    cases x with
    | model e op =>
      obtain rfl := Option.some.inj hx
      have hruling : byDefault.rules.registry.ruling? (.model e op) = none := by
        rw [Registry.ruling?, hignore]
        rfl
      rw [Registry.decides, hruling, Option.getD_none]
      show ModelExclude.excludesType {} e = false
      unfold ModelExclude.excludesType
      rw [hnopattern]
      cases e.moduleName <;> cases e.application <;> rfl
    | field e field =>
      obtain rfl := Option.some.inj hx
      have hruling : byDefault.rules.registry.ruling? (.field e field) = none := by
        apply ruling?_field_eq_none
        · rw [hignore]
        · rw [hignore]
          exact List.not_mem_nil
      rw [Registry.decides, hruling, Option.getD_none]
      exact hnopattern _
    | request _ _ _ _ => cases hx
    | log _ _ => cases hx
  · intro key d hd
    rw [Rules.remembered_nil rfl] at hd
    cases hd

end Engine

end AuditTrail
