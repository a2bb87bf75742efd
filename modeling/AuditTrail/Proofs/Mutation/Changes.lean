import AuditTrail.Proofs.Mutation.Probes
import AuditTrail.Proofs.Rule.Naming

/-
  Which changes of fields the rules admit. Changes are found key by key: to leave some keys out of
  the changes is to leave them out of both states first (`between_filter`). The rules are asked
  about one changed key after the other, and each answer may leave something in the memory that the
  next one is taken from. As long as only declared fields of types that are not confused are asked
  about, all answers stay what they were at the start (`Rules.Faithful`), so the changes admitted
  are those that the rules would have admitted one by one at the start (`sift_faithful`).
-/
namespace AuditTrail

/-! ## Changes by keys -/

namespace Change

theorem lookup_filter {keep : String → Bool} {key : String} (h : keep key = true) (vs : Values) :
    (vs.filter fun v => keep v.1).lookup key = vs.lookup key := by
  rw [lookup_filter_key, if_pos h]

theorem ofPost_key {prior : Values} {entry : String × Json} {change : Change}
    (h : ofPost prior entry = some change) : change.key = entry.1 := by
  unfold ofPost at h
  dsimp only at h
  split at h
  next => cases h
  next =>
    obtain rfl := Option.some.inj h
    rfl

theorem ofRemoved_key {post : Values} {entry : String × Json} {change : Change}
    (h : ofRemoved post entry = some change) : change.key = entry.1 := by
  unfold ofRemoved at h
  split at h
  next => cases h
  next =>
    rw [Option.map_eq_some_iff] at h
    obtain ⟨_, -, rfl⟩ := h
    rfl

/-- The later state is compared with the earlier one key by key. -/
theorem ofPost_filter {keep : String → Bool} {entry : String × Json} (h : keep entry.1 = true)
    (prior : Values) : ofPost (prior.filter fun v => keep v.1) entry = ofPost prior entry := by
  unfold ofPost
  rw [lookup_filter h]

theorem ofRemoved_filter {keep : String → Bool} {entry : String × Json} (h : keep entry.1 = true)
    (post : Values) : ofRemoved (post.filter fun v => keep v.1) entry = ofRemoved post entry := by
  unfold ofRemoved
  rw [lookup_filter h]

/-- Where each entry gives a change of its own key, entries and changes may be left out by keys. -/
theorem filterMap_filter {keep : String → Bool} {f g : String × Json → Option Change}
    (hkey : ∀ v change, f v = some change → change.key = v.1)
    (hsame : ∀ v, keep v.1 = true → g v = f v) (vs : Values) :
    (vs.filterMap f).filter (fun change => keep change.key) =
      (vs.filter fun v => keep v.1).filterMap g := by
  induction vs with
  | nil => rfl
  | cons v vs ih =>
    cases hkeep : keep v.1 with
    | true =>
      rw [List.filter_cons, if_pos hkeep, List.filterMap_cons, List.filterMap_cons, hsame v hkeep]
      cases hf : f v with
      | none => exact ih
      | some change =>
        dsimp only
        rw [List.filter_cons, if_pos (by rw [hkey v change hf]; exact hkeep), ih]
    | false =>
      rw [List.filter_cons, if_neg (by rw [hkeep]; exact Bool.false_ne_true), List.filterMap_cons]
      cases hf : f v with
      | none => exact ih
      | some change =>
        dsimp only
        have hdropped : ¬keep change.key = true := by
          rw [hkey v change hf, hkeep]
          exact Bool.false_ne_true
        rw [List.filter_cons, if_neg hdropped, ih]

/-- Keys left out of the changes may as well be left out of both states. -/
theorem between_filter (keep : String → Bool) (prior post : Values) :
    (between prior post).filter (fun change => keep change.key) =
      between (prior.filter fun v => keep v.1) (post.filter fun v => keep v.1) := by
  unfold between
  rw [List.filter_append]
  congr 1
  · exact filterMap_filter (fun _ _ => ofPost_key) (fun _ h => ofPost_filter h prior) post
  · exact filterMap_filter (fun _ _ => ofRemoved_key) (fun _ h => ofRemoved_filter h post) prior

/-- Every change is one of a key of either state. -/
theorem key_mem_of_mem_between {prior post : Values} {change : Change}
    (h : change ∈ between prior post) : ∃ v, (v ∈ prior ∨ v ∈ post) ∧ change.key = v.1 := by
  rw [between, List.mem_append, List.mem_filterMap, List.mem_filterMap] at h
  rcases h with ⟨v, hv, hchange⟩ | ⟨v, hv, hchange⟩
  · exact ⟨v, .inr hv, ofPost_key hchange⟩
  · exact ⟨v, .inl hv, ofRemoved_key hchange⟩

end Change

/-! ## Changes of declared fields -/

namespace Engine

/-- The changes of a save are of declared fields. -/
theorem changesOf_declared {i : Instance} {prior : Option Instance}
    (hprior : ∀ p ∈ prior, p.entity = i.entity) :
    ∀ change ∈ changesOf i prior, i.entity.declares change.key = true := by
  intro change hchange
  obtain ⟨v, hv, hkey⟩ := Change.key_mem_of_mem_between hchange
  rw [hkey]
  rcases hv with hv | hv
  · cases prior with
    | none => cases hv
    | some p =>
      rw [← hprior p rfl]
      exact (List.mem_filter.mp hv).2
  · exact (List.mem_filter.mp hv).2

theorem exists_fieldDef? {t : EntityType} {field : String} (h : t.declares field = true) :
    ∃ d, t.fieldDef? field = some d := by
  rw [EntityType.declares, List.any_eq_true] at h
  obtain ⟨d, hd, hname⟩ := h
  rw [EntityType.fieldDef?, ← Option.isSome_iff_exists, List.find?_isSome]
  exact ⟨d, hd, hname⟩

end Engine

/-! ## Answers about declared fields -/

/-- A field that is declared and that its type does not ignore. -/
def EntityType.Watches (t : EntityType) (field : String) : Prop :=
  t.declares field = true ∧ t.ignore.complete = false ∧ field ∉ t.ignore.fields

/-- No two types of a set are confused over a field that both watch. -/
def Unconfused (T : EntityType → Prop) : Prop :=
  ¬∃ a b field, T a ∧ T b ∧ a.Confused b ∧ a.Watches field ∧ b.Watches field

theorem Registry.watches_of_ruling?_none {g : Registry} {t : EntityType} {field : String}
    (h : g.ruling? (.field t field) = none) (hdeclared : t.declares field = true) :
    t.Watches field := by
  rw [ruling?, decided?_eq_none, Bool.or_eq_false_iff] at h
  exact ⟨hdeclared, h.2.2.1, by simpa using h.2.2.2⟩

namespace Rules

variable {T : EntityType → Prop} {s : Snapshot} {r₀ r : Rules}

/-- Rules that answer about the declared fields of some types as they did at the start. -/
structure Faithful (T : EntityType → Prop) (s : Snapshot) (r₀ r : Rules) : Prop where
  registry : r.registry = r₀.registry
  kept : ∀ key d, r₀.remembered s.version key = some d → r.remembered s.version key = some d
  fields : ∀ t field key d, T t → t.declares field = true →
    r₀.registry.ruling? (.field t field) = none →
      (Candidate.field t field).memoKey? s.version = some key →
        r.remembered s.version key = some d → d = (r₀.shouldExclude s (.field t field)).1

theorem Faithful.refl (T : EntityType → Prop) (s : Snapshot) (r₀ : Rules) :
    Faithful T s r₀ r₀ := by
  refine ⟨rfl, fun _ _ h => h, ?_⟩
  intro t field key d _ _ hruling hkey hd
  rw [shouldExclude_fst hkey, hruling, hd, Option.getD_none, Option.getD_some]

theorem Faithful.answer (h : Faithful T s r₀ r) {t : EntityType} {field : String} (hT : T t)
    (hdeclared : t.declares field = true) :
    (r.shouldExclude s (.field t field)).1 = (r₀.shouldExclude s (.field t field)).1 := by
  cases hruling : r₀.registry.ruling? (.field t field) with
  | some d =>
    rw [shouldExclude_fst rfl, shouldExclude_fst rfl, h.registry, hruling, Option.getD_some,
      Option.getD_some]
  | none =>
    cases hmemo : r.remembered s.version
        ⟨s.version, t.qualifiedName, t.application, .field, field⟩ with
    | some d =>
      rw [shouldExclude_fst rfl, h.registry, hruling, hmemo, Option.getD_none, Option.getD_some]
      exact h.fields t field _ d hT hdeclared hruling rfl hmemo
    | none =>
      have hmemo₀ : r₀.remembered s.version
          ⟨s.version, t.qualifiedName, t.application, .field, field⟩ = none := by
        cases hd : r₀.remembered s.version
            ⟨s.version, t.qualifiedName, t.application, .field, field⟩ with
        | none => rfl
        | some d => cases hmemo.symm.trans (h.kept _ _ hd)
      rw [shouldExclude_fst rfl, shouldExclude_fst rfl, h.registry, hmemo, hmemo₀]

theorem remembered_shouldExclude_other {x : Candidate} {key key' : MemoKey}
    (hkey : x.memoKey? s.version = some key) (hother : key' ≠ key) :
    (r.shouldExclude s x).2.remembered s.version key' = r.remembered s.version key' := by
  rw [remembered_shouldExclude hkey]
  split
  next => rfl
  next => rw [if_pos rfl]

theorem remembered_shouldExclude_kept {x : Candidate} {key key' : MemoKey} {d : Bool}
    (hkey : x.memoKey? s.version = some key) (hd : r.remembered s.version key' = some d) :
    (r.shouldExclude s x).2.remembered s.version key' = some d := by
  rw [remembered_shouldExclude hkey, hd]
  split
  next => rfl
  next =>
    rw [if_pos rfl]
    split <;> rfl

/-- Questions about operations do not touch what is remembered of fields. -/
theorem Faithful.model (h : Faithful T s r₀ r) (t : EntityType) (op : Operation) :
    Faithful T s r₀ (r.shouldExclude s (.model t op)).2 := by
  refine ⟨(shouldExclude_registry rfl).trans h.registry, ?_, ?_⟩
  · intro key d hd
    exact remembered_shouldExclude_kept rfl (h.kept key d hd)
  · intro t' field key d hT hdeclared hruling hkey hd
    obtain rfl := Option.some.inj hkey
    rw [remembered_shouldExclude_other rfl (by simp)] at hd
    exact h.fields t' field _ d hT hdeclared hruling rfl hd

/-- Nor do questions about declared fields make a difference, unless types are confused. -/
theorem Faithful.field (hunconfused : Unconfused T) (h : Faithful T s r₀ r) {t : EntityType}
    {name : String} (hT : T t) (hdeclared : t.declares name = true) :
    Faithful T s r₀ (r.shouldExclude s (.field t name)).2 := by
  refine ⟨(shouldExclude_registry rfl).trans h.registry, ?_, ?_⟩
  · intro key d hd
    exact remembered_shouldExclude_kept rfl (h.kept key d hd)
  · intro t' field key d hT' hdeclared' hruling' hkey hd
    rw [remembered_shouldExclude rfl, h.registry] at hd
    split at hd
    next => exact h.fields t' field key d hT' hdeclared' hruling' hkey hd
    next hruling =>
      rw [if_pos rfl] at hd
      split at hd
      next hsame =>
        obtain rfl := Option.some.inj hkey
        simp only [MemoKey.mk.injEq] at hsame
        obtain ⟨-, hqualified, happlication, -, rfl⟩ := hsame
        have hruling₀ := Option.not_isSome_iff_eq_none.mp hruling
        have hname : t'.name = t.name := by
          by_contra hne
          exact hunconfused ⟨t', t, field, hT', hT, ⟨hqualified, happlication, hne⟩,
            Registry.watches_of_ruling?_none hruling' hdeclared',
            Registry.watches_of_ruling?_none hruling₀ hdeclared⟩
        have hanswer := h.answer hT hdeclared
        rw [shouldExclude_fst rfl, h.registry, hruling₀, Option.getD_none] at hanswer
        rw [← Option.some.inj hd, hqualified, happlication, hanswer, shouldExclude_fst rfl,
          shouldExclude_fst rfl, hruling₀, hruling', hqualified, happlication]
        have hverdict := s.config.model.exclude.excludesField_congr hname happlication field
        rw [Config.verdict, Config.verdict, hverdict]
      next => exact h.fields t' field key d hT' hdeclared' hruling' hkey hd

theorem remembered_model_sift (t : EntityType) (changes : List Change) {key : MemoKey}
    (hkind : key.kind = .model) :
    (r.sift s t changes).2.remembered s.version key = r.remembered s.version key := by
  induction changes generalizing r with
  | nil => rfl
  | cons change changes ih =>
    unfold sift
    dsimp only
    rw [ih, remembered_shouldExclude_other rfl]
    intro heq
    rw [heq] at hkind
    cases hkind

/-- The changes admitted are those that the rules would have admitted at the start. -/
theorem sift_faithful (hunconfused : Unconfused T) {t : EntityType} (hT : T t)
    {changes : List Change} (hdeclared : ∀ change ∈ changes, t.declares change.key = true)
    {r : Rules} (h : Faithful T s r₀ r) :
    (r.sift s t changes).1 =
        changes.filter (fun change => !(r₀.shouldExclude s (.field t change.key)).1) ∧
      Faithful T s r₀ (r.sift s t changes).2 := by
  induction changes generalizing r with
  | nil => exact ⟨rfl, h⟩
  | cons change changes ih =>
    have hchange := hdeclared change List.mem_cons_self
    obtain ⟨hadmitted, hfaithful⟩ := ih (fun c hc => hdeclared c (List.mem_cons_of_mem _ hc))
      (h.field hunconfused hT hchange)
    unfold sift
    dsimp only
    refine ⟨?_, hfaithful⟩
    rw [hadmitted, h.answer hT hchange, List.filter_cons]
    cases (r₀.shouldExclude s (.field t change.key)).1 <;> rfl

end Rules

end AuditTrail
