import AuditTrail.Proofs.Rule.Naming
import Mathlib.Data.Fintype.EquivFin

/-
  Whether the memory of the rules can be noticed. Rules are called in any order: asked under any
  snapshots, given overrides, relieved of them, told to forget. An answer is right if rules that
  remember nothing, with the same overrides, would have given it.

  What is remembered is justified by the calls so far (`Justified`): a decision remembered for a
  version was made by the patterns for a candidate with that key, under a snapshot of that version,
  and wildcard patterns are those made anew. Every call keeps this (`call_justified`). So all
  answers are right as long as candidates with one key are judged alike, and the key does not hold
  everything they are judged by: types may share the qualified name and differ in the name. The
  answers about a set of types are right, whatever is called, exactly if no two types of the set are
  confused in this way (`answersRight_iff_not_confused`).
-/
namespace AuditTrail

namespace Rules

/-! ## Calls -/

/-- A call to the rules. -/
inductive Call where
  | ask (s : Snapshot) (x : Candidate)
  | allow (name : String) (o : Override)
  | deny (name : String) (o : Override)
  | unregister (name : String)
  | invalidate

/-- The rules after a call. -/
def call (r : Rules) : Call → Rules
  | .ask s x => (r.shouldExclude s x).2
  | .allow name o => { r with registry := r.registry.addInclusion name o }
  | .deny name o => { r with registry := r.registry.addExclusion name o }
  | .unregister name => { r with registry := r.registry.unregister name }
  | .invalidate => r.invalidate

/-- New rules after some calls. -/
def after (calls : List Call) : Rules := calls.foldl call {}

theorem after_append_singleton (calls : List Call) (c : Call) :
    after (calls ++ [c]) = (after calls).call c := by
  rw [after, List.foldl_append]
  rfl

/-- Snapshots of one version that are asked under are one snapshot. -/
def Versioned (calls : List Call) : Prop :=
  ∀ s x s' x', .ask s x ∈ calls → .ask s' x' ∈ calls → s.version = s'.version → s = s'

/-- All questions about entities and fields are about types of a set. -/
def Within (T : EntityType → Prop) (calls : List Call) : Prop :=
  ∀ s x e, .ask s x ∈ calls → x.entity? = some e → T e

/-! ## What calls leave in the memory -/

/-- What is remembered after some calls comes from them. -/
structure Justified (calls : List Call) (r : Rules) : Prop where
  sound : r.PathSound
  remembered : ∀ version key d, r.remembered version key = some d → ∃ s x e,
    .ask s x ∈ calls ∧ s.version = version ∧ x.memoKey? version = some key ∧
      x.entity? = some e ∧ e.ignore.complete = false ∧ d = s.config.verdict x

theorem Justified.mono {calls : List Call} {r : Rules} (h : Justified calls r) (c : Call) :
    Justified (calls ++ [c]) r := by
  refine ⟨h.sound, ?_⟩
  intro version key d hd
  obtain ⟨s, x, e, hask, hrest⟩ := h.remembered version key d hd
  exact ⟨s, x, e, List.mem_append_left _ hask, hrest⟩

/-- Only the memory matters for what is justified. -/
theorem Justified.congr {calls : List Call} {r r' : Rules} (h : Justified calls r)
    (hversion : r'.version = r.version) (hmemo : r'.memo = r.memo) (hsound : r'.PathSound) :
    Justified calls r' := by
  refine ⟨hsound, ?_⟩
  intro version key d hd
  rw [remembered_congr hversion hmemo] at hd
  exact h.remembered version key d hd

theorem Justified.ask {calls : List Call} {r : Rules} (h : Justified calls r) (s : Snapshot)
    (x : Candidate) : Justified (calls ++ [.ask s x]) (r.shouldExclude s x).2 := by
  cases hkey : x.memoKey? s.version with
  | none =>
    obtain ⟨globs, hr, hsound⟩ := (shouldExclude_unkeyed h.sound hkey).2
    exact (h.mono _).congr (by rw [hr]) (by rw [hr]) hsound
  | some key =>
    refine ⟨shouldExclude_sound h.sound s x, ?_⟩
    intro version key' d hd
    rw [remembered_shouldExclude hkey] at hd
    split at hd
    next => exact (h.mono _).remembered version key' d hd
    next hruling =>
      split at hd
      next hversion =>
        split at hd
        next hkey' =>
          subst hversion hkey'
          cases hmemo : r.remembered s.version key' with
          | some d' =>
            rw [hmemo, Option.getD_some] at hd
            exact (h.mono _).remembered _ _ _ (hmemo.trans hd)
          | none =>
            rw [hmemo, Option.getD_none] at hd
            obtain ⟨e, he⟩ := Candidate.entity?_of_memoKey? hkey
            have hruling' := Option.not_isSome_iff_eq_none.mp hruling
            exact ⟨s, x, e, by simp, rfl, hkey, he,
              Registry.complete_of_ruling?_none hruling' he, (Option.some.inj hd).symm⟩
        next =>
          rw [← hversion] at hd
          exact (h.mono _).remembered version key' d hd
      next => cases hd

/-- Every call leaves a justified memory justified. -/
theorem call_justified {calls : List Call} {r : Rules} (h : Justified calls r) (c : Call) :
    Justified (calls ++ [c]) (r.call c) := by
  cases c with
  | ask s x => exact h.ask s x
  | allow name o => exact (h.mono _).congr rfl rfl h.sound
  | deny name o => exact (h.mono _).congr rfl rfl h.sound
  | unregister name => exact (h.mono _).congr rfl rfl h.sound
  | invalidate =>
    refine ⟨?_, ?_⟩
    · intro value globs hlookup
      cases hlookup
    · intro version key d hd
      rw [call, remembered_nil rfl] at hd
      cases hd

/-- Whatever is called, the memory is justified. -/
theorem after_justified (calls : List Call) : Justified calls (after calls) := by
  induction calls using List.reverseRecOn with
  | nil =>
    refine ⟨pathSound_fresh {}, ?_⟩
    intro version key d hd
    rw [after, List.foldl_nil, remembered_nil rfl] at hd
    cases hd
  | append_singleton calls c ih =>
    rw [after_append_singleton]
    exact call_justified ih c

/-! ## Answers -/

/-- Whether the answer to a question is the one of rules that remember nothing. -/
def AnswersRight (r : Rules) (s : Snapshot) (x : Candidate) : Prop :=
  (r.shouldExclude s x).1 = (({ registry := r.registry } : Rules).shouldExclude s x).1

instance (r : Rules) (s : Snapshot) (x : Candidate) : Decidable (r.AnswersRight s x) :=
  inferInstanceAs (Decidable (_ = _))

/-- An answer that is not remembered, or remembered as the patterns decide, is right. -/
theorem answersRight_of_remembered {r : Rules} {s : Snapshot} {x : Candidate} (hsound : r.PathSound)
    (h : ∀ key d, x.memoKey? s.version = some key → r.registry.ruling? x = none →
      r.remembered s.version key = some d → d = s.config.verdict x) : r.AnswersRight s x := by
  unfold AnswersRight
  rw [shouldExclude_fresh]
  cases hkey : x.memoKey? s.version with
  | none => exact (shouldExclude_unkeyed hsound hkey).1
  | some key =>
    rw [shouldExclude_fst hkey, Registry.decides]
    cases hruling : r.registry.ruling? x with
    | some d => rfl
    | none =>
      rw [Option.getD_none, Option.getD_none]
      cases hmemo : r.remembered s.version key with
      | none => rfl
      | some d => exact h key d hkey hruling hmemo

/-- Without confused types all answers are right. -/
theorem answersRight_of_not_confused {T : EntityType → Prop}
    (hT : ¬∃ a b, T a ∧ T b ∧ a.ignore.complete = false ∧ b.ignore.complete = false ∧
      a.Confused b)
    {calls : List Call} {s : Snapshot} {x : Candidate}
    (hversioned : Versioned (calls ++ [.ask s x]))
    (hwithin : Within T (calls ++ [.ask s x])) : (after calls).AnswersRight s x := by
  have hjustified := after_justified calls
  refine answersRight_of_remembered hjustified.sound ?_
  intro key d hkey hruling hmemo
  obtain ⟨s', x', a, hask, hversion, hkey', ha, hacomplete, rfl⟩ :=
    hjustified.remembered _ _ _ hmemo
  obtain ⟨b, hb⟩ := Candidate.entity?_of_memoKey? hkey
  have hlast : Call.ask s x ∈ calls ++ [.ask s x] := by simp
  have hearlier : Call.ask s' x' ∈ calls ++ [.ask s x] := List.mem_append_left _ hask
  obtain rfl := hversioned s' x' s x hearlier hlast hversion
  have hbcomplete := Registry.complete_of_ruling?_none hruling hb
  refine s'.config.verdict_congr hkey' hkey ?_
  rw [ha, hb, Option.map_some, Option.map_some, Option.some_inj]
  by_contra hname
  obtain ⟨hqualified, happlication⟩ := Candidate.memoKey?_type hkey' ha
  obtain ⟨hqualified', happlication'⟩ := Candidate.memoKey?_type hkey hb
  exact hT ⟨a, b, hwithin _ _ _ hearlier ha, hwithin _ _ _ hlast hb, hacomplete, hbcomplete,
    hqualified.symm.trans hqualified', happlication.symm.trans happlication', hname⟩

/-- After a question about a field of one of two confused types, the question about the same field
of the other is answered wrongly under some configuration. -/
theorem exists_not_answersRight {a b : EntityType} (hconfused : a.Confused b)
    (ha : a.ignore.complete = false) (hb : b.ignore.complete = false) :
    ∃ s field, ¬(after [.ask s (.field a field)]).AnswersRight s (.field b field) := by
  obtain ⟨hqualified, happlication, hname⟩ := hconfused
  obtain ⟨field, hfield⟩ :=
    Infinite.exists_notMem_finset (a.ignore.fields ++ b.ignore.fields).toFinset
  rw [List.mem_toFinset, List.mem_append, not_or] at hfield
  obtain ⟨p, hp⟩ := exists_excludesField_ne hqualified hname field
  refine ⟨⟨1, { model := { exclude := { fields := [p] } } }⟩, field, ?_⟩
  have hrulingA := ruling?_field_eq_none ha hfield.1
  have hrulingB := ruling?_field_eq_none hb hfield.2
  unfold AnswersRight after
  rw [List.foldl_cons, List.foldl_nil, call, shouldExclude_registry rfl, shouldExclude_fresh]
  rw [shouldExclude_after rfl (by rw [hqualified, happlication]; rfl) hrulingA hrulingB]
  rw [shouldExclude_fst rfl, hrulingA, remembered_nil rfl, Registry.decides, hrulingB,
    Option.getD_none, Option.getD_none, Option.getD_none]
  exact hp

/-- The answers about a set of types are right, whatever was called before, exactly if the set has
no confused types that come to the patterns. -/
theorem answersRight_iff_not_confused (T : EntityType → Prop) :
    (∀ calls s x, Versioned (calls ++ [.ask s x]) → Within T (calls ++ [.ask s x]) →
        (after calls).AnswersRight s x) ↔
      ¬∃ a b, T a ∧ T b ∧ a.ignore.complete = false ∧ b.ignore.complete = false ∧
        a.Confused b := by
  constructor
  · rintro h ⟨a, b, hTa, hTb, ha, hb, hconfused⟩
    obtain ⟨s, field, hwrong⟩ := exists_not_answersRight hconfused ha hb
    refine hwrong (h _ _ _ ?_ ?_)
    · intro s₁ x₁ s₂ x₂ h₁ h₂ _
      simp only [List.cons_append, List.nil_append, List.mem_cons, List.not_mem_nil, or_false,
        Call.ask.injEq] at h₁ h₂
      rcases h₁ with ⟨rfl, -⟩ | ⟨rfl, -⟩
      · rcases h₂ with ⟨rfl, -⟩ | ⟨rfl, -⟩ <;> rfl
      · rcases h₂ with ⟨rfl, -⟩ | ⟨rfl, -⟩ <;> rfl
    · intro s₁ x₁ e h₁ he
      simp only [List.cons_append, List.nil_append, List.mem_cons, List.not_mem_nil, or_false,
        Call.ask.injEq] at h₁
      rcases h₁ with ⟨-, rfl⟩ | ⟨-, rfl⟩
      · obtain rfl := Option.some.inj he
        exact hTa
      · obtain rfl := Option.some.inj he
        exact hTb
  · intro hT calls s x hversioned hwithin
    exact answersRight_of_not_confused hT hversioned hwithin

/-- A type `Order` of a module `shop.models` is excluded by its name. From then on a type
`models.Order` of a module `shop`, which no pattern excludes, is excluded as well. -/
theorem answer_wrong_for_same_qualifiedName :
    ¬(after [.ask ⟨1, { model := { exclude := { models := [.plain "Order"] } } }⟩
        (.model { name := "Order", moduleName := some "shop.models" } .create)]).AnswersRight
      ⟨1, { model := { exclude := { models := [.plain "Order"] } } }⟩
      (.model { name := "models.Order", moduleName := some "shop" } .create) := by
  decide +kernel

end Rules

end AuditTrail
