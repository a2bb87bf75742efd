import AuditTrail.Proofs.Mutation.Confidentiality
import AuditTrail.Proofs.Mutation.Recording
import Mathlib.Data.List.Induction

/-
  What the events of saves carry. A host saves some things in any order, each thing with a key that
  it has from the start or gets at some time (`Saved`, `Performed`). Nothing is excluded, so what
  was computed before a save waits in the context under the type and the key that the thing had
  then.

  As long as no two things can come to the same key (`Apart`) and things get their keys by being
  saved (`KeyedBySaves`), what waits belongs to the last call about one of them (`Kept`, kept by one
  call in `Kept.before` and `Kept.after`), and the event of every save carries what was computed for
  the same thing and nothing else. If two things can come to the same key, a save of one is given
  what was computed for the other (`crossed`). If a thing gets its key after a save that was given
  up, a later save of it is given what was computed for that one (`retried`). So both are also
  necessary (`carriesOwn_iff_apart`).
-/
namespace AuditTrail

/-! ## Things that are saved -/

/-- Something that a host saves: its type, and its primary key before it is first saved and from
then on. A key that it has from the start it keeps. -/
structure Saved where
  entity : EntityType
  initial : Option String
  final : Option String
  keeps : initial = none ∨ initial = final

namespace Saved

/-- The keys that it can have. -/
def HasKey (x : Saved) (key : Option String) : Prop := key = x.initial ∨ key = x.final

theorem initial_eq_none {x : Saved} (h : x.HasKey none) : x.initial = none := by
  rcases h with h | h
  · exact h.symm
  · rcases x.keeps with hkeeps | hkeeps
    · exact hkeeps
    · rw [hkeeps, ← h]

theorem final_eq {x : Saved} {key : Option String} (h : x.HasKey key) (hkey : key ≠ none) :
    x.final = key := by
  rcases h with h | h
  · rcases x.keeps with hkeeps | hkeeps
    · exact absurd (h.trans hkeeps) hkey
    · rw [← hkeeps, h]
  · exact h.symm

/-- The thing as it is saved, with a key and some values. -/
def withKey (x : Saved) (key : Option String) (values : Values) : Instance where
  entity := x.entity
  primaryKey := key
  values := values

end Saved

/-- A report of a save, with the thing that is saved as it was then. -/
inductive SaveCall (ι : Type) where
  | before (who : ι) (i : Instance) (prior : Option Instance)
  | after (who : ι) (i : Instance) (created : Bool) (touched : Option (List String))

namespace SaveCall

variable {ι : Type}

def who : SaveCall ι → ι
  | .before who _ _ => who
  | .after who _ _ _ => who

def subject : SaveCall ι → Instance
  | .before _ i _ => i
  | .after _ i _ _ => i

def probe : SaveCall ι → Probe
  | .before _ i prior => .beforeSave i prior
  | .after _ i created touched => .afterSave i created touched

def isBefore : SaveCall ι → Bool
  | .before _ _ _ => true
  | .after _ _ _ _ => false

/-- What is computed by a call and is to be carried by an event. -/
def changes : SaveCall ι → List ValueModification
  | .before _ i prior => computed i prior
  | .after _ _ _ _ => []

section Lemmas

variable (who : ι) (i : Instance) (prior : Option Instance) (created : Bool)
  (touched : Option (List String))

@[simp] theorem who_before : (before who i prior).who = who := rfl

@[simp] theorem who_after : (after who i created touched).who = who := rfl

@[simp] theorem subject_before : (before who i prior).subject = i := rfl

@[simp] theorem subject_after : (after who i created touched).subject = i := rfl

end Lemmas

end SaveCall

section Calls

variable {ι : Type} [DecidableEq ι] {cast : ι → Saved} {calls : List (SaveCall ι)} {v w : ι}

/-- The last call about something. -/
def lastCall? (w : ι) (calls : List (SaveCall ι)) : Option (SaveCall ι) :=
  calls.reverse.find? (·.who == w)

theorem lastCall?_nil (w : ι) : lastCall? w [] = none := rfl

theorem lastCall?_concat (w : ι) (calls : List (SaveCall ι)) (call : SaveCall ι) :
    lastCall? w (calls ++ [call]) = if call.who = w then some call else lastCall? w calls := by
  rw [lastCall?, List.reverse_append, List.reverse_singleton, List.singleton_append,
    List.find?_cons]
  by_cases hw : call.who = w
  · rw [if_pos hw, hw, beq_self_eq_true]
  · rw [if_neg hw, beq_eq_false_iff_ne.mpr hw, lastCall?]

theorem who_of_lastCall? {last : SaveCall ι} (h : lastCall? w calls = some last) :
    last.who = w := by
  unfold lastCall? at h
  have hfound := List.find?_some h
  exact beq_iff_eq.mp hfound

theorem mem_of_lastCall? {last : SaveCall ι} (h : lastCall? w calls = some last) : last ∈ calls :=
  List.mem_reverse.mp (List.mem_of_find?_eq_some h)

/-- What was computed by the last call about something, and has not come into an event yet. -/
def unconsumed (w : ι) (calls : List (SaveCall ι)) : List ValueModification :=
  ((lastCall? w calls).map (·.changes)).getD []

theorem unconsumed_nil (w : ι) : unconsumed w [] = [] := rfl

theorem unconsumed_concat (w : ι) (calls : List (SaveCall ι)) (call : SaveCall ι) :
    unconsumed w (calls ++ [call]) = if call.who = w then call.changes else unconsumed w calls := by
  unfold unconsumed
  rw [lastCall?_concat]
  split <;> rfl

/-- Something holds of every call and the calls before it. -/
def AllAlong (P : List (SaveCall ι) → SaveCall ι → Prop) (calls : List (SaveCall ι)) : Prop :=
  ∀ before call after, calls = before ++ call :: after → P before call

section AllAlong

variable {P : List (SaveCall ι) → SaveCall ι → Prop}

omit [DecidableEq ι]

theorem allAlong_nil : AllAlong P [] := by
  intro before call after h
  exact absurd h.symm (List.append_ne_nil_of_right_ne_nil _ (List.cons_ne_nil _ _))

theorem allAlong_concat (call : SaveCall ι) :
    AllAlong P (calls ++ [call]) ↔ AllAlong P calls ∧ P calls call := by
  constructor
  · intro h
    refine ⟨?_, h calls call [] rfl⟩
    rintro before call' after rfl
    refine h before call' (after ++ [call]) ?_
    rw [List.append_assoc, List.cons_append]
  · rintro ⟨hcalls, hcall⟩ before call' after h
    rcases List.eq_nil_or_concat after with rfl | ⟨after, last, rfl⟩
    · obtain ⟨rfl, hlast⟩ := List.append_inj' h rfl
      rw [← (List.cons.inj hlast).1]
      exact hcall
    · rw [List.concat_eq_append, ← List.cons_append, ← List.append_assoc] at h
      exact hcalls before call' after (List.append_inj' h rfl).1

theorem AllAlong.left {before after : List (SaveCall ι)} (h : AllAlong P (before ++ after)) :
    AllAlong P before := by
  rintro before' call after' rfl
  refine h before' call (after' ++ after) ?_
  rw [List.append_assoc, List.cons_append]

end AllAlong

/-- A call about a thing of a cast that may come next: the thing still has the key that it had, or
it had none. -/
structure Fits (cast : ι → Saved) (calls : List (SaveCall ι)) (call : SaveCall ι) : Prop where
  entity : call.subject.entity = (cast call.who).entity
  hasKey : (cast call.who).HasKey call.subject.primaryKey
  follows : ∀ last, lastCall? call.who calls = some last →
    call.subject.primaryKey = last.subject.primaryKey ∨ last.subject.primaryKey = none

/-- Calls that are made about the things of a cast. -/
def Performed (cast : ι → Saved) (calls : List (SaveCall ι)) : Prop := AllAlong (Fits cast) calls

/-- A thing that is about to be saved again, without having been saved since it was last about to
be, has the same key as then, as far as something can be computed for it. -/
def KeepsKey (calls : List (SaveCall ι)) (call : SaveCall ι) : Prop :=
  ∀ last, lastCall? call.who calls = some last → last.isBefore = true → call.isBefore = true →
    call.subject.entity.fields ≠ [] → call.subject.primaryKey = last.subject.primaryKey

/-- Calls in which things get their keys by being saved. -/
def KeyedBySaves (calls : List (SaveCall ι)) : Prop := AllAlong KeepsKey calls

theorem Fits.key {call : SaveCall ι} (h : Fits cast calls call) :
    InstanceKey.of call.subject =
      ⟨(cast call.who).entity.qualifiedName, call.subject.primaryKey⟩ := by
  rw [InstanceKey.of, h.entity]

/-- The last call about something was one about it as the cast has it. -/
theorem Performed.last (h : Performed cast calls) {last : SaveCall ι}
    (hlast : lastCall? w calls = some last) :
    InstanceKey.of last.subject = ⟨(cast w).entity.qualifiedName, last.subject.primaryKey⟩ ∧
      (cast w).HasKey last.subject.primaryKey ∧
      ((cast w).entity.fields = [] → last.changes = []) := by
  obtain ⟨before, after, hcalls⟩ := List.append_of_mem (mem_of_lastCall? hlast)
  have hfits := h before last after hcalls
  obtain rfl := who_of_lastCall? hlast
  refine ⟨hfits.key, hfits.hasKey, ?_⟩
  intro hfields
  rw [← hfits.entity] at hfields
  cases last with
  | before who i prior => exact computed_of_no_fields hfields prior
  | after who i created touched => rfl

/-- No two things can come to the same key of the same type, as far as something can be computed
for the first. -/
def Apart (cast : ι → Saved) : Prop :=
  ∀ v w, v ≠ w → (cast v).entity.fields ≠ [] →
    (cast v).entity.qualifiedName = (cast w).entity.qualifiedName →
      (cast v).initial ≠ none ∧ (cast v).final ≠ (cast w).final

/-- No thing gets a key, as far as something can be computed for it. -/
def Steady (cast : ι → Saved) : Prop :=
  ∀ v, (cast v).entity.fields ≠ [] → (cast v).initial = (cast v).final

/-- Where no thing gets a key, none gets it but by being saved. -/
theorem Performed.keyedBySaves (h : Performed cast calls) (hsteady : Steady cast) :
    KeyedBySaves calls := by
  rintro before call after rfl last hlast - - hfields
  have hfits := h before call after rfl
  rw [hfits.entity] at hfields
  have hsame := hsteady call.who hfields
  have hlastKey := (Performed.last h.left hlast).2.1
  have hcallKey := hfits.hasKey
  unfold Saved.HasKey at hlastKey hcallKey
  rw [hsame, or_self] at hlastKey hcallKey
  rw [hcallKey, hlastKey]

omit [DecidableEq ι] in
theorem Apart.elim (h : Apart cast) (hne : v ≠ w) (hfields : (cast v).entity.fields ≠ [])
    {k : InstanceKey} (hv : (cast v).entity.qualifiedName = k.entity)
    (hvkey : (cast v).HasKey k.primaryKey) (hw : (cast w).entity.qualifiedName = k.entity)
    (hwkey : k.primaryKey = none ∨ (cast w).HasKey k.primaryKey) : False := by
  obtain ⟨hinitial, hfinal⟩ := h v w hne hfields (hv.trans hw.symm)
  by_cases hkey : k.primaryKey = none
  · rw [hkey] at hvkey
    exact hinitial (Saved.initial_eq_none hvkey)
  · have hwkey' := hwkey.resolve_left hkey
    exact hfinal ((Saved.final_eq hvkey hkey).trans (Saved.final_eq hwkey' hkey).symm)

/-! ## What waits -/

/-- What waits in a context was computed, unless it is nothing, by the last call about the thing
that has the key; and what was computed by a last call is there. -/
structure Kept (cast : ι → Saved) (calls : List (SaveCall ι)) (pending : Keyed PendingSave) :
    Prop where
  owned : ∀ k p, pending.lookup k = some p → ∃ v, (cast v).entity.qualifiedName = k.entity ∧
    (cast v).HasKey k.primaryKey ∧
      ((cast v).entity.fields = [] ∧ p.modifications = [] ∨
        (cast v).entity.fields ≠ [] ∧ ∃ last, lastCall? v calls = some last ∧
          last.isBefore = true ∧ InstanceKey.of last.subject = k)
  found : ∀ v last, (cast v).entity.fields ≠ [] → lastCall? v calls = some last →
    last.isBefore = true → ∃ p, pending.lookup (.of last.subject) = some p ∧
      p.modifications = last.changes

theorem kept_nil : Kept cast [] [] := by
  refine ⟨?_, ?_⟩
  · intro k p hp
    rw [List.lookup_nil] at hp
    cases hp
  · intro v last _ hlast
    rw [lastCall?_nil] at hlast
    cases hlast

section Step

variable {pending : Keyed PendingSave} {i : Instance} {k : InstanceKey}

/-- The key that is taken from is one of the thing itself. -/
theorem Fits.takenFrom {created : Bool} {touched : Option (List String)}
    (h : Fits cast calls (.after w i created touched)) (hk : pending.TakenFrom i k) :
    (cast w).entity.qualifiedName = k.entity ∧
      (k.primaryKey = none ∨ (cast w).HasKey k.primaryKey) := by
  have hkey := h.key
  rw [SaveCall.subject_after, SaveCall.who_after] at hkey
  rcases hk with ⟨rfl, -⟩ | ⟨rfl, -⟩
  · rw [hkey]
    exact ⟨rfl, .inr h.hasKey⟩
  · rw [hkey]
    exact ⟨rfl, .inl rfl⟩

/-- Where something waits for a thing, it is taken from there. -/
theorem Kept.takenFrom (hkept : Kept cast calls pending) (hperformed : Performed cast calls)
    (hapart : Apart cast) {created : Bool} {touched : Option (List String)}
    (hfits : Fits cast calls (.after w i created touched)) (hk : pending.TakenFrom i k)
    (hfields : (cast w).entity.fields ≠ []) {last : SaveCall ι}
    (hlast : lastCall? w calls = some last) (hbefore : last.isBefore = true) :
    k = .of last.subject := by
  obtain ⟨hname, hkey⟩ := hfits.takenFrom hk
  rcases hk with ⟨rfl, p, hp⟩ | ⟨rfl, hnone⟩
  · obtain ⟨v, hv, hvkey, howner⟩ := hkept.owned _ p hp
    by_cases hvw : v = w
    · subst hvw
      rcases howner with ⟨hempty, -⟩ | ⟨-, last', hlast', -, hof⟩
      · exact absurd hempty hfields
      · obtain rfl := Option.some.inj (hlast.symm.trans hlast')
        exact hof.symm
    · exact (hapart.elim (Ne.symm hvw) hfields hname hfits.hasKey hv (.inr hvkey)).elim
  · have hlastKey := (hperformed.last hlast).1
    have hfitsKey := hfits.key
    rw [SaveCall.subject_after, SaveCall.who_after] at hfitsKey
    rcases hfits.follows last hlast with hsame | hunsaved
    · obtain ⟨p, hp, -⟩ := hkept.found w last hfields hlast hbefore
      rw [SaveCall.subject_after] at hsame
      rw [hlastKey, ← hsame, ← hfitsKey, hnone] at hp
      cases hp
    · rw [hlastKey, hunsaved, hfitsKey]
      rfl

/-- What is taken for a thing is what was computed for it last. -/
theorem Kept.taken (hkept : Kept cast calls pending) (hperformed : Performed cast calls)
    (hapart : Apart cast) {created : Bool} {touched : Option (List String)}
    (hfits : Fits cast calls (.after w i created touched)) (hk : pending.TakenFrom i k) :
    ((pending.lookup k).map (·.modifications)).getD [] = unconsumed w calls := by
  obtain ⟨hname, hkey⟩ := hfits.takenFrom hk
  by_cases hwaits : (cast w).entity.fields ≠ [] ∧ ∃ last, lastCall? w calls = some last ∧
      last.isBefore = true
  · obtain ⟨hfields, last, hlast, hbefore⟩ := hwaits
    obtain ⟨p, hp, hmods⟩ := hkept.found w last hfields hlast hbefore
    rw [hkept.takenFrom hperformed hapart hfits hk hfields hlast hbefore, hp, unconsumed, hlast]
    exact hmods
  · have hnothing : unconsumed w calls = [] := by
      unfold unconsumed
      cases hlast : lastCall? w calls with
      | none => rfl
      | some last =>
        by_cases hfields : (cast w).entity.fields = []
        · exact (hperformed.last hlast).2.2 hfields
        · cases last with
          | before who i prior => exact absurd ⟨hfields, _, hlast, rfl⟩ hwaits
          | after who i created touched => rfl
    rw [hnothing]
    cases hp : pending.lookup k with
    | none => rfl
    | some p =>
      obtain ⟨v, hv, hvkey, howner⟩ := hkept.owned k p hp
      rcases howner with ⟨-, hempty⟩ | ⟨hfields, last, hlast, hbefore, -⟩
      · exact hempty
      · by_cases hvw : v = w
        · rw [hvw] at hfields hlast
          exact absurd ⟨hfields, last, hlast, hbefore⟩ hwaits
        · exact (hapart.elim hvw hfields hv hvkey hname hkey).elim

theorem Kept.after (hkept : Kept cast calls pending) (hperformed : Performed cast calls)
    (hapart : Apart cast) {created : Bool} {touched : Option (List String)}
    (hfits : Fits cast calls (.after w i created touched)) (hk : pending.TakenFrom i k) :
    Kept cast (calls ++ [.after w i created touched]) (Keyed.remove k pending) := by
  obtain ⟨hname, hkey⟩ := hfits.takenFrom hk
  refine ⟨?_, ?_⟩
  · intro k' p hp
    rw [Keyed.lookup_remove] at hp
    by_cases hk' : k' = k
    · rw [if_pos hk'] at hp
      cases hp
    · rw [if_neg hk'] at hp
      obtain ⟨v, hv, hvkey, howner⟩ := hkept.owned k' p hp
      refine ⟨v, hv, hvkey, ?_⟩
      rcases howner with hempty | ⟨hfields, last, hlast, hbefore, hof⟩
      · exact .inl hempty
      · by_cases hvw : v = w
        · subst hvw
          have htaken := hkept.takenFrom hperformed hapart hfits hk hfields hlast hbefore
          exact absurd (hof.symm.trans htaken.symm) hk'
        · refine .inr ⟨hfields, last, ?_, hbefore, hof⟩
          rw [lastCall?_concat, SaveCall.who_after, if_neg (Ne.symm hvw), hlast]
  · intro v last hfields hlast hbefore
    rw [lastCall?_concat, SaveCall.who_after] at hlast
    by_cases hvw : w = v
    · rw [if_pos hvw] at hlast
      rw [← Option.some.inj hlast] at hbefore
      cases hbefore
    · rw [if_neg hvw] at hlast
      obtain ⟨p, hp, hmods⟩ := hkept.found v last hfields hlast hbefore
      refine ⟨p, ?_, hmods⟩
      rw [Keyed.lookup_remove, if_neg, hp]
      intro hsame
      obtain ⟨hlastKey, hlastHas, -⟩ := hperformed.last hlast
      rw [hlastKey] at hsame
      rw [← hsame] at hname hkey
      exact hapart.elim (Ne.symm hvw) hfields rfl hlastHas hname hkey

theorem Kept.before (hkept : Kept cast calls pending) (hperformed : Performed cast calls)
    (hapart : Apart cast) {prior : Option Instance} (hfits : Fits cast calls (.before w i prior))
    (hkeeps : KeepsKey calls (.before w i prior)) (started : Option Timestamp) :
    Kept cast (calls ++ [.before w i prior])
      (Keyed.put (.of i) ⟨computed i prior, started⟩ pending) := by
  have hkey := hfits.key
  rw [SaveCall.subject_before, SaveCall.who_before] at hkey
  refine ⟨?_, ?_⟩
  · intro k' p hp
    rw [Keyed.lookup_put] at hp
    by_cases hk' : k' = .of i
    · rw [if_pos hk'] at hp
      rw [← Option.some.inj hp, hk', hkey]
      refine ⟨w, rfl, hfits.hasKey, ?_⟩
      by_cases hfields : (cast w).entity.fields = []
      · refine .inl ⟨hfields, computed_of_no_fields ?_ prior⟩
        have hentity := hfits.entity
        rw [SaveCall.subject_before, SaveCall.who_before] at hentity
        rw [hentity, hfields]
      · refine .inr ⟨hfields, .before w i prior, ?_, rfl, hkey⟩
        rw [lastCall?_concat, SaveCall.who_before, if_pos rfl]
    · rw [if_neg hk'] at hp
      obtain ⟨v, hv, hvkey, howner⟩ := hkept.owned k' p hp
      refine ⟨v, hv, hvkey, ?_⟩
      rcases howner with hempty | ⟨hfields, last, hlast, hbefore, hof⟩
      · exact .inl hempty
      · by_cases hvw : v = w
        · subst hvw
          -- The last call was made before a save too, so the key was the same.
          have hentity : i.entity = (cast v).entity := hfits.entity
          rw [← hentity] at hfields
          have hsame := hkeeps last hlast hbefore rfl hfields
          rw [SaveCall.subject_before] at hsame
          rw [(hperformed.last hlast).1, ← hsame, ← hkey] at hof
          exact absurd hof.symm hk'
        · refine .inr ⟨hfields, last, ?_, hbefore, hof⟩
          rw [lastCall?_concat, SaveCall.who_before, if_neg (Ne.symm hvw), hlast]
  · intro v last hfields hlast hbefore
    rw [lastCall?_concat, SaveCall.who_before] at hlast
    by_cases hvw : w = v
    · rw [if_pos hvw] at hlast
      rw [← Option.some.inj hlast, Keyed.lookup_put]
      exact ⟨_, if_pos rfl, rfl⟩
    · rw [if_neg hvw] at hlast
      obtain ⟨p, hp, hmods⟩ := hkept.found v last hfields hlast hbefore
      refine ⟨p, ?_, hmods⟩
      rw [Keyed.lookup_put, if_neg, hp]
      intro hsame
      obtain ⟨hlastKey, hlastHas, -⟩ := hperformed.last hlast
      rw [hlastKey, hkey] at hsame
      obtain ⟨hname, hpk⟩ := InstanceKey.mk.inj hsame
      refine hapart.elim (k := ⟨(cast v).entity.qualifiedName, last.subject.primaryKey⟩)
        (Ne.symm hvw) hfields rfl hlastHas hname.symm (.inr ?_)
      show (cast w).HasKey last.subject.primaryKey
      rw [hpk]
      exact hfits.hasKey

end Step

end Calls

/-! ## Events of saves -/

namespace Engine

variable {σ τ ι : Type} [DecidableEq ι] {cast : ι → Saved} {e : Engine σ τ}

/-- The context and the engine after calls about saves on behalf of someone. -/
def saveAll (actor : Option String) (calls : List (SaveCall ι)) (e : Engine σ τ) :
    Context × Engine σ τ :=
  e.observeAll (calls.map (·.probe)) { actor := actor }

omit [DecidableEq ι] in
theorem saveAll_concat (actor : Option String) (calls : List (SaveCall ι)) (call : SaveCall ι)
    (e : Engine σ τ) :
    e.saveAll actor (calls ++ [call]) =
      (e.saveAll actor calls).2.observe call.probe (e.saveAll actor calls).1 := by
  rw [saveAll, List.map_append, List.map_singleton, observeAll_concat, saveAll]

/-- The event of every save is about what is saved, and carries what was computed for that thing
since its last event, as far as it is among the fields that are named, and nothing else. -/
def CarriesOwn (actor : Option String) (calls : List (SaveCall ι)) (e : Engine σ τ) : Prop :=
  ∀ before w i created touched after, calls = before ++ .after w i created touched :: after →
    ∃ m, (e.saveAll actor (before ++ [.after w i created touched])).1.events =
        (e.saveAll actor before).1.events ++ [m] ∧
      (∃ id, m.entry = .ofInstance id i) ∧
      m.modifications =
        (unconsumed w before).filter fun change => touched.all (·.contains change.field.name)

/-- The types of the things of a cast. -/
def TypeOf (cast : ι → Saved) (t : EntityType) : Prop := ∃ w, t = (cast w).entity

theorem saveAll_kept {calls : List (SaveCall ι)} (hperformed : Performed cast calls)
    (hkeyed : KeyedBySaves calls) (hapart : Apart cast) (he : e.RecordsAll (TypeOf cast))
    (actor : Option String) :
    Kept cast calls (e.saveAll actor calls).1.pending ∧
      (e.saveAll actor calls).2.RecordsAll (TypeOf cast) := by
  induction calls using List.reverseRecOn with
  | nil => exact ⟨kept_nil, he⟩
  | append_singleton calls call ih =>
    obtain ⟨hcalls, hfits⟩ := (allAlong_concat call).mp hperformed
    obtain ⟨hkeyed, hkeeps⟩ := (allAlong_concat call).mp hkeyed
    obtain ⟨hkept, hrecords⟩ := ih hcalls hkeyed
    rw [saveAll_concat]
    cases call with
    | before w i prior =>
      have hT : TypeOf cast i.entity := ⟨w, hfits.entity⟩
      obtain ⟨started, e', hresult, hrecords'⟩ :=
        hrecords.beforeSave hT prior (e.saveAll actor calls).1
      rw [SaveCall.probe, hresult]
      exact ⟨hkept.before hcalls hapart hfits hkeeps started, hrecords'⟩
    | after w i created touched =>
      have hT : TypeOf cast i.entity := ⟨w, hfits.entity⟩
      obtain ⟨m, e', hresult, -, -, hrecords'⟩ :=
        hrecords.afterSave hT created touched (e.saveAll actor calls).1
      obtain ⟨k, htaken, hk⟩ := Context.takePending_eq i (e.saveAll actor calls).1
      rw [SaveCall.probe, hresult, htaken]
      exact ⟨hkept.after hcalls hapart hfits hk, hrecords'⟩

theorem carriesOwn_of_apart {calls : List (SaveCall ι)} (hperformed : Performed cast calls)
    (hkeyed : KeyedBySaves calls) (hapart : Apart cast) (he : e.RecordsAll (TypeOf cast))
    (actor : Option String) : e.CarriesOwn actor calls := by
  rintro before w i created touched after rfl
  have hfits := hperformed before _ after rfl
  have hcalls : Performed cast before := AllAlong.left hperformed
  obtain ⟨hkept, hrecords⟩ := saveAll_kept hcalls (AllAlong.left hkeyed) hapart he actor
  have hT : TypeOf cast i.entity := ⟨w, hfits.entity⟩
  obtain ⟨m, e', hresult, hm, hentry, -⟩ :=
    hrecords.afterSave hT created touched (e.saveAll actor before).1
  obtain ⟨k, htaken, hk⟩ := Context.takePending_eq i (e.saveAll actor before).1
  refine ⟨m, ?_, hentry, ?_⟩
  · rw [saveAll_concat, SaveCall.probe, hresult, Context.enter, Context.takePending_events]
  · rw [hm, htaken, keptOf, hkept.taken hcalls hapart hfits hk]

/-! ## Events that carry what was computed for another save -/

/-- The event of a save that nothing was computed for carries nothing. -/
theorem CarriesOwn.nothing {actor : Option String} (before : List (SaveCall ι)) {w : ι}
    {i : Instance} {created : Bool} {touched : Option (List String)} {ms : List MutationEvent}
    {m : MutationEvent} (h : e.CarriesOwn actor (before ++ [.after w i created touched]))
    (hnothing : unconsumed w before = [])
    (hevents : (e.saveAll actor (before ++ [.after w i created touched])).1.events = ms ++ [m]) :
    m.modifications = [] := by
  obtain ⟨m', hevents', -, hm'⟩ := h before w i created touched [] rfl
  have hlast : [m] = [m'] := (List.append_inj' (hevents.symm.trans hevents') rfl).2
  rw [List.head_eq_of_cons_eq hlast, hm', hnothing, List.filter_nil]

theorem exists_declared {t : EntityType} (h : t.fields ≠ []) :
    ∃ field, t.declares field = true := by
  obtain ⟨d, hd⟩ := List.exists_mem_of_ne_nil _ h
  exact ⟨d.name, List.any_eq_true.mpr ⟨d, hd, beq_self_eq_true d.name⟩⟩

theorem computed_ne_nil {x : Saved} {field : String} (h : x.entity.declares field = true)
    (key : Option String) : computed (x.withKey key [(field, .string "new")]) none ≠ [] := by
  obtain ⟨d, hd⟩ := exists_fieldDef? h
  simp [computed, Saved.withKey, changesOf, Instance.declaredValues, h, Change.between,
    Change.ofPost, Change.normalize, modificationOf, hd]

/-! Two things that come to the same key. -/

/-- Something is about to be saved with a value, and then something else is saved. -/
def crossed (cast : ι → Saved) (v w : ι) (field : String) : List (SaveCall ι) :=
  [.before v ((cast v).withKey (cast v).initial [(field, .string "new")]) none] ++
    [.after w ((cast w).withKey (cast w).final []) true none]

theorem performed_crossed (cast : ι → Saved) {v w : ι} (hne : v ≠ w) (field : String) :
    Performed cast (crossed cast v w field) ∧ KeyedBySaves (crossed cast v w field) := by
  have hnone : lastCall? w [.before v ((cast v).withKey (cast v).initial
      [(field, .string "new")]) none] = none := by
    rw [← List.nil_append [_], lastCall?_concat, SaveCall.who_before, if_neg hne, lastCall?_nil]
  refine ⟨(allAlong_concat _).mpr ⟨?_, ?_⟩, (allAlong_concat _).mpr ⟨?_, ?_⟩⟩
  · rw [← List.nil_append [_]]
    refine (allAlong_concat _).mpr ⟨allAlong_nil, rfl, .inl rfl, ?_⟩
    intro last hlast
    rw [lastCall?_nil] at hlast
    cases hlast
  · refine ⟨rfl, .inr rfl, ?_⟩
    intro last hlast
    rw [SaveCall.who_after, hnone] at hlast
    cases hlast
  · rw [← List.nil_append [_]]
    refine (allAlong_concat _).mpr ⟨allAlong_nil, ?_⟩
    intro last hlast
    rw [lastCall?_nil] at hlast
    cases hlast
  · intro last hlast
    rw [SaveCall.who_after, hnone] at hlast
    cases hlast

omit [DecidableEq ι] in
/-- The event of the one carries what was computed for the other. -/
theorem crossed_event {v w : ι} (field : String) (he : e.RecordsAll (TypeOf cast))
    (hname : (cast v).entity.qualifiedName = (cast w).entity.qualifiedName)
    (hkeys : (cast v).initial = none ∨ (cast v).initial = (cast w).final)
    (actor : Option String) :
    ∃ m, (e.saveAll actor (crossed cast v w field)).1.events = [] ++ [m] ∧
      m.modifications =
        computed ((cast v).withKey (cast v).initial [(field, .string "new")]) none := by
  generalize hi : (cast v).withKey (cast v).initial [(field, .string "new")] = i
  generalize hj : (cast w).withKey (cast w).final [] = j
  have hientity : i.entity = (cast v).entity := by rw [← hi, Saved.withKey]
  have hjentity : j.entity = (cast w).entity := by rw [← hj, Saved.withKey]
  obtain ⟨started, e₁, hfirst, hrecords⟩ :=
    he.beforeSave ⟨v, hientity⟩ none { actor := actor }
  generalize hc : Context.stash i ⟨computed i none, started⟩ { actor := actor } = c at hfirst
  obtain ⟨m, e₂, hsecond, hm, -, -⟩ := hrecords.afterSave ⟨w, hjentity⟩ true none c
  have hrun : e.saveAll actor (crossed cast v w field) = ((c.takePending j).2.enter j m, e₂) := by
    rw [crossed, hi, hj]
    show e.observeAll [.beforeSave i none, .afterSave j true none] { actor := actor } = _
    rw [observeAll, hfirst, observeAll, hsecond, observeAll]
  have hlookup : ∀ k, c.pending.lookup k =
      if k = .of i then some ⟨computed i none, started⟩ else none := by
    intro k
    rw [← hc]
    exact Context.lookup_stash i _ _ k
  have hikey : InstanceKey.of i = ⟨(cast v).entity.qualifiedName, (cast v).initial⟩ := by
    rw [← hi]
    rfl
  have hjkey : InstanceKey.of j = ⟨(cast v).entity.qualifiedName, (cast w).final⟩ := by
    rw [hname, ← hj]
    rfl
  have htaken : (c.takePending j).1 = some ⟨computed i none, started⟩ := by
    by_cases hsame : InstanceKey.of j = .of i
    · rw [Context.takePending_of_some ((hlookup _).trans (if_pos hsame))]
    · have hunsaved : (InstanceKey.of j).unsaved = .of i := by
        rcases hkeys with hnew | hkey
        · rw [hjkey, hikey, hnew]
          rfl
        · rw [hjkey, hikey, hkey] at hsame
          exact absurd rfl hsame
      rw [Context.takePending_of_none ((hlookup _).trans (if_neg hsame))]
      exact (hlookup _).trans (if_pos hunsaved)
  refine ⟨m, ?_, ?_⟩
  · rw [hrun, Context.enter, Context.takePending_events, ← hc]
    rfl
  · rw [hm, htaken, keptOf_none]

theorem apart_of_carriesOwn (he : e.RecordsAll (TypeOf cast)) (actor : Option String)
    (h : ∀ calls, Performed cast calls → KeyedBySaves calls → e.CarriesOwn actor calls) :
    Apart cast := by
  intro v w hne hfields hname
  obtain ⟨field, hdeclares⟩ := exists_declared hfields
  have hnot : ¬((cast v).initial = none ∨ (cast v).initial = (cast w).final) := by
    intro hkeys
    obtain ⟨m, hevents, hm⟩ := crossed_event field he hname hkeys actor
    obtain ⟨hperformed, hkeyed⟩ := performed_crossed cast hne field
    have hnothing := (h _ hperformed hkeyed).nothing _ ?_ hevents
    · rw [hm] at hnothing
      exact computed_ne_nil hdeclares _ hnothing
    · rw [← List.nil_append [_], unconsumed_concat, SaveCall.who_before, if_neg hne,
        unconsumed_nil]
  rw [not_or] at hnot
  refine ⟨hnot.1, ?_⟩
  rcases (cast v).keeps with hkeeps | hkeeps
  · exact absurd hkeeps hnot.1
  · rw [← hkeeps]
    exact hnot.2

/-! A thing that gets a key without being saved. -/

/-- A thing is about to be saved with a value but is not; it gets its key, is saved with it, and
then saved once more. -/
def retried (cast : ι → Saved) (v : ι) (field : String) : List (SaveCall ι) :=
  [.before v ((cast v).withKey none [(field, .string "new")]) none,
    .before v ((cast v).withKey (cast v).final []) none,
    .after v ((cast v).withKey (cast v).final []) true none] ++
    [.after v ((cast v).withKey (cast v).final []) false none]

theorem performed_retried {v : ι} (hnew : (cast v).initial = none) (field : String) :
    Performed cast (retried cast v field) := by
  show AllAlong _ ([] ++ [_] ++ [_] ++ [_] ++ [_])
  rw [allAlong_concat, allAlong_concat, allAlong_concat, allAlong_concat]
  refine ⟨⟨⟨⟨allAlong_nil, rfl, .inl hnew.symm, ?_⟩, rfl, .inr rfl, ?_⟩, rfl, .inr rfl, ?_⟩,
    rfl, .inr rfl, ?_⟩
  · intro last hlast
    rw [lastCall?_nil] at hlast
    cases hlast
  all_goals
    intro last hlast
    rw [lastCall?_concat] at hlast
    rw [← Option.some.inj ((if_pos rfl).symm.trans hlast)]
  · exact .inr rfl
  · exact .inl rfl
  · exact .inl rfl

omit [DecidableEq ι] in
/-- The last event carries what was computed at first. -/
theorem retried_event {v : ι} (field : String) (he : e.RecordsAll (TypeOf cast))
    (hfinal : (cast v).final ≠ none) (actor : Option String) :
    ∃ ms m, (e.saveAll actor (retried cast v field)).1.events = ms ++ [m] ∧
      m.modifications = computed ((cast v).withKey none [(field, .string "new")]) none := by
  generalize hi : (cast v).withKey none [(field, .string "new")] = i
  generalize hj : (cast v).withKey (cast v).final [] = j
  have hientity : TypeOf cast i.entity := ⟨v, by rw [← hi, Saved.withKey]⟩
  have hjentity : TypeOf cast j.entity := ⟨v, by rw [← hj, Saved.withKey]⟩
  have hunsaved : (InstanceKey.of j).unsaved = .of i := by
    rw [← hi, ← hj]
    rfl
  have hother : InstanceKey.of i ≠ .of j := by
    rw [← hi, ← hj]
    intro hsame
    exact hfinal (congrArg InstanceKey.primaryKey hsame).symm
  obtain ⟨started, e₁, hfirst, hrecords⟩ := he.beforeSave hientity none { actor := actor }
  generalize hc₁ : Context.stash i ⟨computed i none, started⟩ { actor := actor } = c₁ at hfirst
  obtain ⟨started', e₂, hsecond, hrecords⟩ := hrecords.beforeSave hjentity none c₁
  generalize hc₂ : c₁.stash j ⟨computed j none, started'⟩ = c₂ at hsecond
  obtain ⟨m, e₃, hthird, -, -, hrecords⟩ := hrecords.afterSave hjentity true none c₂
  generalize hc₃ : (c₂.takePending j).2.enter j m = c₃ at hthird
  obtain ⟨m', e₄, hfourth, hm', -, -⟩ := hrecords.afterSave hjentity false none c₃
  have hrun : e.saveAll actor (retried cast v field) =
      ((c₃.takePending j).2.enter j m', e₄) := by
    rw [retried, hi, hj]
    show e.observeAll [.beforeSave i none, .beforeSave j none, .afterSave j true none,
      .afterSave j false none] { actor := actor } = _
    rw [observeAll, hfirst, observeAll, hsecond, observeAll, hthird, observeAll, hfourth,
      observeAll]
  have hlookup₂ : ∀ k, c₂.pending.lookup k =
      if k = .of j then some ⟨computed j none, started'⟩
      else if k = .of i then some ⟨computed i none, started⟩ else none := by
    intro k
    rw [← hc₂, Context.lookup_stash, ← hc₁, Context.lookup_stash]
    rfl
  have hlookup₃ : ∀ k, c₃.pending.lookup k = if k = .of j then none else c₂.pending.lookup k := by
    intro k
    rw [← hc₃, Context.takePending_of_some ((hlookup₂ _).trans (if_pos rfl))]
    exact Keyed.lookup_remove (.of j) k c₂.pending
  have hgone : c₃.pending.lookup (.of j) = none := (hlookup₃ _).trans (if_pos rfl)
  refine ⟨c₃.events, m', ?_, ?_⟩
  · rw [hrun, Context.enter, Context.takePending_events]
  · rw [hm', Context.takePending_of_none hgone, hunsaved, hlookup₃, if_neg hother, hlookup₂,
      if_neg hother, if_pos rfl, keptOf_none]

theorem steady_of_carriesOwn (he : e.RecordsAll (TypeOf cast)) (actor : Option String)
    (h : ∀ calls, Performed cast calls → e.CarriesOwn actor calls) : Steady cast := by
  intro v hfields
  obtain ⟨field, hdeclares⟩ := exists_declared hfields
  rcases (cast v).keeps with hnew | hkeeps
  · by_contra hkey
    rw [hnew] at hkey
    obtain ⟨ms, m, hevents, hm⟩ := retried_event field he (Ne.symm hkey) actor
    have hnothing := (h _ (performed_retried hnew field)).nothing _ ?_ hevents
    · rw [hm] at hnothing
      exact computed_ne_nil hdeclares _ hnothing
    · show unconsumed v ([_, _] ++ [_]) = []
      rw [unconsumed_concat, SaveCall.who_after, if_pos rfl]
      rfl
  · exact hkeeps

/-- Of saves of the things of a cast, of which everything is recorded, the events carry what was
computed for the same thing: if things get their keys by being saved, exactly if they are apart;
and in any case, exactly if besides none gets a key. -/
theorem carriesOwn_iff_apart (cast : ι → Saved) (e : Engine σ τ)
    (he : e.RecordsAll (TypeOf cast)) (actor : Option String) :
    ((∀ calls, Performed cast calls → KeyedBySaves calls → e.CarriesOwn actor calls) ↔
        Apart cast) ∧
      ((∀ calls, Performed cast calls → e.CarriesOwn actor calls) ↔
        Apart cast ∧ Steady cast) := by
  refine ⟨⟨apart_of_carriesOwn he actor, ?_⟩, ⟨?_, ?_⟩⟩
  · intro hapart calls hperformed hkeyed
    exact carriesOwn_of_apart hperformed hkeyed hapart he actor
  · intro h
    exact ⟨apart_of_carriesOwn he actor fun calls hperformed _ => h calls hperformed,
      steady_of_carriesOwn he actor h⟩
  · rintro ⟨hapart, hsteady⟩ calls hperformed
    exact carriesOwn_of_apart hperformed (hperformed.keyedBySaves hsteady) hapart he actor

/-- Any number of stored orders, and an invoice that is new. -/
def ordersAndInvoice : Option String → Saved
  | some key => ⟨order, some key, some key, .inr rfl⟩
  | none => ⟨{ name := "Invoice", fields := [⟨"paid", "bool"⟩] }, none, some "1", .inl rfl⟩

theorem carriesOwn_ordersAndInvoice :
    byDefault.RecordsAll (TypeOf ordersAndInvoice) ∧
      ∀ calls, Performed ordersAndInvoice calls → KeyedBySaves calls →
        byDefault.CarriesOwn none calls := by
  have hrecords : byDefault.RecordsAll (TypeOf ordersAndInvoice) := by
    refine byDefault_recordsAll ?_
    rintro t ⟨w | w, rfl⟩ <;> rfl
  refine ⟨hrecords, (carriesOwn_iff_apart ordersAndInvoice byDefault hrecords none).1.mpr ?_⟩
  have hapart : (ordersAndInvoice none).entity.qualifiedName ≠ order.qualifiedName := by
    decide +kernel
  intro v w hne _ hname
  rcases v with _ | v <;> rcases w with _ | w
  · exact absurd rfl hne
  · exact absurd hname hapart
  · exact absurd hname.symm hapart
  · exact ⟨Option.some_ne_none v, hne⟩

/-- Two orders that are new and saved together. -/
def newOrders (second : Bool) : Saved :=
  ⟨order, none, some (if second then "2" else "1"), .inl rfl⟩

def newOrder (key : Option String) (total : String) : Instance where
  entity := order
  primaryKey := key
  values := [("total", .string total)]

/-- Both orders are about to be saved before the first of them is. -/
def savingTogether : List (SaveCall Bool) :=
  [.before false (newOrder none "one") none, .before true (newOrder none "two") none,
    .after false (newOrder (some "1") "one") true none]

theorem savingTogether_crosses :
    Performed newOrders savingTogether ∧ ¬byDefault.CarriesOwn none savingTogether := by
  refine ⟨?_, ?_⟩
  · show AllAlong _ ([] ++ [_] ++ [_] ++ [_])
    rw [allAlong_concat, allAlong_concat, allAlong_concat]
    refine ⟨⟨⟨allAlong_nil, rfl, .inl rfl, ?_⟩, rfl, .inl rfl, ?_⟩, rfl, .inr rfl, ?_⟩
    · intro last hlast
      rw [lastCall?_nil] at hlast
      cases hlast
    · intro last hlast
      cases hlast
    · intro last hlast
      obtain rfl := Option.some.inj hlast
      exact .inr rfl
  · intro h
    obtain ⟨m, hevents, -, hm⟩ := h (savingTogether.take 2) _ _ _ _ [] rfl
    have hcurrents := congrArg (List.map fun m => m.modifications.map (·.current)) hevents
    rw [List.map_append, List.map_singleton, hm] at hcurrents
    exact absurd hcurrents (by decide +kernel)

end Engine

end AuditTrail
