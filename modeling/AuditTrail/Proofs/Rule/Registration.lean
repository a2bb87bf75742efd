import AuditTrail.Proofs.Rule.Memory
import Mathlib.Data.List.Induction

/-
  Histories of registrations. A registry keeps one override for each name, the union of all that
  were registered under it since it was last unregistered. So whether an override in force covers a
  candidate can be told from the history alone (`Covered`): a registration changes both in the same
  way (`Registry.covers_register` and `covered_register`, `Registry.covers_unregister` and
  `covered_unregister`), and `covers_after` follows by induction along the history.
-/
namespace AuditTrail

/-! ## Overrides under names -/

namespace Overrides

variable {α : Type}

theorem lookup_add (merge : α → α → α) (name : String) (value : α) (os : Overrides α)
    (n : String) :
    (os.add merge name value).lookup n =
      if n = name then some (((os.lookup name).map (merge · value)).getD value)
      else os.lookup n := by
  induction os with
  | nil =>
    rw [add, List.lookup_cons]
    by_cases hn : n = name
    · rw [if_pos hn, hn, beq_self_eq_true]
      rfl
    · rw [if_neg hn, beq_eq_false_iff_ne.mpr hn]
  | cons o os ih =>
    obtain ⟨n', v⟩ := o
    rw [add]
    by_cases hname : n' = name
    · rw [if_pos hname, List.lookup_cons, List.lookup_cons, List.lookup_cons, ← hname]
      by_cases hn : n = n'
      · rw [if_pos hn, hn, beq_self_eq_true]
        rfl
      · rw [if_neg hn, beq_eq_false_iff_ne.mpr hn]
    · rw [if_neg hname, List.lookup_cons, List.lookup_cons, List.lookup_cons]
      by_cases hn : n = n'
      · have hother : n ≠ name := hn ▸ hname
        rw [if_neg hother, hn, beq_self_eq_true]
      · rw [beq_eq_false_iff_ne.mpr hn, beq_eq_false_iff_ne.mpr (Ne.symm hname), ih]

theorem lookup_remove (name : String) (os : Overrides α) (n : String) :
    (os.remove name).lookup n = if n = name then none else os.lookup n := by
  rw [remove, lookup_filter_key (· != name)]
  by_cases hn : n = name
  · rw [if_pos hn, hn, bne_self_eq_false, if_neg Bool.false_ne_true]
  · rw [if_neg hn, if_pos (bne_iff_ne.mpr hn)]

/-- What holds of a merged override if it holds of either part. -/
theorem any_add {merge : α → α → α} {p : α → Bool}
    (hmerge : ∀ a b, p (merge a b) = (p a || p b)) (name : String) (value : α) (os : Overrides α)
    (n : String) :
    ((os.add merge name value).lookup n).any p =
      ((os.lookup n).any p || (n == name && p value)) := by
  rw [lookup_add]
  by_cases hn : n = name
  · rw [if_pos hn, hn, beq_self_eq_true, Bool.true_and]
    cases os.lookup name with
    | none => rfl
    | some v => exact hmerge v value
  · rw [if_neg hn, beq_eq_false_iff_ne.mpr hn, Bool.false_and, Bool.or_false]

theorem any_remove (p : α → Bool) (name : String) (os : Overrides α) (n : String) :
    ((os.remove name).lookup n).any p = ((os.lookup n).any p && n != name) := by
  rw [lookup_remove]
  by_cases hn : n = name
  · have hsame : (n != name) = false := by simp [hn]
    rw [if_pos hn, hsame, Bool.and_false]
    rfl
  · have hother : (n != name) = true := by simp [hn]
    rw [if_neg hn, hother, Bool.and_true]

end Overrides

/-! ## What overrides cover -/

namespace Selection

variable {α : Type}

/-- Whether a selection has something that passes a test, if selecting everything passes. -/
def meets (p : α → Bool) : Selection α → Bool
  | .all => true
  | .only items => items.any p
  | .nothing => false

theorem any_append_new [DecidableEq α] (p : α → Bool) (as bs : List α) :
    (as ++ bs.filter fun b => !as.contains b).any p = (as.any p || bs.any p) := by
  rw [List.any_append, Bool.eq_iff_iff, Bool.or_eq_true, Bool.or_eq_true, List.any_eq_true,
    List.any_eq_true, List.any_eq_true]
  constructor
  · rintro (hold | ⟨b, hb, hp⟩)
    · exact .inl hold
    · exact .inr ⟨b, (List.mem_filter.mp hb).1, hp⟩
  · rintro (hold | ⟨b, hb, hp⟩)
    · exact .inl hold
    · by_cases hmem : b ∈ as
      · exact .inl ⟨b, hmem, hp⟩
      · exact .inr ⟨b, List.mem_filter.mpr ⟨hb, by simpa using hmem⟩, hp⟩

theorem meets_union [DecidableEq α] (p : α → Bool) (s t : Selection α) :
    (s.union t).meets p = (s.meets p || t.meets p) := by
  cases s with
  | all => rfl
  | nothing => cases t <;> rfl
  | only as =>
    cases t with
    | all => exact (Bool.or_true _).symm
    | nothing => exact (Bool.or_false _).symm
    | only bs => exact any_append_new p as bs

end Selection

theorem RequestOverride.covers_merge (a b : RequestOverride) (method : String) :
    (a.merge b).covers method = (a.covers method || b.covers method) := by
  have hcovers : ∀ o : RequestOverride,
      o.covers method = o.methods.meets (Text.equalIgnoringAsciiCase method) := by
    intro o
    obtain ⟨s⟩ := o
    cases s <;> rfl
  rw [hcovers, hcovers, hcovers]
  exact Selection.meets_union _ a.methods b.methods

/-- Whether an override covers a candidate, registered under the right name. -/
def Override.covers : Override → Candidate → Bool
  | .model o, .model _ op => o.operations.contains op
  | .model o, .field _ field => o.fields.contains field
  | .request o, .request _ method _ _ => o.covers method
  | _, _ => false

theorem Override.covers_model_merge (a b : ModelOverride) (x : Candidate) :
    (Override.model (a.merge b)).covers x =
      ((Override.model a).covers x || (Override.model b).covers x) := by
  cases x with
  | model e op => exact Selection.contains_union a.operations b.operations op
  | field e field => exact Selection.contains_union a.fields b.fields field
  | request _ _ _ _ => rfl
  | log _ _ => rfl

theorem Override.covers_request_merge (a b : RequestOverride) (x : Candidate) :
    (Override.request (a.merge b)).covers x =
      ((Override.request a).covers x || (Override.request b).covers x) := by
  cases x with
  | model _ _ => rfl
  | field _ _ => rfl
  | request _ method _ _ => exact RequestOverride.covers_merge a b method
  | log _ _ => rfl

/-- The name under which overrides for a candidate are looked for. -/
def Candidate.identity? : Candidate → Option String
  | .model e _ => some e.qualifiedName
  | .field e _ => some e.qualifiedName
  | .request handler _ _ _ => handler
  | .log _ _ => none

/-- What an override means for what it covers. -/
inductive Effect where
  | inclusion
  | exclusion
  deriving DecidableEq

namespace Registry

/-- The overrides for types of entities that have an effect. -/
def models (g : Registry) : Effect → Overrides ModelOverride
  | .inclusion => g.modelInclusions
  | .exclusion => g.modelExclusions

/-- The overrides for request handlers that have an effect. -/
def requests (g : Registry) : Effect → Overrides RequestOverride
  | .inclusion => g.requestInclusions
  | .exclusion => g.requestExclusions

/-- Whether an override in force covers a candidate to an effect. -/
def covers (g : Registry) (effect : Effect) (x : Candidate) : Bool :=
  x.identity?.any fun name =>
    ((g.models effect).lookup name).any (fun o => (Override.model o).covers x) ||
      ((g.requests effect).lookup name).any fun o => (Override.request o).covers x

theorem covers_model (g : Registry) (effect : Effect) (e : EntityType) (op : Operation) :
    g.covers effect (.model e op) =
      ((g.models effect).lookup e.qualifiedName).any (·.operations.contains op) := by
  simp [covers, Candidate.identity?, Override.covers]

theorem covers_field (g : Registry) (effect : Effect) (e : EntityType) (field : String) :
    g.covers effect (.field e field) =
      ((g.models effect).lookup e.qualifiedName).any (·.fields.contains field) := by
  simp [covers, Candidate.identity?, Override.covers]

theorem covers_request (g : Registry) (effect : Effect) (handler : Option String)
    (method : String) (application : Option String) (status : Nat) :
    g.covers effect (.request handler method application status) =
      (handler.bind fun h => (g.requests effect).lookup h).any (·.covers method) := by
  cases handler <;> simp [covers, Candidate.identity?, Override.covers]

/-- Registers an override to an effect. -/
def register (g : Registry) (effect : Effect) (name : String) (o : Override) : Registry :=
  match effect with
  | .inclusion => g.addInclusion name o
  | .exclusion => g.addExclusion name o

theorem register_other {effect effect' : Effect} (h : effect ≠ effect') (g : Registry)
    (name : String) (o : Override) :
    (g.register effect' name o).models effect = g.models effect ∧
      (g.register effect' name o).requests effect = g.requests effect := by
  cases effect <;> cases effect' <;> first | exact absurd rfl h | (cases o <;> exact ⟨rfl, rfl⟩)

theorem register_model (g : Registry) (effect : Effect) (name : String) (o : ModelOverride) :
    (g.register effect name (.model o)).models effect =
        (g.models effect).add ModelOverride.merge name o ∧
      (g.register effect name (.model o)).requests effect = g.requests effect := by
  cases effect <;> exact ⟨rfl, rfl⟩

theorem register_request (g : Registry) (effect : Effect) (name : String) (o : RequestOverride) :
    (g.register effect name (.request o)).models effect = g.models effect ∧
      (g.register effect name (.request o)).requests effect =
        (g.requests effect).add RequestOverride.merge name o := by
  cases effect <;> exact ⟨rfl, rfl⟩

/-- A registration adds what its override covers, under its name and to its effect. -/
theorem covers_register (g : Registry) (effect effect' : Effect) (name : String) (o : Override)
    (x : Candidate) :
    (g.register effect' name o).covers effect x =
      (g.covers effect x || (effect == effect' && x.identity? == some name && o.covers x)) := by
  unfold covers
  cases x.identity? with
  | none => simp
  | some n =>
    rw [Option.any_some, Option.any_some, Option.some_beq_some]
    by_cases heffect : effect = effect'
    · subst heffect
      rw [beq_self_eq_true, Bool.true_and]
      cases o with
      | model o =>
        obtain ⟨hmodels, hrequests⟩ := register_model g effect name o
        rw [hmodels, hrequests, Overrides.any_add fun a b => Override.covers_model_merge a b x]
        exact Bool.or_right_comm _ _ _
      | request o =>
        obtain ⟨hmodels, hrequests⟩ := register_request g effect name o
        rw [hmodels, hrequests, Overrides.any_add fun a b => Override.covers_request_merge a b x]
        exact (Bool.or_assoc _ _ _).symm
    · obtain ⟨hmodels, hrequests⟩ := register_other heffect g name o
      rw [hmodels, hrequests, beq_eq_false_iff_ne.mpr heffect, Bool.false_and, Bool.false_and,
        Bool.or_false]

theorem covers_unregister (g : Registry) (effect : Effect) (name : String) (x : Candidate) :
    (g.unregister name).covers effect x = (g.covers effect x && x.identity? != some name) := by
  have hmodels : (g.unregister name).models effect = (g.models effect).remove name := by
    cases effect <;> rfl
  have hrequests : (g.unregister name).requests effect = (g.requests effect).remove name := by
    cases effect <;> rfl
  unfold covers
  cases x.identity? with
  | none => rfl
  | some n =>
    have hname : (some n != some name) = (n != name) := rfl
    rw [Option.any_some, Option.any_some, hmodels, hrequests, Overrides.any_remove,
      Overrides.any_remove, hname, Bool.and_or_distrib_right]

end Registry

/-! ## Case -/

namespace Text

theorem toLower_toLower (c : Char) : c.toLower.toLower = c.toLower := by
  by_cases h : c.val ≥ 'A'.val ∧ c.val ≤ 'Z'.val
  · have hbounds : 65 ≤ c.val.toNat ∧ c.val.toNat ≤ 90 := h
    have hval : c.toLower.val.toNat = c.val.toNat + 32 := by
      rw [show c.toLower = _ from dif_pos h]
      have hadd := UInt32.toNat_add c.val ('a'.val - 'A'.val)
      have hshift : ('a'.val - 'A'.val).toNat = 32 := rfl
      show (c.val + ('a'.val - 'A'.val)).toNat = c.val.toNat + 32
      omega
    have hsmall : ¬ (c.toLower.val ≥ 'A'.val ∧ c.toLower.val ≤ 'Z'.val) := by
      intro hupper
      have hbounds' : 65 ≤ c.toLower.val.toNat ∧ c.toLower.val.toNat ≤ 90 := hupper
      omega
    exact dif_neg hsmall
  · have hkept : c.toLower = c := dif_neg h
    rw [hkept, hkept]

theorem asciiLower_asciiLower (s : String) : asciiLower (asciiLower s) = asciiLower s := by
  unfold asciiLower
  rw [String.map_map]
  congr 1
  funext c
  exact toLower_toLower c

end Text

/-! ## Histories -/

/-- A selection chooses a thing if it chooses all, or lists one that is the same. -/
def Selection.Chooses {α : Type} (same : α → α → Prop) (a : α) : Selection α → Prop
  | .all => True
  | .only items => ∃ b ∈ items, same a b
  | .nothing => False

/-- Two methods are the same if they differ in the case of ASCII letters only. -/
def SameMethod (a b : String) : Prop := Text.asciiLower a = Text.asciiLower b

/-- An override as a host gives it: for operations and fields, for the methods of a list, or for a
selection of methods. -/
inductive Grant where
  | model (operations : Selection Operation) (fields : Selection String)
  | methods (listed : List String)
  | request (selected : Selection String)

namespace Grant

def override : Grant → Override
  | .model operations fields => .model ⟨operations, fields⟩
  | .methods listed => .request (.ofMethods listed)
  | .request selected => .request ⟨selected⟩

/-- What an override is given for. An empty list of methods stands for all of them. -/
def Covers : Grant → Candidate → Prop
  | .model operations _, .model _ op => operations.Chooses (· = ·) op
  | .model _ fields, .field _ field => fields.Chooses (· = ·) field
  | .methods listed, .request _ method _ _ => listed = [] ∨ ∃ m ∈ listed, SameMethod method m
  | .request selected, .request _ method _ _ => selected.Chooses SameMethod method
  | _, _ => False

end Grant

theorem Selection.contains_iff_chooses {α : Type} [DecidableEq α] (s : Selection α) (a : α) :
    s.contains a = true ↔ s.Chooses (· = ·) a := by
  cases s <;> simp [contains, Chooses]

namespace RequestOverride

theorem covers_iff_chooses (selected : Selection String) (method : String) :
    (⟨selected⟩ : RequestOverride).covers method = true ↔ selected.Chooses SameMethod method := by
  cases selected <;>
    simp [covers, Selection.Chooses, SameMethod, Text.equalIgnoringAsciiCase]

theorem covers_ofMethods (listed : List String) (method : String) :
    (ofMethods listed).covers method = true ↔
      listed = [] ∨ ∃ m ∈ listed, SameMethod method m := by
  unfold ofMethods
  cases listed with
  | nil => simp [covers]
  | cons m ms =>
    rw [List.isEmpty_cons, if_neg Bool.false_ne_true, covers_iff_chooses]
    generalize hlisted : m :: ms = listed
    have hsome : listed ≠ [] := by rw [← hlisted]; exact List.cons_ne_nil m ms
    rw [or_iff_right hsome]
    simp only [Selection.ofList, Selection.Chooses, List.mem_eraseDups, List.mem_map, SameMethod,
      exists_exists_and_eq_and, Text.asciiLower_asciiLower]

end RequestOverride

theorem Grant.covers_override (grant : Grant) (x : Candidate) :
    grant.override.covers x = true ↔ grant.Covers x := by
  cases grant with
  | model operations fields =>
    cases x with
    | model e op => exact operations.contains_iff_chooses op
    | field e field => exact fields.contains_iff_chooses field
    | request _ _ _ _ => exact Bool.false_eq_true.to_iff
    | log _ _ => exact Bool.false_eq_true.to_iff
  | methods listed =>
    cases x with
    | request _ method _ _ => exact RequestOverride.covers_ofMethods listed method
    | model _ _ => exact Bool.false_eq_true.to_iff
    | field _ _ => exact Bool.false_eq_true.to_iff
    | log _ _ => exact Bool.false_eq_true.to_iff
  | request selected =>
    cases x with
    | request _ method _ _ => exact RequestOverride.covers_iff_chooses selected method
    | model _ _ => exact Bool.false_eq_true.to_iff
    | field _ _ => exact Bool.false_eq_true.to_iff
    | log _ _ => exact Bool.false_eq_true.to_iff

/-- What a host does with the registry. -/
inductive Registration where
  | register (effect : Effect) (name : String) (grant : Grant)
  | unregister (name : String)

/-- The registry after a registration. -/
def Registration.apply (g : Registry) : Registration → Registry
  | .register effect name grant => g.register effect name grant.override
  | .unregister name => g.unregister name

/-- The registry after a history of registrations. -/
def Registry.after (history : List Registration) : Registry := history.foldl Registration.apply {}

/-- Some override registered to an effect under the candidate's name, and not unregistered since,
was given for the candidate. -/
def Covered (effect : Effect) (history : List Registration) (x : Candidate) : Prop :=
  ∃ name before grant after, x.identity? = some name ∧
    history = before ++ .register effect name grant :: after ∧
    .unregister name ∉ after ∧ grant.Covers x

section Covered

variable {effect : Effect} {history : List Registration} {x : Candidate}

theorem not_covered_nil : ¬ Covered effect [] x := by
  rintro ⟨name, before, grant, after, -, hhistory, -⟩
  exact absurd hhistory.symm (List.append_ne_nil_of_right_ne_nil _ (List.cons_ne_nil _ _))

/-- What a further registration is, and what it adds. -/
theorem covered_concat (r : Registration) :
    Covered effect (history ++ [r]) x ↔
      (Covered effect history x ∧ ∀ name, r = .unregister name → x.identity? ≠ some name) ∨
      ∃ name grant, r = .register effect name grant ∧ x.identity? = some name ∧ grant.Covers x := by
  constructor
  · rintro ⟨name, before, grant, after, hname, hhistory, hkept, hcovers⟩
    rcases List.eq_nil_or_concat after with rfl | ⟨after, last, rfl⟩
    · obtain ⟨-, hlast⟩ := List.append_inj' hhistory rfl
      exact .inr ⟨name, grant, (List.cons.inj hlast).1, hname, hcovers⟩
    · rw [List.concat_eq_append, ← List.cons_append, ← List.append_assoc] at hhistory
      obtain ⟨hbefore, hlast⟩ := List.append_inj' hhistory rfl
      obtain rfl := (List.cons.inj hlast).1
      rw [List.concat_eq_append, List.mem_append, List.mem_singleton, not_or] at hkept
      refine .inl ⟨⟨name, before, grant, after, hname, hbefore, hkept.1, hcovers⟩, ?_⟩
      rintro name' rfl hname'
      obtain rfl := Option.some.inj (hname.symm.trans hname')
      exact hkept.2 rfl
  · rintro (⟨⟨name, before, grant, after, hname, rfl, hkept, hcovers⟩, hother⟩ |
      ⟨name, grant, rfl, hname, hcovers⟩)
    · refine ⟨name, before, grant, after ++ [r], hname, ?_, ?_, hcovers⟩
      · rw [List.append_assoc, List.cons_append]
      · rw [List.mem_append, List.mem_singleton, not_or]
        exact ⟨hkept, fun h => hother name h.symm hname⟩
    · exact ⟨name, history, grant, [], hname, rfl, List.not_mem_nil, hcovers⟩

theorem covered_register (effect' : Effect) (name : String) (grant : Grant) :
    Covered effect (history ++ [.register effect' name grant]) x ↔
      Covered effect history x ∨
        (effect = effect' ∧ x.identity? = some name) ∧ grant.Covers x := by
  rw [covered_concat]
  constructor
  · rintro (⟨hcovered, -⟩ | ⟨name', grant', heq, hname, hcovers⟩)
    · exact .inl hcovered
    · cases heq
      exact .inr ⟨⟨rfl, hname⟩, hcovers⟩
  · rintro (hcovered | ⟨⟨rfl, hname⟩, hcovers⟩)
    · exact .inl ⟨hcovered, nofun⟩
    · exact .inr ⟨name, grant, rfl, hname, hcovers⟩

theorem covered_unregister (name : String) :
    Covered effect (history ++ [.unregister name]) x ↔
      Covered effect history x ∧ x.identity? ≠ some name := by
  rw [covered_concat]
  constructor
  · rintro (⟨hcovered, hother⟩ | ⟨name', grant', heq, -⟩)
    · exact ⟨hcovered, hother name rfl⟩
    · cases heq
  · rintro ⟨hcovered, hother⟩
    refine .inl ⟨hcovered, ?_⟩
    rintro name' heq
    cases heq
    exact hother

end Covered

/-- An override in force covers a candidate if and only if the history says so. -/
theorem covers_after (effect : Effect) (history : List Registration) (x : Candidate) :
    (Registry.after history).covers effect x = true ↔ Covered effect history x := by
  induction history using List.reverseRecOn with
  | nil =>
    refine iff_of_false ?_ not_covered_nil
    cases effect <;> cases x <;> simp [Registry.after, Registry.covers, Registry.models,
      Registry.requests]
  | append_singleton history r ih =>
    have hafter : Registry.after (history ++ [r]) = Registration.apply (.after history) r := by
      rw [Registry.after, List.foldl_append]
      rfl
    rw [hafter]
    cases r with
    | register effect' name grant =>
      rw [covered_register, ← ih, Registration.apply, Registry.covers_register, Bool.or_eq_true,
        Bool.and_eq_true, Bool.and_eq_true, beq_iff_eq, beq_iff_eq, Grant.covers_override]
    | unregister name =>
      rw [covered_unregister, ← ih, Registration.apply, Registry.covers_unregister,
        Bool.and_eq_true, bne_iff_ne]

end AuditTrail
