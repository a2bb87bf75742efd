import AuditTrail.Change
import Mathlib.Data.List.Nodup
import Mathlib.Data.List.Perm.Basic
import Mathlib.Logic.Function.Basic

/-
  The changes between two states, as a function of what stands under each key. A state gives every
  key a normal form (`Values.normal`), which is missing where the key is, or where its value is null
  or the empty text. The changes are those at the keys whose normal forms differ, each once
  (`between_eq_map`): everything that is said about them follows from what a change at one key
  (`Change.under`) says and from the list of these keys (`changedKeys`).

  Main statement: `changes_account`. Changes account for two states completely (`Accounts`), applied
  to the normal forms of the first they give those of the second, and from the second state to the
  first the same changes are found the other way round.
-/
namespace AuditTrail

namespace Values

/-- The keys, in order. -/
def keys (vs : Values) : List String := vs.map (·.1)

/-- The normal form of what stands under a key. -/
def normal (vs : Values) (key : String) : Option String := (vs.lookup key).bind Change.normalize

variable {vs : Values} {key : String}

theorem isSome_lookup : (vs.lookup key).isSome = true ↔ key ∈ vs.keys := by
  rw [List.lookup_isSome_iff, keys, List.mem_map]
  simp only [beq_iff_eq, eq_comm (a := key)]

theorem lookup_of_not_mem (h : key ∉ vs.keys) : vs.lookup key = none := by
  rwa [← Option.not_isSome_iff_eq_none, isSome_lookup]

theorem normal_of_not_mem (h : key ∉ vs.keys) : vs.normal key = none := by
  rw [normal, lookup_of_not_mem h, Option.bind_none]

/-- Where no key stands twice, every entry is found under its key. -/
theorem lookup_of_mem (h : vs.keys.Nodup) {entry : String × Json} (hentry : entry ∈ vs) :
    vs.lookup entry.1 = some entry.2 := by
  obtain ⟨before, after, rfl⟩ := List.append_of_mem hentry
  rw [List.lookup_eq_some_iff]
  refine ⟨before, after, rfl, ?_⟩
  intro other hother
  rw [keys, List.map_append, List.nodup_append] at h
  have hne := h.2.2 other.1 (List.mem_map_of_mem hother) entry.1 (by simp)
  exact bne_iff_ne.mpr (Ne.symm hne)

theorem keys_set (vs : Values) (value : Json) :
    (vs.set key value).keys = if key ∈ vs.keys then vs.keys else vs.keys ++ [key] := by
  induction vs with
  | nil => rfl
  | cons entry vs ih =>
    obtain ⟨name, old⟩ := entry
    unfold Values.set
    split
    next heq => rw [if_pos (by rw [heq]; exact List.mem_cons_self)]; rfl
    next hne =>
      have hmem : key ∈ keys ((name, old) :: vs) ↔ key ∈ keys vs :=
        List.mem_cons.trans (or_iff_right (Ne.symm hne))
      rw [if_congr hmem rfl rfl]
      change name :: keys (Values.set key value vs) = _
      rw [ih]
      split <;> rfl

/-- Values that are put one after another stand under a key each. -/
theorem nodup_keys_set (h : vs.keys.Nodup) (value : Json) : (vs.set key value).keys.Nodup := by
  rw [keys_set]
  split
  next => exact h
  next hkey =>
    refine List.nodup_append.mpr ⟨h, List.nodup_singleton key, ?_⟩
    rintro name hname _ hlast rfl
    exact hkey (List.mem_singleton.mp hlast ▸ hname)

end Values

/-- The operation that undoes another. -/
def Operation.inverse : Operation → Operation
  | .create => .delete
  | .modify => .modify
  | .delete => .create

namespace Change

/-- The change the other way round. -/
def inverse (change : Change) : Change :=
  ⟨change.operation.inverse, change.key, change.current, change.previous⟩

/-- The normal forms after some changes. -/
def replay (changes : List Change) (state : String → Option String) : String → Option String :=
  changes.foldl (fun state change => Function.update state change.key change.current) state

/-- What changes have to say about two states in order to account for both. -/
structure Accounts (prior post : Values) (changes : List Change) : Prop where
  /-- There is one change of every key whose normal forms differ and none of any other key. -/
  once : ∀ key, (changes.map (·.key)).count key =
    if prior.normal key = post.normal key then 0 else 1
  previous : ∀ change ∈ changes, change.previous = prior.normal change.key
  current : ∀ change ∈ changes, change.current = post.normal change.key
  operation : ∀ change ∈ changes, change.operation =
    if change.key ∉ prior.keys then .create else if change.key ∉ post.keys then .delete else .modify
  /-- The keys of the later state come first, then those that only the earlier one has. -/
  order : changes.map (·.key) = (post.keys ++ prior.keys.filter (· ∉ post.keys)).filter
    fun key => prior.normal key ≠ post.normal key
  replays : replay changes prior.normal = post.normal

/-! ## Changes at single keys -/

/-- The change of what stands under a key. -/
def under (prior post : Values) (key : String) : Change where
  operation :=
    if key ∉ prior.keys then .create else if key ∉ post.keys then .delete else .modify
  key := key
  previous := prior.normal key
  current := post.normal key

/-- The keys whose normal forms differ. -/
def changedKeys (prior post : Values) : List String :=
  (post.keys ++ prior.keys.filter (· ∉ post.keys)).filter fun key =>
    prior.normal key ≠ post.normal key

variable {prior post : Values}

theorem ofPost_eq (hpost : post.keys.Nodup) {entry : String × Json} (hentry : entry ∈ post) :
    ofPost prior entry = if prior.normal entry.1 ≠ post.normal entry.1 then
      some (under prior post entry.1) else none := by
  have hcurrent : normalize entry.2 = post.normal entry.1 := by
    rw [Values.normal, Values.lookup_of_mem hpost hentry, Option.bind_some]
  have hkey : entry.1 ∈ post.keys := List.mem_map_of_mem hentry
  have hoperation : (if (prior.lookup entry.1).isSome then Operation.modify else .create) =
      (under prior post entry.1).operation := by
    simp only [under, Values.isSome_lookup, hkey, not_true_eq_false, if_false, ite_not]
  unfold ofPost
  dsimp only
  rw [hcurrent, hoperation, ite_not]
  rfl

theorem ofRemoved_eq (hprior : prior.keys.Nodup) {entry : String × Json} (hentry : entry ∈ prior) :
    ofRemoved post entry =
      if entry.1 ∉ post.keys ∧ prior.normal entry.1 ≠ post.normal entry.1 then
        some (under prior post entry.1) else none := by
  have hprevious : normalize entry.2 = prior.normal entry.1 := by
    rw [Values.normal, Values.lookup_of_mem hprior hentry, Option.bind_some]
  have hkey : entry.1 ∈ prior.keys := List.mem_map_of_mem hentry
  unfold ofRemoved
  by_cases hpost : entry.1 ∈ post.keys
  · rw [if_pos (Values.isSome_lookup.mpr hpost), if_neg (fun h => h.1 hpost)]
  · have hcurrent := Values.normal_of_not_mem hpost
    rw [if_neg (mt Values.isSome_lookup.mp hpost), hprevious]
    cases hnormal : prior.normal entry.1 with
    | none => rw [if_neg (fun h => h.2 hcurrent.symm), Option.map_none]
    | some previous =>
      rw [if_pos ⟨hpost, by rw [hcurrent]; exact Option.some_ne_none previous⟩, Option.map_some]
      simp only [under, hkey, hpost, hnormal, hcurrent, not_true_eq_false, not_false_eq_true,
        if_false, if_true]

/-- The changes are those under the keys whose normal forms differ. -/
theorem between_eq_map (hprior : prior.keys.Nodup) (hpost : post.keys.Nodup) :
    between prior post = (changedKeys prior post).map (under prior post) := by
  have hleft : post.filterMap (ofPost prior) =
      (post.keys.filter fun key => prior.normal key ≠ post.normal key).map (under prior post) := by
    rw [List.filterMap_congr fun entry hentry => ofPost_eq hpost hentry, Values.keys,
      List.filter_map, List.map_map, ← List.filterMap_eq_map, List.filterMap_filter]
    simp only [Function.comp_apply, decide_eq_true_eq]
  have hright : prior.filterMap (ofRemoved post) =
      ((prior.keys.filter (· ∉ post.keys)).filter fun key =>
        prior.normal key ≠ post.normal key).map (under prior post) := by
    rw [List.filterMap_congr fun entry hentry => ofRemoved_eq hprior hentry, List.filter_filter,
      Values.keys.eq_def prior, List.filter_map, List.map_map, ← List.filterMap_eq_map,
      List.filterMap_filter]
    simp only [Function.comp_apply, Bool.and_eq_true, decide_eq_true_eq, and_comm]
  rw [between, hleft, hright, changedKeys, List.filter_append, List.map_append]

theorem map_key_between (hprior : prior.keys.Nodup) (hpost : post.keys.Nodup) :
    (between prior post).map (·.key) = changedKeys prior post := by
  rw [between_eq_map hprior hpost, List.map_map]
  exact List.map_id _

/-! ## The keys that change -/

/-- A key that neither state has does not change. -/
theorem mem_changedKeys {key : String} :
    key ∈ changedKeys prior post ↔ prior.normal key ≠ post.normal key := by
  rw [changedKeys, List.mem_filter, decide_eq_true_eq, and_iff_right_iff_imp]
  intro hne
  by_cases hpost : key ∈ post.keys
  · exact List.mem_append_left _ hpost
  · refine List.mem_append_right _ (List.mem_filter.mpr ⟨?_, decide_eq_true hpost⟩)
    by_contra hprior
    exact hne ((Values.normal_of_not_mem hprior).trans (Values.normal_of_not_mem hpost).symm)

theorem nodup_changedKeys (hprior : prior.keys.Nodup) (hpost : post.keys.Nodup) :
    (changedKeys prior post).Nodup := by
  refine List.Nodup.filter _ (List.nodup_append.mpr ⟨hpost, hprior.filter _, ?_⟩)
  rintro key hkey _ hother rfl
  exact of_decide_eq_true (List.mem_filter.mp hother).2 hkey

/-- Changes under keys set the normal forms under these keys and no others. -/
theorem replay_map_under (keys : List String) (state : String → Option String) (key : String) :
    replay (keys.map (under prior post)) state key =
      if key ∈ keys then post.normal key else state key := by
  induction keys generalizing state with
  | nil => rfl
  | cons first keys ih =>
    have hstep : replay ((first :: keys).map (under prior post)) state =
        replay (keys.map (under prior post)) (Function.update state first (post.normal first)) :=
      rfl
    rw [hstep, ih]
    by_cases hkeys : key ∈ keys
    · rw [if_pos hkeys, if_pos (List.mem_cons_of_mem _ hkeys)]
    · rw [if_neg hkeys]
      by_cases hfirst : key = first
      · rw [hfirst, Function.update_self, if_pos List.mem_cons_self]
      · rw [Function.update_of_ne hfirst, if_neg (by simp [hfirst, hkeys])]

/-- From the second state to the first each change is found the other way round. -/
theorem under_swap {key : String} (h : prior.normal key ≠ post.normal key) :
    under post prior key = (under prior post key).inverse := by
  have hkey : key ∈ prior.keys ∨ key ∈ post.keys := by
    by_contra hneither
    rw [not_or] at hneither
    exact h ((Values.normal_of_not_mem hneither.1).trans
      (Values.normal_of_not_mem hneither.2).symm)
  have hoperation : (under post prior key).operation =
      (under prior post key).operation.inverse := by
    dsimp only [under]
    by_cases hprior : key ∈ prior.keys <;> by_cases hpost : key ∈ post.keys
    · simp only [hprior, hpost, not_true_eq_false, if_false, Operation.inverse]
    · simp only [hprior, hpost, not_true_eq_false, not_false_eq_true, if_false, if_true,
        Operation.inverse]
    · simp only [hprior, hpost, not_true_eq_false, not_false_eq_true, if_false, if_true,
        Operation.inverse]
    · exact absurd hkey (not_or.mpr ⟨hprior, hpost⟩)
  rw [inverse, ← hoperation]
  rfl

/-! ## The account -/

/-- The changes between two states account for both. Found from the second state to the first they
are the same, each the other way round. -/
theorem changes_account (hprior : prior.keys.Nodup) (hpost : post.keys.Nodup) :
    Accounts prior post (between prior post) ∧
      (between post prior).Perm ((between prior post).map inverse) := by
  have hchange : ∀ change ∈ between prior post,
      change = under prior post change.key := by
    intro change hmem
    rw [between_eq_map hprior hpost] at hmem
    obtain ⟨key, -, rfl⟩ := List.mem_map.mp hmem
    rfl
  refine ⟨{ once := ?once, previous := ?previous, current := ?current, operation := ?operation,
            order := map_key_between hprior hpost, replays := ?replays }, ?reverse⟩
  case once =>
    intro key
    rw [map_key_between hprior hpost, (nodup_changedKeys hprior hpost).count, ← ite_not]
    exact if_congr (not_congr mem_changedKeys |>.trans not_not) rfl rfl
  case previous => exact fun change hmem => congrArg Change.previous (hchange change hmem)
  case current => exact fun change hmem => congrArg Change.current (hchange change hmem)
  case operation => exact fun change hmem => congrArg Change.operation (hchange change hmem)
  case replays =>
    funext key
    rw [between_eq_map hprior hpost, replay_map_under]
    split
    next => rfl
    next hkey => exact not_not.mp (mt mem_changedKeys.mpr hkey)
  case reverse =>
    have hkeys : (changedKeys post prior).Perm (changedKeys prior post) := by
      rw [List.perm_ext_iff_of_nodup (nodup_changedKeys hpost hprior)
        (nodup_changedKeys hprior hpost)]
      intro key
      rw [mem_changedKeys, mem_changedKeys, ne_comm]
    rw [between_eq_map hpost hprior, between_eq_map hprior hpost, List.map_map]
    refine (hkeys.map _).trans (List.Perm.of_eq (List.map_congr_left ?_))
    intro key hkey
    exact under_swap (mem_changedKeys.mp hkey)

/-- An order before it is edited. -/
def orderBefore : Values :=
  .set "note" (.string "old") (.set "gone" (.string "bye") (.set "blank" .null []))

/-- The order afterwards: a value is cleared, one is dropped, and one comes in. -/
def orderAfter : Values :=
  .set "paid" (.bool true) (.set "note" .null (.set "blank" (.string "") []))

theorem changes_account_orderEdited :
    orderBefore.keys.Nodup ∧ orderAfter.keys.Nodup ∧
      between orderBefore orderAfter =
        [⟨.modify, "note", some "old", none⟩, ⟨.create, "paid", none, some "true"⟩,
          ⟨.delete, "gone", some "bye", none⟩] ∧
      Accounts orderBefore orderAfter (between orderBefore orderAfter) ∧
      (between orderAfter orderBefore).Perm ((between orderBefore orderAfter).map inverse) := by
  have hnone : (Values.keys []).Nodup := List.nodup_nil
  have hbefore : orderBefore.keys.Nodup :=
    Values.nodup_keys_set (Values.nodup_keys_set (Values.nodup_keys_set hnone _) _) _
  have hafter : orderAfter.keys.Nodup :=
    Values.nodup_keys_set (Values.nodup_keys_set (Values.nodup_keys_set hnone _) _) _
  exact ⟨hbefore, hafter, by decide, changes_account hbefore hafter⟩

end Change

end AuditTrail
