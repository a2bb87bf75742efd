import AuditTrail.Proofs.Mutation.InFlight

/-
  The positions that a context keeps. A context is put to use by any calls of its methods, and by
  changes of the events that it gives out (`ContextUse.Step`). It keeps under the key of an instance
  the position of an event, while events are added at the end, changed in place and taken out all
  at once.

  Beside the context it is kept which events calls said that they had made since events were last
  taken, and for which keys (`ContextUse.made`). Every call keeps it so that these are the events of
  the context and that the position under a key is that of the latest event made for it
  (`Tracked.step`). What a call for the event of an instance answers follows from that, and so does
  what is there to be taken (`memo_points_at_latest`).
-/
namespace AuditTrail

/-! ## Keys and positions -/

theorem Keyed.mem_put {α : Type} {k k' : InstanceKey} {a b : α} {m : Keyed α} :
    (k', b) ∈ Keyed.put k a m ↔ if k' = k then b = a else (k', b) ∈ m := by
  rw [put, remove, List.mem_cons, List.mem_filter, Prod.mk.injEq]
  by_cases hk : k' = k
  · simp [hk]
  · simp [hk]

/-- The last place where a key stands. -/
def InstanceKey.Latest (keys : List InstanceKey) (k : InstanceKey) (n : Nat) : Prop :=
  keys[n]? = some k ∧ ∀ later, n < later → keys[later]? ≠ some k

namespace InstanceKey

variable {keys : List InstanceKey} {k k' : InstanceKey} {n n' : Nat}

theorem not_latest_nil : ¬ Latest [] k n := by
  rintro ⟨hn, -⟩
  cases hn

theorem Latest.lt_length (h : Latest keys k n) : n < keys.length :=
  (List.getElem?_eq_some_iff.mp h.1).1

theorem Latest.unique (h : Latest keys k n) (h' : Latest keys k n') : n = n' :=
  Nat.le_antisymm (Nat.le_of_not_lt fun hlt => h'.2 n hlt h.1)
    (Nat.le_of_not_lt fun hlt => h.2 n' hlt h'.1)

/-- A key that is added at the end stands there last, and the others where they stood. -/
theorem latest_concat :
    Latest (keys ++ [k']) k n ↔ if k = k' then n = keys.length else Latest keys k n := by
  have hnew : (keys ++ [k'])[keys.length]? = some k' := List.getElem?_concat_length
  have hbeyond : ∀ later, keys.length < later → (keys ++ [k'])[later]? ≠ some k := by
    intro later hlater
    rw [List.getElem?_eq_none (by rw [List.length_append, List.length_singleton]; exact hlater)]
    exact nofun
  split
  next hk =>
    subst hk
    constructor
    · intro h
      by_contra hne
      have hlt := h.lt_length
      rw [List.length_append, List.length_singleton] at hlt
      exact h.2 keys.length (by omega) hnew
    · rintro rfl
      exact ⟨hnew, hbeyond⟩
  next hk =>
    -- what is asked for stands before the new key
    have hplace : ∀ place : Nat, (keys ++ [k'])[place]? = some k ↔ keys[place]? = some k := by
      intro place
      rcases Nat.lt_trichotomy place keys.length with hlt | rfl | hgt
      · rw [List.getElem?_append_left hlt]
      · rw [hnew, List.getElem?_eq_none (Nat.le_refl _)]
        exact ⟨fun h => absurd (Option.some.inj h).symm hk, nofun⟩
      · rw [List.getElem?_eq_none (Nat.le_of_lt hgt)]
        exact ⟨fun h => absurd h (hbeyond place hgt), nofun⟩
    simp only [Latest, ne_eq, hplace]

theorem exists_latest (h : k ∈ keys) : ∃ n, Latest keys k n := by
  induction keys using List.reverseRecOn with
  | nil => cases h
  | append_singleton keys k' ih =>
    by_cases hk : k = k'
    · exact ⟨keys.length, latest_concat.mpr (by rw [if_pos hk])⟩
    · have hmem : k ∈ keys := (List.mem_append.mp h).resolve_right fun hmem =>
        hk (List.mem_singleton.mp hmem)
      obtain ⟨n, hn⟩ := ih hmem
      exact ⟨n, latest_concat.mpr (by rwa [if_neg hk])⟩

end InstanceKey

/-! ## Contexts in use -/

/-- What a call for the event of an instance can do: it gives the one in flight and changes nothing,
or it makes one. -/
theorem Context.eventFor_cases (i : Instance) (op : Operation) (force : Bool) (c : Context)
    (w : Surroundings) :
    (force = false ∧ ∃ n, c.memo.lookup (.of i) = some n ∧
        c.eventFor i op force w = (n, false, c, w)) ∨
      (force = true ∨ c.memo.lookup (.of i) = none) ∧
        ∃ id entryId time w', c.eventFor i op force w =
          (c.events.length, true, c.enter i (c.event i op id entryId time), w') := by
  unfold eventFor
  cases force with
  | true => exact .inr ⟨.inl rfl, _, _, _, _, rfl⟩
  | false =>
    cases hposition : c.memo.lookup (.of i) with
    | some n => exact .inl ⟨rfl, n, rfl, by simp [hposition]⟩
    | none =>
      refine .inr ⟨.inr rfl, ?_⟩
      simp only [Bool.false_eq_true, if_false, hposition]
      exact ⟨_, _, _, _, rfl⟩

/-- A context in use, with what identifiers and times come from. -/
structure ContextUse where
  context : Context
  surroundings : Surroundings
  /-- The events that calls said they had made since events were last taken, as they are by now,
  under the keys of the instances they were made for. -/
  made : List (InstanceKey × MutationEvent) := []

namespace ContextUse

/-- Something that is done with a context. -/
inductive Step where
  /-- The event of an instance is asked for. -/
  | event (i : Instance) (op : Operation) (force : Bool)
  /-- The event at a position that was given out is changed in some way. -/
  | edit (position : Nat) (f : MutationEvent → MutationEvent)
  | setActor (actor : Option String)
  | takeEvents
  | stash (i : Instance) (p : PendingSave)
  | takePending (i : Instance)
  | discardPending (i : Instance)

/-- A new context of an actor. -/
def start (actor : Option String) (w : Surroundings) : ContextUse := ⟨{ actor := actor }, w, []⟩

/-- The keys that events were made for since events were last taken. -/
def keys (u : ContextUse) : List InstanceKey := u.made.map Prod.fst

def step (u : ContextUse) : Step → ContextUse
  | .event i op force =>
    let (position, created, c, w) := u.context.eventFor i op force u.surroundings
    let new := c.events[position]?.toList.map fun m => (InstanceKey.of i, m)
    { context := c, surroundings := w, made := if created then u.made ++ new else u.made }
  | .edit position f =>
    { u with
      context := u.context.editEvent position f
      made := u.made.modify position fun e => (e.1, f e.2) }
  | .setActor actor => { u with context := { u.context with actor := actor } }
  | .takeEvents => { u with context := u.context.takeEvents.2, made := [] }
  | .stash i p => { u with context := u.context.stash i p }
  | .takePending i => { u with context := (u.context.takePending i).2 }
  | .discardPending i => { u with context := u.context.discardPending i }

def run (steps : List Step) (u : ContextUse) : ContextUse := steps.foldl step u

/-- Who acts after some steps: who was set last. -/
def actorAfter : Option String → List Step → Option String
  | actor, [] => actor
  | _, .setActor actor :: steps => actorAfter actor steps
  | actor, _ :: steps => actorAfter actor steps

/-! ### What every step keeps -/

/-- The events of the context are those that were made, in their order, and under every key there
stands the position of the latest one made for it. -/
structure Tracked (u : ContextUse) : Prop where
  events : u.context.events = u.made.map Prod.snd
  positions : ∀ k n, (k, n) ∈ u.context.memo ↔ InstanceKey.Latest u.keys k n

variable {u : ContextUse} {i : Instance}

theorem Tracked.length (h : u.Tracked) : u.keys.length = u.context.events.length := by
  rw [h.events, keys, List.length_map, List.length_map]

theorem Tracked.lookup_eq_some_iff (h : u.Tracked) {k : InstanceKey} {n : Nat} :
    u.context.memo.lookup k = some n ↔ InstanceKey.Latest u.keys k n := by
  have hmem : ∀ {n}, u.context.memo.lookup k = some n → (k, n) ∈ u.context.memo := by
    intro n hn
    obtain ⟨before, after, hmemo, -⟩ := List.lookup_eq_some_iff.mp hn
    rw [hmemo]
    exact List.mem_append_right _ List.mem_cons_self
  constructor
  · intro hn
    exact (h.positions k n).mp (hmem hn)
  · intro hlatest
    cases hlookup : u.context.memo.lookup k with
    | some n' => rw [((h.positions k n').mp (hmem hlookup)).unique hlatest]
    | none =>
      have hnone := List.lookup_eq_none_iff.mp hlookup _ ((h.positions k n).mpr hlatest)
      simp at hnone

theorem Tracked.lookup_eq_none_iff (h : u.Tracked) {k : InstanceKey} :
    u.context.memo.lookup k = none ↔ k ∉ u.keys := by
  constructor
  · intro hlookup hmem
    obtain ⟨n, hn⟩ := InstanceKey.exists_latest hmem
    rw [h.lookup_eq_some_iff.mpr hn] at hlookup
    cases hlookup
  · intro hmem
    cases hlookup : u.context.memo.lookup k with
    | none => rfl
    | some n =>
      exact absurd (List.mem_of_getElem? (h.lookup_eq_some_iff.mp hlookup).1) hmem

theorem tracked_start (actor : Option String) (w : Surroundings) : (start actor w).Tracked where
  events := rfl
  positions _ _ := ⟨nofun, fun h => absurd h InstanceKey.not_latest_nil⟩

theorem Tracked.congr {c : Context} (h : u.Tracked) (hevents : c.events = u.context.events)
    (hmemo : c.memo = u.context.memo) : Tracked { u with context := c } where
  events := hevents.trans h.events
  positions := by
    show ∀ k n, (k, n) ∈ c.memo ↔ _
    rw [hmemo]
    exact h.positions

theorem Tracked.enter (h : u.Tracked) (i : Instance) (m : MutationEvent) (w : Surroundings) :
    Tracked ⟨u.context.enter i m, w, u.made ++ [(.of i, m)]⟩ where
  events := by
    show u.context.events ++ [m] = _
    rw [h.events, List.map_append, List.map_singleton]
  positions k n := by
    have hkeys : keys ⟨u.context.enter i m, w, u.made ++ [(.of i, m)]⟩ = u.keys ++ [.of i] := by
      rw [keys, List.map_append, List.map_singleton, keys]
    rw [hkeys, InstanceKey.latest_concat, h.length]
    refine Keyed.mem_put.trans ?_
    split
    · rfl
    · exact h.positions k n

theorem Tracked.edit (h : u.Tracked) (position : Nat) (f : MutationEvent → MutationEvent) :
    (u.step (.edit position f)).Tracked where
  events := by
    show u.context.events.modify position f =
      (u.made.modify position fun e => (e.1, f e.2)).map Prod.snd
    rw [h.events, Context.map_modify (fun e => (e.1, f e.2)) f Prod.snd fun _ => rfl]
  positions := by
    have hkeys : (u.step (.edit position f)).keys = u.keys := by
      show (u.made.modify position fun e => (e.1, f e.2)).map Prod.fst = u.made.map Prod.fst
      rw [Context.map_modify (fun e => (e.1, f e.2)) id Prod.fst fun _ => rfl, List.modify_id]
    rw [hkeys]
    exact h.positions

theorem step_event (u : ContextUse) (i : Instance) (op : Operation) (force : Bool) :
    u.step (.event i op force) = u ∨
      ∃ m w, u.step (.event i op force) = ⟨u.context.enter i m, w, u.made ++ [(.of i, m)]⟩ := by
  rcases u.context.eventFor_cases i op force u.surroundings with
    ⟨-, n, -, hgiven⟩ | ⟨-, id, entryId, time, w, hmade⟩
  · rw [step, hgiven]
    exact .inl rfl
  · rw [step, hmade]
    dsimp only
    rw [Context.getElem?_enter]
    exact .inr ⟨_, w, rfl⟩

theorem Tracked.step (h : u.Tracked) (a : Step) : (u.step a).Tracked := by
  cases a with
  | event i op force =>
    rcases u.step_event i op force with hsame | ⟨m, w, hmade⟩
    · rw [hsame]
      exact h
    · rw [hmade]
      exact h.enter i m w
  | edit position f => exact h.edit position f
  | setActor actor => exact h.congr rfl rfl
  | takeEvents => exact ⟨rfl, fun _ _ => ⟨nofun, fun hn => absurd hn InstanceKey.not_latest_nil⟩⟩
  | stash i p => exact h.congr rfl rfl
  | takePending i =>
    obtain ⟨k, htaken, -⟩ := Context.takePending_eq i u.context
    refine h.congr (u.context.takePending_events i) ?_
    rw [htaken]
  | discardPending i => exact h.congr rfl rfl

theorem Tracked.run (h : u.Tracked) (steps : List Step) : (u.run steps).Tracked := by
  induction steps generalizing u with
  | nil => exact h
  | cons a steps ih => exact ih (h.step a)

theorem run_actor (steps : List Step) (u : ContextUse) :
    (u.run steps).context.actor = actorAfter u.context.actor steps := by
  induction steps generalizing u with
  | nil => rfl
  | cons a steps ih =>
    have hrest : (u.run (a :: steps)).context.actor = actorAfter (u.step a).context.actor steps :=
      ih (u.step a)
    rw [hrest]
    cases a with
    | event i op force =>
      rcases u.step_event i op force with hsame | ⟨m, w, hmade⟩
      · rw [hsame]
        rfl
      · rw [hmade]
        rfl
    | takePending i =>
      obtain ⟨k, htaken, -⟩ := Context.takePending_eq i u.context
      show actorAfter (u.context.takePending i).2.actor steps = _
      rw [htaken]
      rfl
    | _ => rfl

/-! ### What a host can rely on -/

/-- What a context in use answers, where someone acts. -/
structure Reliable (actor : Option String) (u : ContextUse) : Prop where
  /-- Under a key there is the position of the latest event made for it, and no other. -/
  latest : ∀ k n, (k, n) ∈ u.context.memo ↔ InstanceKey.Latest u.keys k n
  bounded : ∀ k n, (k, n) ∈ u.context.memo → n < u.context.events.length
  /-- Whatever is asked for, there is an event at the position that is given out. -/
  given : ∀ i op force w, (u.context.eventFor i op force w).1 <
    (u.context.eventFor i op force w).2.2.1.events.length
  /-- For a key that an event was made for, the latest one is given and nothing changes. -/
  reused : ∀ i op w, .of i ∈ u.keys → ∃ n m, InstanceKey.Latest u.keys (.of i) n ∧
    u.made[n]? = some (.of i, m) ∧ u.context.events[n]? = some m ∧
      u.context.eventFor i op false w = (n, false, u.context, w)
  /-- For any other, or if it is asked for, a new event is added behind those that are there. -/
  added : ∀ i op force w, force = true ∨ .of i ∉ u.keys → ∃ m c w',
    u.context.eventFor i op force w = (u.context.events.length, true, c, w') ∧
      (∃ id entryId time, m = {
        id := id
        createdAt := time
        operation := op
        actor := actor
        entry := .ofInstance entryId i }) ∧
      c.events = u.context.events ++ [m] ∧ c.actor = actor ∧ c.pending = u.context.pending
  /-- All events are taken in the order in which they were made, and no key is known any more. -/
  taken : u.context.takeEvents.1 = u.made.map Prod.snd ∧ u.context.takeEvents.2.events = [] ∧
    u.context.takeEvents.2.memo = [] ∧
      ∀ i op force w, (u.context.takeEvents.2.eventFor i op force w).2.1 = true

theorem Tracked.reused (h : u.Tracked) (hknown : .of i ∈ u.keys) (op : Operation)
    (w : Surroundings) : ∃ n m, InstanceKey.Latest u.keys (.of i) n ∧
      u.made[n]? = some (.of i, m) ∧ u.context.events[n]? = some m ∧
        u.context.eventFor i op false w = (n, false, u.context, w) := by
  obtain ⟨n, hlatest⟩ := InstanceKey.exists_latest hknown
  have hkey : (u.made.map Prod.fst)[n]? = some (.of i) := hlatest.1
  rw [List.getElem?_map, Option.map_eq_some_iff] at hkey
  obtain ⟨⟨k, m⟩, hmade, rfl⟩ := hkey
  refine ⟨n, m, hlatest, hmade, ?_, ?_⟩
  · rw [h.events, List.getElem?_map, hmade]
    rfl
  · have hlookup := h.lookup_eq_some_iff.mpr hlatest
    rcases u.context.eventFor_cases i op false w with ⟨-, n', hn', hgiven⟩ | ⟨hnew, -⟩
    · rw [hgiven, Option.some.inj (hn'.symm.trans hlookup)]
    · rcases hnew with hforce | hnone
      · cases hforce
      · rw [hlookup] at hnone
        cases hnone

theorem Tracked.added (h : u.Tracked) {force : Bool} (hnew : force = true ∨ .of i ∉ u.keys)
    (op : Operation) (w : Surroundings) : ∃ id entryId time w',
      u.context.eventFor i op force w = (u.context.events.length, true,
        u.context.enter i (u.context.event i op id entryId time), w') := by
  rcases u.context.eventFor_cases i op force w with ⟨hforce, n, hn, -⟩ | ⟨-, hmade⟩
  · rcases hnew with hforced | hunknown
    · rw [hforced] at hforce
      cases hforce
    · rw [h.lookup_eq_none_iff.mpr hunknown] at hn
      cases hn
  · exact hmade

theorem Tracked.given (h : u.Tracked) (i : Instance) (op : Operation) (force : Bool)
    (w : Surroundings) : (u.context.eventFor i op force w).1 <
      (u.context.eventFor i op force w).2.2.1.events.length := by
  rcases u.context.eventFor_cases i op force w with
    ⟨-, n, hn, hgiven⟩ | ⟨-, id, entryId, time, w', hmade⟩
  · rw [hgiven]
    exact h.length ▸ (h.lookup_eq_some_iff.mp hn).lt_length
  · rw [hmade]
    show u.context.events.length < (u.context.events ++ [_]).length
    rw [List.length_append]
    exact Nat.lt_succ_self _

/-- **A context finds the event in flight.** Whatever calls are made on a new context, and in
whatever way the events that it gives out are changed, the position that it keeps under a key is
that of the latest event made for the key since events were last taken. So there always is an event
at the position that a call gives out; one that need not be new, for a key that is known, is the
latest made for the key, and the call changes nothing; any other call adds one event by who acts,
about the instance, behind those that are there and stay as they are; and taking the events gives
all of them in the order in which they were made, and leaves a context that knows no key. -/
theorem memo_points_at_latest (actor : Option String) (w : Surroundings) (steps : List Step) :
    ((start actor w).run steps).Reliable (actorAfter actor steps) := by
  have h : ((start actor w).run steps).Tracked := (tracked_start actor w).run steps
  have hactor := run_actor steps (start actor w)
  refine ⟨h.positions, fun k n hn => ?_, h.given, fun i op w' hknown => h.reused hknown op w',
    fun i op force w' hnew => ?_, ?_⟩
  · exact h.length ▸ ((h.positions k n).mp hn).lt_length
  · obtain ⟨id, entryId, time, w'', hmade⟩ := h.added hnew op w'
    refine ⟨_, _, w'', hmade, ⟨id, entryId, time, ?_⟩, rfl, hactor, rfl⟩
    rw [Context.event, hactor]
    rfl
  · refine ⟨h.events, rfl, rfl, fun i op force w' => ?_⟩
    have hnew : force = true ∨ .of i ∉ (((start actor w).run steps).step .takeEvents).keys :=
      .inr List.not_mem_nil
    obtain ⟨id, entryId, time, w'', hmade⟩ := (h.step .takeEvents).added hnew op w'
    exact congrArg (·.2.1) hmade

/-- An event is given again until a new one is asked for. -/
example :
    let i := Engine.orderOf "shop"
    let steps : List Step := [.event i .modify false, .event i .modify false, .event i .modify true]
    ((start (some "alice") ⟨0, default⟩).run steps).context.memo = [(.of i, 1)] :=
  rfl

end ContextUse

end AuditTrail
