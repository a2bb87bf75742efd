import AuditTrail.Proofs.Config.Resolution
import AuditTrail.Settings
import Mathlib.Data.List.Infix
import Mathlib.Data.List.Induction
import Mathlib.Data.List.Range

/-
  Any number of settings that share one counter of versions, under any calls: new settings, edits
  and replacements of a source, resolutions, and readers that take the snapshot in effect and keep
  it. What a single call can do is said once (`Call.perform_does`). From it follow, along a run, the
  versions that were handed out (`versions_issued`) and where the snapshot in effect comes from
  (`LastGiven.of_performAll`); `snapshots_consistent` puts them together.
-/
namespace AuditTrail

/-- A source is resolved exactly if it keeps the rules. -/
theorem Settings.resolve_spec (source : Config) (counter : VersionCounter) :
    (source.Valid ∧ Settings.resolve source counter
        = .ok (⟨counter.next, source.resolved⟩, counter.draw.2)) ∨
    (¬ source.Valid ∧ ∃ e, Settings.resolve source counter = .error e) := by
  rw [Settings.resolve]
  cases hrule : source.broken? with
  | none => exact .inl ⟨source.broken?_eq_none_iff.mp hrule, rfl⟩
  | some rule =>
    refine .inr ⟨fun hvalid => ?_, .invalid rule, rfl⟩
    rw [source.broken?_eq_none_iff.mpr hvalid] at hrule
    cases hrule

/-! ## Calls -/

/-- Settings in the order in which they were made, with the counter that they share, and the
snapshots that readers hold. -/
structure Pool where
  counter : VersionCounter := {}
  settings : List Settings := []
  held : List Snapshot := []

namespace Pool

/-- The sources. -/
def sources (p : Pool) : List Config := p.settings.map (·.source)

/-- The snapshots in effect. -/
def currents (p : Pool) : List Snapshot := p.settings.map (·.current)

/-- Edits the source of the `n`-th settings. -/
def update (n : Nat) (edit : Config → Config) (p : Pool) : Pool :=
  { p with settings := p.settings.modify n (·.update edit) }

theorem currents_update (n : Nat) (edit : Config → Config) (p : Pool) :
    (p.update n edit).currents = p.currents := by
  rw [update, currents, currents]
  refine List.ext_getElem? fun m => ?_
  rw [List.getElem?_map, List.getElem?_map, List.getElem?_modify]
  cases p.settings[m]? with
  | none => rfl
  | some s => by_cases hm : n = m <;> simp [hm, Settings.update]

/-- A call on a pool. Settings are named by their position. -/
inductive Call where
  | create (source : Config)
  | update (n : Nat) (edit : Config → Config)
  | replace (n : Nat) (source : Config)
  | invalidate (n : Nat)
  | hold (n : Nat)

/-- A snapshot that was handed out, and the settings that it was resolved for. -/
structure Issue where
  owner : Nat
  snapshot : Snapshot

/-- What a call answers: why it was refused, or the snapshot it hands out, if any. -/
abbrev Answer := Except ConfigError (Option Issue)

namespace Call

/-- The call edits a source or puts another one in its place. -/
inductive Edits : Call → Prop
  | update (n : Nat) (edit : Config → Config) : Edits (.update n edit)
  | replace (n : Nat) (source : Config) : Edits (.replace n source)

/-- Makes a call. A call on settings that there are not does nothing. -/
def perform : Call → Pool → Answer × Pool
  | .create source, p =>
    match Settings.create source p.counter with
    | .error e => (.error e, p)
    | .ok (s, counter) =>
      (.ok (some ⟨p.settings.length, s.current⟩),
        { p with counter := counter, settings := p.settings ++ [s] })
  | .update n edit, p => (.ok none, p.update n edit)
  | .replace n source, p =>
    (.ok none, { p with settings := p.settings.modify n (·.replace source) })
  | .invalidate n, p =>
    match p.settings[n]? with
    | none => (.ok none, p)
    | some s =>
      match s.invalidate p.counter with
      | .error e => (.error e, p)
      | .ok (s, counter) =>
        (.ok (some ⟨n, s.current⟩),
          { p with counter := counter, settings := p.settings.set n s })
  | .hold n, p => (.ok none, { p with held := p.held ++ p.currents[n]?.toList })

/-- What a call does to a pool. -/
inductive Does (c : Call) (p : Pool) : Answer → Pool → Prop
  /-- A source may be edited and readers may take snapshots, but those in effect stay. -/
  | quiet (q : Pool) (counter : q.counter = p.counter) (currents : q.currents = p.currents)
      (sources : ¬ c.Edits → q.sources = p.sources)
      (held : ∃ taken ⊆ p.currents, q.held = p.held ++ taken) : Does c p (.ok none) q
  | refused (e : ConfigError) : Does c p (.error e) p
  /-- One of the settings, which may be new, gets a snapshot of its source. -/
  | issued (n : Nat) (source : Config) (settings : List Settings) (valid : source.Valid)
      (owner : settings[n]? = some ⟨source, ⟨p.counter.next, source.resolved⟩⟩)
      (others : ∀ m ≠ n, settings[m]? = p.settings[m]?)
      (sources : p.sources <+: settings.map (·.source)) :
      Does c p (.ok (some ⟨n, ⟨p.counter.next, source.resolved⟩⟩))
        { p with counter := p.counter.draw.2, settings := settings }

theorem create_does (source : Config) (p : Pool) :
    Does (.create source) p ((create source).perform p).1 ((create source).perform p).2 := by
  rcases Settings.resolve_spec source p.counter with ⟨hvalid, hr⟩ | ⟨-, e, hr⟩
  · simp only [perform, Settings.create, hr, Except.map]
    refine .issued p.settings.length source _ hvalid (by simp) (fun m hm => ?_) ?_
    · rcases Nat.lt_or_gt_of_ne hm with hm | hm
      · exact List.getElem?_append_left hm
      · rw [List.getElem?_eq_none (by simp; omega), List.getElem?_eq_none (by omega)]
    · rw [List.map_append]
      exact List.prefix_append _ _
  · simp only [perform, Settings.create, hr, Except.map]
    exact .refused e

theorem invalidate_does (n : Nat) (p : Pool) :
    Does (.invalidate n) p ((invalidate n).perform p).1 ((invalidate n).perform p).2 := by
  simp only [perform]
  cases hs : p.settings[n]? with
  | none => exact .quiet _ rfl rfl (fun _ => rfl) ⟨[], by simp, by simp⟩
  | some s =>
    obtain ⟨hn, hget⟩ := List.getElem?_eq_some_iff.mp hs
    rcases Settings.resolve_spec s.source p.counter with ⟨hvalid, hr⟩ | ⟨-, e, hr⟩
    · simp only [Settings.invalidate, hr, Except.map]
      refine .issued n s.source _ hvalid (by simp [hn]) (fun m hm => ?_) ?_
      · exact List.getElem?_set_ne hm.symm
      · have hsame : p.settings.set n s = p.settings := by
          rw [← hget]
          exact List.set_getElem_self hn
        have hsource : (p.settings.map (·.source)).set n s.source = p.settings.map (·.source) := by
          rw [← List.map_set, hsame]
        rw [List.map_set, hsource]
        exact List.prefix_rfl
    · simp only [Settings.invalidate, hr, Except.map]
      exact .refused e

theorem perform_does (c : Call) (p : Pool) : Does c p (c.perform p).1 (c.perform p).2 := by
  cases c with
  | create source => exact create_does source p
  | update n edit =>
    exact .quiet _ rfl (p.currents_update n edit) (fun h => absurd (.update n edit) h)
      ⟨[], by simp, (List.append_nil _).symm⟩
  | replace n source =>
    exact .quiet _ rfl (p.currents_update n _) (fun h => absurd (.replace n source) h)
      ⟨[], by simp, (List.append_nil _).symm⟩
  | invalidate n => exact invalidate_does n p
  | hold n =>
    refine .quiet _ rfl rfl (fun _ => rfl) ⟨_, fun x hx => ?_, rfl⟩
    exact List.mem_of_getElem? (Option.mem_toList.mp hx)

/-- What readers hold they keep, and they take only what is in effect. -/
theorem Does.held {c : Call} {p q : Pool} {answer : Answer} (h : Does c p answer q) :
    ∃ taken ⊆ p.currents, q.held = p.held ++ taken := by
  cases h with
  | quiet _ _ _ _ held => exact held
  | refused | issued => exact ⟨[], by simp, (List.append_nil _).symm⟩

/-- Only an edit changes a source. -/
theorem Does.sources {c : Call} {p q : Pool} {answer : Answer} (h : Does c p answer q)
    (hc : ¬ c.Edits) : p.sources <+: q.sources := by
  cases h with
  | quiet _ _ _ sources => exact (sources hc).symm ▸ List.prefix_rfl
  | refused => exact List.prefix_rfl
  | issued _ _ _ _ _ _ sources => exact sources

theorem Does.eq_of_error {c : Call} {p q : Pool} {e : ConfigError} (h : Does c p (.error e) q) :
    q = p := by
  cases h with
  | refused => rfl

theorem currents_of_edits {c : Call} (hc : c.Edits) (p : Pool) :
    (c.perform p).2.currents = p.currents := by
  cases hc with
  | update n edit => exact p.currents_update n edit
  | replace n source => exact p.currents_update n fun _ => source

theorem create_granted (source : Config) (p : Pool) :
    (∃ issue, ((create source).perform p).1 = .ok (some issue)) ↔ source.Valid := by
  simp only [perform, Settings.create]
  rcases Settings.resolve_spec source p.counter with ⟨hvalid, hr⟩ | ⟨hinvalid, e, hr⟩ <;>
    simp [Except.map, *]

theorem invalidate_granted {n : Nat} {p : Pool} {s : Settings} (hs : p.settings[n]? = some s) :
    (∃ issue, ((invalidate n).perform p).1 = .ok (some issue)) ↔ s.source.Valid := by
  simp only [perform, hs, Settings.invalidate]
  rcases Settings.resolve_spec s.source p.counter with ⟨hvalid, hr⟩ | ⟨hinvalid, e, hr⟩ <;>
    simp [Except.map, *]

end Call

/-! ## Runs -/

/-- The pool after calls made one after the other. -/
def performAll (calls : List Call) (p : Pool) : Pool := calls.foldl (fun p c => (c.perform p).2) p

/-- The snapshot that an answer hands out, if any. -/
def Answer.issue? : Answer → Option Issue
  | .ok issue => issue
  | .error _ => none

/-- The snapshots that calls hand out, in order. -/
def issued : List Call → Pool → List Issue
  | [], _ => []
  | c :: calls, p => (c.perform p).1.issue?.toList ++ issued calls (c.perform p).2

theorem performAll_append (before after : List Call) (p : Pool) :
    performAll (before ++ after) p = performAll after (performAll before p) :=
  List.foldl_append

theorem performAll_concat (calls : List Call) (c : Call) (p : Pool) :
    performAll (calls ++ [c]) p = (c.perform (performAll calls p)).2 :=
  performAll_append calls [c] p

theorem issued_append (before after : List Call) (p : Pool) :
    issued (before ++ after) p = issued before p ++ issued after (performAll before p) := by
  induction before generalizing p with
  | nil => rfl
  | cons c before ih => rw [List.cons_append, issued, ih, issued, List.append_assoc]; rfl

theorem issued_concat (calls : List Call) (c : Call) (p : Pool) :
    issued (calls ++ [c]) p
      = issued calls p ++ (c.perform (performAll calls p)).1.issue?.toList := by
  rw [issued_append, issued, issued, List.append_nil]

/-- Versions are numbered from one and start over after 64 bits. -/
theorem versions_issued (calls : List Call) :
    (performAll calls {}).counter.next
        = ((issued calls {}).length + 1) % 0x10000000000000000 ∧
    (issued calls {}).map (·.snapshot.version)
      = (List.range' 1 (issued calls {}).length).map (· % 0x10000000000000000) := by
  induction calls using List.reverseRecOn with
  | nil => decide
  | append_singleton calls c ih =>
    rw [performAll_concat, issued_concat]
    obtain ⟨hnext, hversions⟩ := ih
    generalize performAll calls {} = p at hnext
    generalize issued calls {} = before at hnext hversions
    have hdoes := c.perform_does p
    generalize (c.perform p).1 = answer, (c.perform p).2 = q at hdoes
    cases hdoes with
    | quiet _ counter =>
      rw [counter]
      simpa [Answer.issue?] using ⟨hnext, hversions⟩
    | refused e => simpa [Answer.issue?] using ⟨hnext, hversions⟩
    | issued n source settings =>
      constructor
      · simp only [VersionCounter.draw, hnext, Answer.issue?, Option.toList_some,
          List.length_append, List.length_singleton]
        omega
      · simp only [Answer.issue?, Option.toList_some, List.map_append, List.map_singleton,
          List.length_append, List.length_singleton, hversions, hnext]
        rw [List.range'_1_concat, List.map_append, List.map_singleton, Nat.add_comm 1]

/-- While the versions last, they rise. -/
theorem versions_increase {calls : List Call}
    (hfew : (issued calls {}).length < 0x10000000000000000) :
    ((issued calls {}).map (·.snapshot.version)).Pairwise (· < ·) := by
  have hwhole : (List.range' 1 (issued calls {}).length).map (· % 0x10000000000000000)
      = List.range' 1 (issued calls {}).length := by
    refine (List.map_congr_left fun v hv => ?_).trans (List.map_id _)
    rw [List.mem_range'_1] at hv
    exact Nat.mod_eq_of_lt (by omega)
  rw [(versions_issued calls).2, hwhole]
  exact List.pairwise_lt_range'

/-- The `n`-th settings were last given a snapshot, which is their source at that moment resolved,
and that source kept the rules. -/
def LastGiven (calls : List Call) (n : Nat) (snapshot : Snapshot) : Prop :=
  ∃ before call after, calls = before ++ call :: after ∧
    (call.perform (performAll before {})).1 = .ok (some ⟨n, snapshot⟩) ∧
    (∀ issue ∈ issued after (performAll (before ++ [call]) {}), issue.owner ≠ n) ∧
    ∃ source, (performAll (before ++ [call]) {}).sources[n]? = some source ∧ source.Valid ∧
      snapshot.config = source.resolved

namespace LastGiven

variable {calls : List Call} {n : Nat} {snapshot : Snapshot}

/-- A call that gives the settings nothing leaves it so. -/
theorem concat (h : LastGiven calls n snapshot) {c : Call}
    (hc : ∀ issue ∈ (c.perform (performAll calls {})).1.issue?, issue.owner ≠ n) :
    LastGiven (calls ++ [c]) n snapshot := by
  obtain ⟨before, call, after, rfl, hgiven, hlater, hsource⟩ := h
  refine ⟨before, call, after ++ [c], by simp, hgiven, fun issue hissue => ?_, hsource⟩
  rw [issued_concat, List.mem_append, Option.mem_toList, ← performAll_append, List.append_assoc,
    List.singleton_append] at hissue
  rcases hissue with hissue | hissue
  · exact hlater issue hissue
  · exact hc issue hissue

/-- The snapshot in effect is what the settings were last given. -/
theorem of_performAll (calls : List Call) (n : Nat) (s : Settings)
    (hs : (performAll calls {}).settings[n]? = some s) : LastGiven calls n s.current := by
  induction calls using List.reverseRecOn generalizing s with
  | nil => cases hs
  | append_singleton calls c ih =>
    have hafter := performAll_concat calls c {}
    -- A last call that gives these settings nothing leaves the moment where it was.
    have hkeeps := @LastGiven.concat calls n s.current
    rw [hafter] at hs
    have hdoes := c.perform_does (performAll calls {})
    generalize hanswer : (c.perform (performAll calls {})).1 = answer,
      hq : (c.perform (performAll calls {})).2 = q at hs hdoes hafter hkeeps
    cases hdoes with
    | quiet _ counter currents =>
      have hcurrent : (performAll calls {}).currents[n]? = some s.current := by
        rw [← currents, Pool.currents, List.getElem?_map, hs]
        rfl
      rw [Pool.currents, List.getElem?_map, Option.map_eq_some_iff] at hcurrent
      obtain ⟨s', hs', heq⟩ := hcurrent
      exact hkeeps (heq ▸ ih s' hs') (by simp [hanswer, Answer.issue?])
    | refused e => exact hkeeps (ih s hs) (by simp [hanswer, Answer.issue?])
    | issued m source settings valid owner others =>
      by_cases hm : n = m
      · subst hm
        cases hs.symm.trans owner
        refine ⟨calls, c, [], rfl, hanswer, by simp [issued], source, ?_, valid, rfl⟩
        rw [hafter, Pool.sources, List.getElem?_map, owner]
        rfl
      · rw [others n hm] at hs
        refine hkeeps (ih s hs) fun issue hissue => ?_
        rw [hanswer] at hissue
        cases hissue
        exact Ne.symm hm

theorem mem_issued (h : LastGiven calls n snapshot) :
    ∃ issue ∈ issued calls {}, issue.snapshot = snapshot := by
  obtain ⟨before, call, after, rfl, hgiven, -⟩ := h
  refine ⟨⟨n, snapshot⟩, ?_, rfl⟩
  rw [issued_append, issued, hgiven]
  simp [Answer.issue?]

end LastGiven

/-- What readers hold was handed out at some time. -/
theorem held_issued (calls : List Call) :
    ∀ x ∈ (performAll calls {}).held, ∃ issue ∈ issued calls {}, issue.snapshot = x := by
  induction calls using List.reverseRecOn with
  | nil => simp [performAll]
  | append_singleton calls c ih =>
    intro x hx
    obtain ⟨taken, htaken, hheld⟩ := (c.perform_does (performAll calls {})).held
    rw [performAll_concat, hheld, List.mem_append] at hx
    have hbefore : ∃ issue ∈ issued calls {}, issue.snapshot = x := by
      rcases hx with hx | hx
      · exact ih x hx
      · replace hx := htaken hx
        rw [Pool.currents, List.mem_map] at hx
        obtain ⟨s, hs, rfl⟩ := hx
        obtain ⟨n, hn⟩ := List.getElem?_of_mem hs
        exact (LastGiven.of_performAll calls n s hn).mem_issued
    obtain ⟨issue, hissue, rfl⟩ := hbefore
    exact ⟨issue, by rw [issued_concat]; exact List.mem_append_left _ hissue, rfl⟩

/-- Settings and their snapshots after some calls, and under the next one. -/
structure Consistent (calls : List Call) : Prop where
  /-- Every snapshot has a greater version than all before it. -/
  versions : ((issued calls {}).map (·.snapshot.version)).Pairwise (· < ·)
  current : ∀ n s, (performAll calls {}).settings[n]? = some s →
    LastGiven calls n s.current ∧ s.current.config.ExcludesGlobally
  held : ∀ x ∈ (performAll calls {}).held, ∃ issue ∈ issued calls {}, issue.snapshot = x
  created : ∀ source,
    (∃ issue, ((Call.create source).perform (performAll calls {})).1 = .ok (some issue)) ↔
      source.Valid
  invalidated : ∀ n s, (performAll calls {}).settings[n]? = some s →
    ((∃ issue, ((Call.invalidate n).perform (performAll calls {})).1 = .ok (some issue)) ↔
      s.source.Valid)
  edited : ∀ c : Call, c.Edits →
    (performAll (calls ++ [c]) {}).currents = (performAll calls {}).currents
  sources_kept : ∀ c : Call, ¬ c.Edits →
    (performAll calls {}).sources <+: (performAll (calls ++ [c]) {}).sources
  /-- A call that is refused changes nothing. -/
  refused : ∀ (c : Call) (e : ConfigError), (c.perform (performAll calls {})).1 = .error e →
    performAll (calls ++ [c]) {} = performAll calls {}
  held_kept : ∀ c : Call, (performAll calls {}).held <+: (performAll (calls ++ [c]) {}).held

/-- Snapshots along any calls on any settings, as long as the versions last. -/
theorem snapshots_consistent (calls : List Call)
    (hfew : (issued calls {}).length < 0x10000000000000000) : Consistent calls where
  versions := versions_increase hfew
  current n s hs := by
    have hlast := LastGiven.of_performAll calls n s hs
    refine ⟨hlast, ?_⟩
    obtain ⟨_, _, _, -, -, -, source, -, -, hresolved⟩ := hlast
    rw [hresolved]
    exact source.resolved_excludesGlobally
  held := held_issued calls
  created source := Call.create_granted source _
  invalidated _ _ hs := Call.invalidate_granted hs
  edited c hc := by
    rw [performAll_concat]
    exact Call.currents_of_edits hc _
  sources_kept c hc := by
    rw [performAll_concat]
    exact (c.perform_does _).sources hc
  refused c e he := by
    have hdoes := c.perform_does (performAll calls {})
    rw [he] at hdoes
    rw [performAll_concat]
    exact hdoes.eq_of_error
  held_kept c := by
    obtain ⟨taken, -, hheld⟩ := (c.perform_does (performAll calls {})).held
    rw [performAll_concat, hheld]
    exact List.prefix_append _ _

/-- Two settings; the first is spoilt, refused, mended and resolved again, while a reader holds what
was in effect before. -/
def mendedRun : List Call :=
  [.create {}, .hold 0, .update 0 fun c => { c with handler := { batch := 0 } }, .invalidate 0,
    .create { modules := [.model] }, .replace 0 { modules := [.request] }, .invalidate 0]

theorem snapshots_consistent_mended :
    (issued mendedRun {}).map (fun issue => (issue.owner, issue.snapshot.version))
        = [(0, 1), (1, 2), (0, 3)] ∧
      Consistent mendedRun := by
  have hissued : (issued mendedRun {}).map (fun issue => (issue.owner, issue.snapshot.version))
      = [(0, 1), (1, 2), (0, 3)] := by decide +kernel
  refine ⟨hissued, snapshots_consistent mendedRun ?_⟩
  have hlength := congrArg List.length hissued
  rw [List.length_map] at hlength
  rw [hlength]
  decide

end Pool

end AuditTrail
