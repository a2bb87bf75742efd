import AuditTrail.Proofs.Settings.Snapshots

/-
  One settings in use by any number of callers at once. Resolving the source again takes four parts,
  each of which happens at once: the source is read, checked, given a version, and the snapshot is
  published. Edits happen at once as well. `SharedSettings.take` takes one such part, and a list of
  parts is a run in which those of all calls come in any order. What a part can do is said once
  (`take_does`). A call by itself is such a run (`run_invalidate`, `run_invalidate_refused`).

  Beside the settings, a run keeps the sources that were edited away, and the edition (the number of
  edits before it) of every source that was read; these are the editions of the sources that
  snapshots were resolved from (`Traced.run`).
-/
namespace AuditTrail

theorem getElem?_append_of_some {α : Type} {as : List α} {n : Nat} {a : α} (h : as[n]? = some a)
    (bs : List α) : (as ++ bs)[n]? = some a := by
  obtain ⟨hn, -⟩ := List.getElem?_eq_some_iff.mp h
  rw [List.getElem?_append_left hn, h]

/-- How far a caller has come with resolving the source again. The edition is that of the source
that was read. -/
inductive Resolving where
  | idle
  | read (edition : Nat) (source : Config)
  | checked (edition : Nat) (source : Config)
  | drawn (edition : Nat) (snapshot : Snapshot)
  | returned (edition : Nat) (snapshot : Snapshot)
  | refused (edition : Nat) (error : ConfigError)

namespace Resolving

/-- The edition of the source that was read. -/
def edition? : Resolving → Option Nat
  | .idle => none
  | .read edition _ | .checked edition _ | .drawn edition _ | .returned edition _
  | .refused edition _ => some edition

/-- The version that was drawn. -/
def version? : Resolving → Option Nat
  | .drawn _ snapshot | .returned _ snapshot => some snapshot.version
  | _ => none

/-- The call has returned a snapshot. -/
def Returned (c : Resolving) : Prop := ∃ edition snapshot, c = .returned edition snapshot

theorem not_returned_idle : ¬ idle.Returned := by
  rintro ⟨_, _, h⟩
  cases h

/-- What a call has was made from the source of its edition. -/
def TracedTo (sources : List Config) : Resolving → Prop
  | .idle => True
  | .read edition source | .checked edition source => sources[edition]? = some source
  | .drawn edition snapshot | .returned edition snapshot =>
    ∃ source, sources[edition]? = some source ∧ snapshot.config = source.resolved
  | .refused edition _ => ∃ source, sources[edition]? = some source ∧ ¬ source.Valid

theorem TracedTo.append {c : Resolving} {sources : List Config} (h : c.TracedTo sources)
    (later : List Config) : c.TracedTo (sources ++ later) := by
  cases c with
  | idle => trivial
  | read | checked => exact getElem?_append_of_some h later
  | drawn | returned | refused =>
    obtain ⟨source, hsource, h⟩ := h
    exact ⟨source, getElem?_append_of_some hsource later, h⟩

end Resolving

/-- What happens at once to settings that are in use by several callers. Callers have numbers. -/
inductive SharedSettings.Part where
  | update (edit : Config → Config)
  | replace (source : Config)
  /-- Other settings draw a version from the counter. -/
  | elsewhere
  | read (n : Nat)
  | check (n : Nat)
  | draw (n : Nat)
  | publish (n : Nat)

namespace SharedSettings.Part

/-- The part edits the source. -/
def edits : Part → Bool
  | .update _ | .replace _ => true
  | _ => false

/-- The part draws a version. -/
def draws : Part → Bool
  | .elsewhere | .draw _ => true
  | _ => false

theorem not_draws {a : SharedSettings.Part} (h : a.edits = true) : a.draws = false := by
  cases a with
  | update | replace => rfl
  | _ => cases h

end SharedSettings.Part

/-- Settings in use by several callers, each of which resolves the source at most once. -/
structure SharedSettings where
  settings : Settings
  counter : VersionCounter
  /-- The sources that were edited away, in order. -/
  past : List Config := []
  /-- The edition of the source that the snapshot in effect was resolved from. -/
  basis : Nat := 0
  calls : Nat → Resolving := fun _ => .idle

namespace SharedSettings

/-- The edition of the present source. -/
def edition (x : SharedSettings) : Nat := x.past.length

/-- Edits the source. -/
def edit (edit : Config → Config) (x : SharedSettings) : SharedSettings :=
  { x with settings := x.settings.update edit, past := x.past ++ [x.settings.source] }

/-- A caller gets on. -/
def advance (n : Nat) (c : Resolving) (x : SharedSettings) : SharedSettings :=
  { x with calls := Function.update x.calls n c }

/-- Takes one part, if the caller has come to it. -/
def take (x : SharedSettings) : Part → Option SharedSettings
  | .update edit => some (x.edit edit)
  | .replace source => some (x.edit fun _ => source)
  | .elsewhere => some { x with counter := x.counter.draw.2 }
  | .read n =>
    match x.calls n with
    | .idle => some (x.advance n (.read x.edition x.settings.source))
    | _ => none
  | .check n =>
    match x.calls n with
    | .read edition source =>
      match source.broken? with
      | none => some (x.advance n (.checked edition source))
      | some rule => some (x.advance n (.refused edition (.invalid rule)))
    | _ => none
  | .draw n =>
    match x.calls n with
    | .checked edition source =>
      let (version, counter) := x.counter.draw
      some { x.advance n (.drawn edition ⟨version, source.resolved⟩) with counter := counter }
    | _ => none
  | .publish n =>
    match x.calls n with
    | .drawn edition snapshot =>
      some { x.advance n (.returned edition snapshot) with
        settings := { x.settings with current := snapshot }
        basis := edition }
    | _ => none

/-- Takes parts in the order given, if the callers come to each of them. -/
def run (parts : List Part) (x : SharedSettings) : Option SharedSettings := parts.foldlM take x

theorem run_append (before after : List Part) (x : SharedSettings) :
    x.run (before ++ after) = (x.run before).bind fun y => y.run after :=
  List.foldlM_append

theorem run_nil (x : SharedSettings) : x.run [] = some x := rfl

theorem run_cons (a : Part) (parts : List Part) (x : SharedSettings) :
    x.run (a :: parts) = (x.take a).bind fun y => y.run parts :=
  List.foldlM_cons

theorem run_concat {parts : List Part} {a : Part} {x z : SharedSettings} :
    x.run (parts ++ [a]) = some z ↔ ∃ y, x.run parts = some y ∧ y.take a = some z := by
  rw [run_append, Option.bind_eq_some_iff]
  refine exists_congr fun y => and_congr_right fun _ => ?_
  rw [run_cons, Option.bind_eq_some_iff]
  exact ⟨fun ⟨_, htake, hrun⟩ => Option.some.inj hrun ▸ htake, fun htake => ⟨z, htake, rfl⟩⟩

/-! ## What a part does -/

/-- What a part does to settings in use. -/
inductive Does (x : SharedSettings) : Part → SharedSettings → Prop where
  | edits (a : Part) (source : Config) (ha : a.edits = true) :
      Does x a { x with
        settings := { x.settings with source := source }
        past := x.past ++ [x.settings.source] }
  | elsewhere : Does x .elsewhere { x with counter := x.counter.draw.2 }
  | reads (n : Nat) (h : x.calls n = .idle) :
      Does x (.read n) (x.advance n (.read x.edition x.settings.source))
  | passes (n edition : Nat) (source : Config) (h : x.calls n = .read edition source)
      (valid : source.Valid) : Does x (.check n) (x.advance n (.checked edition source))
  | fails (n edition : Nat) (source : Config) (e : ConfigError)
      (h : x.calls n = .read edition source) (invalid : ¬ source.Valid) :
      Does x (.check n) (x.advance n (.refused edition e))
  | draws (n edition : Nat) (source : Config) (h : x.calls n = .checked edition source) :
      Does x (.draw n) { x.advance n (.drawn edition ⟨x.counter.next, source.resolved⟩) with
        counter := x.counter.draw.2 }
  | publishes (n edition : Nat) (snapshot : Snapshot) (h : x.calls n = .drawn edition snapshot) :
      Does x (.publish n) { x.advance n (.returned edition snapshot) with
        settings := { x.settings with current := snapshot }
        basis := edition }

theorem take_does {x y : SharedSettings} {a : Part} (h : x.take a = some y) : Does x a y := by
  cases a with
  | update edit =>
    cases h
    exact .edits (.update edit) (edit x.settings.source) rfl
  | replace source =>
    cases h
    exact .edits (.replace source) source rfl
  | elsewhere =>
    cases h
    exact .elsewhere
  | read n =>
    rw [take] at h
    split at h
    next hidle =>
      cases h
      exact .reads n hidle
    next => cases h
  | check n =>
    rw [take] at h
    split at h
    next edition source hread =>
      split at h
      next hvalid =>
        cases h
        exact .passes n edition source hread (source.broken?_eq_none_iff.mp hvalid)
      next rule hrule =>
        cases h
        refine .fails n edition source _ hread fun hvalid => ?_
        rw [source.broken?_eq_none_iff.mpr hvalid] at hrule
        cases hrule
    next => cases h
  | draw n =>
    rw [take] at h
    split at h
    next edition source hchecked =>
      cases h
      exact .draws n edition source hchecked
    next => cases h
  | publish n =>
    rw [take] at h
    split at h
    next edition snapshot hdrawn =>
      cases h
      exact .publishes n edition snapshot hdrawn
    next => cases h

theorem calls_advance (n : Nat) (c : Resolving) (x : SharedSettings) (m : Nat) :
    (x.advance n c).calls m = if m = n then c else x.calls m := Function.update_apply _ _ _ _

/-- A call returns when its snapshot is published. -/
theorem returned_take {x y : SharedSettings} {a : Part} (h : x.take a = some y) (n : Nat) :
    (y.calls n).Returned ↔ (x.calls n).Returned ∨ a = .publish n := by
  cases take_does h with
  | edits a source ha => grind [Part.edits]
  | elsewhere => grind
  | reads | passes | fails | draws | publishes =>
    grind [calls_advance, advance, Resolving.Returned]

theorem returned_iff {x₀ x : SharedSettings} {parts : List Part}
    (hidle : ∀ n, x₀.calls n = .idle) (h : x₀.run parts = some x) (n : Nat) :
    (x.calls n).Returned ↔ .publish n ∈ parts := by
  induction parts using List.reverseRecOn generalizing x with
  | nil =>
    cases h
    rw [hidle]
    exact iff_of_false Resolving.not_returned_idle List.not_mem_nil
  | append_singleton parts a ih =>
    obtain ⟨w, hw, ha⟩ := run_concat.mp h
    rw [returned_take ha, ih hw, List.mem_append, List.mem_singleton]
    exact or_congr_right eq_comm

/-! ## One call -/

/-- A call by itself is one resolution of the source. -/
theorem run_invalidate {x : SharedSettings} {n : Nat} (hidle : x.calls n = .idle) {s : Settings}
    {k : VersionCounter} (h : x.settings.invalidate x.counter = .ok (s, k)) :
    (x.run [.read n, .check n, .draw n, .publish n]).map
        (fun y => (y.settings, y.counter, y.calls n)) =
      some (s, k, .returned x.edition s.current) := by
  rw [Settings.invalidate, Settings.resolve] at h
  cases hrule : x.settings.source.broken? with
  | some rule =>
    rw [hrule] at h
    cases h
  | none =>
    rw [hrule] at h
    cases h
    simp only [run_cons, take, hidle, hrule, advance, Function.update_self, Option.bind_some,
      run_nil, Option.map_some, VersionCounter.draw]

/-- A call by itself that is refused changes nothing. -/
theorem run_invalidate_refused {x : SharedSettings} {n : Nat} (hidle : x.calls n = .idle)
    {e : ConfigError} (h : x.settings.invalidate x.counter = .error e) :
    (x.run [.read n, .check n]).map (fun y => (y.settings, y.counter, y.calls n)) =
      some (x.settings, x.counter, .refused x.edition e) := by
  rw [Settings.invalidate, Settings.resolve] at h
  cases hrule : x.settings.source.broken? with
  | some rule =>
    rw [hrule] at h
    cases h
    simp only [run_cons, take, hidle, hrule, advance, Function.update_self, Option.bind_some,
      run_nil, Option.map_some]
  | none =>
    rw [hrule] at h
    cases h

/-! ## Editions -/

/-- All sources so far, in order. -/
def sources (x : SharedSettings) : List Config := x.past ++ [x.settings.source]

/-- The snapshot in effect and those of all calls were resolved from the sources of the editions
that they go by. -/
structure Traced (x : SharedSettings) : Prop where
  current : ∃ source, x.sources[x.basis]? = some source ∧
    x.settings.current.config = source.resolved
  calls : ∀ n, (x.calls n).TracedTo x.sources

theorem Traced.advance {x : SharedSettings} (hx : x.Traced) {n : Nat} {c : Resolving}
    (hc : c.TracedTo x.sources) : (x.advance n c).Traced := by
  refine ⟨hx.current, fun m => ?_⟩
  rw [calls_advance]
  by_cases hm : m = n
  · rw [if_pos hm]
    exact hc
  · rw [if_neg hm]
    exact hx.calls m

theorem Traced.call {x : SharedSettings} (hx : x.Traced) {n : Nat} {c : Resolving}
    (h : x.calls n = c) : c.TracedTo x.sources := h ▸ hx.calls n

theorem Traced.take {x y : SharedSettings} {a : Part} (hx : x.Traced) (h : x.take a = some y) :
    y.Traced := by
  cases take_does h with
  | edits a source =>
    obtain ⟨old, hold, hcurrent⟩ := hx.current
    exact ⟨⟨old, getElem?_append_of_some hold _, hcurrent⟩, fun n => (hx.calls n).append _⟩
  | elsewhere => exact ⟨hx.current, hx.calls⟩
  | reads n => exact hx.advance List.getElem?_concat_length
  | passes n e source hread =>
    have hsource : x.sources[e]? = some source := hx.call hread
    exact hx.advance hsource
  | fails n e source error hread hinvalid => exact hx.advance ⟨source, hx.call hread, hinvalid⟩
  | draws n e source hchecked =>
    have hdrawn : (Resolving.drawn e ⟨x.counter.next, source.resolved⟩).TracedTo x.sources :=
      ⟨source, hx.call hchecked, rfl⟩
    exact ⟨hx.current, (hx.advance hdrawn).calls⟩
  | publishes n e snapshot hdrawn =>
    have hsnapshot : (Resolving.drawn e snapshot).TracedTo x.sources := hx.call hdrawn
    have hreturned : (Resolving.returned e snapshot).TracedTo x.sources := hsnapshot
    exact ⟨hsnapshot, (hx.advance hreturned).calls⟩

theorem Traced.run {x y : SharedSettings} {parts : List Part} (hx : x.Traced)
    (h : x.run parts = some y) : y.Traced := by
  induction parts generalizing x with
  | nil =>
    cases h
    exact hx
  | cons a parts ih =>
    rw [run_cons, Option.bind_eq_some_iff] at h
    obtain ⟨w, ha, hw⟩ := h
    exact ih (hx.take ha) hw

theorem traced_create {source : Config} {k k' : VersionCounter} {s : Settings}
    (h : Settings.create source k = .ok (s, k')) :
    Traced { settings := s, counter := k' } := by
  rw [Settings.create] at h
  rcases Settings.resolve_spec source k with ⟨-, hr⟩ | ⟨-, e, hr⟩
  · rw [hr] at h
    cases h
    exact ⟨⟨source, rfl, rfl⟩, fun _ => trivial⟩
  · rw [hr] at h
    cases h

end SharedSettings

end AuditTrail
