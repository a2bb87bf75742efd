import AuditTrail.Proofs.Settings.Interleaving

/-
  Whether the configuration in effect can go back when several callers resolve it again at once.
  Nothing ties the order in which calls publish to the order in which they read and drew.

  Versions and editions are both marks that a call is given in passing (`Mark`), and one argument
  does for both. How many moves there were before a call was given its mark tells which one it is
  (`Mark.given_iff`), so the greater mark belongs to the call that was given its own later
  (`Mark.lt_iff`). The mark in effect is the greatest of all that were published as long as no call
  publishes after another one with a greater mark (`Mark.tops_iff`). So the configuration goes back
  exactly if a call is overtaken (`never_goes_back_iff`), and that happens (`lost_edit`). It would
  not if calls kept each other out from reading to publishing (`not_overtaken_of_apart`).
-/
namespace AuditTrail

open scoped List

theorem pair_sublist_concat {α : Type} {a b c : α} {as : List α} :
    [b, c] <+ as ++ [a] ↔ [b, c] <+ as ∨ b ∈ as ∧ c = a := by
  rw [List.sublist_append_iff]
  constructor
  · rintro ⟨l, l', hjoined, hl, hl'⟩
    rcases List.sublist_singleton.mp hl' with rfl | rfl
    · rw [List.append_nil] at hjoined
      exact .inl (hjoined ▸ hl)
    · have hsplit : [b] ++ [c] = l ++ [a] := hjoined
      obtain ⟨rfl, hlast⟩ := List.append_inj' hsplit rfl
      exact .inr ⟨List.singleton_sublist.mp hl, (List.cons_eq_cons.mp hlast).1⟩
  · rintro (hpair | ⟨hb, rfl⟩)
    · exact ⟨[b, c], [], rfl, hpair, List.nil_sublist _⟩
    · exact ⟨[b], [c], rfl, List.singleton_sublist.mpr hb, List.Sublist.refl _⟩

theorem cons_sublist_iff_append {α : Type} {a : α} {l as : List α} :
    a :: l <+ as ↔ ∃ before after, as = before ++ a :: after ∧ l <+ after := by
  rw [List.cons_sublist_iff]
  constructor
  · rintro ⟨front, rest, rfl, ha, hl⟩
    obtain ⟨before, between, rfl⟩ := List.append_of_mem ha
    exact ⟨before, between ++ rest, by simp, hl.trans (List.sublist_append_right _ _)⟩
  · rintro ⟨before, after, rfl, hl⟩
    exact ⟨before ++ [a], after, by simp, by simp, hl⟩

theorem pair_sublist_append {α : Type} {b c : α} {as as' : List α} (hb : b ∈ as) (hc : c ∈ as') :
    [b, c] <+ as ++ as' :=
  (List.singleton_sublist.mpr hb).append (List.singleton_sublist.mpr hc)

/-- Two members stand in one order or the other. -/
theorem pair_sublist_of_mem {α : Type} {b c : α} {as : List α} (hb : b ∈ as) (hc : c ∈ as)
    (hne : b ≠ c) : [b, c] <+ as ∨ [c, b] <+ as := by
  obtain ⟨before, after, rfl⟩ := List.append_of_mem hb
  rcases List.mem_append.mp hc with hc | hc
  · exact .inr (pair_sublist_append hc List.mem_cons_self)
  · have hafter := (List.mem_cons.mp hc).resolve_left hne.symm
    have hsplit : before ++ b :: after = (before ++ [b]) ++ after := by simp
    rw [hsplit]
    exact .inl (pair_sublist_append (List.mem_append_right _ (List.mem_singleton_self b)) hafter)

/-- If the first of two does not stand before some place, both stand behind it. -/
theorem pair_sublist_of_not_mem {α : Type} {b c : α} {as as' : List α} (h : [b, c] <+ as ++ as')
    (hb : b ∉ as) : [b, c] <+ as' := by
  obtain ⟨l, l', hjoined, hl, hl'⟩ := List.sublist_append_iff.mp h
  cases l with
  | nil => exact hjoined ▸ hl'
  | cons d l =>
    obtain ⟨rfl, -⟩ := List.cons_eq_cons.mp hjoined
    exact absurd (hl.mem List.mem_cons_self) hb

/-- The counter after some draws. -/
def VersionCounter.drawn (c : VersionCounter) : Nat → VersionCounter
  | 0 => c
  | j + 1 => (c.drawn j).draw.2

/-- Versions are counted on, as long as they last. -/
theorem VersionCounter.next_drawn {c : VersionCounter} {j : Nat}
    (h : c.next + j < 0x10000000000000000) : (c.drawn j).next = c.next + j := by
  induction j with
  | zero => rfl
  | succ j ih =>
    have hj := ih (by omega)
    show ((c.drawn j).next + 1) % 0x10000000000000000 = _
    omega

namespace SharedSettings

/-! ## Marks -/

/-- What a part does to the marks of one kind. -/
structure Follows (part : Nat → Part) (moves : Part → Bool) (of? : Resolving → Option Nat)
    (next inEffect : SharedSettings → Nat) (x : SharedSettings) (a : Part) (y : SharedSettings) :
    Prop where
  given : ∀ n, a = part n → of? (x.calls n) = none ∧ of? (y.calls n) = some (next x)
  kept : ∀ n, a ≠ part n → of? (y.calls n) = of? (x.calls n)
  still : moves a = false → next y = next x
  published : ∀ n, a = .publish n → of? (x.calls n) = some (inEffect y)
  unpublished : (∀ n, a ≠ .publish n) → inEffect y = inEffect x

/-- A number that every call is given in passing, and that the snapshot in effect has from the call
that published it. -/
structure Mark (x₀ : SharedSettings) where
  /-- The part in which the mark is given. -/
  part : Nat → Part
  /-- The parts that make the next mark another one. -/
  moves : Part → Bool
  of? : Resolving → Option Nat
  next : SharedSettings → Nat
  inEffect : SharedSettings → Nat
  /-- The marks in order. -/
  number : Nat → Nat
  start : next x₀ = number 0
  unmarked : of? .idle = none
  follows : ∀ {x y : SharedSettings} {a : Part}, x.take a = some y →
    Follows part moves of? next inEffect x a y
  moved : ∀ {x y : SharedSettings} {a : Part}, x.take a = some y → moves a = true →
    ∀ j, next x = number j → next y = number (j + 1)

variable {x y : SharedSettings} {a : Part}

theorem editions_follow (h : x.take a = some y) :
    Follows .read Part.edits Resolving.edition? edition (·.basis) x a y := by
  cases take_does h with
  | edits a source ha => constructor <;> grind [Part.edits]
  | elsewhere => constructor <;> grind [edition]
  | reads | passes | fails | draws | publishes =>
    constructor <;> grind [calls_advance, advance, edition, Resolving.edition?]

theorem edition_take (h : x.take a = some y) (ha : a.edits = true) :
    y.edition = x.edition + 1 := by
  cases take_does h with
  | edits a source => exact List.length_append
  | _ => cases ha

theorem versions_follow (h : x.take a = some y) :
    Follows .draw Part.draws Resolving.version? (·.counter.next) (·.settings.current.version)
      x a y := by
  cases take_does h with
  | edits a source ha => constructor <;> grind [Part.edits]
  | elsewhere => constructor <;> grind [Part.draws]
  | reads | passes | fails | draws | publishes =>
    constructor <;> grind [calls_advance, advance, Part.draws, Resolving.version?]

theorem counter_take (h : x.take a = some y) (ha : a.draws = true) :
    y.counter = x.counter.draw.2 := by
  cases take_does h with
  | edits a source hedits =>
    rw [Part.not_draws hedits] at ha
    cases ha
  | elsewhere | draws => rfl
  | _ => cases ha

/-- The editions of the sources that are read. -/
def editions (x₀ : SharedSettings) : Mark x₀ where
  part := .read
  moves := Part.edits
  of? := Resolving.edition?
  next := edition
  inEffect := (·.basis)
  number j := x₀.edition + j
  start := rfl
  unmarked := rfl
  follows := editions_follow
  moved h ha _ hj := (edition_take h ha).trans (congrArg (· + 1) hj)

/-- The versions that are drawn. -/
def versions (x₀ : SharedSettings) : Mark x₀ where
  part := .draw
  moves := Part.draws
  of? := Resolving.version?
  next := (·.counter.next)
  inEffect := (·.settings.current.version)
  number j := (x₀.counter.drawn j).next
  start := rfl
  unmarked := rfl
  follows := versions_follow
  moved h ha _ hj :=
    (congrArg (·.next) (counter_take h ha)).trans
      (congrArg (fun v => (v + 1) % 0x10000000000000000) hj)

namespace Mark

variable {x₀ : SharedSettings} (M : Mark x₀) {parts : List Part}

/-- A mark that was given stays. -/
theorem of?_take (h : x.take a = some y) {n t : Nat} (ht : M.of? (x.calls n) = some t) :
    M.of? (y.calls n) = some t := by
  rw [(M.follows h).kept n fun ha => ?_]
  · exact ht
  · rw [((M.follows h).given n ha).1] at ht
    cases ht

theorem of?_run (h : x.run parts = some y) {n t : Nat} (ht : M.of? (x.calls n) = some t) :
    M.of? (y.calls n) = some t := by
  induction parts generalizing x with
  | nil =>
    cases h
    exact ht
  | cons a parts ih =>
    rw [run_cons, Option.bind_eq_some_iff] at h
    obtain ⟨w, htake, hrun⟩ := h
    exact ih hrun (M.of?_take htake ht)

/-- How many moves there were tells which mark is the next. -/
theorem next_run (h : x₀.run parts = some x) : M.next x = M.number (parts.countP M.moves) := by
  induction parts using List.reverseRecOn generalizing x with
  | nil =>
    cases h
    exact M.start
  | append_singleton parts a ih =>
    obtain ⟨w, hw, ha⟩ := run_concat.mp h
    rw [List.countP_append, List.countP_singleton]
    cases hmoves : M.moves a with
    | true => exact M.moved ha hmoves _ (ih hw)
    | false => exact ((M.follows ha).still hmoves).trans (ih hw)

/-- A call has the mark that was the next when it came to the part in which it is given. -/
theorem given_iff (hidle : ∀ n, x₀.calls n = .idle) (h : x₀.run parts = some x) (n t : Nat) :
    M.of? (x.calls n) = some t ↔ ∃ before after, parts = before ++ M.part n :: after ∧
      t = M.number (before.countP M.moves) := by
  induction parts using List.reverseRecOn generalizing x with
  | nil =>
    cases h
    rw [hidle, M.unmarked]
    constructor
    · exact nofun
    · rintro ⟨before, after, hparts, -⟩
      simp at hparts
  | append_singleton parts a ih =>
    obtain ⟨w, hw, ha⟩ := run_concat.mp h
    have hgiven : a = M.part n → M.of? (x.calls n) = some (M.number (parts.countP M.moves)) := by
      intro hn
      rw [((M.follows ha).given n hn).2, M.next_run hw]
    constructor
    · intro ht
      by_cases hn : a = M.part n
      · rw [hgiven hn, Option.some.injEq] at ht
        exact ⟨parts, [], by rw [hn], ht.symm⟩
      · rw [(M.follows ha).kept n hn, ih hw] at ht
        obtain ⟨before, after, rfl, rfl⟩ := ht
        exact ⟨before, after ++ [a], by simp, rfl⟩
    · rintro ⟨before, after, hparts, rfl⟩
      rcases after.eq_nil_or_concat with rfl | ⟨after, b, rfl⟩
      · obtain ⟨rfl, hlast⟩ := List.append_inj' hparts rfl
        exact hgiven (List.cons_eq_cons.mp hlast).1
      · rw [List.concat_eq_append, ← List.cons_append, ← List.append_assoc] at hparts
        obtain ⟨rfl, -⟩ := List.append_inj' hparts rfl
        exact M.of?_take ha ((ih hw).mpr ⟨before, after, rfl, rfl⟩)

/-- The marks given along a run rise. -/
def Rises (parts : List Part) : Prop :=
  ∀ before n after, parts = before ++ M.part n :: after →
    ∀ i < before.countP M.moves, M.number i < M.number (before.countP M.moves)

/-- A call is given its mark before another one, with a move in between. -/
def Precedes (n m : Nat) (parts : List Part) : Prop :=
  ∃ before between after, parts = before ++ M.part n :: (between ++ M.part m :: after) ∧
    ∃ b ∈ M.part n :: between, M.moves b = true

/-- Of two marks, the greater is the one given later. -/
theorem lt_iff (hidle : ∀ n, x₀.calls n = .idle) (h : x₀.run parts = some x)
    (hrises : M.Rises parts) {n m t t' : Nat} (ht : M.of? (x.calls n) = some t)
    (ht' : M.of? (x.calls m) = some t') :
    t < t' ↔ M.Precedes n m parts := by
  have hmarks := M.given_iff hidle h
  constructor
  · intro hlt
    obtain ⟨before, after, hparts, rfl⟩ := (hmarks n t).mp ht
    obtain ⟨before', after', hparts', rfl⟩ := (hmarks m t').mp ht'
    have hjoined := hparts.symm.trans hparts'
    rcases List.append_eq_append_iff.mp hjoined with ⟨l, rfl, hl⟩ | ⟨l, rfl, hl⟩
    · cases l with
      | nil =>
        rw [List.append_nil] at hlt
        exact absurd hlt (Nat.lt_irrefl _)
      | cons b between =>
        obtain ⟨rfl, rfl⟩ := List.cons_eq_cons.mp hl
        refine ⟨before, between, after', hparts, ?_⟩
        by_contra hnone
        have hstill : (M.part n :: between).countP M.moves = 0 := by
          rw [List.countP_eq_zero]
          exact fun b hb hmoves => hnone ⟨b, hb, hmoves⟩
        rw [List.countP_append, hstill] at hlt
        exact absurd hlt (Nat.lt_irrefl _)
    · rw [List.countP_append] at hlt
      have hle : M.number (before'.countP M.moves) ≤
          M.number (before'.countP M.moves + l.countP M.moves) := by
        rcases Nat.eq_zero_or_pos (l.countP M.moves) with hzero | hpos
        · rw [hzero]
          exact Nat.le_refl _
        · have hrise := hrises _ n after hparts (before'.countP M.moves)
          rw [List.countP_append] at hrise
          exact Nat.le_of_lt (hrise (by omega))
      omega
  · rintro ⟨before, between, after, rfl, b, hb, hmoves⟩
    have hn := (hmarks n _).mpr ⟨before, _, rfl, rfl⟩
    have hm := (hmarks m (M.number ((before ++ M.part n :: between).countP M.moves))).mpr
      ⟨before ++ M.part n :: between, after, by simp, rfl⟩
    cases ht.symm.trans hn
    cases ht'.symm.trans hm
    refine hrises _ m after (by simp) _ ?_
    have hmoved : 0 < (M.part n :: between).countP M.moves :=
      List.countP_pos_iff.mpr ⟨b, hb, hmoves⟩
    rw [List.countP_append]
    omega

/-! ### Publications -/

/-- The snapshot in effect has the greatest mark of all that were published. -/
def Tops (x : SharedSettings) : Prop :=
  ∀ n t, (x.calls n).Returned → M.of? (x.calls n) = some t → t ≤ M.inEffect x

/-- What was published was marked. -/
theorem marked_of_returned (hidle : ∀ n, x₀.calls n = .idle) (h : x₀.run parts = some x) {n : Nat}
    (hn : (x.calls n).Returned) : ∃ t, M.of? (x.calls n) = some t := by
  induction parts using List.reverseRecOn generalizing x with
  | nil =>
    cases h
    rw [hidle] at hn
    exact absurd hn Resolving.not_returned_idle
  | append_singleton parts a ih =>
    obtain ⟨w, hw, ha⟩ := run_concat.mp h
    rcases (returned_take ha n).mp hn with hn | rfl
    · obtain ⟨t, ht⟩ := ih hw hn
      exact ⟨t, M.of?_take ha ht⟩
    · exact ⟨_, M.of?_take ha ((M.follows ha).published n rfl)⟩

/-- The mark in effect is that of a call which has returned, unless none has. -/
theorem inEffect_cases (h : x₀.run parts = some x) : M.inEffect x = M.inEffect x₀ ∨
    ∃ n, (x.calls n).Returned ∧ M.of? (x.calls n) = some (M.inEffect x) := by
  induction parts using List.reverseRecOn generalizing x with
  | nil =>
    cases h
    exact .inl rfl
  | append_singleton parts a ih =>
    obtain ⟨w, hw, ha⟩ := run_concat.mp h
    by_cases hpublish : ∃ n, a = .publish n
    · obtain ⟨n, rfl⟩ := hpublish
      exact .inr ⟨n, (returned_take ha n).mpr (.inr rfl),
        M.of?_take ha ((M.follows ha).published n rfl)⟩
    · rw [(M.follows ha).unpublished fun n hn => hpublish ⟨n, hn⟩]
      rcases ih hw with hsame | ⟨n, hn, ht⟩
      · exact .inl hsame
      · exact .inr ⟨n, (returned_take ha n).mpr (.inl hn), M.of?_take ha ht⟩

/-- The greatest mark is in effect all along a run. -/
def TopsAlong (parts : List Part) : Prop :=
  ∀ before w, before <+: parts → x₀.run before = some w → M.Tops w

theorem topsAlong_concat (h : x₀.run (parts ++ [a]) = some x) :
    M.TopsAlong (parts ++ [a]) ↔ M.TopsAlong parts ∧ M.Tops x := by
  constructor
  · intro htops
    exact ⟨fun before v hbefore => htops before v (hbefore.trans (List.prefix_append _ _)),
      htops _ x List.prefix_rfl h⟩
  · rintro ⟨htops, hx⟩ before v hbefore hv
    rcases List.prefix_concat_iff.mp hbefore with rfl | hbefore
    · cases h.symm.trans hv
      exact hx
    · exact htops before v hbefore hv

/-- A call that has returned keeps the mark that it has. -/
theorem of?_take_returned (hidle : ∀ n, x₀.calls n = .idle) (h : x₀.run parts = some x)
    (ha : x.take a = some y) {n t : Nat} (hn : (x.calls n).Returned)
    (ht : M.of? (y.calls n) = some t) : M.of? (x.calls n) = some t := by
  obtain ⟨t', ht'⟩ := M.marked_of_returned hidle h hn
  rw [← ht, M.of?_take ha ht', ht']

/-- A publication puts the greatest mark in effect if none that was published before is greater. -/
theorem tops_publish (hidle : ∀ n, x₀.calls n = .idle) (h : x₀.run parts = some x) {n : Nat}
    (ha : x.take (.publish n) = some y) : M.Tops y ↔
      ∀ m t, (x.calls m).Returned → M.of? (x.calls m) = some t → t ≤ M.inEffect y := by
  constructor
  · intro hy m t hm ht
    exact hy m t ((returned_take ha m).mpr (.inl hm)) (M.of?_take ha ht)
  · intro hx m t hm ht
    rcases (returned_take ha m).mp hm with hm | hsame
    · exact hx m t hm (M.of?_take_returned hidle h ha hm ht)
    · cases hsame
      have hmark := M.of?_take ha ((M.follows ha).published n rfl)
      exact Nat.le_of_eq (Option.some.inj (ht.symm.trans hmark))

/-- Other parts leave it as it was. -/
theorem tops_unpublished (hidle : ∀ n, x₀.calls n = .idle) (h : x₀.run parts = some x)
    (ha : x.take a = some y) (hquiet : ∀ n, a ≠ .publish n) (hx : M.Tops x) : M.Tops y := by
  intro n t hn ht
  have hn' := ((returned_take ha n).mp hn).resolve_right (hquiet n)
  rw [(M.follows ha).unpublished hquiet]
  exact hx n t hn' (M.of?_take_returned hidle h ha hn' ht)

/-- The greatest mark is in effect all along a run exactly if marks are published in their order. -/
theorem tops_iff (hidle : ∀ n, x₀.calls n = .idle) (h : x₀.run parts = some x) :
    M.TopsAlong parts ↔ ∀ n m t t', [.publish m, .publish n] <+ parts →
      M.of? (x.calls n) = some t → M.of? (x.calls m) = some t' → t' ≤ t := by
  induction parts using List.reverseRecOn generalizing x with
  | nil =>
    cases h
    constructor
    · intro _ n m t t' hparts
      cases hparts
    · intro _ before w hbefore hw n t hn
      obtain rfl := List.prefix_nil.mp hbefore
      cases hw
      rw [hidle] at hn
      exact absurd hn Resolving.not_returned_idle
  | append_singleton parts a ih =>
    obtain ⟨w, hw, ha⟩ := run_concat.mp h
    have hreturned : ∀ n, .publish n ∈ parts → (w.calls n).Returned :=
      fun n => (returned_iff hidle hw n).mpr
    rw [M.topsAlong_concat h, ih hw]
    constructor
    · rintro ⟨hordered, hx⟩ n m t t' hparts ht ht'
      rcases pair_sublist_concat.mp hparts with hparts | ⟨hm, rfl⟩
      · have hn := hreturned n (hparts.mem (by simp))
        have hm := hreturned m (hparts.mem (by simp))
        exact hordered n m t t' hparts (M.of?_take_returned hidle hw ha hn ht)
          (M.of?_take_returned hidle hw ha hm ht')
      · have hn := M.of?_take ha ((M.follows ha).published n rfl)
        rw [Option.some.inj (ht.symm.trans hn)]
        exact hx m t' ((returned_take ha m).mpr (.inl (hreturned m hm))) ht'
    · intro hordered
      have hbefore : ∀ n m t t', [.publish m, .publish n] <+ parts →
          M.of? (w.calls n) = some t → M.of? (w.calls m) = some t' → t' ≤ t :=
        fun n m t t' hparts ht ht' => hordered n m t t' (pair_sublist_concat.mpr (.inl hparts))
          (M.of?_take ha ht) (M.of?_take ha ht')
      refine ⟨hbefore, ?_⟩
      by_cases hpublish : ∃ k, a = .publish k
      · obtain ⟨k, rfl⟩ := hpublish
        rw [M.tops_publish hidle hw ha]
        intro m t hm ht
        have hpair : [.publish m, .publish k] <+ parts ++ [.publish k] :=
          pair_sublist_concat.mpr (.inr ⟨(returned_iff hidle hw m).mp hm, rfl⟩)
        exact hordered k m _ t hpair (M.of?_take ha ((M.follows ha).published k rfl))
          (M.of?_take ha ht)
      · exact M.tops_unpublished hidle hw ha (fun n hn => hpublish ⟨n, hn⟩)
          ((ih hw).mpr hbefore parts w List.prefix_rfl hw)

/-- The greatest mark is in effect all along a run exactly if no call publishes after another one
that was given its mark later. -/
theorem tops_iff_not_precedes (hidle : ∀ n, x₀.calls n = .idle) (h : x₀.run parts = some x)
    (hrises : M.Rises parts) : M.TopsAlong parts ↔
      ∀ n m, [.publish m, .publish n] <+ parts → ¬ M.Precedes n m parts := by
  rw [M.tops_iff hidle h]
  constructor
  · intro hordered n m hparts hprecedes
    obtain ⟨t, ht⟩ := M.marked_of_returned hidle h
      ((returned_iff hidle h n).mpr (hparts.mem (by simp)))
    obtain ⟨t', ht'⟩ := M.marked_of_returned hidle h
      ((returned_iff hidle h m).mpr (hparts.mem (by simp)))
    have hlt := (M.lt_iff hidle h hrises ht ht').mpr hprecedes
    exact absurd (hordered n m t t' hparts ht ht') (Nat.not_le_of_lt hlt)
  · intro hnone n m t t' hparts ht ht'
    by_contra hlt
    exact hnone n m hparts ((M.lt_iff hidle h hrises ht ht').mp (Nat.lt_of_not_le hlt))

/-- The mark in effect never decreases exactly if it is always the greatest. -/
theorem grows_iff (hidle : ∀ n, x₀.calls n = .idle) (h : x₀.run parts = some x)
    (hfirst : ∀ n t, M.of? (x.calls n) = some t → M.inEffect x₀ ≤ t) :
    (∀ before between w v, before ++ between <+: parts → x₀.run before = some w →
      w.run between = some v → M.inEffect w ≤ M.inEffect v) ↔ M.TopsAlong parts := by
  constructor
  · intro hgrows before w hbefore hw n t hn ht
    obtain ⟨front, rest, rfl⟩ := List.append_of_mem ((returned_iff hidle hw n).mp hn)
    have hsplit : front ++ .publish n :: rest = (front ++ [.publish n]) ++ rest := by simp
    rw [hsplit] at hbefore hw
    rw [run_append, Option.bind_eq_some_iff] at hw
    obtain ⟨v, hv, hrest⟩ := hw
    obtain ⟨u, -, hpublish⟩ := run_concat.mp hv
    have hmark := M.of?_take hpublish ((M.follows hpublish).published n rfl)
    cases ht.symm.trans (M.of?_run hrest hmark)
    exact hgrows _ rest v w hbefore hv hrest
  · intro htops before between w v hparts hw hv
    have hboth : x₀.run (before ++ between) = some v := by
      rw [run_append, hw]
      exact hv
    rcases M.inEffect_cases hw with hsame | ⟨n, hn, ht⟩
    · rw [hsame]
      rcases M.inEffect_cases hboth with hsame' | ⟨n, -, ht⟩
      · exact Nat.le_of_eq hsame'.symm
      · obtain ⟨rest, rfl⟩ := hparts
        rw [run_append, hboth] at h
        exact hfirst n _ (M.of?_run h ht)
    · have hn' : (v.calls n).Returned := by
        rw [returned_iff hidle hboth]
        exact List.mem_append_left _ ((returned_iff hidle hw n).mp hn)
      exact htops _ v hparts hboth n _ hn' (M.of?_run hv ht)

end Mark

theorem versions_precedes_iff {x₀ : SharedSettings} {n m : Nat} {parts : List Part} :
    (versions x₀).Precedes n m parts ↔ [.draw n, .draw m] <+ parts := by
  rw [cons_sublist_iff_append]
  constructor
  · rintro ⟨before, between, after, rfl, -⟩
    exact ⟨before, _, rfl, by simp [versions]⟩
  · rintro ⟨before, after, rfl, hm⟩
    obtain ⟨between, after, rfl⟩ := List.append_of_mem (List.singleton_sublist.mp hm)
    exact ⟨before, between, after, rfl, .draw n, List.mem_cons_self, rfl⟩

theorem editions_precedes_iff {x₀ : SharedSettings} {n m : Nat} {parts : List Part} :
    (editions x₀).Precedes n m parts ↔
      ∃ e : Part, e.edits = true ∧ [.read n, e, .read m] <+ parts := by
  constructor
  · rintro ⟨before, between, after, rfl, e, he, hedits⟩
    rcases List.mem_cons.mp he with rfl | he
    · cases hedits
    · obtain ⟨front, rest, rfl⟩ := List.append_of_mem he
      refine ⟨e, hedits, ?_⟩
      rw [cons_sublist_iff_append]
      refine ⟨before, _, rfl, ?_⟩
      rw [cons_sublist_iff_append]
      exact ⟨front, rest ++ .read m :: after, by simp [editions], by simp⟩
  · rintro ⟨e, hedits, hparts⟩
    obtain ⟨before, _, rfl, hrest⟩ := cons_sublist_iff_append.mp hparts
    obtain ⟨front, _, rfl, hlast⟩ := cons_sublist_iff_append.mp hrest
    obtain ⟨rest, after, rfl⟩ := List.append_of_mem (List.singleton_sublist.mp hlast)
    exact ⟨before, front ++ e :: rest, after, by simp [editions], e, by simp, hedits⟩

theorem editions_rise (x₀ : SharedSettings) (parts : List Part) : (editions x₀).Rises parts := by
  intro before n after _ i hi
  exact Nat.add_lt_add_left hi _

/-- Versions rise as long as they last. -/
theorem versions_rise {x₀ : SharedSettings} {parts : List Part}
    (h : x₀.counter.next + parts.countP Part.draws ≤ 0x10000000000000000) :
    (versions x₀).Rises parts := by
  rintro before n after rfl i hi
  have hdraw : ((versions x₀).part n).draws = true := rfl
  simp only [versions] at hi ⊢
  rw [List.countP_append, List.countP_cons_of_pos hdraw] at h
  rw [VersionCounter.next_drawn (by omega), VersionCounter.next_drawn (by omega)]
  omega

/-! ## Going back -/

/-- New settings have the version that they drew. -/
theorem create_version {source : Config} {k k' : VersionCounter} {s : Settings}
    (h : Settings.create source k = .ok (s, k')) :
    k.next = s.current.version ∧ (k.next + 1) % 0x10000000000000000 = k'.next := by
  rw [Settings.create] at h
  rcases Settings.resolve_spec source k with ⟨-, hr⟩ | ⟨-, e, hr⟩
  · rw [hr] at h
    cases h
    exact ⟨rfl, rfl⟩
  · rw [hr] at h
    cases h

/-- The version of the snapshot in effect never decreases. -/
def VersionKept (x₀ : SharedSettings) (parts : List Part) : Prop :=
  ∀ before between w v, before ++ between <+: parts → x₀.run before = some w →
    w.run between = some v → w.settings.current.version ≤ v.settings.current.version

/-- Once a call has returned a snapshot, none that was resolved from an older source than the call
has read is in effect. -/
def SourceKept (x₀ : SharedSettings) (parts : List Part) : Prop :=
  ∀ before w n e snapshot, before <+: parts → x₀.run before = some w →
    w.calls n = .returned e snapshot → e ≤ w.basis

/-- A call publishes after another one that drew its version later, or that read the source after an
edit which the first call has not seen. -/
def Overtaken (parts : List Part) : Prop :=
  ∃ n m, [.publish m, .publish n] <+ parts ∧ ([.draw n, .draw m] <+ parts ∨
    ∃ e : Part, e.edits = true ∧ [.read n, e, .read m] <+ parts)

/-- No caller reads the source between another one's reading and publishing. -/
def Apart (parts : List Part) : Prop := ∀ n m, ¬ [.read n, .read m, .publish n] <+ parts

/-- A call reads once, and publishes after that. -/
theorem publish_not_mem_before_read {x₀ x : SharedSettings} {before after : List Part} {n : Nat}
    (hidle : ∀ n, x₀.calls n = .idle) (h : x₀.run (before ++ .read n :: after) = some x) :
    .publish n ∉ before := by
  rw [run_append, Option.bind_eq_some_iff] at h
  obtain ⟨w, hw, h⟩ := h
  rw [run_cons, Option.bind_eq_some_iff] at h
  obtain ⟨y, hread, -⟩ := h
  rw [← returned_iff hidle hw]
  cases take_does hread with
  | edits _ _ hedits => cases hedits
  | reads _ hn =>
    rw [hn]
    exact Resolving.not_returned_idle

/-- A call draws once, after it has read and before it publishes. -/
theorem mem_before_draw {x₀ x : SharedSettings} {before after : List Part} {n : Nat}
    (hidle : ∀ n, x₀.calls n = .idle) (h : x₀.run (before ++ .draw n :: after) = some x) :
    .read n ∈ before ∧ .draw n ∉ before ∧ .publish n ∉ before := by
  rw [run_append, Option.bind_eq_some_iff] at h
  obtain ⟨w, hw, h⟩ := h
  rw [run_cons, Option.bind_eq_some_iff] at h
  obtain ⟨y, hdraw, -⟩ := h
  rw [← returned_iff hidle hw]
  cases take_does hdraw with
  | edits _ _ hedits => cases hedits
  | draws _ e source hn =>
    have hedition : (editions x₀).of? (w.calls n) = some e := by rw [hn]; rfl
    have hversion : (versions x₀).of? (w.calls n) = none := by rw [hn]; rfl
    refine ⟨?_, fun hmem => ?_, ?_⟩
    · obtain ⟨front, rest, rfl, -⟩ := ((editions x₀).given_iff hidle hw n e).mp hedition
      exact List.mem_append_right _ List.mem_cons_self
    · obtain ⟨front, rest, rfl⟩ := List.append_of_mem hmem
      rw [((versions x₀).given_iff hidle hw n _).mpr ⟨front, rest, rfl, rfl⟩] at hversion
      cases hversion
    · rw [hn]
      rintro ⟨_, _, hc⟩
      cases hc

/-- Of calls that keep apart, the one that reads first publishes first. -/
theorem not_reads_of_apart {x₀ x : SharedSettings} {parts : List Part}
    (hidle : ∀ n, x₀.calls n = .idle) (h : x₀.run parts = some x) (hapart : Apart parts)
    {n m : Nat} (hpublish : [.publish m, .publish n] <+ parts) : ¬ [.read n, .read m] <+ parts := by
  intro hread
  obtain ⟨before, _, rfl, hrest⟩ := cons_sublist_iff_append.mp hread
  obtain ⟨between, after, rfl⟩ := List.append_of_mem (List.singleton_sublist.mp hrest)
  have hsplit : before ++ .read n :: (between ++ .read m :: after) =
      (before ++ .read n :: between) ++ .read m :: after := by simp
  rw [hsplit] at h hpublish
  have hbehind := pair_sublist_of_not_mem hpublish (publish_not_mem_before_read hidle h)
  have hn : .publish n ∈ after := by simpa using hbehind.mem (a := .publish n) (by simp)
  refine hapart n m (cons_sublist_iff_append.mpr ⟨before, _, rfl, ?_⟩)
  exact cons_sublist_iff_append.mpr ⟨between, after, rfl, List.singleton_sublist.mpr hn⟩

/-- Calls that keep apart do not overtake each other. -/
theorem not_overtaken_of_apart {x₀ x : SharedSettings} {parts : List Part}
    (hidle : ∀ n, x₀.calls n = .idle) (h : x₀.run parts = some x) (hapart : Apart parts) :
    ¬ Overtaken parts := by
  rintro ⟨n, m, hpublish, hdraw | ⟨e, -, hread⟩⟩
  · have hreads := not_reads_of_apart hidle h hapart hpublish
    obtain ⟨before, _, rfl, hrest⟩ := cons_sublist_iff_append.mp hdraw
    obtain ⟨between, after, rfl⟩ := List.append_of_mem (List.singleton_sublist.mp hrest)
    obtain ⟨hn, -, -⟩ := mem_before_draw hidle h
    have hsplit : before ++ .draw n :: (between ++ .draw m :: after) =
        (before ++ .draw n :: between) ++ .draw m :: after := by simp
    rw [hsplit] at h
    obtain ⟨hm, hdrawn, hpublished⟩ := mem_before_draw hidle h
    have hother : Part.read n ≠ .read m := by
      rintro ⟨⟩
      exact hdrawn (List.mem_append_right _ List.mem_cons_self)
    rw [hsplit] at hpublish hapart hreads
    have hn' : .read n ∈ before ++ .draw n :: between := List.mem_append_left _ hn
    rcases pair_sublist_of_mem hn' hm hother with hpair | hpair
    · exact hreads (hpair.trans (List.sublist_append_left _ _))
    · have hbehind := pair_sublist_of_not_mem hpublish hpublished
      have hlast := List.singleton_sublist.mpr (hbehind.mem (a := .publish m) (by simp))
      exact hapart m n (hpair.append hlast)
  · exact not_reads_of_apart hidle h hapart hpublish (List.Sublist.trans (by simp) hread)

theorem sourceKept_iff {x₀ : SharedSettings} {parts : List Part} :
    SourceKept x₀ parts ↔ (editions x₀).TopsAlong parts := by
  constructor
  · rintro h before w hbefore hw n t ⟨e, snapshot, hn⟩ ht
    have hedition : t = e := by
      rw [hn] at ht
      exact (Option.some.inj ht).symm
    rw [hedition]
    exact h before w n e snapshot hbefore hw hn
  · intro h before w n e snapshot hbefore hw hn
    exact h before w hbefore hw n e ⟨e, snapshot, hn⟩ (by rw [hn]; rfl)

/-- **Going back.** Settings are new, and callers edit them and resolve them again in any order of
the parts of their calls, while the versions last. The version of the snapshot in effect never
decreases and no source is replaced by an older one, exactly if no call is overtaken. -/
theorem never_goes_back_iff {source : Config} {k k' : VersionCounter} {s : Settings}
    (hnew : Settings.create source k = .ok (s, k')) {parts : List Part} {x : SharedSettings}
    (hrun : ({ settings := s, counter := k' } : SharedSettings).run parts = some x)
    (hfew : k.next + parts.countP Part.draws < 0x10000000000000000) :
    VersionKept { settings := s, counter := k' } parts ∧
      SourceKept { settings := s, counter := k' } parts ↔ ¬ Overtaken parts := by
  obtain ⟨hversion, hcounter⟩ := create_version hnew
  generalize hx₀ : ({ settings := s, counter := k' } : SharedSettings) = x₀ at hrun ⊢
  have hidle : ∀ n, x₀.calls n = .idle := by
    subst hx₀
    exact fun _ => rfl
  have hcurrent : x₀.settings.current.version = k.next := by rw [← hx₀, ← hversion]
  have hnext : x₀.counter.next = (k.next + 1) % 0x10000000000000000 := by rw [← hx₀, ← hcounter]
  have hrises : (versions x₀).Rises parts := versions_rise (by omega)
  have hfirst : ∀ n t, (versions x₀).of? (x.calls n) = some t →
      (versions x₀).inEffect x₀ ≤ t := by
    intro n t ht
    obtain ⟨before, after, rfl, rfl⟩ := ((versions x₀).given_iff hidle hrun n t).mp ht
    have hdraw : ((versions x₀).part n).draws = true := rfl
    rw [List.countP_append, List.countP_cons_of_pos hdraw] at hfew
    simp only [versions, hcurrent]
    rw [VersionCounter.next_drawn (by omega)]
    omega
  rw [sourceKept_iff, (editions x₀).tops_iff_not_precedes hidle hrun (editions_rise x₀ parts)]
  have hversions : VersionKept x₀ parts ↔ _ := (versions x₀).grows_iff hidle hrun hfirst
  rw [hversions, (versions x₀).tops_iff_not_precedes hidle hrun hrises]
  simp only [versions_precedes_iff, editions_precedes_iff]
  constructor
  · rintro ⟨hdraws, hreads⟩ ⟨n, m, hparts, hdrew | hread⟩
    · exact hdraws n m hparts hdrew
    · exact hreads n m hparts hread
  · intro hnone
    exact ⟨fun n m hparts hdrew => hnone ⟨n, m, hparts, .inl hdrew⟩,
      fun n m hparts hread => hnone ⟨n, m, hparts, .inr hread⟩⟩

/-- New settings with the defaults. -/
def fresh : SharedSettings :=
  { settings := ⟨{}, ⟨1, ({} : Config).resolved⟩⟩, counter := ⟨2⟩ }

/-- Two calls overlap, and the one that drew and read first publishes first. -/
def overlapping : List Part :=
  [.read 0, .check 0, .replace { modules := [.model] }, .read 1, .draw 0, .elsewhere, .check 1,
    .publish 0, .draw 1, .publish 1]

theorem never_goes_back_overlapping :
    Settings.create {} {} = .ok (fresh.settings, fresh.counter) ∧
      (∃ x, fresh.run overlapping = some x) ∧
      ({} : VersionCounter).next + overlapping.countP Part.draws < 0x10000000000000000 ∧
      VersionKept fresh overlapping ∧ SourceKept fresh overlapping := by
  have hnew : Settings.create {} {} = .ok (fresh.settings, fresh.counter) := rfl
  have hfew : ({} : VersionCounter).next + overlapping.countP Part.draws < 0x10000000000000000 := by
    decide
  have hrun : ∃ x, fresh.run overlapping = some x := ⟨_, rfl⟩
  obtain ⟨x, hx⟩ := hrun
  refine ⟨hnew, ⟨x, hx⟩, hfew, (never_goes_back_iff hnew hx hfew).mpr ?_⟩
  rintro ⟨n, m, hpublish, hlater⟩
  have hcalls : m = 0 ∧ n = 1 := by
    simpa [overlapping, List.cons_sublist_cons'] using hpublish
  obtain ⟨rfl, rfl⟩ := hcalls
  rcases hlater with hdraw | ⟨e, -, hread⟩
  · simp [overlapping, List.cons_sublist_cons'] at hdraw
  · simp [overlapping, List.cons_sublist_cons'] at hread

/-- The first of two calls has the source from before an edit and publishes last. -/
def lostEdit : List Part :=
  [.read 0, .check 0, .draw 0, .update fun c => { c with handler := { batch := 2 } }, .read 1,
    .check 1, .draw 1, .publish 1, .publish 0]

/-- Both calls have returned, and the edit between them is not in effect: the version went back from
3 to 2, and the source to that before the edit. -/
theorem lost_edit :
    Settings.create {} {} = .ok (fresh.settings, fresh.counter) ∧
      (∃ x, fresh.run lostEdit = some x ∧ (x.calls 0).Returned ∧ (x.calls 1).Returned ∧
        x.settings.source.handler.batch = 2 ∧ x.settings.current.config.handler.batch = 1) ∧
      ¬ VersionKept fresh lostEdit ∧ ¬ SourceKept fresh lostEdit := by
  refine ⟨rfl, ⟨_, rfl, ⟨_, _, rfl⟩, ⟨_, _, rfl⟩, rfl, rfl⟩, fun hversion => ?_, fun hsource => ?_⟩
  · have hback := hversion (lostEdit.take 8) [.publish 0] _ _ List.prefix_rfl rfl rfl
    exact absurd hback (by decide)
  · have hback := hsource lostEdit _ 1 _ _ List.prefix_rfl rfl rfl
    exact absurd hback (by decide)

end SharedSettings

end AuditTrail
