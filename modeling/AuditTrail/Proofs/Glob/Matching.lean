import AuditTrail.Proofs.Glob.Lowering
import AuditTrail.Proofs.Regex.Matching

/-
  Wildcard patterns match what is said of their texts. The expression that a pattern is read as
  matches exactly the texts that its parts stand for, as a whole (`isMatch_regex`).

  Without hyphens in its sets a pattern is accepted, up to a limit of size, and its sets are the
  characters written in them (`glob_matches_members`). With hyphens, single characters and ranges
  are what a set holds, read from left to right (`Ranged`); a pattern without doubled hyphens then
  does what its text says if no range is in the wrong order, and else is refused
  (`serves_iff_inOrder`). A doubled hyphen may take something away (`plusToHyphen_not_served`).
-/
namespace AuditTrail

/-! ## Sets -/

namespace CharSet

theorem contains_unions {ss : List CharSet} {c : Char} :
    (unions ss).contains c = true ↔ ∃ s ∈ ss, s.contains c = true := by
  induction ss with
  | nil => exact ⟨fun h => absurd h Bool.false_ne_true, fun ⟨_, h, _⟩ => absurd h List.not_mem_nil⟩
  | cons s ss ih =>
    cases ss with
    | nil => rw [unions, List.exists_mem_cons_iff, or_iff_left (by simp)]
    | cons next ss =>
      have hunion : (unions (s :: next :: ss)).contains c =
          (s.contains c || (unions (next :: ss)).contains c) := rfl
      rw [hunion, Bool.or_eq_true, ih]
      exact (List.exists_mem_cons_iff (fun s => s.contains c = true) s (next :: ss)).symm

theorem contains_spans {ps : List (Char × Char)} {c : Char} :
    (spans ps).contains c = true ↔ ∃ p ∈ ps, p.1.toNat ≤ c.toNat ∧ c.toNat ≤ p.2.toNat := by
  rw [spans, contains_unions]
  simp only [List.mem_map, exists_exists_and_eq_and, contains, holds, Bool.and_eq_true,
    decide_eq_true_eq]

end CharSet

namespace GlobPart

/-- A character is one of the members between brackets, read as single characters and ranges. -/
def Ranged (body : List Char) (c : Char) : Prop :=
  ∃ p ∈ ranges body, p.1.toNat ≤ c.toNat ∧ c.toNat ≤ p.2.toNat

instance (body : List Char) : DecidablePred (Ranged body) :=
  fun _ => inferInstanceAs (Decidable (∃ p ∈ ranges body, _))

theorem contains_charSet {negated : Bool} {body : List Char} {c : Char} :
    (charSet negated body).contains c = true ↔ (Ranged body c ↔ negated = false) := by
  have hranged : (CharSet.spans (ranges body)).contains c = true ↔ Ranged body c :=
    CharSet.contains_spans
  cases negated with
  | false => exact hranged.trans (iff_true_right rfl).symm
  | true =>
    rw [charSet, if_pos rfl, CharSet.contains_compl, Bool.not_eq_true', ← Bool.not_eq_true, hranged]
    exact (iff_false_right (by decide)).symm

/-! ## The expression of a pattern -/

theorem repeats_any (before after : Option Char) (s : List Char) :
    Regex.Repeats (fun before s after => (Regex.chars .any).Matches before s after) s.length before
      s after := by
  induction s generalizing before with
  | nil => rfl
  | cons c s ih => exact ⟨[c], s, rfl, ⟨c, rfl, CharSet.contains_any c⟩, ih _⟩

/-- The expression of a part matches what the part stands for. -/
theorem matches_deep {part : GlobPart} {before after : Option Char} {s : List Char} :
    part.deep.regex.Matches before s after ↔ part.Accepts Ranged s := by
  cases part with
  | run =>
    exact iff_of_true ⟨s.length, Nat.zero_le _, fun _ h => absurd h (Option.not_mem_none _),
      repeats_any before after s⟩ trivial
  | one => simp only [deep, Regex.Matches, Accepts, CharSet.contains_any, and_true]
  | set negated body => simp only [deep, Regex.Matches, Accepts, contains_charSet]
  | char c =>
    simp only [deep, Regex.Matches, Accepts, CharSet.contains_single, beq_iff_eq]
    constructor
    · rintro ⟨d, rfl, rfl⟩
      rfl
    · exact fun h => ⟨c, h, rfl⟩

end GlobPart

namespace Glob

open GlobPart (Ranged)

theorem matches_toEnd {g : Glob} {before after : Option Char} {s : List Char} :
    g.toEnd.Matches before s after ↔ after = none ∧ g.Accepts Ranged s := by
  induction g generalizing before s with
  | nil =>
    have hend : Regex.Matches (toEnd []) before s after ↔ s = [] ∧ after.isNone = true := Iff.rfl
    rw [hend, Option.isNone_iff_eq_none, and_comm]
    rfl
  | cons part g ih =>
    have hseq : (toEnd (part :: g)).Matches before s after ↔ ∃ s₁ s₂, s = s₁ ++ s₂ ∧
        part.deep.regex.Matches before s₁ (Regex.nextOf s₂ after) ∧
        (toEnd g).Matches (Regex.lastOf before s₁) s₂ after := Iff.rfl
    have haccepts : Accepts Ranged (part :: g) s ↔ ∃ s₁ s₂, s = s₁ ++ s₂ ∧
        part.Accepts Ranged s₁ ∧ Accepts Ranged g s₂ := Iff.rfl
    simp only [hseq, haccepts, GlobPart.matches_deep, ih]
    constructor
    · rintro ⟨s₁, s₂, hs, hpart, hafter, hrest⟩
      exact ⟨hafter, s₁, s₂, hs, hpart, hrest⟩
    · rintro ⟨hafter, s₁, s₂, hs, hpart, hrest⟩
      exact ⟨s₁, s₂, hs, hpart, hafter, hrest⟩

theorem wellFormed_regex (g : Glob) : g.regex.WellFormed := by
  refine ⟨trivial, trivial, ?_⟩
  induction g with
  | nil => trivial
  | cons part g ih =>
    refine ⟨?_, ih⟩
    cases part with
    | run => exact ⟨trivial, fun _ h => absurd h (Option.not_mem_none _)⟩
    | one => trivial
    | set => trivial
    | char => trivial

/-- The expression of a pattern matches the texts that its parts stand for as a whole. -/
theorem isMatch_regex (g : Glob) (text : String) :
    g.regex.isMatch text = true ↔ g.Accepts Ranged text.toList := by
  have hregex : ∀ before s after, g.regex.Matches before s after ↔
      before = none ∧ after = none ∧ g.Accepts Ranged s := by
    intro before s after
    constructor
    · rintro ⟨_, _, rfl, rfl, _, rest, rfl, ⟨rfl, hstart⟩, hrest⟩
      exact ⟨Option.isNone_iff_eq_none.mp hstart, matches_toEnd.mp hrest⟩
    · rintro ⟨rfl, hrest⟩
      exact ⟨[], s, rfl, rfl, [], s, rfl, ⟨rfl, rfl⟩, matches_toEnd.mpr hrest⟩
  rw [Regex.isMatch_iff (wellFormed_regex g)]
  simp only [Regex.Begins, hregex]
  constructor
  · rintro ⟨passed, _, htext, s, rest, rfl, hbefore, hafter, haccepts⟩
    obtain rfl := List.getLast?_eq_none_iff.mp hbefore
    obtain rfl := List.head?_eq_none_iff.mp hafter
    rw [htext, List.nil_append, List.append_nil]
    exact haccepts
  · intro haccepts
    exact ⟨[], text.toList, rfl, text.toList, [], (List.append_nil _).symm, rfl, rfl, haccepts⟩

/-- Only what the sets of a pattern stand for matters. -/
theorem accepts_congr {inSet inSet' : List Char → Char → Prop} {g : Glob} {s : List Char}
    (h : ∀ negated body, .set negated body ∈ g → ∀ c, inSet body c ↔ inSet' body c) :
    g.Accepts inSet s ↔ g.Accepts inSet' s := by
  induction g generalizing s with
  | nil => exact Iff.rfl
  | cons part g ih =>
    have hpart : ∀ s, part.Accepts inSet s ↔ part.Accepts inSet' s := by
      intro s
      cases part with
      | run => exact Iff.rfl
      | one => exact Iff.rfl
      | set negated body =>
        simp only [GlobPart.Accepts, h negated body List.mem_cons_self]
      | char => exact Iff.rfl
    have hrest : ∀ s, Accepts inSet g s ↔ Accepts inSet' g s :=
      fun s => ih fun negated body hset => h negated body (List.mem_cons_of_mem _ hset)
    simp only [Accepts, hpart, hrest]

theorem matches_congr {inSet inSet' : List Char → Char → Prop} {pattern s : List Char}
    (h : ∀ body, HasSet body pattern → ∀ c, inSet body c ↔ inSet' body c) :
    Matches inSet pattern s ↔ Matches inSet' pattern s := by
  rw [matches_iff, matches_iff]
  exact accepts_congr fun negated body hset => h body (mem_parse_iff.mp ⟨negated, hset⟩)

end Glob

/-! ## Sets without hyphens -/

namespace GlobPart

variable {body : List Char}

theorem ranges_of_not_mem (h : '-' ∉ body) : ranges body = body.map fun c => (c, c) := by
  induction body using ranges.induct with
  | case1 => rfl
  | case2 a b body ih => exact absurd (List.mem_cons_of_mem _ List.mem_cons_self) h
  | case3 a body hrange ih =>
    rw [ranges, ih fun hmem => h (List.mem_cons_of_mem _ hmem), List.map_cons]
    exact hrange

theorem undoubled_of_not_mem (h : '-' ∉ body) : Undoubled body :=
  fun hpair => h (hpair.subset List.mem_cons_self)

theorem inOrder_of_not_mem (h : '-' ∉ body) : InOrder body := by
  intro p hp
  rw [ranges_of_not_mem h] at hp
  obtain ⟨c, -, rfl⟩ := List.mem_map.mp hp
  exact Nat.le_refl _

theorem ranged_of_not_mem (h : '-' ∉ body) (c : Char) : Ranged body c ↔ c ∈ body := by
  rw [Ranged, ranges_of_not_mem h]
  constructor
  · rintro ⟨p, hp, hfirst, hlast⟩
    obtain ⟨d, hd, rfl⟩ := List.mem_map.mp hp
    rwa [Char.toNat_inj.mp (Nat.le_antisymm hlast hfirst)]
  · exact fun hc => ⟨(c, c), List.mem_map_of_mem hc, Nat.le_refl _, Nat.le_refl _⟩

end GlobPart

/-! ## Patterns -/

namespace Pattern

open Glob (Closed HasSet Matches)
open GlobPart (Ranged InOrder Undoubled)

/-- The expression that a wildcard pattern is written as keeps within the limit of size, if it can
be read. -/
def WithinLimit (value : String) : Prop :=
  ∀ d ∈ Regex.read (Glob.parse (Text.lower value).toList).expression,
    d.regex.size ≤ Regex.sizeLimit

theorem glob_eq_ok_iff {value : String} {p : Pattern} : glob value = .ok p ↔
    (wildcard (Text.lower value)).isSome = true ∧ p = ⟨.glob, Text.lower value⟩ := by
  rw [glob]
  split
  next hsome => rw [Except.ok.injEq, and_iff_right hsome, eq_comm]
  next hnone =>
    constructor
    · intro h
      cases h
    · exact fun h => absurd h.1 hnone

theorem readable_iff {text : List Char} : (∀ part ∈ Glob.parse text, part.Readable) ↔
    ∀ body, HasSet body text → InOrder body := by
  constructor
  · intro h body hset
    obtain ⟨negated, hpart⟩ := Glob.mem_parse_iff.mpr hset
    exact h _ hpart
  · intro h part hpart
    cases part with
    | set negated body => exact h body (Glob.mem_parse_iff.mp ⟨negated, hpart⟩)
    | run => trivial
    | one => trivial
    | char => trivial

section Undoubled

variable {value : String} (h : ∀ body, HasSet body (Text.lower value).toList → Undoubled body)

include h

theorem plain_parts : ∀ part ∈ Glob.parse (Text.lower value).toList, part.Plain := by
  intro part hpart
  cases part with
  | set negated body =>
    have hset := Glob.mem_parse_iff.mp ⟨negated, hpart⟩
    exact ⟨hset.nonempty, h body hset⟩
  | run => trivial
  | one => trivial
  | char => trivial

theorem withinLimit_of_size
    (hsize : (Glob.parse (Text.lower value).toList).regex.size ≤ Regex.sizeLimit) :
    WithinLimit value := by
  intro d hd
  obtain ⟨depth, -, hread⟩ := Regex.read_expression (plain_parts h)
  rw [hread] at hd
  split at hd
  next =>
    cases hd
    exact hsize
  next => cases hd

/-- Without doubled hyphens, a pattern within the limit is accepted if its ranges are in order. -/
theorem accepted_iff (hlimit : WithinLimit value) :
    (∃ p, glob value = .ok p) ↔ ∀ body, HasSet body (Text.lower value).toList → InOrder body := by
  have hplain := plain_parts h
  simp only [glob_eq_ok_iff, exists_and_left, exists_eq, and_true]
  rw [wildcard_eq hplain, ← readable_iff]
  constructor
  · intro hsome
    by_contra hreadable
    rw [if_neg fun hboth => hreadable hboth.1] at hsome
    cases hsome
  · intro hreadable
    obtain ⟨depth, -, hread⟩ := Regex.read_expression hplain
    rw [if_pos hreadable] at hread
    rw [if_pos ⟨hreadable, hlimit _ hread⟩]
    rfl

/-- Without doubled hyphens, an accepted pattern matches what is said of its text. -/
theorem isMatch_iff {p : Pattern} (hp : glob value = .ok p) (candidate : String) :
    p.isMatch candidate = true ↔
      Matches Ranged (Text.lower value).toList (Text.lower candidate).toList := by
  obtain ⟨hsome, rfl⟩ := glob_eq_ok_iff.mp hp
  have hwildcard : wildcard (Text.lower value) =
      some (Glob.parse (Text.lower value).toList).regex := by
    rw [wildcard_eq (plain_parts h)] at hsome ⊢
    split at hsome
    next hboth => exact if_pos hboth
    next => cases hsome
  rw [Glob.matches_iff, ← Glob.isMatch_regex, isMatch, hwildcard]
  rfl

end Undoubled

theorem parse_runNotIn (c : Char) : Glob.parse ['*', '[', '!', c, ']'] = [.run, .set true [c]] := by
  have hclosed : Closed ['!', c, ']'] true [c] [] :=
    ⟨rfl, List.cons_ne_nil _ _, List.not_mem_nil, fun h => Bool.noConfusion h⟩
  rw [Glob.parse, Glob.parse_closed hclosed, Glob.parse]

theorem hasSet_runNotIn {c : Char} {body : List Char} (h : HasSet body ['*', '[', '!', c, ']']) :
    body = [c] := by
  obtain ⟨negated, hpart⟩ := Glob.mem_parse_iff.mpr h
  rw [parse_runNotIn] at hpart
  simp only [List.mem_cons, reduceCtorEq, GlobPart.set.injEq, List.not_mem_nil, or_false,
    false_or] at hpart
  exact hpart.2

theorem parse_oneSet {a b c : Char} (ha : a ≠ '!') (hb : b ≠ ']') (hc : c ≠ ']') :
    Glob.parse ['[', a, b, c, ']'] = [.set false [a, b, c]] := by
  have hclosed : Closed [a, b, c, ']'] false [a, b, c] [] := by
    refine ⟨rfl, List.cons_ne_nil _ _, ?_, fun _ h => ha (Option.some.inj h)⟩
    simp [hb.symm, hc.symm]
  rw [Glob.parse_closed hclosed, Glob.parse]

theorem hasSet_oneSet {a b c : Char} (ha : a ≠ '!') (hb : b ≠ ']') (hc : c ≠ ']')
    {body : List Char} : HasSet body ['[', a, b, c, ']'] ↔ body = [a, b, c] := by
  rw [← Glob.mem_parse_iff, parse_oneSet ha hb hc]
  simp

/-- A wildcard pattern without hyphens in its sets is accepted, up to the limit of size, and matches
what its text says, where the members of its sets are the characters written in them. -/
theorem glob_matches_members {value : String} (h : ∀ body, HasSet body value.toList → '-' ∉ body) :
    (WithinLimit value → ∃ p, glob value = .ok p) ∧
      ∀ p, glob value = .ok p → ∀ candidate, p.isMatch candidate = true ↔
        Matches (fun body c => c ∈ body) (Text.lower value).toList
          (Text.lower candidate).toList := by
  have hlower : ∀ body, HasSet body (Text.lower value).toList → '-' ∉ body := by
    intro body hset hhyphen
    obtain ⟨body', hset', hbody⟩ := hset.of_lower
    exact h body' hset' (hbody.mem_mark rfl hhyphen)
  have hundoubled : ∀ body, HasSet body (Text.lower value).toList → Undoubled body :=
    fun body hset => GlobPart.undoubled_of_not_mem (hlower body hset)
  constructor
  · intro hlimit
    exact (accepted_iff hundoubled hlimit).mpr fun body hset =>
      GlobPart.inOrder_of_not_mem (hlower body hset)
  · intro p hp candidate
    rw [isMatch_iff hundoubled hp]
    exact Glob.matches_congr fun body hset c => GlobPart.ranged_of_not_mem (hlower body hset) c

/-- A run that does not end in an a matches neither case of it. -/
theorem glob_matches_members_notA : (∀ body, HasSet body "*[!A]".toList → '-' ∉ body) ∧
    WithinLimit "*[!A]" ∧ ∃ p, glob "*[!A]" = .ok p ∧ p.isMatch "A/\nB" = true ∧
      p.isMatch "BA" = false := by
  have hlower : (Text.lower "*[!A]").toList = ['*', '[', '!', 'a', ']'] := by decide
  have hmembers : ∀ body, HasSet body "*[!A]".toList → '-' ∉ body := by
    intro body hset
    rw [hasSet_runNotIn hset]
    decide
  have hlimit : WithinLimit "*[!A]" := by
    refine withinLimit_of_size (fun body hset => ?_) ?_
    · rw [hlower] at hset
      rw [hasSet_runNotIn hset]
      exact GlobPart.undoubled_of_not_mem (by decide)
    · rw [hlower, parse_runNotIn]
      decide
  obtain ⟨haccepted, hmatches⟩ := glob_matches_members hmembers
  obtain ⟨p, hp⟩ := haccepted hlimit
  have haccepts : ∀ candidate, p.isMatch candidate = true ↔
      Glob.Accepts (fun body c => c ∈ body) [.run, .set true ['a']]
        (Text.lower candidate).toList := by
    intro candidate
    rw [hmatches p hp, Glob.matches_iff, hlower, parse_runNotIn]
  refine ⟨hmembers, hlimit, p, hp, ?_, ?_⟩
  · rw [haccepts]
    exact ⟨['a', '/', '\n'], ['b'], by decide, trivial, ['b'], [], rfl,
      ⟨'b', rfl, by decide⟩, rfl⟩
  · rw [← Bool.not_eq_true, haccepts]
    rintro ⟨passed, rest, htext, -, _, _, rfl, ⟨c, rfl, hc⟩, rfl⟩
    have hlast : some 'a' = some c := by
      have hlasts := congrArg List.getLast? htext
      rwa [List.append_nil, List.getLast?_concat] at hlasts
    rw [← Option.some.inj hlast] at hc
    exact absurd (hc.mp List.mem_cons_self) (by decide)

/-- A wildcard pattern does what its text says: it is accepted, and it matches a candidate if the
text says so, where the members of its sets are single characters and ranges. -/
def Serves (value : String) : Prop :=
  ∃ p, glob value = .ok p ∧ ∀ candidate, p.isMatch candidate = true ↔
    Matches Ranged (Text.lower value).toList (Text.lower candidate).toList

/-- Within the limit of size and without doubled hyphens, wildcard patterns do what their texts say
if no range is in the wrong order. -/
theorem serves_iff_inOrder {value : String} (hlimit : WithinLimit value)
    (h : ∀ body, HasSet body (Text.lower value).toList → Undoubled body) :
    Serves value ↔ ∀ body, HasSet body (Text.lower value).toList → InOrder body := by
  rw [← accepted_iff h hlimit]
  constructor
  · rintro ⟨p, hp, -⟩
    exact ⟨p, hp⟩
  · rintro ⟨p, hp⟩
    exact ⟨p, hp, isMatch_iff h hp⟩

theorem serves_iff_inOrder_letters : WithinLimit "[A-F]" ∧
    (∀ body, HasSet body (Text.lower "[A-F]").toList → Undoubled body) ∧ Serves "[A-F]" := by
  have hlower : (Text.lower "[A-F]").toList = ['[', 'a', '-', 'f', ']'] := by decide
  have hsets : ∀ body, HasSet body (Text.lower "[A-F]").toList → body = ['a', '-', 'f'] := by
    intro body hset
    rwa [hlower, hasSet_oneSet (by decide) (by decide) (by decide)] at hset
  have hundoubled : ∀ body, HasSet body (Text.lower "[A-F]").toList → Undoubled body := by
    intro body hset
    rw [hsets body hset]
    decide
  have hlimit : WithinLimit "[A-F]" := by
    refine withinLimit_of_size hundoubled ?_
    rw [hlower, parse_oneSet (by decide) (by decide) (by decide)]
    decide
  refine ⟨hlimit, hundoubled, (serves_iff_inOrder hlimit hundoubled).mpr fun body hset => ?_⟩
  rw [hsets body hset]
  decide

/-- The range from the plus sign to the hyphen is read as the plus sign with nothing taken away, and
the hyphen does not match. -/
theorem plusToHyphen_not_served : HasSet ['+', '-', '-'] (Text.lower "[+--]").toList ∧
    WithinLimit "[+--]" ∧ ¬ Serves "[+--]" := by
  have hlower : (Text.lower "[+--]").toList = ['[', '+', '-', '-', ']'] := by decide
  have hparse : Glob.parse (Text.lower "[+--]").toList = [.set false ['+', '-', '-']] := by
    rw [hlower, parse_oneSet (by decide) (by decide) (by decide)]
  have hset : HasSet ['+', '-', '-'] (Text.lower "[+--]").toList := by
    rw [hlower, hasSet_oneSet (by decide) (by decide) (by decide)]
  have hread : Regex.read (Glob.parse (Text.lower "[+--]").toList).expression =
      some ⟨.seq .empty (.seq (.look .textStart)
        (.seq (.chars (.diff (.single '+') .none)) (.look .textEnd))), 3⟩ := by
    have hmembers : Regex.readSet Regex.dotAll (2 * ['+', '-', '-', ']', '$'].length + 2)
        ['+', '-', '-', ']', '$'] = some (⟨.diff (.single '+') .none, 2⟩, ['$']) := rfl
    rw [hparse, Regex.read_opening]
    change Option.map _ (Regex.readBranches false 10 _ [] [] _
      ('[' :: ['+', '-', '-', ']', '$'])) = _
    rw [Regex.readBranches_bracket, hmembers]
    rfl
  refine ⟨hset, ?_, ?_⟩
  · intro d hd
    rw [hread] at hd
    cases hd
    decide
  · rintro ⟨p, hp, hmatches⟩
    obtain ⟨-, rfl⟩ := glob_eq_ok_iff.mp hp
    have hhyphen : Matches Ranged (Text.lower "[+--]").toList (Text.lower "-").toList := by
      rw [Glob.matches_iff, hparse]
      exact ⟨['-'], [], by decide, ⟨'-', rfl, by decide⟩, rfl⟩
    have hmatch := (hmatches "-").mpr hhyphen
    rw [isMatch, wildcard, Regex.parse, hread] at hmatch
    revert hmatch
    decide

end Pattern

end AuditTrail
