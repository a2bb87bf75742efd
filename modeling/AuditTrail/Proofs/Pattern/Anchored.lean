import AuditTrail.Pattern
import AuditTrail.Proofs.Regex.Enclosed
import AuditTrail.Proofs.Regex.WellFormed

/-
  Regular expressions in patterns. The value is put into a group behind the start of the text, and
  that text is read. It is what the value by itself is, tied to the start, if the group ends where
  it should (`read_enclosed_closed`). A comment at the end of the value swallows the parenthesis, so
  that nothing is read (`read_enclosed_comment`); and what is no expression by itself can be read
  only if the group ends at a parenthesis of the value, behind an expression (`exists_front`), where
  the start of the text no longer binds what follows.

  Main statement: `startAnchored_iff`. A pattern is accepted and matches as its value does from the
  start of a candidate on, unless one of these happens or the group is nested too deep.
-/
namespace AuditTrail

namespace Regex

/-! ## The start of a text -/

/-- An expression tied to the start of the text. -/
def atStart (r : Regex) : Regex :=
  if r = .empty then .look .textStart else .seq (.look .textStart) r

theorem atStart_of_ne {r : Regex} (h : r ≠ .empty) : r.atStart = .seq (.look .textStart) r :=
  if_neg h

theorem WellFormed.atStart {r : Regex} (h : r.WellFormed) : r.atStart.WellFormed := by
  by_cases hempty : r = .empty
  · rw [hempty]
    trivial
  · rw [atStart_of_ne hempty]
    exact ⟨trivial, h⟩

theorem matches_atStart (r : Regex) (before after : Option Char) (s : List Char) :
    r.atStart.Matches before s after ↔ before = none ∧ r.Matches before s after := by
  by_cases hempty : r = .empty
  · rw [hempty]
    exact (and_comm.trans (and_congr_left fun _ => Option.isNone_iff_eq_none))
  · rw [atStart_of_ne hempty, Matches]
    constructor
    · rintro ⟨s₁, s₂, rfl, ⟨rfl, hstart⟩, hmatch⟩
      exact ⟨Option.isNone_iff_eq_none.mp hstart, hmatch⟩
    · rintro ⟨rfl, hmatch⟩
      exact ⟨[], s, rfl, ⟨rfl, rfl⟩, hmatch⟩

/-- Tied to the start of the text, an expression has a match if one begins there. -/
theorem isMatch_atStart {r : Regex} (h : r.WellFormed) (text : String) :
    r.atStart.isMatch text = true ↔ r.Begins none text.toList := by
  rw [isMatch_iff h.atStart]
  constructor
  · rintro ⟨passed, rest, htext, s, rest', rfl, hmatch⟩
    obtain ⟨hbefore, hmatch⟩ := (matches_atStart _ _ _ _).mp hmatch
    rw [List.getLast?_eq_none_iff] at hbefore
    subst hbefore
    exact ⟨s, rest', htext, hmatch⟩
  · rintro ⟨s, rest, htext, hmatch⟩
    exact ⟨[], s ++ rest, htext, s, rest, rfl, (matches_atStart _ _ _ _).mpr ⟨rfl, hmatch⟩⟩

end Regex

namespace Pattern

open Regex

/-! ## The text that is read -/

/-- The text of the expression of a pattern. -/
def enclosed (value : String) : String := "^(?:" ++ value ++ ")"

theorem anchored_eq (value : String) : anchored value = Regex.parse (enclosed value) := rfl

theorem read_eq_readAll (text : String) :
    Regex.read text = (readAll false .initial [] [] [] text.toList).map (·.1) := rfl

/-- The value is read as a group behind the start of the text. -/
theorem read_enclosed (value : String) : Regex.read (enclosed value) =
    ((readAll true .initial [] [] [] (value.toList ++ [')'])).bind fun p =>
      readAll false .initial p.2.1 []
        [some ⟨p.1.regex, p.1.depth + 1⟩, some ⟨.look .textStart, 0⟩] p.2.2).map (·.1) := by
  have htext : (enclosed value).toList = '^' :: '(' :: '?' :: ':' :: (value.toList ++ [')']) := by
    simp [enclosed]
  have hskip : ∀ cs, Flags.initial.skip cs = cs := fun _ => rfl
  have hopening : ∀ cs, tokenAt .initial '(' ('?' :: ':' :: cs) =
      some (.opening (.group none ⟨[], []⟩), cs) := fun _ => rfl
  rw [read_eq_readAll, htext, readAll_cons (hskip _)]
  have hcaret : tokenAt .initial '^' ('(' :: '?' :: ':' :: (value.toList ++ [')'])) =
    some (.item ⟨.look .textStart, 0⟩, '(' :: '?' :: ':' :: (value.toList ++ [')'])) := rfl
  rw [hcaret, Option.bind_some]
  dsimp only [afterToken]
  rw [readAll_cons (hskip _), hopening, Option.bind_some]
  rfl

theorem alternate_enclosed (d : Deep) :
    alternate [concatenate [some ⟨d.regex, d.depth + 1⟩, some ⟨.look .textStart, 0⟩]] =
      ⟨d.regex.atStart, d.depth + 2⟩ := by
  obtain ⟨r, depth⟩ := d
  cases r <;> simp [alternate, concatenate, atStart]

/-! ## Expressions that leave the group -/

/-- The expression ends in a comment: a parenthesis behind it is not read. -/
def EndsInComment (value : String) : Prop :=
  (Regex.read value).isSome ∧ (Regex.read (value ++ ")")).isSome

theorem enclosed_follows (cs : List Char) : Enclosed (readAll false .initial [] [] [] cs)
    (fun inGroup tail => readAll inGroup .initial [] [] [] (cs ++ ')' :: tail)) :=
  expressions_follow (cs.length + 1) _ _ _ _ cs (Nat.lt_succ_self _)

theorem toList_parenthesis (front back : String) :
    (front ++ ")" ++ back).toList = front.toList ++ ')' :: back.toList := by
  simp

theorem toList_close (value : String) : (value ++ ")").toList = value.toList ++ [')'] := by
  simp

theorem endsInComment_of_swallowed {value : String} {d : Deep} {names : List String}
    (hread : Regex.read value = some d)
    (hlong : readAll false .initial [] [] [] (value.toList ++ [')']) = some (d, names, [])) :
    EndsInComment value := by
  refine ⟨by rw [hread]; rfl, ?_⟩
  rw [read_eq_readAll, toList_close, hlong]
  rfl

/-- An expression that does not end in a comment is closed by a parenthesis. -/
theorem closed_of_read {value : String} {d : Deep} (hread : Regex.read value = some d)
    (hcomment : ¬ EndsInComment value) : ∃ names, ∀ tail,
      readAll true .initial [] [] [] (value.toList ++ ')' :: tail) = some (d, names, tail) ∧
      readAll false .initial [] [] [] (value.toList ++ ')' :: tail) = none := by
  have hfollows := enclosed_follows value.toList
  rw [read_eq_readAll] at hread
  generalize hshort : readAll false .initial [] [] [] value.toList = short at hread hfollows
  generalize hlong : (fun inGroup tail =>
    readAll inGroup .initial [] [] [] (value.toList ++ ')' :: tail)) = long at hfollows
  cases hfollows with
  | @closed d' names _ htrue hfalse =>
    subst hlong
    cases hread
    exact ⟨names, fun tail => ⟨htrue tail, hfalse tail⟩⟩
  | @swallowed d' names _ htrue hfalse =>
    subst hlong
    cases hread
    exact absurd (endsInComment_of_swallowed (by rw [read_eq_readAll, hshort]; rfl) hfalse) hcomment
  | unread htrue => cases hread

/-- Where a group ends in front of a text, what it is made of can be read by itself. -/
theorem read_of_closed {value : String} {tail : List Char} {d : Deep} {names : List String}
    (h : readAll true .initial [] [] [] (value.toList ++ ')' :: tail) = some (d, names, tail)) :
    Regex.read value = some d ∧ ¬ EndsInComment value := by
  have hfollows := enclosed_follows value.toList
  generalize hshort : readAll false .initial [] [] [] value.toList = short at hfollows
  generalize hlong : (fun inGroup tail =>
    readAll inGroup .initial [] [] [] (value.toList ++ ')' :: tail)) = long at hfollows
  cases hfollows with
  | @closed d' names' _ htrue hfalse =>
    subst hlong
    obtain ⟨rfl, -⟩ := Prod.mk.inj (Option.some.inj ((htrue tail).symm.trans h))
    refine ⟨by rw [read_eq_readAll, hshort]; rfl, fun hcomment => ?_⟩
    have hnone : Regex.read (value ++ ")") = none := by
      rw [read_eq_readAll, toList_close]
      exact congrArg _ (hfalse [])
    rw [EndsInComment, hnone] at hcomment
    exact absurd hcomment.2 Bool.false_ne_true
  | swallowed htrue _ =>
    subst hlong
    exact absurd (htrue tail d names tail h) (Nat.lt_irrefl _)
  | unread htrue =>
    subst hlong
    exact absurd rfl (htrue tail d names tail h)

/-- What is behind the parenthesis of an expression makes it none. -/
theorem read_append_none {front : String} (h : (Regex.read front).isSome)
    (hcomment : ¬ EndsInComment front) (back : String) :
    Regex.read (front ++ ")" ++ back) = none := by
  obtain ⟨d, hread⟩ := Option.isSome_iff_exists.mp h
  obtain ⟨names, hclosed⟩ := closed_of_read hread hcomment
  rw [read_eq_readAll, toList_parenthesis, (hclosed back.toList).2]
  rfl

theorem read_enclosed_closed {value : String} {d : Deep} (hread : Regex.read value = some d)
    (hcomment : ¬ EndsInComment value) :
    Regex.read (enclosed value) = some ⟨d.regex.atStart, d.depth + 2⟩ := by
  obtain ⟨names, hclosed⟩ := closed_of_read hread hcomment
  rw [read_enclosed, (hclosed []).1, Option.bind_some, readAll_end rfl, if_neg Bool.false_ne_true,
    Option.map_some, alternate_enclosed]

/-- A comment at the end swallows the parenthesis of the group. -/
theorem read_enclosed_comment {value : String} (h : EndsInComment value) :
    Regex.read (enclosed value) = none := by
  obtain ⟨d, hread⟩ := Option.isSome_iff_exists.mp h.1
  have hfollows := enclosed_follows value.toList
  rw [read_eq_readAll] at hread
  generalize readAll false .initial [] [] [] value.toList = short at hread hfollows
  generalize hlong : (fun inGroup tail =>
    readAll inGroup .initial [] [] [] (value.toList ++ ')' :: tail)) = long at hfollows
  cases hfollows with
  | closed _ hfalse =>
    subst hlong
    have hnone : readAll false .initial [] [] [] (value.toList ++ [')']) = none := hfalse []
    have hcomment := h.2
    rw [read_eq_readAll, toList_close, hnone] at hcomment
    exact absurd hcomment Bool.false_ne_true
  | swallowed htrue _ =>
    subst hlong
    rw [read_enclosed]
    refine Option.map_eq_none_iff.mpr (Option.bind_eq_none_iff.mpr fun p hp => ?_)
    exact absurd (htrue [] p.1 p.2.1 p.2.2 hp) (Nat.not_lt_zero _)
  | unread _ => cases hread

/-- What cannot be read by itself is read as a group only up to another parenthesis. -/
theorem exists_front {value : String} (hnone : Regex.read value = none)
    (h : (Regex.read (enclosed value)).isSome) :
    ∃ front back, value = front ++ ")" ++ back ∧ (Regex.read front).isSome ∧
      ¬ EndsInComment front := by
  obtain ⟨d, hread⟩ := Option.isSome_iff_exists.mp h
  rw [read_enclosed] at hread
  obtain ⟨p, hread, -⟩ := Option.map_eq_some_iff.mp hread
  obtain ⟨⟨d', names, rest⟩, hgroup, -⟩ := Option.bind_eq_some_iff.mp hread
  obtain ⟨cs, hcs⟩ : ')' :: rest <:+ value.toList ++ [')'] := ends_readAll _ _ _ _ _ _ _ _ _ hgroup
  rw [← hcs, ← String.toList_ofList (l := cs)] at hgroup
  have hfront := read_of_closed hgroup
  rcases List.eq_nil_or_concat rest with rfl | ⟨back, c, rfl⟩
  · -- Then it would be the whole value.
    have hvalue : cs = value.toList := List.append_inj_left' hcs rfl
    rw [hvalue, String.ofList_toList, hnone] at hfront
    cases hfront.1
  · refine ⟨String.ofList cs, String.ofList back, ?_, by rw [hfront.1]; rfl, hfront.2⟩
    have happend : cs ++ ')' :: back ++ [c] = value.toList ++ [')'] := by
      rw [← hcs, List.concat_eq_append, List.append_assoc, List.cons_append]
    have hvalue : cs ++ ')' :: back = value.toList := List.append_inj_left' happend rfl
    rw [← String.toList_inj, toList_parenthesis, String.toList_ofList, String.toList_ofList, hvalue]

/-! ## Patterns -/

/-- A text that is within the limit of size, if it is an expression. -/
def WithinSize (text : String) : Prop := ∀ d ∈ Regex.read text, d.regex.size ≤ sizeLimit

theorem parse_eq_some {text : String} (hsize : WithinSize text) {r : Regex} :
    Regex.parse text = some r ↔
      ∃ d, Regex.read text = some d ∧ d.depth ≤ nestingLimit ∧ d.regex = r := by
  rw [Regex.parse]
  cases hread : Regex.read text with
  | none => simp
  | some d =>
    have hd := hsize d hread
    simp [hd]

theorem regex_eq_ok {value : String} (henclosed : WithinSize (enclosed value)) {p : Pattern} :
    Pattern.regex value = .ok p ↔ p = ⟨.regex, value⟩ ∧
      ∃ d, Regex.read (enclosed value) = some d ∧ d.depth ≤ nestingLimit := by
  have hanchored : (anchored value).isSome = true ↔
      ∃ d, Regex.read (enclosed value) = some d ∧ d.depth ≤ nestingLimit := by
    rw [anchored_eq, Option.isSome_iff_exists]
    simp only [parse_eq_some henclosed]
    constructor
    · rintro ⟨r, d, hread, hdepth, -⟩
      exact ⟨d, hread, hdepth⟩
    · rintro ⟨d, hread, hdepth⟩
      exact ⟨d.regex, d, hread, hdepth, rfl⟩
  rw [Pattern.regex, ← hanchored]
  split
  next h =>
    rw [and_iff_left h]
    exact ⟨fun heq => (Except.ok.inj heq).symm, fun heq => heq ▸ rfl⟩
  next h => exact ⟨nofun, fun hp => absurd hp.2 h⟩

/-- A pattern is accepted exactly if its value is an expression by itself, and then it matches a
candidate exactly if a match of that expression begins at the start of the candidate. -/
def StartAnchored (value : String) : Prop :=
  ((∃ p, Pattern.regex value = .ok p) ↔ ∃ r, Regex.parse value = some r) ∧
    ∀ p r, Pattern.regex value = .ok p → Regex.parse value = some r → ∀ candidate,
      p.isMatch candidate = true ↔ r.Begins none candidate.toList

/-- A parenthesis in the value closes the group that is put around it, and the whole is accepted. -/
def Escapes (value : String) : Prop :=
  (∃ front back, value = front ++ ")" ++ back ∧ (Regex.read front).isSome ∧
    ¬ EndsInComment front) ∧ ∃ p, Pattern.regex value = .ok p

/-- Behind the start of the text, a value matches as it does by itself. -/
theorem isMatch_of_read {value : String} {d : Deep} (henclosed : WithinSize (enclosed value))
    (hread : Regex.read value = some d) (hcomment : ¬ EndsInComment value)
    (hdepth : d.depth + 2 ≤ nestingLimit) (candidate : String) :
    (Pattern.mk .regex value).isMatch candidate = true ↔
      d.regex.Begins none candidate.toList := by
  have hanchored : anchored value = some d.regex.atStart :=
    (parse_eq_some henclosed).mpr ⟨_, read_enclosed_closed hread hcomment, hdepth, rfl⟩
  rw [isMatch, hanchored]
  exact isMatch_atStart (wellFormed_read hread) candidate

/-- What the group asks of a value that is an expression by itself. -/
theorem fits_of_accepted {value : String} {d : Deep} {p : Pattern}
    (henclosed : WithinSize (enclosed value)) (hread : Regex.read value = some d)
    (hp : Pattern.regex value = .ok p) :
    ¬ EndsInComment value ∧ d.depth + 2 ≤ nestingLimit := by
  obtain ⟨-, d', hread', hdepth⟩ := (regex_eq_ok henclosed).mp hp
  have hcomment : ¬ EndsInComment value := by
    intro h
    rw [read_enclosed_comment h] at hread'
    cases hread'
  rw [read_enclosed_closed hread hcomment] at hread'
  cases hread'
  exact ⟨hcomment, hdepth⟩

/-- A pattern is its value tied to the start of the candidate, unless the value leaves the group
that is put around it, or swallows its end with a comment, or is nested so deep that the group makes
it exceed the limit. -/
theorem startAnchored_iff {value : String} (hvalue : WithinSize value)
    (henclosed : WithinSize (enclosed value)) :
    StartAnchored value ↔ ¬ Escapes value ∧
      ∀ d, Regex.read value = some d → d.depth ≤ nestingLimit →
        ¬ EndsInComment value ∧ d.depth + 2 ≤ nestingLimit := by
  constructor
  · rintro ⟨hvalid, -⟩
    refine ⟨?_, fun d hread hdepth => ?_⟩
    · rintro ⟨⟨front, back, rfl, hfront, hcomment⟩, haccepted⟩
      obtain ⟨r, hr⟩ := hvalid.mp haccepted
      obtain ⟨d, hread, -⟩ := (parse_eq_some hvalue).mp hr
      rw [read_append_none hfront hcomment back] at hread
      cases hread
    · obtain ⟨p, hp⟩ := hvalid.mpr ⟨d.regex, (parse_eq_some hvalue).mpr ⟨d, hread, hdepth, rfl⟩⟩
      exact fits_of_accepted henclosed hread hp
  · rintro ⟨hescapes, hfits⟩
    refine ⟨⟨?_, ?_⟩, fun p r hp hr candidate => ?_⟩
    · rintro ⟨p, hp⟩
      cases hread : Regex.read value with
      | none =>
        obtain ⟨-, d, hread', -⟩ := (regex_eq_ok henclosed).mp hp
        exact absurd ⟨exists_front hread (by rw [hread']; rfl), p, hp⟩ hescapes
      | some d =>
        have hdepth := (fits_of_accepted henclosed hread hp).2
        exact ⟨d.regex, (parse_eq_some hvalue).mpr
          ⟨d, hread, Nat.le_trans (Nat.le_add_right _ 2) hdepth, rfl⟩⟩
    · rintro ⟨r, hr⟩
      obtain ⟨d, hread, hdepth, -⟩ := (parse_eq_some hvalue).mp hr
      obtain ⟨hcomment, hdepth'⟩ := hfits d hread hdepth
      exact ⟨⟨.regex, value⟩, (regex_eq_ok henclosed).mpr
        ⟨rfl, _, read_enclosed_closed hread hcomment, hdepth'⟩⟩
    · obtain ⟨d, hread, hdepth, rfl⟩ := (parse_eq_some hvalue).mp hr
      obtain ⟨hcomment, hdepth'⟩ := hfits d hread hdepth
      obtain rfl := ((regex_eq_ok henclosed).mp hp).1
      exact isMatch_of_read henclosed hread hcomment hdepth' candidate

theorem startAnchored_iff_plus :
    WithinSize "a+" ∧ WithinSize (enclosed "a+") ∧ StartAnchored "a+" := by
  have hvalue : WithinSize "a+" := by
    intro d hd
    cases hd
    decide
  have henclosed : WithinSize (enclosed "a+") := by
    intro d hd
    cases hd
    decide
  refine ⟨hvalue, henclosed, (startAnchored_iff hvalue henclosed).mpr ⟨?_, fun d hd _ => ?_⟩⟩
  · rintro ⟨⟨front, back, htext, -⟩, -⟩
    have hmem : ')' ∈ "a+".toList := by
      rw [htext, toList_parenthesis]
      exact List.mem_append_right _ List.mem_cons_self
    exact absurd hmem (by decide)
  · cases hd
    refine ⟨fun hcomment => ?_, by decide⟩
    exact absurd hcomment.2 (by decide)

theorem unbalanced_accepted : ¬ StartAnchored "a)|(b" := by
  rintro ⟨hvalid, -⟩
  obtain ⟨r, hr⟩ := hvalid.mp ⟨⟨.regex, "a)|(b"⟩, by decide⟩
  have hnone : Regex.parse "a)|(b" = none := by decide
  rw [hnone] at hr
  cases hr

example : (Pattern.mk .regex "a)|(b").isMatch "xb" = true := by decide

end Pattern

end AuditTrail
