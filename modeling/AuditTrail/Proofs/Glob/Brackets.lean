import AuditTrail.Proofs.Glob.Reading
import AuditTrail.Proofs.Text.Separator

/-
  What wildcard patterns match, said of their texts from left to right (`Glob.Matches`), and where
  their bracket expressions are (`Glob.HasSet`). Both rest on what a closed bracket expression is
  (`Glob.Closed`), and leave open what its members stand for.

  The reader of patterns goes by this. It splits off a bracket expression exactly where there is one
  (`splitSet_eq_some_iff`), its sets are those of the text (`mem_parse_iff`), and a pattern matches
  what its parts stand for one after another (`matches_iff`).
-/
namespace AuditTrail

namespace Glob

/-! ## Bracket expressions -/

/-- The text after an opening bracket begins with a set: a sign of negation or none, at least one
member, and the closing bracket. A closing bracket among the members is the first of them. -/
structure Closed (text : List Char) (negated : Bool) (body rest : List Char) : Prop where
  text_eq : text = (if negated then ['!'] else []) ++ (body ++ ']' :: rest)
  nonempty : body ≠ []
  closes : ']' ∉ body.tail
  unsigned : negated = false → body.head? ≠ some '!'

theorem closed_of_splitSet {text body rest : List Char} {negated : Bool}
    (h : splitSet text = some (negated, body, rest)) : Closed text negated body rest := by
  unfold splitSet at h
  split at h
  next signed cs hsigned =>
  split at h
  next first cs' hfirst =>
  split at h
  next => cases h
  next close rest' hdrop =>
  have hcs := Text.joined_of_cut hdrop
  have hinner := Text.not_mem_takeWhile ']' cs'
  simp only [Option.some.injEq, Prod.mk.injEq] at h
  obtain ⟨rfl, rfl, rfl⟩ := h
  have hmembers : cs = (first ++ cs'.takeWhile (· ≠ ']')) ++ ']' :: rest' ∧
      first ++ cs'.takeWhile (· ≠ ']') ≠ [] ∧ ']' ∉ (first ++ cs'.takeWhile (· ≠ ']')).tail := by
    split at hfirst
    next =>
      obtain ⟨rfl, rfl⟩ := Prod.mk.inj hfirst
      exact ⟨congrArg (']' :: ·) hcs, List.cons_ne_nil _ _, hinner⟩
    next hother =>
      obtain ⟨rfl, rfl⟩ := Prod.mk.inj hfirst
      refine ⟨hcs, fun hnil => ?_, fun hmem => hinner (List.mem_of_mem_tail hmem)⟩
      rw [List.nil_append] at hnil
      rw [hnil] at hcs
      exact hother _ hcs
  obtain ⟨hcs, hne, hcloses⟩ := hmembers
  refine ⟨?_, hne, hcloses, fun hunsigned hhead => ?_⟩
  · split at hsigned
    next =>
      obtain ⟨rfl, rfl⟩ := Prod.mk.inj hsigned
      exact congrArg ('!' :: ·) hcs
    next =>
      obtain ⟨rfl, rfl⟩ := Prod.mk.inj hsigned
      exact hcs
  · split at hsigned
    next => exact absurd (Prod.mk.inj hsigned).1 (by rw [hunsigned]; decide)
    next hother =>
      obtain ⟨rfl, rfl⟩ := Prod.mk.inj hsigned
      obtain ⟨inner, hbody⟩ := List.head?_eq_some_iff.mp hhead
      rw [hbody] at hcs
      exact hother _ hcs

theorem Closed.splitSet_eq {text body rest : List Char} {negated : Bool}
    (h : Closed text negated body rest) : splitSet text = some (negated, body, rest) := by
  obtain ⟨rfl, hne, hcloses, hunsigned⟩ := h
  obtain ⟨c, inner, rfl⟩ := List.exists_cons_of_ne_nil hne
  unfold splitSet
  split
  next signed cs hsigned =>
  have hsign : signed = negated ∧ cs = c :: (inner ++ ']' :: rest) := by
    split at hsigned
    next htext =>
      obtain ⟨rfl, rfl⟩ := Prod.mk.inj hsigned
      cases negated with
      | true => exact ⟨rfl, (List.tail_eq_of_cons_eq htext).symm⟩
      | false => exact absurd (by rw [List.head_eq_of_cons_eq htext]; rfl) (hunsigned rfl)
    next hother =>
      obtain ⟨rfl, rfl⟩ := Prod.mk.inj hsigned
      cases negated with
      | true => exact absurd rfl (hother _)
      | false => exact ⟨rfl, rfl⟩
  obtain ⟨rfl, rfl⟩ := hsign
  split
  next first cs hfirst =>
  have hspan : cs.dropWhile (· ≠ ']') = ']' :: rest ∧
      first ++ cs.takeWhile (· ≠ ']') = c :: inner := by
    split at hfirst
    next hcs =>
      obtain ⟨rfl, rfl⟩ := Prod.mk.inj hfirst
      obtain ⟨rfl, rfl⟩ := List.cons_eq_cons.mp hcs
      obtain ⟨htake, hdrop⟩ := Text.cut_at hcloses rest
      exact ⟨hdrop, congrArg (']' :: ·) htake⟩
    next hother =>
      obtain ⟨rfl, rfl⟩ := Prod.mk.inj hfirst
      have hinner : ']' ∉ c :: inner := by
        rw [List.mem_cons, not_or]
        exact ⟨fun heq => hother _ (by rw [heq]), hcloses⟩
      exact (Text.cut_at hinner rest).symm
  obtain ⟨hdrop, htake⟩ := hspan
  rw [hdrop, htake]

/-- The reader splits off a bracket expression exactly where there is one. -/
theorem splitSet_eq_some_iff {text body rest : List Char} {negated : Bool} :
    splitSet text = some (negated, body, rest) ↔ Closed text negated body rest :=
  ⟨closed_of_splitSet, Closed.splitSet_eq⟩

/-- The text holds a closed bracket expression with these members. After an opening bracket without
a closing one the text goes on with the next character. -/
inductive HasSet (body : List Char) : List Char → Prop
  | here {text rest : List Char} {negated : Bool} :
      Closed text negated body rest → HasSet body ('[' :: text)
  | behind {text members rest : List Char} {negated : Bool} :
      Closed text negated members rest → HasSet body rest → HasSet body ('[' :: text)
  | unclosed {text : List Char} : (∀ negated members rest, ¬ Closed text negated members rest) →
      HasSet body text → HasSet body ('[' :: text)
  | later {c : Char} {text : List Char} : c ≠ '[' → HasSet body text → HasSet body (c :: text)

/-! ## What patterns match -/

section Matching

variable (inSet : List Char → Char → Prop)

/-- A text matches a pattern, both read from left to right, where `inSet` says what the members
between brackets stand for. -/
inductive Matches : List Char → List Char → Prop
  | nil : Matches [] []
  | run {pattern passed rest : List Char} :
      Matches pattern rest → Matches ('*' :: pattern) (passed ++ rest)
  | one {c : Char} {pattern rest : List Char} :
      Matches pattern rest → Matches ('?' :: pattern) (c :: rest)
  | set {c : Char} {text body pattern rest : List Char} {negated : Bool} :
      Closed text negated body pattern → (inSet body c ↔ negated = false) →
      Matches pattern rest → Matches ('[' :: text) (c :: rest)
  | unclosed {pattern rest : List Char} :
      (∀ negated body after, ¬ Closed pattern negated body after) →
      Matches pattern rest → Matches ('[' :: pattern) ('[' :: rest)
  | self {c : Char} {pattern rest : List Char} : c ≠ '*' → c ≠ '?' → c ≠ '[' →
      Matches pattern rest → Matches (c :: pattern) (c :: rest)

end Matching

end Glob

/-- A text is one that a part stands for. -/
def GlobPart.Accepts (inSet : List Char → Char → Prop) : GlobPart → List Char → Prop
  | .run, _ => True
  | .one, s => ∃ c, s = [c]
  | .set negated body, s => ∃ c, s = [c] ∧ (inSet body c ↔ negated = false)
  | .char c, s => s = [c]

namespace Glob

/-- A text consists of texts that the parts stand for. -/
def Accepts (inSet : List Char → Char → Prop) : Glob → List Char → Prop
  | [], s => s = []
  | part :: g, s => ∃ s₁ s₂, s = s₁ ++ s₂ ∧ part.Accepts inSet s₁ ∧ Accepts inSet g s₂

/-! ## The reader -/

theorem parse_closed {text body rest : List Char} {negated : Bool}
    (h : Closed text negated body rest) :
    parse ('[' :: text) = .set negated body :: parse rest := by
  rw [parse]
  split
  next hnone =>
    rw [h.splitSet_eq] at hnone
    cases hnone
  next hsome =>
    rw [h.splitSet_eq] at hsome
    cases hsome
    rfl

theorem parse_unclosed {text : List Char}
    (h : ∀ negated body rest, ¬ Closed text negated body rest) :
    parse ('[' :: text) = .char '[' :: parse text := by
  rw [parse]
  split
  next => rfl
  next hsome => exact absurd (closed_of_splitSet hsome) (h _ _ _)

theorem parse_char {c : Char} (hrun : c ≠ '*') (hone : c ≠ '?') (hset : c ≠ '[')
    (text : List Char) : parse (c :: text) = .char c :: parse text := by
  rw [parse]
  · exact hrun
  · exact hone
  · exact hset

/-- What holds of the empty text, and of a text if of what the reader goes on with, holds of all. -/
theorem byParts {P : List Char → Prop} (nil : P [])
    (run : ∀ text, P text → P ('*' :: text)) (one : ∀ text, P text → P ('?' :: text))
    (set : ∀ text negated body rest, Closed text negated body rest → P rest → P ('[' :: text))
    (unclosed : ∀ text, (∀ negated body rest, ¬ Closed text negated body rest) → P text →
      P ('[' :: text))
    (self : ∀ c text, c ≠ '*' → c ≠ '?' → c ≠ '[' → P text → P (c :: text)) (text : List Char) :
    P text := by
  induction text using parse.induct with
  | case1 => exact nil
  | case2 text ih => exact run text ih
  | case3 text ih => exact one text ih
  | case4 text hnone ih =>
    refine unclosed text (fun negated body rest hclosed => ?_) ih
    rw [hclosed.splitSet_eq] at hnone
    cases hnone
  | case5 text negated body rest hsome _ ih =>
    exact set text negated body rest (closed_of_splitSet hsome) ih
  | case6 c text hrun hone hset ih => exact self c text hrun hone hset ih

section Append

variable {tail : List Char} (htail : ']' ∉ tail)

include htail

/-- A bracket expression is not closed by what holds no closing bracket. -/
theorem closed_append {text body after : List Char} {negated : Bool} :
    Closed (text ++ tail) negated body after ↔
      ∃ rest, after = rest ++ tail ∧ Closed text negated body rest := by
  constructor
  · rintro ⟨htext, hne, hcloses, hunsigned⟩
    rw [← List.append_assoc] at htext
    rcases List.append_eq_append_iff.mp htext with ⟨more, -, hmore⟩ | ⟨more, htext', hmore⟩
    · have hclose : ']' ∈ more ++ ']' :: after := List.mem_append_right _ List.mem_cons_self
      exact absurd (hmore ▸ hclose) htail
    · cases more with
      | nil =>
        have hclose : ']' ∈ ']' :: after := List.mem_cons_self
        rw [hmore] at hclose
        exact absurd hclose htail
      | cons c rest =>
        obtain ⟨rfl, rfl⟩ := List.cons_eq_cons.mp hmore
        refine ⟨rest, rfl, ?_, hne, hcloses, hunsigned⟩
        rw [htext', List.append_assoc]
  · rintro ⟨rest, rfl, htext, hne, hcloses, hunsigned⟩
    refine ⟨?_, hne, hcloses, hunsigned⟩
    rw [htext, List.append_assoc, List.append_assoc]
    rfl

theorem parse_append (text : List Char) : parse (text ++ tail) = parse text ++ parse tail := by
  induction text using byParts with
  | nil =>
    rw [parse]
    rfl
  | run text ih => rw [List.cons_append, parse, ih, parse, List.cons_append]
  | one text ih => rw [List.cons_append, parse, ih, parse, List.cons_append]
  | set text negated body rest hclosed ih =>
    have hclosed' := (closed_append htail).mpr ⟨rest, rfl, hclosed⟩
    rw [List.cons_append, parse_closed hclosed', ih, parse_closed hclosed, List.cons_append]
  | unclosed text hopen ih =>
    have hopen' : ∀ negated body after, ¬ Closed (text ++ tail) negated body after := by
      intro negated body after hclosed
      obtain ⟨rest, -, hclosed⟩ := (closed_append htail).mp hclosed
      exact hopen negated body rest hclosed
    rw [List.cons_append, parse_unclosed hopen', ih, parse_unclosed hopen, List.cons_append]
  | self c text hrun hone hset ih =>
    rw [List.cons_append, parse_char hrun hone hset, ih, parse_char hrun hone hset,
      List.cons_append]

end Append

theorem accepts_append {inSet : List Char → Char → Prop} {g g' : Glob} {s : List Char} :
    Accepts inSet (g ++ g') s ↔
      ∃ s₁ s₂, s = s₁ ++ s₂ ∧ g.Accepts inSet s₁ ∧ g'.Accepts inSet s₂ := by
  induction g generalizing s with
  | nil =>
    constructor
    · exact fun h => ⟨[], s, rfl, rfl, h⟩
    · rintro ⟨_, _, rfl, rfl, h⟩
      exact h
  | cons part g ih =>
    simp only [List.cons_append, Accepts, ih]
    constructor
    · rintro ⟨s₁, _, rfl, hpart, s₂, s₃, rfl, hg, hg'⟩
      exact ⟨s₁ ++ s₂, s₃, (List.append_assoc _ _ _).symm, ⟨s₁, s₂, rfl, hpart, hg⟩, hg'⟩
    · rintro ⟨_, s₃, rfl, ⟨s₁, s₂, rfl, hpart, hg⟩, hg'⟩
      exact ⟨s₁, s₂ ++ s₃, List.append_assoc _ _ _, hpart, s₂, s₃, rfl, hg, hg'⟩

theorem mem_parse_iff {text body : List Char} :
    (∃ negated, .set negated body ∈ parse text) ↔ HasSet body text := by
  constructor
  · rintro ⟨negated, h⟩
    induction text using byParts with
    | nil =>
      rw [parse] at h
      cases h
    | run text ih =>
      rw [parse, List.mem_cons, or_iff_right GlobPart.noConfusion] at h
      exact .later (by decide) (ih h)
    | one text ih =>
      rw [parse, List.mem_cons, or_iff_right GlobPart.noConfusion] at h
      exact .later (by decide) (ih h)
    | set text negated' members rest hclosed ih =>
      rw [parse_closed hclosed, List.mem_cons, GlobPart.set.injEq] at h
      rcases h with ⟨rfl, rfl⟩ | h
      · exact .here hclosed
      · exact .behind hclosed (ih h)
    | unclosed text hopen ih =>
      rw [parse_unclosed hopen, List.mem_cons, or_iff_right GlobPart.noConfusion] at h
      exact .unclosed hopen (ih h)
    | self c text hrun hone hset ih =>
      rw [parse_char hrun hone hset, List.mem_cons, or_iff_right GlobPart.noConfusion] at h
      exact .later hset (ih h)
  · intro h
    induction h with
    | here hclosed =>
      rw [parse_closed hclosed]
      exact ⟨_, List.mem_cons_self⟩
    | behind hclosed _ ih =>
      obtain ⟨negated, ih⟩ := ih
      rw [parse_closed hclosed]
      exact ⟨negated, List.mem_cons_of_mem _ ih⟩
    | unclosed hopen _ ih =>
      obtain ⟨negated, ih⟩ := ih
      rw [parse_unclosed hopen]
      exact ⟨negated, List.mem_cons_of_mem _ ih⟩
    | @later c text hset _ ih =>
      obtain ⟨negated, ih⟩ := ih
      refine ⟨negated, ?_⟩
      by_cases hrun : c = '*'
      · rw [hrun, parse]
        exact List.mem_cons_of_mem _ ih
      by_cases hone : c = '?'
      · rw [hone, parse]
        exact List.mem_cons_of_mem _ ih
      rw [parse_char hrun hone hset]
      exact List.mem_cons_of_mem _ ih

/-- A pattern matches what its parts stand for. -/
theorem matches_iff {inSet : List Char → Char → Prop} {pattern s : List Char} :
    Matches inSet pattern s ↔ (parse pattern).Accepts inSet s := by
  constructor
  · intro h
    induction h with
    | nil =>
      rw [parse]
      rfl
    | run _ ih =>
      rw [parse]
      exact ⟨_, _, rfl, trivial, ih⟩
    | one _ ih =>
      rw [parse]
      exact ⟨[_], _, rfl, ⟨_, rfl⟩, ih⟩
    | set hclosed hin _ ih =>
      rw [parse_closed hclosed]
      exact ⟨[_], _, rfl, ⟨_, rfl, hin⟩, ih⟩
    | unclosed hopen _ ih =>
      rw [parse_unclosed hopen]
      exact ⟨['['], _, rfl, rfl, ih⟩
    | self hrun hone hset _ ih =>
      rw [parse_char hrun hone hset]
      exact ⟨[_], _, rfl, rfl, ih⟩
  · intro h
    induction pattern using byParts generalizing s with
    | nil =>
      rw [parse] at h
      obtain rfl : s = [] := h
      exact .nil
    | run text ih =>
      rw [parse] at h
      obtain ⟨passed, rest, rfl, -, hrest⟩ := h
      exact .run (ih hrest)
    | one text ih =>
      rw [parse] at h
      obtain ⟨_, rest, rfl, ⟨c, rfl⟩, hrest⟩ := h
      exact .one (ih hrest)
    | set text negated body rest hclosed ih =>
      rw [parse_closed hclosed] at h
      obtain ⟨_, rest, rfl, ⟨c, rfl, hin⟩, hrest⟩ := h
      exact .set hclosed hin (ih hrest)
    | unclosed text hopen ih =>
      rw [parse_unclosed hopen] at h
      obtain ⟨_, rest, rfl, rfl, hrest⟩ := h
      exact .unclosed hopen (ih hrest)
    | self c text hrun hone hset ih =>
      rw [parse_char hrun hone hset] at h
      obtain ⟨_, rest, rfl, rfl, hrest⟩ := h
      exact .self hrun hone hset (ih hrest)

theorem HasSet.nonempty {text body : List Char} (h : HasSet body text) : body ≠ [] := by
  induction h with
  | here hclosed => exact hclosed.nonempty
  | behind _ _ ih => exact ih
  | unclosed _ _ ih => exact ih
  | later _ _ ih => exact ih

end Glob

end AuditTrail
