import AuditTrail.Pattern

/-
  How the expression of a wildcard pattern is read. Between brackets every character with a meaning
  among members is escaped but for the hyphen, so where no hyphen is doubled a set is read as its
  members and ranges from left to right (`GlobPart.ranges`), and refused if the ends of a range are
  in the wrong order (`readSet_body`). Outside of brackets everything is escaped that is not meant
  as an operator, so each part is read as the expression it stands for, whatever follows it
  (`readBranches_parts`).

  Main statement: `read_expression`. A pattern without doubled hyphens is read as its parts one
  after another, tied to both ends of the text (`Glob.regex`), or refused if a range is in the wrong
  order. `Pattern.wildcard_eq` adds the limit of size.
-/
namespace AuditTrail

/-! ## What parts stand for -/

namespace GlobPart

/-- The members of a set from left to right: ranges, and single characters as ranges of their own. A
hyphen between two characters makes a range of them; any other hyphen is a member. -/
def ranges : List Char → List (Char × Char)
  | [] => []
  | a :: '-' :: b :: rest => (a, b) :: ranges rest
  | a :: rest => (a, a) :: ranges rest

example : ranges ['-', 'a', '-', 'c', '-', 'e', '-'] =
    [('-', '-'), ('a', 'c'), ('-', '-'), ('e', 'e'), ('-', '-')] := rfl

/-- The set of the members, or of all other characters. -/
def charSet (negated : Bool) (body : List Char) : CharSet :=
  if negated then .compl (.spans (ranges body)) else .spans (ranges body)

/-- No range goes from a character to one before it. -/
def InOrder (body : List Char) : Prop := ∀ p ∈ ranges body, p.1.toNat ≤ p.2.toNat

instance (body : List Char) : Decidable (InOrder body) :=
  inferInstanceAs (Decidable (∀ p ∈ ranges body, _))

/-- A set without two hyphens in a row. -/
def Undoubled (body : List Char) : Prop := ¬ ['-', '-'] <:+: body

instance (body : List Char) : Decidable (Undoubled body) := inferInstanceAs (Decidable (¬ _))

theorem Undoubled.tail {c : Char} {body : List Char} (h : Undoubled (c :: body)) :
    Undoubled body := fun hpair => h (hpair.trans (List.suffix_cons c body).isInfix)

theorem Undoubled.next {body : List Char} (h : Undoubled ('-' :: body)) :
    body.head? ≠ some '-' := by
  intro hhead
  obtain ⟨rest, rfl⟩ := List.head?_eq_some_iff.mp hhead
  exact h (List.prefix_append ['-', '-'] rest).isInfix

theorem inOrder_range (a b : Char) (body : List Char) :
    InOrder (a :: '-' :: b :: body) ↔ a.toNat ≤ b.toNat ∧ InOrder body :=
  List.forall_mem_cons

theorem inOrder_single {a : Char} {body : List Char}
    (h : ranges (a :: body) = (a, a) :: ranges body) : InOrder (a :: body) ↔ InOrder body := by
  rw [InOrder, h, List.forall_mem_cons, and_iff_right (Nat.le_refl _), InOrder]

/-- What can be read of a part. -/
def Readable : GlobPart → Prop
  | .set _ body => InOrder body
  | _ => True

instance : DecidablePred Readable
  | .set _ body => inferInstanceAs (Decidable (InOrder body))
  | .run => isTrue trivial
  | .one => isTrue trivial
  | .char _ => isTrue trivial

/-- A part in which no hyphens are doubled. A set has a member. -/
def Plain : GlobPart → Prop
  | .set _ body => body ≠ [] ∧ Undoubled body
  | _ => True

/-- The expression that a part is read as, with its depth. -/
def deep : GlobPart → Regex.Deep
  | .run => ⟨.times (.chars .any) 0 none, 1⟩
  | .one => ⟨.chars .any, 0⟩
  | .set negated body =>
    ⟨.chars (charSet negated body), (if (ranges body).length ≥ 2 then 1 else 0) + 1⟩
  | .char c => ⟨.chars (.single c), 0⟩

end GlobPart

namespace Glob

/-- The expression that a pattern is read as, up to the end of the text. -/
def toEnd (g : Glob) : Regex :=
  g.foldr (fun part rest => .seq part.deep.regex rest) (.look .textEnd)

/-- The expression that a pattern is read as. -/
def regex (g : Glob) : Regex := .seq .empty (.seq (.look .textStart) g.toEnd)

end Glob

namespace Regex

open GlobPart

/-- The flags in force in the expression of a wildcard pattern. -/
def dotAll : Flags := { Flags.initial with dotAll := true }

theorem skip_dotAll (cs : List Char) : dotAll.skip cs = cs := rfl

/-! ## Members of sets -/

variable {c : Char}

/-- Characters that are escaped between brackets. -/
def isEscaped (c : Char) : Bool := ['\\', '[', ']', '&', '~', '^'].contains c

theorem member_of_escaped (h : isEscaped c = true) : member c = ['\\', c] := if_pos h

theorem member_of_plain (h : isEscaped c = false) : member c = [c] :=
  if_neg (Bool.not_eq_true _ ▸ h)

/-- A plain character is none of those escaped. -/
theorem ne_of_plain (h : isEscaped c = false) {d : Char} (hd : isEscaped d = true) : c ≠ d := by
  rintro rfl
  rw [h] at hd
  cases hd

/-- Only a hyphen is written with a hyphen in front, and nothing with a closing bracket or a sign of
negation. -/
theorem head?_member (c : Char) (tail : List Char) :
    ∃ d, (member c ++ tail).head? = some d ∧ d ≠ ']' ∧ d ≠ '^' ∧ (d = '-' ↔ c = '-') := by
  cases hc : isEscaped c with
  | true =>
    rw [member_of_escaped hc]
    refine ⟨'\\', rfl, by decide, by decide, fun h => absurd h (by decide), ?_⟩
    rintro rfl
    cases hc
  | false =>
    rw [member_of_plain hc]
    exact ⟨c, rfl, ne_of_plain hc rfl, ne_of_plain hc rfl, Iff.rfl⟩

theorem readMember_member (c : Char) (tail : List Char) :
    readMember dotAll (member c ++ tail) = some (.literal c false, tail) := by
  cases hc : isEscaped c with
  | true =>
    rw [member_of_escaped hc]
    have hmem := List.contains_iff_mem.mp hc
    simp only [List.mem_cons, List.not_mem_nil, or_false] at hmem
    rcases hmem with rfl | rfl | rfl | rfl | rfl | rfl <;> rfl
  | false =>
    rw [member_of_plain hc, List.singleton_append, readMember]
    exact fun h => absurd h (ne_of_plain hc rfl)

/-- A member with no hyphen after it, or with one that ends the set, is read alone. -/
theorem readRange_single (c : Char) {tail : List Char} (htail : tail ≠ [])
    (h : tail.head? ≠ some '-' ∨ (tail.drop 1).head? = some ']') :
    readRange dotAll (member c ++ tail) = some (.single c, tail) := by
  have halone : tail.head? ≠ some '-' ∨ dotAll.peek tail = some ']' ∨ dotAll.peek tail = some '-' :=
    h.imp_right .inl
  rw [readRange, readMember_member]
  dsimp only [Option.bind_eq_bind, Option.bind_some]
  rw [skip_dotAll, if_neg htail, if_pos halone]
  rfl

/-- Two members with a hyphen between them are read as a range, if they are in order. -/
theorem readRange_range (a b : Char) (hb : b ≠ '-') (tail : List Char) :
    readRange dotAll (member a ++ '-' :: (member b ++ tail)) =
      if a.toNat ≤ b.toNat then some (.span a.toNat b.toNat, tail) else none := by
  have htwo : ¬ (('-' :: (member b ++ tail)).head? ≠ some '-' ∨
      dotAll.peek ('-' :: (member b ++ tail)) = some ']' ∨
      dotAll.peek ('-' :: (member b ++ tail)) = some '-') := by
    obtain ⟨d, hd, hclose, -, hhyphen⟩ := head?_member b tail
    have hpeek : dotAll.peek ('-' :: (member b ++ tail)) = some d := hd
    rw [hpeek]
    rintro (h | h | h)
    · exact h rfl
    · exact hclose (Option.some.inj h)
    · exact hb (hhyphen.mp (Option.some.inj h))
  rw [readRange, readMember_member]
  dsimp only [Option.bind_eq_bind, Option.bind_some]
  rw [skip_dotAll, if_neg (List.cons_ne_nil _ _), if_neg htwo, skip_dotAll, List.drop_one,
    List.tail_cons, readMember_member]
  dsimp only [Option.bind_some]
  have hall : ∀ c, literalAllowed dotAll c = true := fun _ => rfl
  simp only [hall, and_true]

theorem length_le_members (body : List Char) : body.length ≤ (body.flatMap member).length := by
  induction body with
  | nil => exact Nat.le_refl 0
  | cons c body ih =>
    have hlength : 1 ≤ (member c).length := by
      unfold member
      split <;> simp
    rw [List.flatMap_cons, List.length_append, List.length_cons]
    omega

/-- What begins with a member, no doubled hyphen, begins with a range. -/
theorem readItems_member (fuel : Nat) (items : List DeepSet) (c : Char) {tail : List Char}
    (h : c = '-' → tail.head? ≠ some '-') :
    readItems dotAll (fuel + 1) none items (member c ++ tail) =
      match readRange dotAll (member c ++ tail) with
      | none => none
      | some (s, after) => readItems dotAll fuel none (⟨s, 0⟩ :: items) after := by
  cases hc : isEscaped c with
  | true =>
    rw [member_of_escaped hc]
    rfl
  | false =>
    rw [member_of_plain hc, List.singleton_append, readItems, skip_dotAll]
    split
    next heq => cases heq
    next heq => exact absurd (List.head_eq_of_cons_eq heq) (ne_of_plain hc rfl)
    next heq => exact absurd (List.head_eq_of_cons_eq heq) (ne_of_plain hc rfl)
    next heq => exact absurd (List.head_eq_of_cons_eq heq) (ne_of_plain hc rfl)
    next heq =>
      obtain ⟨hhyphen, htail⟩ := List.cons_eq_cons.mp heq
      exact absurd (by rw [htail]; rfl) (h hhyphen)
    next heq => exact absurd (List.head_eq_of_cons_eq heq) (ne_of_plain hc rfl)
    next => rfl

/-- The items of a set, last one first. -/
def itemsOf (body : List Char) : List DeepSet :=
  ((ranges body).map fun p => (⟨.span p.1.toNat p.2.toNat, 0⟩ : DeepSet)).reverse

theorem itemsOf_range (a b : Char) (body : List Char) (items : List DeepSet) :
    itemsOf (a :: '-' :: b :: body) ++ items =
      itemsOf body ++ ⟨.span a.toNat b.toNat, 0⟩ :: items := by
  simp [itemsOf, ranges]

theorem itemsOf_single {a : Char} {body : List Char}
    (h : ranges (a :: body) = (a, a) :: ranges body) (items : List DeepSet) :
    itemsOf (a :: body) ++ items = itemsOf body ++ ⟨.single a, 0⟩ :: items := by
  simp [itemsOf, h, CharSet.single]

theorem head?_members_ne_hyphen {body : List Char} (h : body.head? ≠ some '-')
    (after : List Char) : (body.flatMap member ++ ']' :: after).head? ≠ some '-' := by
  cases body with
  | nil => exact fun h => absurd (Option.some.inj h) (by decide)
  | cons c body =>
    obtain ⟨d, hd, -, -, hhyphen⟩ := head?_member c (body.flatMap member ++ ']' :: after)
    rw [List.flatMap_cons, List.append_assoc, hd]
    intro hd
    exact h (by rw [List.head?_cons, hhyphen.mp (Option.some.inj hd)])

/-- The members of a set without doubled hyphens are read as its ranges, if these are in order. -/
theorem readItems_body {body : List Char} (h : Undoubled body) {fuel : Nat}
    (hfuel : body.length < fuel) (items : List DeepSet) (after : List Char) :
    readItems dotAll fuel none items (body.flatMap member ++ ']' :: after) =
      if InOrder body then some (unionOf (itemsOf body ++ items), after) else none := by
  obtain ⟨fuel, rfl⟩ := Nat.exists_eq_add_one_of_ne_zero (Nat.ne_zero_of_lt hfuel)
  -- Members are read in the order in which `ranges` goes through them, one or three at a time.
  induction body using ranges.induct generalizing fuel items with
  | case1 => rfl
  | case2 a b body ih =>
    rw [List.length_cons] at hfuel
    obtain ⟨fuel, rfl⟩ := Nat.exists_eq_add_one_of_ne_zero (by omega : fuel ≠ 0)
    have hb : b ≠ '-' := by
      rintro rfl
      exact h.tail.next rfl
    have ha : a = '-' → ('-' :: (member b ++ (body.flatMap member ++ ']' :: after))).head? ≠
        some '-' := by
      rintro rfl
      exact absurd rfl h.next
    have htext : (a :: '-' :: b :: body).flatMap member ++ ']' :: after =
        member a ++ '-' :: (member b ++ (body.flatMap member ++ ']' :: after)) := by
      simp only [List.flatMap_cons, List.append_assoc]
      rfl
    rw [htext, readItems_member _ _ _ ha, readRange_range a b hb, itemsOf_range]
    by_cases hab : a.toNat ≤ b.toNat
    · rw [if_pos hab]
      dsimp only
      rw [ih h.tail.tail.tail _ _ (by simp only [List.length_cons] at hfuel; omega)]
      simp only [inOrder_range, hab, true_and]
    · rw [if_neg hab, if_neg fun horder => hab ((inOrder_range a b body).mp horder).1]
  | case3 a body hrange ih =>
    rw [List.length_cons] at hfuel
    obtain ⟨fuel, rfl⟩ := Nat.exists_eq_add_one_of_ne_zero (by omega : fuel ≠ 0)
    have hranges : ranges (a :: body) = (a, a) :: ranges body := by
      rw [ranges]
      exact hrange
    have hnext : a = '-' → (body.flatMap member ++ ']' :: after).head? ≠ some '-' := by
      rintro rfl
      exact head?_members_ne_hyphen h.next after
    have halone : (body.flatMap member ++ ']' :: after).head? ≠ some '-' ∨
        ((body.flatMap member ++ ']' :: after).drop 1).head? = some ']' := by
      by_cases hhead : body.head? = some '-'
      · obtain ⟨rest, rfl⟩ := List.head?_eq_some_iff.mp hhead
        cases rest with
        | nil => exact .inr rfl
        | cons b rest => exact absurd rfl (hrange b rest)
      · exact .inl (head?_members_ne_hyphen hhead after)
    rw [List.flatMap_cons, List.append_assoc, readItems_member _ _ _ hnext,
      readRange_single a (List.append_ne_nil_of_right_ne_nil _ (List.cons_ne_nil _ _)) halone]
    dsimp only
    rw [ih h.tail _ _ (by omega), itemsOf_single hranges]
    simp only [inOrder_single hranges]

/-! ## Sets -/

theorem unionOf_itemsOf (body : List Char) : unionOf (itemsOf body) =
    ⟨.spans (ranges body), if (ranges body).length ≥ 2 then 1 else 0⟩ := by
  have hdepth : ∀ l : List DeepSet, (∀ item ∈ l, item.depth = 0) →
      l.foldl (fun d item => max d item.depth) 0 = 0 := by
    intro l hl
    induction l with
    | nil => rfl
    | cons item l ih =>
      rw [List.foldl_cons, hl item List.mem_cons_self]
      exact ih fun item h => hl item (List.mem_cons_of_mem _ h)
  have hzero : ∀ item ∈ itemsOf body, item.depth = 0 := by
    intro item hitem
    obtain ⟨p, -, rfl⟩ := List.mem_map.mp (List.mem_reverse.mp hitem)
    rfl
  have hlength : (itemsOf body).length = (ranges body).length := by
    rw [itemsOf, List.length_reverse, List.length_map]
  rw [unionOf, hdepth _ hzero, Nat.zero_add, hlength, itemsOf, List.reverse_reverse, List.map_map]
  rfl

theorem takeHyphens_none (fuel : Nat) (items : List DeepSet) {cs : List Char}
    (h : cs.head? ≠ some '-') : takeHyphens dotAll fuel items cs = (items, cs) := by
  unfold takeHyphens
  split
  next => exact absurd rfl h
  next => rfl

/-- A set is read as its members once the sign of negation and hyphens at the start are gone, unless
it then begins with a closing bracket. -/
theorem readSet_signed (negated : Bool) (fuel : Nat) {cs rest : List Char} {items : List DeepSet}
    (hsign : cs.head? ≠ some '^')
    (htake : takeHyphens dotAll (cs.length + 1) [] cs = (items, rest))
    (hclose : items = [] → rest.head? ≠ some ']') :
    readSet dotAll (fuel + 1) ((if negated then ['^'] else []) ++ cs) =
      (readItems dotAll fuel none items rest).map fun (s, rest) =>
        (⟨if negated then .compl s.set else s.set, s.depth + 1⟩, rest) := by
  rw [readSet, skip_dotAll]
  split
  next negated' cs' hsigned =>
  have hpair : negated' = negated ∧ cs' = cs := by
    split at hsigned
    next htext =>
      obtain ⟨rfl, rfl⟩ := Prod.mk.inj hsigned
      cases negated with
      | true => exact ⟨rfl, (List.tail_eq_of_cons_eq htext).symm⟩
      | false => exact absurd (congrArg List.head? htext) hsign
    next hother =>
      obtain ⟨rfl, rfl⟩ := Prod.mk.inj hsigned
      cases negated with
      | true => exact absurd rfl (hother _)
      | false => exact ⟨rfl, rfl⟩
  obtain ⟨rfl, rfl⟩ := hpair
  rw [htake]
  split
  next items' rest' htaken =>
  obtain ⟨rfl, rfl⟩ := Prod.mk.inj htaken
  split
  next items' rest' hopened =>
  have hsame : items' = items ∧ rest' = rest := by
    split at hopened
    next => exact absurd rfl (hclose rfl)
    next =>
      obtain ⟨rfl, rfl⟩ := Prod.mk.inj hopened
      exact ⟨rfl, rfl⟩
  obtain ⟨rfl, rfl⟩ := hsame
  cases readItems dotAll fuel none items' rest' with
  | none => rfl
  | some result => cases negated' <;> rfl

theorem head?_members {body : List Char} (hne : body ≠ []) (after : List Char) :
    ∃ d, (body.flatMap member ++ ']' :: after).head? = some d ∧ d ≠ ']' ∧ d ≠ '^' := by
  obtain ⟨c, body, rfl⟩ := List.exists_cons_of_ne_nil hne
  rw [List.flatMap_cons, List.append_assoc]
  obtain ⟨d, hd, hclose, hsign, -⟩ := head?_member c (body.flatMap member ++ ']' :: after)
  exact ⟨d, hd, hclose, hsign⟩

/-- A hyphen at the start of a set is taken first, and then the rest of the members. -/
theorem readItems_afterHyphens {body : List Char} (hne : body ≠ []) (h : Undoubled body)
    {fuel : Nat} (hfuel : body.length < fuel) (n : Nat) (after : List Char) :
    ∃ items rest,
      takeHyphens dotAll (n + 1) [] (body.flatMap member ++ ']' :: after) = (items, rest) ∧
      (items = [] → rest.head? ≠ some ']') ∧
      readItems dotAll fuel none items rest =
        if InOrder body then some (unionOf (itemsOf body), after) else none := by
  by_cases hhyphen : body.head? = some '-'
  · obtain ⟨body, rfl⟩ := List.head?_eq_some_iff.mp hhyphen
    have hranges : ranges ('-' :: body) = ('-', '-') :: ranges body := by
      rw [ranges]
      rintro b rest rfl
      exact h.next rfl
    rw [List.length_cons] at hfuel
    refine ⟨[⟨.single '-', 0⟩], body.flatMap member ++ ']' :: after,
      takeHyphens_none _ _ (head?_members_ne_hyphen h.next after),
      fun h => absurd h (List.cons_ne_nil _ _), ?_⟩
    rw [readItems_body h.tail (by omega), ← itemsOf_single hranges, List.append_nil]
    simp only [inOrder_single hranges]
  · obtain ⟨d, hd, hclose, -⟩ := head?_members hne after
    refine ⟨[], body.flatMap member ++ ']' :: after,
      takeHyphens_none _ _ (head?_members_ne_hyphen hhyphen after), fun _ => ?_, ?_⟩
    · rw [hd]
      exact fun h => hclose (Option.some.inj h)
    · rw [readItems_body h hfuel, List.append_nil]

/-- A set without doubled hyphens is read as its members, if its ranges are in order. -/
theorem readSet_body (negated : Bool) {body : List Char} (hne : body ≠ []) (h : Undoubled body)
    {fuel : Nat} (hfuel : body.length + 1 < fuel) (after : List Char) :
    readSet dotAll fuel
        ((if negated then ['^'] else []) ++ (body.flatMap member ++ ']' :: after)) =
      if InOrder body then
        some (⟨charSet negated body, (if (ranges body).length ≥ 2 then 1 else 0) + 1⟩, after)
      else none := by
  obtain ⟨fuel, rfl⟩ := Nat.exists_eq_add_one_of_ne_zero (Nat.ne_zero_of_lt hfuel)
  obtain ⟨items, rest, htake, hopen, hread⟩ := readItems_afterHyphens hne h
    (Nat.lt_of_succ_lt_succ hfuel) _ after
  have hsign : (body.flatMap member ++ ']' :: after).head? ≠ some '^' := by
    obtain ⟨d, hd, -, hsign⟩ := head?_members hne after
    rw [hd]
    exact fun h => hsign (Option.some.inj h)
  rw [readSet_signed negated fuel hsign htake hopen, hread, unionOf_itemsOf]
  by_cases horder : InOrder body
  · rw [if_pos horder, if_pos horder]
    rfl
  · rw [if_neg horder, if_neg horder]
    rfl

/-! ## Parts one after another -/

/-- A character that stands for itself is read so. -/
theorem readBranches_escape (fuel : Nat) (items : List (Option Deep)) (c : Char)
    (tail : List Char) :
    readBranches false (fuel + 1) dotAll [] [] items (escape c ++ tail) =
      readBranches false fuel dotAll [] [] (some (GlobPart.char c).deep :: items) tail := by
  cases hc : isMeta c with
  | true =>
    have hmem := List.contains_iff_mem.mp hc
    simp only [List.mem_cons, List.not_mem_nil, or_false] at hmem
    rw [escape, if_pos hc]
    rcases hmem with rfl | rfl | rfl | rfl | rfl | rfl | rfl | rfl | rfl | rfl | rfl | rfl | rfl |
      rfl | rfl | rfl | rfl | rfl <;> rfl
  | false =>
    have hne : ∀ d, isMeta d = true → c ≠ d := by
      rintro d hd rfl
      rw [hc] at hd
      cases hd
    rw [escape, hc, if_neg Bool.false_ne_true, List.singleton_append, readBranches]
    dsimp only
    rw [skip_dotAll]
    split
    -- A character without a meaning of its own takes none of the branches before the last.
    all_goals try next heq => exact absurd (List.head_eq_of_cons_eq heq) (hne _ rfl)
    next heq => cases heq
    next heq =>
      obtain ⟨rfl, rfl⟩ := List.cons_eq_cons.mp heq
      rfl

/-- An opening bracket begins a set. -/
theorem readBranches_bracket (fuel : Nat) (items : List (Option Deep)) (text : List Char) :
    readBranches false (fuel + 1) dotAll [] [] items ('[' :: text) =
      match readSet dotAll (2 * text.length + 2) text with
      | none => none
      | some (s, rest) =>
        readBranches false fuel dotAll [] [] (some ⟨.chars s.set, s.depth⟩ :: items) rest := rfl

/-- The expression of a part does not begin with a question mark. -/
theorem head?_expression_ne (part : GlobPart) (tail : List Char) :
    (part.expression ++ tail).head? ≠ some '?' := by
  cases part with
  | run => exact fun h => absurd (Option.some.inj h) (by decide)
  | one => exact fun h => absurd (Option.some.inj h) (by decide)
  | set => exact fun h => absurd (Option.some.inj h) (by decide)
  | char c =>
    intro h
    by_cases hc : isMeta c = true
    · rw [GlobPart.expression, escape, if_pos hc] at h
      exact absurd (Option.some.inj h) (by decide)
    · rw [GlobPart.expression, escape, if_neg hc] at h
      exact hc (by rw [Option.some.inj h]; rfl)

/-- One part is read as the expression it stands for. -/
theorem readBranches_part {part : GlobPart} (h : part.Plain) {fuel : Nat}
    (hfuel : part.expression.length ≤ fuel) (items : List (Option Deep)) {tail : List Char}
    (htail : tail.head? ≠ some '?') :
    ∃ left, fuel ≤ left + part.expression.length ∧
      readBranches false fuel dotAll [] [] items (part.expression ++ tail) =
        if part.Readable then
          readBranches false left dotAll [] [] (some part.deep :: items) tail
        else none := by
  cases part with
  | run =>
    obtain ⟨left, rfl⟩ := Nat.exists_eq_add_of_le' hfuel
    have hgreedy : dropReluctant tail = tail := by
      unfold dropReluctant
      split
      next => exact absurd rfl htail
      next => rfl
    have hstep : readBranches false (left + 2) dotAll [] [] items ('.' :: '*' :: tail) =
        readBranches false left dotAll [] [] (some GlobPart.run.deep :: items)
          (dropReluctant tail) := rfl
    rw [hgreedy] at hstep
    exact ⟨left, Nat.le_refl _, hstep.trans (if_pos (show GlobPart.run.Readable from trivial)).symm⟩
  | one =>
    obtain ⟨left, rfl⟩ := Nat.exists_eq_add_of_le' hfuel
    exact ⟨left, Nat.le_refl _, rfl⟩
  | set negated body =>
    have htext : (GlobPart.set negated body).expression ++ tail =
        '[' :: ((if negated then ['^'] else []) ++ (body.flatMap member ++ ']' :: tail)) := by
      simp [GlobPart.expression]
    have hlength : 1 ≤ (GlobPart.set negated body).expression.length := Nat.le_add_left 1 _
    obtain ⟨left, rfl⟩ := Nat.exists_eq_add_of_le' (Nat.le_trans hlength hfuel)
    refine ⟨left, by omega, ?_⟩
    rw [htext, readBranches_bracket, readSet_body negated h.1 h.2]
    · by_cases horder : InOrder body
      · rw [if_pos horder, if_pos (show (GlobPart.set negated body).Readable from horder)]
        rfl
      · rw [if_neg horder, if_neg (show ¬ (GlobPart.set negated body).Readable from horder)]
    · simp only [List.length_append, List.length_cons]
      have := length_le_members body
      omega
  | char c =>
    have hlength : 1 ≤ (GlobPart.char c).expression.length := by
      rw [GlobPart.expression, escape]
      split <;> simp
    obtain ⟨left, rfl⟩ := Nat.exists_eq_add_of_le' (Nat.le_trans hlength hfuel)
    exact ⟨left, by omega, (readBranches_escape left items c tail).trans
      (if_pos (show (GlobPart.char c).Readable from trivial)).symm⟩

theorem readBranches_parts {g : Glob} (h : ∀ part ∈ g, part.Plain) {fuel : Nat}
    (hfuel : (g.flatMap (·.expression)).length + 2 ≤ fuel) (items : List (Option Deep)) :
    readBranches false fuel dotAll [] [] items (g.flatMap (·.expression) ++ ['$']) =
      if ∀ part ∈ g, part.Readable then
        some (concatenate (some ⟨.look .textEnd, 0⟩ ::
          ((g.map fun part => some part.deep).reverse ++ items)), [], [])
      else none := by
  induction g generalizing fuel items with
  | nil =>
    obtain ⟨fuel, rfl⟩ := Nat.exists_eq_add_of_le' hfuel
    exact (if_pos fun _ h => absurd h List.not_mem_nil).symm
  | cons part g ih =>
    rw [List.flatMap_cons, List.length_append] at hfuel
    have hnext : (g.flatMap (·.expression) ++ ['$']).head? ≠ some '?' := by
      cases g with
      | nil => exact fun h => absurd (Option.some.inj h) (by decide)
      | cons next g =>
        rw [List.flatMap_cons, List.append_assoc]
        exact head?_expression_ne next _
    obtain ⟨left, hleft, hread⟩ := readBranches_part (h part List.mem_cons_self)
      (by omega : part.expression.length ≤ fuel) items hnext
    rw [List.flatMap_cons, List.append_assoc, hread]
    by_cases hpart : part.Readable
    · rw [if_pos hpart, ih (fun part hp => h part (List.mem_cons_of_mem _ hp)) (by omega)]
      simp only [List.forall_mem_cons, hpart, true_and, List.map_cons, List.reverse_cons,
        List.append_assoc, List.singleton_append]
    · rw [if_neg hpart, if_neg fun hall => hpart (hall part List.mem_cons_self)]

/-! ## Whole patterns -/

/-- The expression of a pattern sets a flag and begins at the start of the text. -/
theorem read_opening (g : Glob) : read g.expression =
    (readBranches false ((g.flatMap (·.expression) ++ ['$']).length + 4) dotAll [] []
      [some ⟨.look .textStart, 0⟩, none] (g.flatMap (·.expression) ++ ['$'])).map (·.1) := by
  rw [read, Glob.expression, String.toList_ofList]
  rfl

/-- The concatenation of what is read so far with an item in front of it. -/
def prepend (acc : Deep) (item : Option Deep) : Deep :=
  ⟨match acc.regex with
    | .empty => (item.getD ⟨.empty, 0⟩).regex
    | r => .seq (item.getD ⟨.empty, 0⟩).regex r,
    max acc.depth ((item.getD ⟨.empty, 0⟩).depth + 1)⟩

theorem concatenate_cons (item : Option Deep) {items : List (Option Deep)} (h : items ≠ []) :
    concatenate (item :: items) = items.foldl prepend (prepend ⟨.empty, 0⟩ item) := by
  obtain ⟨next, items, rfl⟩ := List.exists_cons_of_ne_nil h
  rfl

theorem depth_le (part : GlobPart) : part.deep.depth ≤ 2 := by
  cases part with
  | run => decide
  | one => decide
  | char => exact Nat.zero_le 2
  | set negated body =>
    rw [GlobPart.deep]
    dsimp only
    split <;> decide

theorem foldl_prepend_parts (g : Glob) : ∃ depth ≤ 3,
    ((g.map fun part => some part.deep).reverse).foldl prepend ⟨.look .textEnd, 1⟩ =
      ⟨g.toEnd, depth⟩ := by
  induction g with
  | nil => exact ⟨1, by decide, rfl⟩
  | cons part g ih =>
    obtain ⟨depth, hdepth, hfold⟩ := ih
    rw [List.map_cons, List.reverse_cons, List.foldl_append, hfold]
    have := depth_le part
    refine ⟨max depth (part.deep.depth + 1), by omega, ?_⟩
    cases g with
    | nil => rfl
    | cons => rfl

/-- A pattern without doubled hyphens is read as its parts one after another between both ends of
the text, and is refused if a range is in the wrong order. -/
theorem read_expression {g : Glob} (h : ∀ part ∈ g, part.Plain) :
    ∃ depth ≤ nestingLimit, read g.expression =
      if ∀ part ∈ g, part.Readable then some ⟨g.regex, depth⟩ else none := by
  obtain ⟨depth, hdepth, hfold⟩ := foldl_prepend_parts g
  have hconcatenate : concatenate (some ⟨.look .textEnd, 0⟩ ::
      ((g.map fun part => some part.deep).reverse ++ [some ⟨.look .textStart, 0⟩, none])) =
      ⟨g.regex, max (max depth 1) 1⟩ := by
    have hend : prepend ⟨.empty, 0⟩ (some ⟨.look .textEnd, 0⟩) = ⟨.look .textEnd, 1⟩ := rfl
    rw [concatenate_cons _ (List.append_ne_nil_of_right_ne_nil _ (List.cons_ne_nil _ _)),
      List.foldl_append, hend, hfold]
    cases g with
    | nil => rfl
    | cons => rfl
  refine ⟨max (max depth 1) 1, by rw [nestingLimit]; omega, ?_⟩
  rw [read_opening, readBranches_parts h (by rw [List.length_append]; omega), hconcatenate]
  split
  next => rfl
  next => rfl

end Regex

/-! ## Patterns -/

/-- A wildcard pattern without doubled hyphens is accepted if all its ranges are in order and its
expression keeps within the limit of size. -/
theorem Pattern.wildcard_eq {value : String} (h : ∀ part ∈ Glob.parse value.toList, part.Plain) :
    Pattern.wildcard value =
      if (∀ part ∈ Glob.parse value.toList, part.Readable) ∧
        (Glob.parse value.toList).regex.size ≤ Regex.sizeLimit
      then some (Glob.parse value.toList).regex else none := by
  obtain ⟨depth, hdepth, hread⟩ := Regex.read_expression h
  rw [wildcard, Regex.parse, hread]
  by_cases hreadable : ∀ part ∈ Glob.parse value.toList, part.Readable
  · rw [if_pos hreadable]
    simp only [hdepth, true_and, and_iff_right hreadable]
  · rw [if_neg hreadable, if_neg fun hboth => hreadable hboth.1]

end AuditTrail
