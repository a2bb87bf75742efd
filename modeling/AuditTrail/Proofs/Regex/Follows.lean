import AuditTrail.Regex.Reader
import Mathlib.Data.List.TakeWhile

/-
  Reading a text by itself and in front of a closing parenthesis, as in a group made of it. A reader
  does the same in both cases as long as it does not come to the end (`Follows.carried`); if it
  does, in front of a parenthesis it either fails or reads on beyond the parenthesis, and it can
  only succeed by itself if a comment is left open (`Follows.passed`). Here are blanks and comments
  (`skip_closed`), and how readers are put together (`Follows.bind`, `Follows.of_settled`).
-/
namespace AuditTrail.Regex

section Follows

variable {α β : Type}

/-- What is left lies beyond the parenthesis in front of `tail`. -/
def Past (tail : List Char) (long : Option (α × List Char)) : Prop :=
  ∀ x rest, long = some (x, rest) → rest.length ≤ tail.length

/-- How reading a text by itself goes and how it goes with a parenthesis and any `tail` behind. -/
inductive Follows : Option (α × List Char) → (List Char → Option (α × List Char)) → Prop
  | carried {x : α} {rest : List Char} {long : List Char → Option (α × List Char)} :
      (∀ tail, long tail = some (x, rest ++ ')' :: tail)) → Follows (some (x, rest)) long
  | passed {short : Option (α × List Char)} {long : List Char → Option (α × List Char)} :
      (∀ tail, Past tail (long tail)) →
      (∀ x rest, short = some (x, rest) → rest = [] ∧ long [] = some (x, [])) → Follows short long

theorem past_none (tail : List Char) : Past tail (none : Option (α × List Char)) := nofun

theorem Past.map {tail : List Char} {long : Option (α × List Char)}
    {g : α × List Char → β × List Char} (hg : ∀ x rest, (g (x, rest)).2 = rest)
    (h : Past tail long) : Past tail (long.map g) := by
  intro y rest hy
  obtain ⟨⟨x, rest'⟩, hx, hgx⟩ := Option.map_eq_some_iff.mp hy
  have hrest : rest = rest' := by
    rw [← hg x rest', hgx]
  rw [hrest]
  exact h x rest' hx

theorem Follows.of_past {long : List Char → Option (α × List Char)}
    (h : ∀ tail, Past tail (long tail)) : Follows none long := .passed h nofun

/-- What is made of the thing read makes no difference. -/
theorem Follows.map {short : Option (α × List Char)} {long : List Char → Option (α × List Char)}
    {g : α × List Char → β × List Char} {k : α → β} (hg : ∀ x rest, g (x, rest) = (k x, rest))
    (h : Follows short long) : Follows (short.map g) (fun tail => (long tail).map g) := by
  cases h with
  | carried hlong =>
    rw [Option.map_some, hg]
    exact .carried fun tail => by rw [hlong, Option.map_some, hg]
  | passed hpast hend =>
    refine .passed (fun tail => (hpast tail).map fun x rest => by rw [hg]) fun y rest hy => ?_
    obtain ⟨⟨x, rest'⟩, hx, hgx⟩ := Option.map_eq_some_iff.mp hy
    obtain ⟨rfl, hlong⟩ := hend x rest' hx
    rw [hg] at hgx
    obtain ⟨rfl, rfl⟩ := Prod.mk.inj hgx
    exact ⟨rfl, by rw [hlong, Option.map_some, hg]⟩

/-- One reader after another. How the second goes on may depend on what follows the parenthesis, but
it reads nothing that is not there. -/
theorem Follows.chain {short : Option (α × List Char)} {long : List Char → Option (α × List Char)}
    (h : Follows short long) (k : α × List Char → Option (β × List Char))
    (k' : List Char → α × List Char → Option (β × List Char))
    (hnext : ∀ x rest, short = some (x, rest) →
      Follows (k (x, rest)) (fun tail => k' tail (x, rest ++ ')' :: tail)))
    (hsuffix : ∀ tail x cs y rest, k' tail (x, cs) = some (y, rest) → rest <:+ cs)
    (hend : ∀ x y rest, k (x, []) = some (y, rest) → rest = [] ∧ k' [] (x, []) = some (y, [])) :
    Follows (short.bind k) (fun tail => (long tail).bind (k' tail)) := by
  cases h with
  | @carried x rest long hlong =>
    have hk : (fun tail => (long tail).bind (k' tail)) =
        fun tail => k' tail (x, rest ++ ')' :: tail) := by
      funext tail
      rw [hlong, Option.bind_some]
    rw [hk]
    exact hnext x rest rfl
  | passed hpast hshort =>
    refine .passed (fun tail y rest hy => ?_) fun y rest hy => ?_
    · obtain ⟨⟨x, cs⟩, hx, hk⟩ := Option.bind_eq_some_iff.mp hy
      exact Nat.le_trans (hsuffix tail x cs y rest hk).length_le (hpast tail x cs hx)
    · obtain ⟨⟨x, cs⟩, hx, hk⟩ := Option.bind_eq_some_iff.mp hy
      obtain ⟨rfl, hlong⟩ := hshort x cs hx
      obtain ⟨rfl, hk'⟩ := hend x y rest hk
      exact ⟨rfl, by rw [hlong, Option.bind_some, hk']⟩

/-- One reader after another, where the second does not depend on what follows the parenthesis. -/
theorem Follows.bind {short : Option (α × List Char)} {long : List Char → Option (α × List Char)}
    {k : α × List Char → Option (β × List Char)} (h : Follows short long)
    (hnext : ∀ x rest, short = some (x, rest) →
      Follows (k (x, rest)) (fun tail => k (x, rest ++ ')' :: tail)))
    (hsuffix : ∀ x cs y rest, k (x, cs) = some (y, rest) → rest <:+ cs) :
    Follows (short.bind k) (fun tail => (long tail).bind k) := by
  refine h.chain k (fun _ => k) hnext (fun _ => hsuffix) fun x y rest hk => ?_
  obtain rfl := List.suffix_nil.mp (hsuffix x [] y rest hk)
  exact ⟨rfl, hk⟩

/-- Where nothing more is read, there may still be nothing to be made of what was. -/
theorem follows_map (o : Option α) (g : α → β) (t : List Char) :
    Follows (o.map fun a => (g a, t)) (fun tail => o.map fun a => (g a, t ++ ')' :: tail)) := by
  cases o with
  | none => exact .of_past fun tail => past_none tail
  | some a => exact .carried fun _ => rfl

/-- What never comes to the end is read alike. -/
theorem follows_of_closed {short : Option (α × List Char)}
    {long : List Char → Option (α × List Char)}
    (h : ∀ tail, long tail = short.map fun p => (p.1, p.2 ++ ')' :: tail)) :
    Follows short long := by
  cases short with
  | none =>
    refine .of_past fun tail => ?_
    rw [h]
    exact past_none tail
  | some p => exact .carried h

theorem rest_of_map {o : Option α} {g : α → β} {cs rest : List Char} {y : β}
    (h : (o.map fun a => (g a, cs)) = some (y, rest)) : rest = cs := by
  obtain ⟨a, -, heq⟩ := Option.map_eq_some_iff.mp h
  exact (Prod.mk.inj heq).2.symm

theorem suffix_of_map {o : Option α} {g : α → β} {cs rest : List Char} {y : β}
    (h : (o.map fun a => (g a, cs)) = some (y, rest)) : rest <:+ cs :=
  rest_of_map h ▸ List.suffix_rfl

end Follows

/-! ## Blanks and comments -/

theorem not_isBlank_parenthesis : ¬ Text.isBlank ')' = true := by decide

theorem skipBlanks_nil : skipBlanks [] = [] := by rw [skipBlanks]

theorem skipBlanks_stop {c : Char} (hblank : ¬ Text.isBlank c = true) (hcomment : ¬ c = '#')
    (cs : List Char) : skipBlanks (c :: cs) = c :: cs := by
  rw [skipBlanks, if_neg hblank, if_neg hcomment]

theorem suffix_skipComment (cs : List Char) : skipComment cs <:+ cs := by
  induction cs with
  | nil => exact List.suffix_rfl
  | cons c cs ih =>
    rw [skipComment]
    split
    · exact List.suffix_cons c cs
    · exact ih.trans (List.suffix_cons c cs)

theorem suffix_skipBlanks (cs : List Char) : skipBlanks cs <:+ cs := by
  induction cs using skipBlanks.induct with
  | case1 => exact skipBlanks_nil.symm ▸ List.suffix_rfl
  | case2 c cs hblank ih =>
    rw [skipBlanks, if_pos hblank]
    exact ih.trans (List.suffix_cons c cs)
  | case3 cs hblank ih =>
    rw [skipBlanks, if_neg hblank, if_pos rfl]
    exact ih.trans ((suffix_skipComment cs).trans (List.suffix_cons _ cs))
  | case4 c cs hblank hcomment =>
    exact (skipBlanks_stop hblank hcomment cs).symm ▸ List.suffix_rfl

theorem suffix_skip (f : Flags) (cs : List Char) : f.skip cs <:+ cs := by
  rw [Flags.skip]
  split
  · exact suffix_skipBlanks cs
  · exact List.suffix_rfl

theorem length_skip_le (f : Flags) (cs : List Char) : (f.skip cs).length ≤ cs.length :=
  (suffix_skip f cs).length_le

/-- What stands behind a character that is found after blanks and comments. -/
theorem suffix_of_skip {f : Flags} {c : Char} {cs rest : List Char} (h : f.skip cs = c :: rest) :
    rest <:+ cs := by
  have hskip := suffix_skip f cs
  rw [h] at hskip
  exact (List.suffix_cons c rest).trans hskip

theorem skipBlanks_skipBlanks (cs : List Char) : skipBlanks (skipBlanks cs) = skipBlanks cs := by
  induction cs using skipBlanks.induct with
  | case1 => rw [skipBlanks_nil, skipBlanks_nil]
  | case2 c cs hblank ih => rw [skipBlanks, if_pos hblank, ih]
  | case3 cs hblank ih => rw [skipBlanks, if_neg hblank, if_pos rfl, ih]
  | case4 c cs hblank hcomment =>
    rw [skipBlanks_stop hblank hcomment, skipBlanks_stop hblank hcomment]

theorem skip_skip (f : Flags) (cs : List Char) : f.skip (f.skip cs) = f.skip cs := by
  simp only [Flags.skip]
  split
  · exact skipBlanks_skipBlanks cs
  · rfl

theorem skip_stop (f : Flags) {c : Char} (hblank : ¬ Text.isBlank c = true) (hcomment : ¬ c = '#')
    (cs : List Char) : f.skip (c :: cs) = c :: cs := by
  rw [Flags.skip]
  split
  · exact skipBlanks_stop hblank hcomment cs
  · rfl

@[simp] theorem skip_nil (f : Flags) : f.skip [] = [] :=
  List.suffix_nil.mp (suffix_skip f [])

/-- A comment either ends before the parenthesis or swallows it. -/
theorem skipComment_closed (t : List Char) :
    (∀ tail, skipComment (t ++ ')' :: tail) = skipComment t ++ ')' :: tail) ∨
      skipComment t = [] ∧ ∀ tail, (skipComment (t ++ ')' :: tail)).length ≤ tail.length := by
  induction t with
  | nil =>
    refine .inr ⟨rfl, fun tail => ?_⟩
    rw [List.nil_append, skipComment, if_neg (by decide)]
    exact (suffix_skipComment tail).length_le
  | cons c t ih =>
    rw [skipComment]
    split
    next hline =>
      left
      intro tail
      rw [List.cons_append, skipComment, if_pos hline]
    next hline =>
      rcases ih with hbefore | ⟨hnil, hpast⟩
      · left
        intro tail
        rw [List.cons_append, skipComment, if_neg hline, hbefore]
      · refine .inr ⟨hnil, fun tail => ?_⟩
        rw [List.cons_append, skipComment, if_neg hline]
        exact hpast tail

theorem skipBlanks_closed (t : List Char) :
    (∀ tail, skipBlanks (t ++ ')' :: tail) = skipBlanks t ++ ')' :: tail) ∨
      skipBlanks t = [] ∧ ∀ tail, (skipBlanks (t ++ ')' :: tail)).length ≤ tail.length := by
  induction t using skipBlanks.induct with
  | case1 =>
    left
    intro tail
    rw [skipBlanks_nil, List.nil_append, skipBlanks_stop not_isBlank_parenthesis (by decide)]
  | case2 c t hblank ih =>
    have hskip : ∀ tail, skipBlanks (c :: t ++ ')' :: tail) = skipBlanks (t ++ ')' :: tail) := by
      intro tail
      rw [List.cons_append, skipBlanks, if_pos hblank]
    rw [skipBlanks, if_pos hblank]
    simp only [hskip]
    exact ih
  | case3 t hblank ih =>
    have hskip : ∀ tail, skipBlanks ('#' :: t ++ ')' :: tail) =
        skipBlanks (skipComment (t ++ ')' :: tail)) := by
      intro tail
      rw [List.cons_append, skipBlanks, if_neg hblank, if_pos rfl]
    rw [skipBlanks, if_neg hblank, if_pos rfl]
    simp only [hskip]
    rcases skipComment_closed t with hbefore | ⟨hnil, hpast⟩
    · simp only [hbefore]
      exact ih
    · refine .inr ⟨by rw [hnil, skipBlanks_nil], fun tail => ?_⟩
      exact Nat.le_trans (suffix_skipBlanks _).length_le (hpast tail)
  | case4 c t hblank hcomment =>
    left
    intro tail
    rw [List.cons_append, skipBlanks_stop hblank hcomment, skipBlanks_stop hblank hcomment,
      List.cons_append]

/-- Skipping either stops before the parenthesis, or a comment swallows it. -/
theorem skip_closed (f : Flags) (t : List Char) :
    (∀ tail, f.skip (t ++ ')' :: tail) = f.skip t ++ ')' :: tail) ∨
      f.skip t = [] ∧ ∀ tail, (f.skip (t ++ ')' :: tail)).length ≤ tail.length := by
  simp only [Flags.skip]
  split
  · exact skipBlanks_closed t
  · exact .inl fun tail => rfl

/-- What is read after blanks and comments. -/
theorem Follows.skip {α : Type} (f : Flags) (short : List Char → Option (α × List Char))
    (long : List Char → List Char → Option (α × List Char)) {t : List Char}
    (h : (∀ tail, f.skip (t ++ ')' :: tail) = f.skip t ++ ')' :: tail) →
      Follows (short (f.skip t)) (fun tail => long tail (f.skip t ++ ')' :: tail)))
    (hsuffix : ∀ tail cs x rest, long tail cs = some (x, rest) → rest <:+ cs)
    (hend : ∀ x rest, short [] = some (x, rest) → rest = [] ∧ long [] [] = some (x, [])) :
    Follows (short (f.skip t)) (fun tail => long tail (f.skip (t ++ ')' :: tail))) := by
  rcases skip_closed f t with hbefore | ⟨hnil, hpast⟩
  · simp only [hbefore]
    exact h hbefore
  · rw [hnil]
    refine .passed (fun tail x rest hx => ?_) fun x rest hx => ?_
    · exact Nat.le_trans (hsuffix tail _ x rest hx).length_le (hpast tail)
    · have hlong : f.skip (t ++ [')']) = [] :=
        List.eq_nil_of_length_eq_zero (Nat.le_zero.mp (hpast []))
      rw [hlong]
      exact hend x rest hx

/-- Whether another character comes first does not depend on what stands behind the parenthesis. -/
theorem head?_closed {c : Char} (hc : c ≠ ')') (t tail : List Char) :
    (t ++ ')' :: tail).head? = some c ↔ t.head? = some c := by
  cases t with
  | nil => simp [hc.symm]
  | cons d t => rfl

/-- A text that begins with no blank and no comment, also in front of a parenthesis. -/
structure Settled (f : Flags) (t : List Char) : Prop where
  alone : f.skip t = t
  closed : ∀ tail, f.skip (t ++ ')' :: tail) = t ++ ')' :: tail

theorem Settled.closed_cons {f : Flags} {c : Char} {t : List Char} (h : Settled f (c :: t))
    (tail : List Char) : f.skip (c :: t ++ ')' :: tail) = c :: (t ++ ')' :: tail) := h.closed tail

/-- A reader that skips blanks and comments first can be held against a settled text. -/
theorem Follows.of_settled {α : Type} (f : Flags) (short : List Char → Option (α × List Char))
    (long : List Char → List Char → Option (α × List Char)) {t : List Char}
    (hshort : ∀ cs, short (f.skip cs) = short cs)
    (hlong : ∀ tail cs, long tail (f.skip cs) = long tail cs)
    (h : ∀ s, Settled f s → s.length ≤ t.length →
      Follows (short s) (fun tail => long tail (s ++ ')' :: tail)))
    (hsuffix : ∀ tail cs x rest, long tail cs = some (x, rest) → rest <:+ cs)
    (hend : ∀ x rest, short [] = some (x, rest) → rest = [] ∧ long [] [] = some (x, [])) :
    Follows (short t) (fun tail => long tail (t ++ ')' :: tail)) := by
  have hskip := Follows.skip f short long (t := t) (fun hbefore => ?_)
    hsuffix hend
  · simp only [hshort, hlong] at hskip
    exact hskip
  · refine h _ ⟨skip_skip f t, fun tail => ?_⟩ (length_skip_le f t)
    rw [← hbefore, skip_skip]

/-- A reader used up by itself leaves nothing in front of a swallowed parenthesis either. -/
theorem end_of_suffix {α : Type} {read : List Char → Option (α × List Char)}
    (hsuffix : ∀ cs x rest, read cs = some (x, rest) → rest <:+ cs) (x : α)
    (rest : List Char) (h : read [] = some (x, rest)) : rest = [] ∧ read [] = some (x, []) := by
  obtain rfl := List.suffix_nil.mp (hsuffix [] x rest h)
  exact ⟨rfl, h⟩

/-- Fuel for more than nothing is fuel for one step and the rest. -/
theorem exists_fuel {m bound : List Char → Nat} (h : ∀ tail, bound tail < m tail) :
    ∃ m' : List Char → Nat, m = fun tail => m' tail + 1 := by
  refine ⟨fun tail => m tail - 1, funext fun tail => ?_⟩
  have htail := h tail
  dsimp only
  omega

/-- Skipping at the end of what is read. -/
theorem follows_skip {α : Type} (f : Flags) (x : α) (t : List Char) :
    Follows (some (x, f.skip t)) (fun tail => some (x, f.skip (t ++ ')' :: tail))) := by
  refine Follows.skip f (fun cs => some (x, cs)) (fun _ cs => some (x, cs))
    (fun _ => .carried fun _ => rfl) ?_ ?_
  · intro tail cs y rest h
    cases h
    exact List.suffix_rfl
  · intro y rest h
    cases h
    exact ⟨rfl, rfl⟩

theorem follows_map_skip {α β : Type} (f : Flags) (o : Option α) (g : α → β) (t : List Char) :
    Follows (o.map fun a => (g a, f.skip t))
      (fun tail => o.map fun a => (g a, f.skip (t ++ ')' :: tail))) := by
  cases o with
  | none => exact .of_past fun tail => past_none tail
  | some a => exact follows_skip f (g a) t

end AuditTrail.Regex
