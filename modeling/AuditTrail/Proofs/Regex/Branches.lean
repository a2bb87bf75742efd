import AuditTrail.Proofs.Regex.Groups

/-
  Expressions read token by token. After blanks and comments a token tells by its first character
  what it is (`tokenAt`), and each is one step of the reading (`branches_cons`). Inside a group it
  ends right behind a closing parenthesis, elsewhere with the text (`Ends`).
-/
namespace AuditTrail.Regex

variable {f : Flags}

/-! ## Tokens -/

/-- What the reading of branches goes by. -/
inductive Token where
  | close
  | bar
  | opening (o : Opening)
  | item (d : Deep)
  | times (min : Nat) (max : Option Nat)

/-- Reads the token that begins with a character. -/
def tokenAt (f : Flags) (c : Char) (cs : List Char) : Option (Token × List Char) :=
  if c = ')' then some (.close, cs)
  else if c = '|' then some (.bar, cs)
  else if c = '(' then (readOpening f cs).map fun p => (.opening p.1, p.2)
  else if c = '[' then (readSet f (2 * cs.length + 2) cs).map fun p =>
    (.item ⟨.chars p.1.set, p.1.depth⟩, p.2)
  else if c = '?' then some (.times 0 (some 1), dropReluctant cs)
  else if c = '*' then some (.times 0 none, dropReluctant cs)
  else if c = '+' then some (.times 1 none, dropReluctant cs)
  else if c = '\x7b' then (readCount f cs).map fun p => (.times p.1.1 p.1.2, p.2)
  else if c = '.' then (dotSet f).map fun s => (.item ⟨.chars s, 0⟩, cs)
  else if c = '^' then some (.item ⟨.look (startLook f), 0⟩, cs)
  else if c = '$' then some (.item ⟨.look (endLook f), 0⟩, cs)
  else if c = '\\' then (readEscape f cs).bind fun p =>
    (p.1.regex f).map fun r => (.item ⟨r, 0⟩, p.2)
  else ((Atom.literal c false).regex f).map fun r => (.item ⟨r, 0⟩, cs)

/-- Characters with a meaning of their own outside of sets. -/
def isOperator (c : Char) : Bool :=
  [')', '|', '(', '[', '?', '*', '+', '\x7b', '.', '^', '$', '\\'].contains c

theorem tokenAt_literal {c : Char} (hc : isOperator c = false) (cs : List Char) :
    tokenAt f c cs =
      ((Atom.literal c false).regex f).map fun r => (.item ⟨r, 0⟩, cs) := by
  have hne : ∀ d, isOperator d = true → c ≠ d := by
    rintro d hd rfl
    rw [hc] at hd
    cases hd
  rw [tokenAt, if_neg (hne _ rfl), if_neg (hne _ rfl), if_neg (hne _ rfl), if_neg (hne _ rfl),
    if_neg (hne _ rfl), if_neg (hne _ rfl), if_neg (hne _ rfl), if_neg (hne _ rfl),
    if_neg (hne _ rfl), if_neg (hne _ rfl), if_neg (hne _ rfl), if_neg (hne _ rfl)]

section Equations

variable (cs : List Char)

theorem tokenAt_group : tokenAt f '(' cs =
    (readOpening f cs).map fun p => (.opening p.1, p.2) := rfl

theorem tokenAt_set : tokenAt f '[' cs = (readSet f (2 * cs.length + 2) cs).map fun p =>
    (.item ⟨.chars p.1.set, p.1.depth⟩, p.2) := rfl

theorem tokenAt_count : tokenAt f '\x7b' cs =
    (readCount f cs).map fun p => (.times p.1.1 p.1.2, p.2) := rfl

theorem tokenAt_dot : tokenAt f '.' cs =
    (dotSet f).map fun s => (.item ⟨.chars s, 0⟩, cs) := rfl

theorem tokenAt_backslash : tokenAt f '\\' cs = (readEscape f cs).bind fun p =>
    (p.1.regex f).map fun r => (.item ⟨r, 0⟩, p.2) := rfl

end Equations

theorem isOperator_cases {c : Char} (h : isOperator c = true) :
    c = ')' ∨ c = '|' ∨ c = '(' ∨ c = '[' ∨ c = '?' ∨ c = '*' ∨ c = '+' ∨ c = '\x7b' ∨ c = '.' ∨
      c = '^' ∨ c = '$' ∨ c = '\\' := by
  have hmem := List.contains_iff_mem.mp h
  simpa only [List.mem_cons, List.not_mem_nil, or_false] using hmem

/-- A token is read from the text in front of it, and only a parenthesis closes a group. -/
theorem rest_of_tokenAt {c : Char} {cs rest : List Char} {token : Token}
    (h : tokenAt f c cs = some (token, rest)) : rest <:+ cs ∧ (token = .close → c = ')') := by
  cases hoperator : isOperator c with
  | true =>
    rcases isOperator_cases hoperator with
      rfl | rfl | rfl | rfl | rfl | rfl | rfl | rfl | rfl | rfl | rfl | rfl
    · cases h
      exact ⟨List.suffix_rfl, fun _ => rfl⟩
    · cases h
      exact ⟨List.suffix_rfl, nofun⟩
    · obtain ⟨⟨o, rest'⟩, hopening, heq⟩ := Option.map_eq_some_iff.mp (tokenAt_group cs ▸ h)
      cases heq
      exact ⟨suffix_readOpening hopening, nofun⟩
    · obtain ⟨⟨s, rest'⟩, hset, heq⟩ := Option.map_eq_some_iff.mp (tokenAt_set cs ▸ h)
      cases heq
      exact ⟨(List.suffix_cons _ _).trans (suffix_readSet hset), nofun⟩
    -- The three signs of repetition.
    iterate 3
      · cases h
        exact ⟨suffix_dropReluctant cs, nofun⟩
    · obtain ⟨⟨range, rest'⟩, hcount, heq⟩ := Option.map_eq_some_iff.mp (tokenAt_count cs ▸ h)
      cases heq
      exact ⟨suffix_readCount hcount, nofun⟩
    · obtain ⟨s, -, heq⟩ := Option.map_eq_some_iff.mp (tokenAt_dot cs ▸ h)
      cases heq
      exact ⟨List.suffix_rfl, nofun⟩
    iterate 2
      · cases h
        exact ⟨List.suffix_rfl, nofun⟩
    · obtain ⟨⟨a, rest'⟩, hescape, hregex⟩ := Option.bind_eq_some_iff.mp (tokenAt_backslash cs ▸ h)
      obtain ⟨r, -, heq⟩ := Option.map_eq_some_iff.mp hregex
      cases heq
      cases cs with
      | nil => cases hescape
      | cons d cs => exact ⟨(suffix_readEscape hescape).trans (List.suffix_cons d cs), nofun⟩
  | false =>
    rw [tokenAt_literal hoperator] at h
    obtain ⟨r, -, heq⟩ := Option.map_eq_some_iff.mp h
    cases heq
    exact ⟨List.suffix_rfl, nofun⟩

/-- What is said of escapes is true of tokens. -/
inductive TokenFollows (f : Flags) :
    Option (Token × List Char) → (List Char → Option (Token × List Char)) → Prop
  | follows {short : Option (Token × List Char)} {long : List Char → Option (Token × List Char)} :
      Follows short long → TokenFollows f short long
  | braced {rest : List Char} {long : List Char → Option (Token × List Char)} :
      f.skip rest = [] → (∀ tail, Past tail (long tail) ∨
        ∃ d, long tail = some (.item d, '\x7b' :: (rest ++ ')' :: tail))) →
      TokenFollows f none long

theorem escapeToken_follows (t : List Char) :
    TokenFollows f (tokenAt f '\\' t) (fun tail => tokenAt f '\\' (t ++ ')' :: tail)) := by
  have hescape := readEscape_follows (f := f) t
  simp only [tokenAt_backslash]
  generalize readEscape f t = short at hescape
  cases hescape with
  | follows hfollows =>
    exact .follows (hfollows.bind (fun a rest _ => follows_map (a.regex f) _ rest)
      fun a cs token rest h => suffix_of_map h)
  | @braced rest _ hskip hlong =>
    refine .braced hskip fun tail => ?_
    rcases hlong tail with hpast | (hplain : readEscape f (t ++ ')' :: tail) = _)
    · left
      intro token rest' h
      obtain ⟨⟨a, cs⟩, hescape, hregex⟩ := Option.bind_eq_some_iff.mp h
      rw [rest_of_map hregex]
      exact hpast a cs hescape
    · right
      rw [hplain]
      exact ⟨⟨.look (.wordBoundary !f.unicode), 0⟩, rfl⟩

theorem tokenAt_follows (c : Char) (t : List Char) :
    TokenFollows f (tokenAt f c t) (fun tail => tokenAt f c (t ++ ')' :: tail)) := by
  cases hoperator : isOperator c with
  | true =>
    have hreluctant : ∀ token : Token, Follows (some (token, dropReluctant t))
        (fun tail => some (token, dropReluctant (t ++ ')' :: tail))) :=
      fun token => .carried fun tail => by rw [dropReluctant_closed]
    rcases isOperator_cases hoperator with
      rfl | rfl | rfl | rfl | rfl | rfl | rfl | rfl | rfl | rfl | rfl | rfl
    · exact .follows (.carried fun _ => rfl)
    · exact .follows (.carried fun _ => rfl)
    · simp only [tokenAt_group]
      exact .follows (Follows.map (k := .opening) (fun _ _ => rfl) (readOpening_follows t))
    · simp only [tokenAt_set]
      exact .follows (Follows.map (k := fun s => .item ⟨.chars s.set, s.depth⟩) (fun _ _ => rfl)
        (readSet_follows t))
    · exact .follows (hreluctant _)
    · exact .follows (hreluctant _)
    · exact .follows (hreluctant _)
    · simp only [tokenAt_count]
      exact .follows (Follows.map (k := fun range => .times range.1 range.2) (fun _ _ => rfl)
        (readCount_follows t))
    · simp only [tokenAt_dot]
      exact .follows (follows_map (dotSet f) _ t)
    · exact .follows (.carried fun _ => rfl)
    · exact .follows (.carried fun _ => rfl)
    · exact escapeToken_follows t
  | false =>
    simp only [tokenAt_literal hoperator]
    exact .follows (follows_map ((Atom.literal c false).regex f) _ t)

/-- What branches are read from: whether it is inside a group, the flags, the names used so far, the
finished branches, the items of the current one, and the text. -/
abbrev BranchReader := Bool → Flags → List String → List Deep → List (Option Deep) → List Char →
  Option (Deep × List String × List Char)

/-- How the reading goes on after a token. -/
def afterToken (read : BranchReader) (inGroup : Bool) (f : Flags) (names : List String)
    (branches : List Deep) (items : List (Option Deep)) (token : Token) (cs : List Char) :
    Option (Deep × List String × List Char) :=
  token.casesOn
    (if inGroup then some (alternate (concatenate items :: branches), names, cs) else none)
    (read inGroup f names (concatenate items :: branches) [] cs)
    (fun o => o.casesOn
      (fun change => read inGroup (f.change change) names branches (none :: items) cs)
      fun name change =>
        if name.any names.contains then none
        else (read true (f.change change) (name.toList ++ names) [] [] cs).bind fun p =>
          read inGroup f p.2.1 branches (some ⟨p.1.regex, p.1.depth + 1⟩ :: items) p.2.2)
    (fun d => read inGroup f names branches (some d :: items) cs)
    fun min max => (repeatLast items min max).bind fun items =>
      read inGroup f names branches items cs

section Reading

variable {inGroup : Bool} {fuel : Nat} {names : List String} {branches : List Deep}
  {items : List (Option Deep)} {cs rest : List Char}

theorem readBranches_end (h : f.skip cs = []) :
    readBranches inGroup (fuel + 1) f names branches items cs =
      if inGroup then none else some (alternate (concatenate items :: branches), names, []) := by
  rw [readBranches, h]

theorem readBranches_cons {c : Char} (h : f.skip cs = c :: rest) :
    readBranches inGroup (fuel + 1) f names branches items cs = (tokenAt f c rest).bind fun p =>
      afterToken (fun g => readBranches g fuel) inGroup f names branches items p.1 p.2 := by
  rw [readBranches, h]
  split
  next heq => cases heq
  next heq =>
    cases heq
    rfl
  next heq =>
    cases heq
    rfl
  next heq =>
    cases heq
    rw [tokenAt_group]
    cases readOpening f rest with
    | none => rfl
    | some p =>
      obtain ⟨o, rest'⟩ := p
      cases o with
      | flags change => rfl
      | group name change =>
        dsimp only [Option.map_some, Option.bind_some, afterToken]
        split
        · rfl
        · cases readBranches true fuel (f.change change) (name.toList ++ names) [] [] rest' <;> rfl
  next heq =>
    cases heq
    rw [tokenAt_set]
    cases readSet f (2 * rest.length + 2) rest <;> rfl
  next heq =>
    cases heq
    have htoken : tokenAt f '?' rest = some (.times 0 (some 1), dropReluctant rest) := rfl
    rw [htoken]
    dsimp only [Option.bind_some, afterToken]
    cases repeatLast items 0 (some 1) <;> rfl
  next heq =>
    cases heq
    have htoken : tokenAt f '*' rest = some (.times 0 none, dropReluctant rest) := rfl
    rw [htoken]
    dsimp only [Option.bind_some, afterToken]
    cases repeatLast items 0 none <;> rfl
  next heq =>
    cases heq
    have htoken : tokenAt f '+' rest = some (.times 1 none, dropReluctant rest) := rfl
    rw [htoken]
    dsimp only [Option.bind_some, afterToken]
    cases repeatLast items 1 none <;> rfl
  next heq =>
    cases heq
    rw [tokenAt_count]
    cases readCount f rest with
    | none => rfl
    | some p =>
      obtain ⟨⟨min, max⟩, rest'⟩ := p
      dsimp only [Option.map_some, Option.bind_some, afterToken]
      cases repeatLast items min max <;> rfl
  next heq =>
    cases heq
    rw [tokenAt_dot]
    cases dotSet f <;> rfl
  next heq =>
    cases heq
    rfl
  next heq =>
    cases heq
    rfl
  next heq =>
    cases heq
    rw [tokenAt_backslash]
    cases readEscape f rest with
    | none => rfl
    | some p =>
      obtain ⟨a, rest'⟩ := p
      dsimp only [Option.bind_some]
      cases a.regex f <;> rfl
  next heq =>
    obtain ⟨rfl, rfl⟩ := List.cons_eq_cons.mp heq
    rw [tokenAt_literal]
    · cases (Atom.literal c false).regex f <;> rfl
    · refine Bool.eq_false_iff.mpr fun hmem => ?_
      have hmem := List.contains_iff_mem.mp hmem
      simp only [List.mem_cons, List.not_mem_nil, or_false] at hmem
      rcases hmem with h | h | h | h | h | h | h | h | h | h | h | h
      all_goals contradiction

theorem readBranches_skip :
    readBranches inGroup fuel f names branches items (f.skip cs) =
      readBranches inGroup fuel f names branches items cs := by
  cases fuel with
  | zero => rfl
  | succ fuel => rw [readBranches, readBranches, skip_skip]

/-! ## Where the reading ends -/

/-- Branches end right behind a closing parenthesis inside a group, and elsewhere with the text. -/
def Ends (inGroup : Bool) (cs rest : List Char) : Prop :=
  if inGroup then ')' :: rest <:+ cs else rest = []

/-- Whatever is read ends where it should. -/
def Ending (read : BranchReader) : Prop :=
  ∀ inGroup f names branches items cs d names' rest,
    read inGroup f names branches items cs = some (d, names', rest) → Ends inGroup cs rest

theorem Ends.mono {cs' : List Char} (h : Ends inGroup cs rest) (hcs : cs <:+ cs') :
    Ends inGroup cs' rest := by
  cases inGroup with
  | true => exact List.IsSuffix.trans h hcs
  | false => exact h

theorem Ends.suffix (h : Ends inGroup cs rest) : rest <:+ cs := by
  cases inGroup with
  | true => exact (List.suffix_cons _ rest).trans h
  | false =>
    obtain rfl : rest = [] := h
    exact List.nil_suffix

variable {read read' : BranchReader} {token : Token} {d : Deep} {names' : List String}

theorem ends_afterToken (hread : Ending read) (htoken : token ≠ .close)
    (h : afterToken read inGroup f names branches items token cs = some (d, names', rest)) :
    Ends inGroup cs rest := by
  cases token with
  | close => exact absurd rfl htoken
  | bar => exact hread _ _ _ _ _ _ _ _ _ h
  | item d => exact hread _ _ _ _ _ _ _ _ _ h
  | times min max =>
    obtain ⟨items', -, h⟩ := Option.bind_eq_some_iff.mp h
    exact hread _ _ _ _ _ _ _ _ _ h
  | opening o =>
    cases o with
    | flags change => exact hread _ _ _ _ _ _ _ _ _ h
    | group name change =>
      dsimp only [afterToken] at h
      split at h
      next => cases h
      next =>
        obtain ⟨⟨d', names'', rest'⟩, hinner, houter⟩ := Option.bind_eq_some_iff.mp h
        have hinner := hread _ _ _ _ _ _ _ _ _ hinner
        exact (hread _ _ _ _ _ _ _ _ _ houter).mono hinner.suffix

theorem ends_readBranches (fuel : Nat) : Ending fun inGroup => readBranches inGroup fuel := by
  induction fuel with
  | zero =>
    intro inGroup f names branches items cs d names' rest h
    cases h
  | succ fuel ih =>
    intro inGroup f names branches items cs d names' rest h
    cases hcs : f.skip cs with
    | nil =>
      dsimp only at h
      rw [readBranches_end hcs] at h
      cases inGroup with
      | true => cases h
      | false =>
        cases h
        rfl
    | cons c cs' =>
      dsimp only at h
      rw [readBranches_cons hcs] at h
      obtain ⟨⟨token, rest'⟩, htoken, hafter⟩ := Option.bind_eq_some_iff.mp h
      obtain ⟨hsuffix, hclose⟩ := rest_of_tokenAt htoken
      by_cases hc : c = ')'
      · subst hc
        cases htoken
        cases inGroup with
        | true =>
          cases hafter
          have hskip := suffix_skip f cs
          rw [hcs] at hskip
          exact hskip
        | false => cases hafter
      · have hends := ends_afterToken ih (fun heq => hc (hclose heq)) hafter
        exact hends.mono (hsuffix.trans (suffix_of_skip hcs))

/-! ## Fuel -/

theorem afterToken_congr (hread : Ending read)
    (h : ∀ inGroup f names branches items cs', cs'.length ≤ cs.length →
      read inGroup f names branches items cs' = read' inGroup f names branches items cs') :
    afterToken read inGroup f names branches items token cs =
      afterToken read' inGroup f names branches items token cs := by
  cases token with
  | close => rfl
  | bar => exact h _ _ _ _ _ _ (Nat.le_refl _)
  | item d => exact h _ _ _ _ _ _ (Nat.le_refl _)
  | times min max =>
    exact congrArg (Option.bind _) (funext fun items' => h _ _ _ _ _ _ (Nat.le_refl _))
  | opening o =>
    cases o with
    | flags change => exact h _ _ _ _ _ _ (Nat.le_refl _)
    | group name change =>
      dsimp only [afterToken]
      rw [← h true _ _ _ _ _ (Nat.le_refl _)]
      split
      · rfl
      · cases hinner : read true (f.change change) (name.toList ++ names) [] [] cs with
        | none => rfl
        | some p =>
          have hsuffix := (hread _ _ _ _ _ _ _ _ _ hinner).suffix
          exact h _ _ _ _ _ _ hsuffix.length_le

/-- More fuel than characters is enough. -/
theorem readBranches_fuel {n m : Nat} (hn : cs.length < n) (hm : cs.length < m) :
    readBranches inGroup n f names branches items cs =
      readBranches inGroup m f names branches items cs := by
  induction n generalizing m inGroup f names branches items cs with
  | zero => exact absurd hn (Nat.not_lt_zero _)
  | succ n ih =>
    obtain ⟨m, rfl⟩ := Nat.exists_eq_add_one_of_ne_zero (Nat.ne_zero_of_lt hm)
    cases hcs : f.skip cs with
    | nil => rw [readBranches_end hcs, readBranches_end hcs]
    | cons c cs' =>
      rw [readBranches_cons hcs, readBranches_cons hcs]
      cases htoken : tokenAt f c cs' with
      | none => rfl
      | some p =>
        have hskip := length_skip_le f cs
        have hle := (rest_of_tokenAt htoken).1.length_le
        rw [hcs, List.length_cons] at hskip
        rw [Option.bind_some, Option.bind_some]
        refine afterToken_congr (ends_readBranches n) fun _ _ _ _ _ cs' hcs' => ?_
        exact ih (by omega) (by omega)

/-- Reads branches with as much fuel as they may need. -/
def readAll : BranchReader := fun inGroup f names branches items cs =>
  readBranches inGroup (cs.length + 1) f names branches items cs

theorem readBranches_eq (h : cs.length < fuel) :
    readBranches inGroup fuel f names branches items cs =
      readAll inGroup f names branches items cs := readBranches_fuel h (Nat.lt_succ_self _)

theorem ends_readAll : Ending readAll := by
  intro inGroup f names branches items cs
  exact ends_readBranches _ inGroup f names branches items cs

theorem readAll_skip : readAll inGroup f names branches items (f.skip cs) =
    readAll inGroup f names branches items cs := by
  rw [← readBranches_eq (Nat.lt_succ_of_le (length_skip_le f cs)), readBranches_skip]
  rfl

theorem readAll_end (h : f.skip cs = []) : readAll inGroup f names branches items cs =
    if inGroup then none else some (alternate (concatenate items :: branches), names, []) :=
  readBranches_end h

theorem readAll_cons {c : Char} (h : f.skip cs = c :: rest) :
    readAll inGroup f names branches items cs = (tokenAt f c rest).bind fun p =>
      afterToken readAll inGroup f names branches items p.1 p.2 := by
  rw [readAll, readBranches_cons h]
  cases htoken : tokenAt f c rest with
  | none => rfl
  | some p =>
    have hskip := length_skip_le f cs
    have hle := (rest_of_tokenAt htoken).1.length_le
    rw [h, List.length_cons] at hskip
    rw [Option.bind_some, Option.bind_some]
    refine afterToken_congr (ends_readBranches _) fun _ _ _ _ _ cs' hcs' => ?_
    exact readBranches_eq (by omega)

end Reading

end AuditTrail.Regex
