import AuditTrail.Proofs.Regex.Branches

/-
  Whole expressions by themselves and in front of a closing parenthesis. One that can be read by
  itself is read alike as a group (`Enclosed.closed`), unless it ends in a comment, which then
  swallows the parenthesis (`Enclosed.swallowed`). One that cannot be read by itself is never read
  as a group up to that parenthesis: it may be read up to another one (`Enclosed.unread`).
-/
namespace AuditTrail.Regex

variable {f : Flags} {names : List String} {branches : List Deep} {items : List (Option Deep)}

/-! ## Tokens -/

/-- Nothing but the text of a group stands in front of its parenthesis. -/
theorem length_afterToken_lt {token : Token} {cs rest : List Char} {d : Deep}
    {names' : List String} (htoken : token ≠ .close)
    (h : afterToken readAll true f names branches items token cs = some (d, names', rest)) :
    rest.length < cs.length :=
  List.IsSuffix.length_le (show ')' :: rest <:+ cs from ends_afterToken ends_readAll htoken h)

theorem length_readAll_lt {cs rest : List Char} {d : Deep} {names' : List String}
    (h : readAll true f names branches items cs = some (d, names', rest)) :
    rest.length < cs.length :=
  List.IsSuffix.length_le (show ')' :: rest <:+ cs from ends_readAll _ _ _ _ _ _ _ _ _ h)

/-- A count that comes to the end of the text is not read before the parenthesis. -/
theorem length_readAll_brace {cs tail rest : List Char} {d : Deep} {names' : List String}
    (hskip : f.skip cs = [])
    (h : readAll true f names branches items ('\x7b' :: (cs ++ ')' :: tail)) =
      some (d, names', rest)) : rest.length < tail.length := by
  rw [readAll_cons (skip_stop f (by decide) (by decide) _), tokenAt_count] at h
  obtain ⟨⟨token, rest'⟩, htoken, hafter⟩ := Option.bind_eq_some_iff.mp h
  obtain ⟨⟨range, rest''⟩, hcount, heq⟩ := Option.map_eq_some_iff.mp htoken
  cases heq
  have hfollows := readCount_follows (f := f) cs
  rw [readCount_end hskip] at hfollows
  cases hfollows with
  | passed hpast _ =>
    have htimes : Token.times range.1 range.2 ≠ .close := nofun
    exact Nat.lt_of_lt_of_le (length_afterToken_lt htimes hafter) (hpast tail _ _ hcount)

/-- A token other than a parenthesis is read alike, or what follows it ends beyond the
parenthesis. -/
theorem tokenAt_closed {c : Char} (hc : c ≠ ')') (t : List Char) :
    (∃ token rest, tokenAt f c t = some (token, rest) ∧
      ∀ tail, tokenAt f c (t ++ ')' :: tail) = some (token, rest ++ ')' :: tail)) ∨
    (∀ tail names branches items d names' rest,
      ((tokenAt f c (t ++ ')' :: tail)).bind fun p =>
        afterToken readAll true f names branches items p.1 p.2) = some (d, names', rest) →
      rest.length < tail.length) ∧
    ∀ token rest, tokenAt f c t = some (token, rest) →
      rest = [] ∧ tokenAt f c (t ++ [')']) = some (token, []) := by
  have hclose : ∀ {cs token rest}, tokenAt f c cs = some (token, rest) → token ≠ .close :=
    fun h heq => hc ((rest_of_tokenAt h).2 heq)
  have htoken := tokenAt_follows (f := f) c t
  generalize tokenAt f c t = short at htoken
  cases htoken with
  | follows hfollows =>
    cases hfollows with
    | carried hlong => exact .inl ⟨_, _, rfl, hlong⟩
    | passed hpast hend =>
      refine .inr ⟨fun tail names branches items d names' rest h => ?_, hend⟩
      obtain ⟨⟨token, rest'⟩, htoken, hafter⟩ := Option.bind_eq_some_iff.mp h
      exact Nat.lt_of_lt_of_le (length_afterToken_lt (hclose htoken) hafter)
        (hpast tail token rest' htoken)
  | braced hskip hlong =>
    refine .inr ⟨fun tail names branches items d names' rest h => ?_, nofun⟩
    obtain ⟨⟨token, rest'⟩, htoken, hafter⟩ := Option.bind_eq_some_iff.mp h
    rcases hlong tail with hpast | ⟨item, (hitem : tokenAt f c (t ++ ')' :: tail) = _)⟩
    · exact Nat.lt_of_lt_of_le (length_afterToken_lt (hclose htoken) hafter)
        (hpast token rest' htoken)
    · rw [htoken] at hitem
      cases hitem
      exact length_readAll_brace hskip hafter

/-! ## Groups -/

/-- What is read of branches, with the names used beside the expression. -/
def grouped (o : Option (Deep × List String × List Char)) :
    Option ((Deep × List String) × List Char) := o.map fun p => ((p.1, p.2.1), p.2.2)

theorem of_grouped {o : Option (Deep × List String × List Char)} {d : Deep} {names : List String}
    {rest : List Char} (h : grouped o = some ((d, names), rest)) : o = some (d, names, rest) := by
  cases o with
  | none => cases h
  | some p =>
    cases h
    rfl

theorem grouped_bind (o : Option (Deep × List String × List Char))
    (k : Deep → List String → List Char → Option (Deep × List String × List Char)) :
    grouped (o.bind fun p => k p.1 p.2.1 p.2.2) =
      (grouped o).bind fun q => grouped (k q.1.1 q.1.2 q.2) := by
  cases o <;> rfl

/-- Groups in texts below some length are read alike. -/
def GroupsFollow (n : Nat) : Prop :=
  ∀ f names branches items (t : List Char), t.length < n →
    Follows (grouped (readAll true f names branches items t))
      (fun tail => grouped (readAll true f names branches items (t ++ ')' :: tail)))

theorem GroupsFollow.afterToken {n : Nat} (h : GroupsFollow n) {t : List Char} (ht : t.length < n)
    {token : Token} (htoken : token ≠ .close) :
    Follows (grouped (afterToken readAll true f names branches items token t))
      (fun tail => grouped
        (afterToken readAll true f names branches items token (t ++ ')' :: tail))) := by
  cases token with
  | close => exact absurd rfl htoken
  | bar => exact h _ _ _ _ t ht
  | item d => exact h _ _ _ _ t ht
  | times min max =>
    simp only [Regex.afterToken]
    cases repeatLast items min max with
    | none => exact .of_past fun tail => past_none tail
    | some items' => exact h _ _ _ _ t ht
  | opening o =>
    cases o with
    | flags change => exact h _ _ _ _ t ht
    | group name change =>
      simp only [Regex.afterToken]
      by_cases hused : name.any names.contains = true
      · simp only [if_pos hused]
        exact .of_past fun tail => past_none tail
      · simp only [if_neg hused, grouped_bind _ fun d names rest =>
          readAll true f names branches (some ⟨d.regex, d.depth + 1⟩ :: items) rest]
        refine Follows.bind (h _ _ _ _ t ht) (fun x rest hinner => ?_) fun x cs y rest houter => ?_
        · have hsuffix := (ends_readAll _ _ _ _ _ _ _ _ _ (of_grouped hinner)).suffix
          exact h _ _ _ _ rest (Nat.lt_of_le_of_lt hsuffix.length_le ht)
        · exact (ends_readAll _ _ _ _ _ _ _ _ _ (of_grouped houter)).suffix

theorem groups_follow (n : Nat) : GroupsFollow n := by
  induction n with
  | zero => exact fun _ _ _ _ _ h => absurd h (Nat.not_lt_zero _)
  | succ n ih =>
    intro f names branches items t ht
    refine Follows.of_settled f (fun cs => grouped (readAll true f names branches items cs))
      (fun _ cs => grouped (readAll true f names branches items cs))
      (fun cs => by rw [readAll_skip]) (fun _ cs => by rw [readAll_skip]) (fun s hs hlength => ?_)
      (fun _ cs x rest h => (ends_readAll _ _ _ _ _ _ _ _ _ (of_grouped h)).suffix)
      (end_of_suffix fun cs x rest h => (ends_readAll _ _ _ _ _ _ _ _ _ (of_grouped h)).suffix)
    cases s with
    | nil =>
      rw [readAll_end hs.alone]
      exact .of_past fun tail x rest h => Nat.le_of_lt_succ (length_readAll_lt (of_grouped h))
    | cons c cs =>
      rw [List.length_cons] at hlength
      rw [readAll_cons hs.alone]
      simp only [readAll_cons (hs.closed_cons _)]
      by_cases hc : c = ')'
      · subst hc
        exact .carried fun tail => rfl
      rcases tokenAt_closed (f := f) hc cs with ⟨token, rest, hshort, hlong⟩ | ⟨hpast, hend⟩
      · obtain ⟨hsuffix, hclose⟩ := rest_of_tokenAt hshort
        have hle := hsuffix.length_le
        simp only [hshort, hlong, Option.bind_some]
        exact ih.afterToken (by omega) fun heq => hc (hclose heq)
      · have hnone : ((tokenAt f c cs).bind fun p =>
            afterToken readAll true f names branches items p.1 p.2) = none := by
          refine Option.bind_eq_none_iff.mpr fun p htoken => ?_
          obtain ⟨token, rest⟩ := p
          rw [(hend token rest htoken).1]
          refine Option.eq_none_iff_forall_ne_some.mpr fun q hq => ?_
          have hlt := length_afterToken_lt (fun heq => hc ((rest_of_tokenAt htoken).2 heq)) hq
          exact absurd hlt (Nat.not_lt_zero _)
        rw [hnone]
        exact .of_past fun tail x rest h =>
          Nat.le_of_lt (hpast tail _ _ _ x.1 x.2 rest (of_grouped h))

/-! ## Whole expressions -/

/-- How reading a text up to its end goes, and how it goes with a parenthesis and any `tail` behind,
inside a group and elsewhere. -/
inductive Enclosed : Option (Deep × List String × List Char) →
    (Bool → List Char → Option (Deep × List String × List Char)) → Prop
  | closed {d : Deep} {names : List String}
      {long : Bool → List Char → Option (Deep × List String × List Char)} :
      (∀ tail, long true tail = some (d, names, tail)) → (∀ tail, long false tail = none) →
      Enclosed (some (d, names, [])) long
  | swallowed {d : Deep} {names : List String}
      {long : Bool → List Char → Option (Deep × List String × List Char)} :
      (∀ tail d' names' rest, long true tail = some (d', names', rest) →
        rest.length < tail.length) →
      long false [] = some (d, names, []) → Enclosed (some (d, names, [])) long
  | unread {long : Bool → List Char → Option (Deep × List String × List Char)} :
      (∀ tail d' names' rest, long true tail = some (d', names', rest) →
        rest.length ≠ tail.length) → Enclosed none long

/-- Where a group can only end beyond the parenthesis, the text is not closed. -/
theorem Enclosed.of_beyond {short : Option (Deep × List String × List Char)}
    {long : Bool → List Char → Option (Deep × List String × List Char)}
    (hlong : ∀ tail d names rest, long true tail = some (d, names, rest) →
      rest.length < tail.length)
    (hend : ∀ d names rest, short = some (d, names, rest) →
      rest = [] ∧ long false [] = some (d, names, [])) : Enclosed short long := by
  cases short with
  | none => exact .unread fun tail d names rest h => Nat.ne_of_lt (hlong tail d names rest h)
  | some p =>
    obtain ⟨d, names, rest⟩ := p
    obtain ⟨rfl, hfalse⟩ := hend d names rest rfl
    exact .swallowed hlong hfalse

/-- Expressions below some length are read alike. -/
def ExpressionsFollow (n : Nat) : Prop :=
  ∀ f names branches items (t : List Char), t.length < n →
    Enclosed (readAll false f names branches items t)
      (fun inGroup tail => readAll inGroup f names branches items (t ++ ')' :: tail))

theorem ExpressionsFollow.afterToken {n : Nat} (h : ExpressionsFollow n) {t : List Char}
    (ht : t.length < n) {token : Token} (htoken : token ≠ .close) :
    Enclosed (afterToken readAll false f names branches items token t)
      (fun inGroup tail =>
        afterToken readAll inGroup f names branches items token (t ++ ')' :: tail)) := by
  cases token with
  | close => exact absurd rfl htoken
  | bar => exact h _ _ _ _ t ht
  | item d => exact h _ _ _ _ t ht
  | times min max =>
    simp only [Regex.afterToken]
    cases repeatLast items min max with
    | none => exact .unread nofun
    | some items' => exact h _ _ _ _ t ht
  | opening o =>
    cases o with
    | flags change => exact h _ _ _ _ t ht
    | group name change =>
      simp only [Regex.afterToken]
      by_cases hused : name.any names.contains = true
      · simp only [if_pos hused]
        exact .unread nofun
      · simp only [if_neg hused]
        have hgroup := groups_follow (t.length + 1) (f.change change) (name.toList ++ names) [] []
          t (Nat.lt_succ_self _)
        generalize hshort :
          grouped (readAll true (f.change change) (name.toList ++ names) [] [] t) = short at hgroup
        generalize hlong : (fun tail => grouped
          (readAll true (f.change change) (name.toList ++ names) [] [] (t ++ ')' :: tail))) = long
          at hgroup
        cases hgroup with
        | @carried x rest _ hread =>
          have hshort := of_grouped hshort
          have hlong : ∀ tail, readAll true (f.change change) (name.toList ++ names) [] []
              (t ++ ')' :: tail) = some (x.1, x.2, rest ++ ')' :: tail) :=
            fun tail => of_grouped (by rw [← hread tail, ← hlong])
          have hle := (ends_readAll _ _ _ _ _ _ _ _ _ hshort).suffix.length_le
          simp only [hshort, hlong, Option.bind_some]
          exact h _ _ _ _ rest (Nat.lt_of_le_of_lt hle ht)
        | passed hpast hend =>
          subst hshort hlong
          refine .of_beyond (fun tail d names' rest hbind => ?_) fun d names' rest hbind => ?_
          · obtain ⟨⟨d', names'', cs⟩, hinner, houter⟩ := Option.bind_eq_some_iff.mp hbind
            refine Nat.lt_of_lt_of_le (length_readAll_lt houter) (hpast tail (d', names'') cs ?_)
            dsimp only
            rw [hinner]
            rfl
          · obtain ⟨⟨d', names'', cs⟩, hinner, houter⟩ := Option.bind_eq_some_iff.mp hbind
            obtain ⟨rfl, hinner'⟩ := hend (d', names'') cs (by rw [hinner]; rfl)
            obtain rfl : rest = [] := ends_readAll _ _ _ _ _ _ _ _ _ houter
            exact ⟨rfl, by rw [of_grouped hinner', Option.bind_some, houter]⟩

theorem expressions_follow (n : Nat) : ExpressionsFollow n := by
  induction n with
  | zero => exact fun _ _ _ _ _ h => absurd h (Nat.not_lt_zero _)
  | succ n ih =>
    intro f names branches items t ht
    rcases skip_closed f t with hbefore | ⟨hnil, hpast⟩
    · have hs : Settled f (f.skip t) := by
        refine ⟨skip_skip f t, fun tail => ?_⟩
        rw [← hbefore, skip_skip]
      have hlength := length_skip_le f t
      have hlong : ∀ inGroup tail, readAll inGroup f names branches items (t ++ ')' :: tail) =
          readAll inGroup f names branches items (f.skip t ++ ')' :: tail) := by
        intro inGroup tail
        rw [← readAll_skip, hbefore]
      rw [← readAll_skip]
      simp only [hlong]
      generalize f.skip t = s at hs hlength
      cases s with
      | nil =>
        rw [readAll_end hs.alone]
        refine .closed (fun tail => ?_) fun tail => ?_
        · rw [readAll_cons (hs.closed tail)]
          rfl
        · rw [readAll_cons (hs.closed tail)]
          rfl
      | cons c cs =>
        rw [List.length_cons] at hlength
        rw [readAll_cons hs.alone]
        simp only [readAll_cons (hs.closed_cons _)]
        by_cases hc : c = ')'
        · subst hc
          refine .unread fun tail d names' rest h => ?_
          cases h
          rw [List.length_append, List.length_cons]
          omega
        rcases tokenAt_closed (f := f) hc cs with ⟨token, rest, hshort, hlong⟩ | ⟨hbeyond, hend⟩
        · obtain ⟨hsuffix, hclose⟩ := rest_of_tokenAt hshort
          have hle := hsuffix.length_le
          simp only [hshort, hlong, Option.bind_some]
          exact ih.afterToken (by omega) fun heq => hc (hclose heq)
        · refine .of_beyond (fun tail d names' rest => hbeyond tail _ _ _ d names' rest)
            fun d names' rest h => ?_
          obtain ⟨⟨token, rest'⟩, htoken, hafter⟩ := Option.bind_eq_some_iff.mp h
          obtain ⟨rfl, htoken'⟩ := hend token rest' htoken
          have hclose : token ≠ .close := fun heq => hc ((rest_of_tokenAt htoken).2 heq)
          obtain rfl : rest = [] := ends_afterToken ends_readAll hclose hafter
          exact ⟨rfl, by rw [htoken', Option.bind_some, hafter]⟩
    · refine .of_beyond (fun tail d names' rest h => ?_) fun d names' rest h => ?_
      · rw [← readAll_skip] at h
        exact Nat.lt_of_lt_of_le (length_readAll_lt h) (hpast tail)
      · have hlong : f.skip (t ++ [')']) = [] :=
          List.eq_nil_of_length_eq_zero (Nat.le_zero.mp (hpast []))
        rw [readAll_end hnil] at h
        cases h
        exact ⟨rfl, readAll_end hlong⟩

end AuditTrail.Regex
