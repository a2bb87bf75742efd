import AuditTrail.Proofs.Regex.Follows

/-
  Escapes by themselves and in front of a closing parenthesis. A word boundary is the one escape
  that looks further than it reads (`EscapeFollows`).
-/
namespace AuditTrail.Regex

variable {f : Flags}

theorem suffix_takeHex {n : Nat} {cs ds rest : List Char}
    (h : takeHex f n cs = some (ds, rest)) : rest <:+ cs := by
  induction n generalizing cs ds rest with
  | zero =>
    cases h
    exact List.suffix_rfl
  | succ n ih =>
    cases cs with
    | nil => cases h
    | cons c cs =>
      rw [takeHex] at h
      dsimp only at h
      split at h
      next =>
        obtain ⟨⟨ds', rest'⟩, htake, heq⟩ := Option.map_eq_some_iff.mp h
        cases heq
        exact (ih htake).trans ((suffix_skip f cs).trans (List.suffix_cons c cs))
      next => cases h

theorem takeHex_follows (n : Nat) (t : List Char) :
    Follows (takeHex f n t) (fun tail => takeHex f n (t ++ ')' :: tail)) := by
  induction n generalizing t with
  | zero => exact .carried fun _ => rfl
  | succ n ih =>
    cases t with
    | nil => exact .of_past fun tail => past_none tail
    | cons c t =>
      simp only [List.cons_append, takeHex]
      split
      next =>
        refine Follows.map (fun _ _ => rfl) ?_
        exact Follows.skip f (takeHex f n) (fun _ => takeHex f n)
          (fun _ => ih _) (fun _ _ _ _ => suffix_takeHex)
          (end_of_suffix fun _ _ _ => suffix_takeHex)
      next => exact .of_past fun tail => past_none tail

theorem takeBraced_skip (fuel : Nat) (cs : List Char) :
    takeBraced f fuel (f.skip cs) = takeBraced f fuel cs := by
  cases fuel with
  | zero => rfl
  | succ fuel => rw [takeBraced, takeBraced, skip_skip]

theorem takeBraced_close (fuel : Nat) {cs rest : List Char} (h : f.skip cs = '\x7d' :: rest) :
    takeBraced f (fuel + 1) cs = some ([], rest) := by
  rw [takeBraced, h]
  rfl

theorem takeBraced_cons (fuel : Nat) {c : Char} {cs rest : List Char} (h : f.skip cs = c :: rest)
    (hc : c ≠ '\x7d') :
    takeBraced f (fuel + 1) cs = (takeBraced f fuel rest).map fun p => (c :: p.1, p.2) := by
  rw [takeBraced, h]
  split
  next heq => cases heq
  next heq =>
    cases heq
    exact absurd rfl hc
  next heq =>
    cases heq
    rfl

theorem takeBraced_nil (fuel : Nat) {cs : List Char} (h : f.skip cs = []) :
    takeBraced f fuel cs = none := by
  cases fuel with
  | zero => rfl
  | succ fuel => rw [takeBraced, h]

theorem suffix_takeBraced {fuel : Nat} {cs ds rest : List Char}
    (h : takeBraced f fuel cs = some (ds, rest)) : rest <:+ cs := by
  induction fuel generalizing cs ds rest with
  | zero => cases h
  | succ fuel ih =>
    cases hcs : f.skip cs with
    | nil =>
      rw [takeBraced_nil _ hcs] at h
      cases h
    | cons c cs' =>
      by_cases hc : c = '\x7d'
      · subst hc
        rw [takeBraced_close _ hcs] at h
        cases h
        exact suffix_of_skip hcs
      · rw [takeBraced_cons _ hcs hc] at h
        obtain ⟨⟨ds', rest'⟩, htake, heq⟩ := Option.map_eq_some_iff.mp h
        cases heq
        exact (ih htake).trans (suffix_of_skip hcs)

theorem takeBraced_follows {n : Nat} {m : List Char → Nat} {t : List Char} (hn : t.length < n)
    (hm : ∀ tail : List Char, t.length + tail.length + 1 < m tail) :
    Follows (takeBraced f n t) (fun tail => takeBraced f (m tail) (t ++ ')' :: tail)) := by
  induction n generalizing m t with
  | zero => exact absurd hn (Nat.not_lt_zero _)
  | succ n ih =>
    refine Follows.of_settled f (takeBraced f (n + 1))
      (fun tail => takeBraced f (m tail)) (takeBraced_skip _)
      (fun tail => takeBraced_skip _) (fun s hs hlength => ?_)
      (fun _ _ _ _ => suffix_takeBraced) fun x rest h => ?_
    · obtain ⟨m, rfl⟩ := exists_fuel hm
      cases s with
      | nil =>
        rw [takeBraced_nil _ hs.alone]
        refine .of_past fun tail => ?_
        rw [takeBraced_cons _ (hs.closed tail) (by decide)]
        exact Past.map (fun _ _ => rfl) fun x rest h => (suffix_takeBraced h).length_le
      | cons c rest =>
        rw [List.length_cons] at hlength
        by_cases hc : c = '\x7d'
        · subst hc
          rw [takeBraced_close _ hs.alone]
          exact .carried fun tail => takeBraced_close _ (hs.closed_cons tail)
        · rw [takeBraced_cons _ hs.alone hc]
          simp only [fun tail => takeBraced_cons (f := f) (m tail) (hs.closed_cons tail) hc]
          refine Follows.map (fun _ _ => rfl) (ih (by omega) fun tail => ?_)
          have htail := hm tail
          dsimp only at htail
          omega
    · rw [takeBraced_nil _ (skip_nil f)] at h
      cases h

theorem readHex_skip (width : Nat) (cs : List Char) :
    readHex f width (f.skip cs) = readHex f width cs := by
  rw [readHex, readHex, skip_skip]

theorem readHex_nil (width : Nat) : readHex f width [] = none := by
  rw [readHex, skip_nil]

/-- The character that is written in braces. -/
def braced? (ds : List Char) : Option Char :=
  if ds = [] ∨ ds.length > 8 ∧ (ds.dropWhile (· == '0')).length > 8 then none
  else if ds.all fun c => (Digits.hexValue c).isSome then charOf? (Digits.hexNumber ds)
  else none

theorem readHex_braced (width : Nat) {cs rest : List Char} (h : f.skip cs = '\x7b' :: rest) :
    readHex f width cs = (takeBraced f (rest.length + 1) rest).bind fun p =>
      (braced? p.1).map fun c => (.literal c false, f.skip p.2) := by
  rw [readHex, h]
  refine congrArg ((takeBraced f (rest.length + 1) rest).bind ·) (funext fun p => ?_)
  dsimp only [braced?]
  split
  next => rfl
  next =>
    split
    next => rfl
    next => rfl

theorem readHex_plain (width : Nat) {c : Char} {cs rest : List Char} (h : f.skip cs = c :: rest)
    (hc : c ≠ '\x7b') : readHex f width cs = (takeHex f width (c :: rest)).bind fun p =>
      (charOf? (Digits.hexNumber p.1)).map fun d => (.literal d (width == 2), p.2) := by
  rw [readHex, h]
  split
  next heq => cases heq
  next heq =>
    cases heq
    exact absurd rfl hc
  next => rfl

theorem suffix_readHex {width : Nat} {cs rest : List Char} {a : Atom}
    (h : readHex f width cs = some (a, rest)) : rest <:+ cs := by
  cases hcs : f.skip cs with
  | nil =>
    rw [← readHex_skip, hcs, readHex_nil] at h
    cases h
  | cons c cs' =>
    by_cases hc : c = '\x7b'
    · subst hc
      rw [readHex_braced _ hcs] at h
      obtain ⟨⟨ds, rest'⟩, htake, hbraced⟩ := Option.bind_eq_some_iff.mp h
      rw [rest_of_map hbraced]
      exact (suffix_skip f rest').trans ((suffix_takeBraced htake).trans (suffix_of_skip hcs))
    · rw [readHex_plain _ hcs hc, ← hcs] at h
      obtain ⟨⟨ds, rest'⟩, htake, hcode⟩ := Option.bind_eq_some_iff.mp h
      rw [rest_of_map hcode]
      exact (suffix_takeHex htake).trans (suffix_skip f cs)

theorem readHex_follows (width : Nat) (t : List Char) :
    Follows (readHex f (width + 1) t) (fun tail => readHex f (width + 1) (t ++ ')' :: tail)) := by
  refine Follows.of_settled f (readHex f (width + 1)) (fun _ => readHex f (width + 1))
    (readHex_skip _) (fun _ => readHex_skip _) (fun s hs _ => ?_)
    (fun _ _ _ _ => suffix_readHex) (end_of_suffix fun _ _ _ => suffix_readHex)
  cases s with
  | nil =>
    rw [readHex_nil]
    refine .of_past fun tail => ?_
    rw [readHex_plain _ (hs.closed tail) (by decide)]
    exact past_none tail
  | cons c rest =>
    by_cases hc : c = '\x7b'
    · subst hc
      rw [readHex_braced _ hs.alone]
      simp only [fun tail => readHex_braced (f := f) (width + 1) (hs.closed_cons tail)]
      refine Follows.bind (takeBraced_follows (Nat.lt_succ_self _) fun tail => ?_)
        (fun ds rest' _ => ?_) fun ds cs a rest' h => ?_
      · rw [List.length_append, List.length_cons]
        omega
      · exact follows_map_skip f (braced? ds) _ rest'
      · rw [rest_of_map h]
        exact suffix_skip f cs
    · rw [readHex_plain _ hs.alone hc]
      simp only [fun tail => readHex_plain (f := f) (width + 1) (hs.closed_cons tail) hc]
      refine Follows.bind (takeHex_follows (width + 1) (c :: rest)) (fun ds rest' _ => ?_)
        fun ds cs a rest' h => ?_
      · exact follows_map (charOf? (Digits.hexNumber ds)) _ rest'
      · exact suffix_of_map h

/-- The set that a name stands for after `p`, or after `P` if it is negated. -/
def propertyAtom? (f : Flags) (negated : Bool) (name : List Char) : Option Atom :=
  (propertySet name).map fun s => .set (if negated then .compl (f.fold s) else f.fold s)

theorem readProperty_skip (negated : Bool) (cs : List Char) :
    readProperty f negated (f.skip cs) = readProperty f negated cs := by
  rw [readProperty, readProperty, skip_skip]

theorem readProperty_ascii (negated : Bool) (cs : List Char) (h : f.unicode = false) :
    readProperty f negated cs = none := by
  rw [readProperty, h]
  rfl

theorem readProperty_nil (negated : Bool) : readProperty f negated [] = none := by
  rw [readProperty, skip_nil]
  cases f.unicode <;> rfl

theorem readProperty_braced (negated : Bool) {cs rest : List Char} (hu : f.unicode = true)
    (h : f.skip cs = '\x7b' :: rest) : readProperty f negated cs =
      (takeBraced f (rest.length + 1) rest).bind fun p =>
        (propertyAtom? f negated p.1).map fun a => (a, p.2) := by
  rw [readProperty, h, hu]
  refine congrArg ((takeBraced f (rest.length + 1) rest).bind ·) (funext fun p => ?_)
  cases hset : propertySet p.1 with
  | none =>
    dsimp only [propertyAtom?]
    rw [hset]
    rfl
  | some s =>
    dsimp only [propertyAtom?]
    rw [hset]
    rfl

theorem readProperty_letter (negated : Bool) {c : Char} {cs rest : List Char}
    (hu : f.unicode = true) (h : f.skip cs = c :: rest) (hc : c ≠ '\x7b') (hc' : c ≠ '\\') :
    readProperty f negated cs =
      (propertyAtom? f negated [c]).map fun a => (a, f.skip rest) := by
  simp only [readProperty, h, hu, Bool.not_true, Bool.false_eq_true, if_false, propertyAtom?]
  cases hset : propertySet [c] with
  | none =>
    simp only [Option.bind_eq_bind, Option.bind_some, hset, Option.bind_none, Option.map_none]
  | some s => simp only [Option.bind_eq_bind, Option.bind_some, hset, Option.map_some]

theorem readProperty_backslash (negated : Bool) {cs rest : List Char}
    (h : f.skip cs = '\\' :: rest) : readProperty f negated cs = none := by
  rw [readProperty, h]
  cases f.unicode <;> rfl

theorem suffix_readProperty {negated : Bool} {cs rest : List Char} {a : Atom}
    (h : readProperty f negated cs = some (a, rest)) : rest <:+ cs := by
  cases hu : f.unicode with
  | false =>
    rw [readProperty_ascii negated cs hu] at h
    cases h
  | true =>
    cases hcs : f.skip cs with
    | nil =>
      rw [← readProperty_skip, hcs, readProperty_nil] at h
      cases h
    | cons c cs' =>
      by_cases hc : c = '\x7b'
      · subst hc
        rw [readProperty_braced negated hu hcs] at h
        obtain ⟨⟨name, rest'⟩, htake, hset⟩ := Option.bind_eq_some_iff.mp h
        rw [rest_of_map hset]
        exact (suffix_takeBraced htake).trans (suffix_of_skip hcs)
      by_cases hc' : c = '\\'
      · subst hc'
        rw [readProperty_backslash negated hcs] at h
        cases h
      · rw [readProperty_letter negated hu hcs hc hc'] at h
        rw [rest_of_map h]
        exact (suffix_skip f cs').trans (suffix_of_skip hcs)

theorem readProperty_follows (negated : Bool) (t : List Char) :
    Follows (readProperty f negated t) (fun tail => readProperty f negated (t ++ ')' :: tail)) := by
  refine Follows.of_settled f (readProperty f negated) (fun _ => readProperty f negated)
    (readProperty_skip _)
    (fun _ => readProperty_skip _) (fun s hs _ => ?_)
    (fun _ _ _ _ => suffix_readProperty) (end_of_suffix fun _ _ _ => suffix_readProperty)
  cases hu : f.unicode with
  | false =>
    rw [readProperty_ascii negated s hu]
    exact .of_past fun tail => by
      rw [readProperty_ascii negated _ hu]
      exact past_none tail
  | true =>
    cases s with
    | nil =>
      rw [readProperty_nil]
      refine .of_past fun tail => ?_
      rw [readProperty_letter negated hu (hs.closed tail) (by decide) (by decide)]
      intro a rest h
      rw [rest_of_map h]
      exact length_skip_le f tail
    | cons c rest =>
      by_cases hc : c = '\x7b'
      · subst hc
        rw [readProperty_braced negated hu hs.alone]
        simp only [fun tail => readProperty_braced negated hu (hs.closed_cons tail)]
        refine Follows.bind (takeBraced_follows (Nat.lt_succ_self _) fun tail => ?_)
          (fun name rest' _ => ?_) fun name cs a rest' h => ?_
        · rw [List.length_append, List.length_cons]
          omega
        · exact follows_map (propertyAtom? f negated name) _ rest'
        · exact suffix_of_map h
      by_cases hc' : c = '\\'
      · subst hc'
        rw [readProperty_backslash negated hs.alone]
        refine .of_past fun tail => ?_
        rw [readProperty_backslash negated (hs.closed_cons tail)]
        exact past_none tail
      · rw [readProperty_letter negated hu hs.alone hc hc']
        simp only [fun tail => readProperty_letter negated hu (hs.closed_cons tail) hc hc']
        exact follows_map_skip f (propertyAtom? f negated [c]) _ rest

theorem takeBoundaryName_cons (fuel : Nat) {c : Char} (rest : List Char) (hc : c ≠ '\x7d') :
    takeBoundaryName f (fuel + 1) (c :: rest) =
      if isBoundaryChar c then
        (takeBoundaryName f fuel (f.skip rest)).map fun p => (c :: p.1, p.2)
      else none := by
  rw [takeBoundaryName]
  exact hc

theorem takeBoundaryName_nil (fuel : Nat) : takeBoundaryName f fuel [] = none := by
  cases fuel <;> rfl

theorem suffix_takeBoundaryName {fuel : Nat} {cs ds rest : List Char}
    (h : takeBoundaryName f fuel cs = some (ds, rest)) : rest <:+ cs := by
  induction fuel generalizing cs ds rest with
  | zero => cases h
  | succ fuel ih =>
    cases cs with
    | nil => cases h
    | cons c cs =>
      by_cases hc : c = '\x7d'
      · subst hc
        cases h
        exact List.suffix_cons _ rest
      · rw [takeBoundaryName_cons _ _ hc] at h
        split at h
        next =>
          obtain ⟨⟨ds', rest'⟩, htake, heq⟩ := Option.map_eq_some_iff.mp h
          cases heq
          exact (ih htake).trans ((suffix_skip f cs).trans (List.suffix_cons c cs))
        next => cases h

theorem takeBoundaryName_follows {n : Nat} {m : List Char → Nat} {t : List Char}
    (hn : t.length < n) (hm : ∀ tail : List Char, t.length + tail.length + 1 < m tail) :
    Follows (takeBoundaryName f n t)
      (fun tail => takeBoundaryName f (m tail) (t ++ ')' :: tail)) := by
  induction n generalizing m t with
  | zero => exact absurd hn (Nat.not_lt_zero _)
  | succ n ih =>
    obtain ⟨m, rfl⟩ := exists_fuel hm
    cases t with
    | nil => exact .of_past fun tail => past_none tail
    | cons c t =>
      by_cases hc : c = '\x7d'
      · subst hc
        exact .carried fun _ => rfl
      · simp only [List.cons_append, takeBoundaryName_cons _ _ hc]
        have hlength := length_skip_le f t
        rw [List.length_cons] at hn
        split
        next =>
          refine Follows.map (fun _ _ => rfl) (Follows.skip f (takeBoundaryName f n)
            (fun tail => takeBoundaryName f (m tail))
            (fun _ => ih (by omega) fun tail => ?_) (fun _ _ _ _ => suffix_takeBoundaryName) ?_)
          · have htail := hm tail
            rw [List.length_cons] at htail
            dsimp only at htail
            omega
          · intro ds rest h
            rw [takeBoundaryName_nil] at h
            cases h
        next => exact .of_past fun tail => past_none tail

/-- The assertion with a name. -/
def boundaryLook? (ascii : Bool) (name : String) : Option Look :=
  if name = "start" then some (.wordStart ascii)
  else if name = "end" then some (.wordEnd ascii)
  else if name = "start-half" then some (.noWordBefore ascii)
  else if name = "end-half" then some (.noWordAfter ascii)
  else none

/-- The assertion without a name. -/
def plainBoundary (f : Flags) : Atom := .look (.wordBoundary !f.unicode)

theorem readBoundary_plain {cs : List Char} (h : cs.head? ≠ some '\x7b') :
    readBoundary f cs = some (plainBoundary f, cs) := by
  rw [readBoundary]
  · rfl
  · intro rest heq
    rw [heq] at h
    exact h rfl

theorem readBoundary_stop {rest : List Char} (h : f.skip rest = []) :
    readBoundary f ('\x7b' :: rest) = none := by
  rw [readBoundary, h]

theorem readBoundary_count {c : Char} {rest cs : List Char} (h : f.skip rest = c :: cs)
    (hc : isBoundaryChar c = false) :
    readBoundary f ('\x7b' :: rest) = some (plainBoundary f, '\x7b' :: rest) := by
  rw [readBoundary, h]
  dsimp only
  rw [hc, if_neg Bool.false_ne_true]
  rfl

theorem readBoundary_named {c : Char} {rest cs : List Char} (h : f.skip rest = c :: cs)
    (hc : isBoundaryChar c = true) : readBoundary f ('\x7b' :: rest) =
      (takeBoundaryName f (cs.length + 2) (c :: cs)).bind fun p =>
        (boundaryLook? (!f.unicode) (String.ofList p.1)).map fun l => (.look l, p.2) := by
  rw [readBoundary, h]
  dsimp only
  rw [hc, if_pos rfl]
  cases takeBoundaryName f (cs.length + 2) (c :: cs) with
  | none => rfl
  | some p =>
    obtain ⟨name, rest'⟩ := p
    rw [Option.bind_some, boundaryLook?]
    dsimp only
    split
    next heq => rw [if_pos heq]; rfl
    next heq => rw [heq]; rfl
    next heq => rw [heq]; rfl
    next heq => rw [heq]; rfl
    next h₁ h₂ h₃ h₄ => rw [if_neg h₁, if_neg h₂, if_neg h₃, if_neg h₄]; rfl

/-- Braces behind a word boundary are looked into before anything is taken from them. So a boundary
with an opening brace, blanks and comments behind it is refused at the end of a text, while in front
of a parenthesis it may be taken for one with a count, of which there is then nothing. -/
inductive EscapeFollows (f : Flags) :
    Option (Atom × List Char) → (List Char → Option (Atom × List Char)) → Prop
  | follows {short : Option (Atom × List Char)} {long : List Char → Option (Atom × List Char)} :
      Follows short long → EscapeFollows f short long
  | braced {rest : List Char} {long : List Char → Option (Atom × List Char)} :
      f.skip rest = [] → (∀ tail, Past tail (long tail) ∨
        long tail = some (plainBoundary f, '\x7b' :: (rest ++ ')' :: tail))) →
      EscapeFollows f none long

theorem suffix_readBoundary {cs rest : List Char} {a : Atom}
    (h : readBoundary f cs = some (a, rest)) : rest <:+ cs := by
  by_cases hbrace : cs.head? = some '\x7b'
  · obtain ⟨cs, rfl⟩ := List.head?_eq_some_iff.mp hbrace
    cases hcs : f.skip cs with
    | nil =>
      rw [readBoundary_stop hcs] at h
      cases h
    | cons c cs' =>
      cases hc : isBoundaryChar c with
      | false =>
        rw [readBoundary_count hcs hc] at h
        cases h
        exact List.suffix_rfl
      | true =>
        rw [readBoundary_named hcs hc, ← hcs] at h
        obtain ⟨⟨name, rest'⟩, htake, hlook⟩ := Option.bind_eq_some_iff.mp h
        rw [rest_of_map hlook]
        exact (suffix_takeBoundaryName htake).trans
          ((suffix_skip f cs).trans (List.suffix_cons _ cs))
  · rw [readBoundary_plain hbrace] at h
    cases h
    exact List.suffix_rfl

theorem readBoundary_follows (t : List Char) :
    EscapeFollows f (readBoundary f t) (fun tail => readBoundary f (t ++ ')' :: tail)) := by
  by_cases hbrace : t.head? = some '\x7b'
  · obtain ⟨t, rfl⟩ := List.head?_eq_some_iff.mp hbrace
    rcases skip_closed f t with hbefore | ⟨hnil, hpast⟩
    · cases ht : f.skip t with
      | nil =>
        rw [readBoundary_stop ht]
        refine .braced ht fun tail => .inr ?_
        have hlong := hbefore tail
        rw [ht] at hlong
        exact readBoundary_count hlong (by decide)
      | cons c rest =>
        have hlong : ∀ tail, f.skip (t ++ ')' :: tail) = c :: (rest ++ ')' :: tail) := by
          intro tail
          rw [hbefore, ht]
          rfl
        cases hc : isBoundaryChar c with
        | false =>
          rw [readBoundary_count ht hc]
          exact .follows (.carried fun tail => readBoundary_count (hlong tail) hc)
        | true =>
          rw [readBoundary_named ht hc]
          simp only [List.cons_append, fun tail => readBoundary_named (hlong tail) hc]
          refine .follows (Follows.bind (takeBoundaryName_follows (t := c :: rest)
            (Nat.lt_succ_self _) fun tail => ?_) (fun name rest' _ => ?_)
            fun name cs a rest' h => ?_)
          · rw [List.length_append, List.length_cons, List.length_cons]
            omega
          · exact follows_map (boundaryLook? (!f.unicode) (String.ofList name)) _ rest'
          · exact suffix_of_map h
    · rw [readBoundary_stop hnil]
      refine .braced hnil fun tail => ?_
      rw [List.cons_append]
      cases htail : f.skip (t ++ ')' :: tail) with
      | nil =>
        rw [readBoundary_stop htail]
        exact .inl (past_none tail)
      | cons c rest =>
        cases hc : isBoundaryChar c with
        | false => exact .inr (readBoundary_count htail hc)
        | true =>
          left
          intro a rest' h
          rw [readBoundary_named htail hc] at h
          obtain ⟨⟨name, rest''⟩, htake, hlook⟩ := Option.bind_eq_some_iff.mp h
          obtain ⟨l, -, heq⟩ := Option.map_eq_some_iff.mp hlook
          cases heq
          have hle := hpast tail
          rw [htail] at hle
          exact Nat.le_trans (suffix_takeBoundaryName htake).length_le hle
  · rw [readBoundary_plain hbrace]
    exact .follows (.carried fun tail =>
      readBoundary_plain (mt (head?_closed (by decide) t tail).mp hbrace))

/-- The other escapes are one character long. -/
theorem readEscape_letter {c : Char} (hc : c ∉ ['x', 'u', 'U', 'p', 'P', 'b']) (rest : List Char) :
    readEscape f (c :: rest) = (readEscape f [c]).map fun p => (p.1, rest) := by
  simp only [readEscape]
  split
  -- Six escapes read on, and these are left out; letter classes may be refused.
  all_goals first
    | exact absurd (by decide) hc
    | rfl
    | (rw [Option.map_map]; rfl)
    | (split <;> rfl)

theorem suffix_readEscape {c : Char} {cs rest : List Char} {a : Atom}
    (h : readEscape f (c :: cs) = some (a, rest)) : rest <:+ cs := by
  by_cases hc : c ∈ ['x', 'u', 'U', 'p', 'P', 'b']
  · simp only [List.mem_cons, List.not_mem_nil, or_false] at hc
    rcases hc with rfl | rfl | rfl | rfl | rfl | rfl
    · exact suffix_readHex h
    · exact suffix_readHex h
    · exact suffix_readHex h
    · exact suffix_readProperty h
    · exact suffix_readProperty h
    · exact suffix_readBoundary h
  · rw [readEscape_letter hc] at h
    exact suffix_of_map h

theorem readEscape_follows (t : List Char) :
    EscapeFollows f (readEscape f t) (fun tail => readEscape f (t ++ ')' :: tail)) := by
  cases t with
  | nil =>
    refine .follows (.of_past fun tail a rest h => ?_)
    exact (suffix_readEscape h).length_le
  | cons c t =>
    by_cases hc : c ∈ ['x', 'u', 'U', 'p', 'P', 'b']
    · simp only [List.mem_cons, List.not_mem_nil, or_false] at hc
      rcases hc with rfl | rfl | rfl | rfl | rfl | rfl
      · exact .follows (readHex_follows 1 t)
      · exact .follows (readHex_follows 3 t)
      · exact .follows (readHex_follows 7 t)
      · exact .follows (readProperty_follows false t)
      · exact .follows (readProperty_follows true t)
      · exact readBoundary_follows t
    · simp only [List.cons_append]
      rw [readEscape_letter hc]
      simp only [fun tail => readEscape_letter (f := f) hc (t ++ ')' :: tail)]
      cases readEscape f [c] with
      | none => exact .follows (.of_past fun tail => past_none tail)
      | some p => exact .follows (.carried fun _ => rfl)

end AuditTrail.Regex
