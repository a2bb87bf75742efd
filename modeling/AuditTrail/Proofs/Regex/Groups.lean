import AuditTrail.Proofs.Regex.Sets

/-
  Openings of groups by themselves and in front of a closing parenthesis, and counts. Flags that are
  not closed take the parenthesis for their end (`readFlags_closed`).
-/
namespace AuditTrail.Regex

variable {f : Flags}

/-! ## Flags -/

/-- Flags end at a colon or a parenthesis, and there is none of either where they are not read. -/
theorem readFlags_closed (change : FlagChange) (minus : Bool) (t : List Char) :
    (∃ change' c rest, readFlags change minus t = some (change', c :: rest) ∧ ∀ tail,
      readFlags change minus (t ++ ')' :: tail) = some (change', c :: (rest ++ ')' :: tail))) ∨
    readFlags change minus t = none ∧ ∀ tail change' rest,
      readFlags change minus (t ++ ')' :: tail) = some (change', rest) → rest = ')' :: tail := by
  induction t generalizing change minus with
  | nil =>
    refine .inr ⟨rfl, fun tail change' rest h => ?_⟩
    rw [List.nil_append, readFlags, if_pos (.inr rfl)] at h
    split at h
    next => cases h
    next =>
      cases h
      rfl
  | cons c t ih =>
    simp only [readFlags, List.cons_append]
    by_cases hend : c = ':' ∨ c = ')'
    · simp only [if_pos hend]
      by_cases hempty : minus = true ∧ change.off = []
      · simp only [if_pos hempty]
        exact .inr ⟨trivial, nofun⟩
      · simp only [if_neg hempty]
        exact .inl ⟨change, c, t, rfl, fun _ => rfl⟩
    simp only [if_neg hend]
    by_cases hminus : c = '-'
    · simp only [if_pos hminus]
      cases minus with
      | true => exact .inr ⟨rfl, nofun⟩
      | false => exact ih change true
    simp only [if_neg hminus]
    by_cases hletter : ['i', 'm', 's', 'U', 'u', 'R', 'x'].contains c = true
    · simp only [if_pos hletter]
      by_cases htwice : change.on.contains c = true ∨ change.off.contains c = true
      · simp only [if_pos htwice]
        exact .inr ⟨trivial, nofun⟩
      simp only [if_neg htwice]
      cases minus with
      | true => exact ih _ true
      | false => exact ih _ false
    · simp only [if_neg hletter]
      exact .inr ⟨trivial, nofun⟩

theorem suffix_readFlags {change change' : FlagChange} {minus : Bool} {cs rest : List Char}
    (h : readFlags change minus cs = some (change', rest)) : rest <:+ cs := by
  induction cs generalizing change minus with
  | nil => cases h
  | cons c cs ih =>
    rw [readFlags] at h
    split at h
    next =>
      split at h
      next => cases h
      next =>
        cases h
        exact List.suffix_rfl
    next =>
      refine List.IsSuffix.trans ?_ (List.suffix_cons c cs)
      split at h
      next =>
        split at h
        next => cases h
        next => exact ih h
      next =>
        split at h
        next =>
          split at h
          next => cases h
          next =>
            split at h
            next => exact ih h
            next => exact ih h
        next => cases h

/-! ## Names -/

/-- The name that is written before the closing bracket. -/
def nameOf? (name : List Char) : Option String :=
  if name.head?.any (isNameChar true) && name.tail.all (isNameChar false) then
    some (String.ofList name)
  else none

theorem readName_at {name : List Char} (h : '>' ∉ name) (rest : List Char) :
    readName (name ++ '>' :: rest) = (nameOf? name).map (·, rest) := by
  obtain ⟨htake, hdrop⟩ := Text.cut_at h rest
  rw [readName, htake, hdrop]
  cases name with
  | nil => rfl
  | cons c more =>
    by_cases hname : (isNameChar true c && more.all (isNameChar false)) = true
    · have hsome : nameOf? (c :: more) = some (String.ofList (c :: more)) := if_pos hname
      rw [hsome]
      exact if_pos hname
    · have hnone : nameOf? (c :: more) = none := if_neg hname
      rw [hnone]
      exact if_neg hname

theorem readName_none {cs : List Char} (h : '>' ∉ cs) : readName cs = none := by
  rw [readName, (Text.cut_none h).2]
  split
  next heq => cases heq
  next => rfl

theorem parenthesis_not_mem_name {name : List Char} {s : String} (h : nameOf? name = some s) :
    ')' ∉ name := by
  rw [nameOf?] at h
  split at h
  next hname =>
    rw [Bool.and_eq_true, List.all_eq_true] at hname
    cases name with
    | nil => exact List.not_mem_nil
    | cons c more =>
      rw [List.mem_cons]
      rintro (rfl | hmem)
      · rw [List.head?_cons, Option.any_some] at hname
        exact absurd hname.1 (by decide)
      · exact absurd (hname.2 _ hmem) (by decide)
  next => cases h

theorem readName_closed (t tail : List Char) :
    readName (t ++ ')' :: tail) = (readName t).map fun p => (p.1, p.2 ++ ')' :: tail) := by
  by_cases hclose : '>' ∈ t
  · obtain ⟨name, rest, rfl, hname⟩ := List.eq_append_cons_of_mem hclose
    rw [List.append_assoc, List.cons_append, readName_at hname, readName_at hname, Option.map_map]
    rfl
  · rw [readName_none hclose, Option.map_none]
    by_cases hclose' : '>' ∈ t ++ ')' :: tail
    · -- The name would hold the parenthesis.
      obtain ⟨name, rest, heq, hname⟩ := List.eq_append_cons_of_mem hclose'
      rw [heq, readName_at hname]
      refine Option.map_eq_none_iff.mpr (Option.eq_none_iff_forall_ne_some.mpr fun s hs => ?_)
      refine parenthesis_not_mem_name hs ?_
      rcases List.append_eq_append_iff.mp heq with ⟨more, rfl, hmore⟩ | ⟨more, rfl, hmore⟩
      · cases more with
        | nil => exact absurd (List.head_eq_of_cons_eq hmore) (by decide)
        | cons c more =>
          rw [List.head_eq_of_cons_eq hmore]
          exact List.mem_append_right _ List.mem_cons_self
      · cases more with
        | nil => exact absurd (List.head_eq_of_cons_eq hmore) (by decide)
        | cons c more =>
          rw [← List.head_eq_of_cons_eq hmore] at hclose
          exact absurd (List.mem_append_right _ List.mem_cons_self) hclose
    · exact readName_none hclose'

theorem suffix_readName {cs rest : List Char} {name : String}
    (h : readName cs = some (name, rest)) : rest <:+ cs := by
  by_cases hclose : '>' ∈ cs
  · obtain ⟨text, rest', rfl, htext⟩ := List.eq_append_cons_of_mem hclose
    rw [readName_at htext] at h
    rw [rest_of_map h]
    exact (List.suffix_cons _ rest').trans (List.suffix_append text _)
  · rw [readName_none hclose] at h
    cases h

/-! ## Openings -/

/-- What flags open that end in a colon or a parenthesis. -/
def openingOf? (change : FlagChange) (c : Char) : Option Opening :=
  if c = ')' then if change.on = [] ∧ change.off = [] then none else some (.flags change)
  else some (.group none change)

/-- Reads flags with what ends them. -/
def readFlagged (cs : List Char) : Option (Opening × List Char) :=
  (readFlags ⟨[], []⟩ false cs).bind fun p =>
    p.2.head?.bind fun c => (openingOf? p.1 c).map (·, p.2.tail)

/-- Reads a name as an opening. -/
def readNamed (cs : List Char) : Option (Opening × List Char) :=
  (readName cs).map fun p => (.group (some p.1) ⟨[], []⟩, p.2)

/-- Reads what follows a question mark behind a parenthesis. -/
def readMarked (cs : List Char) : Option (Opening × List Char) :=
  if cs.head? = some '=' ∨ cs.head? = some '!' then none
  else if cs.take 2 = ['<', '='] ∨ cs.take 2 = ['<', '!'] then none
  else if cs.take 2 = ['P', '<'] then readNamed (cs.drop 2)
  else if cs.head? = some '<' then readNamed (cs.drop 1)
  else readFlagged cs

theorem readOpening_plain {cs : List Char} (h : (f.skip cs).head? ≠ some '?') :
    readOpening f cs = some (.group none ⟨[], []⟩, f.skip cs) := by
  rw [readOpening]
  split
  all_goals first
    | rfl
    | (rename_i heq; exact absurd (by rw [heq]; rfl) h)

theorem take_two_eq {a b : Char} {cs : List Char} :
    cs.take 2 = [a, b] ↔ ∃ rest, cs = a :: b :: rest := by
  constructor
  · intro h
    refine ⟨cs.drop 2, ?_⟩
    rw [← List.take_append_drop 2 cs, h]
    rfl
  · rintro ⟨rest, rfl⟩
    rfl

theorem readOpening_marked {cs rest : List Char} (h : f.skip cs = '?' :: rest) :
    readOpening f cs = readMarked rest := by
  rw [readOpening, h]
  split
  -- The texts that are no flags.
  iterate 5
    next heq =>
      cases heq
      rfl
  next hequal hmark heq =>
    cases heq
    rw [readMarked, if_neg (by simp), if_neg, if_neg (by simp)]
    · exact (if_pos rfl).symm
    · rw [take_two_eq, take_two_eq]
      rintro (⟨rest, hrest⟩ | ⟨rest, hrest⟩)
      · exact hequal rest (List.cons_eq_cons.mp hrest).2
      · exact hmark rest (List.cons_eq_cons.mp hrest).2
  next h₁ h₂ h₃ h₄ h₅ h₆ heq =>
    cases heq
    rw [readMarked, if_neg, if_neg, if_neg, if_neg, readFlagged]
    · cases readFlags ⟨[], []⟩ false rest with
      | none => rfl
      | some p =>
        obtain ⟨change, cs'⟩ := p
        cases cs' with
        | nil => rfl
        | cons c cs' =>
          rw [Option.bind_some, List.head?_cons, Option.bind_some, openingOf?]
          by_cases hc : c = ')'
          · subst hc
            rw [if_pos rfl]
            by_cases hempty : change.on = [] ∧ change.off = []
            · rw [if_pos hempty]
              exact if_pos hempty
            · rw [if_neg hempty]
              exact if_neg hempty
          · rw [if_neg hc]
            split
            next heq =>
              cases heq
              exact absurd rfl hc
            next heq =>
              cases heq
              rfl
            next hne => exact absurd rfl (hne _ _ _)
    · rw [List.head?_eq_some_iff]
      rintro ⟨rest, hrest⟩
      exact h₆ rest hrest
    · rw [take_two_eq]
      rintro ⟨rest, hrest⟩
      exact h₅ rest hrest
    · rw [take_two_eq, take_two_eq]
      rintro (⟨rest, hrest⟩ | ⟨rest, hrest⟩)
      · exact h₃ rest hrest
      · exact h₄ rest hrest
    · rw [List.head?_eq_some_iff, List.head?_eq_some_iff]
      rintro (⟨rest, hrest⟩ | ⟨rest, hrest⟩)
      · exact h₁ rest hrest
      · exact h₂ rest hrest
  next hne => exact absurd rfl (hne rest)

theorem readFlagged_follows (t : List Char) :
    Follows (readFlagged t) (fun tail => readFlagged (t ++ ')' :: tail)) := by
  rcases readFlags_closed ⟨[], []⟩ false t with ⟨change, c, rest, hshort, hlong⟩ | ⟨hshort, hlong⟩
  · simp only [readFlagged, hshort, hlong, Option.bind_some, List.head?_cons, List.tail_cons]
    exact follows_map (openingOf? change c) (fun o => o) rest
  · have hnone : readFlagged t = none := by
      rw [readFlagged, hshort, Option.bind_none]
    rw [hnone]
    refine .of_past fun tail o rest h => ?_
    obtain ⟨⟨change, cs⟩, hflags, hopening⟩ := Option.bind_eq_some_iff.mp h
    obtain ⟨c, hc, hopening⟩ := Option.bind_eq_some_iff.mp hopening
    rw [rest_of_map hopening, hlong tail change cs hflags]
    exact Nat.le_refl _

theorem suffix_readFlagged {cs rest : List Char} {o : Opening}
    (h : readFlagged cs = some (o, rest)) : rest <:+ cs := by
  obtain ⟨⟨change, cs'⟩, hflags, hopening⟩ := Option.bind_eq_some_iff.mp h
  obtain ⟨c, hc, hopening⟩ := Option.bind_eq_some_iff.mp hopening
  rw [rest_of_map hopening]
  exact (List.tail_suffix cs').trans (suffix_readFlags hflags)

theorem suffix_readNamed {cs rest : List Char} {o : Opening}
    (h : readNamed cs = some (o, rest)) : rest <:+ cs := by
  obtain ⟨⟨name, rest'⟩, hname, heq⟩ := Option.map_eq_some_iff.mp h
  cases heq
  exact suffix_readName hname

theorem readNamed_follows (t : List Char) :
    Follows (readNamed t) (fun tail => readNamed (t ++ ')' :: tail)) :=
  Follows.map (k := fun name => .group (some name) ⟨[], []⟩) (fun _ _ => rfl)
    (follows_of_closed fun tail => readName_closed t tail)

theorem suffix_readMarked {cs rest : List Char} {o : Opening}
    (h : readMarked cs = some (o, rest)) : rest <:+ cs := by
  rw [readMarked] at h
  split at h
  next => cases h
  split at h
  next => cases h
  split at h
  next => exact (suffix_readNamed h).trans (List.drop_suffix 2 cs)
  split at h
  next => exact (suffix_readNamed h).trans (List.drop_suffix 1 cs)
  next => exact suffix_readFlagged h

theorem take_two_closed {a b : Char} (ha : a ≠ ')') (hb : b ≠ ')') (t tail : List Char) :
    (t ++ ')' :: tail).take 2 = [a, b] ↔ t.take 2 = [a, b] := by
  rcases t with _ | ⟨c, _ | ⟨d, t⟩⟩ <;> simp [ha.symm, hb.symm]

theorem readMarked_follows (t : List Char) :
    Follows (readMarked t) (fun tail => readMarked (t ++ ')' :: tail)) := by
  -- Whether flags or names follow does not depend on what stands behind the parenthesis.
  have hlong : ∀ tail, readMarked (t ++ ')' :: tail) =
      if t.head? = some '=' ∨ t.head? = some '!' then none
      else if t.take 2 = ['<', '='] ∨ t.take 2 = ['<', '!'] then none
      else if t.take 2 = ['P', '<'] then readNamed ((t ++ ')' :: tail).drop 2)
      else if t.head? = some '<' then readNamed ((t ++ ')' :: tail).drop 1)
      else readFlagged (t ++ ')' :: tail) := by
    intro tail
    simp only [readMarked, head?_closed (by decide : '=' ≠ ')'),
      head?_closed (by decide : '!' ≠ ')'), head?_closed (by decide : '<' ≠ ')'),
      take_two_closed (by decide : '<' ≠ ')') (by decide : '=' ≠ ')'),
      take_two_closed (by decide : '<' ≠ ')') (by decide : '!' ≠ ')'),
      take_two_closed (by decide : 'P' ≠ ')') (by decide : '<' ≠ ')')]
  simp only [hlong]
  rw [readMarked]
  by_cases hlook : t.head? = some '=' ∨ t.head? = some '!'
  · simp only [if_pos hlook]
    exact .of_past fun tail => past_none tail
  by_cases hbehind : t.take 2 = ['<', '='] ∨ t.take 2 = ['<', '!']
  · simp only [if_neg hlook, if_pos hbehind]
    exact .of_past fun tail => past_none tail
  by_cases hnamed : t.take 2 = ['P', '<']
  · obtain ⟨rest, rfl⟩ := take_two_eq.mp hnamed
    simp only [if_neg hlook, if_neg hbehind, if_pos hnamed]
    exact readNamed_follows rest
  by_cases hnamed' : t.head? = some '<'
  · obtain ⟨rest, rfl⟩ := List.head?_eq_some_iff.mp hnamed'
    simp only [if_neg hlook, if_neg hbehind, if_neg hnamed, if_pos hnamed']
    exact readNamed_follows rest
  · simp only [if_neg hlook, if_neg hbehind, if_neg hnamed, if_neg hnamed']
    exact readFlagged_follows t

theorem suffix_readOpening {cs rest : List Char} {o : Opening}
    (h : readOpening f cs = some (o, rest)) : rest <:+ cs := by
  by_cases hmark : (f.skip cs).head? = some '?'
  · obtain ⟨cs', hcs⟩ := List.head?_eq_some_iff.mp hmark
    rw [readOpening_marked hcs] at h
    exact (suffix_readMarked h).trans (suffix_of_skip hcs)
  · rw [readOpening_plain hmark] at h
    cases h
    exact suffix_skip f cs

theorem readOpening_follows (t : List Char) :
    Follows (readOpening f t) (fun tail => readOpening f (t ++ ')' :: tail)) := by
  refine Follows.of_settled f (readOpening f) (fun _ => readOpening f)
    (fun cs => by rw [readOpening, readOpening, skip_skip])
    (fun _ cs => by rw [readOpening, readOpening, skip_skip]) (fun s hs _ => ?_)
    (fun _ _ _ _ => suffix_readOpening) (end_of_suffix fun _ _ _ => suffix_readOpening)
  by_cases hmark : s.head? = some '?'
  · obtain ⟨rest, rfl⟩ := List.head?_eq_some_iff.mp hmark
    rw [readOpening_marked hs.alone]
    simp only [readOpening_marked (hs.closed_cons _)]
    exact readMarked_follows rest
  · rw [readOpening_plain (by rw [hs.alone]; exact hmark), hs.alone]
    refine .carried fun tail => ?_
    rw [readOpening_plain, hs.closed]
    rw [hs.closed]
    exact mt (head?_closed (by decide) s tail).mp hmark

/-! ## Counts -/

theorem takeDecimal_digit (fuel : Nat) {c : Char} (hc : c.isDigit = true) (cs : List Char) :
    takeDecimal f (fuel + 1) (c :: cs) =
      (c :: (takeDecimal f fuel (f.skip cs)).1, (takeDecimal f fuel (f.skip cs)).2) := if_pos hc

theorem takeDecimal_stop (fuel : Nat) {c : Char} (hc : ¬ c.isDigit = true) (cs : List Char) :
    takeDecimal f fuel (c :: cs) = ([], c :: cs) := by
  cases fuel with
  | zero => rfl
  | succ fuel => exact if_neg hc

theorem takeDecimal_nil (fuel : Nat) : takeDecimal f fuel [] = ([], []) := by
  cases fuel <;> rfl

theorem suffix_takeDecimal (fuel : Nat) (cs : List Char) : (takeDecimal f fuel cs).2 <:+ cs := by
  induction fuel generalizing cs with
  | zero => exact List.suffix_rfl
  | succ fuel ih =>
    cases cs with
    | nil => exact List.suffix_rfl
    | cons c cs =>
      by_cases hc : c.isDigit = true
      · rw [takeDecimal_digit _ hc]
        exact (ih _).trans ((suffix_skip f cs).trans (List.suffix_cons c cs))
      · exact congrArg Prod.snd (takeDecimal_stop fuel.succ hc cs) ▸ List.suffix_rfl

theorem takeDecimal_follows {n : Nat} {m : List Char → Nat} {t : List Char} (hn : t.length < n)
    (hm : ∀ tail : List Char, t.length + tail.length + 1 < m tail) :
    Follows (some (takeDecimal f n t))
      (fun tail => some (takeDecimal f (m tail) (t ++ ')' :: tail))) := by
  induction n generalizing m t with
  | zero => exact absurd hn (Nat.not_lt_zero _)
  | succ n ih =>
    obtain ⟨m, rfl⟩ := exists_fuel hm
    cases t with
    | nil =>
      rw [takeDecimal_nil]
      exact .carried fun tail => congrArg some (takeDecimal_stop _ (by decide) tail)
    | cons c t =>
      by_cases hc : c.isDigit = true
      · simp only [List.cons_append, takeDecimal_digit _ hc]
        have hlength := length_skip_le f t
        rw [List.length_cons] at hn
        refine Follows.map (g := fun p => (c :: p.1, p.2)) (fun _ _ => rfl)
          (Follows.skip f (fun cs => some (takeDecimal f n cs))
            (fun tail cs => some (takeDecimal f (m tail) cs))
            (fun _ => ih (by omega) fun tail => ?_) (fun tail cs x rest h => ?_)
            fun x rest h => ?_)
        · have htail := hm tail
          rw [List.length_cons] at htail
          dsimp only at htail
          omega
        · have hsuffix := suffix_takeDecimal (f := f) (m tail) cs
          rw [Option.some.inj h] at hsuffix
          exact hsuffix
        · rw [takeDecimal_nil] at h
          cases h
          exact ⟨rfl, by rw [takeDecimal_nil]⟩
      · rw [takeDecimal_stop _ hc]
        exact .carried fun tail => congrArg some (takeDecimal_stop _ hc _)

/-- The number that is written; none may be. -/
def decimalOf? (ds : List Char) : Option (Option Nat) :=
  if ds = [] then some none
  else if Digits.number ds < 0x100000000 then some (some (Digits.number ds))
  else none

theorem readDecimal_eq (cs : List Char) : readDecimal f cs =
    (some (takeDecimal f ((cs.dropWhile Text.isBlank).length + 1) (cs.dropWhile Text.isBlank))).bind
      fun p => (decimalOf? p.1).map (·, p.2.dropWhile Text.isBlank) := by
  rw [readDecimal, Option.bind_some]
  dsimp only
  rw [decimalOf?]
  split
  · rfl
  split
  · rfl
  · rfl

/-- A parenthesis is no blank. -/
theorem dropBlanks_closed (t tail : List Char) :
    (t ++ ')' :: tail).dropWhile Text.isBlank = t.dropWhile Text.isBlank ++ ')' :: tail := by
  induction t with
  | nil =>
    rw [List.nil_append, List.dropWhile_cons_of_neg not_isBlank_parenthesis]
    rfl
  | cons c t ih =>
    rw [List.cons_append]
    by_cases hc : Text.isBlank c = true
    · rw [List.dropWhile_cons_of_pos hc, List.dropWhile_cons_of_pos hc, ih]
    · rw [List.dropWhile_cons_of_neg hc, List.dropWhile_cons_of_neg hc, List.cons_append]

theorem suffix_readDecimal {cs rest : List Char} {number : Option Nat}
    (h : readDecimal f cs = some (number, rest)) : rest <:+ cs := by
  rw [readDecimal_eq, Option.bind_some] at h
  rw [rest_of_map h]
  exact (List.dropWhile_suffix _).trans
    ((suffix_takeDecimal _ _).trans (List.dropWhile_suffix _))

theorem readDecimal_follows (t : List Char) :
    Follows (readDecimal f t) (fun tail => readDecimal f (t ++ ')' :: tail)) := by
  simp only [readDecimal_eq, dropBlanks_closed]
  refine Follows.bind (takeDecimal_follows (Nat.lt_succ_self _) fun tail => ?_)
    (fun ds rest _ => ?_) fun ds cs number rest h => ?_
  · rw [List.length_append, List.length_cons]
    omega
  · simp only [dropBlanks_closed]
    exact follows_map (decimalOf? ds) (fun o => o) _
  · rw [rest_of_map h]
    exact List.dropWhile_suffix _

/-- Reads what follows the comma of a count, which may be nothing. -/
def readUpper (f : Flags) (low : Nat) (cs : List Char) :
    Option ((Nat × Option Nat) × List Char) :=
  if cs = [] then none
  else if cs.head? = some '\x7d' then some ((low, none), cs)
  else (readDecimal f cs).bind fun p => p.1.map fun high => ((low, some high), p.2)

/-- Reads what follows the least number of a count. -/
def readBounds (f : Flags) (low : Nat) (cs : List Char) : Option ((Nat × Option Nat) × List Char) :=
  if cs.head? = some ',' then readUpper f low (f.skip cs.tail) else some ((low, some low), cs)

/-- Reads the end of a count. -/
def closeCount (f : Flags) (range : Nat × Option Nat) (cs : List Char) :
    Option ((Nat × Option Nat) × List Char) :=
  if cs.head? = some '\x7d' then
    if range.2.any (· < range.1) then none else some (range, dropReluctant (f.skip cs.tail))
  else none

/-- Reads what follows the least number of a count up to its end. -/
def readRest (f : Flags) (number : Option Nat) (cs : List Char) :
    Option ((Nat × Option Nat) × List Char) :=
  number.bind fun low => (readBounds f low cs).bind fun p => closeCount f p.1 p.2

theorem readBounds_comma (low : Nat) (cs : List Char) :
    readBounds f low (',' :: cs) = readUpper f low (f.skip cs) := if_pos rfl

theorem readBounds_none (low : Nat) {cs : List Char} (h : cs.head? ≠ some ',') :
    readBounds f low cs = some ((low, some low), cs) := if_neg h

theorem closeCount_brace (range : Nat × Option Nat) (cs : List Char) :
    closeCount f range ('\x7d' :: cs) =
      if range.2.any (· < range.1) then none else some (range, dropReluctant (f.skip cs)) :=
  if_pos rfl

theorem closeCount_none (range : Nat × Option Nat) {cs : List Char} (h : cs.head? ≠ some '\x7d') :
    closeCount f range cs = none := if_neg h

theorem head?_ne {c : Char} {cs : List Char} (h : ∀ rest, cs = c :: rest → False) :
    cs.head? ≠ some c := by
  rw [Ne, List.head?_eq_some_iff]
  rintro ⟨rest, hrest⟩
  exact h rest hrest

theorem readCount_end {cs : List Char} (h : f.skip cs = []) : readCount f cs = none := by
  rw [readCount]
  exact if_pos h

theorem readCount_cons {c : Char} {cs rest : List Char} (h : f.skip cs = c :: rest) :
    readCount f cs = (readDecimal f (c :: rest)).bind fun p => readRest f p.1 p.2 := by
  rw [readCount, h]
  dsimp only
  rw [if_neg (List.cons_ne_nil c rest)]
  refine congrArg ((readDecimal f (c :: rest)).bind ·) (funext fun p => ?_)
  rw [readRest]
  cases p.1 with
  | none => rfl
  | some low =>
    dsimp only [Option.bind_eq_bind, Option.pure_def, Option.bind_some]
    split
    next r hcomma =>
      rw [hcomma, readBounds_comma, readUpper]
      split
      next hr =>
        rw [if_pos hr]
        rfl
      next hr =>
        rw [hr, if_neg (List.cons_ne_nil _ _), if_pos List.head?_cons, Option.bind_some,
          closeCount_brace]
        rfl
      next hr hr' =>
        rw [if_neg hr, if_neg (head?_ne hr'), Option.bind_assoc]
        refine congrArg (Option.bind _) (funext fun q => ?_)
        cases q.1 with
        | none => rfl
        | some high =>
          dsimp only [Option.map_some, Option.bind_some]
          split
          next hclose =>
            rw [hclose, closeCount_brace]
            rfl
          next hclose => rw [closeCount_none _ (head?_ne hclose)]
    next hcomma =>
      rw [readBounds_none _ (head?_ne hcomma), Option.bind_some]
      split
      next hclose =>
        rw [hclose, closeCount_brace]
        rfl
      next hclose => rw [closeCount_none _ (head?_ne hclose)]

theorem dropReluctant_closed (t tail : List Char) :
    dropReluctant (t ++ ')' :: tail) = dropReluctant t ++ ')' :: tail := by
  cases t with
  | nil => rfl
  | cons c t =>
    by_cases hc : c = '?'
    · subst hc
      rfl
    · rw [List.cons_append, dropReluctant, dropReluctant, List.cons_append]
      all_goals
        rintro rest heq
        exact hc (List.head_eq_of_cons_eq heq)

theorem suffix_dropReluctant (cs : List Char) : dropReluctant cs <:+ cs := by
  unfold dropReluctant
  split
  · exact List.suffix_cons _ _
  · exact List.suffix_rfl

theorem closeCount_follows (range : Nat × Option Nat) (t : List Char) :
    Follows (closeCount f range t) (fun tail => closeCount f range (t ++ ')' :: tail)) := by
  by_cases hbrace : t.head? = some '\x7d'
  · obtain ⟨t, rfl⟩ := List.head?_eq_some_iff.mp hbrace
    simp only [List.cons_append, closeCount_brace]
    split
    · exact .of_past fun tail => past_none tail
    · refine Follows.skip f (fun cs => some (range, dropReluctant cs))
        (fun _ cs => some (range, dropReluctant cs)) (fun _ => .carried fun tail => ?_)
        (fun _ cs x rest h => ?_) fun x rest h => ?_
      · rw [dropReluctant_closed]
      · cases h
        exact suffix_dropReluctant cs
      · cases h
        exact ⟨rfl, rfl⟩
  · rw [closeCount_none _ hbrace]
    refine .of_past fun tail => ?_
    rw [closeCount_none _ (mt (head?_closed (by decide) t tail).mp hbrace)]
    exact past_none tail

theorem suffix_closeCount {range range' : Nat × Option Nat} {cs rest : List Char}
    (h : closeCount f range cs = some (range', rest)) : rest <:+ cs := by
  rw [closeCount] at h
  split at h
  next =>
    split at h
    next => cases h
    next =>
      cases h
      exact (suffix_dropReluctant _).trans ((suffix_skip f _).trans (List.tail_suffix cs))
  next => cases h

theorem readUpper_nil (low : Nat) : readUpper f low [] = none := if_pos rfl

theorem readUpper_brace (low : Nat) (cs : List Char) :
    readUpper f low ('\x7d' :: cs) = some ((low, none), '\x7d' :: cs) := by
  rw [readUpper, if_neg (List.cons_ne_nil _ _), if_pos List.head?_cons]

theorem readUpper_number (low : Nat) {c : Char} (hc : c ≠ '\x7d') (cs : List Char) :
    readUpper f low (c :: cs) = (readDecimal f (c :: cs)).bind fun p =>
      p.1.map fun high => ((low, some high), p.2) := by
  rw [readUpper, if_neg (List.cons_ne_nil _ _)]
  exact if_neg fun h => hc (Option.some.inj h)

theorem suffix_readUpper {low : Nat} {range : Nat × Option Nat} {cs rest : List Char}
    (h : readUpper f low cs = some (range, rest)) : rest <:+ cs := by
  rw [readUpper] at h
  split at h
  next => cases h
  split at h
  next =>
    cases h
    exact List.suffix_rfl
  next =>
    obtain ⟨⟨number, rest'⟩, hnumber, hhigh⟩ := Option.bind_eq_some_iff.mp h
    rw [rest_of_map hhigh]
    exact suffix_readDecimal hnumber

/-- There is no number at a parenthesis. -/
theorem readDecimal_parenthesis (cs : List Char) :
    readDecimal f (')' :: cs) = some (none, ')' :: cs) := by
  rw [readDecimal_eq, List.dropWhile_cons_of_neg not_isBlank_parenthesis,
    takeDecimal_stop _ (by decide), Option.bind_some]
  dsimp only
  rw [List.dropWhile_cons_of_neg not_isBlank_parenthesis]
  rfl

theorem readUpper_follows (low : Nat) (t : List Char) : Follows (readUpper f low (f.skip t))
    (fun tail => readUpper f low (f.skip (t ++ ')' :: tail))) := by
  refine Follows.skip f (readUpper f low) (fun _ => readUpper f low) (fun _ => ?_)
    (fun _ _ _ _ => suffix_readUpper) (end_of_suffix fun _ _ _ => suffix_readUpper)
  cases f.skip t with
  | nil =>
    rw [readUpper_nil]
    refine .of_past fun tail => ?_
    rw [List.nil_append, readUpper_number _ (by decide), readDecimal_parenthesis]
    exact past_none tail
  | cons c cs =>
    by_cases hc : c = '\x7d'
    · subst hc
      rw [readUpper_brace]
      exact .carried fun tail => readUpper_brace low _
    · rw [readUpper_number low hc]
      simp only [List.cons_append, readUpper_number low hc]
      exact Follows.bind (readDecimal_follows (c :: cs))
        (fun number rest _ => follows_map number (fun high => (low, some high)) rest)
        fun number cs range rest h => suffix_of_map h

theorem suffix_readBounds {low : Nat} {range : Nat × Option Nat} {cs rest : List Char}
    (h : readBounds f low cs = some (range, rest)) : rest <:+ cs := by
  rw [readBounds] at h
  split at h
  next => exact (suffix_readUpper h).trans ((suffix_skip f _).trans (List.tail_suffix cs))
  next =>
    cases h
    exact List.suffix_rfl

theorem readBounds_follows (low : Nat) (t : List Char) :
    Follows (readBounds f low t) (fun tail => readBounds f low (t ++ ')' :: tail)) := by
  by_cases hcomma : t.head? = some ','
  · obtain ⟨cs, rfl⟩ := List.head?_eq_some_iff.mp hcomma
    simp only [List.cons_append, readBounds_comma]
    exact readUpper_follows low cs
  · rw [readBounds_none low hcomma]
    exact .carried fun tail =>
      readBounds_none low (mt (head?_closed (by decide) t tail).mp hcomma)

theorem suffix_readRest {number : Option Nat} {range : Nat × Option Nat} {cs rest : List Char}
    (h : readRest f number cs = some (range, rest)) : rest <:+ cs := by
  obtain ⟨low, -, h⟩ := Option.bind_eq_some_iff.mp h
  obtain ⟨⟨range', rest'⟩, hbounds, hclose⟩ := Option.bind_eq_some_iff.mp h
  exact (suffix_closeCount hclose).trans (suffix_readBounds hbounds)

theorem suffix_readCount {range : Nat × Option Nat} {cs rest : List Char}
    (h : readCount f cs = some (range, rest)) : rest <:+ cs := by
  cases hcs : f.skip cs with
  | nil =>
    rw [readCount_end hcs] at h
    cases h
  | cons c cs' =>
    rw [readCount_cons hcs, ← hcs] at h
    obtain ⟨⟨number, rest'⟩, hnumber, hrest⟩ := Option.bind_eq_some_iff.mp h
    exact (suffix_readRest hrest).trans ((suffix_readDecimal hnumber).trans (suffix_skip f cs))

theorem readCount_follows (t : List Char) :
    Follows (readCount f t) (fun tail => readCount f (t ++ ')' :: tail)) := by
  refine Follows.of_settled f (readCount f) (fun _ => readCount f)
    (fun cs => by rw [readCount, readCount, skip_skip])
    (fun _ cs => by rw [readCount, readCount, skip_skip]) (fun s hs _ => ?_)
    (fun _ _ _ _ => suffix_readCount) (end_of_suffix fun _ _ _ => suffix_readCount)
  cases s with
  | nil =>
    rw [readCount_end hs.alone]
    refine .of_past fun tail => ?_
    rw [readCount_cons (hs.closed tail), readDecimal_parenthesis]
    exact past_none tail
  | cons c cs =>
    rw [readCount_cons hs.alone]
    simp only [readCount_cons (hs.closed_cons _)]
    refine Follows.bind (readDecimal_follows (c :: cs)) (fun number rest _ => ?_)
      fun number cs range rest h => suffix_readRest h
    cases number with
    | none => exact .of_past fun tail => past_none tail
    | some low =>
      exact Follows.bind (readBounds_follows low rest) (fun range rest' _ => closeCount_follows _ _)
        fun range cs range' rest' h => suffix_closeCount h

end AuditTrail.Regex
