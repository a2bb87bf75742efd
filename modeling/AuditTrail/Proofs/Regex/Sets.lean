import AuditTrail.Proofs.Regex.Escapes
import AuditTrail.Proofs.Text.Separator

/-
  Sets in brackets by themselves and in front of a closing parenthesis. A member may be read that
  is not closed by anything: what is left then begins with the parenthesis, or with a hyphen that
  has nothing but blanks and comments behind it (`Unclosed`), and no set can end there. So for whole
  sets there is again no third case beside those of `Follows` (`readSet_follows`).
-/
namespace AuditTrail.Regex

variable {f : Flags}

/-! ## Members -/

theorem readMember_nil : readMember f [] = none := rfl

theorem readMember_plain {c : Char} (hc : c ≠ '\\') (cs : List Char) :
    readMember f (c :: cs) = some (.literal c false, cs) := by
  rw [readMember]
  exact hc

theorem suffix_readMember {c : Char} {cs rest : List Char} {a : Atom}
    (h : readMember f (c :: cs) = some (a, rest)) : rest <:+ cs := by
  by_cases hc : c = '\\'
  · subst hc
    cases cs with
    | nil => cases h
    | cons d cs => exact (suffix_readEscape h).trans (List.suffix_cons d cs)
  · rw [readMember_plain hc] at h
    cases h
    exact List.suffix_rfl

theorem readMember_follows (t : List Char) :
    EscapeFollows f (readMember f t) (fun tail => readMember f (t ++ ')' :: tail)) := by
  cases t with
  | nil =>
    exact .follows (.of_past fun tail a rest h => (suffix_readMember h).length_le)
  | cons c t =>
    by_cases hc : c = '\\'
    · subst hc
      exact readEscape_follows t
    · rw [readMember_plain hc]
      exact .follows (.carried fun tail => readMember_plain hc _)

/-! ## Ranges -/

/-- The set of a single member. -/
def memberSet? (f : Flags) (a : Atom) : Option CharSet :=
  a.casesOn (fun c _ => if literalAllowed f c then some (.single c) else none) some fun _ => none

/-- The set of a range between two members. -/
def spanSet? (f : Flags) (a b : Atom) : Option CharSet :=
  a.casesOn (fun c _ => b.casesOn (fun d _ =>
      if c.toNat ≤ d.toNat ∧ literalAllowed f c ∧ literalAllowed f d then
        some (.span c.toNat d.toNat)
      else none)
    (fun _ => none) fun _ => none) (fun _ => none) fun _ => none

/-- What is read after a first member with the blanks behind it. -/
def rangeFrom (f : Flags) (first : Atom) (cs : List Char) : Option (CharSet × List Char) :=
  if cs = [] then none
  else if cs.head? ≠ some '-' ∨ f.peek cs = some ']' ∨ f.peek cs = some '-' then
    (memberSet? f first).map (·, cs)
  else (readMember f (f.skip (cs.drop 1))).bind fun p => (spanSet? f first p.1).map (·, p.2)

theorem readRange_eq (cs : List Char) :
    readRange f cs = (readMember f cs).bind fun p => rangeFrom f p.1 (f.skip p.2) := by
  rw [readRange]
  refine congrArg ((readMember f cs).bind ·) (funext fun p => ?_)
  dsimp only
  rw [rangeFrom]
  by_cases hnil : f.skip p.2 = []
  · rw [if_pos hnil, if_pos hnil]
    rfl
  rw [if_neg hnil, if_neg hnil]
  dsimp only [Option.bind_eq_bind, Option.pure_def, Option.bind_some]
  split
  next =>
    cases p.1 with
    | literal c byte =>
      dsimp only [memberSet?]
      split <;> rfl
    | set s => rfl
    | look l => rfl
  next =>
    refine congrArg (Option.bind _) (funext fun q => ?_)
    cases p.1 with
    | literal c byte =>
      cases q.1 with
      | literal d byte' =>
        dsimp only [spanSet?]
        split <;> rfl
      | set s => rfl
      | look l => rfl
    | set s => rfl
    | look l => rfl

theorem rangeFrom_nil (first : Atom) : rangeFrom f first [] = none := if_pos rfl

theorem rangeFrom_member (first : Atom) {c : Char} (hc : c ≠ '-') (cs : List Char) :
    rangeFrom f first (c :: cs) = (memberSet? f first).map (·, c :: cs) := by
  rw [rangeFrom, if_neg (List.cons_ne_nil c cs), if_pos (.inl fun h => hc (Option.some.inj h))]

/-- Whether a hyphen in front of this is not one between two members. -/
def isAfterLast (next : Option Char) : Bool := next = some ']' ∨ next = some '-'

theorem rangeFrom_hyphen (first : Atom) (cs : List Char) :
    rangeFrom f first ('-' :: cs) =
      if isAfterLast (f.skip cs).head? then
        (memberSet? f first).map (·, '-' :: cs)
      else (readMember f (f.skip cs)).bind fun p => (spanSet? f first p.1).map (·, p.2) := by
  rw [rangeFrom, if_neg (List.cons_ne_nil _ _)]
  refine if_congr ?_ rfl rfl
  rw [or_iff_right fun h => h rfl, isAfterLast, decide_eq_true_iff]
  exact Iff.rfl

/-- Assertions are no members. -/
theorem rangeFrom_look (l : Look) (cs : List Char) : rangeFrom f (.look l) cs = none := by
  rw [rangeFrom]
  split
  · rfl
  split
  · rfl
  · exact Option.bind_eq_none_iff.mpr fun p _ => rfl

/-- What the second member leaves of a range. -/
theorem suffix_readSecond {first : Atom} {cs rest : List Char} {s : CharSet}
    (h : ((readMember f cs).bind fun p => (spanSet? f first p.1).map (·, p.2)) = some (s, rest)) :
    rest <:+ cs := by
  obtain ⟨⟨a, rest'⟩, hmember, hspan⟩ := Option.bind_eq_some_iff.mp h
  refine (suffix_of_map hspan).trans ?_
  cases cs with
  | nil => cases hmember
  | cons c cs => exact (suffix_readMember hmember).trans (List.suffix_cons c cs)

theorem suffix_rangeFrom {first : Atom} {cs rest : List Char} {s : CharSet}
    (h : rangeFrom f first cs = some (s, rest)) : rest <:+ cs := by
  rw [rangeFrom] at h
  split at h
  next => cases h
  next =>
    split at h
    next => exact suffix_of_map h
    next => exact (suffix_readSecond h).trans ((suffix_skip f _).trans (List.drop_suffix 1 cs))

theorem suffix_readRange {c : Char} {cs rest : List Char} {s : CharSet}
    (h : readRange f (c :: cs) = some (s, rest)) : rest <:+ cs := by
  rw [readRange_eq] at h
  obtain ⟨⟨a, rest'⟩, hmember, hrange⟩ := Option.bind_eq_some_iff.mp h
  exact (suffix_rangeFrom hrange).trans ((suffix_skip f rest').trans (suffix_readMember hmember))

/-- The rest of a set that is not closed before the parenthesis in front of `tail`. -/
def Unclosed (f : Flags) (tail rest : List Char) : Prop :=
  rest.length ≤ tail.length + 1 ∨ ∃ cs, rest = '-' :: cs ∧ (f.skip cs).length ≤ tail.length

/-- Whether a member is one by itself shows only behind it, so one at the end of a text is refused,
while in front of a parenthesis it may be read. -/
inductive RangeFollows (f : Flags) :
    Option (CharSet × List Char) → (List Char → Option (CharSet × List Char)) → Prop
  | follows {short : Option (CharSet × List Char)}
      {long : List Char → Option (CharSet × List Char)} :
      Follows short long → RangeFollows f short long
  | unclosed {long : List Char → Option (CharSet × List Char)} :
      (∀ tail s rest, long tail = some (s, rest) → Unclosed f tail rest) →
      RangeFollows f none long

/-- A second member is not read at the end of a text, and is none where it is an assertion. -/
theorem readSecond_follows (first : Atom) (t : List Char) :
    Follows ((readMember f t).bind fun p => (spanSet? f first p.1).map (·, p.2))
      (fun tail => (readMember f (t ++ ')' :: tail)).bind fun p =>
        (spanSet? f first p.1).map (·, p.2)) := by
  have hmember := readMember_follows (f := f) t
  generalize readMember f t = short at hmember
  cases hmember with
  | follows hfollows =>
    exact hfollows.bind (fun a rest _ => follows_map (spanSet? f first a) (fun s => s) rest)
      fun a cs s rest h => suffix_of_map h
  | braced hskip hlong =>
    refine .of_past fun tail s rest h => ?_
    obtain ⟨⟨a, rest'⟩, hsecond, hspan⟩ := Option.bind_eq_some_iff.mp h
    rcases hlong tail with hpast | (hplain : readMember f (t ++ ')' :: tail) = _)
    · exact Nat.le_trans (suffix_of_map hspan).length_le (hpast a rest' hsecond)
    · rw [hsecond] at hplain
      cases hplain
      cases first <;> cases hspan

theorem rangeFrom_follows (first : Atom) (t : List Char) :
    RangeFollows f (rangeFrom f first (f.skip t))
      (fun tail => rangeFrom f first (f.skip (t ++ ')' :: tail))) := by
  have hmember : ∀ cs : List Char, Follows ((memberSet? f first).map (·, cs))
      (fun tail => (memberSet? f first).map (·, cs ++ ')' :: tail)) :=
    follows_map (memberSet? f first) fun s => s
  rcases skip_closed f t with hbefore | ⟨hnil, hpast⟩
  · simp only [hbefore]
    cases f.skip t with
    | nil =>
      rw [rangeFrom_nil]
      exact .unclosed fun tail s rest h => .inl (suffix_rangeFrom h).length_le
    | cons c cs =>
      by_cases hc : c = '-'
      · subst hc
        simp only [List.cons_append, rangeFrom_hyphen]
        rcases skip_closed f cs with hbefore' | ⟨hnil', hpast'⟩
        · simp only [hbefore']
          cases f.skip cs with
          | nil =>
            have hstop : isAfterLast (some ')') = false := rfl
            simp only [List.nil_append, List.head?_cons, hstop, Bool.false_eq_true, if_false]
            exact .follows (readSecond_follows first [])
          | cons d ds =>
            simp only [List.cons_append, List.head?_cons]
            by_cases hd : isAfterLast (some d) = true
            · simp only [hd, if_true]
              exact .follows (hmember ('-' :: cs))
            · simp only [hd]
              exact .follows (readSecond_follows first (d :: ds))
        · have hshort : ¬ isAfterLast ([] : List Char).head? = true := Bool.false_ne_true
          rw [hnil', if_neg hshort, readMember_nil, Option.bind_none]
          refine .unclosed fun tail s rest h => ?_
          split at h
          next => exact .inr ⟨_, rest_of_map h, hpast' tail⟩
          next =>
            have hle := (suffix_readSecond h).length_le
            exact .inl (Nat.le_succ_of_le (Nat.le_trans hle (hpast' tail)))
      · rw [rangeFrom_member first hc]
        simp only [List.cons_append, rangeFrom_member first hc]
        exact .follows (hmember (c :: cs))
  · rw [hnil, rangeFrom_nil]
    exact .follows (.of_past fun tail s rest h =>
      Nat.le_trans (suffix_rangeFrom h).length_le (hpast tail))

theorem readRange_follows (t : List Char) :
    RangeFollows f (readRange f t) (fun tail => readRange f (t ++ ')' :: tail)) := by
  have hmember := readMember_follows (f := f) t
  simp only [readRange_eq]
  generalize readMember f t = short at hmember
  cases hmember with
  | follows hfollows =>
    cases hfollows with
    | @carried a rest _ hlong =>
      simp only [hlong, Option.bind_some]
      exact rangeFrom_follows a rest
    | passed hpast hend =>
      have hshort : (short.bind fun p => rangeFrom f p.1 (f.skip p.2)) = none := by
        refine Option.bind_eq_none_iff.mpr fun ⟨a, rest⟩ h => ?_
        rw [(hend a rest h).1, skip_nil, rangeFrom_nil]
      rw [hshort]
      refine .follows (.of_past fun tail s rest h => ?_)
      obtain ⟨⟨a, rest'⟩, hfirst, hrange⟩ := Option.bind_eq_some_iff.mp h
      exact Nat.le_trans (Nat.le_trans (suffix_rangeFrom hrange).length_le (length_skip_le f rest'))
        (hpast tail a rest' hfirst)
  | braced hskip hlong =>
    refine .follows (.of_past fun tail s rest h => ?_)
    obtain ⟨⟨a, rest'⟩, hfirst, hrange⟩ := Option.bind_eq_some_iff.mp h
    rcases hlong tail with hpast | (hplain : readMember f (t ++ ')' :: tail) = _)
    · exact Nat.le_trans (Nat.le_trans (suffix_rangeFrom hrange).length_le (length_skip_le f rest'))
        (hpast a rest' hfirst)
    · rw [hfirst] at hplain
      cases hplain
      rw [plainBoundary, rangeFrom_look] at hrange
      cases hrange

/-! ## Named classes -/

/-- What a name in a set stands for. Complements would leave ASCII, so they need all characters. -/
def classSet? (f : Flags) (negated : Bool) (name : List Char) : Option (Option CharSet) :=
  (CharSet.asciiClass (String.ofList name)).map fun s =>
    if negated then (if f.unicode then some (.compl (f.fold s)) else none) else some (f.fold s)

/-- Reads the name of a class with the colon and the bracket that close it. -/
def readClass (f : Flags) (negated : Bool) (cs : List Char) : Option (Option CharSet × List Char) :=
  if (cs.dropWhile (· ≠ ':')).take 2 = [':', ']'] then
    (classSet? f negated (cs.takeWhile (· ≠ ':'))).map (·, (cs.dropWhile (· ≠ ':')).drop 2)
  else none

theorem parenthesis_not_mem_class {name : List Char} {negated : Bool} {s : Option CharSet}
    (h : classSet? f negated name = some s) : ')' ∉ name := by
  obtain ⟨set, hset, -⟩ := Option.map_eq_some_iff.mp h
  rw [← String.toList_ofList (l := name)]
  unfold CharSet.asciiClass at hset
  split at hset
  all_goals first
    | (rename_i heq; rw [heq]; decide)
    | cases hset

theorem readClass_close (negated : Bool) {cs rest : List Char}
    (h : cs.dropWhile (· ≠ ':') = ':' :: ']' :: rest) : readClass f negated cs =
      (classSet? f negated (cs.takeWhile (· ≠ ':'))).map (·, rest) := by
  rw [readClass, h]
  exact if_pos rfl

theorem readClass_none (negated : Bool) {cs : List Char}
    (h : ∀ rest, cs.dropWhile (· ≠ ':') ≠ ':' :: ']' :: rest) : readClass f negated cs = none := by
  refine if_neg fun htake => h ((cs.dropWhile (· ≠ ':')).drop 2) ?_
  rw [← List.take_append_drop 2 (cs.dropWhile (· ≠ ':')), htake]
  rfl

theorem readClass_closed (negated : Bool) (t tail : List Char) :
    readClass f negated (t ++ ')' :: tail) =
      (readClass f negated t).map fun p => (p.1, p.2 ++ ')' :: tail) := by
  by_cases hcolon : ':' ∈ t
  · obtain ⟨name, rest, rfl, hname⟩ := List.eq_append_cons_of_mem hcolon
    obtain ⟨htake, hdrop⟩ := Text.cut_at hname rest
    obtain ⟨htake', hdrop'⟩ := Text.cut_at hname (rest ++ ')' :: tail)
    rw [List.append_assoc, List.cons_append]
    by_cases hbracket : rest.head? = some ']'
    · obtain ⟨rest, rfl⟩ := List.head?_eq_some_iff.mp hbracket
      rw [readClass_close _ hdrop, readClass_close _ hdrop', htake, htake', Option.map_map]
      rfl
    · rw [readClass_none, readClass_none, Option.map_none]
      · intro rest' heq
        rw [hdrop] at heq
        cases heq
        exact hbracket rfl
      · intro rest' heq
        rw [hdrop'] at heq
        cases rest with
        | nil => cases heq
        | cons c rest =>
          cases heq
          exact hbracket rfl
  · have hshort : readClass f negated t = none := by
      refine readClass_none _ fun rest heq => ?_
      rw [(Text.cut_none hcolon).2] at heq
      cases heq
    rw [hshort, Option.map_none, readClass]
    split
    next =>
      -- The name would hold the parenthesis.
      refine Option.map_eq_none_iff.mpr (Option.eq_none_iff_forall_ne_some.mpr fun s hs => ?_)
      have hall : ∀ c ∈ t, decide (c ≠ ':') = true :=
        fun c hc => decide_eq_true fun heq => hcolon (heq ▸ hc)
      refine parenthesis_not_mem_class hs ?_
      rw [List.takeWhile_append_of_pos hall, List.takeWhile_cons_of_pos (by decide)]
      exact List.mem_append_right _ List.mem_cons_self
    next => rfl

theorem readAsciiClass_bracket {cs : List Char} (h : cs.head? ≠ some ':') :
    readAsciiClass f ('[' :: cs) = none := by
  rw [readAsciiClass]
  rintro rest heq
  cases heq
  exact h rfl

theorem readAsciiClass_complement (cs : List Char) :
    readAsciiClass f ('[' :: ':' :: '^' :: cs) = readClass f true cs := by
  rw [readAsciiClass]
  dsimp only
  split
  next heq =>
    rw [readClass_close _ heq, classSet?]
    cases CharSet.asciiClass (String.ofList (cs.takeWhile (· ≠ ':'))) with
    | none => rfl
    | some s => cases f.unicode <;> rfl
  next hne => rw [readClass_none _ hne]

theorem readAsciiClass_colon {cs : List Char} (h : cs.head? ≠ some '^') :
    readAsciiClass f ('[' :: ':' :: cs) = readClass f false cs := by
  rw [readAsciiClass]
  · dsimp only
    split
    next heq =>
      rw [readClass_close _ heq, classSet?]
      cases CharSet.asciiClass (String.ofList (cs.takeWhile (· ≠ ':'))) <;> rfl
    next hne => rw [readClass_none _ hne]
  · rintro rest rfl
    exact h rfl

theorem readAsciiClass_closed (t tail : List Char) :
    readAsciiClass f ('[' :: (t ++ ')' :: tail)) =
      (readAsciiClass f ('[' :: t)).map fun p => (p.1, p.2 ++ ')' :: tail) := by
  by_cases hcolon : t.head? = some ':'
  · obtain ⟨t, rfl⟩ := List.head?_eq_some_iff.mp hcolon
    by_cases hsign : t.head? = some '^'
    · obtain ⟨t, rfl⟩ := List.head?_eq_some_iff.mp hsign
      rw [List.cons_append, List.cons_append, readAsciiClass_complement, readAsciiClass_complement,
        readClass_closed]
    · have hlong : (t ++ ')' :: tail).head? ≠ some '^' :=
        mt (head?_closed (by decide) t tail).mp hsign
      rw [List.cons_append, readAsciiClass_colon hsign, readAsciiClass_colon hlong,
        readClass_closed]
  · have hlong : (t ++ ')' :: tail).head? ≠ some ':' :=
      mt (head?_closed (by decide) t tail).mp hcolon
    rw [readAsciiClass_bracket hcolon, readAsciiClass_bracket hlong, Option.map_none]

theorem suffix_readClass {negated : Bool} {cs rest : List Char} {s : Option CharSet}
    (h : readClass f negated cs = some (s, rest)) : rest <:+ cs := by
  rw [readClass] at h
  split at h
  next =>
    rw [rest_of_map h]
    exact (List.drop_suffix 2 _).trans (List.dropWhile_suffix _)
  next => cases h

theorem suffix_readAsciiClass {cs rest : List Char} {s : Option CharSet}
    (h : readAsciiClass f ('[' :: cs) = some (s, rest)) : rest <:+ cs := by
  by_cases hcolon : cs.head? = some ':'
  · obtain ⟨cs, rfl⟩ := List.head?_eq_some_iff.mp hcolon
    by_cases hsign : cs.head? = some '^'
    · obtain ⟨cs, rfl⟩ := List.head?_eq_some_iff.mp hsign
      rw [readAsciiClass_complement] at h
      exact (suffix_readClass h).trans ((List.suffix_cons _ cs).trans (List.suffix_cons _ _))
    · rw [readAsciiClass_colon hsign] at h
      exact (suffix_readClass h).trans (List.suffix_cons _ cs)
  · rw [readAsciiClass_bracket hcolon] at h
    cases h

/-! ## Openings -/

/-- Passes over the sign of a complement. -/
def takeSign (f : Flags) (cs : List Char) : Bool × List Char :=
  if cs.head? = some '^' then (true, f.skip cs.tail) else (false, cs)

/-- Passes over a closing bracket that is the first member. -/
def takeBracket (f : Flags) (items : List DeepSet) (cs : List Char) : List DeepSet × List Char :=
  if items.isEmpty ∧ cs.head? = some ']' then ([⟨.single ']', 0⟩], f.skip cs.tail) else (items, cs)

/-- What is read of a set before its members: the sign, hyphens, and a closing bracket. -/
def takeOpening (f : Flags) (cs : List Char) : (Bool × List DeepSet) × List Char :=
  let sign := takeSign f (f.skip cs)
  let hyphens := takeHyphens f (sign.2.length + 1) [] sign.2
  let bracket := takeBracket f hyphens.1 hyphens.2
  ((sign.1, bracket.1), bracket.2)

theorem takeHyphens_stop (fuel : Nat) (items : List DeepSet) {cs : List Char}
    (h : cs.head? ≠ some '-') : takeHyphens f fuel items cs = (items, cs) := by
  unfold takeHyphens
  split
  next => exact absurd rfl h
  next => rfl

theorem takeHyphens_hyphen (fuel : Nat) (items : List DeepSet) (cs : List Char) :
    takeHyphens f (fuel + 1) items ('-' :: cs) =
      takeHyphens f fuel (⟨.single '-', 0⟩ :: items) (f.skip cs) := rfl

theorem suffix_takeHyphens (fuel : Nat) (items : List DeepSet) (cs : List Char) :
    (takeHyphens f fuel items cs).2 <:+ cs := by
  induction fuel generalizing items cs with
  | zero => exact List.suffix_rfl
  | succ fuel ih =>
    by_cases hhyphen : cs.head? = some '-'
    · obtain ⟨cs, rfl⟩ := List.head?_eq_some_iff.mp hhyphen
      rw [takeHyphens_hyphen]
      exact (ih _ _).trans ((suffix_skip f cs).trans (List.suffix_cons _ cs))
    · exact congrArg Prod.snd (takeHyphens_stop fuel.succ items hhyphen) ▸ List.suffix_rfl

theorem suffix_takeSign (cs : List Char) : (takeSign f cs).2 <:+ cs := by
  rw [takeSign]
  split
  · exact (suffix_skip f cs.tail).trans (List.tail_suffix cs)
  · exact List.suffix_rfl

theorem suffix_takeBracket (items : List DeepSet) (cs : List Char) :
    (takeBracket f items cs).2 <:+ cs := by
  rw [takeBracket]
  split
  · exact (suffix_skip f cs.tail).trans (List.tail_suffix cs)
  · exact List.suffix_rfl

theorem suffix_takeOpening (cs : List Char) : (takeOpening f cs).2 <:+ cs := by
  rw [takeOpening]
  refine (suffix_takeBracket _ _).trans ((suffix_takeHyphens _ _ _).trans ?_)
  exact (suffix_takeSign _).trans (suffix_skip f cs)

theorem takeHyphens_follows {n : Nat} {m : List Char → Nat} (items : List DeepSet) {t : List Char}
    (hn : t.length < n) (hm : ∀ tail : List Char, t.length + tail.length + 1 < m tail) :
    Follows (some (takeHyphens f n items t))
      (fun tail => some (takeHyphens f (m tail) items (t ++ ')' :: tail))) := by
  induction n generalizing m items t with
  | zero => exact absurd hn (Nat.not_lt_zero _)
  | succ n ih =>
    obtain ⟨m, rfl⟩ := exists_fuel hm
    by_cases hhyphen : t.head? = some '-'
    · obtain ⟨t, rfl⟩ := List.head?_eq_some_iff.mp hhyphen
      have hlength := length_skip_le f t
      rw [List.length_cons] at hn
      simp only [List.cons_append, takeHyphens_hyphen]
      refine Follows.skip f (fun cs => some (takeHyphens f n _ cs))
        (fun tail cs => some (takeHyphens f (m tail) _ cs))
        (fun _ => ih _ (by omega) fun tail => ?_) (fun tail cs x rest h => ?_) fun x rest h => ?_
      · have htail := hm tail
        rw [List.length_cons] at htail
        dsimp only at htail
        omega
      · have hsuffix := suffix_takeHyphens (f := f) (m tail) (⟨.single '-', 0⟩ :: items) cs
        rw [Option.some.inj h] at hsuffix
        exact hsuffix
      · rw [takeHyphens_stop _ _ (by simp)] at h
        cases h
        exact ⟨rfl, by rw [takeHyphens_stop _ _ (by simp)]⟩
    · rw [takeHyphens_stop _ _ hhyphen]
      refine .carried fun tail => ?_
      rw [takeHyphens_stop _ _ (mt (head?_closed (by decide) t tail).mp hhyphen)]

theorem takeSign_follows (t : List Char) : Follows (some (takeSign f (f.skip t)))
    (fun tail => some (takeSign f (f.skip (t ++ ')' :: tail)))) := by
  refine Follows.skip f (fun cs => some (takeSign f cs)) (fun _ cs => some (takeSign f cs))
    (fun _ => ?_) (fun _ cs x rest h => ?_)
    fun x rest h => ?_
  · by_cases hsign : (f.skip t).head? = some '^'
    · obtain ⟨cs, hcs⟩ := List.head?_eq_some_iff.mp hsign
      rw [hcs]
      exact follows_skip f true cs
    · rw [takeSign, if_neg hsign]
      refine .carried fun tail => ?_
      rw [takeSign, if_neg (mt (head?_closed (by decide) (f.skip t) tail).mp hsign)]
  · have hsuffix := suffix_takeSign (f := f) cs
    rw [Option.some.inj h] at hsuffix
    exact hsuffix
  · cases h
    exact ⟨rfl, rfl⟩

theorem takeBracket_follows (items : List DeepSet) (t : List Char) :
    Follows (some (takeBracket f items t))
      (fun tail => some (takeBracket f items (t ++ ')' :: tail))) := by
  by_cases hbracket : items.isEmpty ∧ t.head? = some ']'
  · obtain ⟨cs, rfl⟩ := List.head?_eq_some_iff.mp hbracket.2
    have hlong : ∀ tail : List Char, items.isEmpty ∧ (']' :: cs ++ ')' :: tail).head? = some ']' :=
      fun _ => ⟨hbracket.1, rfl⟩
    simp only [takeBracket, if_pos hbracket, if_pos (hlong _)]
    exact follows_skip f _ cs
  · rw [takeBracket, if_neg hbracket]
    refine .carried fun tail => ?_
    rw [takeBracket, if_neg]
    rw [head?_closed (by decide)]
    exact hbracket

theorem takeOpening_follows (t : List Char) : Follows (some (takeOpening f t))
    (fun tail => some (takeOpening f (t ++ ')' :: tail))) := by
  refine Follows.bind (k := fun p => some (((p.1.1, (takeBracket f p.1.2 p.2).1)),
    (takeBracket f p.1.2 p.2).2)) (Follows.bind (k := fun p =>
      (some (takeHyphens f (p.2.length + 1) [] p.2)).map fun q => ((p.1, q.1), q.2))
        (takeSign_follows t) (fun negated rest _ => ?_) fun negated cs x rest h => ?_)
    (fun x rest _ => ?_) fun x cs y rest h => ?_
  · refine Follows.map (fun _ _ => rfl) (takeHyphens_follows [] (Nat.lt_succ_self _) fun tail => ?_)
    dsimp only
    rw [List.length_append, List.length_cons]
    omega
  · cases h
    exact suffix_takeHyphens _ _ cs
  · exact Follows.map (g := fun q => ((x.1, q.1), q.2)) (fun _ _ => rfl)
      (takeBracket_follows x.2 rest)
  · cases h
    exact suffix_takeBracket _ cs

/-! ## Items -/

/-- The set that the brackets hold. Complements would leave ASCII, so they need all characters. -/
def closeSet? (f : Flags) (negated : Bool) (s : DeepSet) : Option DeepSet :=
  if negated then (if f.unicode then some ⟨.compl (f.fold s.set), s.depth + 1⟩ else none)
  else some ⟨f.fold s.set, s.depth + 1⟩

theorem readSet_eq (fuel : Nat) (cs : List Char) : readSet f (fuel + 1) cs =
    (readItems f fuel none (takeOpening f cs).1.2 (takeOpening f cs).2).bind fun p =>
      (closeSet? f (takeOpening f cs).1.1 p.1).map (·, p.2) := by
  rw [readSet, takeOpening]
  split
  next negated rest heq =>
    have hsign : takeSign f (f.skip cs) = (negated, rest) := by
      rw [← heq, takeSign]
      split
      next h =>
        obtain ⟨s, hs⟩ := List.head?_eq_some_iff.mp h
        rw [hs]
        rfl
      next h =>
        split
        next hs => exact absurd (by rw [hs]; rfl) h
        next => rfl
    rw [hsign]
    split
    next items rest' heq' =>
      rw [heq']
      split
      next items' rest'' heq'' =>
        have hbracket : takeBracket f items rest' = (items', rest'') := by
          rw [← heq'', takeBracket]
          split
          next h =>
            obtain ⟨s, rfl⟩ := List.head?_eq_some_iff.mp h.2
            rw [List.isEmpty_iff.mp h.1]
            rfl
          next h =>
            split
            next => exact absurd ⟨rfl, rfl⟩ h
            next => rfl
        rw [hbracket]
        dsimp only
        cases readItems f fuel none items' rest'' with
        | none => rfl
        | some p =>
          rw [Option.bind_some, closeSet?]
          cases negated <;> cases f.unicode <;> rfl

/-- The operation that a doubled character stands for. -/
def operator? (c : Char) : Option SetOp :=
  if c = '&' then some .inter else if c = '-' then some .diff else if c = '~' then some .symmDiff
  else none

/-- How an item of a set may begin. -/
inductive ItemStart : List Char → Prop
  | nil : ItemStart []
  | bracket (cs : List Char) : ItemStart ('[' :: cs)
  | close (cs : List Char) : ItemStart (']' :: cs)
  | operator {c : Char} {op : SetOp} (cs : List Char) : operator? c = some op →
      ItemStart (c :: c :: cs)
  | range {c : Char} {cs : List Char} : c ≠ '[' → c ≠ ']' →
      (cs.head? = some c → operator? c = none) → ItemStart (c :: cs)

theorem itemStart (cs : List Char) : ItemStart cs := by
  cases cs with
  | nil => exact .nil
  | cons c cs =>
    by_cases hopen : c = '['
    · subst hopen
      exact .bracket cs
    by_cases hclose : c = ']'
    · subst hclose
      exact .close cs
    by_cases hdouble : cs.head? = some c
    · cases hop : operator? c with
      | none => exact .range hopen hclose fun _ => hop
      | some op =>
        obtain ⟨cs, rfl⟩ := List.head?_eq_some_iff.mp hdouble
        exact .operator cs hop
    · exact .range hopen hclose fun h => absurd h hdouble

section Items

variable {fuel : Nat} {pending : Option (SetOp × DeepSet)} {items : List DeepSet} {c : Char}
  {cs rest : List Char}

theorem readItems_end (h : f.skip cs = []) : readItems f fuel pending items cs = none := by
  cases fuel with
  | zero => rfl
  | succ fuel => rw [readItems, h]

theorem readItems_close (h : f.skip cs = ']' :: rest) :
    readItems f (fuel + 1) pending items cs =
      some (applyPending f pending (unionOf items), rest) := by
  rw [readItems, h]
  rfl

theorem readItems_class {s : Option CharSet} {after : List Char} (h : f.skip cs = '[' :: rest)
    (hclass : readAsciiClass f ('[' :: rest) = some (s, after)) :
    readItems f (fuel + 1) pending items cs =
      s.bind fun s => readItems f fuel pending (⟨s, 0⟩ :: items) after := by
  rw [readItems, h]
  simp only
  rw [hclass]
  cases s <;> rfl

theorem readItems_nested (h : f.skip cs = '[' :: rest)
    (hclass : readAsciiClass f ('[' :: rest) = none) :
    readItems f (fuel + 1) pending items cs =
      (readSet f fuel rest).bind fun p => readItems f fuel pending (p.1 :: items) p.2 := by
  rw [readItems, h]
  simp only [hclass]
  cases readSet f fuel rest <;> rfl

theorem readItems_operator {op : SetOp} (h : f.skip cs = c :: c :: rest)
    (hop : operator? c = some op) : readItems f (fuel + 1) pending items cs =
      readItems f fuel (some (op, applyPending f pending (unionOf items))) [] rest := by
  rw [readItems, h]
  unfold operator? at hop
  split at hop
  next hc =>
    subst hc
    cases hop
    rfl
  next =>
    split at hop
    next hc =>
      subst hc
      cases hop
      rfl
    next =>
      split at hop
      next hc =>
        subst hc
        cases hop
        rfl
      next => cases hop

theorem readItems_range (h : f.skip cs = c :: rest) (hopen : c ≠ '[') (hclose : c ≠ ']')
    (hop : rest.head? = some c → operator? c = none) : readItems f (fuel + 1) pending items cs =
      (readRange f (c :: rest)).bind fun p => readItems f fuel pending (⟨p.1, 0⟩ :: items) p.2 := by
  rw [readItems, h]
  split
  next heq => cases heq
  next heq => exact absurd (List.head_eq_of_cons_eq heq) hopen
  next heq => exact absurd (List.head_eq_of_cons_eq heq) hclose
  -- A doubled character would be an operator.
  iterate 3
    next heq =>
      obtain ⟨rfl, rfl⟩ := List.cons_eq_cons.mp heq
      exact absurd (hop rfl) (by simp [operator?])
  next =>
    cases readRange f (c :: rest) <;> rfl

/-- Sets are read up to a closing bracket, and so are items. -/
theorem suffix_sets (fuel : Nat) :
    (∀ pending items cs s rest, readItems f fuel pending items cs = some (s, rest) →
      ']' :: rest <:+ cs) ∧
    (∀ cs s rest, readSet f fuel cs = some (s, rest) → ']' :: rest <:+ cs) := by
  induction fuel with
  | zero => exact ⟨nofun, nofun⟩
  | succ fuel ih =>
    obtain ⟨ihItems, ihSet⟩ := ih
    constructor
    · intro pending items cs s rest h
      refine List.IsSuffix.trans ?_ (suffix_skip f cs)
      have hstart := itemStart (f.skip cs)
      generalize hcs : f.skip cs = s at hstart
      cases hstart with
      | nil =>
        rw [readItems_end hcs] at h
        cases h
      | bracket cs' =>
        cases hclass : readAsciiClass f ('[' :: cs') with
        | none =>
          rw [readItems_nested hcs hclass] at h
          obtain ⟨⟨s', rest'⟩, hset, hitems⟩ := Option.bind_eq_some_iff.mp h
          have hset := (List.suffix_cons _ rest').trans (ihSet _ _ _ hset)
          exact (ihItems _ _ _ _ _ hitems).trans (hset.trans (List.suffix_cons _ cs'))
        | some p =>
          obtain ⟨s', after⟩ := p
          rw [readItems_class hcs hclass] at h
          obtain ⟨s'', -, hitems⟩ := Option.bind_eq_some_iff.mp h
          have hclass := suffix_readAsciiClass hclass
          exact (ihItems _ _ _ _ _ hitems).trans (hclass.trans (List.suffix_cons _ cs'))
      | close cs' =>
        rw [readItems_close hcs] at h
        cases h
        exact List.suffix_rfl
      | operator cs' hop =>
        rw [readItems_operator hcs hop] at h
        exact (ihItems _ _ _ _ _ h).trans
          ((List.suffix_cons _ cs').trans (List.suffix_cons _ _))
      | range hopen hclose hop =>
        rw [readItems_range hcs hopen hclose hop] at h
        obtain ⟨⟨s', rest'⟩, hrange, hitems⟩ := Option.bind_eq_some_iff.mp h
        exact (ihItems _ _ _ _ _ hitems).trans
          ((suffix_readRange hrange).trans (List.suffix_cons _ _))
    · intro cs s rest h
      rw [readSet_eq] at h
      obtain ⟨⟨s', rest'⟩, hitems, hclose⟩ := Option.bind_eq_some_iff.mp h
      rw [rest_of_map hclose]
      exact (ihItems _ _ _ _ _ hitems).trans (suffix_takeOpening cs)

theorem suffix_readItems {s : DeepSet} (h : readItems f fuel pending items cs = some (s, rest)) :
    ']' :: rest <:+ cs := (suffix_sets fuel).1 _ _ _ _ _ h

theorem suffix_readSet {s : DeepSet} (h : readSet f fuel cs = some (s, rest)) :
    ']' :: rest <:+ cs := (suffix_sets fuel).2 _ _ _ h

/-- What is left of items is shorter. -/
theorem length_readItems_lt {s : DeepSet} (h : readItems f fuel pending items cs = some (s, rest)) :
    rest.length < cs.length := (suffix_readItems h).length_le

theorem skip_hyphen (cs : List Char) : f.skip ('-' :: cs) = '-' :: cs :=
  skip_stop f (by decide) (by decide) cs

/-- No set ends at a hyphen, nor in the blanks and comments behind one. -/
theorem length_readItems_hyphen {s : DeepSet}
    (h : readItems f fuel pending items ('-' :: cs) = some (s, rest)) :
    rest.length ≤ (f.skip cs).length := by
  cases fuel with
  | zero => cases h
  | succ fuel =>
    by_cases hdouble : cs.head? = some '-'
    · obtain ⟨cs, rfl⟩ := List.head?_eq_some_iff.mp hdouble
      rw [readItems_operator (skip_hyphen _) rfl] at h
      rw [skip_hyphen]
      exact Nat.le_succ_of_le (Nat.le_of_lt (length_readItems_lt h))
    · rw [readItems_range (skip_hyphen _) (by decide) (by decide)
        fun heq => absurd heq hdouble] at h
      obtain ⟨⟨s', rest'⟩, hrange, hitems⟩ := Option.bind_eq_some_iff.mp h
      rw [readRange_eq, readMember_plain (by decide), Option.bind_some] at hrange
      exact Nat.le_trans (Nat.le_of_lt (length_readItems_lt hitems))
        (suffix_rangeFrom hrange).length_le

theorem past_of_unclosed {tail : List Char} (h : Unclosed f tail rest) :
    Past tail (readItems f fuel pending items rest) := by
  intro s rest' hitems
  rcases h with hle | ⟨cs, rfl, hle⟩
  · exact Nat.le_of_lt_succ (Nat.lt_of_lt_of_le (length_readItems_lt hitems) hle)
  · exact Nat.le_trans (length_readItems_hyphen hitems) hle

end Items

/-! ## Whole sets -/

/-- Items are read alike with fuel for twice the text. -/
def ItemsFollow (f : Flags) (n : Nat) : Prop :=
  ∀ (m : List Char → Nat) (pending : Option (SetOp × DeepSet)) (items : List DeepSet)
    (t : List Char), 2 * t.length + 1 ≤ n →
    (∀ tail : List Char, 2 * (t.length + tail.length + 1) + 1 ≤ m tail) →
    Follows (readItems f n pending items t)
      (fun tail => readItems f (m tail) pending items (t ++ ')' :: tail))

/-- Sets are read alike with fuel for twice the text. -/
def SetsFollow (f : Flags) (n : Nat) : Prop :=
  ∀ (m : List Char → Nat) (t : List Char), 2 * t.length + 2 ≤ n →
    (∀ tail : List Char, 2 * (t.length + tail.length + 1) + 2 ≤ m tail) →
    Follows (readSet f n t) (fun tail => readSet f (m tail) (t ++ ')' :: tail))

theorem ItemsFollow.succ {n : Nat} (ihItems : ItemsFollow f n) (ihSet : SetsFollow f n) :
    ItemsFollow f (n + 1) := by
  intro m pending items t hn hm
  obtain ⟨m, rfl⟩ : ∃ m' : List Char → Nat, m = fun tail => m' tail + 1 :=
    exists_fuel fun tail => hm tail
  dsimp only at hm
  refine Follows.of_settled f (readItems f (n + 1) pending items)
    (fun tail => readItems f (m tail + 1) pending items)
    (fun cs => by rw [readItems, readItems, skip_skip])
    (fun tail cs => by rw [readItems, readItems, skip_skip]) (fun s hs hlength => ?_)
    (fun tail cs x rest h => (List.suffix_cons _ rest).trans (suffix_readItems h))
    fun x rest h => ?_
  · -- After what has been read, there is fuel left for the rest.
    have hrest : ∀ pending items rest, rest.length < s.length →
        Follows (readItems f n pending items rest)
          (fun tail => readItems f (m tail) pending items (rest ++ ')' :: tail)) := by
      intro pending items rest hlt
      refine ihItems m pending items rest (by omega) fun tail => ?_
      have htail := hm tail
      omega
    have hnext : ∀ {α : Type} {short : Option (α × List Char)}
        {long : List Char → Option (α × List Char)} (item : α → DeepSet), Follows short long →
        (∀ x rest, short = some (x, rest) → rest.length < s.length) →
        Follows (short.bind fun p => readItems f n pending (item p.1 :: items) p.2)
          (fun tail => (long tail).bind fun p =>
            readItems f (m tail) pending (item p.1 :: items) p.2) := by
      intro α short long item hfollows hlt
      refine hfollows.chain (fun p => readItems f n pending (item p.1 :: items) p.2)
        (fun tail p => readItems f (m tail) pending (item p.1 :: items) p.2)
        (fun x rest h => hrest _ _ _ (hlt x rest h))
        (fun tail x cs y rest h => (List.suffix_cons _ rest).trans (suffix_readItems h))
        fun x y rest h => ?_
      rw [readItems_end (skip_nil f)] at h
      cases h
    have hstart := itemStart s
    cases hstart with
    | nil =>
      rw [readItems_end hs.alone]
      exact .of_past fun tail x rest h => Nat.le_of_lt_succ (length_readItems_lt h)
    | bracket cs =>
      rw [List.length_cons] at hlength
      have hclosed := readAsciiClass_closed (f := f) cs
      cases hclass : readAsciiClass f ('[' :: cs) with
      | none =>
        simp only [hclass, Option.map_none] at hclosed
        rw [readItems_nested hs.alone hclass]
        simp only [readItems_nested (hs.closed_cons _) (hclosed _)]
        refine hnext (fun s => s) (ihSet m cs (by omega) fun tail => ?_) fun x rest h => ?_
        · have htail := hm tail
          omega
        · exact Nat.lt_succ_of_lt (suffix_readSet h).length_le
      | some p =>
        obtain ⟨s, after⟩ := p
        simp only [hclass, Option.map_some] at hclosed
        rw [readItems_class hs.alone hclass]
        simp only [readItems_class (hs.closed_cons _) (hclosed _)]
        cases s with
        | none => exact .of_past fun tail => past_none tail
        | some s =>
          exact hrest _ _ after (Nat.lt_succ_of_le (suffix_readAsciiClass hclass).length_le)
    | close cs =>
      rw [readItems_close hs.alone]
      exact .carried fun tail => readItems_close (hs.closed_cons tail)
    | operator cs hop =>
      rw [readItems_operator hs.alone hop]
      simp only [readItems_operator (hs.closed_cons _) hop]
      exact hrest _ _ cs (Nat.lt_succ_of_lt (Nat.lt_succ_self _))
    | @range c cs hopen hclose hop =>
      have hop' : ∀ tail, (cs ++ ')' :: tail).head? = some c → operator? c = none := by
        intro tail hhead
        by_cases hc : c = ')'
        · rw [hc]
          rfl
        · exact hop ((head?_closed hc cs tail).mp hhead)
      rw [readItems_range hs.alone hopen hclose hop]
      simp only [readItems_range (hs.closed_cons _) hopen hclose (hop' _)]
      have hrange := readRange_follows (f := f) (c :: cs)
      have hlt : ∀ x rest, readRange f (c :: cs) = some (x, rest) →
          rest.length < (c :: cs).length :=
        fun _ _ h => Nat.lt_succ_of_le (suffix_readRange h).length_le
      generalize readRange f (c :: cs) = short at hrange hlt
      cases hrange with
      | follows hfollows => exact hnext (fun s => ⟨s, 0⟩) hfollows hlt
      | unclosed hunclosed =>
        refine .of_past fun tail x rest h => ?_
        obtain ⟨⟨s', rest'⟩, hmember, hitems⟩ := Option.bind_eq_some_iff.mp h
        exact past_of_unclosed (hunclosed tail s' rest' hmember) x rest hitems
  · rw [readItems_end (skip_nil f)] at h
    cases h

theorem SetsFollow.succ {n : Nat} (ihItems : ItemsFollow f n) : SetsFollow f (n + 1) := by
  intro m t hn hm
  obtain ⟨m, rfl⟩ : ∃ m' : List Char → Nat, m = fun tail => m' tail + 1 :=
    exists_fuel fun tail => hm tail
  dsimp only at hm
  simp only [readSet_eq]
  refine (takeOpening_follows t).chain
    (fun p => (readItems f n none p.1.2 p.2).bind fun q => (closeSet? f p.1.1 q.1).map (·, q.2))
    (fun tail p => (readItems f (m tail) none p.1.2 p.2).bind fun q =>
      (closeSet? f p.1.1 q.1).map (·, q.2)) (fun x rest h => ?_)
    (fun tail x cs y rest h => ?_) fun x y rest h => ?_
  · have hle := (suffix_takeOpening (f := f) t).length_le
    rw [Option.some.inj h] at hle
    dsimp only at hle
    refine Follows.bind (ihItems m none x.2 rest (by omega) fun tail => ?_)
      (fun s rest' _ => follows_map (closeSet? f x.1 s) (fun s => s) rest')
      fun s cs y rest' h => suffix_of_map h
    have htail := hm tail
    omega
  · obtain ⟨⟨s, rest'⟩, hitems, hclose⟩ := Option.bind_eq_some_iff.mp h
    rw [rest_of_map hclose]
    exact (List.suffix_cons _ rest').trans (suffix_readItems hitems)
  · rw [readItems_end (skip_nil f)] at h
    cases h

theorem sets_follow (n : Nat) : ItemsFollow f n ∧ SetsFollow f n := by
  induction n with
  | zero => exact ⟨fun _ _ _ _ h => absurd h (by omega), fun _ _ h => absurd h (by omega)⟩
  | succ n ih => exact ⟨ih.1.succ ih.2, SetsFollow.succ ih.1⟩

theorem readSet_follows (t : List Char) : Follows (readSet f (2 * t.length + 2) t)
    (fun tail => readSet f (2 * (t ++ ')' :: tail).length + 2) (t ++ ')' :: tail)) := by
  refine (sets_follow _).2 (fun tail => 2 * (t ++ ')' :: tail).length + 2) t (Nat.le_refl _)
    fun tail => ?_
  rw [List.length_append, List.length_cons]
  omega

end AuditTrail.Regex
