import AuditTrail.Regex.Size

/-
  Reading regular expressions. Operators are `|`, juxtaposition, `?`, `*`, `+` and counts in braces;
  groups are plain, named or carry flags; brackets hold sets with ranges, nested sets and set
  operations. There is no looking around and no reference back. Nesting is limited to 250 levels.
  The flags are `i` (ignore case), `m` (line ends), `s` (point matches line feeds), `R` (carriage
  returns end lines), `u` (all characters rather than ASCII), `U` and `x` (blanks and comments are
  skipped).
-/
namespace AuditTrail.Regex

open Text (Property)

/-- The flags in force at a place of the expression. -/
structure Flags where
  ignoreCase : Bool
  multiLine : Bool
  dotAll : Bool
  anyLineEnd : Bool
  unicode : Bool
  verbose : Bool

/-- The flags at the start. -/
def Flags.initial : Flags := ⟨false, false, false, false, true, false⟩

/-- Skips a comment with its line end. -/
def skipComment : List Char → List Char
  | [] => []
  | c :: cs => if c = '\n' then cs else skipComment cs

theorem length_skipComment_le (cs : List Char) : (skipComment cs).length ≤ cs.length := by
  induction cs with
  | nil => simp [skipComment]
  | cons c cs ih =>
    simp only [skipComment]
    split
    · simp
    · simp only [List.length_cons]; omega

/-- Skips blanks and comments. -/
def skipBlanks : List Char → List Char
  | [] => []
  | c :: cs =>
    if Text.isBlank c then skipBlanks cs
    else if c = '#' then skipBlanks (skipComment cs)
    else c :: cs
termination_by cs => cs.length
decreasing_by
  · simp
  · have := length_skipComment_le cs; simp only [List.length_cons]; omega

/-- Skips blanks and comments where the flags say that they do not count. -/
def Flags.skip (f : Flags) (cs : List Char) : List Char :=
  if f.verbose then skipBlanks cs else cs

/-- The next character after the current one, blanks and comments left out if they do not count. -/
def Flags.peek (f : Flags) (cs : List Char) : Option Char := (f.skip (cs.drop 1)).head?

/-! Single characters and escapes. -/

/-- A building block that is no operator. `byte` marks a character written as two hexadecimal
digits. -/
inductive Atom where
  | literal (c : Char) (byte : Bool)
  | set (s : CharSet)
  | look (l : Look)

/-- Characters with a meaning of their own somewhere in an expression. -/
def isMeta (c : Char) : Bool :=
  ['\\', '.', '+', '*', '?', '(', ')', '|', '[', ']', '\x7b', '\x7d', '^', '$', '#', '&', '-',
    '~'].contains c

/-- A character as an expression that matches it alone. -/
def escape (c : Char) : List Char := if isMeta c then ['\\', c] else [c]

/-- Characters that a backslash may stand before without changing them. -/
def isEscapable (c : Char) : Bool :=
  isMeta c || (c.toNat < 128 && !c.isAlphanum && c != '<' && c != '>')

/-- Takes hexadecimal digits, `n` of them. -/
def takeHex (f : Flags) : Nat → List Char → Option (List Char × List Char)
  | 0, cs => some ([], cs)
  | n + 1, cs =>
    match cs with
    | [] => none
    | c :: rest =>
      if (Digits.hexValue c).isSome then
        (takeHex f n (f.skip rest)).map fun (ds, r) => (c :: ds, r)
      else none

/-- Takes what stands up to a closing brace. -/
def takeBraced (f : Flags) (fuel : Nat) (cs : List Char) : Option (List Char × List Char) :=
  match fuel with
  | 0 => none
  | fuel + 1 =>
    match f.skip cs with
    | [] => none
    | '\x7d' :: rest => some ([], rest)
    | c :: rest => (takeBraced f fuel rest).map fun (ds, r) => (c :: ds, r)

/-- The character with a code point, if there is one. -/
def charOf? (n : Nat) : Option Char :=
  if n < 0xD800 ∨ (0xDFFF < n ∧ n < 0x110000) then some (Char.ofNat n) else none

/-- Reads a code point after `x`, `u` or `U`; without braces it has `width` digits. -/
def readHex (f : Flags) (width : Nat) (cs : List Char) : Option (Atom × List Char) :=
  match f.skip cs with
  | [] => none
  | '\x7b' :: rest => do
    let (ds, rest) ← takeBraced f (rest.length + 1) rest
    if ds = [] ∨ ds.length > 8 ∧ (ds.dropWhile (· == '0')).length > 8 then none
    else if ds.all fun c => (Digits.hexValue c).isSome then
      (charOf? (Digits.hexNumber ds)).map fun c => (.literal c false, f.skip rest)
    else none
  | cs => do
    let (ds, rest) ← takeHex f width cs
    (charOf? (Digits.hexNumber ds)).map fun c => (.literal c (width == 2), rest)

/-- Splits a list at the first occurrence of a separator. -/
def splitAt? (separator : List Char) : List Char → Option (List Char × List Char)
  | [] => none
  | c :: cs =>
    if separator.isPrefixOf (c :: cs) then some ([], (c :: cs).drop separator.length)
    else (splitAt? separator cs).map fun (a, b) => (c :: a, b)

/-- The set asked for by the text between the braces of a property: a name, or a name and a value
with one of three separators between them, which all mean the same. -/
def propertySet (text : List Char) : Option CharSet :=
  let separators : List (List Char) := [['!', '='], [':'], ['=']]
  match separators.findSome? (splitAt? · text) with
  | some (name, value) =>
    (Property.ofNameValue (String.ofList name) (String.ofList value)).map .property
  | none => (Property.ofName (String.ofList text)).map .property

/-- Folds case where the flags ask for it. -/
def Flags.fold (f : Flags) (s : CharSet) : CharSet :=
  if f.ignoreCase then (if f.unicode then .anyCase s else .anyAsciiCase s) else s

/-- Reads a property after `p` or `P`. -/
def readProperty (f : Flags) (negated : Bool) (cs : List Char) : Option (Atom × List Char) := do
  if !f.unicode then none
  let (name, rest) ← match f.skip cs with
    | [] => none
    | '\x7b' :: rest => takeBraced f (rest.length + 1) rest
    | '\\' :: _ => none
    | c :: rest => some ([c], f.skip rest)
  let s ← propertySet name
  let s := f.fold s
  some (.set (if negated then .compl s else s), rest)

/-- The set of a one-letter class. Its complement would leave ASCII, so it needs all characters. -/
def letterClass (f : Flags) (all ascii : CharSet) (negated : Bool) : Option Atom :=
  if f.unicode then some (.set (if negated then .compl all else all))
  else if negated then none
  else some (.set ascii)

/-- Characters of the names of special word boundaries. -/
def isBoundaryChar (c : Char) : Bool := c.isAlpha || c == '-'

/-- Takes the name of a special word boundary up to its closing brace. -/
def takeBoundaryName (f : Flags) (fuel : Nat) (cs : List Char) : Option (List Char × List Char) :=
  match fuel with
  | 0 => none
  | fuel + 1 =>
    match cs with
    | [] => none
    | '\x7d' :: rest => some ([], rest)
    | c :: rest =>
      if isBoundaryChar c then
        (takeBoundaryName f fuel (f.skip rest)).map fun (ds, r) => (c :: ds, r)
      else none

/-- Reads what follows a word boundary: a name in braces makes it a special one; braces that cannot
hold a name are left for a count. -/
def readBoundary (f : Flags) (cs : List Char) : Option (Atom × List Char) :=
  let ascii := !f.unicode
  match cs with
  | '\x7b' :: rest =>
    match f.skip rest with
    | [] => none
    | c :: r =>
      if isBoundaryChar c then
        match takeBoundaryName f (r.length + 2) (c :: r) with
        | none => none
        | some (name, rest) =>
          match String.ofList name with
          | "start" => some (.look (.wordStart ascii), rest)
          | "end" => some (.look (.wordEnd ascii), rest)
          | "start-half" => some (.look (.noWordBefore ascii), rest)
          | "end-half" => some (.look (.noWordAfter ascii), rest)
          | _ => none
      else some (.look (.wordBoundary ascii), cs)
  | _ => some (.look (.wordBoundary ascii), cs)

/-- Reads what follows a backslash. -/
def readEscape (f : Flags) (cs : List Char) : Option (Atom × List Char) :=
  match cs with
  | [] => none
  | c :: rest =>
    match c with
    | 'x' => readHex f 2 rest
    | 'u' => readHex f 4 rest
    | 'U' => readHex f 8 rest
    | 'p' => readProperty f false rest
    | 'P' => readProperty f true rest
    | 'd' => (letterClass f .digits .asciiDigits false).map (·, rest)
    | 'D' => (letterClass f .digits .asciiDigits true).map (·, rest)
    | 's' => (letterClass f .blanks .asciiBlanks false).map (·, rest)
    | 'S' => (letterClass f .blanks .asciiBlanks true).map (·, rest)
    | 'w' => (letterClass f .wordChars .asciiWordChars false).map (·, rest)
    | 'W' => (letterClass f .wordChars .asciiWordChars true).map (·, rest)
    | 'a' => some (.literal '\x07' false, rest)
    | 'f' => some (.literal '\x0c' false, rest)
    | 't' => some (.literal '\t' false, rest)
    | 'n' => some (.literal '\n' false, rest)
    | 'r' => some (.literal '\r' false, rest)
    | 'v' => some (.literal '\x0b' false, rest)
    | 'A' => some (.look .textStart, rest)
    | 'z' => some (.look .textEnd, rest)
    | 'b' => readBoundary f rest
    | 'B' => some (.look (.notWordBoundary !f.unicode), rest)
    | '<' => some (.look (.wordStart !f.unicode), rest)
    | '>' => some (.look (.wordEnd !f.unicode), rest)
    | c => if isEscapable c then some (.literal c false, rest) else none

/-! Sets in brackets. -/

/-- A set operation. -/
inductive SetOp where
  | inter
  | diff
  | symmDiff

/-- A set with the depth to which its expression is nested. -/
structure DeepSet where
  set : CharSet
  depth : Nat

/-- The union of the items read so far, last one first. -/
def unionOf (items : List DeepSet) : DeepSet :=
  { set := CharSet.unions (items.reverse.map (·.set))
    depth := (items.foldl (fun d i => max d i.depth) 0) + (if items.length ≥ 2 then 1 else 0) }

/-- Applies a pending operation. -/
def applyPending (f : Flags) (pending : Option (SetOp × DeepSet)) (right : DeepSet) : DeepSet :=
  match pending with
  | none => right
  | some (op, left) =>
    let a := f.fold left.set
    let b := f.fold right.set
    { set := match op with
        | .inter => .inter a b
        | .diff => .diff a b
        | .symmDiff => .symmDiff a b
      depth := max left.depth right.depth + 1 }

/-- Whether a literal is allowed inside brackets: without `u` only ASCII is. -/
def literalAllowed (f : Flags) (c : Char) : Bool := f.unicode || c.toNat < 128

/-- Reads one end of a range or a single member. -/
def readMember (f : Flags) (cs : List Char) : Option (Atom × List Char) :=
  match cs with
  | [] => none
  | '\\' :: rest => readEscape f rest
  | c :: rest => some (.literal c false, rest)

/-- Reads a member or a range of a set. -/
def readRange (f : Flags) (cs : List Char) : Option (CharSet × List Char) := do
  let (first, rest) ← readMember f cs
  let rest := f.skip rest
  if rest = [] then none
  if rest.head? ≠ some '-' ∨ f.peek rest = some ']' ∨ f.peek rest = some '-' then
    match first with
    | .literal c _ => if literalAllowed f c then some (.single c, rest) else none
    | .set s => some (s, rest)
    | .look _ => none
  else
    let (last, rest) ← readMember f (f.skip (rest.drop 1))
    match first, last with
    | .literal a _, .literal b _ =>
      if a.toNat ≤ b.toNat ∧ literalAllowed f a ∧ literalAllowed f b then
        some (.span a.toNat b.toNat, rest)
      else none
    | _, _ => none

/-- Reads a set of the form `[:name:]` if there is one; otherwise the bracket opens a nested set. -/
def readAsciiClass (f : Flags) (cs : List Char) : Option (Option CharSet × List Char) :=
  match cs with
  | '[' :: ':' :: rest =>
    let (negated, rest) := match rest with
      | '^' :: r => (true, r)
      | r => (false, r)
    let name := rest.takeWhile (· ≠ ':')
    match rest.dropWhile (· ≠ ':') with
    | ':' :: ']' :: after =>
      match CharSet.asciiClass (String.ofList name) with
      | some s =>
        let s := f.fold s
        if negated then
          if f.unicode then some (some (.compl s), after) else some (none, after)
        else some (some s, after)
      | none => none
    | _ => none
  | _ => none

/-- Takes hyphens at the start of a set as members. -/
def takeHyphens (f : Flags) (fuel : Nat) (items : List DeepSet) (cs : List Char) :
    List DeepSet × List Char :=
  match fuel, cs with
  | fuel + 1, '-' :: rest => takeHyphens f fuel (⟨.single '-', 0⟩ :: items) (f.skip rest)
  | _, cs => (items, cs)

mutual

/-- Reads a set whose opening bracket is gone. -/
def readSet (f : Flags) : Nat → List Char → Option (DeepSet × List Char)
  | 0, _ => none
  | fuel + 1, cs =>
    let cs := f.skip cs
    let (negated, cs) := match cs with
      | '^' :: r => (true, f.skip r)
      | r => (false, r)
    let (items, cs) := takeHyphens f (cs.length + 1) [] cs
    let (items, cs) := match items, cs with
      | [], ']' :: r => ([⟨.single ']', 0⟩], f.skip r)
      | items, r => (items, r)
    match readItems f fuel none items cs with
    | none => none
    | some (s, rest) =>
      let folded := f.fold s.set
      if negated then
        if f.unicode then some (⟨.compl folded, s.depth + 1⟩, rest) else none
      else some (⟨folded, s.depth + 1⟩, rest)

/-- Reads the members of a set up to its closing bracket. -/
def readItems (f : Flags) :
    Nat → Option (SetOp × DeepSet) → List DeepSet → List Char → Option (DeepSet × List Char)
  | 0, _, _, _ => none
  | fuel + 1, pending, items, cs =>
    match f.skip cs with
    | [] => none
    | '[' :: rest =>
      match readAsciiClass f ('[' :: rest) with
      | some (some s, after) => readItems f fuel pending (⟨s, 0⟩ :: items) after
      | some (none, _) => none
      | none =>
        match readSet f fuel rest with
        | none => none
        | some (s, after) => readItems f fuel pending (s :: items) after
    | ']' :: rest => some (applyPending f pending (unionOf items), rest)
    | '&' :: '&' :: rest =>
      readItems f fuel (some (.inter, applyPending f pending (unionOf items))) [] rest
    | '-' :: '-' :: rest =>
      readItems f fuel (some (.diff, applyPending f pending (unionOf items))) [] rest
    | '~' :: '~' :: rest =>
      readItems f fuel (some (.symmDiff, applyPending f pending (unionOf items))) [] rest
    | cs =>
      match readRange f cs with
      | none => none
      | some (s, after) => readItems f fuel pending (⟨s, 0⟩ :: items) after

end

/-! Groups and flags. -/

/-- Flags as they are written: the letters switched on and those switched off. -/
structure FlagChange where
  on : List Char
  off : List Char

/-- Reads flags up to `:` or `)`, which stays in front of the rest. -/
def readFlags (change : FlagChange) (minus : Bool) : List Char → Option (FlagChange × List Char)
  | [] => none
  | c :: rest =>
    if c = ':' ∨ c = ')' then
      if minus ∧ change.off = [] then none else some (change, c :: rest)
    else if c = '-' then
      if minus then none else readFlags change true rest
    else if ['i', 'm', 's', 'U', 'u', 'R', 'x'].contains c then
      if change.on.contains c ∨ change.off.contains c then none
      else if minus then readFlags { change with off := c :: change.off } true rest
      else readFlags { change with on := c :: change.on } false rest
    else none

/-- The state of one flag after a change. -/
def FlagChange.apply (change : FlagChange) (letter : Char) (old : Bool) : Bool :=
  if change.on.contains letter then true
  else if change.off.contains letter then false
  else old

/-- The flags after a change. -/
def Flags.change (f : Flags) (c : FlagChange) : Flags where
  ignoreCase := c.apply 'i' f.ignoreCase
  multiLine := c.apply 'm' f.multiLine
  dotAll := c.apply 's' f.dotAll
  anyLineEnd := c.apply 'R' f.anyLineEnd
  unicode := c.apply 'u' f.unicode
  verbose := c.apply 'x' f.verbose

/-- Characters of group names. -/
def isNameChar (first : Bool) (c : Char) : Bool :=
  c == '_' || if first then Text.isAlphabetic c
    else c == '.' || c == '[' || c == ']' || Text.isAlphanumeric c

/-- Reads a group name with its closing bracket. -/
def readName (cs : List Char) : Option (String × List Char) :=
  let name := cs.takeWhile (· ≠ '>')
  match name, cs.dropWhile (· ≠ '>') with
  | c :: more, _ :: rest =>
    if isNameChar true c && more.all (isNameChar false) then some (String.ofList name, rest)
    else none
  | _, _ => none

/-- The beginning of a group. -/
inductive Opening where
  | flags (change : FlagChange)
  | group (name : Option String) (change : FlagChange)

/-- Reads what follows an opening parenthesis. -/
def readOpening (f : Flags) (cs : List Char) : Option (Opening × List Char) :=
  match f.skip cs with
  | '?' :: '=' :: _ => none
  | '?' :: '!' :: _ => none
  | '?' :: '<' :: '=' :: _ => none
  | '?' :: '<' :: '!' :: _ => none
  | '?' :: 'P' :: '<' :: rest => (readName rest).map fun (n, r) => (.group (some n) ⟨[], []⟩, r)
  | '?' :: '<' :: rest => (readName rest).map fun (n, r) => (.group (some n) ⟨[], []⟩, r)
  | '?' :: rest =>
    match readFlags ⟨[], []⟩ false rest with
    | some (change, ')' :: r) =>
      if change.on = [] ∧ change.off = [] then none else some (.flags change, r)
    | some (change, _ :: r) => some (.group none change, r)
    | _ => none
  | rest => some (.group none ⟨[], []⟩, rest)

/-! Counts. -/

/-- Takes decimal digits, passing over blanks where they do not count. -/
def takeDecimal (f : Flags) (fuel : Nat) (cs : List Char) : List Char × List Char :=
  match fuel, cs with
  | fuel + 1, c :: rest =>
    if c.isDigit then
      let (ds, r) := takeDecimal f fuel (f.skip rest)
      (c :: ds, r)
    else ([], c :: rest)
  | _, cs => ([], cs)

/-- Reads a decimal number of 32 bits with blanks around it; without digits there is none. -/
def readDecimal (f : Flags) (cs : List Char) : Option (Option Nat × List Char) :=
  let cs := cs.dropWhile Text.isBlank
  let (ds, rest) := takeDecimal f (cs.length + 1) cs
  let rest := rest.dropWhile Text.isBlank
  if ds = [] then some (none, rest)
  else if Digits.number ds < 0x100000000 then some (some (Digits.number ds), rest)
  else none

/-- Reads a count whose opening brace is gone: the least and the greatest number. -/
def readCount (f : Flags) (cs : List Char) : Option ((Nat × Option Nat) × List Char) := do
  let cs := f.skip cs
  if cs = [] then none
  let (low, rest) ← readDecimal f cs
  let low ← low
  let (range, rest) ← match rest with
    | ',' :: r =>
      match f.skip r with
      | [] => none
      | '\x7d' :: r => some ((low, none), '\x7d' :: r)
      | r => do
        let (high, r) ← readDecimal f r
        let high ← high
        some ((low, some high), r)
    | r => some ((low, some low), r)
  match rest with
  | '\x7d' :: r =>
    let r := match f.skip r with
      | '?' :: r => r
      | r => r
    if range.2.any (· < range.1) then none else some (range, r)
  | _ => none

/-! Whole expressions. -/

/-- An expression with the depth to which it is nested. -/
structure Deep where
  regex : Regex
  depth : Nat

/-- The concatenation of items, last one first. Places where flags were set are `none`. -/
def concatenate (items : List (Option Deep)) : Deep :=
  match items with
  | [] => ⟨.empty, 0⟩
  | [item] => item.getD ⟨.empty, 0⟩
  | items =>
    items.foldl (fun acc item =>
      let item := item.getD ⟨.empty, 0⟩
      ⟨match acc.regex with
        | .empty => item.regex
        | r => .seq item.regex r, max acc.depth (item.depth + 1)⟩) ⟨.empty, 0⟩

/-- The alternation of branches, last one first. -/
def alternate (branches : List Deep) : Deep :=
  match branches with
  | [] => ⟨.empty, 0⟩
  | [b] => b
  | b :: rest =>
    rest.foldl (fun acc b => ⟨.alt b.regex acc.regex, max acc.depth (b.depth + 1)⟩)
      ⟨b.regex, b.depth + 1⟩

/-- Repeats the last item. -/
def repeatLast (items : List (Option Deep)) (min : Nat) (max : Option Nat) :
    Option (List (Option Deep)) :=
  match items with
  | some d :: rest => some (some ⟨.times d.regex min max, d.depth + 1⟩ :: rest)
  | _ => none

/-- The expression of a building block under the flags. -/
def Atom.regex (f : Flags) : Atom → Option Regex
  | .literal c byte =>
    if byte && !f.unicode && 127 < c.toNat then none
    else if !f.ignoreCase then some (.chars (.single c))
    else some (.chars (f.fold (.single c)))
  | .set s => some (.chars s)
  | .look l => some (.look l)

/-- The set of characters matched by a point. -/
def dotSet (f : Flags) : Option CharSet :=
  if !f.unicode then none
  else if f.dotAll then some .any
  else if f.anyLineEnd then some (.compl (.union (.single '\n') (.single '\r')))
  else some (.compl (.single '\n'))

/-- The assertion made by `^`. -/
def startLook (f : Flags) : Look :=
  if f.multiLine then (if f.anyLineEnd then .anyLineStart else .lineStart) else .textStart

/-- The assertion made by `$`. -/
def endLook (f : Flags) : Look :=
  if f.multiLine then (if f.anyLineEnd then .anyLineEnd else .lineEnd) else .textEnd

/-- Drops the sign of a reluctant repetition. -/
def dropReluctant : List Char → List Char
  | '?' :: r => r
  | r => r

/-- Reads branches up to the end of the text or, inside a group, up to its closing parenthesis.
`names` are the group names used so far, `branches` the finished branches and `items` those of the
current one, each last one first. -/
def readBranches (inGroup : Bool) :
    Nat → Flags → List String → List Deep → List (Option Deep) → List Char →
      Option (Deep × List String × List Char)
  | 0, _, _, _, _, _ => none
  | fuel + 1, f, names, branches, items, cs =>
    let push (r : Regex) (rest : List Char) :=
      readBranches inGroup fuel f names branches (some ⟨r, 0⟩ :: items) rest
    let repeated (min : Nat) (max : Option Nat) (rest : List Char) :=
      match repeatLast items min max with
      | none => none
      | some items => readBranches inGroup fuel f names branches items rest
    match f.skip cs with
    | [] => if inGroup then none else some (alternate (concatenate items :: branches), names, [])
    | ')' :: rest =>
      if inGroup then some (alternate (concatenate items :: branches), names, rest) else none
    | '|' :: rest => readBranches inGroup fuel f names (concatenate items :: branches) [] rest
    | '(' :: rest =>
      match readOpening f rest with
      | none => none
      | some (.flags change, rest) =>
        readBranches inGroup fuel (f.change change) names branches (none :: items) rest
      | some (.group name change, rest) =>
        if name.any names.contains then none
        else
          match readBranches true fuel (f.change change) (name.toList ++ names) [] [] rest with
          | none => none
          | some (d, names, rest) =>
            readBranches inGroup fuel f names branches
              (some ⟨d.regex, d.depth + 1⟩ :: items) rest
    | '[' :: rest =>
      match readSet f (2 * rest.length + 2) rest with
      | none => none
      | some (s, rest) =>
        readBranches inGroup fuel f names branches (some ⟨.chars s.set, s.depth⟩ :: items) rest
    | '?' :: rest => repeated 0 (some 1) (dropReluctant rest)
    | '*' :: rest => repeated 0 none (dropReluctant rest)
    | '+' :: rest => repeated 1 none (dropReluctant rest)
    | '\x7b' :: rest =>
      match readCount f rest with
      | none => none
      | some ((min, max), rest) => repeated min max rest
    | '.' :: rest =>
      match dotSet f with
      | none => none
      | some s => push (.chars s) rest
    | '^' :: rest => push (.look (startLook f)) rest
    | '$' :: rest => push (.look (endLook f)) rest
    | '\\' :: rest =>
      match readEscape f rest with
      | none => none
      | some (atom, rest) =>
        match atom.regex f with
        | none => none
        | some r => push r rest
    | c :: rest =>
      match (Atom.literal c false).regex f with
      | none => none
      | some r => push r rest

/-- How deep expressions may be nested. -/
def nestingLimit : Nat := 250

/-- Reads a whole expression, of whatever size. -/
def read (text : String) : Option Deep :=
  let cs := text.toList
  (readBranches false (cs.length + 1) .initial [] [] [] cs).map (·.1)

/-- Reads a whole expression, if it keeps within the limits. -/
def parse (text : String) : Option Regex :=
  match read text with
  | some d => if d.depth ≤ nestingLimit ∧ d.regex.size ≤ sizeLimit then some d.regex else none
  | none => none

end AuditTrail.Regex
