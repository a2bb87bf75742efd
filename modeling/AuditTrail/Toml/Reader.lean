import AuditTrail.Toml.Scalar

/-
  Reading configuration documents: lines of keys and values, tables with headers, lists of tables,
  dotted keys and inline tables. A key is given a value at most once, and a table is opened by at
  most one header. The result is one record.
-/
namespace AuditTrail.Toml

/-- How a table came to be. -/
inductive Origin where
  /-- Opened by a header of its own. -/
  | header
  /-- Named on the way to another table's header. -/
  | implied
  /-- Named on the way to a key's value. -/
  | dotted
  deriving DecidableEq

/-- A part of a document under construction. -/
inductive Node where
  | leaf (v : Json)
  | table (origin : Origin) (members : List (String × Node))
  | tables (items : List (List (String × Node)))
  deriving Inhabited

/-- The members of a table. -/
abbrev Members := List (String × Node)

/-- Replaces or adds a member. -/
def Members.put (ms : Members) (key : String) (node : Node) : Members :=
  if ms.any (·.1 == key) then ms.map fun m => if m.1 == key then (key, node) else m
  else ms ++ [(key, node)]

/-- Gives a value to a key. `dotted` says whether the table was reached along a dotted key and
`origin` how it came to be. -/
def assign (value : Json) (dotted : Bool) (origin : Origin) : List String → Members → Option Members
  | [], _ => none
  | [key], ms =>
    if ms.any (·.1 == key) ∨ (dotted ∧ origin ≠ .dotted) then none
    else some (ms.put key (.leaf value))
  | key :: path, ms =>
    match ms.lookup key with
    | none => (assign value true .dotted path []).map fun sub => ms.put key (.table .dotted sub)
    | some (.table o sub) =>
      if o = .header then none
      else (assign value true o path sub).map fun sub => ms.put key (.table o sub)
    | some _ => none

/-- Changes the last entry of a list. -/
def updateLast (f : Members → Option Members) : List Members → Option (List Members)
  | [] => none
  | [last] => (f last).map ([·])
  | m :: rest => (updateLast f rest).map (m :: ·)

/-- Opens the table, or a further table of the list, named by a header. -/
def openTable (list : Bool) : List String → Members → Option Members
  | [], _ => none
  | [key], ms =>
    match list, ms.lookup key with
    | false, none => some (ms.put key (.table .header []))
    | false, some (.table .implied sub) => some (ms.put key (.table .header sub))
    | true, none => some (ms.put key (.tables [[]]))
    | true, some (.tables items) => some (ms.put key (.tables (items ++ [[]])))
    | _, _ => none
  | key :: path, ms =>
    match ms.lookup key with
    | none => (openTable list path []).map fun sub => ms.put key (.table .implied sub)
    | some (.table o sub) => (openTable list path sub).map fun sub => ms.put key (.table o sub)
    | some (.tables items) =>
      (updateLast (openTable list path) items).map fun items => ms.put key (.tables items)
    | some (.leaf _) => none

/-- Changes the table that was opened last under a header. -/
def within (f : Members → Option Members) : List String → Members → Option Members
  | [], ms => f ms
  | key :: path, ms =>
    match ms.lookup key with
    | some (.table o sub) => (within f path sub).map fun sub => ms.put key (.table o sub)
    | some (.tables items) =>
      (updateLast (within f path) items).map fun items => ms.put key (.tables items)
    | _ => none

mutual

/-- The value that a finished part stands for. -/
def Node.value : Node → Json
  | .leaf v => v
  | .table _ ms => Json.record (memberValues ms)
  | .tables items => .array (itemValues items)

/-- The values of members. -/
def memberValues : List (String × Node) → List (String × Json)
  | [] => []
  | (k, n) :: rest => (k, n.value) :: memberValues rest

/-- The values of a list of tables. -/
def itemValues : List (List (String × Node)) → List Json
  | [] => []
  | ms :: rest => Json.record (memberValues ms) :: itemValues rest

end

/-! The text. -/

/-- Something read at the front of a text, with the rest. -/
abbrev Reads (α : Type) := List Char → Option (α × List Char)

/-- Skips blanks and tabs. -/
def skipBlank (cs : List Char) : List Char := cs.dropWhile fun c => c == ' ' || c == '\t'

/-- Whether a character may stand in comments and quoted texts. -/
def isAllowed (c : Char) : Bool := c == '\t' || (32 ≤ c.toNat && c.toNat ≠ 127)

/-- Takes a line end off the front. -/
def takeNewline : List Char → Option (List Char)
  | '\n' :: r => some r
  | '\r' :: '\n' :: r => some r
  | _ => none

/-- Skips a comment, if there is one. -/
def skipComment : List Char → Option (List Char)
  | '#' :: r =>
    let rest := r.dropWhile isAllowed
    if rest = [] ∨ (takeNewline rest).isSome then some rest else none
  | r => some r

/-- Skips blanks, comments and line ends. -/
def skipLines : Nat → List Char → Option (List Char)
  | 0, cs => some cs
  | fuel + 1, cs =>
    match skipComment (skipBlank cs) with
    | none => none
    | some cs =>
      match takeNewline cs with
      | some rest => skipLines fuel rest
      | none => some cs

/-- Ends a line: only blanks and a comment may stand before its end. -/
def endLine (cs : List Char) : Option (List Char) :=
  match skipComment (skipBlank cs) with
  | none => none
  | some [] => some []
  | some cs => takeNewline cs

/-- The character of a code point of `n` hexadecimal digits. -/
def readCodePoint (n : Nat) : Reads Char := fun cs =>
  let ds := cs.take n
  let v := Digits.hexNumber ds
  if ds.length = n ∧ ds.all (fun c => (Digits.hexValue c).isSome) ∧
      (v < 0xD800 ∨ (0xDFFF < v ∧ v < 0x110000)) then
    some (Char.ofNat v, cs.drop n)
  else none

/-- Reads what follows a backslash. -/
def readEscape : Reads Char
  | 'b' :: r => some ('\x08', r)
  | 't' :: r => some ('\t', r)
  | 'n' :: r => some ('\n', r)
  | 'f' :: r => some ('\x0c', r)
  | 'r' :: r => some ('\r', r)
  | 'e' :: r => some ('\x1b', r)
  | '"' :: r => some ('"', r)
  | '\\' :: r => some ('\\', r)
  | 'x' :: r => readCodePoint 2 r
  | 'u' :: r => readCodePoint 4 r
  | 'U' :: r => readCodePoint 8 r
  | _ => none

/-- Reads a text on one line up to its closing quote. -/
def readLine (quote : Char) (done : List Char) : Nat → Reads String
  | 0, _ => none
  | fuel + 1, cs =>
    match cs with
    | [] => none
    | c :: rest =>
      if c = quote then some (String.ofList done.reverse, rest)
      else if c = '\\' ∧ quote = '"' then
        match readEscape rest with
        | some (e, rest) => readLine quote (e :: done) fuel rest
        | none => none
      else if isAllowed c then readLine quote (c :: done) fuel rest
      else none

/-- Skips the blank rest of a line after a backslash, and all blanks and line ends after it. -/
def skipContinuation (cs : List Char) : Option (List Char) :=
  match takeNewline (skipBlank cs) with
  | none => none
  | some rest =>
    some (rest.dropWhile fun c => c == ' ' || c == '\t' || c == '\n' || c == '\r')

/-- Reads a text on several lines up to three closing quotes; up to two quotes may stand directly
before them. -/
def readLines (quote : Char) (done : List Char) : Nat → Reads String
  | 0, _ => none
  | fuel + 1, cs =>
    match cs with
    | [] => none
    | c :: rest =>
      if c = quote ∧ (rest.take 2) = [quote, quote] then
        let more := (rest.drop 2).takeWhile (· == quote)
        if more.length ≤ 2 then
          some (String.ofList (done.reverse ++ more), rest.drop (2 + more.length))
        else none
      else if c = '\\' ∧ quote = '"' then
        match skipContinuation rest with
        | some rest => readLines quote done fuel rest
        | none =>
          match readEscape rest with
          | some (e, rest) => readLines quote (e :: done) fuel rest
          | none => none
      else
        match takeNewline cs with
        | some rest => readLines quote ('\n' :: done) fuel rest
        | none => if isAllowed c then readLines quote (c :: done) fuel rest else none

/-- Reads a quoted text whose first quote is `quote` and gone. -/
def readQuoted (quote : Char) : Reads String := fun cs =>
  if cs.take 2 = [quote, quote] then
    let cs := cs.drop 2
    readLines quote [] (cs.length + 1) ((takeNewline cs).getD cs)
  else readLine quote [] (cs.length + 1) cs

/-- Whether a character may stand in a key without quotes. -/
def isBare (c : Char) : Bool := c.isAlphanum || c == '_' || c == '-'

/-- Reads one key. -/
def readKey : Reads String
  | '"' :: rest => readLine '"' [] (rest.length + 1) rest
  | '\'' :: rest => readLine '\'' [] (rest.length + 1) rest
  | cs =>
    let name := cs.takeWhile isBare
    if name = [] then none else some (String.ofList name, cs.dropWhile isBare)

/-- Reads keys separated by dots. -/
def readPath : Nat → Reads (List String)
  | 0, _ => none
  | fuel + 1, cs =>
    match readKey (skipBlank cs) with
    | none => none
    | some (key, rest) =>
      match skipBlank rest with
      | '.' :: rest => (readPath fuel rest).map fun (path, r) => (key :: path, r)
      | rest => some ([key], rest)

/-- Whether a character ends an unquoted scalar. -/
def endsScalar (c : Char) : Bool :=
  c == ' ' || c == '\t' || c == '\n' || c == '\r' || c == ',' || c == ']' || c == '\x7d' ||
    c == '#'

/-- Takes an unquoted scalar; a date and a time may be separated by one blank. -/
def takeScalar (cs : List Char) : List Char × List Char :=
  let word := cs.takeWhile (!endsScalar ·)
  match cs.dropWhile (!endsScalar ·) with
  | ' ' :: rest =>
    if takeDate word == some [] ∧ rest.head?.any Char.isDigit then
      (word ++ [' '] ++ rest.takeWhile (!endsScalar ·), rest.dropWhile (!endsScalar ·))
    else (word, ' ' :: rest)
  | rest => (word, rest)

mutual

/-- Reads a value; `depth` bounds the nesting. -/
def readValue : Nat → Reads Json
  | 0, _ => none
  | fuel + 1, cs =>
    match cs with
    | '"' :: rest => (readQuoted '"' rest).map fun (s, r) => (.string s, r)
    | '\'' :: rest => (readQuoted '\'' rest).map fun (s, r) => (.string s, r)
    | '[' :: rest => readItems fuel [] rest
    | '\x7b' :: rest =>
      (readMembers fuel [] rest).map fun (ms, r) => ((Node.table .dotted ms).value, r)
    | cs =>
      let (word, rest) := takeScalar cs
      (readScalar word).map (·, rest)

/-- Reads the items of a list. -/
def readItems : Nat → List Json → Reads Json
  | 0, _, _ => none
  | fuel + 1, done, cs =>
    match skipLines (cs.length + 1) cs with
    | none => none
    | some (']' :: rest) => some (.array done.reverse, rest)
    | some cs =>
      match readValue fuel cs with
      | none => none
      | some (v, rest) =>
        match skipLines (rest.length + 1) rest with
        | some (',' :: rest) => readItems fuel (v :: done) rest
        | some (']' :: rest) => some (.array (v :: done).reverse, rest)
        | _ => none

/-- Reads the members of an inline table. -/
def readMembers : Nat → Members → Reads Members
  | 0, _, _ => none
  | fuel + 1, done, cs =>
    match skipLines (cs.length + 1) cs with
    | none => none
    | some ('\x7d' :: rest) => some (done, rest)
    | some cs =>
      match readPath (cs.length + 1) cs with
      | some (path, '=' :: rest) =>
        match readValue fuel (skipBlank rest) with
        | none => none
        | some (v, rest) =>
          match assign v false .dotted path done with
          | none => none
          | some done =>
            match skipLines (rest.length + 1) rest with
            | some (',' :: rest) => readMembers fuel done rest
            | some ('\x7d' :: rest) => some (done, rest)
            | _ => none
      | _ => none

end

/-- Reads the header of a table: whether it is one of a list, and its path. -/
def readHeader : Reads (Bool × List String)
  | '[' :: '[' :: rest =>
    match readPath (rest.length + 1) rest with
    | some (path, ']' :: ']' :: rest) => some ((true, path), rest)
    | _ => none
  | '[' :: rest =>
    match readPath (rest.length + 1) rest with
    | some (path, ']' :: rest) => some ((false, path), rest)
    | _ => none
  | _ => none

/-- Reads the lines of a document; `current` is the path of the table opened last. -/
def readDocument : Nat → List String → Members → List Char → Option Members
  | 0, _, _, _ => none
  | fuel + 1, current, root, cs =>
    match skipLines (cs.length + 1) cs with
    | none => none
    | some [] => some root
    | some ('[' :: rest) =>
      match readHeader ('[' :: rest) with
      | none => none
      | some ((list, path), rest) =>
        match openTable list path root, endLine rest with
        | some root, some rest => readDocument fuel path root rest
        | _, _ => none
    | some cs =>
      match readPath (cs.length + 1) cs with
      | some (path, '=' :: rest) =>
        match readValue (rest.length + 1) (skipBlank rest) with
        | none => none
        | some (v, rest) =>
          match within (assign v false .header path) current root, endLine rest with
          | some root, some rest => readDocument fuel current root rest
          | _, _ => none
      | _ => none

/-- Reads a whole document. A byte order mark at its start is passed over. -/
def parse (text : String) : Option Json :=
  let cs := match text.toList with
    | '\ufeff' :: r => r
    | r => r
  (readDocument (cs.length + 1) [] [] cs).map fun root => (Node.table .header root).value

end AuditTrail.Toml
