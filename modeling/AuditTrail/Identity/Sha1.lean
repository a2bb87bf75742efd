/-
  The secure hash of 160 bits, on lists of bytes. The message is filled up to blocks of sixty-four
  bytes and run through eighty rounds a block.
-/
namespace AuditTrail.Sha1

/-- Rotation of a word to the left. -/
def rotate (x : UInt32) (n : UInt32) : UInt32 := (x <<< n) ||| (x >>> (32 - n))

/-- The bytes of a number of 64 bits, most significant first. -/
def wordBytes (n : UInt64) : List UInt8 :=
  ([56, 48, 40, 32, 24, 16, 8, 0] : List UInt64).map fun s => (n >>> s).toUInt8

/-- Fills a message up: a one bit, zeros and the length in bits. -/
def pad (message : List UInt8) : List UInt8 :=
  let zeros := (119 - message.length % 64) % 64
  message ++ 0x80 :: List.replicate zeros 0 ++ wordBytes (8 * message.length).toUInt64

/-- The words of a block. -/
def words : List UInt8 → List UInt32
  | a :: b :: c :: d :: rest =>
    ((a.toUInt32 <<< 24) ||| (b.toUInt32 <<< 16) ||| (c.toUInt32 <<< 8) ||| d.toUInt32) ::
      words rest
  | _ => []

/-- The state between blocks and rounds. -/
structure State where
  a : UInt32
  b : UInt32
  c : UInt32
  d : UInt32
  e : UInt32

/-- The state at the start. -/
def State.initial : State := ⟨0x67452301, 0xEFCDAB89, 0x98BADCFE, 0x10325476, 0xC3D2E1F0⟩

/-- The sum of two states. -/
def State.add (s t : State) : State := ⟨s.a + t.a, s.b + t.b, s.c + t.c, s.d + t.d, s.e + t.e⟩

/-- Extends the sixteen words of a block to eighty; `recent` holds the words so far, last one
first. -/
def expand (recent : List UInt32) : Nat → List UInt32
  | 0 => recent.reverse
  | n + 1 =>
    let w := recent.toArray
    let next := rotate (w.getD 2 0 ^^^ w.getD 7 0 ^^^ w.getD 13 0 ^^^ w.getD 15 0) 1
    expand (next :: recent) n

/-- One round with its number and word. -/
def round (s : State) (t : Nat) (w : UInt32) : State :=
  let (f, k) : UInt32 × UInt32 :=
    if t < 20 then ((s.b &&& s.c) ||| (~~~s.b &&& s.d), 0x5A827999)
    else if t < 40 then (s.b ^^^ s.c ^^^ s.d, 0x6ED9EBA1)
    else if t < 60 then ((s.b &&& s.c) ||| (s.b &&& s.d) ||| (s.c &&& s.d), 0x8F1BBCDC)
    else (s.b ^^^ s.c ^^^ s.d, 0xCA62C1D6)
  ⟨rotate s.a 5 + f + s.e + k + w, s.a, rotate s.b 30, s.c, s.d⟩

/-- Runs the rounds of a block. -/
def rounds (s : State) (t : Nat) : List UInt32 → State
  | [] => s
  | w :: ws => rounds (round s t w) (t + 1) ws

/-- Takes in the blocks of a filled message, `n` of them. -/
def blocks (s : State) : Nat → List UInt8 → State
  | 0, _ => s
  | n + 1, bytes =>
    let block := words (bytes.take 64)
    blocks (s.add (rounds s 0 (expand block.reverse 64))) n (bytes.drop 64)

/-- The hash as twenty bytes. -/
def hash (message : List UInt8) : List UInt8 :=
  let padded := pad message
  let s := blocks .initial (padded.length / 64) padded
  [s.a, s.b, s.c, s.d, s.e].flatMap fun w =>
    ([24, 16, 8, 0] : List UInt32).map fun n => (w >>> n).toUInt8

end AuditTrail.Sha1
