import AuditTrail.Identity.Sha1
import AuditTrail.Number.Digits

/-
  Identifiers of 128 bits: their written forms, and those made from a name within a name space.
-/
namespace AuditTrail

/-- An identifier of 128 bits. -/
structure Uuid where
  value : BitVec 128
  deriving DecidableEq, Repr, Inhabited

namespace Uuid

/-- The identifier of a number, modulo `2 ^ 128`. -/
def ofNat (n : Nat) : Uuid := ⟨BitVec.ofNat 128 n⟩

/-- The identifier as a number. -/
def toNat (u : Uuid) : Nat := u.value.toNat

/-- The number of bytes, most significant first. -/
def numberOfBytes (bytes : List UInt8) : Nat := bytes.foldl (fun n b => 256 * n + b.toNat) 0

/-- The lowest `n` bytes of a number, most significant first. -/
def bytesOfNumber : Nat → Nat → List UInt8
  | 0, _ => []
  | n + 1, v => bytesOfNumber n (v / 256) ++ [v.toUInt8]

/-- The written form: thirty-two digits in five groups. -/
def toText (u : Uuid) : String :=
  let ds := Digits.hexPadded 32 u.toNat
  String.ofList (ds.take 8 ++ '-' :: (ds.drop 8).take 4 ++ '-' :: (ds.drop 12).take 4 ++
    '-' :: (ds.drop 16).take 4 ++ '-' :: ds.drop 20)

/-- Whether hyphens stand where groups end. -/
def isGrouped (cs : List Char) : Bool :=
  cs.length == 36 && [8, 13, 18, 23].all fun i => cs[i]? == some '-'

/-- Reads thirty-two digits. -/
def readDigits (cs : List Char) : Option Uuid :=
  if cs.length = 32 ∧ cs.all fun c => (Digits.hexValue c).isSome then
    some (ofNat (Digits.hexNumber cs))
  else none

/-- Reads digits in groups. -/
def readGroups (cs : List Char) : Option Uuid :=
  if isGrouped cs then readDigits (cs.filter (· ≠ '-')) else none

/-- Reads a written form: plain digits, groups, groups in braces or groups after a scheme. -/
def parse (text : String) : Option Uuid :=
  let cs := text.toList
  match cs.length with
  | 32 => readDigits cs
  | 36 => readGroups cs
  | 38 =>
    if cs.head? = some '\x7b' ∧ cs.getLast? = some '\x7d' then readGroups ((cs.drop 1).take 36)
    else none
  | 45 => if cs.take 9 = "urn:uuid:".toList then readGroups (cs.drop 9) else none
  | _ => none

/-- The identifier of a name within a name space: the first sixteen bytes of the hash of both, with
the version five and the variant marked. -/
def ofName (space : Uuid) (name : String) : Uuid :=
  let hash := Sha1.hash (bytesOfNumber 16 space.toNat ++ name.toUTF8.toList)
  let bytes := (hash.take 16).toArray
  let bytes := bytes.modify 6 fun b => (b &&& 0x0f) ||| 0x50
  let bytes := bytes.modify 8 fun b => (b &&& 0x3f) ||| 0x80
  ofNat (numberOfBytes bytes.toList)

end Uuid

end AuditTrail
