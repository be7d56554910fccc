import RecordRules.Text.Percent

/-!
# Network addresses

An address has four bytes, written in decimal with points between them, or eight groups of sixteen
bits, written in hexadecimal with colons between them. Of the second kind the longest run of zero
groups may be left out, and the last two groups may be written like an address of the first kind.
Reading accepts every such form; writing chooses one.
-/

namespace RecordRules

open Text

/-- A network address of four bytes or of eight groups. -/
inductive Address
  | ofBytes (bytes : Vector UInt8 4)
  | ofGroups (groups : Vector UInt16 8)
  deriving DecidableEq

namespace Address

/-- The address of the machine itself. -/
def loopback : Address := .ofBytes #v[127, 0, 0, 1]

/-! ## Reading -/

/-- The byte that at most three decimal digits write, without needless zeros in front. -/
def byte? (text : List Char) : Option UInt8 :=
  let value := text.foldl (fun value digit => 10 * value + (digit.toNat - '0'.toNat)) 0
  if text ≠ [] ∧ text.length ≤ 3 ∧ text.all Char.isDigit ∧
      (text.head? = some '0' → text.length = 1) ∧ value ≤ 255 then
    some value.toUInt8
  else none

/-- The bytes that a text with points between them writes. -/
def bytes? (text : List Char) : Option (Vector UInt8 4) := do
  let bytes ← (text.splitOn '.').mapM byte?
  if four : bytes.length = 4 then some ⟨bytes.toArray, by simp [four]⟩ else none

/-- The group that one to four hexadecimal digits write. -/
def group? (text : List Char) : Option UInt16 := do
  let digits ← text.mapM hexadecimal?
  if text ≠ [] ∧ text.length ≤ 4 then
    some (digits.foldl (fun value digit => 16 * value + digit) 0).toUInt16
  else none

/-- The group that two bytes fill. -/
def groupOfBytes (high low : UInt8) : UInt16 := (high.toUInt16 <<< 8) ||| low.toUInt16

/-- The two groups that four bytes fill. -/
def groupsOfBytes (bytes : Vector UInt8 4) : List UInt16 :=
  [groupOfBytes bytes[0] bytes[1], groupOfBytes bytes[2] bytes[3]]

/-- The groups that parts between colons write, of which the last may be four bytes. -/
def groupsOfParts? : List (List Char) → Option (List UInt16)
  | [] => some []
  | [last] =>
    match bytes? last with
    | some bytes => some (groupsOfBytes bytes)
    | none => do return [← group? last]
  | part :: parts => do return (← group? part) :: (← groupsOfParts? parts)

/-- The parts of a text between its colons; a text of no characters has none. -/
def parts (text : List Char) : List (List Char) :=
  if text = [] then [] else text.splitOn ':'

/-- Splits a text at its first two colons in a row. -/
def splitAtGap? : List Char → Option (List Char × List Char)
  | ':' :: ':' :: rest => some ([], rest)
  | char :: rest => (splitAtGap? rest).map fun (front, back) => (char :: front, back)
  | [] => none

/-- The groups that a text with colons writes. A gap stands for at least one group, and in front of
it there are no bytes. -/
def groups? (text : List Char) : Option (Vector UInt16 8) := do
  let groups ←
    match splitAtGap? text with
    | none => groupsOfParts? (parts text)
    | some (front, back) => do
      let front ← (parts front).mapM group?
      let back ← groupsOfParts? (parts back)
      if front.length + back.length ≤ 7 then
        some (front ++ List.replicate (8 - front.length - back.length) 0 ++ back)
      else none
  if eight : groups.length = 8 then some ⟨groups.toArray, by simp [eight]⟩ else none

/-- The address that a text writes. -/
def ofText? (text : String) : Option Address :=
  match bytes? text.toList with
  | some bytes => some (.ofBytes bytes)
  | none => (groups? text.toList).map .ofGroups

/-! ## Writing -/

/-- The text of four bytes. -/
def bytesText (bytes : List UInt8) : String :=
  ".".intercalate (bytes.map fun byte => toString byte.toNat)

/-- The text of a group, in lower case. -/
def groupText (group : UInt16) : String := String.ofList (Nat.toDigits 16 group.toNat)

/-- The text of groups. -/
def groupsText (groups : List UInt16) : String := ":".intercalate (groups.map groupText)

/-- Where the first of the longest runs of zero groups begins, and how long it is. -/
def longestGap (groups : List UInt16) : Nat × Nat :=
  (List.range groups.length).foldl
    (fun longest start =>
      let length := ((groups.drop start).takeWhile (· == 0)).length
      if longest.2 < length then (start, length) else longest)
    (0, 0)

/-- The text of groups, without the longest run of two or more zero groups. -/
def gappedText (groups : List UInt16) : String :=
  let (start, length) := longestGap groups
  if length < 2 then groupsText groups
  else groupsText (groups.take start) ++ "::" ++ groupsText (groups.drop (start + length))

/-- The text of an address. Eight groups that hold an address of four bytes are written with it. -/
def text : Address → String
  | .ofBytes bytes => bytesText bytes.toList
  | .ofGroups groups =>
    match groups.toList with
    | [0, 0, 0, 0, 0, 0xffff, high, low] =>
      "::ffff:" ++
        bytesText [(high >>> 8).toUInt8, high.toUInt8, (low >>> 8).toUInt8, low.toUInt8]
    | groups => gappedText groups

/-- The text of an address and of the number that is listened at there. -/
def textWith (address : Address) (number : UInt16) : String :=
  match address with
  | .ofBytes _ => address.text ++ ":" ++ toString number.toNat
  | .ofGroups _ => "[" ++ address.text ++ "]:" ++ toString number.toNat

example : (ofText? "2001:DB8:0:0:1:0:0:1").map text = some "2001:db8::1:0:0:1" := by
  decide +kernel

example : (ofText? "::ffff:102:304").map text = some "::ffff:1.2.3.4" := by decide +kernel

example : ofText? "1.2.3.04" = none ∧ ofText? "1:2:3:4:5:6:7::8" = none := by decide +kernel

end Address

end RecordRules
