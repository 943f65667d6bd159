import NodeAudit.Decimal.Digits
import NodeAudit.Text.Parts

/-!
# Network addresses

Addresses of four bytes and of eight groups as they stand in a URL. An address of four bytes may be
written with fewer parts, the last of which then covers the bytes that are left, and each part may
be octal or hexadecimal; it is written back in four decimal parts. An address of eight groups may
leave out one run of zeros and may end in an address of four bytes; written back, the longest run of
two or more zeros is left out.
-/

namespace NodeAudit.Url.Address

/-! ## Four bytes -/

/-- The number that a part writes: hexadecimal after `0x`, octal after another `0`, else decimal. -/
def partValue? : List Char → Option Nat
  | [] => none
  | '0' :: 'x' :: cs | '0' :: 'X' :: cs => Decimal.value? 16 cs
  | '0' :: c :: cs => Decimal.value? 8 (c :: cs)
  | cs => Decimal.value? 10 cs

/-- The parts of a name, less an empty last one. -/
def nameParts (name : List Char) : List (List Char) :=
  let ps := Text.parts (· == '.') name
  if ps.getLast? = some [] then ps.dropLast else ps

/-- Whether a name is to be read as an address: its last part is a number. -/
def endsInNumber (name : List Char) : Bool :=
  match (nameParts name).getLast? with
  | some p => !p.isEmpty && (p.all Decimal.isDigit || (partValue? p).isSome)
  | none => false

/-- The address of some bytes followed by a number that covers the bytes that are left. -/
def combine? (bytes : List Nat) (last : Nat) : Option Nat :=
  if bytes.all (· < 256) && bytes.length ≤ 3 && last < Nat.pow 256 (4 - bytes.length) then
    some (bytes.foldl (fun sum b => sum * 256 + b) 0 * Nat.pow 256 (4 - bytes.length) + last)
  else none

/-- The address of four bytes that a name writes. -/
def readV4? (name : List Char) : Option Nat := do
  let numbers ← (nameParts name).mapM partValue?
  combine? numbers.dropLast (← numbers.getLast?)

/-- An address of four bytes in four decimal parts. -/
def v4Text (n : Nat) : List Char :=
  List.intercalate ['.']
    ([n / 16777216 % 256, n / 65536 % 256, n / 256 % 256, n % 256].map (Decimal.digits 10))

/-! ## Eight groups -/

/-- A byte without leading zeros. -/
def byteValue? (cs : List Char) : Option Nat :=
  match cs with
  | [] => none
  | '0' :: _ :: _ => none
  | cs =>
    match Decimal.value? 10 cs with
    | some n => if n < 256 then some n else none
    | none => none

/-- The two groups of a strict address of four bytes. -/
def tailGroups? (cs : List Char) : Option (List Nat) := do
  match ← (Text.parts (· == '.') cs).mapM byteValue? with
  | [a, b, c, d] => return [a * 256 + b, c * 256 + d]
  | _ => none

/-- Groups as far as they are read: those before the gap, if there was one, and the latest ones. -/
structure Groups where
  before? : Option (List Nat) := none
  latest : List Nat := []

namespace Groups

/-- How many groups are taken, counting the gap as one. -/
def taken (g : Groups) : Nat :=
  g.latest.length + (g.before?.elim 0 (·.length + 1))

/-- The eight groups, the gap filled with zeros. -/
def close? (g : Groups) : Option (List Nat) :=
  match g.before? with
  | none => if g.latest.length = 8 then some g.latest else none
  | some before =>
    if g.taken ≤ 8 then
      some (before ++ List.replicate (8 - before.length - g.latest.length) 0 ++ g.latest)
    else none

/-- Read groups to the end of the text. -/
def read? (g : Groups) (cs : List Char) : Option Groups :=
  match cs with
  | [] => some g
  | c :: rest =>
    if g.taken = 8 then none
    else if c = ':' then
      if g.before?.isSome then none else read? { before? := some g.latest } rest
    else
      let digits := ((c :: rest).take 4).takeWhile Decimal.isHexDigit
      let next := rest.drop (digits.length - 1)
      match digits.isEmpty, Decimal.value? 16 digits, next with
      | false, some n, [] => some { g with latest := g.latest ++ [n] }
      | false, some n, ':' :: more =>
        if more.isEmpty then none
        else if more.length ≤ rest.length then
          read? { g with latest := g.latest ++ [n] } more
        else none
      | false, some _, '.' :: _ =>
        if 6 < g.taken then none
        else (tailGroups? cs).map fun two => { g with latest := g.latest ++ two }
      | _, _, _ => none
termination_by cs.length
decreasing_by
  · simp
  · simp only [List.length_cons]; omega

end Groups

/-- The eight groups that a text writes. -/
def readV6? (cs : List Char) : Option (List Nat) :=
  match cs with
  | ':' :: ':' :: rest => (Groups.read? { before? := some [] } rest).bind Groups.close?
  | ':' :: _ => none
  | cs => (Groups.read? {} cs).bind Groups.close?

/-- The length of the run of zeros at the start. -/
def zeroRun (gs : List Nat) : Nat := (gs.takeWhile (· = 0)).length

/-- Where the longest run of zeros begins and how long it is; the first of equal ones. -/
def longestZeros : List Nat → Nat × Nat
  | [] => (0, 0)
  | g :: gs =>
    let (start, length) := longestZeros gs
    if length ≤ zeroRun (g :: gs) then (0, zeroRun (g :: gs)) else (start + 1, length)

/-- Groups in hexadecimal between colons. -/
def groupsText (gs : List Nat) : List Char :=
  List.intercalate [':'] (gs.map (Decimal.digits 16))

/-- An address of eight groups. -/
def v6Text (gs : List Nat) : List Char :=
  let (start, length) := longestZeros gs
  if length < 2 then groupsText gs
  else groupsText (gs.take start) ++ [':', ':'] ++ groupsText (gs.drop (start + length))

end NodeAudit.Url.Address
