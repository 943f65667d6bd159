import NodeAudit.Text.Direction
import NodeAudit.Text.Joining
import NodeAudit.Text.Marks
import NodeAudit.Text.Parts
import NodeAudit.Url.Domain.Mapping
import NodeAudit.Url.Punycode

/-!
# Domain names in ASCII

An internationalised domain name is brought to one form: its characters are mapped, composed and
split into labels at full stops, labels in Punycode are read, every label is checked, and labels
outside ASCII are written in Punycode behind `xn--`. `toAscii?` is `none` for a name that cannot be
used.
-/

namespace NodeAudit.Url.Domain

/-- A character that no domain name may hold. -/
def isDenied (c : Char) : Bool :=
  c.toNat ≤ 32 || c.toNat == 127 || "%#/:<>?@[\\]^|".toList.contains c

/-- Map every character of a name. -/
def mapName? : List Char → Option (List Char)
  | [] => some []
  | c :: cs => do
    let mapped ← mapChar? c
    return mapped ++ (← mapName? cs)

/-- What a label in Punycode stands for: characters that stand for themselves, composed, and not all
in ASCII. -/
def readPunycode? (cs : List Char) : Option (List Char) :=
  match Punycode.decode? cs with
  | some l =>
    if l.any (128 ≤ ·.toNat) && l.all standsForItself && Text.compose l == l then some l else none
  | none => none

/-- The characters that a label stands for. -/
def readLabel? : List Char → Option (List Char)
  | 'x' :: 'n' :: '-' :: '-' :: cs => readPunycode? cs
  | cs => some cs

/-- Whether a label may stand in a name by its characters alone. -/
def isValidLabel (l : List Char) : Bool :=
  !l.any isDenied && !l.head?.any Text.isMark && Text.joinersAllowed [] l

/-- In a name with a right-to-left character every label keeps the rule of directions. -/
def isDirected (ls : List (List Char)) : Bool :=
  let directions := ls.map (·.map Text.direction)
  !directions.any (·.any (·.isRightToLeft)) || directions.all Text.Direction.isConsistent

/-- A label in ASCII. -/
def writeLabel (l : List Char) : List Char :=
  if l.all (·.toNat < 128) then l else "xn--".toList ++ Punycode.encode l

/-- The name in ASCII. -/
def toAscii? (name : List Char) : Option (List Char) := do
  let mapped ← mapName? name
  let ls ← (Text.parts (· == '.') (Text.compose mapped)).mapM readLabel?
  if ls.all isValidLabel && isDirected ls then
    return List.intercalate ['.'] (ls.map writeLabel)
  else none

end NodeAudit.Url.Domain
