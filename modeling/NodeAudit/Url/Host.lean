import NodeAudit.Url.Address
import NodeAudit.Url.Domain.Ascii
import NodeAudit.Url.Percent

/-!
# Hosts

The host of a URL is a domain name or a network address. Where the scheme is known to name a host,
the name is unescaped and brought to its ASCII form, and a name that ends in a number must be an
address; under any other scheme the name is kept as it is, with controls escaped.
-/

namespace NodeAudit

/-- Why a text is no URL. -/
inductive UrlError
  | relativeWithoutBase
  | emptyHost
  | invalidPort
  | invalidV4Address
  | invalidV6Address
  | invalidDomain
  | invalidHostCharacter
deriving DecidableEq, Repr

/-- What is said of a text that is no URL. -/
def UrlError.message : UrlError → String
  | .relativeWithoutBase => "relative URL without a base"
  | .emptyHost => "empty host"
  | .invalidPort => "invalid port number"
  | .invalidV4Address => "invalid IPv4 address"
  | .invalidV6Address => "invalid IPv6 address"
  | .invalidDomain => "invalid international domain name"
  | .invalidHostCharacter => "invalid domain character"

/-- A domain name or a network address. -/
inductive Url.Host
  | domain (name : List Char)
  | v4 (address : Nat)
  | v6 (groups : List Nat)
deriving DecidableEq, Repr

namespace Url.Host

/-- The host as it stands in a URL. -/
def text : Host → List Char
  | .domain name => name
  | .v4 n => Address.v4Text n
  | .v6 gs => '[' :: Address.v6Text gs ++ [']']

/-- Read an address in brackets; the opening one is already read. -/
def readBracketed (cs : List Char) : Except UrlError Host :=
  if cs.getLast? = some ']' then
    match Address.readV6? cs.dropLast with
    | some gs => .ok (.v6 gs)
    | none => .error .invalidV6Address
  else .error .invalidV6Address

/-- Read a host under a scheme that names one. -/
def read : List Char → Except UrlError Host
  | '[' :: cs => readBracketed cs
  | cs =>
    match (Percent.characters? (Percent.unescape cs)).bind Domain.toAscii? with
    | none => .error .invalidDomain
    | some [] => .error .emptyHost
    | some name =>
      if Address.endsInNumber name then
        match Address.readV4? name with
        | some n => .ok (.v4 n)
        | none => .error .invalidV4Address
      else .ok (.domain name)

/-- A character that no host may hold. -/
def isForbidden (c : Char) : Bool :=
  "\x00\t\n\r #/:<>?@[\\]^|".toList.contains c

/-- Read a host under any other scheme. -/
def readOpaque : List Char → Except UrlError Host
  | '[' :: cs => readBracketed cs
  | cs =>
    if cs.any isForbidden then .error .invalidHostCharacter
    else .ok (.domain (Percent.escape Percent.inControls cs))

end Url.Host

end NodeAudit
