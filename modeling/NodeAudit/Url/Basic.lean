import NodeAudit.Url.Host

/-!
# URLs

A URL is its scheme, an optional host with user, password and port, a path, and an optional query
and fragment, each in the form in which it is written (`Url.text`). A host may be empty, which is
not the same as having none.
-/

namespace NodeAudit

/-- A URL in its parts. -/
structure Url where
  scheme : List Char
  user : List Char := []
  password? : Option (List Char) := none
  host? : Option Url.Host := none
  port? : Option Nat := none
  path : List Char := []
  query? : Option (List Char) := none
  fragment? : Option (List Char) := none
deriving DecidableEq, Repr

namespace Url

/-- The schemes that name a host, with the port that each has unless told otherwise. -/
def defaultPorts : List (String × Nat) :=
  [("http", 80), ("https", 443), ("ws", 80), ("wss", 443), ("ftp", 21)]

/-- The port of a scheme that names a host. -/
def defaultPort? (scheme : List Char) : Option Nat :=
  defaultPorts.lookup (String.ofList scheme)

/-- Whether the scheme is one of the web. -/
def isWeb (u : Url) : Bool :=
  u.scheme == "http".toList || u.scheme == "https".toList

/-- Whether there is a host that is not empty. -/
def hasHost (u : Url) : Bool :=
  match u.host? with
  | some (.domain name) => !name.isEmpty
  | some _ => true
  | none => false

/-- The URL without user and password. -/
def withoutCredentials (u : Url) : Url :=
  { u with user := [], password? := none }

/-- User and password, with the at sign after them. -/
def credentialsText (u : Url) : List Char :=
  match u.password? with
  | some p => u.user ++ ':' :: p ++ ['@']
  | none => if u.user.isEmpty then [] else u.user ++ ['@']

/-- What stands between the scheme and the path. Without a host, a path that begins with two slashes
is kept from being read as one. -/
def authorityText (u : Url) : List Char :=
  match u.host? with
  | some h =>
    "//".toList ++ u.credentialsText ++ h.text ++
      (u.port?.elim [] fun n => ':' :: Decimal.digits 10 n)
  | none => if "//".toList.isPrefixOf u.path then "/.".toList else []

/-- The characters of the URL. -/
def chars (u : Url) : List Char :=
  u.scheme ++ ':' :: u.authorityText ++ u.path ++ (u.query?.elim [] ('?' :: ·)) ++
    (u.fragment?.elim [] ('#' :: ·))

/-- The URL as it is written. -/
def text (u : Url) : String := String.ofList u.chars

end Url

end NodeAudit
