import NodeAudit.Url.Basic
import NodeAudit.Url.Path

/-!
# Reading URLs

`Url.read` takes a text that stands alone, so it must begin with a scheme. Blanks and controls at
either end, and tabs and line breaks anywhere, are skipped. Under `http`, `https`, `ws`, `wss` and
`ftp` any number of slashes, of either kind, may come before the host, and there must be one; the
scheme of files and all others have rules of their own.
-/

namespace NodeAudit.Url

/-! ## The text and its scheme -/

/-- A tab or a line break. -/
def isSkipped (c : Char) : Bool := c == '\t' || c == '\n' || c == '\r'

/-- The characters that count. -/
def significant (cs : List Char) : List Char :=
  let isEdge := fun c : Char => c.toNat ≤ 32
  ((cs.dropWhile isEdge).reverse.dropWhile isEdge).reverse.filter (!isSkipped ·)

/-- A character of a scheme after its first letter. -/
def isSchemeChar (c : Char) : Bool :=
  c.isAlphanum || c == '+' || c == '-' || c == '.'

/-- The scheme in small letters, and what follows its colon. -/
def splitScheme? (cs : List Char) : Option (List Char × List Char) :=
  match cs.takeWhile isSchemeChar, cs.dropWhile isSchemeChar with
  | c :: scheme, ':' :: rest =>
    if c.isAlpha then some ((c :: scheme).map Char.toLower, rest) else none
  | _, _ => none

/-! ## Behind the path -/

/-- A mark that ends a path. -/
def endsPath (c : Char) : Bool := c == '?' || c == '#'

/-- Add the query and the fragment that a text begins with. -/
def withTail (u : Url) (inQuery : Char → Bool) (cs : List Char) : Url :=
  let isHash := fun c : Char => c == '#'
  let query? := match cs with
    | '?' :: rest => some (Percent.escape inQuery (rest.takeWhile (!isHash ·)))
    | _ => none
  let fragment? := match cs.dropWhile (!isHash ·) with
    | _ :: rest => some (Percent.escape Percent.inFragment rest)
    | [] => none
  { u with query?, fragment? }

/-! ## User, host and port -/

/-- What comes before the last at sign, and what comes after it. -/
def splitCredentials (cs : List Char) : Option (List Char) × List Char :=
  let host := (cs.reverse.takeWhile (· != '@')).reverse
  if host.length = cs.length then (none, cs)
  else (some (cs.take (cs.length - host.length - 1)), host)

/-- The user and the password that a text holds. A password is not empty. -/
def readCredentials (cs : List Char) : List Char × Option (List Char) :=
  let escaped := Percent.escape Percent.inUser
  let user := escaped (cs.takeWhile (· != ':'))
  match cs.dropWhile (· != ':') with
  | _ :: c :: password => (user, some (escaped (c :: password)))
  | _ => (user, none)

/-- The characters of a host and what follows them; a colon in brackets belongs to it. -/
def splitHost (inBrackets : Bool) : List Char → List Char × List Char
  | [] => ([], [])
  | c :: cs =>
    if c = ':' ∧ !inBrackets then ([], c :: cs)
    else
      let (host, rest) := splitHost (c == '[' || (inBrackets && c != ']')) cs
      (c :: host, rest)

/-- Continue a port with one more digit. -/
def pushPort (n : Nat) (c : Char) : Except UrlError Nat :=
  if c.isDigit ∧ n * 10 + (c.toNat - 48) < 65536 then .ok (n * 10 + (c.toNat - 48))
  else .error .invalidPort

/-- The port that a text writes, unless it is empty or the default. -/
def readPort (default? : Option Nat) (cs : List Char) : Except UrlError (Option Nat) := do
  let n ← cs.foldlM pushPort 0
  return if cs.isEmpty || default? = some n then none else some n

/-- Whether a host must not be empty: there is a port, or a user or password, or the scheme names
one. -/
def needsHost (isSpecial : Bool) (u : Url) (afterHost : List Char) : Bool :=
  isSpecial || !afterHost.isEmpty || !u.credentialsText.isEmpty

/-- Read what stands between two slashes and the path: user and password, host, and port. The scheme
is known; `cs` ends where the authority does, and `rest` follows it. -/
def readAuthority (scheme cs rest : List Char) : Except UrlError (Url × List Char) := do
  let default? := defaultPort? scheme
  let isSpecial := default?.isSome
  let (credentials?, cs) := splitCredentials cs
  if credentials? = some [] ∧ cs.isEmpty ∧ !rest.isEmpty then throw .emptyHost
  let (user, password?) := (credentials?.map readCredentials).getD ([], none)
  let u : Url := { scheme, user, password? }
  let (hostChars, cs) := splitHost false cs
  if isSpecial ∧ hostChars.isEmpty then throw .emptyHost
  let host ← if isSpecial then Host.read hostChars else Host.readOpaque hostChars
  if hostChars.isEmpty ∧ needsHost isSpecial u cs then throw .emptyHost
  let port := (cs.drop 1).takeWhile (· != '\\')
  let port? ← readPort default? port
  return ({ u with host? := some host, port? }, (cs.drop 1).drop port.length ++ rest)

/-! ## Schemes -/

/-- A slash of either kind. -/
def isAnySlash (c : Char) : Bool := c == '/' || c == '\\'

/-- A slash. -/
def isSlash (c : Char) : Bool := c == '/'

/-- Read a URL of a scheme that names a host, from the host on. -/
def readSpecial (scheme cs : List Char) : Except UrlError Url := do
  let ends := fun c => isAnySlash c || endsPath c
  let (u, cs) ← readAuthority scheme (cs.takeWhile (!ends ·)) (cs.dropWhile (!ends ·))
  let path := cs.takeWhile (!endsPath ·)
  return withTail { u with path := Path.read isAnySlash (path.drop 1) } Percent.inSpecialQuery
    (cs.dropWhile (!endsPath ·))

/-- Read a URL of any other scheme, from its colon on. -/
def readOther (scheme cs : List Char) : Except UrlError Url := do
  let tail := fun cs : List Char => cs.dropWhile (!endsPath ·)
  match cs with
  | '/' :: '/' :: cs =>
    let ends := fun c => isSlash c || endsPath c
    let (u, cs) ← readAuthority scheme (cs.takeWhile (!ends ·)) (cs.dropWhile (!ends ·))
    let path := match cs.takeWhile (!endsPath ·) with
      | [] => []
      | '/' :: path => Path.read isSlash path
      | path => Path.read isSlash path
    return withTail { u with path } Percent.inQuery (tail cs)
  | '/' :: cs =>
    let path := Path.read isSlash (cs.takeWhile (!endsPath ·))
    return withTail { scheme, path } Percent.inQuery (tail cs)
  | cs =>
    let path := Percent.escape Percent.inControls (cs.takeWhile (!endsPath ·))
    return withTail { scheme, path } Percent.inQuery (tail cs)

/-- The host of a file; `localhost` stands for none. -/
def readFileHost (cs : List Char) : Except UrlError Host := do
  if cs.isEmpty then return .domain []
  let host ← Host.read cs
  return if host = .domain "localhost".toList then .domain [] else host

/-- Read the URL of a file, from its colon on. A drive letter in the place of a host belongs to the
path, and where a path begins with a drive there is no host. -/
def readFile (cs : List Char) : Except UrlError Url := do
  let ends := fun c => isAnySlash c || endsPath c
  let (host, cs) ← match cs with
    | a :: b :: rest =>
      if isAnySlash a ∧ isAnySlash b then do
        let name := rest.takeWhile (!ends ·)
        if Path.isDriveLike name then pure (Host.domain [], rest)
        else pure (← readFileHost name, rest.dropWhile (!ends ·))
      else pure (Host.domain [], cs)
    | _ => pure (Host.domain [], cs)
  let path := cs.takeWhile (!endsPath ·)
  let path := if path.head?.any isAnySlash then path.drop 1 else path
  let segments := Path.fileSegments isAnySlash path
  let host := if segments.head?.any Path.isDrive then Host.domain [] else host
  return withTail { scheme := "file".toList, host? := some host, path := Path.ofSegments segments }
    Percent.inSpecialQuery (cs.dropWhile (!endsPath ·))

/-- Read a URL. -/
def read (s : String) : Except UrlError Url :=
  match splitScheme? (significant s.toList) with
  | none => .error .relativeWithoutBase
  | some (scheme, rest) =>
    if (defaultPort? scheme).isSome then readSpecial scheme (rest.dropWhile isAnySlash)
    else if scheme = "file".toList then readFile rest
    else readOther scheme rest

end NodeAudit.Url
