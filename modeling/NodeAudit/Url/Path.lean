import NodeAudit.Text.Parts
import NodeAudit.Url.Percent

/-!
# Paths

The segments of a path, with dot segments taken out: `.` stands for where one is and `..` for one
segment less, also with the dots escaped. Under the scheme of files a drive letter stays at the
front.
-/

namespace NodeAudit.Url.Path

/-- The spellings of a segment that stays where it is. -/
def isSingleDot (segment : List Char) : Bool :=
  [".", "%2e"].contains (String.ofList segment).toLower

/-- The spellings of a segment that goes back. -/
def isDoubleDot (segment : List Char) : Bool :=
  ["..", ".%2e", "%2e.", "%2e%2e"].contains (String.ofList segment).toLower

/-- A drive letter with its colon. -/
def isDrive : List Char → Bool
  | [c, ':'] => c.isAlpha
  | _ => false

/-- A drive letter with a colon or a bar. -/
def isDriveLike : List Char → Bool
  | [c, m] => c.isAlpha && (m == ':' || m == '|')
  | _ => false

/-- Go one segment back; a drive letter stays. -/
def back (keepsDrive : Bool) (done : List (List Char)) : List (List Char) :=
  match done.getLast? with
  | some segment => if keepsDrive && isDrive segment then done else done.dropLast
  | none => []

/-- Take the dot segments out. `done` holds the segments passed. -/
def walk (keepsDrive : Bool) (done : List (List Char)) : List (List Char) → List (List Char)
  | [] => done
  | segment :: rest =>
    if isDoubleDot segment then
      let done := back keepsDrive done
      walk keepsDrive (if rest.isEmpty then done ++ [[]] else done) rest
    else if isSingleDot segment then
      walk keepsDrive (if rest.isEmpty then done ++ [[]] else done) rest
    else walk keepsDrive (done ++ [segment]) rest

/-- Segments as text, each behind a slash. -/
def ofSegments (segments : List (List Char)) : List Char :=
  segments.flatMap ('/' :: ·)

/-- The segments that a text behind its first slash writes. -/
def segments (isSlash : Char → Bool) (cs : List Char) : List (List Char) :=
  (Text.parts isSlash cs).map (Percent.escape Percent.inPath)

/-- The path that a text behind its first slash writes. -/
def read (isSlash : Char → Bool) (cs : List Char) : List Char :=
  ofSegments (walk false [] (segments isSlash cs))

/-! ## Paths of files -/

/-- A drive letter at the front becomes a segment of its own, with a colon. -/
def splitDrive : List (List Char) → List (List Char)
  | (c :: ':' :: d :: more) :: rest =>
    if c.isAlpha then [c, ':'] :: (d :: more) :: rest else (c :: ':' :: d :: more) :: rest
  | first :: rest =>
    if isDriveLike first then (first.take 1 ++ [':']) :: rest else first :: rest
  | [] => []

/-- The segments without empty ones at the front; one segment stays. -/
def dropEmpty : List (List Char) → List (List Char)
  | [] => [[]]
  | [] :: rest => dropEmpty rest
  | segment :: rest => segment :: rest

/-- The segments of a path of a file. -/
def fileSegments (isSlash : Char → Bool) (cs : List Char) : List (List Char) :=
  dropEmpty (walk true [] (splitDrive (segments isSlash cs)))

end NodeAudit.Url.Path
