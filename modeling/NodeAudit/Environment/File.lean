import NodeAudit.Environment
import NodeAudit.Files
import NodeAudit.Text.Alphanumeric
import NodeAudit.Text.Parts

/-!
# Environment files

A file gives values to variables that have none, a line for each. A value may be quoted, may hold
escapes, and may name other variables by a dollar sign, which stand for their values at that moment.
A line that is wrong ends the reading of the file; the variables of the lines before it stay set.
-/

namespace NodeAudit.Environment.File

/-! ## Values -/

/-- Where the reader of a value is. -/
inductive Mode where
  | text
  /-- Behind a backslash. -/
  | escape
  /-- Between single quotes. -/
  | strong
  /-- Behind a dollar sign, with the name so far. -/
  | name (name : List Char)
  /-- Behind a dollar sign and an opening brace, with the name so far. -/
  | braces (name : List Char)
  /-- Behind the value, where only a comment may follow. -/
  | ending
  /-- In the comment. -/
  | comment
deriving DecidableEq, Repr

/-- A value that is being read. -/
structure Scan where
  mode : Mode := .text
  /-- Between double quotes. -/
  quoted : Bool := false
  output : List Char := []
deriving DecidableEq, Repr

namespace Scan

/-- Add characters to the value. -/
def emit (s : Scan) (cs : List Char) : Scan := { s with output := s.output ++ cs }

/-- Go on in another mode. -/
def goto (s : Scan) (mode : Mode) : Scan := { s with mode }

/-- Add the value of a variable, which is empty if it has none. -/
def substitute (env : Environment) (name : List Char) (s : Scan) : Scan :=
  s.emit ((env.get? (String.ofList name)).getD "").toList

/-- The character that an escape stands for. -/
def escaped? : Char → Option Char
  | '\\' => some '\\'
  | '\'' => some '\''
  | '"' => some '"'
  | '$' => some '$'
  | ' ' => some ' '
  | 'n' => some '\n'
  | _ => none

/-- Read a character that is not part of anything begun before. -/
def stepText (s : Scan) (c : Char) : Scan :=
  if c = '$' then s.goto (.name [])
  else if s.quoted then
    if c = '"' then { s with quoted := false }
    else if c = '\\' then s.goto .escape
    else s.emit [c]
  else if c = '\'' then s.goto .strong
  else if c = '"' then { s with quoted := true }
  else if c = '\\' then s.goto .escape
  else if c = ' ' ∨ c = '\t' then s.goto .ending
  else s.emit [c]

/-- Read one more character of a value. -/
def step? (env : Environment) (s : Scan) (c : Char) : Option Scan :=
  match s.mode with
  | .text => some (s.stepText c)
  | .escape => (escaped? c).map fun x => (s.emit [x]).goto .text
  | .strong => some (if c = '\'' then s.goto .text else s.emit [c])
  | .name name =>
    if Text.isAlphanumeric c then some (s.goto (.name (name ++ [c])))
    else if c = '\x7b' ∧ name = [] then some (s.goto (.braces []))
    else
      let s := s.substitute env name
      some (if c = '$' then s.goto (.name []) else (s.emit [c]).goto .text)
  | .braces name =>
    some (if c = '\x7d' then (s.substitute env name).goto .text
      else s.goto (.braces (name ++ [c])))
  | .ending =>
    if c = ' ' ∨ c = '\t' then some s
    else if c = '#' then some (s.goto .comment)
    else none
  | .comment => some s

/-- The value at the end of its characters. -/
def finish? (env : Environment) (s : Scan) : Option (List Char) :=
  if s.quoted then none
  else match s.mode with
    | .strong | .braces _ => none
    | .name name => some (s.substitute env name).output
    | _ => some s.output

end Scan

/-- The value that characters stand for. -/
def value? (env : Environment) (cs : List Char) : Option String := do
  let s ← cs.foldlM (Scan.step? env) {}
  return String.ofList (← s.finish? env)

/-! ## Lines -/

/-- A character that may begin the name of a variable. -/
def isNameStart (c : Char) : Bool :=
  ('a' ≤ c && c ≤ 'z') || ('A' ≤ c && c ≤ 'Z') || c == '_'

/-- A character that may follow in the name of a variable. -/
def isNameChar (c : Char) : Bool := isNameStart c || ('0' ≤ c && c ≤ '9') || c == '.'

/-- The name of a variable, and the characters behind it and its blanks. -/
def name? (cs : List Char) : Option (String × List Char) :=
  match cs with
  | c :: _ =>
    if isNameStart c then
      some (String.ofList (cs.takeWhile isNameChar),
        (cs.dropWhile isNameChar).dropWhile Text.isBlank)
    else none
  | [] => none

/-- Nothing or a comment is left. -/
def isOver (cs : List Char) : Bool := cs.isEmpty || cs.head? == some '#'

/-- The name before an equals sign, behind the word `export` if it is not itself the name, and what
follows the sign. -/
def assignment? (cs : List Char) : Option (String × List Char) := do
  let (name, rest) ← name? cs
  match rest with
  | '=' :: rest => return (name, rest)
  | rest =>
    if name = "export" then
      match ← name? rest with
      | (name, '=' :: rest) => return (name, rest)
      | _ => none
    else none

/-- What a line says: nothing, or the value of a variable; `none` if the line is wrong. -/
def line? (env : Environment) (line : String) : Option (Option (String × String)) :=
  let cs := Text.trimChars line.toList
  if isOver cs then some none
  else do
    let (name, rest) ← assignment? cs
    let rest := rest.dropWhile Text.isBlank
    if isOver rest then return some (name, "")
    else return some (name, ← value? env rest)

/-- Set the variables of lines that have no value yet, and whether all lines were right. -/
def loadLines : Environment → List String → Environment × Bool
  | env, [] => (env, true)
  | env, line :: rest =>
    match line? env line with
    | none => (env, false)
    | some none => loadLines env rest
    | some (some (name, value)) => loadLines (env.setDefault name value) rest

/-- Set the variables of a text that have no value yet, and whether all lines were right. -/
def load (env : Environment) (text : String) : Environment × Bool :=
  loadLines env ((Text.parts (· == '\n') text.toList).map String.ofList)

/-! ## Choosing the file -/

/-- The variable that names the deployment. -/
def deploymentVariable : String := "RPCTESTER_ENVIRONMENT"

/-- The file of a deployment. -/
def fileName : Option String → String
  | some "production" => ".env-prod"
  | some "dev" => ".env-dev"
  | some "test" => ".env-test"
  | _ => ".env"

/-- Load the file of the deployment that the environment names, from the working directory or one
around it. The second part is the name of the file if it is there and all its lines are right. -/
def loadFrom (files : Files.Tree) (env : Environment) : Environment × Option String :=
  let name := fileName (env.nonBlank? deploymentVariable)
  match files.readUpward? name with
  | none => (env, none)
  | some text =>
    match load env text with
    | (env, true) => (env, some name)
    | (env, false) => (env, none)

end NodeAudit.Environment.File
