import NodeAudit.Decimal.Unsigned
import NodeAudit.Profile.Network

/-!
# Command lines

A command line names a command, some of which have commands of their own, and gives options. The
options of the whole program may stand before or after the name of a command; the others belong to
one command. `Reading.push` takes one argument after the other, and `Arguments.read` the whole line.

An option may be given once at each level, its value in the same argument behind an equals sign or
in the next one, which must then not look like an option. After `--` nothing is an option or a
command.
-/

namespace NodeAudit.Cli

/-- Why a command line asks for nothing to be done. -/
inductive Stop
  | help
  | version
  | usage
deriving DecidableEq, Repr

/-! ## Levels -/

/-- What may follow the name of a command. -/
structure Level where
  /-- The options with a value, and which values each takes. -/
  valued : List (String × (String → Bool)) := []
  flags : List String := []
  /-- Which values stand without an option, in order. -/
  operands : List (String → Bool) := []
  commands : List String := []

/-- Any value. -/
def isAny (_ : String) : Bool := true

/-- A number of requests. -/
def isCount (s : String) : Bool := (Decimal.unsigned? s).isSome

/-- The name of a network. -/
def isNetwork (s : String) : Bool := (Profile.Network.ofName? s).isSome

/-- The name of a format of the log. -/
def isLogFormat (s : String) : Bool := s == "standard" || s == "json"

/-- The options of the whole program. -/
def commonOptions : List (String × (String → Bool)) :=
  [("net-url", isAny), ("config", isAny), ("logging-format", isLogFormat)]

/-- The options of the commands themselves, and the commands and operands that they take. -/
def ownLevel : List String → Level
  | [] => { commands := ["run", "profile", "bench", "stress", "config"] }
  | ["run"] => { valued := [("address", isAny), ("report", isAny)], flags := ["strict"] }
  | ["profile"] => { commands := ["show", "check"] }
  | ["profile", "show"] => { operands := [isNetwork] }
  | ["bench"] =>
    { valued := [("method", isAny), ("address", isAny), ("requests", isCount),
        ("concurrency", isCount)] }
  | ["stress"] =>
    { valued := [("address", isAny), ("requests", isCount), ("concurrency", isCount),
        ("report", isAny)] }
  | ["config"] => { commands := ["validate"] }
  | _ => {}

/-- What may follow the commands of a path. -/
def level (path : List String) : Level :=
  let own := ownLevel path
  { own with valued := own.valued ++ commonOptions }

/-! ## Reading -/

/-- A command line as far as it is read. -/
structure Reading where
  /-- The commands named, the outermost first. -/
  path : List String := []
  /-- The options with values given at the level of the last command. -/
  values : List (String × String) := []
  flags : List String := []
  operands : List String := []
  /-- The options with values given before the last command. -/
  outer : List (String × String) := []
  /-- The option that waits for its value. -/
  awaiting? : Option String := none
  /-- Nothing that follows is an option or a command. -/
  isLiteral : Bool := false
  /-- The commands that help is asked about. -/
  help? : Option (List String) := none
deriving DecidableEq, Repr

namespace Reading

/-- What may follow. -/
def level (r : Reading) : Level := Cli.level r.path

/-- Give an option its value. -/
def give (r : Reading) (name value : String) : Except Stop Reading :=
  match r.level.valued.lookup name with
  | some accepts =>
    if accepts value ∧ (r.values.lookup name).isNone then
      .ok { r with values := (name, value) :: r.values, awaiting? := none }
    else .error .usage
  | none => .error .usage

/-- Name a command. -/
def enter (r : Reading) (name : String) : Reading :=
  { path := r.path ++ [name], outer := r.values ++ r.outer }

/-- Take an operand. -/
def operand (r : Reading) (value : String) : Except Stop Reading :=
  match r.level.operands[r.operands.length]? with
  | some accepts =>
    if accepts value then .ok { r with operands := r.operands ++ [value] } else .error .usage
  | none => .error .usage

/-- Take a long option without a value in its argument. -/
def longOption (r : Reading) (name : String) : Except Stop Reading :=
  if name = "help" then .error .help
  else if name = "version" ∧ r.path = [] then .error .version
  else if name ∈ r.level.flags ∧ name ∉ r.flags then .ok { r with flags := name :: r.flags }
  else if (r.level.valued.lookup name).isSome ∧ (r.values.lookup name).isNone then
    .ok { r with awaiting? := some name }
  else .error .usage

/-- Take short options; there are only two, and neither takes a value. -/
def shortOption (r : Reading) (name : Char) : Except Stop Reading :=
  if name = 'h' then .error .help
  else if name = 'V' ∧ r.path = [] then .error .version
  else .error .usage

/-- Take the name of a command that help is asked about. -/
def helpOn (r : Reading) (topic : List String) (name : String) : Except Stop Reading :=
  let commands := (Cli.level topic).commands
  if name ∈ commands then .ok { r with help? := some (topic ++ [name]) }
  else if name = "help" ∧ commands ≠ [] then .ok r
  else .error .usage

/-- Take an argument that may be an option or a command. -/
def free (r : Reading) (argument : String) : Except Stop Reading :=
  match argument.toList with
  | ['-', '-'] => .ok { r with isLiteral := true }
  | '-' :: '-' :: cs =>
    match cs.dropWhile (· != '=') with
    | _ :: value => r.give (String.ofList (cs.takeWhile (· != '='))) (String.ofList value)
    | [] => r.longOption (String.ofList cs)
  | '-' :: c :: _ => r.shortOption c
  | _ =>
    if argument ∈ r.level.commands then .ok (r.enter argument)
    else if argument = "help" ∧ r.level.commands ≠ [] then .ok { r with help? := some r.path }
    else r.operand argument

/-- Whether an argument looks like an option. -/
def looksLikeOption (argument : String) : Bool :=
  match argument.toList with
  | '-' :: _ :: _ => true
  | _ => false

/-- Take one more argument. -/
def push (r : Reading) (argument : String) : Except Stop Reading :=
  match r.help?, r.awaiting? with
  | some topic, _ => r.helpOn topic argument
  | none, some name => if looksLikeOption argument then .error .usage else r.give name argument
  | none, none => if r.isLiteral then r.operand argument else r.free argument

/-- The value of an option of the last command. -/
def value? (r : Reading) (name : String) : Option String := r.values.lookup name

/-- The value of an option of the whole program; the one given last counts. -/
def common? (r : Reading) (name : String) : Option String := (r.values ++ r.outer).lookup name

/-- The value of an option that takes a number. -/
def count? (r : Reading) (name : String) : Option UInt64 := (r.value? name).bind Decimal.unsigned?

end Reading

/-! ## Arguments -/

/-- What a command line asks for. -/
inductive Command
  | overview
  | run (address? report? : Option String) (strict : Bool)
  | profileShow (network : Profile.Network)
  | profileCheck
  | bench (method? address? : Option String) (requests? concurrency? : Option UInt64)
  | stress (address? : Option String) (requests? concurrency? : Option UInt64)
      (report? : Option String)
  | configValidate
deriving DecidableEq, Repr

/-- A command with the options of the whole program. -/
structure Arguments where
  command : Command
  netUrl? : Option String := none
  config? : Option String := none
deriving DecidableEq, Repr

/-- The command of a line that is read to its end. -/
def Reading.command (r : Reading) : Except Stop Command :=
  match r.path with
  | [] => .ok .overview
  | ["run"] => .ok (.run (r.value? "address") (r.value? "report") (r.flags.contains "strict"))
  | ["profile", "show"] =>
    match r.operands.head?.bind Profile.Network.ofName? with
    | some n => .ok (.profileShow n)
    | none => .error .usage
  | ["profile", "check"] => .ok .profileCheck
  | ["bench"] =>
    .ok (.bench (r.value? "method") (r.value? "address") (r.count? "requests")
      (r.count? "concurrency"))
  | ["stress"] =>
    .ok (.stress (r.value? "address") (r.count? "requests") (r.count? "concurrency")
      (r.value? "report"))
  | ["config", "validate"] => .ok .configValidate
  | _ => .error .usage

/-- The arguments of a line that is read to its end. -/
def Reading.arguments (r : Reading) : Except Stop Arguments :=
  match r.help?, r.awaiting? with
  | some _, _ => .error .help
  | none, some _ => .error .usage
  | none, none => do
    return { command := ← r.command, netUrl? := r.common? "net-url", config? := r.common? "config" }

/-- Read a command line. -/
def Arguments.read (line : List String) : Except Stop Arguments := do
  (← line.foldlM Reading.push {}).arguments

end NodeAudit.Cli
