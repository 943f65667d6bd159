import NodeAudit.Failure

/-!
# Networks

The networks that have a profile, their constants, and the names of the variables that describe
them. The names of two networks begin differently, so that no variable belongs to both.
-/

namespace NodeAudit.Profile

/-- A network with a profile. -/
inductive Network where
  | localnet
  | devnet
  | mainnet0
deriving DecidableEq, Repr

namespace Network

/-- All networks. -/
def all : List Network := [localnet, devnet, mainnet0]

/-- The name of the network. -/
def name : Network → String
  | localnet => "localnet"
  | devnet => "devnet"
  | mainnet0 => "mainnet0"

/-- The name of the network on display. -/
def label : Network → String
  | localnet => "Localnet"
  | devnet => "Devnet"
  | mainnet0 => "Mainnet0"

/-- What the names of the network's variables begin with. -/
def variableTag : Network → String
  | localnet => "LOCAL"
  | devnet => "DEVNET"
  | mainnet0 => "MAINNET"

/-- The identifier of the network. -/
def networkId : Network → String
  | localnet | devnet => "2"
  | mainnet0 => "1"

/-- The shard that a provider uses. -/
def shardId (_ : Network) : UInt32 := 0

/-- The chain of the network. -/
def chainId : Network → UInt32
  | localnet | devnet => 2
  | mainnet0 => 1

/-- The variable that holds the mnemonic. -/
def mnemonicVariable (n : Network) : String := n.variableTag ++ "_MNEMONIC"

/-- The variable that holds the private key. -/
def privateKeyVariable (n : Network) : String := n.variableTag ++ "_PRIVATE_KEY"

/-- The variable that holds the address of the node. -/
def urlVariable (n : Network) : String := n.variableTag ++ "_0_URL"

/-- The text in small ASCII letters. -/
def foldCase (s : String) : String := String.ofList (s.toList.map Char.toLower)

/-- The network with exactly this name. -/
def ofName? (name : String) : Option Network := all.find? fun n => n.name == name

/-- The network with the name in any case of ASCII letters, or the failure of an unknown one. -/
def parse (name : String) : Except Failure Network :=
  match all.find? fun n => n.name == foldCase name with
  | some n => .ok n
  | none => .error (.configuration ("Unknown network: " ++ name))

/-- The networks with their names. -/
def options : List (String × Network) := all.map fun n => (n.name, n)

/-- Read a network. -/
def decode (d : Document) : Decoded Network := d.choice options

end Network

end NodeAudit.Profile
