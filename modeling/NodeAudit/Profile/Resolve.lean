import NodeAudit.Profile.Credential
import NodeAudit.Profile.Gas
import NodeAudit.Profile.Network

/-!
# Resolving profiles

The profile of a network is what its variables say: the address of the node, a credential and the
gas settings. `problems` lists everything that is wrong with the variables, in a fixed order;
`resolve` fails with all of it, or builds the profile.
-/

namespace NodeAudit.Profile

/-- Everything that a provider needs to know of a network. -/
structure NetworkProfile where
  network : Network
  endpointUrl : String
  credential : Credential
  gas : Gas
deriving DecidableEq, Repr

namespace NetworkProfile

/-- The profile on display. -/
def shown (p : NetworkProfile) : Text.Shown :=
  .record "NetworkProfile" [("network", .text p.network.label),
    ("network_id", .text (Text.quoted p.network.networkId)),
    ("endpoint_url", .text (Text.quoted p.endpointUrl)),
    ("credential", p.credential.shown),
    ("shard_id", .text (Decimal.ofNat p.network.shardId.toNat)),
    ("chain_id", .text (Decimal.ofNat p.network.chainId.toNat)),
    ("gas", p.gas.shown)]

end NetworkProfile

/-! ## Problems -/

/-- The address of the node is missing. -/
def urlProblem? (env : Environment) (n : Network) : Option String :=
  match env.nonBlank? n.urlVariable with
  | some _ => none
  | none => some (n.urlVariable ++ " is not set")

/-- There is neither a mnemonic nor a private key, or the private key is none. -/
def credentialProblem? (env : Environment) (n : Network) : Option String :=
  match env.nonBlank? n.mnemonicVariable, env.nonBlank? n.privateKeyVariable with
  | none, none =>
    some ("neither " ++ n.mnemonicVariable ++ " nor " ++ n.privateKeyVariable ++ " is set")
  | _, some key => (keyProblem? key).map fun p => n.privateKeyVariable ++ " " ++ p.message
  | some _, none => none

/-- Everything that is wrong with the variables of the network. -/
def problems (env : Environment) (n : Network) : List String :=
  (urlProblem? env n).toList ++ (credentialProblem? env n).toList ++ Gas.problems env

/-! ## Profiles -/

/-- The value of a variable, or the failure of one that is not set. -/
def require (env : Environment) (name : String) : Except Failure String :=
  match env.nonBlank? name with
  | some v => .ok v
  | none => .error (.configuration (name ++ " is not set"))

/-- The profile of the network, read without looking for problems first. -/
def read (env : Environment) (n : Network) : Except Failure NetworkProfile := do
  let endpointUrl ← require env n.urlVariable
  let credential ← Credential.make (env.nonBlank? n.mnemonicVariable)
    (env.nonBlank? n.privateKeyVariable)
  let gas ← Gas.ofEnvironment env
  return { network := n, endpointUrl, credential, gas }

/-- The profile of the network, or the failure of all its problems. -/
def resolve (env : Environment) (n : Network) : Except Failure NetworkProfile :=
  match problems env n with
  | [] => read env n
  | ps => .error (.configuration (n.name ++ ": " ++ String.intercalate "; " ps))

/-- The profiles of all networks, or the failure of the first that has none. -/
def resolveAll (env : Environment) : Except Failure (List NetworkProfile) :=
  Network.all.mapM (resolve env)

end NodeAudit.Profile
