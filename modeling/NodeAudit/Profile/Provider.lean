import NodeAudit.Profile.Resolve

/-!
# Handing a profile over

A provider takes over a network: it is connected with the profile, and if the profile has a private
key the key is imported and its account made the signer. `handOver` tells which calls were made and
what came of them; a call that fails is the last.
-/

namespace NodeAudit.Profile

/-- The shard and the chain that a provider is for. -/
structure ChainOptions where
  shardId : UInt32
  chainId : UInt32
deriving DecidableEq, Repr

/-- The shard and the chain of a profile. -/
def NetworkProfile.chainOptions (p : NetworkProfile) : ChainOptions :=
  ⟨p.network.shardId, p.network.chainId⟩

/-- What connects providers of type `π`, whose accounts are of type `α`. -/
structure Factory (π α : Type) where
  connect : String → Credential → ChainOptions → Gas → Except Failure π
  addCredential : π → String → Except Failure (α × π)
  setSigner : π → α → π

/-- A call to a factory or its provider. -/
inductive Call (α : Type) where
  | connect (url : String) (credential : Credential) (chain : ChainOptions) (gas : Gas)
  | addCredential (key : String)
  | setSigner (account : α)
deriving Repr

variable {π α : Type}

/-- Connect a provider with the profile. The first part lists the calls in order. -/
def handOver (factory : Factory π α) (p : NetworkProfile) : List (Call α) × Except Failure π :=
  let connect := Call.connect p.endpointUrl p.credential p.chainOptions p.gas
  match factory.connect p.endpointUrl p.credential p.chainOptions p.gas with
  | .error f => ([connect], .error f)
  | .ok provider =>
    match p.credential.privateKey with
    | none => ([connect], .ok provider)
    | some key =>
      match factory.addCredential provider key with
      | .error f => ([connect, .addCredential key], .error f)
      | .ok (account, provider) =>
        ([connect, .addCredential key, .setSigner account],
          .ok (factory.setSigner provider account))

/-- Resolve the network and connect a provider with its profile. -/
def resolveAndHandOver (env : Environment) (n : Network) (factory : Factory π α) :
    List (Call α) × Except Failure π :=
  match resolve env n with
  | .ok p => handOver factory p
  | .error f => ([], .error f)

end NodeAudit.Profile
