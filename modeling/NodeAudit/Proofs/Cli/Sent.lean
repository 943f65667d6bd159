import NodeAudit.Proofs.Bench.Schedule
import NodeAudit.Proofs.Cli.Acts
import NodeAudit.Proofs.Suite.Run

/-!
# Where a session sends its requests

A transport keeps a property of its state if no send breaks it (`Transport.Keeps`); then no suite,
no benchmark and no stress run breaks it either (`Keeps.sendAll`, `Keeps.run`, `Keeps.stress`). A
watched network also lists what goes through it, so that what was sent is a property of the state
(`sentTo_keeps`).

Main statement: `perform_sendsTo`. Whatever the network answers, a session sends nothing but to the
address of the node that its configuration holds.
-/

namespace NodeAudit

variable {σ : Type}

/-! ## What sends keep -/

/-- No send breaks the property of the state. -/
def Rpc.Transport.Keeps (transport : Rpc.Transport σ) (I : σ → Prop) : Prop :=
  ∀ world request, I world → I (transport.send world request).2

namespace Rpc.Transport.Keeps

variable {transport : Rpc.Transport σ} {I : σ → Prop} {world : σ}

theorem sendAll (h : transport.Keeps I) (requests : List Rpc.Request) (hw : I world) :
    I (transport.sendAll requests world).2 := by
  induction requests generalizing world with
  | nil => exact hw
  | cons r rest ih => exact ih (h world r hw)

theorem run (h : transport.Keeps I) {plan : Bench.Plan} {pace : Bench.Pace} {request : Rpc.Request}
    {p : Bench.Progress σ} (hp : plan.run transport pace request world = some p) (hw : I world) :
    I p.world := by
  have hends := plan.run_ends transport pace request world
  rw [hends.world_eq .init p hp]
  exact h.sendAll _ hw

theorem add? (h : transport.Keeps I) {plan : Bench.Plan} {pace : Bench.Pace} {address : String}
    {id : UInt64} {s s' : Bench.StressRun σ} {m : Rpc.Method}
    (hs : s.add? plan transport pace address id m = some s') (hw : I s.world) : I s'.world := by
  obtain ⟨p, hp, hs'⟩ := Option.bind_eq_some_iff.1 hs
  obtain rfl := Option.some.inj hs'
  exact h.run hp hw

theorem addAll (h : transport.Keeps I) {plan : Bench.Plan} {pace : Bench.Pace} {address : String}
    {id : UInt64} {methods : List Rpc.Method} {s s' : Bench.StressRun σ}
    (hs : methods.foldlM (Bench.StressRun.add? plan transport pace address id) s = some s')
    (hw : I s.world) : I s'.world := by
  induction methods generalizing s with
  | nil =>
    obtain rfl := Option.some.inj hs
    exact hw
  | cons m rest ih =>
    rw [List.foldlM_cons] at hs
    obtain ⟨s₁, hadd, hrest⟩ := Option.bind_eq_some_iff.1 hs
    exact ih hrest (h.add? hadd hw)

theorem stress (h : transport.Keeps I) {plan : Bench.Plan} {pace : Bench.Pace}
    {methods : List Rpc.Method} {address : String} {id : UInt64} {r : Bench.StressReport}
    {s : Bench.StressRun σ}
    (hs : plan.stress transport pace methods address id world = some (r, s)) (hw : I world) :
    I s.world := by
  obtain ⟨s', hadd, hr⟩ := Option.bind_eq_some_iff.1 hs
  obtain ⟨-, rfl⟩ := Prod.mk.inj (Option.some.inj hr)
  exact h.addAll hadd hw

end Rpc.Transport.Keeps

/-! ## Watched networks -/

namespace Http

/-- The network that also lists what goes through it. -/
def watched (network : Network σ) : Network (σ × List Post) := fun post (world, posts) =>
  let (x, world) := network post world
  (x, world, posts ++ [post])

/-- Everything went to the address. -/
def SentTo (address : String) (posts : List Post) : Prop :=
  ∀ p ∈ posts, destination address = .ok p.url

theorem sentTo_keeps (network : Network σ) (address : String) (timeout : Span) :
    (transport (watched network) address timeout).Keeps fun w => SentTo address w.2 := by
  intro world request hw
  simp only [transport]
  cases hd : destination address with
  | error f => exact hw
  | ok url =>
    intro p hp
    rcases List.mem_append.1 hp with hp | hp
    · exact hw p hp
    · obtain rfl := List.mem_singleton.1 hp
      exact hd

end Http

/-! ## Sessions -/

namespace Cli

variable {network : Http.Network σ}

section
variable {config : Config} {address path : String} {strict : Bool} {setting : Setting}
  {network : Http.Network σ} {world world' : σ} {outcomes : List Suite.Outcome}

theorem runSuite_eq
    (h : Suite.runAll (Http.transport network config.harness.netUrl config.harness.requestTimeout)
      { strictEnvelope := strict || config.harness.strictEnvelope } setting.clock
      (Suite.fullSuite address) world = (outcomes, world')) :
    runSuite config address path strict setting network world =
      let r := Suite.Report.ofOutcomes address (redact config.harness.netUrl) setting.now outcomes
      match setting.files.write path r.pretty with
      | .error e =>
        { Session.failed (.ofIo e.message) setting world' with
          out := r.metrics.flatMap metricLines }
      | .ok files =>
        { exit := if r.failed = 0 then 0 else 1,
          out := r.metrics.flatMap metricLines ++ summaryLines r.passed r.failed path, files,
          world := world' } := by
  rw [runSuite, h]
  rfl

theorem world_runSuite
    (h : Suite.runAll (Http.transport network config.harness.netUrl config.harness.requestTimeout)
      { strictEnvelope := strict || config.harness.strictEnvelope } setting.clock
      (Suite.fullSuite address) world = (outcomes, world')) :
    (runSuite config address path strict setting network world).world = world' := by
  rw [runSuite_eq h]
  dsimp only
  split
  all_goals rfl

end

section
variable (config : Config) (address report : String) (setting : Setting)
  (network : Http.Network σ) {I : σ → Prop} {world : σ}

theorem runSuite_keeps (strict : Bool)
    (h : (Http.transport network config.harness.netUrl config.harness.requestTimeout).Keeps I)
    (hw : I world) : I (runSuite config address report strict setting network world).world := by
  rw [world_runSuite (Prod.eta _).symm, Suite.runAll, Suite.runPrepared_eq]
  exact h.sendAll _ hw

theorem runBench_keeps (method : Rpc.Method) (plan : Bench.Plan)
    (h : (Http.transport network config.harness.netUrl config.harness.requestTimeout).Keeps I)
    (hw : I world) : I (runBench config method address plan setting network world).world := by
  unfold runBench
  dsimp only
  split
  · exact hw
  · rename_i p hp
    exact h.run hp hw

theorem runStress_keeps (plan : Bench.Plan)
    (h : (Http.transport network config.harness.netUrl config.harness.requestTimeout).Keeps I)
    (hw : I world) : I (runStress config address report plan setting network world).world := by
  unfold runStress
  dsimp only
  split
  · exact hw
  · rename_i r s hs
    have hsent := h.stress hs hw
    split
    · exact hsent
    · exact hsent

end

/-- What a command that can go on sends keeps what the transport to the node keeps. -/
theorem Acts.keeps {config : Config} {command : Command}
    {act : Setting → Http.Network σ → σ → Session σ} (ha : Acts config command act)
    {I : σ → Prop} {world : σ} (setting : Setting)
    (h : (Http.transport network config.harness.netUrl config.harness.requestTimeout).Keeps I)
    (hw : I world) : I (act setting network world).world := by
  cases ha with
  | overview => exact hw
  | run => exact runSuite_keeps config _ _ setting network _ h hw
  | profileShow n =>
    dsimp only [showProfile]
    split
    · exact hw
    · exact hw
  | profileCheck => exact hw
  | bench => exact runBench_keeps config _ setting network _ _ h hw
  | stress => exact runStress_keeps config _ _ setting network _ h hw
  | configValidate => exact hw

theorem perform_sendsTo (arguments : Arguments) (setting : Setting) (network : Http.Network σ)
    (world : σ) {config : Config}
    (hc : configuration arguments setting.environment setting.files = .ok config) :
    Http.SentTo config.harness.netUrl
      (perform arguments setting (Http.watched network) (world, [])).world.2 := by
  have hnil : Http.SentTo config.harness.netUrl [] := fun p hp => by cases hp
  unfold perform
  rw [hc]
  dsimp only
  split
  · exact hnil
  · rename_i act hact
    exact (prepare_eq_ok_iff.1 hact).keeps setting (Http.sentTo_keeps network _ _) hnil

end Cli

end NodeAudit
