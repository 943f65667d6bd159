import NodeAudit.Cli.Session
import NodeAudit.Proofs.Collect

/-!
# What a command comes to

`Acts config command act` lists what a command that can go on does: with the settings, it is `act`.
It holds exactly of what `prepare` gives (`prepare_eq_ok_iff`), so that a proof about all commands
takes one case for each of them and has at hand what was found before anything is sent.
-/

namespace NodeAudit.Cli

variable {σ : Type} {config : Config} {command : Command}
  {act : Setting → Http.Network σ → σ → Session σ}

/-- With the settings, the command can go on and does this. -/
inductive Acts (config : Config) :
    Command → (Setting → Http.Network σ → σ → Session σ) → Prop where
  | overview : Acts config .overview fun setting _ => .only overviewLines setting
  | run {address? report? : Option String} {strict : Bool} {address : String}
      (ha : account config address? = .ok address) :
      Acts config (.run address? report? strict)
        (runSuite config address (report?.getD config.harness.reportPath) strict)
  | profileShow (n : Profile.Network) :
      Acts config (.profileShow n) fun setting _ => showProfile n setting
  | profileCheck : Acts config .profileCheck fun setting _ => checkProfiles setting
  | bench {method? address? : Option String} {requests? concurrency? : Option UInt64}
      {address : String} {method : Rpc.Method} {p : Bench.Plan}
      (ha : account config address? = .ok address)
      (hm : Rpc.Method.parse (method?.getD config.bench.method) = .ok method)
      (hp : plan config requests? concurrency? = .ok p) :
      Acts config (.bench method? address? requests? concurrency?)
        (runBench config method address p)
  | stress {address? report? : Option String} {requests? concurrency? : Option UInt64}
      {address : String} {p : Bench.Plan} (ha : account config address? = .ok address)
      (hp : plan config requests? concurrency? = .ok p) :
      Acts config (.stress address? requests? concurrency? report?)
        (runStress config address (report?.getD stressReportPath) p)
  | configValidate : Acts config .configValidate fun setting _ => validateConfig config setting

theorem prepare_eq_ok_iff : prepare config command = .ok act ↔ Acts config command act := by
  constructor
  · intro h
    cases command with
    | overview =>
      obtain rfl := Except.ok.inj h
      exact .overview
    | run address? report? strict =>
      obtain ⟨address, ha, hact⟩ := bind_eq_ok_iff.1 h
      obtain rfl := Except.ok.inj hact
      exact .run ha
    | profileShow n =>
      obtain rfl := Except.ok.inj h
      exact .profileShow n
    | profileCheck =>
      obtain rfl := Except.ok.inj h
      exact .profileCheck
    | bench method? address? requests? concurrency? =>
      obtain ⟨address, ha, hact⟩ := bind_eq_ok_iff.1 h
      obtain ⟨method, hm, hact⟩ := bind_eq_ok_iff.1 hact
      obtain ⟨p, hp, hact⟩ := bind_eq_ok_iff.1 hact
      obtain rfl := Except.ok.inj hact
      exact .bench ha hm hp
    | stress address? requests? concurrency? report? =>
      obtain ⟨address, ha, hact⟩ := bind_eq_ok_iff.1 h
      obtain ⟨p, hp, hact⟩ := bind_eq_ok_iff.1 hact
      obtain rfl := Except.ok.inj hact
      exact .stress ha hp
    | configValidate =>
      obtain rfl := Except.ok.inj h
      exact .configValidate
  · rintro (_ | ha | _ | _ | ⟨ha, hm, hp⟩ | ⟨ha, hp⟩ | _)
    · rfl
    · exact bind_eq_ok_iff.2 ⟨_, ha, rfl⟩
    · rfl
    · rfl
    · exact bind_eq_ok_iff.2 ⟨_, ha, bind_eq_ok_iff.2 ⟨_, hm, bind_eq_ok_iff.2 ⟨_, hp, rfl⟩⟩⟩
    · exact bind_eq_ok_iff.2 ⟨_, ha, bind_eq_ok_iff.2 ⟨_, hp, rfl⟩⟩
    · rfl

end NodeAudit.Cli
