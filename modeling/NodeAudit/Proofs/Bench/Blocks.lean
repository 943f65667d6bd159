import NodeAudit.Proofs.Bench.Average
import NodeAudit.Proofs.Bench.Stress

/-!
# Stress runs, block by block

A stress run benchmarks one block of sends after the other, each with the request of its method.
`StressEnds s blocks e` says that the run over the blocks may end so from `s`, whatever the schedule
within each block. `Covers` is what such a run keeps from block to block: every block has come to
its end where the next one begins, and the entries are those of the last blocks of the methods
(`Covers.record`, `StressEnds.covers`).

* `StressEnds.eq_none_iff`: a run ends with none exactly if the times of one block are too long.
* `StressReport.totalFailures_insert`: a new entry adds its failures.

Main statement: `stress_accounts_for_every_send`. `Plan.stress` follows one of the schedules
(`foldlM_stressEnds`).
-/

namespace NodeAudit.Bench

variable {σ : Type}

/-- What a stress run sends of one method. The identifier of its requests may differ from block to
block. -/
structure Block where
  method : Rpc.Method
  id : UInt64
deriving DecidableEq, Repr

/-- The request of a block. -/
def Block.request (address : String) (b : Block) : Rpc.Request := requestOf address b.id b.method

/-- The requests of the blocks, in order. -/
def requestsOf (plan : Plan) (address : String) (blocks : List Block) : List Rpc.Request :=
  blocks.flatMap fun b => List.replicate plan.requests (b.request address)

/-! ## The sends of blocks -/

section
variable (transport : Rpc.Transport σ) (plan : Plan) (address : String) (world : σ)

/-- What comes of the sends of the blocks. -/
def sendsOf (blocks : List Block) : List Rpc.Sent :=
  (transport.sendAll (requestsOf plan address blocks) world).1

/-- The state of the transport behind the blocks. -/
def worldBehind (blocks : List Block) : σ :=
  (transport.sendAll (requestsOf plan address blocks) world).2

/-- What comes of the sends of one block behind others. -/
def blockSends (before : List Block) (b : Block) : List Rpc.Sent :=
  answers transport (b.request address) (worldBehind transport plan address world before)
    plan.requests

theorem requestsOf_concat (done : List Block) (b : Block) :
    requestsOf plan address (done ++ [b])
      = requestsOf plan address done ++ List.replicate plan.requests (b.request address) := by
  rw [requestsOf, List.flatMap_append, List.flatMap_singleton, requestsOf]

theorem sendsOf_concat (done : List Block) (b : Block) :
    sendsOf transport plan address world (done ++ [b])
      = sendsOf transport plan address world done
        ++ blockSends transport plan address world done b := by
  rw [sendsOf, requestsOf_concat, Rpc.Transport.sendAll_append]
  rfl

theorem worldBehind_concat (done : List Block) (b : Block) :
    worldBehind transport plan address world (done ++ [b])
      = worldAfter transport (b.request address) (worldBehind transport plan address world done)
        plan.requests := by
  rw [worldBehind, requestsOf_concat, Rpc.Transport.sendAll_append]
  rfl

theorem length_requestsOf (blocks : List Block) :
    (requestsOf plan address blocks).length = blocks.length * plan.requests := by
  induction blocks with
  | nil => exact (Nat.zero_mul _).symm
  | cons b rest ih =>
    rw [requestsOf, List.flatMap_cons, List.length_append, List.length_replicate, ← requestsOf, ih,
      List.length_cons, Nat.succ_mul, Nat.add_comm]

theorem length_sendsOf (blocks : List Block) :
    (sendsOf transport plan address world blocks).length = blocks.length * plan.requests := by
  rw [sendsOf, Rpc.Transport.length_sendAll, length_requestsOf]

/-- The benchmark of a request has come to its end: all sends were started from the state `world`,
none is in flight, and the summary accounts for what came of them. -/
structure Finished (request : Rpc.Request) (p : Progress σ) : Prop where
  ends : Ends transport plan request { world } (some p)
  isDone : p.IsDone plan
  world_eq : p.world = worldAfter transport request world plan.requests
  accounts : Accounts p.summary (answers transport request world plan.requests)

end

theorem failureCount_append (l l' : List Rpc.Sent) :
    failureCount (l ++ l') = failureCount l + failureCount l' := List.countP_append

theorem Ends.finished {transport : Rpc.Transport σ} {plan : Plan} {request : Rpc.Request}
    {world : σ} {p : Progress σ} (h : Ends transport plan request { world } (some p)) :
    Finished transport plan world request p := by
  obtain ⟨hdone, haccounts⟩ := h.accounts .init p rfl
  refine ⟨h, hdone, ?_, haccounts⟩
  rw [h.world_eq .init p rfl, hdone.1]

/-! ## Runs over blocks -/

/-- The run when the benchmark of one more method has come to its end. -/
def StressRun.record (s : StressRun σ) (m : Rpc.Method) (p : Progress σ) : StressRun σ where
  world := p.world
  peak := max s.peak p.peak
  methods := s.methods.insert m.name (Figures.ofSummary p.summary)

/-- The report of the run. -/
def StressRun.report (transport : Rpc.Transport σ) (address : String) (s : StressRun σ) :
    StressReport where
  addressUsed := address
  network := redact transport.endpoint
  methods := s.methods

section
variable (transport : Rpc.Transport σ) (plan : Plan) (address : String)

/-- A run over the blocks may end so: with none if the times of a block are too long. -/
inductive StressEnds : StressRun σ → List Block → Option (StressRun σ) → Prop where
  | done (s : StressRun σ) : StressEnds s [] (some s)
  | overflow {s : StressRun σ} {b : Block} (rest : List Block)
      (h : Ends transport plan (b.request address) { world := s.world } none) :
      StressEnds s (b :: rest) none
  | block {s : StressRun σ} {b : Block} {p : Progress σ} {rest : List Block}
      {e : Option (StressRun σ)}
      (h : Ends transport plan (b.request address) { world := s.world } (some p))
      (hrest : StressEnds (s.record b.method p) rest e) : StressEnds s (b :: rest) e

/-- What holds when the blocks of a run from the state `world` of the transport are done. -/
structure Covers (world : σ) (done : List Block) (s : StressRun σ) : Prop where
  world_eq : s.world = worldBehind transport plan address world done
  /-- Every block came to its end; the last one of a method gives the entry. -/
  finished : ∀ before b after, done = before ++ b :: after →
    ∃ p, Finished transport plan (worldBehind transport plan address world before)
        (b.request address) p ∧
      ((∀ b' ∈ after, b'.method ≠ b.method) →
        s.methods.get? b.method.name = some (Figures.ofSummary p.summary))
  keys : ∀ name, name ∈ s.methods.map (·.1) ↔ ∃ b ∈ done, b.method.name = name
  increasing : s.methods.Pairwise fun e e' => e.1 < e'.1
  failures : (done.map (·.method)).Nodup →
    (s.report transport address).totalFailures
      = UInt64.ofNat (failureCount (sendsOf transport plan address world done))

end

/-! ## Failures of a report -/

theorem foldl_failures (entries : Entries Figures) (n : UInt64) :
    entries.foldl (fun n m => n + m.2.failures) n
      = entries.foldl (fun n m => n + m.2.failures) 0 + n := by
  induction entries generalizing n with
  | nil => exact (UInt64.zero_add n).symm
  | cons e rest ih =>
    rw [List.foldl_cons, List.foldl_cons, ih, ih (0 + e.2.failures), UInt64.zero_add,
      UInt64.add_assoc, UInt64.add_comm n]

theorem StressReport.totalFailures_insert {r : StressReport} {name : String}
    (h : name ∉ r.methods.map (·.1)) (f : Figures) :
    StressReport.totalFailures { r with methods := r.methods.insert name f }
      = r.totalFailures + f.failures := by
  have : RightCommutative fun (n : UInt64) (m : String × Figures) => n + m.2.failures := by
    refine ⟨fun n m m' => ?_⟩
    rw [UInt64.add_assoc, UInt64.add_comm m.2.failures, ← UInt64.add_assoc]
  rw [totalFailures, (Entries.insert_perm h f).foldl_eq, List.foldl_cons, foldl_failures,
    UInt64.zero_add]
  rfl

/-! ## What a block keeps -/

variable {transport : Rpc.Transport σ} {plan : Plan} {address : String} {world : σ}
  {done blocks : List Block} {s : StressRun σ}

namespace Covers

theorem init : Covers transport plan address world [] { world, peak := 0, methods := [] } where
  world_eq := rfl
  finished := by
    intro before b after h
    simp at h
  keys := by simp
  increasing := .nil
  failures := fun _ => rfl

/-- Of the methods of one more block than before there is an entry. -/
theorem keys_record (h : Covers transport plan address world done s) (b : Block)
    (p : Progress σ) (name : String) :
    name ∈ (s.record b.method p).methods.map (·.1) ↔ ∃ b' ∈ done ++ [b], b'.method.name = name := by
  simp only [StressRun.record, Entries.mem_keys_insert, h.keys, List.mem_append,
    List.mem_singleton]
  constructor
  · rintro (rfl | ⟨b', hb', rfl⟩)
    · exact ⟨b, .inr rfl, rfl⟩
    · exact ⟨b', .inl hb', rfl⟩
  · rintro ⟨b', hb' | rfl, rfl⟩
    · exact .inr ⟨b', hb', rfl⟩
    · exact .inl rfl

variable {b : Block} {p : Progress σ}

/-- The entry of the block at the end is new; of the blocks before it those entries stay whose
methods are not its own. -/
theorem finished_record (h : Covers transport plan address world done s)
    (hp : Finished transport plan (worldBehind transport plan address world done)
      (b.request address) p)
    (before : List Block) (b' : Block) (after : List Block)
    (hsplit : done ++ [b] = before ++ b' :: after) :
    ∃ q, Finished transport plan (worldBehind transport plan address world before)
        (b'.request address) q ∧
      ((∀ b'' ∈ after, b''.method ≠ b'.method) →
        (s.record b.method p).methods.get? b'.method.name
          = some (Figures.ofSummary q.summary)) := by
  rcases List.eq_nil_or_concat after with rfl | ⟨after, last, rfl⟩
  · obtain ⟨rfl, hb⟩ := List.append_inj' hsplit rfl
    obtain ⟨rfl, -⟩ := List.cons.inj hb
    exact ⟨p, hp, fun _ => Entries.get?_insert_self _ _ _⟩
  · rw [List.concat_eq_append, ← List.cons_append, ← List.append_assoc] at hsplit
    obtain ⟨hdone, hb⟩ := List.append_inj' hsplit rfl
    obtain ⟨rfl, -⟩ := List.cons.inj hb
    obtain ⟨q, hq, hentry⟩ := h.finished before b' after hdone
    refine ⟨q, hq, fun hlast => ?_⟩
    have hne : b'.method.name ≠ b.method.name := fun heq =>
      hlast b (by simp) (Rpc.Method.name_inj.1 heq).symm
    exact (Entries.get?_insert_of_ne hne _ _).trans
      (hentry fun b'' hb'' => hlast b'' (by simp [hb'']))

/-- The failures of a block of a new method are added. -/
theorem failures_record (h : Covers transport plan address world done s)
    (hp : Finished transport plan (worldBehind transport plan address world done)
      (b.request address) p)
    (hnodup : ((done ++ [b]).map (·.method)).Nodup) :
    ((s.record b.method p).report transport address).totalFailures
      = UInt64.ofNat (failureCount (sendsOf transport plan address world (done ++ [b]))) := by
  rw [List.map_append, List.map_singleton] at hnodup
  obtain ⟨hdone, -, hnew⟩ := List.nodup_append.1 hnodup
  have hkey : b.method.name ∉ (s.report transport address).methods.map (·.1) := by
    intro hmem
    obtain ⟨b', hb', heq⟩ := (h.keys _).1 hmem
    exact hnew b'.method (List.mem_map_of_mem hb') b.method (List.mem_singleton_self _)
      (Rpc.Method.name_inj.1 heq)
  have hfailures : (Figures.ofSummary p.summary).failures
      = UInt64.ofNat (failureCount (blockSends transport plan address world done b)) :=
    congrArg UInt64.ofNat hp.accounts.failures
  rw [sendsOf_concat, failureCount_append, UInt64.ofNat_add, ← h.failures hdone, ← hfailures]
  exact StressReport.totalFailures_insert hkey _

theorem record (h : Covers transport plan address world done s)
    (hp : Ends transport plan (b.request address) { world := s.world } (some p)) :
    Covers transport plan address world (done ++ [b]) (s.record b.method p) := by
  rw [h.world_eq] at hp
  have hfinished := hp.finished
  refine ⟨?_, h.finished_record hfinished, h.keys_record b p, ?_, h.failures_record hfinished⟩
  · rw [worldBehind_concat, ← hfinished.world_eq]
    rfl
  · exact Entries.pairwise_insert h.increasing _ _

end Covers

/-! ## What a run ends with -/

theorem StressEnds.covers {e : Option (StressRun σ)}
    (h : StressEnds transport plan address s blocks e)
    (hs : Covers transport plan address world done s) :
    ∀ s', e = some s' → Covers transport plan address world (done ++ blocks) s' := by
  induction h generalizing done with
  | done s =>
    rintro _ ⟨⟩
    rwa [List.append_nil]
  | overflow => rintro _ ⟨⟩
  | @block s b p rest e h _ ih =>
    rw [← List.singleton_append, ← List.append_assoc]
    exact ih (hs.record h)

/-- A run ends with none exactly if the sends of some block take more than the largest span. -/
theorem StressEnds.eq_none_iff {e : Option (StressRun σ)}
    (h : StressEnds transport plan address s blocks e)
    (hs : Covers transport plan address world done s) :
    e = none ↔ ∃ before b after, blocks = before ++ b :: after ∧
      Span.largest.toNanos
        < totalNanos (blockSends transport plan address world (done ++ before) b) := by
  induction h generalizing done with
  | done s => simp
  | @overflow s b rest h =>
    rw [hs.world_eq] at h
    have hlt := (h.eq_none_iff .init).1 rfl
    refine ⟨fun _ => ⟨[], b, rest, rfl, ?_⟩, fun _ => rfl⟩
    rwa [List.append_nil]
  | @block s b p rest e h _ ih =>
    rw [ih (hs.record h)]
    constructor
    · rintro ⟨before, b', after, rfl, hlt⟩
      refine ⟨b :: before, b', after, rfl, ?_⟩
      rwa [List.append_assoc] at hlt
    · rintro ⟨before, b', after, hsplit, hlt⟩
      cases before with
      | nil =>
        obtain ⟨rfl, -⟩ := List.cons.inj hsplit
        rw [List.append_nil] at hlt
        rw [hs.world_eq] at h
        exact absurd ((h.eq_none_iff .init).2 hlt) (by simp)
      | cons b₀ before =>
        obtain ⟨rfl, rfl⟩ := List.cons.inj hsplit
        exact ⟨before, b', after, rfl, by rwa [List.append_assoc]⟩

theorem exists_stressEnds (blocks : List Block) (s : StressRun σ) :
    ∃ e, StressEnds transport plan address s blocks e := by
  induction blocks generalizing s with
  | nil => exact ⟨_, .done s⟩
  | cons b rest ih =>
    have hinit : Inv transport plan (b.request address) s.world { world := s.world } := .init
    obtain ⟨e, he⟩ := hinit.exists_ends
    cases e with
    | none => exact ⟨none, .overflow rest he⟩
    | some p =>
      obtain ⟨e', he'⟩ := ih (s.record b.method p)
      exact ⟨e', .block he he'⟩

/-- `Plan.stress` follows one of the schedules. -/
theorem foldlM_stressEnds (pace : Pace) (id : UInt64) (methods : List Rpc.Method)
    (s : StressRun σ) :
    StressEnds transport plan address s (methods.map (⟨·, id⟩))
      (methods.foldlM (StressRun.add? plan transport pace address id) s) := by
  induction methods generalizing s with
  | nil => exact .done s
  | cons m rest ih =>
    have hends := plan.run_ends transport pace (requestOf address id m) s.world
    rw [List.foldlM_cons, List.map_cons, StressRun.add?, ← requestOf]
    cases hp : plan.run transport pace (requestOf address id m) s.world with
    | none => exact .overflow _ (b := ⟨m, id⟩) (hp ▸ hends)
    | some p => exact .block (b := ⟨m, id⟩) (hp ▸ hends) (ih (s.record m p))

theorem Plan.stress_eq (pace : Pace) (id : UInt64) (methods : List Rpc.Method) :
    plan.stress transport pace methods address id world
      = (methods.foldlM (StressRun.add? plan transport pace address id)
          { world, peak := 0, methods := [] }).map fun s => (s.report transport address, s) := by
  rw [stress]
  cases methods.foldlM (StressRun.add? plan transport pace address id)
    { world, peak := 0, methods := [] } <;> rfl

/-! ## The account of a run -/

/-- The entry of a method with a finished benchmark tells what came of its sends. -/
theorem Finished.figures {request : Rpc.Request} {p : Progress σ}
    (h : Finished transport plan world request p) (hn : plan.requests < UInt64.size) :
    (Figures.ofSummary p.summary).responses.toNat = plan.requests ∧
      (Figures.ofSummary p.summary).failures.toNat
        = failureCount (answers transport request world plan.requests) := by
  have hle : failureCount (answers transport request world plan.requests) ≤ plan.requests := by
    conv_rhs => rw [← length_answers transport request world plan.requests]
    exact List.countP_le_length
  rw [Figures.ofSummary, h.accounts.processed, h.accounts.failures, length_answers]
  exact ⟨UInt64.toNat_ofNat_of_lt hn, UInt64.toNat_ofNat_of_lt (Nat.lt_of_le_of_lt hle hn)⟩

/-- If no method is repeated the report counts the failures of all sends. -/
theorem Covers.totalFailures (h : Covers transport plan address world blocks s)
    (hnodup : (blocks.map (·.method)).Nodup) (hlt : blocks.length * plan.requests < UInt64.size) :
    (s.report transport address).totalFailures.toNat
        = failureCount (sendsOf transport plan address world blocks) ∧
      ((s.report transport address).totalFailures = 0 ↔
        ∀ sent ∈ sendsOf transport plan address world blocks, sent.isFailure = false) := by
  have hle : failureCount (sendsOf transport plan address world blocks) < UInt64.size := by
    refine Nat.lt_of_le_of_lt List.countP_le_length ?_
    rwa [length_sendsOf]
  have htotal : (s.report transport address).totalFailures.toNat
      = failureCount (sendsOf transport plan address world blocks) := by
    rw [h.failures hnodup]
    exact UInt64.toNat_ofNat_of_lt hle
  refine ⟨htotal, ?_⟩
  rw [← UInt64.toNat_inj, htotal, UInt64.toNat_zero, failureCount, List.countP_eq_zero]
  simp only [Bool.not_eq_true]

/-- **A stress run accounts for every method and every send.** The number of sends of a block fits a
word, as counts do. Every run ends, and with none exactly if the times of one block exceed the
largest span. Otherwise the report has an entry for each method of the list and for no other; every
block had come to its end where the next one began; the last block of a method gives its entry; and
if no method is repeated the report counts the failures of all sends. What is sent are so many
requests of each block, in order, with the name of its method and the parameters that the node
accepts for it. -/
theorem stress_accounts_for_every_send (transport : Rpc.Transport σ) (plan : Plan)
    (hn : plan.requests < UInt64.size) (address : String) (blocks : List Block) (world : σ) :
    (∃ e, StressEnds transport plan address { world, peak := 0, methods := [] } blocks e) ∧
    (∀ e, StressEnds transport plan address { world, peak := 0, methods := [] } blocks e →
      (e = none ↔ ∃ before b after, blocks = before ++ b :: after ∧
        Span.largest.toNanos < totalNanos (blockSends transport plan address world before b)) ∧
      ∀ s, e = some s →
        let report := s.report transport address
        let sends := sendsOf transport plan address world blocks
        (∀ name, name ∈ report.methods.map (·.1) ↔ ∃ b ∈ blocks, b.method.name = name) ∧
        (report.methods.Pairwise fun e e' => e.1 < e'.1) ∧
        (∀ before b after, blocks = before ++ b :: after →
          let sends := blockSends transport plan address world before b
          ∃ p, Finished transport plan (worldBehind transport plan address world before)
              (b.request address) p ∧
            p.world = worldBehind transport plan address world (before ++ [b]) ∧
            ((∀ b' ∈ after, b'.method ≠ b.method) → ∃ f,
              report.methods.get? b.method.name = some f ∧
              f.responses.toNat = plan.requests ∧ f.failures.toNat = failureCount sends ∧
              f.average = p.summary.average.text ∧ Accounts p.summary sends)) ∧
        ((blocks.map (·.method)).Nodup → blocks.length * plan.requests < UInt64.size →
          report.totalFailures.toNat = failureCount sends ∧
          (report.totalFailures = 0 ↔ ∀ sent ∈ sends, sent.isFailure = false))) ∧
    (∀ s, StressEnds transport.recording plan address
        { world := (world, []), peak := 0, methods := [] } blocks (some s) →
      s.world = (worldBehind transport plan address world blocks,
        blocks.flatMap fun b => List.replicate plan.requests
          { version := "2.0", method := b.method.name,
            params := b.method.defaultParams address, id := b.id })) ∧
    ∀ (pace : Pace) (methods : List Rpc.Method) (id : UInt64),
      StressEnds transport plan address { world, peak := 0, methods := [] }
        (methods.map (⟨·, id⟩))
        ((plan.stress transport pace methods address id world).map (·.2)) ∧
      ∀ r s, plan.stress transport pace methods address id world = some (r, s) →
        r = s.report transport address := by
  refine ⟨exists_stressEnds blocks _, fun e he => ⟨he.eq_none_iff .init, fun s hs => ?_⟩,
    fun s hs => ?_, fun pace methods id => ⟨?_, fun r s hs => ?_⟩⟩
  · have hcovers : Covers transport plan address world blocks s := he.covers .init s hs
    refine ⟨hcovers.keys, hcovers.increasing, fun before b after hsplit => ?_,
      hcovers.totalFailures⟩
    obtain ⟨p, hp, hentry⟩ := hcovers.finished before b after hsplit
    refine ⟨p, hp, hp.world_eq.trans (worldBehind_concat ..).symm, fun hlast => ?_⟩
    obtain ⟨hresponses, hfailures⟩ := hp.figures hn
    exact ⟨_, hentry hlast, hresponses, hfailures, rfl, hp.accounts⟩
  · have hcovers := hs.covers .init s rfl
    rw [hcovers.world_eq, worldBehind, Rpc.Transport.sendAll_recording]
    rfl
  · rw [Plan.stress_eq, Option.map_map, Function.comp_def, Option.map_id']
    exact foldlM_stressEnds pace id methods _
  · rw [Plan.stress_eq] at hs
    obtain ⟨s', -, heq⟩ := Option.map_eq_some_iff.1 hs
    obtain ⟨rfl, rfl⟩ := Prod.mk.inj heq
    rfl

/-- Three sends a block. Of a method that is listed twice the failures of the second block stay, and
the failures of two methods are those of all six sends. -/
theorem stress_accounts_for_every_send_everySecond :
    let node := everySecond Span.zero
    let plan : Plan := ⟨3, 2, by decide⟩
    let gasPrice : Rpc.Method := ⟨.gasPrice, .v2⟩
    let epoch : Rpc.Method := ⟨.epoch, .legacy⟩
    (∃ r s, plan.stress node .pending [gasPrice, gasPrice, epoch] "one1" 7 0 = some (r, s) ∧
      ∃ f, r.methods.get? "hmyv2_gasPrice" = some f ∧ f.responses.toNat = 3 ∧
        f.failures.toNat = 2) ∧
    ∃ r s, plan.stress node .pending [gasPrice, epoch] "one1" 7 0 = some (r, s) ∧
      r.totalFailures.toNat = 3 := by
  intro node plan gasPrice epoch
  have hn : plan.requests < UInt64.size := by decide
  constructor
  · obtain ⟨-, hends, -, hplan⟩ := stress_accounts_for_every_send node plan hn "one1"
      [⟨gasPrice, 7⟩, ⟨gasPrice, 7⟩, ⟨epoch, 7⟩] 0
    obtain ⟨hstress, hreport⟩ := hplan .pending [gasPrice, gasPrice, epoch] 7
    have hsome : (plan.stress node .pending [gasPrice, gasPrice, epoch] "one1" 7 0).isSome
        = true := by decide +kernel
    obtain ⟨⟨r, s⟩, hrs⟩ := Option.isSome_iff_exists.1 hsome
    rw [hrs] at hstress
    obtain ⟨-, -, hblocks, -⟩ := (hends _ hstress).2 s rfl
    obtain ⟨p, -, -, hentry⟩ := hblocks [⟨gasPrice, 7⟩] ⟨gasPrice, 7⟩ [⟨epoch, 7⟩] rfl
    obtain ⟨f, hf, hresponses, hfailures, -⟩ := hentry (by decide)
    refine ⟨r, s, hrs, f, ?_, hresponses, hfailures.trans (by decide +kernel)⟩
    rw [hreport r s hrs]
    exact hf
  · obtain ⟨-, hends, -, hplan⟩ := stress_accounts_for_every_send node plan hn "one1"
      [⟨gasPrice, 7⟩, ⟨epoch, 7⟩] 0
    obtain ⟨hstress, hreport⟩ := hplan .pending [gasPrice, epoch] 7
    have hsome : (plan.stress node .pending [gasPrice, epoch] "one1" 7 0).isSome = true := by
      decide +kernel
    obtain ⟨⟨r, s⟩, hrs⟩ := Option.isSome_iff_exists.1 hsome
    rw [hrs] at hstress
    obtain ⟨-, -, -, htotal⟩ := (hends _ hstress).2 s rfl
    refine ⟨r, s, hrs, ?_⟩
    rw [hreport r s hrs]
    exact (htotal (by decide) (by decide)).1.trans (by decide +kernel)

end NodeAudit.Bench
