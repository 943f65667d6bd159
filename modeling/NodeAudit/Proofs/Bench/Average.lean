import NodeAudit.Proofs.Bench.Schedule
import NodeAudit.Proofs.Span

/-!
# The average is the mean

The average of a summary is the sum of the times divided by the number of successes, rounded down to
a nanosecond (`Summary.toNanos_average`). A machine that divides seconds and nanoseconds as words
comes to the same, since nothing that it computes on the way exceeds its word (`Span.div_fits`,
`Span.divWords_eq`). What a summary accounts for determines the average: it lies between the
shortest and the longest time of a success (`Accounts.average_between`), and the times of failures
have no bearing on it (`SameSuccesses.accounts`). Figures hold the text of the average, from which
it can be told.

Main statements: `average_is_mean` and `average_text_exact`.
-/

namespace NodeAudit

/-! ## Division in words -/

namespace Span

/-- The parts of a span divided, in words of 64 bits for the seconds and of 32 bits for the
nanoseconds, all of which wrap. -/
def divWords (t : Span) (n : UInt32) : UInt64 × UInt32 :=
  let seconds := UInt64.ofNat t.seconds
  let nanos := UInt32.ofNat t.nanos
  (seconds / n.toUInt64,
    nanos / n + ((seconds % n.toUInt64 * 1000000000 + (nanos % n).toUInt64) / n.toUInt64).toUInt32)

/-- The remainder of the seconds fits a word with the nanoseconds. -/
theorem div_fits (t : Span) {n : Nat} (hn : 0 < n) (hlt : n < UInt32.size) :
    t.seconds % n * 1000000000 + t.nanos % n < UInt64.size := by
  have hseconds := Nat.mod_lt t.seconds hn
  have hnanos := Nat.mod_le t.nanos n
  have hnanos_lt := t.nanos_lt
  simp only [UInt32.size, UInt64.size] at hlt ⊢
  omega

theorem divWords_eq (t : Span) {n : UInt32} (hn : 0 < n.toNat) :
    (t.divWords n).1.toNat = (t.div n.toNat hn).seconds ∧
      (t.divWords n).2.toNat = (t.div n.toNat hn).nanos := by
  have hseconds : (UInt64.ofNat t.seconds).toNat = t.seconds := UInt64.toNat_ofNat_of_lt t.seconds_lt
  have hnanos : (UInt32.ofNat t.nanos).toNat = t.nanos :=
    UInt32.toNat_ofNat_of_lt (Nat.lt_trans t.nanos_lt (by decide))
  have hfits := t.div_fits hn n.toNat_lt_size
  have hlt := (t.div n.toNat hn).nanos_lt
  simp only [div] at hlt
  -- no intermediate value wraps
  have hproduct : t.seconds % n.toNat * 1000000000 % 2 ^ 64 = t.seconds % n.toNat * 1000000000 :=
    Nat.mod_eq_of_lt (Nat.lt_of_le_of_lt (Nat.le_add_right _ _) hfits)
  have hsum : (t.seconds % n.toNat * 1000000000 + t.nanos % n.toNat) % 2 ^ 64
      = t.seconds % n.toNat * 1000000000 + t.nanos % n.toNat := Nat.mod_eq_of_lt hfits
  constructor
  · rw [divWords, UInt64.toNat_div, hseconds, UInt32.toNat_toUInt64]
    rfl
  · have hbillion : UInt64.toNat 1000000000 = 1000000000 := by decide
    simp only [divWords, div, UInt32.toNat_add, UInt32.toNat_div, hnanos, UInt64.toNat_toUInt32,
      UInt64.toNat_div, UInt64.toNat_add, UInt64.toNat_mul, UInt64.toNat_mod, hseconds,
      UInt32.toNat_toUInt64, UInt32.toNat_mod, hbillion, hproduct, hsum]
    generalize (t.seconds % n.toNat * 1000000000 + t.nanos % n.toNat) / n.toNat = carry at hlt ⊢
    generalize t.nanos / n.toNat = nanos at hlt ⊢
    omega

end Span

namespace Bench

variable {σ : Type}

/-! ## The mean of the successes -/

theorem Summary.succeeded_eq {s : Summary} {n : Nat} (h : s.processed = s.failures + n) :
    s.succeeded = n := by
  rw [succeeded, h, Nat.add_sub_cancel_left]

theorem Summary.average_eq {s : Summary} (hpos : 0 < s.succeeded) (hlt : s.succeeded < UInt32.size) :
    s.average = s.total.div s.succeeded hpos := dif_pos ⟨hpos, hlt⟩

theorem Summary.toNanos_average {s : Summary} (hpos : 0 < s.succeeded)
    (hlt : s.succeeded < UInt32.size) : s.average.toNanos = s.total.toNanos / s.succeeded := by
  rw [average_eq hpos hlt, Span.toNanos_div]

theorem Summary.average_eq_zero {s : Summary} (h : s.processed ≤ s.failures) :
    s.average = Span.zero := by
  have hnone : s.succeeded = 0 := Nat.sub_eq_zero_of_le h
  exact dif_neg fun hpos => Nat.ne_of_gt hpos.1 hnone

/-- The nanoseconds of each send that succeeded. -/
def successTimes (sends : List Rpc.Sent) : List Nat :=
  (sends.filter fun sent => !sent.isFailure).map fun sent => sent.duration.toNanos

theorem sum_successTimes (sends : List Rpc.Sent) : (successTimes sends).sum = totalNanos sends := by
  induction sends with
  | nil => rfl
  | cons sent rest ih =>
    rw [totalNanos, List.map_cons, List.sum_cons, ← totalNanos, ← ih, countedNanos, successTimes]
    cases hfail : sent.isFailure <;> simp [hfail, successTimes]

theorem length_successTimes (sends : List Rpc.Sent) :
    failureCount sends + (successTimes sends).length = sends.length := by
  rw [successTimes, List.length_map, ← List.countP_eq_length_filter, failureCount,
    List.length_eq_countP_add_countP (·.isFailure)]
  simp

namespace Accounts

variable {s s' : Summary} {l l' : List Rpc.Sent}

theorem succeeded (h : Accounts s l) : s.succeeded = (successTimes l).length := by
  apply Summary.succeeded_eq
  rw [h.processed, h.failures, length_successTimes]

theorem toNanos_average (h : Accounts s l) (hpos : 0 < (successTimes l).length)
    (hlt : (successTimes l).length < UInt32.size) :
    s.average.toNanos = (successTimes l).sum / (successTimes l).length := by
  rw [← h.succeeded] at hpos hlt ⊢
  rw [Summary.toNanos_average hpos hlt, h.total, sum_successTimes]

theorem average_between (h : Accounts s l) (hpos : 0 < (successTimes l).length)
    (hlt : (successTimes l).length < UInt32.size) :
    ∃ shortest longest, (successTimes l).min? = some shortest ∧
      (successTimes l).max? = some longest ∧
      shortest ≤ s.average.toNanos ∧ s.average.toNanos ≤ longest := by
  have hne : successTimes l ≠ [] := List.length_pos_iff.1 hpos
  obtain ⟨shortest, hmin⟩ := Option.isSome_iff_exists.1 (List.isSome_min?_of_ne_nil hne)
  obtain ⟨longest, hmax⟩ := Option.isSome_iff_exists.1 (List.isSome_max?_of_ne_nil hne)
  rw [h.toNanos_average hpos hlt]
  refine ⟨shortest, longest, hmin, hmax, ?_, ?_⟩
  · exact List.le_sum_div_length_of_min?_eq_some_nat hmin
  · exact List.sum_div_length_le_max_of_max?_eq_some_nat hmax

end Accounts

/-! ## The times of failures -/

/-- The same sends fail, and those that succeed take the same time. -/
def SameSuccesses (l l' : List Rpc.Sent) : Prop :=
  List.Forall₂ (fun a b => a.isFailure = b.isFailure ∧
    (a.isFailure = false → a.duration = b.duration)) l l'

namespace SameSuccesses

variable {l l' : List Rpc.Sent}

theorem failureCount_eq (h : SameSuccesses l l') : failureCount l = failureCount l' := by
  induction h with
  | nil => rfl
  | cons hab _ ih =>
    rw [failureCount, failureCount] at ih ⊢
    rw [List.countP_cons, List.countP_cons, ih, hab.1]

theorem totalNanos_eq (h : SameSuccesses l l') : totalNanos l = totalNanos l' := by
  induction h with
  | nil => rfl
  | @cons a b _ _ hab _ ih =>
    have hcounted : countedNanos a = countedNanos b := by
      rw [countedNanos, countedNanos, hab.1]
      cases hb : b.isFailure with
      | true => simp
      | false => rw [hab.2 (hab.1.trans hb)]
    rw [totalNanos, totalNanos] at ih ⊢
    rw [List.map_cons, List.map_cons, List.sum_cons, List.sum_cons, hcounted, ih]

theorem accounts {s : Summary} (h : SameSuccesses l l') (hs : Accounts s l) : Accounts s l' :=
  ⟨hs.processed.trans h.length_eq, hs.failures.trans h.failureCount_eq,
    hs.total.trans h.totalNanos_eq⟩

end SameSuccesses

/-- Two benchmarks whose sends differ in the times of failures at most have one average. -/
theorem Ends.average_eq {σ' : Type} {transport : Rpc.Transport σ} {transport' : Rpc.Transport σ'}
    {plan plan' : Plan} {request request' : Rpc.Request} {world : σ} {world' : σ'}
    {e : Option (Progress σ)} {e' : Option (Progress σ')}
    (hsame : SameSuccesses (answers transport request world plan.requests)
      (answers transport' request' world' plan'.requests))
    (h : Ends transport plan request { world } e)
    (h' : Ends transport' plan' request' { world := world' } e') :
    e.map (·.summary.average) = e'.map (·.summary.average) := by
  have htotal := hsame.totalNanos_eq
  have hnone : e = none ↔ e' = none := by
    rw [h.eq_none_iff .init, h'.eq_none_iff .init, htotal]
  cases e with
  | none => rw [hnone.1 rfl]; rfl
  | some p =>
    cases e' with
    | none => exact absurd (hnone.2 rfl) (by simp)
    | some p' =>
      have haccounts := hsame.accounts (h.accounts .init p rfl).2
      have heq : p.summary = p'.summary := haccounts.unique (h'.accounts .init p' rfl).2
      rw [Option.map_some, Option.map_some, heq]

/-! ## The average -/

/-- **The average is the mean.** Over at least one success, and no more than thirty-two bits count,
it is the total divided and rounded down, which a machine computes without exceeding a word. It is
zero if there are no fewer failures than sends. In whatever order the sends of a benchmark finish,
the average lies between the shortest and the longest time of those that succeed, and the times of
the others have no bearing on it. -/
theorem average_is_mean :
    (∀ (s : Summary) (n : Nat), s.processed = s.failures + n → 0 < n → n < UInt32.size →
      s.average.toNanos = s.total.toNanos / n ∧
      s.total.seconds % n * 1000000000 + s.total.nanos % n < UInt64.size ∧
      (s.total.divWords (UInt32.ofNat n)).1.toNat = s.average.seconds ∧
      (s.total.divWords (UInt32.ofNat n)).2.toNat = s.average.nanos) ∧
    (∀ s : Summary, s.processed ≤ s.failures → s.average = Span.zero) ∧
    (∀ (σ : Type) (transport : Rpc.Transport σ) (plan : Plan) (request : Rpc.Request) (world : σ)
      (p : Progress σ), Ends transport plan request { world } (some p) →
      let times := successTimes (answers transport request world plan.requests)
      0 < times.length → times.length < UInt32.size →
      p.summary.average.toNanos = times.sum / times.length ∧
      ∃ shortest longest, times.min? = some shortest ∧ times.max? = some longest ∧
        shortest ≤ p.summary.average.toNanos ∧ p.summary.average.toNanos ≤ longest) ∧
    ∀ (σ σ' : Type) (transport : Rpc.Transport σ) (transport' : Rpc.Transport σ')
      (plan plan' : Plan) (request request' : Rpc.Request) (world : σ) (world' : σ')
      (e : Option (Progress σ)) (e' : Option (Progress σ')),
      SameSuccesses (answers transport request world plan.requests)
        (answers transport' request' world' plan'.requests) →
      Ends transport plan request { world } e →
      Ends transport' plan' request' { world := world' } e' →
      e.map (·.summary.average) = e'.map (·.summary.average) := by
  refine ⟨fun s n hn hpos hlt => ?_, fun s => Summary.average_eq_zero,
    fun σ transport plan request world p hp => ?_,
    fun _ _ _ _ _ _ _ _ _ _ _ _ hsame h h' => h.average_eq hsame h'⟩
  · have hsucceeded : s.succeeded = n := Summary.succeeded_eq hn
    subst hsucceeded
    have hword : (UInt32.ofNat s.succeeded).toNat = s.succeeded := UInt32.toNat_ofNat_of_lt hlt
    have hwords := s.total.divWords_eq (n := UInt32.ofNat s.succeeded) (hword.symm ▸ hpos)
    simp only [hword] at hwords
    rw [Summary.toNanos_average hpos hlt, Summary.average_eq hpos hlt]
    exact ⟨rfl, s.total.div_fits hpos hlt, hwords⟩
  · intro times hpos hlt
    obtain ⟨-, haccounts⟩ := hp.accounts .init p rfl
    exact ⟨haccounts.toNanos_average hpos hlt, haccounts.average_between hpos hlt⟩

/-- A node that fails every second send, and answers each of the others in a time of its own. -/
def everySecond (failing : Span) : Rpc.Transport Nat where
  endpoint := "mock://node"
  send n _ :=
    if n % 2 = 0 then
      ({ answer := .ok ⟨{ version := some "2.0", result := some .null },
          .ofMillis (UInt32.ofNat (n + 3))⟩ }, n + 1)
    else ({ answer := .error (.transport "busy"), elapsed := failing }, n + 1)

/-- As many successes as can be counted, and a total whose seconds leave the greatest remainder.
Three sends come to the mean of the first and the last, however long the failure between them
takes; with no successes the average is zero. -/
theorem average_is_mean_greatestRemainder :
    let s : Summary := ⟨4294967305, 10, ⟨18446744073709551614, 999999999, by decide, by decide⟩⟩
    let plan : Plan := ⟨3, 2, by decide⟩
    let request := Rpc.Request.make "hmyv2_gasPrice" [] 1
    s.average.toNanos = 4294967296999999999 ∧
      (s.total.divWords 4294967295).2.toNat = s.average.nanos ∧
      (⟨2, 2, Span.ofMillis 1⟩ : Summary).average = Span.zero ∧
      ∃ p p', plan.run (everySecond (.ofMillis 1)) .pending request 0 = some p ∧
        plan.run (everySecond (.ofMillis 60000)) .pending request 0 = some p' ∧
        p.summary.average.toNanos = 4000000 ∧
        (3000000 ≤ p.summary.average.toNanos ∧ p.summary.average.toNanos ≤ 5000000) ∧
        p'.summary.average = p.summary.average := by
  intro s plan request
  obtain ⟨hmean, hzero, hrun, hsame⟩ := average_is_mean
  have hcount : s.processed = s.failures + 4294967295 := by decide
  have hquotient : s.total.toNanos / 4294967295 = 4294967296999999999 := by decide
  obtain ⟨haverage, -, -, hnanos⟩ := hmean s 4294967295 hcount (by decide) (by decide)
  have hends := fun failing => plan.run_ends (everySecond failing) .pending request 0
  have hsome : ∀ failing ∈ [Span.ofMillis 1, Span.ofMillis 60000],
      (plan.run (everySecond failing) .pending request 0).isSome = true := by decide +kernel
  obtain ⟨p, hp⟩ := Option.isSome_iff_exists.1 (hsome (.ofMillis 1) (by decide))
  obtain ⟨p', hp'⟩ := Option.isSome_iff_exists.1 (hsome (.ofMillis 60000) (by decide))
  have htimes : successTimes (answers (everySecond (.ofMillis 1)) request 0 plan.requests)
      = [3000000, 5000000] := by decide +kernel
  obtain ⟨hnanos', shortest, longest, hshortest, hlongest, hle, hge⟩ :=
    hrun Nat _ plan request 0 p (hp ▸ hends (.ofMillis 1)) (by rw [htimes]; decide)
      (by rw [htimes]; decide)
  rw [htimes] at hnanos' hshortest hlongest
  obtain rfl := Option.some.inj hshortest
  obtain rfl := Option.some.inj hlongest
  have hsuccesses : SameSuccesses
      (answers (everySecond (.ofMillis 1)) request 0 plan.requests)
      (answers (everySecond (.ofMillis 60000)) request 0 plan.requests) :=
    .cons ⟨rfl, fun _ => rfl⟩ <| .cons ⟨rfl, nofun⟩ <| .cons ⟨rfl, fun _ => rfl⟩ .nil
  have heq := hsame Nat Nat _ _ plan plan request request 0 0 _ _ hsuccesses
    (hends (.ofMillis 1)) (hends (.ofMillis 60000))
  rw [hp, hp'] at heq
  exact ⟨haverage.trans hquotient, hnanos, hzero _ (by decide), p, p', hp, hp', hnanos',
    ⟨hle, hge⟩, (Option.some.inj heq).symm⟩

/-! ## The text of the average -/

/-- **The text of the average is exact.** The figures of a summary give the average as a decimal
number, with at most nine digits behind the point and no zero at their end, of the largest unit of
time that does not exceed it; number times unit is the average, and none is written `0ns`. So two
summaries have the same text exactly if they have the same average. -/
theorem average_text_exact :
    (∀ s : Summary, ∃ (x : Decimal.Numeral) (u : TimeUnit),
      (Figures.ofSummary s).average = x.text ++ u.symbol ∧
      x.fraction.length ≤ u.places ∧ u.places ≤ 9 ∧
      x.value * u.nanos = s.average.toNanos ∧
      u.IsLargest s.average.toNanos) ∧
    (∀ s : Summary, (Figures.ofSummary s).average = "0ns" ↔ s.average = Span.zero) ∧
    ∀ s s' : Summary, (Figures.ofSummary s).average = (Figures.ofSummary s').average ↔
      s.average = s'.average := by
  refine ⟨fun s => ?_, fun s => ?_, fun s s' => Span.text_inj⟩
  · obtain ⟨x, u, htext, hplaces, hvalue, hlargest⟩ := s.average.exists_numeral
    exact ⟨x, u, htext, hplaces, u.places_le, hvalue, hlargest⟩
  · rw [← Span.text_zero]
    exact Span.text_inj

/-- Zeros stay between digits and go at the end, and a nanosecond more shows. -/
theorem average_text_exact_innerZeros :
    let s : Summary := ⟨5, 2, ⟨3, 30150000, by decide, by decide⟩⟩
    let s' : Summary := ⟨5, 2, ⟨3, 30150003, by decide, by decide⟩⟩
    (Figures.ofSummary s).average = "1.01005s" ∧
      (Figures.ofSummary s').average ≠ (Figures.ofSummary s).average := by
  intro s s'
  obtain ⟨-, -, hinj⟩ := average_text_exact
  exact ⟨by decide +kernel, fun h => absurd ((hinj s' s).1 h) (by decide)⟩

end Bench

end NodeAudit
