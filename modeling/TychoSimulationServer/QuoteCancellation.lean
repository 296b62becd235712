import TychoSimulationServer.QuoteOrder

/-!
# What a quote says about its pools

The verdict of a quote is read off three accumulators, and they are right as long as every
candidate leaves something in one of them. Two things go wrong.

* A rung without a gas (one that does not fit `u64`) clears the outputs recorded before it and ends
  the recording. The failure carries the first error of the ladder, so a liquidity-like one hides an
  output that the simulation did produce, or an amount it never tried.
* A token that fires before all candidates are scheduled stops the scheduling silently. If the
  collection loop does not get to see the token, the other candidates are in no list; with nothing
  scheduled at all the quote even says that all pools returned zero amounts.

`VerdictCondition` excludes these two and is exact.
-/

namespace TychoSimulationServer

/-! ## What the loop over a ladder records

The loop records amounts, gas and errors rung by rung. How many steps it counts is the number of
positive amounts it has recorded. -/

/-- The number of positive outputs. -/
def positiveSteps (amounts : List Nat) : Nat :=
  amounts.countP (· ≠ 0)

/-- What holds of an accumulator after `steps` amounts at most. -/
structure PoolQuoteAccumulator.Consistent (run : PoolQuoteAccumulator) (steps : Nat) : Prop where
  successful : run.successfulSteps = positiveSteps run.amountsOut
  length_le : run.amountsOut.length ≤ steps
  timedOut : run.timedOut = true → "Cancelled" ∈ run.errors

theorem PoolQuoteAccumulator.Consistent.mono {run : PoolQuoteAccumulator} {steps more : Nat}
    (h : run.Consistent steps) (hle : steps ≤ more) : run.Consistent more :=
  ⟨h.successful, h.length_le.trans hle, h.timedOut⟩

/-- One amount. -/
theorem recordAmountQuote_consistent {run : PoolQuoteAccumulator} {steps : Nat}
    (h : run.Consistent steps) (quote : AmountQuoteOutcome) :
    (recordAmountQuote run quote).1.Consistent (steps + 1) := by
  obtain ⟨hsuccessful, hlength, htimedOut⟩ := h
  cases quote with
  | quoted amountOut gasUsed =>
    rw [recordAmountQuote]
    split
    · refine ⟨?_, ?_, htimedOut⟩
      · simpa [positiveSteps] using hsuccessful
      · simpa using hlength
    · rename_i hpositive
      refine ⟨?_, ?_, htimedOut⟩
      · simp [positiveSteps, hpositive, hsuccessful]
      · simpa using hlength
  | error message =>
    refine ⟨?_, ?_, fun h => List.mem_append_left _ (htimedOut h)⟩
    · simpa [recordAmountQuote, positiveSteps] using hsuccessful
    · simpa [recordAmountQuote] using hlength
  | missingGas =>
    exact ⟨rfl, Nat.zero_le _, fun h => List.mem_append_left _ (htimedOut h)⟩
  | cancelled =>
    exact ⟨hsuccessful, hlength.trans (Nat.le_succ _), fun _ => by simp [recordAmountQuote]⟩

/-- The loop records a rung, and stops or goes on. -/
theorem recordQuotes_cons (run : PoolQuoteAccumulator) (quote : AmountQuoteOutcome)
    (quotes : List AmountQuoteOutcome) :
    recordQuotes run (quote :: quotes) = if (recordAmountQuote run quote).2 = true then
      (recordAmountQuote run quote).1 else recordQuotes (recordAmountQuote run quote).1 quotes :=
  rfl

theorem recordQuotes_consistent (quotes : List AmountQuoteOutcome) {run : PoolQuoteAccumulator}
    {steps : Nat} (h : run.Consistent steps) :
    (recordQuotes run quotes).Consistent (steps + quotes.length) := by
  induction quotes generalizing run steps with
  | nil => exact h
  | cons quote quotes ih =>
    have hone := recordAmountQuote_consistent h quote
    have hlen : steps + (quote :: quotes).length = steps + 1 + quotes.length := by
      rw [List.length_cons]
      omega
    rw [recordQuotes_cons, hlen]
    by_cases hstop : (recordAmountQuote run quote).2 = true
    · rw [if_pos hstop]
      exact hone.mono (Nat.le_add_right _ _)
    · rw [if_neg hstop]
      exact ih hone

/-- What holds of the result of a pool. -/
structure PoolQuoteResult.Consistent (result : PoolQuoteResult) (expectedLen : Nat) : Prop where
  successful : result.successfulSteps = positiveSteps result.amountsOut
  length_le : result.amountsOut.length ≤ expectedLen
  timedOut : result.timedOut = true → "Cancelled" ∈ result.errors

theorem positiveSteps_padded (expectedLen : Nat) (amounts : List Nat) :
    positiveSteps (padded expectedLen amounts) = positiveSteps amounts := by
  simp [positiveSteps, padded, List.countP_append, List.countP_replicate]

theorem length_padded {expectedLen : Nat} {amounts : List Nat} (h : amounts.length ≤ expectedLen) :
    (padded expectedLen amounts).length = expectedLen := by
  simp [padded]
  omega

/-- The ladder of a behaviour has one rung for each requested amount. -/
def PoolBehaviour.LadderOf (expectedLen : Nat) : PoolBehaviour → Prop
  | .ran ladder _ _ => ladder.length = expectedLen
  | _ => True

theorem simulatePool_consistent {pool : PoolDescriptor} {expectedLen : Nat}
    {behaviour : PoolBehaviour} {result : PoolQuoteResult} (hladder : behaviour.LadderOf expectedLen)
    (h : simulatePool pool expectedLen behaviour = .ok result) : result.Consistent expectedLen := by
  cases behaviour with
  | preflightCancelled =>
    cases h
    exact ⟨rfl, Nat.zero_le _, fun h => nomatch h⟩
  | ran ladder slippage limitMaxIn =>
    cases h
    have hnew : PoolQuoteAccumulator.new.Consistent 0 := ⟨rfl, le_rfl, fun h => nomatch h⟩
    have hrun := recordQuotes_consistent (ladder.map quoteRequestedAmount) hnew
    have hlen : 0 + (ladder.map quoteRequestedAmount).length = expectedLen := by
      rw [List.length_map, Nat.zero_add]
      exact hladder
    rw [hlen] at hrun
    rw [finishQuoteAmounts]
    split
    · exact ⟨hrun.successful.trans (positiveSteps_padded _ _).symm,
        (length_padded hrun.length_le).le, hrun.timedOut⟩
    · exact ⟨hrun.successful, hrun.length_le, hrun.timedOut⟩
  | workerPanicked message => cases h
  | resultDropped => cases h

theorem PoolQuoteResult.Consistent.filled {result : PoolQuoteResult} {expectedLen : Nat}
    (h : result.Consistent expectedLen) : (filledResult expectedLen result).Consistent expectedLen := by
  rw [filledResult]
  split
  · exact ⟨h.successful.trans (positiveSteps_padded _ _).symm, (length_padded h.length_le).le,
      h.timedOut⟩
  · exact h

/-- A row that is returned has an amount for each that was asked. -/
theorem filledResult_length {result : PoolQuoteResult} {expectedLen : Nat}
    (h : result.Consistent expectedLen) (hsteps : 0 < result.successfulSteps) :
    (filledResult expectedLen result).amountsOut.length = expectedLen := by
  rw [filledResult, if_pos hsteps]
  exact length_padded h.length_le

theorem filledResult_successfulSteps (expectedLen : Nat) (result : PoolQuoteResult) :
    (filledResult expectedLen result).successfulSteps = result.successfulSteps := by
  rw [filledResult]
  split <;> rfl

theorem usable_iff {result : PoolQuoteResult} {expectedLen : Nat}
    (h : result.Consistent expectedLen) :
    amountsOutIncludePositiveQuote result.amountsOut = true ↔ 0 < result.successfulSteps := by
  rw [h.successful, positiveSteps, List.countP_pos_iff, amountsOutIncludePositiveQuote,
    List.any_eq_true]

/-- All outputs are positive when as many steps succeeded as were asked for. -/
theorem all_positive_iff {result : PoolQuoteResult} {expectedLen : Nat}
    (h : result.Consistent expectedLen) (hsteps : 0 < result.successfulSteps) :
    (∀ amount ∈ (filledResult expectedLen result).amountsOut, amount ≠ 0) ↔
      expectedLen ≤ result.successfulSteps := by
  have hfilled := h.filled
  have hlength := filledResult_length h hsteps
  rw [← filledResult_successfulSteps expectedLen result, hfilled.successful, positiveSteps]
  refine ⟨fun hall => ?_, fun hle => ?_⟩
  · rw [List.countP_eq_length.mpr (fun amount hamount => by simpa using hall amount hamount),
      hlength]
  · have hcount := le_antisymm List.countP_le_length (hlength.le.trans hle)
    intro amount hamount
    simpa using List.countP_eq_length.mp hcount amount hamount

/-! ## What an outcome says of its pool

An outcome makes a row, an entry among the pools without a full row, or a failure; which, depends on
the steps. -/

section

variable {candidate : QuoteCandidate} {blockNumber expectedLen : Nat}

/-- The outcome of a candidate's task. -/
def QuoteCandidate.outcome (candidate : QuoteCandidate) (expectedLen : Nat) :
    Except QuoteFailure PoolQuoteResult :=
  simulatePool candidate.pool expectedLen candidate.behaviour

/-- The outcome gives a response whose entries are all positive. -/
def QuoteCandidate.QuotesAll (candidate : QuoteCandidate) (blockNumber expectedLen : Nat) : Prop :=
  ∃ response, taskResponse blockNumber expectedLen (candidate.outcome expectedLen) =
    some response ∧ ∀ amount ∈ response.amountsOut, amount ≠ 0

theorem taskResponse_ok {result : PoolQuoteResult} {response : AmountOutResponse}
    (h : taskResponse blockNumber expectedLen (.ok result) = some response) :
    amountsOutIncludePositiveQuote (filledResult expectedLen result).amountsOut = true ∧
      response.amountsOut = (filledResult expectedLen result).amountsOut := by
  simp only [taskResponse, Option.ite_none_right_eq_some, Option.some.injEq] at h
  obtain ⟨husable, rfl⟩ := h
  exact ⟨husable, rfl⟩

/-- Every amount is quoted when every step succeeded. -/
theorem quotesAll_iff_of_ok {result : PoolQuoteResult}
    (houtcome : candidate.outcome expectedLen = .ok result)
    (hresult : result.Consistent expectedLen) :
    candidate.QuotesAll blockNumber expectedLen ↔
      0 < result.successfulSteps ∧ expectedLen ≤ result.successfulSteps := by
  have husable := usable_iff hresult.filled
  rw [filledResult_successfulSteps] at husable
  rw [QuoteCandidate.QuotesAll, houtcome]
  refine ⟨fun ⟨response, hresponse, hall⟩ => ?_, fun ⟨hsteps, hle⟩ => ?_⟩
  · obtain ⟨hpositive, hamounts⟩ := taskResponse_ok hresponse
    have hsteps := husable.mp hpositive
    rw [hamounts] at hall
    exact ⟨hsteps, (all_positive_iff hresult hsteps).mp hall⟩
  · refine ⟨_, by rw [taskResponse]; exact if_pos (husable.mpr hsteps), ?_⟩
    exact (all_positive_iff hresult hsteps).mpr hle

/-- **A pool that does not quote every amount is in the pool results.** -/
theorem taskPoolResult_of_not_quotesAll (hladder : candidate.behaviour.LadderOf expectedLen)
    (h : ¬candidate.QuotesAll blockNumber expectedLen) :
    ∃ poolResult, taskPoolResult expectedLen (candidate.outcome expectedLen) = some poolResult := by
  cases houtcome : candidate.outcome expectedLen with
  | error failure =>
    have hfailure : failure.pool = some candidate.pool.id ∧ failure.kind = .internal := by
      rw [QuoteCandidate.outcome] at houtcome
      cases hbehaviour : candidate.behaviour <;> rw [hbehaviour] at houtcome <;> cases houtcome <;>
        exact ⟨rfl, rfl⟩
    exact ⟨_, by rw [taskPoolResult, poolOutcomeFromFailure, hfailure.1, hfailure.2]; rfl⟩
  | ok result =>
    have hresult := simulatePool_consistent hladder houtcome
    rw [quotesAll_iff_of_ok houtcome hresult] at h
    have hsome : ∃ noted, classifyPoolOutcome (filledResult expectedLen result) expectedLen =
        some noted := by
      rw [classifyPoolOutcome, filledResult_successfulSteps]
      split
      · exact ⟨_, rfl⟩
      · split
        · split <;> exact ⟨_, rfl⟩
        · rename_i hsteps
          have hshort : result.successfulSteps < expectedLen := by
            by_contra hnot
            exact h ⟨Nat.pos_of_ne_zero hsteps, not_lt.mp hnot⟩
          split
          · exact ⟨_, rfl⟩
          · exact ⟨_, rfl⟩
    obtain ⟨noted, hnoted⟩ := hsome
    exact ⟨_, by simp only [taskPoolResult, hnoted]; rfl⟩

/-- A pool that quotes every amount without a failure is not in the pool results. -/
theorem taskPoolResult_of_quotesAll (hladder : candidate.behaviour.LadderOf expectedLen)
    (h : candidate.QuotesAll blockNumber expectedLen)
    (hfailure : taskFailure expectedLen (candidate.outcome expectedLen) = none) :
    taskPoolResult expectedLen (candidate.outcome expectedLen) = none := by
  cases houtcome : candidate.outcome expectedLen with
  | error failure =>
    obtain ⟨response, hresponse, -⟩ := h
    rw [houtcome] at hresponse
    cases hresponse
  | ok result =>
    have hresult := simulatePool_consistent hladder houtcome
    have hfilled := hresult.filled
    obtain ⟨hsteps, hle⟩ := (quotesAll_iff_of_ok houtcome hresult).mp h
    have husable := usable_iff hfilled
    rw [filledResult_successfulSteps] at husable
    rw [houtcome] at hfailure
    -- a full row without a failure has no errors, and a timeout would be one
    have herrors : (filledResult expectedLen result).errors = [] := by
      simp only [taskFailure, poolErrors, filledResult_successfulSteps] at hfailure
      rw [show decide (result.successfulSteps < expectedLen) = false from
        decide_eq_false (not_lt.mpr hle), Bool.and_false] at hfailure
      by_contra hne
      rw [if_neg (fun h => hne h.1)] at hfailure
      split at hfailure
      · cases hfailure
      · rw [if_neg (by omega)] at hfailure
        simp at hfailure
    have htimeout : isTimeoutLikeOutcome (filledResult expectedLen result) = false := by
      rw [isTimeoutLikeOutcome, herrors, List.any_nil, Bool.or_false]
      cases htimed : (filledResult expectedLen result).timedOut with
      | false => rfl
      | true => exact absurd herrors (List.ne_nil_of_mem (hfilled.timedOut htimed))
    have hnone : classifyPoolOutcome (filledResult expectedLen result) expectedLen = none := by
      rw [classifyPoolOutcome, htimeout, filledResult_successfulSteps, herrors, husable.mpr hsteps]
      rw [if_neg Bool.false_ne_true, if_neg (Nat.pos_iff_ne_zero.mp hsteps),
        if_neg (fun h => absurd h.2.symm Bool.false_ne_true), if_neg (not_lt.mpr hle),
        if_neg (fun h => h rfl)]
    simp only [taskPoolResult, hnone]
    rfl

/-- The failure of a task names its pool. -/
theorem taskFailure_pool {failure : QuoteFailure}
    (h : taskFailure expectedLen (candidate.outcome expectedLen) = some failure) :
    failure.pool = some candidate.pool.id := by
  cases houtcome : candidate.outcome expectedLen with
  | error reported =>
    rw [houtcome] at h
    cases h
    rw [QuoteCandidate.outcome] at houtcome
    cases hbehaviour : candidate.behaviour <;> rw [hbehaviour] at houtcome <;> cases houtcome <;> rfl
  | ok result =>
    rw [houtcome] at h
    have hpool := (filledResult_pool expectedLen result).trans (simulatePool_pool houtcome)
    simp only [taskFailure, poolErrors, makePoolFailure, hpool] at h
    split at h
    · cases h
    · split at h
      · cases h
        rfl
      · split at h
        · cases h
          rfl
        · split at h
          · obtain ⟨message, -, rfl⟩ := Option.map_eq_some_iff.mp h
            rfl
          · cases h
            rfl

end

/-! ## What the recording of a ladder leaves out

A rung with an amount and no gas is recorded as nothing, with an error; after a cancelled rung
nothing is recorded. -/

/-- `get_amount_out` returned a gas above `u64`. -/
def Rung.Gasless : Rung → Prop
  | .amountOut _ gas => ¬gas < 2 ^ 64
  | .cancelled | .error _ => False

/-- `get_amount_out` returned a positive output. -/
def Rung.Positive : Rung → Prop
  | .amountOut amount _ => amount ≠ 0
  | .cancelled | .error _ => False

/-- The rungs up to the one the recording ends at. -/
def recordedRungs : List Rung → List Rung
  | [] => []
  | .cancelled :: _ => [.cancelled]
  | .error message :: rungs => .error message :: recordedRungs rungs
  | .amountOut amount gas :: rungs =>
    .amountOut amount gas :: if gas < 2 ^ 64 then recordedRungs rungs else []

/-- The error that a rung records. -/
def rungError : Rung → Option String
  | .cancelled => some "Cancelled"
  | .error message => some message
  | .amountOut _ gas => if gas < 2 ^ 64 then none else some "no gas reported"

/-- The errors that a ladder records. -/
def ladderErrors (ladder : List Rung) : List String :=
  (recordedRungs ladder).filterMap rungError

/-- A quoted amount leaves the errors and does not end the recording. -/
theorem recordAmountQuote_quoted (run : PoolQuoteAccumulator) (amountOut gasUsed : Nat) :
    (recordAmountQuote run (.quoted amountOut gasUsed)).2 = false ∧
      (recordAmountQuote run (.quoted amountOut gasUsed)).1.errors = run.errors ∧
      (0 < (recordAmountQuote run (.quoted amountOut gasUsed)).1.successfulSteps ↔
        0 < run.successfulSteps ∨ amountOut ≠ 0) := by
  rw [recordAmountQuote]
  split
  · rename_i hzero
    exact ⟨rfl, rfl, by simp [hzero]⟩
  · rename_i hpositive
    exact ⟨rfl, rfl, by simp [hpositive]⟩

/-- The errors of the loop are those of the recorded rungs. -/
theorem recordQuotes_errors (ladder : List Rung) (run : PoolQuoteAccumulator) :
    (recordQuotes run (ladder.map quoteRequestedAmount)).errors =
      run.errors ++ ladderErrors ladder := by
  induction ladder generalizing run with
  | nil => simp [recordQuotes, ladderErrors, recordedRungs]
  | cons rung ladder ih =>
    rw [List.map_cons, recordQuotes_cons, ladderErrors]
    cases rung with
    | cancelled => simp [quoteRequestedAmount, recordAmountQuote, recordedRungs, rungError]
    | error message =>
      rw [quoteRequestedAmount, recordAmountQuote, if_neg Bool.false_ne_true, ih]
      simp [ladderErrors, recordedRungs, rungError]
    | amountOut amount gas =>
      rw [quoteRequestedAmount, recordedRungs]
      split
      · rename_i hgas
        obtain ⟨hgoes, herrors, -⟩ := recordAmountQuote_quoted run amount gas
        have herror : rungError (.amountOut amount gas) = none := if_pos hgas
        rw [hgoes, if_neg Bool.false_ne_true, ih, herrors]
        simp [ladderErrors, herror]
      · rename_i hgas
        have herror : rungError (.amountOut amount gas) = some "no gas reported" := if_neg hgas
        simp [recordAmountQuote, herror]

/-- A step succeeded: some recorded output is positive and no gas was missing. -/
theorem recordQuotes_steps (ladder : List Rung) (run : PoolQuoteAccumulator) :
    0 < (recordQuotes run (ladder.map quoteRequestedAmount)).successfulSteps ↔
      (0 < run.successfulSteps ∨ ∃ rung ∈ recordedRungs ladder, rung.Positive) ∧
        ∀ rung ∈ recordedRungs ladder, ¬rung.Gasless := by
  induction ladder generalizing run with
  | nil => simp [recordQuotes, recordedRungs]
  | cons rung ladder ih =>
    rw [List.map_cons, recordQuotes_cons]
    cases rung with
    | cancelled =>
      simp [quoteRequestedAmount, recordAmountQuote, recordedRungs, Rung.Positive, Rung.Gasless]
    | error message =>
      rw [quoteRequestedAmount, recordAmountQuote, if_neg Bool.false_ne_true, ih]
      simp [recordedRungs, Rung.Positive, Rung.Gasless]
    | amountOut amount gas =>
      rw [quoteRequestedAmount, recordedRungs]
      split
      · rename_i hgas
        obtain ⟨hgoes, -, hsteps⟩ := recordAmountQuote_quoted run amount gas
        have hgasless : ¬(Rung.amountOut amount gas).Gasless := not_not.mpr hgas
        have hpositive : (Rung.amountOut amount gas).Positive ↔ amount ≠ 0 := Iff.rfl
        rw [hgoes, if_neg Bool.false_ne_true, ih, hsteps]
        simp [hpositive, hgasless, or_assoc]
      · rename_i hgas
        have hgasless : (Rung.amountOut amount gas).Gasless := hgas
        -- a missing gas takes the earlier outputs with it
        simp [recordAmountQuote, hgasless]

/-- A ladder without a cancelled amount or a missing gas is recorded to its end. -/
theorem recordedRungs_eq_self {ladder : List Rung} (hcancelled : .cancelled ∉ recordedRungs ladder)
    (hgas : ∀ rung ∈ recordedRungs ladder, ¬rung.Gasless) : recordedRungs ladder = ladder := by
  induction ladder with
  | nil => rfl
  | cons rung ladder ih =>
    cases rung with
    | cancelled => exact absurd (List.mem_singleton_self _) hcancelled
    | error message =>
      simp only [recordedRungs, List.mem_cons, not_or, forall_eq_or_imp] at hcancelled hgas ⊢
      rw [ih hcancelled.2 hgas.2]
    | amountOut amount gas =>
      simp only [recordedRungs, List.mem_cons, not_or, forall_eq_or_imp] at hcancelled hgas ⊢
      have hlt : gas < 2 ^ 64 := not_not.mp hgas.1
      rw [if_pos hlt] at hcancelled hgas ⊢
      rw [ih hcancelled.2 hgas.2]

/-! ## What a candidate comes to

A candidate that brings nothing for want of liquidity is told from one whose amounts were hidden. -/

/-- Every amount of the ladder was simulated. -/
def PoolBehaviour.SimulatedToEnd : PoolBehaviour → Prop
  | .ran ladder _ _ => .cancelled ∉ ladder
  | _ => False

/-- Some amount of the ladder gave a positive output. -/
def PoolBehaviour.ProducesOutput : PoolBehaviour → Prop
  | .ran ladder _ _ => ∃ rung ∈ ladder, rung.Positive
  | _ => False

/-- The failure of a pool that gave nothing, from the first error of its ladder. -/
def emptyPoolFailure (pool : PoolDescriptor) (error : String) : QuoteFailure :=
  let message := formatPoolDescriptor pool ++ ": " ++ error
  makePoolFailure (classifyPoolFailure message) message pool

/-- The errors do not degrade the request: there are none, or the first is liquidity-like and none
tells of a timeout. -/
def LiquidityErrors (pool : PoolDescriptor) : List String → Prop
  | [] => True
  | error :: errors => isLiquidityLikeFailure (emptyPoolFailure pool error) = true ∧
      ∀ message ∈ error :: errors, isTimeoutMessage message = false

namespace QuoteCandidate

/-- Nothing usable is recorded, and nothing that degrades the request. -/
def BringsNothing (candidate : QuoteCandidate) : Prop :=
  ∃ ladder slippage limitMaxIn, candidate.behaviour = .ran ladder slippage limitMaxIn ∧
    LiquidityErrors candidate.pool (ladderErrors ladder) ∧
    ((∃ rung ∈ recordedRungs ladder, rung.Gasless) ∨
      ∀ rung ∈ recordedRungs ladder, ¬rung.Positive)

/-- Behind a missing gas there is a positive output or an amount that was not simulated. -/
def HidesAmounts (candidate : QuoteCandidate) : Prop :=
  ∃ ladder slippage limitMaxIn, candidate.behaviour = .ran ladder slippage limitMaxIn ∧
    (∃ rung ∈ recordedRungs ladder, rung.Gasless) ∧
    (.cancelled ∈ ladder ∨ ∃ rung ∈ ladder, rung.Positive)

end QuoteCandidate

theorem isTimeoutMessage_cancelled : isTimeoutMessage "Cancelled" = true := by
  decide +kernel

/-- A cancelled pool does not look like one without liquidity. -/
theorem LiquidityErrors.not_cancelled {pool : PoolDescriptor} {errors : List String}
    (h : LiquidityErrors pool errors) : "Cancelled" ∉ errors := by
  intro hmem
  cases errors with
  | nil => cases hmem
  | cons error errors =>
    have := h.2 "Cancelled" hmem
    rw [isTimeoutMessage_cancelled] at this
    cases this

/-- The timeout of a consistent result is in its errors. -/
theorem isTimeoutLikeOutcome_eq {result : PoolQuoteResult} {expectedLen : Nat}
    (h : result.Consistent expectedLen) :
    isTimeoutLikeOutcome result = result.errors.any isTimeoutMessage := by
  rw [isTimeoutLikeOutcome]
  cases htimed : result.timedOut with
  | false => rw [Bool.false_or]
  | true =>
    rw [Bool.true_or, eq_comm, List.any_eq_true]
    exact ⟨_, h.timedOut htimed, isTimeoutMessage_cancelled⟩

/-- A result without a successful step degrades the request unless its errors are liquidity-like. -/
theorem taskDegrades_of_no_steps {result : PoolQuoteResult} {expectedLen : Nat}
    (h : result.Consistent expectedLen) (hsteps : result.successfulSteps = 0) :
    taskDegrades expectedLen (.ok result) = false ↔ LiquidityErrors result.pool result.errors := by
  have hfilled : filledResult expectedLen result = result := by
    rw [filledResult, if_neg (by omega)]
  have husable : amountsOutIncludePositiveQuote result.amountsOut = false := by
    rw [← Bool.not_eq_true, usable_iff h]
    omega
  simp only [taskDegrades, taskFailure, hfilled, husable, Bool.false_and]
  rw [poolErrors, isTimeoutLikeOutcome_eq h]
  cases herrors : result.errors with
  | nil => simp [LiquidityErrors]
  | cons error errors =>
    rw [if_neg (fun hnil => List.cons_ne_nil _ _ hnil.1)]
    cases htimeout : (error :: errors).any isTimeoutMessage with
    | true =>
      refine ⟨(by rintro ⟨⟩), fun hliquidity => ?_⟩
      obtain ⟨message, hmem, hmessage⟩ := List.any_eq_true.mp htimeout
      rw [hliquidity.2 message hmem] at hmessage
      cases hmessage
    | false =>
      have hall : ∀ message ∈ error :: errors, isTimeoutMessage message = false :=
        fun message hmem => Bool.not_eq_true _ ▸ List.any_eq_false.mp htimeout message hmem
      rw [if_neg Bool.false_ne_true, if_pos hsteps, Option.any_some, Bool.not_eq_false']
      exact ⟨fun hlike => ⟨hlike, hall⟩, fun hliquidity => hliquidity.1⟩

theorem taskUsable_ok {result : PoolQuoteResult} {expectedLen : Nat}
    (h : result.Consistent expectedLen) :
    taskUsable expectedLen (.ok result) = true ↔ 0 < result.successfulSteps := by
  have husable := usable_iff h.filled
  rw [filledResult_successfulSteps] at husable
  rw [← husable, taskUsable, taskResponse]
  split <;> simp_all

/-- The errors and the steps of a ladder that ran. -/
theorem simulatePool_ran {pool : PoolDescriptor} {expectedLen : Nat} {ladder : List Rung}
    {slippage : List Nat} {limitMaxIn : Option Nat} {result : PoolQuoteResult}
    (h : simulatePool pool expectedLen (.ran ladder slippage limitMaxIn) = .ok result) :
    result.errors = ladderErrors ladder ∧ (0 < result.successfulSteps ↔
      (∃ rung ∈ recordedRungs ladder, rung.Positive) ∧
        ∀ rung ∈ recordedRungs ladder, ¬rung.Gasless) := by
  have herrors := recordQuotes_errors ladder .new
  have hsteps := recordQuotes_steps ladder .new
  rw [show 0 < PoolQuoteAccumulator.new.successfulSteps ↔ False from by decide, false_or] at hsteps
  cases h
  rw [finishQuoteAmounts]
  split <;> exact ⟨herrors, hsteps⟩

namespace QuoteCandidate

variable {candidate : QuoteCandidate} {expectedLen : Nat}

/-- A candidate leaves neither a response nor a degradation exactly when it brings nothing. -/
theorem dry_iff (hladder : candidate.behaviour.LadderOf expectedLen) :
    (taskUsable expectedLen (candidate.outcome expectedLen) = false ∧
      taskDegrades expectedLen (candidate.outcome expectedLen) = false) ↔
      candidate.BringsNothing := by
  cases hbehaviour : candidate.behaviour with
  | preflightCancelled =>
    refine ⟨fun h => ?_, fun ⟨_, _, _, h, _⟩ => nomatch hbehaviour.symm.trans h⟩
    cases houtcome : candidate.outcome expectedLen with
    | error failure =>
      rw [outcome, hbehaviour] at houtcome
      cases houtcome
    | ok result =>
      have hresult := simulatePool_consistent hladder houtcome
      rw [outcome, hbehaviour] at houtcome
      have hsteps : result.successfulSteps = 0 ∧ result.errors = ["Cancelled"] := by
        cases houtcome
        exact ⟨rfl, rfl⟩
      have hdegrades := h.2
      rw [outcome, hbehaviour, houtcome, taskDegrades_of_no_steps hresult hsteps.1, hsteps.2] at hdegrades
      exact absurd (List.mem_singleton_self _) hdegrades.not_cancelled
  | ran ladder slippage limitMaxIn =>
    cases houtcome : candidate.outcome expectedLen with
    | error failure =>
      rw [outcome, hbehaviour] at houtcome
      cases houtcome
    | ok result =>
      have hresult := simulatePool_consistent hladder houtcome
      have hpool := simulatePool_pool houtcome
      rw [outcome, hbehaviour] at houtcome
      obtain ⟨herrors, hsteps⟩ := simulatePool_ran houtcome
      have hnothing : result.successfulSteps = 0 ↔
          (∃ rung ∈ recordedRungs ladder, rung.Gasless) ∨
            ∀ rung ∈ recordedRungs ladder, ¬rung.Positive := by
        have hpos := Nat.pos_iff_ne_zero.symm.trans hsteps
        rw [← not_iff_not, ← ne_eq, hpos]
        push Not
        exact and_comm
      rw [← Bool.not_eq_true, taskUsable_ok hresult, Nat.pos_iff_ne_zero, not_not]
      refine ⟨fun ⟨hzero, hdegrades⟩ => ?_, fun ⟨_, _, _, hran, herrs, hrungs⟩ => ?_⟩
      · rw [taskDegrades_of_no_steps hresult hzero, hpool, herrors] at hdegrades
        exact ⟨ladder, slippage, limitMaxIn, hbehaviour, hdegrades, hnothing.mp hzero⟩
      · cases hbehaviour.symm.trans hran
        have hzero := hnothing.mpr hrungs
        rw [taskDegrades_of_no_steps hresult hzero, hpool, herrors]
        exact ⟨hzero, herrs⟩
  | workerPanicked message =>
    refine ⟨fun h => ?_, fun ⟨_, _, _, h, _⟩ => nomatch hbehaviour.symm.trans h⟩
    rw [outcome, hbehaviour] at h
    cases h.2
  | resultDropped =>
    refine ⟨fun h => ?_, fun ⟨_, _, _, h, _⟩ => nomatch hbehaviour.symm.trans h⟩
    rw [outcome, hbehaviour] at h
    cases h.2

theorem cancelled_mem_ladderErrors {ladder : List Rung} (h : .cancelled ∈ recordedRungs ladder) :
    "Cancelled" ∈ ladderErrors ladder :=
  List.mem_filterMap.mpr ⟨.cancelled, h, rfl⟩

/-- A candidate that brings nothing was simulated without an output unless it hides amounts. -/
theorem BringsNothing.not_hidesAmounts_iff (h : candidate.BringsNothing) :
    ¬candidate.HidesAmounts ↔
      candidate.behaviour.SimulatedToEnd ∧ ¬candidate.behaviour.ProducesOutput := by
  obtain ⟨ladder, slippage, limitMaxIn, hbehaviour, herrors, hrungs⟩ := h
  have hcancelled : .cancelled ∉ recordedRungs ladder :=
    fun hmem => herrors.not_cancelled (cancelled_mem_ladderErrors hmem)
  have hhides : candidate.HidesAmounts ↔ (∃ rung ∈ recordedRungs ladder, rung.Gasless) ∧
      (.cancelled ∈ ladder ∨ ∃ rung ∈ ladder, rung.Positive) := by
    refine ⟨fun ⟨_, _, _, hran, hhidden⟩ => ?_, fun hhidden => ⟨_, _, _, hbehaviour, hhidden⟩⟩
    cases hbehaviour.symm.trans hran
    exact hhidden
  rw [hhides, hbehaviour, PoolBehaviour.SimulatedToEnd, PoolBehaviour.ProducesOutput]
  by_cases hgas : ∃ rung ∈ recordedRungs ladder, rung.Gasless
  · rw [not_and, not_or]
    exact ⟨fun hnot => hnot hgas, fun hnot _ => hnot⟩
  · have hself := recordedRungs_eq_self hcancelled (fun rung hrung hless => hgas ⟨rung, hrung, hless⟩)
    have hnone := hrungs.resolve_left hgas
    rw [hself] at hcancelled hnone
    exact ⟨fun _ => ⟨hcancelled, fun ⟨rung, hrung, hpos⟩ => hnone rung hrung hpos⟩,
      fun _ hhidden => hgas hhidden.1⟩

end QuoteCandidate

/-! ## The verdict

What the claims about a quote's verdict ask, in terms of the candidates and the schedule. -/

section

variable (blockNumber expectedLen : Nat) {candidates : List QuoteCandidate}
  (schedule : QuoteSchedule candidates)

/-- Candidate `i` contributed a response whose entries are all positive. -/
def FullResponse (i : Nat) : Prop :=
  i ∈ schedule.completed ∧ ∃ candidate, candidates[i]? = some candidate ∧
    ∃ response ∈ (quoteComputation blockNumber expectedLen candidates schedule).responses,
      taskResponse blockNumber expectedLen (candidate.outcome expectedLen) = some response ∧
        ∀ amount ∈ response.amountsOut, amount ≠ 0

/-- Candidate `i` is in the pool results. -/
def Listed (i : Nat) : Prop :=
  i ∈ schedule.completed ∧ ∃ candidate, candidates[i]? = some candidate ∧
    ∃ poolResult ∈ (quoteComputation blockNumber expectedLen candidates schedule).poolResults,
      taskPoolResult expectedLen (candidate.outcome expectedLen) = some poolResult

/-- A timeout is recorded that is candidate `i`'s own or the request's. -/
def CoveredByTimeout (i : Nat) : Prop :=
  ∃ failure ∈ (quoteComputation blockNumber expectedLen candidates schedule).failures,
    failure.kind = .timeout ∧ (failure.pool = none ∨ i ∈ schedule.completed ∧
      ∃ candidate, candidates[i]? = some candidate ∧
        taskFailure expectedLen (candidate.outcome expectedLen) = some failure)

/-- The verdict matches what happened to the candidates. -/
structure FaithfulVerdict : Prop where
  complete :
    (quoteComputation blockNumber expectedLen candidates schedule).resultQuality = .complete ↔
      (∀ i < candidates.length, FullResponse blockNumber expectedLen schedule i) ∧
        (quoteComputation blockNumber expectedLen candidates schedule).failures = []
  noLiquidity :
    (quoteComputation blockNumber expectedLen candidates schedule).status = .noLiquidity ∨
      (quoteComputation blockNumber expectedLen candidates schedule).resultQuality = .noResults →
    (∀ i < candidates.length, i ∈ schedule.completed) ∧
      (∀ candidate ∈ candidates, candidate.behaviour.SimulatedToEnd ∧
        ¬candidate.behaviour.ProducesOutput) ∧
      ∀ failure ∈ (quoteComputation blockNumber expectedLen candidates schedule).failures,
        isLiquidityLikeFailure failure = true
  accounted : ∀ i < candidates.length, ¬FullResponse blockNumber expectedLen schedule i →
    Listed blockNumber expectedLen schedule i ∨ CoveredByTimeout blockNumber expectedLen schedule i

/-- When the verdict is faithful. -/
structure VerdictCondition : Prop where
  /-- the token did not stop the scheduling, or the collection saw it -/
  seen : schedule.scheduled = candidates.length ∨ schedule.completed.length < schedule.scheduled
  /-- a missing gas hides nothing, or the quote does not come to nothing -/
  nothingHidden : schedule.completed.length = candidates.length →
    (∃ candidate ∈ candidates, candidate.HidesAmounts) →
      ∃ candidate ∈ candidates, ¬candidate.BringsNothing

end

section

variable {blockNumber expectedLen : Nat} {candidates : List QuoteCandidate}
  {schedule : QuoteSchedule candidates}

/-- The outcomes that were collected. -/
def QuoteSchedule.outcomes (schedule : QuoteSchedule candidates) (expectedLen : Nat) :
    List (Except QuoteFailure PoolQuoteResult) :=
  schedule.completed.filterMap (taskOutcome candidates expectedLen)

/-- An outcome belongs to a candidate that was collected. -/
theorem mem_outcomes {outcome : Except QuoteFailure PoolQuoteResult} :
    outcome ∈ schedule.outcomes expectedLen ↔ ∃ i ∈ schedule.completed, ∃ candidate,
      candidates[i]? = some candidate ∧ candidate.outcome expectedLen = outcome := by
  simp only [QuoteSchedule.outcomes, List.mem_filterMap, taskOutcome, Option.map_eq_some_iff,
    QuoteCandidate.outcome]

namespace QuoteRunState

variable {s : QuoteRunState}

theorem finish_mem_responses {response : AmountOutResponse} :
    response ∈ s.finishCurrentState.responses ↔ response ∈ s.responses :=
  (List.perm_insertionSort _ s.responses).mem_iff

theorem finish_mem_poolResults {poolResult : PoolSimulationOutcome} :
    poolResult ∈ s.finishCurrentState.poolResults ↔ poolResult ∈ s.poolResults :=
  (List.perm_insertionSort _ s.poolResults).mem_iff

theorem finish_failures (s : QuoteRunState) : s.finishCurrentState.failures = s.failures :=
  rfl

/-- A quote is complete when all its pools have full rows. -/
theorem finish_complete_iff (h : s.status = .ready) :
    s.finishCurrentState.resultQuality = .complete ↔
      s.classification.hadUsableResponse = true ∧ s.poolResults = [] ∧ s.failures = [] := by
  have hnil : s.poolResults.insertionSort (poolResultLe · ·) = [] ↔ s.poolResults = [] := by
    rw [← List.length_eq_zero_iff, ← List.length_eq_zero_iff, List.length_insertionSort]
  simp only [finishCurrentState, finish, classifyCurrentExit, h, classifyReadyExit, hnil]
  split
  · rename_i husable
    split
    · rename_i hempty
      exact ⟨fun _ => ⟨husable, hempty⟩, fun _ => rfl⟩
    · rename_i hnonempty
      exact ⟨(by rintro ⟨⟩), fun hcomplete => absurd hcomplete.2 hnonempty⟩
  · rename_i hnone
    refine ⟨fun hcomplete => ?_, fun hcomplete => absurd hcomplete.1 hnone⟩
    split at hcomplete <;> cases hcomplete

/-- A quote says there is no liquidity when no row is usable and every failure looks like that. -/
theorem finish_noLiquidity_iff (h : s.status = .ready) :
    (s.finishCurrentState.status = .noLiquidity ∨
      s.finishCurrentState.resultQuality = .noResults) ↔
      s.classification.hadUsableResponse = false ∧ s.classification.degraded = false := by
  simp only [finishCurrentState, finish, classifyCurrentExit, h, classifyReadyExit]
  cases s.classification.hadUsableResponse with
  | true =>
    rw [if_pos rfl]
    split <;> simp [RequestExit.new]
  | false =>
    rw [if_neg Bool.false_ne_true]
    cases s.classification.degraded <;> simp [RequestExit.new]

theorem applyEmptyResponseState_status (s : QuoteRunState) :
    s.applyEmptyResponseState.status = s.status := by
  rw [applyEmptyResponseState]
  split
  · rfl
  · split <;> rfl

theorem isLiquidityLikeFailure_zeroAmounts :
    isLiquidityLikeFailure (makeFailure .simulator "All pools returned zero amounts") = true := by
  decide +kernel

/-- The failure for an empty quote does not change the classification. -/
theorem applyEmptyResponseState_classification (s : QuoteRunState) :
    s.applyEmptyResponseState.classification = s.classification := by
  rw [applyEmptyResponseState]
  split
  · rfl
  · split
    · rw [pushFailure, QuoteClassification.noteFailure, if_pos isLiquidityLikeFailure_zeroAmounts]
    · rfl

/-- An empty response adds one failure at most. -/
theorem applyEmptyResponseState_mem_failures {failure : QuoteFailure}
    (h : failure ∈ s.applyEmptyResponseState.failures) :
    failure ∈ s.failures ∨ failure = makeFailure .simulator "All pools returned zero amounts" := by
  rw [applyEmptyResponseState] at h
  split at h
  · exact .inl h
  · split at h
    · simpa [pushFailure] using h
    · exact .inl h

theorem applyEmptyResponseState_failures_eq_nil :
    s.applyEmptyResponseState.failures = [] ↔
      s.classification.hadUsableResponse = true ∧ s.failures = [] := by
  rw [applyEmptyResponseState]
  split
  · rename_i husable
    simp [husable]
  · rename_i hnone
    split <;> rename_i hfailures <;> simp [hnone, hfailures, pushFailure]

end QuoteRunState

/-! ## A quote that saw the token -/

/-- **A cancelled quote is neither complete nor without liquidity.** -/
theorem verdict_of_seen (h : schedule.completed.length < schedule.scheduled) :
    FaithfulVerdict blockNumber expectedLen schedule := by
  have hcomputation : quoteComputation blockNumber expectedLen candidates schedule =
      ((QuoteRunState.new blockNumber).handleOutcomes expectedLen
        (schedule.outcomes expectedLen)).noteCancellation.applyEmptyResponseState.finishCurrentState := by
    rw [quoteComputation, executePoolQuotes]
    simp only [if_pos h, QuoteSchedule.outcomes]
  generalize hhandled : (QuoteRunState.new blockNumber).handleOutcomes expectedLen
    (schedule.outcomes expectedLen) = handled at hcomputation
  have hready : handled.status = .ready := by
    rw [← hhandled, QuoteRunState.handleOutcomes_eq]
    rfl
  -- the failure about the token is noted last, and nothing takes it back
  have hdegraded : handled.noteCancellation.classification.degraded = true := by
    rw [QuoteRunState.noteCancellation, QuoteRunState.pushFailure,
      QuoteClassification.noteFailure_eq, QuoteClassification.notePoolOutcome,
      QuoteClassification.notePoolOutcomeWithSteps_eq]
    rfl
  have hfailures : handled.noteCancellation.failures ≠ [] := by
    simp [QuoteRunState.noteCancellation, QuoteRunState.pushFailure]
  have hstatus : handled.noteCancellation.applyEmptyResponseState.status = .ready := by
    rw [QuoteRunState.applyEmptyResponseState_status]
    exact hready
  have hkept : handled.noteCancellation.applyEmptyResponseState.failures =
      handled.noteCancellation.failures := by
    rw [QuoteRunState.applyEmptyResponseState, if_neg hfailures, ite_self]
  refine ⟨?_, ?_, fun i _ _ => .inr ?_⟩
  · have hnonempty : (quoteComputation blockNumber expectedLen candidates schedule).failures ≠ [] := by
      rw [hcomputation, QuoteRunState.finish_failures, hkept]
      exact hfailures
    rw [hcomputation, QuoteRunState.finish_complete_iff hstatus, ← hcomputation]
    exact ⟨fun hcomplete => absurd (hkept ▸ hcomplete.2.2) hfailures,
      fun hcomplete => absurd hcomplete.2 hnonempty⟩
  · rw [hcomputation, QuoteRunState.finish_noLiquidity_iff hstatus,
      QuoteRunState.applyEmptyResponseState_classification, hdegraded]
    exact fun hnone => absurd hnone.2 (by rintro ⟨⟩)
  · refine ⟨makeFailure .timeout "Quote computation cancelled before all pools completed", ?_, rfl,
      .inl rfl⟩
    have hmem : makeFailure .timeout "Quote computation cancelled before all pools completed" ∈
        handled.noteCancellation.failures := by
      simp [QuoteRunState.noteCancellation, QuoteRunState.pushFailure]
    rw [hcomputation, QuoteRunState.finish_failures, hkept]
    exact hmem

/-! ## A quote that did not see the token

It has collected all candidates, and its verdict is decided by their outcomes. -/

/-- What the collection recorded when it did not see the token. -/
theorem quoteComputation_unseen (h : ¬schedule.completed.length < schedule.scheduled) :
    quoteComputation blockNumber expectedLen candidates schedule =
      ((QuoteRunState.new blockNumber).handleOutcomes expectedLen
        (schedule.outcomes expectedLen)).applyEmptyResponseState.finishCurrentState := by
  rw [quoteComputation, executePoolQuotes]
  simp only [if_neg h, QuoteSchedule.outcomes]

/-- The lists of a quote are those of its outcomes. -/
theorem outcome_handled_lists (blockNumber expectedLen : Nat)
    (outcomes : List (Except QuoteFailure PoolQuoteResult)) :
    (QuoteRunState.new blockNumber).handleOutcomes expectedLen outcomes =
      { responses := outcomes.filterMap (taskResponse blockNumber expectedLen)
        poolResults := outcomes.filterMap (taskPoolResult expectedLen)
        failures := outcomes.filterMap (taskFailure expectedLen)
        classification :=
          { partialNotes := (outcomes.map (taskNote expectedLen)).foldl .join .none
            hadUsableResponse := outcomes.any (taskUsable expectedLen)
            degraded := outcomes.any (taskDegrades expectedLen) }
        status := .ready
        blockNumber } := by
  rw [QuoteRunState.handleOutcomes_eq, QuoteClassification.foldl_noteTask]
  simp [QuoteRunState.new, QuoteClassification.new]

/-- A candidate that was never scheduled is not accounted for. -/
theorem not_faithful_of_unscheduled (h : ¬schedule.completed.length < schedule.scheduled)
    (hless : schedule.scheduled < candidates.length) :
    ¬FaithfulVerdict blockNumber expectedLen schedule := by
  intro hfaithful
  have hout : schedule.scheduled ∉ schedule.completed :=
    fun hmem => lt_irrefl _ (schedule.completed_lt _ hmem)
  obtain hlisted | ⟨failure, hmem, hkind, hcover⟩ := hfaithful.accounted schedule.scheduled hless
    (fun hfull => hout hfull.1)
  · exact hout hlisted.1
  obtain hnone | hown := hcover
  · rw [quoteComputation_unseen h, QuoteRunState.finish_failures] at hmem
    obtain htask | rfl := QuoteRunState.applyEmptyResponseState_mem_failures hmem
    · rw [outcome_handled_lists] at htask
      obtain ⟨outcome, houtcome, hfailure⟩ := List.mem_filterMap.mp htask
      obtain ⟨i, -, candidate, -, rfl⟩ := mem_outcomes.mp houtcome
      rw [taskFailure_pool hfailure] at hnone
      cases hnone
    · cases hkind
  · exact hout hown.1

/-- Every candidate completed when as many completed as there are. -/
theorem mem_completed (h : schedule.completed.length = candidates.length) {i : Nat}
    (hi : i < candidates.length) : i ∈ schedule.completed :=
  (schedule.completed_perm h).mem_iff.mpr (List.mem_range.mpr hi)

/-- The outcomes of a quote whose tasks all completed are those of its candidates. -/
theorem mem_outcomes_of_all (h : schedule.completed.length = candidates.length)
    {outcome : Except QuoteFailure PoolQuoteResult} :
    outcome ∈ schedule.outcomes expectedLen ↔
      ∃ candidate ∈ candidates, candidate.outcome expectedLen = outcome := by
  rw [mem_outcomes]
  refine ⟨fun ⟨i, _, candidate, hi, houtcome⟩ => ⟨candidate, List.mem_of_getElem? hi, houtcome⟩,
    fun ⟨candidate, hmem, houtcome⟩ => ?_⟩
  obtain ⟨i, hi⟩ := List.getElem?_of_mem hmem
  exact ⟨i, mem_completed h (List.getElem?_eq_some_iff.mp hi).1, candidate, hi, houtcome⟩

/-- The responses of a quote are those of the tasks that were collected. -/
theorem mem_responses {response : AmountOutResponse} :
    response ∈ (quoteComputation blockNumber expectedLen candidates schedule).responses ↔
      ∃ i ∈ schedule.completed, ∃ candidate, candidates[i]? = some candidate ∧
        taskResponse blockNumber expectedLen (candidate.outcome expectedLen) = some response := by
  have hlist : response ∈ ((QuoteRunState.new blockNumber).handleOutcomes expectedLen
      (schedule.outcomes expectedLen)).responses ↔
        ∃ i ∈ schedule.completed, ∃ candidate, candidates[i]? = some candidate ∧
          taskResponse blockNumber expectedLen (candidate.outcome expectedLen) =
            some response := by
    rw [outcome_handled_lists, List.mem_filterMap]
    refine ⟨fun ⟨outcome, houtcome, hresponse⟩ => ?_,
      fun ⟨i, hi, candidate, hget, hresponse⟩ => ?_⟩
    · obtain ⟨i, hi, candidate, hget, rfl⟩ := mem_outcomes.mp houtcome
      exact ⟨i, hi, candidate, hget, hresponse⟩
    · exact ⟨_, mem_outcomes.mpr ⟨i, hi, candidate, hget, rfl⟩, hresponse⟩
  rw [quoteComputation, executePoolQuotes]
  split
  · rw [QuoteRunState.finish_mem_responses, (QuoteRunState.applyEmptyResponseState_lists _).1]
    exact hlist
  · rw [QuoteRunState.finish_mem_responses, (QuoteRunState.applyEmptyResponseState_lists _).1]
    exact hlist

theorem not_lt_scheduled (h : schedule.completed.length = candidates.length) :
    ¬schedule.completed.length < schedule.scheduled := by
  rw [h]
  exact not_lt.mpr schedule.scheduled_le

/-- Every candidate's response is among the responses. -/
theorem fullResponse_iff (h : schedule.completed.length = candidates.length) {i : Nat}
    {candidate : QuoteCandidate} (hi : candidates[i]? = some candidate) :
    FullResponse blockNumber expectedLen schedule i ↔
      candidate.QuotesAll blockNumber expectedLen := by
  refine ⟨fun ⟨_, other, hother, response, _, hresponse, hall⟩ => ?_,
    fun ⟨response, hresponse, hall⟩ => ?_⟩
  · cases hi.symm.trans hother
    exact ⟨response, hresponse, hall⟩
  · have hmem := mem_completed h (List.getElem?_eq_some_iff.mp hi).1
    exact ⟨hmem, candidate, hi, response,
      mem_responses.mpr ⟨i, hmem, candidate, hi, hresponse⟩, hresponse, hall⟩

/-- Every candidate's pool result is among the pool results. -/
theorem listed_of_all (hladders : ∀ candidate ∈ candidates, candidate.behaviour.LadderOf expectedLen)
    (h : schedule.completed.length = candidates.length) {i : Nat} (hi : i < candidates.length)
    (hnot : ¬FullResponse blockNumber expectedLen schedule i) :
    Listed blockNumber expectedLen schedule i := by
  have hget := List.getElem?_eq_getElem hi
  rw [fullResponse_iff h hget] at hnot
  obtain ⟨poolResult, hresult⟩ :=
    taskPoolResult_of_not_quotesAll (hladders _ (List.getElem_mem hi)) hnot
  have hmem := mem_completed h hi
  refine ⟨hmem, _, hget, poolResult, ?_, hresult⟩
  rw [quoteComputation_unseen (not_lt_scheduled h), QuoteRunState.finish_mem_poolResults,
    (QuoteRunState.applyEmptyResponseState_lists _).2, outcome_handled_lists]
  exact List.mem_filterMap.mpr ⟨_, mem_outcomes.mpr ⟨i, hmem, _, hget, rfl⟩, hresult⟩

/-- **A quote whose tasks all completed is complete when they all quote everything.** -/
theorem complete_iff_of_all
    (hladders : ∀ candidate ∈ candidates, candidate.behaviour.LadderOf expectedLen)
    (h : schedule.completed.length = candidates.length) :
    (quoteComputation blockNumber expectedLen candidates schedule).resultQuality = .complete ↔
      (∀ i < candidates.length, FullResponse blockNumber expectedLen schedule i) ∧
        (quoteComputation blockNumber expectedLen candidates schedule).failures = [] := by
  have hready : ((QuoteRunState.new blockNumber).handleOutcomes expectedLen
      (schedule.outcomes expectedLen)).applyEmptyResponseState.status = .ready := by
    rw [QuoteRunState.applyEmptyResponseState_status, outcome_handled_lists]
  rw [quoteComputation_unseen (not_lt_scheduled h), QuoteRunState.finish_complete_iff hready,
    QuoteRunState.finish_failures, QuoteRunState.applyEmptyResponseState_classification,
    (QuoteRunState.applyEmptyResponseState_lists _).2]
  refine ⟨fun ⟨_, hresults, hfailures⟩ => ⟨fun i hi => ?_, hfailures⟩,
    fun ⟨hfull, hfailures⟩ => ?_⟩
  · have hget := List.getElem?_eq_getElem hi
    rw [fullResponse_iff h hget]
    by_contra hnot
    obtain ⟨poolResult, hresult⟩ :=
      taskPoolResult_of_not_quotesAll (hladders _ (List.getElem_mem hi)) hnot
    rw [outcome_handled_lists, List.filterMap_eq_nil_iff] at hresults
    rw [hresults _ (mem_outcomes.mpr ⟨i, mem_completed h hi, _, hget, rfl⟩)] at hresult
    cases hresult
  · obtain ⟨husable, hnil⟩ := QuoteRunState.applyEmptyResponseState_failures_eq_nil.mp hfailures
    refine ⟨husable, ?_, hfailures⟩
    rw [outcome_handled_lists, List.filterMap_eq_nil_iff] at hnil ⊢
    intro outcome houtcome
    obtain ⟨i, -, candidate, hi, rfl⟩ := mem_outcomes.mp houtcome
    have hquotes := (fullResponse_iff h hi).mp (hfull i (List.getElem?_eq_some_iff.mp hi).1)
    exact taskPoolResult_of_quotesAll (hladders _ (List.mem_of_getElem? hi)) hquotes
      (hnil _ houtcome)

/-- **A quote whose tasks all completed is without liquidity when every candidate brings
nothing.** -/
theorem noLiquidity_iff_of_all
    (hladders : ∀ candidate ∈ candidates, candidate.behaviour.LadderOf expectedLen)
    (h : schedule.completed.length = candidates.length) :
    ((quoteComputation blockNumber expectedLen candidates schedule).status = .noLiquidity ∨
      (quoteComputation blockNumber expectedLen candidates schedule).resultQuality = .noResults) ↔
      ∀ candidate ∈ candidates, candidate.BringsNothing := by
  have hready : ((QuoteRunState.new blockNumber).handleOutcomes expectedLen
      (schedule.outcomes expectedLen)).applyEmptyResponseState.status = .ready := by
    rw [QuoteRunState.applyEmptyResponseState_status, outcome_handled_lists]
  rw [quoteComputation_unseen (not_lt_scheduled h), QuoteRunState.finish_noLiquidity_iff hready,
    QuoteRunState.applyEmptyResponseState_classification, outcome_handled_lists]
  simp only [List.any_eq_false, Bool.not_eq_true]
  refine ⟨fun ⟨husable, hdegrades⟩ candidate hmem => ?_, fun hnothing => ⟨?_, ?_⟩⟩
  · have houtcome : candidate.outcome expectedLen ∈ schedule.outcomes expectedLen :=
      (mem_outcomes_of_all h).mpr ⟨candidate, hmem, rfl⟩
    exact (QuoteCandidate.dry_iff (hladders _ hmem)).mp
      ⟨husable _ houtcome, hdegrades _ houtcome⟩
  · intro outcome houtcome
    obtain ⟨candidate, hmem, rfl⟩ := (mem_outcomes_of_all h).mp houtcome
    exact ((QuoteCandidate.dry_iff (hladders _ hmem)).mpr (hnothing _ hmem)).1
  · intro outcome houtcome
    obtain ⟨candidate, hmem, rfl⟩ := (mem_outcomes_of_all h).mp houtcome
    exact ((QuoteCandidate.dry_iff (hladders _ hmem)).mpr (hnothing _ hmem)).2

/-- The failures of a quote without liquidity are liquidity-like. -/
theorem liquidity_failures (h : schedule.completed.length = candidates.length)
    (hnone : (quoteComputation blockNumber expectedLen candidates schedule).status = .noLiquidity ∨
      (quoteComputation blockNumber expectedLen candidates schedule).resultQuality = .noResults)
    {failure : QuoteFailure}
    (hmem : failure ∈ (quoteComputation blockNumber expectedLen candidates schedule).failures) :
    isLiquidityLikeFailure failure = true := by
  have hready : ((QuoteRunState.new blockNumber).handleOutcomes expectedLen
      (schedule.outcomes expectedLen)).applyEmptyResponseState.status = .ready := by
    rw [QuoteRunState.applyEmptyResponseState_status, outcome_handled_lists]
  rw [quoteComputation_unseen (not_lt_scheduled h), QuoteRunState.finish_noLiquidity_iff hready,
    QuoteRunState.applyEmptyResponseState_classification, outcome_handled_lists] at hnone
  rw [quoteComputation_unseen (not_lt_scheduled h), QuoteRunState.finish_failures] at hmem
  obtain htask | rfl := QuoteRunState.applyEmptyResponseState_mem_failures hmem
  · rw [outcome_handled_lists] at htask
    obtain ⟨outcome, houtcome, hfailure⟩ := List.mem_filterMap.mp htask
    have hdegrades := List.any_eq_false.mp hnone.2 outcome houtcome
    rw [taskDegrades, hfailure] at hdegrades
    simpa using hdegrades
  · exact QuoteRunState.isLiquidityLikeFailure_zeroAmounts

/-- When a quote whose tasks all completed is faithful. -/
theorem faithful_iff_of_all
    (hladders : ∀ candidate ∈ candidates, candidate.behaviour.LadderOf expectedLen)
    (h : schedule.completed.length = candidates.length) :
    FaithfulVerdict blockNumber expectedLen schedule ↔
      ((∃ candidate ∈ candidates, candidate.HidesAmounts) →
        ∃ candidate ∈ candidates, ¬candidate.BringsNothing) := by
  have hliquidity : (quoteComputation blockNumber expectedLen candidates schedule).status =
        .noLiquidity ∨
      (quoteComputation blockNumber expectedLen candidates schedule).resultQuality = .noResults ↔
      ∀ candidate ∈ candidates, candidate.BringsNothing :=
    noLiquidity_iff_of_all hladders h
  refine ⟨fun hfaithful hhides => ?_, fun hshown => ?_⟩
  · by_contra hnothing
    push Not at hnothing
    obtain ⟨candidate, hmem, hhidden⟩ := hhides
    have hsimulated := (hfaithful.noLiquidity (hliquidity.mpr hnothing)).2.1 candidate hmem
    exact (hnothing candidate hmem).not_hidesAmounts_iff.mpr hsimulated hhidden
  · refine ⟨complete_iff_of_all hladders h, fun hnone => ⟨fun i hi => mem_completed h hi, ?_, ?_⟩,
      fun i hi hnot => .inl (listed_of_all hladders h hi hnot)⟩
    · have hnothing := hliquidity.mp hnone
      intro candidate hmem
      refine (hnothing candidate hmem).not_hidesAmounts_iff.mp fun hhidden => ?_
      obtain ⟨other, hother, hbrings⟩ := hshown ⟨candidate, hmem, hhidden⟩
      exact hbrings (hnothing other hother)
    · exact fun failure hmem => liquidity_failures h hnone hmem

/-- The verdict of a quote matches what happened to its candidates exactly when the token did not
stop the scheduling unseen and no missing gas hides what the candidates of an empty quote gave. -/
theorem quote_verdict_iff
    (hladders : ∀ candidate ∈ candidates, candidate.behaviour.LadderOf expectedLen) :
    FaithfulVerdict blockNumber expectedLen schedule ↔ VerdictCondition schedule := by
  by_cases hseen : schedule.completed.length < schedule.scheduled
  · refine ⟨fun _ => ⟨.inr hseen, fun hall => ?_⟩, fun _ => verdict_of_seen hseen⟩
    exact absurd hseen (not_lt_scheduled hall)
  · by_cases hless : schedule.scheduled < candidates.length
    · refine iff_of_false (not_faithful_of_unscheduled hseen hless) fun hcondition => ?_
      exact hcondition.seen.elim hless.ne hseen
    · have hscheduled := le_antisymm schedule.scheduled_le (not_lt.mp hless)
      have hle : schedule.completed.length ≤ candidates.length := by
        have := (List.subperm_of_subset schedule.nodup fun j hj => List.mem_range.mpr
          ((schedule.completed_lt j hj).trans_le schedule.scheduled_le)).length_le
        rwa [List.length_range] at this
      have hall : schedule.completed.length = candidates.length := by omega
      rw [faithful_iff_of_all hladders hall]
      exact ⟨fun hshown => ⟨.inl hscheduled, fun _ => hshown⟩,
        fun hcondition => hcondition.nothingHidden hall⟩

end

/-- A full and a partial pool, cancelled after the first completion. -/
theorem quote_verdict_iff_cancelled :
    FaithfulVerdict 7 2
      (⟨2, [0], by decide, by decide, by decide, by decide⟩ : QuoteSchedule fullAndPartialPools) :=
  (quote_verdict_iff (by
    intro candidate hmem
    simp only [fullAndPartialPools, List.mem_cons, List.not_mem_nil, or_false] at hmem
    obtain rfl | rfl := hmem <;> rfl)).mpr ⟨.inr (by decide), fun h => nomatch h⟩

/-- A pool that cannot do the first amount, and quotes the second one without a gas. -/
def gaslessPool : QuoteCandidate :=
  { pool := ⟨"a", "A", "0xa", "uniswap_v2"⟩
    behaviour := .ran [.error "exceeds limit", .amountOut 5 (2 ^ 64)] [] none }

/-- The only pool is scheduled and collected. -/
def gaslessSchedule : QuoteSchedule [gaslessPool] :=
  { scheduled := 1, completed := [0], scheduled_le := by decide, completed_lt := by decide
    nodup := by decide, stopped := by decide }

/-- The token fires before any pool is scheduled. -/
def nothingScheduled : QuoteSchedule fullAndPartialPools :=
  { scheduled := 0, completed := [], scheduled_le := by decide, completed_lt := by decide
    nodup := by decide, stopped := by decide }

/-- **Two quotes that say too much.** One pool produces an output, which a missing gas hides; and a
token fires before any pool is scheduled. Both quotes say that no pool has liquidity. -/
theorem quote_verdict_misleads :
    ((quoteComputation 7 2 [gaslessPool] gaslessSchedule).status = .noLiquidity ∧
      gaslessPool.behaviour.ProducesOutput ∧ ¬FaithfulVerdict 7 2 gaslessSchedule) ∧
    (quoteComputation 7 2 fullAndPartialPools nothingScheduled).status = .noLiquidity ∧
      (quoteComputation 7 2 fullAndPartialPools nothingScheduled).failures =
        [makeFailure .simulator "All pools returned zero amounts"] ∧
      ¬FaithfulVerdict 7 2 nothingScheduled := by
  have hgasless : (quoteComputation 7 2 [gaslessPool] gaslessSchedule).status = .noLiquidity := by
    decide +kernel
  have hnothing : (quoteComputation 7 2 fullAndPartialPools nothingScheduled).status =
      .noLiquidity := by decide +kernel
  have houtput : gaslessPool.behaviour.ProducesOutput :=
    ⟨.amountOut 5 (2 ^ 64), by decide, by rintro ⟨⟩⟩
  refine ⟨⟨hgasless, houtput, fun hfaithful => ?_⟩, hnothing, rfl, fun hfaithful => ?_⟩
  · have hsimulated := (hfaithful.noLiquidity (.inl hgasless)).2.1 gaslessPool
      (List.mem_singleton.mpr rfl)
    exact hsimulated.2 houtput
  · have hall := (hfaithful.noLiquidity (.inl hnothing)).1 0 (by decide)
    cases hall

end TychoSimulationServer
