import Mathlib.Algebra.Order.Ring.Nat
import Mathlib.Data.List.Infix
import Mathlib.Data.List.Sort
import TychoSimulationServer.Fallible

/-!
# The verdict of a quote

A quote simulates its candidate pools, one task each, and collects what the tasks come to: a
response for a pool with a usable output, a pool result for a pool that fell short, failures. The
status, the quality and the partial kind are derived from these at the end.

Amounts are numbers here; the source prints them in decimal and reads them back. The slippage
ladder and the sanitised limit of a pool are part of what its simulation came to.
-/

namespace TychoSimulationServer

/-! ## Messages -/

/-- `QuoteStatus`. -/
inductive QuoteStatus where
  | ready
  | warmingUp
  | tokenMissing
  | noLiquidity
  | invalidRequest
  | internalError
deriving DecidableEq, Repr

/-- `QuoteResultQuality`. -/
inductive QuoteResultQuality where
  | complete
  | partialResult
  | noResults
  | requestLevelFailure
deriving DecidableEq, Repr

/-- `QuotePartialKind`. -/
inductive QuotePartialKind where
  | amountLadders
  | poolCoverage
  | mixed
deriving DecidableEq, Repr

/-- `PoolOutcomeKind`. -/
inductive PoolOutcomeKind where
  | partialOutput
  | zeroOutput
  | timedOut
  | simulatorError
  | internalError
deriving DecidableEq, Repr

/-- `QuoteFailureKind`. -/
inductive QuoteFailureKind where
  | warmUp
  | staleNativeState
  | tokenValidation
  | tokenCoverage
  | timeout
  | overflow
  | simulator
  | noPools
  | inconsistentResult
  | internal
  | invalidRequest
deriving DecidableEq, Repr

/-- `QuoteFailure`. -/
structure QuoteFailure where
  kind : QuoteFailureKind
  message : String
  pool : Option String
  poolName : Option String
  poolAddress : Option String
  protocol : Option String
deriving DecidableEq, Repr

/-- `PoolSimulationOutcome`. -/
structure PoolSimulationOutcome where
  pool : String
  poolName : String
  poolAddress : String
  protocol : String
  outcome : PoolOutcomeKind
  reportedSteps : Nat
  expectedSteps : Nat
  reason : Option String
deriving DecidableEq, Repr

/-- `AmountOutResponse`. -/
structure AmountOutResponse where
  pool : String
  poolName : String
  poolAddress : String
  amountsOut : List Nat
  slippage : List Nat
  limitMaxIn : Option Nat
  gasUsed : List Nat
  blockNumber : Nat
deriving DecidableEq, Repr

/-- `PoolDescriptor`. -/
structure PoolDescriptor where
  id : String
  name : String
  address : String
  protocol : String
deriving DecidableEq, Repr

/-! ## Texts -/

/-- `str::contains`. -/
def containsText (text pattern : String) : Bool :=
  decide (pattern.toList <:+: text.toList)

/-- `format_pool_descriptor` of the context of a pool. -/
def formatPoolDescriptor (pool : PoolDescriptor) : String :=
  let head := (if pool.protocol = "" then [] else [pool.protocol]) ++
    if pool.name = "" then [] else [pool.name]
  let label := if head = [] then pool.id else String.intercalate "::" head
  if pool.address = "" then label else label ++ " [" ++ pool.address ++ "]"

/-- `classify_failure` of a message from a pool. -/
def classifyPoolFailure (message : String) : QuoteFailureKind :=
  let lowered := message.toLower
  if containsText lowered "cancelled" || containsText lowered "canceled" then .timeout
  else if containsText lowered "warm" then .warmUp
  else if containsText lowered "overflow" then .overflow
  else if containsText lowered "timeout" then .timeout
  else .simulator

/-- `is_timeout_message`. -/
def isTimeoutMessage (message : String) : Bool :=
  let lowered := message.toLower
  containsText lowered "timeout" || containsText lowered "timed out" ||
    containsText lowered "cancelled" || containsText lowered "canceled"

/-- `is_limit_like_error_message`. -/
def isLimitLikeErrorMessage (message : String) : Bool :=
  let lowered := message.toLower
  ["max_in", "get_limits", "sell amount exceeds limit", "exceeds limit",
    "exceeds available liquidity", "borrowable limit", "insufficient reserve", "ticks exceeded",
    "not enough liquidity", "support complete swap"].any (containsText lowered)

/-- `is_liquidity_like_failure`. -/
def isLiquidityLikeFailure (failure : QuoteFailure) : Bool :=
  match failure.kind with
  | .noPools => true
  | .simulator => isLimitLikeErrorMessage failure.message ||
      containsText failure.message.toLower "all pools returned zero amounts"
  | _ => false

/-- `make_failure` without a pool. -/
def makeFailure (kind : QuoteFailureKind) (message : String) : QuoteFailure :=
  { kind, message, pool := none, poolName := none, poolAddress := none, protocol := none }

/-- `make_failure` with the context of a pool. -/
def makePoolFailure (kind : QuoteFailureKind) (message : String) (pool : PoolDescriptor) :
    QuoteFailure :=
  { kind, message, pool := some pool.id, poolName := some pool.name
    poolAddress := some pool.address, protocol := some pool.protocol }

/-! ## The simulation of one pool

What the simulator answers for each amount is given; what the service makes of it is modelled. -/

/-- What became of one amount of the ladder: `get_amount_out` was not called because the token had
fired, or it returned. -/
inductive Rung where
  | cancelled
  | amountOut (amount gas : Nat)
  | error (message : String)
deriving DecidableEq, Repr

/-- `AmountQuoteOutcome`. -/
inductive AmountQuoteOutcome where
  | quoted (amountOut gasUsed : Nat)
  | error (message : String)
  | missingGas
  | cancelled
deriving DecidableEq, Repr

/-- `quote_requested_amount`: a gas above `u64` counts as none. -/
def quoteRequestedAmount : Rung → AmountQuoteOutcome
  | .cancelled => .cancelled
  | .amountOut amount gas => if gas < 2 ^ 64 then .quoted amount gas else .missingGas
  | .error message => .error message

/-- `PoolQuoteAccumulator`. -/
structure PoolQuoteAccumulator where
  amountsOut : List Nat
  gasUsed : List Nat
  successfulSteps : Nat
  errors : List String
  timedOut : Bool
deriving DecidableEq, Repr

/-- `PoolQuoteAccumulator::new`. -/
def PoolQuoteAccumulator.new : PoolQuoteAccumulator :=
  { amountsOut := [], gasUsed := [], successfulSteps := 0, errors := [], timedOut := false }

/-- `record_amount_quote`: the accumulator and whether the loop stops. -/
def recordAmountQuote (run : PoolQuoteAccumulator) :
    AmountQuoteOutcome → PoolQuoteAccumulator × Bool
  | .quoted amountOut gasUsed =>
    if amountOut = 0 then
      ({ run with amountsOut := run.amountsOut ++ [0], gasUsed := run.gasUsed ++ [0] }, false)
    else
      ({ run with
          amountsOut := run.amountsOut ++ [amountOut], gasUsed := run.gasUsed ++ [gasUsed]
          successfulSteps := run.successfulSteps + 1 }, false)
  | .error message =>
    ({ run with
        amountsOut := run.amountsOut ++ [0], gasUsed := run.gasUsed ++ [0]
        errors := run.errors ++ [message] }, false)
  | .missingGas =>
    -- everything recorded so far goes
    ({ run with
        amountsOut := [], gasUsed := [], successfulSteps := 0
        errors := run.errors ++ ["no gas reported"] }, true)
  | .cancelled =>
    ({ run with errors := run.errors ++ ["Cancelled"], timedOut := true }, true)

/-- The loop of `quote_amounts`. -/
def recordQuotes (run : PoolQuoteAccumulator) : List AmountQuoteOutcome → PoolQuoteAccumulator
  | [] => run
  | quote :: quotes =>
    let (run, stop) := recordAmountQuote run quote
    if stop then run else recordQuotes run quotes

/-- `PoolQuoteResult`. -/
structure PoolQuoteResult where
  pool : PoolDescriptor
  amountsOut : List Nat
  slippage : List Nat
  limitMaxIn : Option Nat
  gasUsed : List Nat
  successfulSteps : Nat
  errors : List String
  timedOut : Bool
deriving DecidableEq, Repr

/-- A list of outputs filled up with zeros. -/
def padded (expectedLen : Nat) (amounts : List Nat) : List Nat :=
  amounts ++ List.replicate (expectedLen - amounts.length) 0

/-- `finish_quote_amounts`; `slippage` is the ladder for the outputs before they are filled up. -/
def finishQuoteAmounts (pool : PoolDescriptor) (expectedLen : Nat) (slippage : List Nat)
    (limitMaxIn : Option Nat) (run : PoolQuoteAccumulator) : PoolQuoteResult :=
  if 0 < run.successfulSteps then
    { pool, amountsOut := padded expectedLen run.amountsOut
      slippage := slippage ++ List.replicate (expectedLen - run.amountsOut.length) 0
      limitMaxIn, gasUsed := run.gasUsed ++ List.replicate (expectedLen - run.amountsOut.length) 0
      successfulSteps := run.successfulSteps, errors := run.errors, timedOut := run.timedOut }
  else
    { pool, amountsOut := run.amountsOut, slippage := [], limitMaxIn, gasUsed := run.gasUsed
      successfulSteps := run.successfulSteps, errors := run.errors, timedOut := run.timedOut }

/-- How the task of a pool goes. -/
inductive PoolBehaviour where
  /-- the token had fired when the worker began -/
  | preflightCancelled
  /-- every amount of the ladder was tried -/
  | ran (ladder : List Rung) (slippage : List Nat) (limitMaxIn : Option Nat)
  | workerPanicked (message : String)
  | resultDropped
deriving DecidableEq, Repr

/-- `simulate_pool`. -/
def simulatePool (pool : PoolDescriptor) (expectedLen : Nat) :
    PoolBehaviour → Except QuoteFailure PoolQuoteResult
  | .preflightCancelled =>
    .ok { pool, amountsOut := [], slippage := [], limitMaxIn := none, gasUsed := []
          successfulSteps := 0, errors := ["Cancelled"], timedOut := false }
  | .ran ladder slippage limitMaxIn =>
    .ok (finishQuoteAmounts pool expectedLen slippage limitMaxIn
      (recordQuotes .new (ladder.map quoteRequestedAmount)))
  | .workerPanicked message =>
    .error (makePoolFailure .internal
      (formatPoolDescriptor pool ++ ": Quote computation panicked: " ++ message) pool)
  | .resultDropped =>
    .error (makePoolFailure .internal
      (formatPoolDescriptor pool ++ ": Quote computation result dropped") pool)

/-! ## Classification

While outcomes come in the quote keeps notes, from which status, quality and kind are made at the
end. -/

/-- `PartialClassification`. -/
inductive PartialClassification where
  | none
  | amountLadders
  | poolCoverage
  | mixed
deriving DecidableEq, Repr

namespace PartialClassification

/-- `note_partial_amount_coverage`. -/
def notePartialAmountCoverage : PartialClassification → PartialClassification
  | none | amountLadders => amountLadders
  | poolCoverage | mixed => mixed

/-- `note_pool_coverage_gap`. -/
def notePoolCoverageGap : PartialClassification → PartialClassification
  | none | poolCoverage => poolCoverage
  | amountLadders | mixed => mixed

/-- `as_partial_kind`. -/
def asPartialKind : PartialClassification → Option QuotePartialKind
  | none => .none
  | amountLadders => some .amountLadders
  | poolCoverage => some .poolCoverage
  | mixed => some .mixed

end PartialClassification

/-- `QuoteClassification`; `degraded` is the `OperationallyDegraded` of its
`NoResultFailureClassification`. -/
structure QuoteClassification where
  partialNotes : PartialClassification
  hadUsableResponse : Bool
  degraded : Bool
deriving DecidableEq, Repr

namespace QuoteClassification

/-- `QuoteClassification::new`. -/
def new : QuoteClassification :=
  { partialNotes := .none, hadUsableResponse := false, degraded := false }

/-- `mark_request_degradation`. -/
def markRequestDegradation (c : QuoteClassification) : QuoteClassification :=
  { c with degraded := true }

/-- `note_response`. -/
def noteResponse (c : QuoteClassification) : QuoteClassification :=
  { c with hadUsableResponse := true }

/-- `note_pool_outcome_with_steps`. -/
def notePoolOutcomeWithSteps (c : QuoteClassification) (outcome : PoolOutcomeKind)
    (reportedSteps expectedSteps : Nat) : QuoteClassification :=
  if outcome = .timedOut ∧ 0 < reportedSteps ∧ reportedSteps < expectedSteps then
    { c with partialNotes := c.partialNotes.notePartialAmountCoverage }
  else if outcome = .partialOutput then
    { c with partialNotes := c.partialNotes.notePartialAmountCoverage }
  else
    { c with partialNotes := c.partialNotes.notePoolCoverageGap }

/-- `note_pool_outcome`. -/
def notePoolOutcome (c : QuoteClassification) (outcome : PoolOutcomeKind) : QuoteClassification :=
  c.notePoolOutcomeWithSteps outcome 0 0

/-- `note_failure`. -/
def noteFailure (c : QuoteClassification) (failure : QuoteFailure) : QuoteClassification :=
  if isLiquidityLikeFailure failure then c else { c with degraded := true }

end QuoteClassification

/-- `amounts_out_include_positive_quote`. -/
def amountsOutIncludePositiveQuote (amountsOut : List Nat) : Bool :=
  amountsOut.any (· ≠ 0)

/-- `is_timeout_like_outcome`. -/
def isTimeoutLikeOutcome (result : PoolQuoteResult) : Bool :=
  result.timedOut || result.errors.any isTimeoutMessage

/-- `classify_pool_outcome`. -/
def classifyPoolOutcome (result : PoolQuoteResult) (expectedLen : Nat) :
    Option (PoolOutcomeKind × Option String) :=
  if isTimeoutLikeOutcome result then
    some (.timedOut, some (result.errors.head?.getD
      s!"Pool simulation timed out after {result.successfulSteps} reported step(s)"))
  else if result.successfulSteps = 0 then
    if result.errors ≠ [] then some (.simulatorError, result.errors.head?)
    else some (.zeroOutput, none)
  else if result.errors = [] ∧ amountsOutIncludePositiveQuote result.amountsOut = false then
    some (.zeroOutput, none)
  else if result.successfulSteps < expectedLen then
    some (.partialOutput, some
      s!"Pool returned usable quotes for {result.successfulSteps} of {expectedLen} requested amounts")
  else if result.errors ≠ [] then some (.simulatorError, result.errors.head?)
  else none

/-- `make_pool_outcome`. -/
def makePoolOutcome (pool : PoolDescriptor) (outcome : PoolOutcomeKind)
    (reportedSteps expectedSteps : Nat) (reason : Option String) : PoolSimulationOutcome :=
  { pool := pool.id, poolName := pool.name, poolAddress := pool.address, protocol := pool.protocol
    outcome, reportedSteps, expectedSteps, reason }

/-- The outcome kind of `pool_outcome_from_failure`. -/
def outcomeKindFromFailure : QuoteFailureKind → Option PoolOutcomeKind
  | .timeout => some .timedOut
  | .internal => some .internalError
  | .simulator | .overflow | .inconsistentResult => some .simulatorError
  | _ => none

/-- `pool_outcome_from_failure`. -/
def poolOutcomeFromFailure (failure : QuoteFailure) (expectedLen : Nat) :
    Option PoolSimulationOutcome :=
  match failure.pool, outcomeKindFromFailure failure.kind with
  | some id, some outcome =>
    some (makePoolOutcome
      { id, name := failure.poolName.getD "unknown", address := failure.poolAddress.getD "unknown"
        protocol := failure.protocol.getD "unknown" } outcome 0 expectedLen (some failure.message))
  | _, _ => none

/-! ## Collecting the outcomes -/

/-- `QuoteRunState`, with the status and the block number of its metadata. -/
structure QuoteRunState where
  responses : List AmountOutResponse
  failures : List QuoteFailure
  poolResults : List PoolSimulationOutcome
  classification : QuoteClassification
  status : QuoteStatus
  blockNumber : Nat
deriving DecidableEq

/-- The run state a quote begins with. -/
def QuoteRunState.new (blockNumber : Nat) : QuoteRunState :=
  { responses := [], failures := [], poolResults := [], classification := .new, status := .ready
    blockNumber }

namespace QuoteRunState

variable (s : QuoteRunState)

/-- `push_failure`. -/
def pushFailure (failure : QuoteFailure) : QuoteRunState :=
  { s with
    classification := s.classification.noteFailure failure
    failures := s.failures ++ [failure] }

/-- `record_pool_outcome`. -/
def recordPoolOutcome (result : PoolQuoteResult) (expectedLen : Nat) : QuoteRunState :=
  match classifyPoolOutcome result expectedLen with
  | some (outcome, reason) =>
    { s with
      classification := s.classification.notePoolOutcomeWithSteps outcome result.successfulSteps
        expectedLen
      poolResults := s.poolResults ++
        [makePoolOutcome result.pool outcome result.successfulSteps expectedLen reason] }
  | none => s

end QuoteRunState

/-- The failure that `record_pool_errors` pushes, if any. -/
def poolErrors (result : PoolQuoteResult) (hadTimeout isPartial : Bool) (expectedLen : Nat) :
    Option QuoteFailure :=
  let descriptor := formatPoolDescriptor result.pool
  let failure (message : String) : QuoteFailure :=
    makePoolFailure (if hadTimeout then .timeout else classifyPoolFailure message) message
      result.pool
  if result.errors = [] ∧ isPartial = false then none
  else if hadTimeout then
    some (failure (descriptor ++ s!": Pool quote stopped after {result.successfulSteps} of " ++
      s!"{expectedLen} requested amounts produced usable quotes"))
  else if result.successfulSteps = 0 then
    some (failure (descriptor ++ ": " ++ result.errors.head?.getD "Pool returned no quotes"))
  else if isPartial then
    result.errors.head?.map fun baseError => failure (descriptor ++ ": " ++ baseError)
  else
    some (failure (descriptor ++ ": " ++
      result.errors.head?.getD "Pool returned a malformed result"))

namespace QuoteRunState

variable (s : QuoteRunState)

/-- `record_pool_errors`. -/
def recordPoolErrors (result : PoolQuoteResult) (hadTimeout isPartial : Bool)
    (expectedLen : Nat) : QuoteRunState :=
  match poolErrors result hadTimeout isPartial expectedLen with
  | some failure => s.pushFailure failure
  | none => s

/-- `handle_simulated_pool_result`. -/
def handleSimulatedPoolResult (result : PoolQuoteResult) (expectedLen : Nat) : QuoteRunState :=
  let result := if 0 < result.successfulSteps then
      { result with
        amountsOut := padded expectedLen result.amountsOut
        gasUsed := result.gasUsed ++
          List.replicate (expectedLen - result.amountsOut.length) 0 }
    else result
  let hasUsableOutput := amountsOutIncludePositiveQuote result.amountsOut
  let isPartial := hasUsableOutput && decide (result.successfulSteps < expectedLen)
  let s := (s.recordPoolOutcome result expectedLen).recordPoolErrors result
    (isTimeoutLikeOutcome result) isPartial expectedLen
  if hasUsableOutput then
    { s with
      responses := s.responses ++
        [{ pool := result.pool.id, poolName := result.pool.name
           poolAddress := result.pool.address, amountsOut := result.amountsOut
           slippage := result.slippage, limitMaxIn := result.limitMaxIn
           gasUsed := result.gasUsed, blockNumber := s.blockNumber }]
      classification := s.classification.noteResponse }
  else s

/-- `handle_pool_failure`. -/
def handlePoolFailure (failure : QuoteFailure) (expectedLen : Nat) : QuoteRunState :=
  let s := match poolOutcomeFromFailure failure expectedLen with
    | some poolOutcome =>
      { s with
        classification := s.classification.notePoolOutcome poolOutcome.outcome
        poolResults := s.poolResults ++ [poolOutcome] }
    | none => s
  s.pushFailure failure

/-- `handle_pool_task_outcome`. -/
def handlePoolTaskOutcome (expectedLen : Nat) :
    Except QuoteFailure PoolQuoteResult → QuoteRunState
  | .ok result => s.handleSimulatedPoolResult result expectedLen
  | .error failure => s.handlePoolFailure failure expectedLen

/-- The branch of `collect_pool_task_results` for the token. -/
def noteCancellation : QuoteRunState :=
  { s with
    classification := s.classification.markRequestDegradation.notePoolOutcome .timedOut }
    |>.pushFailure (makeFailure .timeout "Quote computation cancelled before all pools completed")

/-- `apply_empty_response_state`. -/
def applyEmptyResponseState : QuoteRunState :=
  if s.classification.hadUsableResponse then s
  else if s.failures = [] then
    s.pushFailure (makeFailure .simulator "All pools returned zero amounts")
  else s

end QuoteRunState

/-! ## Scheduling and collecting

A schedule says how far scheduling got and in which order pools were collected. It is given apart
from what the pools do, so it may stop at places where the program would not: there a token that is
seen while scheduling makes the pools that were scheduled fail. -/

/-- A candidate pool and how its task goes. -/
structure QuoteCandidate where
  pool : PoolDescriptor
  behaviour : PoolBehaviour
deriving DecidableEq, Repr

/-- One way `execute_pool_quotes` can go: how many candidates were scheduled (native, VM and RFQ
ones one after the other) before the token was seen to have fired, and the tasks that completed,
in their order. The collection ends when every task has completed, or before, when it sees the
token. No task begins before all are scheduled, so that a token that stopped the scheduling has
fired for every one of them. -/
structure QuoteSchedule (candidates : List QuoteCandidate) where
  scheduled : Nat
  completed : List Nat
  scheduled_le : scheduled ≤ candidates.length
  completed_lt : ∀ i ∈ completed, i < scheduled
  nodup : completed.Nodup
  stopped : scheduled < candidates.length →
    ∀ candidate ∈ candidates.take scheduled, candidate.behaviour = .preflightCancelled

/-- The outcome of the task of candidate `i`. -/
def taskOutcome (candidates : List QuoteCandidate) (expectedLen i : Nat) :
    Option (Except QuoteFailure PoolQuoteResult) :=
  candidates[i]?.map fun candidate => simulatePool candidate.pool expectedLen candidate.behaviour

/-- The completions that `collect_pool_task_results` handles. -/
def QuoteRunState.handleOutcomes (expectedLen : Nat) (s : QuoteRunState)
    (outcomes : List (Except QuoteFailure PoolQuoteResult)) : QuoteRunState :=
  outcomes.foldl (fun s outcome => s.handlePoolTaskOutcome expectedLen outcome) s

/-- `execute_pool_quotes`. -/
def executePoolQuotes (blockNumber expectedLen : Nat) (candidates : List QuoteCandidate)
    (schedule : QuoteSchedule candidates) : QuoteRunState :=
  let handled := (QuoteRunState.new blockNumber).handleOutcomes expectedLen
    (schedule.completed.filterMap (taskOutcome candidates expectedLen))
  if schedule.completed.length < schedule.scheduled then
    handled.noteCancellation.applyEmptyResponseState
  else handled.applyEmptyResponseState

/-! ## The end of a quote -/

/-- `RequestExit`. -/
structure RequestExit where
  status : QuoteStatus
  resultQuality : QuoteResultQuality
  partialKind : Option QuotePartialKind
deriving DecidableEq, Repr

/-- `RequestExit::new`. -/
def RequestExit.new (status : QuoteStatus) (resultQuality : QuoteResultQuality) : RequestExit :=
  { status, resultQuality, partialKind := none }

/-- `classify_ready_exit`. -/
def QuoteRunState.classifyReadyExit (s : QuoteRunState) : RequestExit :=
  if s.classification.hadUsableResponse then
    if s.poolResults = [] ∧ s.failures = [] then .new .ready .complete
    else
      { status := .ready, resultQuality := .partialResult
        partialKind := some (s.classification.partialNotes.asPartialKind.getD .poolCoverage) }
  else if s.classification.degraded = false then .new .noLiquidity .noResults
  else .new .internalError .requestLevelFailure

/-- `classify_current_exit`. -/
def QuoteRunState.classifyCurrentExit (s : QuoteRunState) : RequestExit :=
  match s.status with
  | .ready => s.classifyReadyExit
  | .noLiquidity => .new .noLiquidity .noResults
  | status => .new status .requestLevelFailure

/-- The order of `finalize_responses`. -/
def responseLe (a b : AmountOutResponse) : Bool :=
  ((compare a.pool b.pool).then (compare a.poolAddress b.poolAddress)).isLE

/-- `outcome_kind_label`. -/
def outcomeKindLabel : PoolOutcomeKind → String
  | .partialOutput => "partial_output"
  | .zeroOutput => "zero_output"
  | .timedOut => "timed_out"
  | .simulatorError => "simulator_error"
  | .internalError => "internal_error"

/-- The order of `finalize_pool_results`. -/
def poolResultLe (a b : PoolSimulationOutcome) : Bool :=
  ((compare a.protocol b.protocol).then <| (compare a.pool b.pool).then <|
    (compare a.poolAddress b.poolAddress).then <|
      compare (outcomeKindLabel a.outcome) (outcomeKindLabel b.outcome)).isLE

/-- `QuoteComputation`, with the metadata the run decides. -/
structure QuoteComputation where
  responses : List AmountOutResponse
  poolResults : List PoolSimulationOutcome
  failures : List QuoteFailure
  status : QuoteStatus
  resultQuality : QuoteResultQuality
  partialKind : Option QuotePartialKind
  blockNumber : Nat
deriving DecidableEq

/-- `QuoteRunState::finish`. -/
def QuoteRunState.finish (s : QuoteRunState) (exit : RequestExit) : QuoteComputation :=
  { responses := s.responses, poolResults := s.poolResults, failures := s.failures
    status := exit.status, resultQuality := exit.resultQuality, partialKind := exit.partialKind
    blockNumber := s.blockNumber }

/-- `finish_current_state`. -/
def QuoteRunState.finishCurrentState (s : QuoteRunState) : QuoteComputation :=
  let sorted := { s with
    responses := s.responses.insertionSort (responseLe · ·)
    poolResults := s.poolResults.insertionSort (poolResultLe · ·) }
  sorted.finish sorted.classifyCurrentExit

/-- The computation of a quote that got as far as its candidates. -/
def quoteComputation (blockNumber expectedLen : Nat) (candidates : List QuoteCandidate)
    (schedule : QuoteSchedule candidates) : QuoteComputation :=
  (executePoolQuotes blockNumber expectedLen candidates schedule).finishCurrentState

end TychoSimulationServer
