import TychoSimulationServer.QuoteVerdict

/-!
# The order of completions

Every task adds at most one response, one pool result and one failure to a quote, and notes
something in the classification. The notes commute: a degradation and a usable response are never
taken back, and the partial classification is a join. What is left of the order is the order of
three lists; two of them are sorted at the end, totally when the pool ids are distinct, and the
failures stay in the order they came in.
-/

namespace TychoSimulationServer

/-! ## What one outcome adds

Handling an outcome appends to three lists and makes notes. What is appended depends on the outcome
alone. -/

/-- The result `handle_simulated_pool_result` goes on with: outputs filled up to the ladder. -/
def filledResult (expectedLen : Nat) (result : PoolQuoteResult) : PoolQuoteResult :=
  if 0 < result.successfulSteps then
    { result with
      amountsOut := padded expectedLen result.amountsOut
      gasUsed := result.gasUsed ++ List.replicate (expectedLen - result.amountsOut.length) 0 }
  else result

/-- The response of an outcome. -/
def taskResponse (blockNumber expectedLen : Nat) :
    Except QuoteFailure PoolQuoteResult → Option AmountOutResponse
  | .ok result =>
    let result := filledResult expectedLen result
    if amountsOutIncludePositiveQuote result.amountsOut then
      some { pool := result.pool.id, poolName := result.pool.name
             poolAddress := result.pool.address, amountsOut := result.amountsOut
             slippage := result.slippage, limitMaxIn := result.limitMaxIn
             gasUsed := result.gasUsed, blockNumber }
    else none
  | .error _ => none

/-- The pool result of an outcome. -/
def taskPoolResult (expectedLen : Nat) :
    Except QuoteFailure PoolQuoteResult → Option PoolSimulationOutcome
  | .ok result =>
    let result := filledResult expectedLen result
    (classifyPoolOutcome result expectedLen).map fun (outcome, reason) =>
      makePoolOutcome result.pool outcome result.successfulSteps expectedLen reason
  | .error failure => poolOutcomeFromFailure failure expectedLen

/-- The failure of an outcome. -/
def taskFailure (expectedLen : Nat) : Except QuoteFailure PoolQuoteResult → Option QuoteFailure
  | .ok result =>
    let result := filledResult expectedLen result
    poolErrors result (isTimeoutLikeOutcome result)
      (amountsOutIncludePositiveQuote result.amountsOut &&
        decide (result.successfulSteps < expectedLen)) expectedLen
  | .error failure => some failure

namespace QuoteClassification

/-- The failure, if any, is noted. -/
def noteFailures (c : QuoteClassification) (failure : Option QuoteFailure) : QuoteClassification :=
  failure.elim c c.noteFailure

/-- What an outcome leaves in the classification. -/
def noteTask (expectedLen : Nat) (c : QuoteClassification) :
    Except QuoteFailure PoolQuoteResult → QuoteClassification
  | .ok result =>
    let filled := filledResult expectedLen result
    let c := (classifyPoolOutcome filled expectedLen).elim c fun (outcome, _) =>
      c.notePoolOutcomeWithSteps outcome filled.successfulSteps expectedLen
    let c := c.noteFailures (taskFailure expectedLen (.ok result))
    if amountsOutIncludePositiveQuote filled.amountsOut then c.noteResponse else c
  | .error failure =>
    ((poolOutcomeFromFailure failure expectedLen).elim c fun poolOutcome =>
      c.notePoolOutcome poolOutcome.outcome).noteFailure failure

end QuoteClassification

namespace QuoteRunState

/-- **One outcome adds at most one entry to each list.** -/
theorem handlePoolTaskOutcome_eq (s : QuoteRunState) (expectedLen : Nat)
    (outcome : Except QuoteFailure PoolQuoteResult) :
    s.handlePoolTaskOutcome expectedLen outcome =
      { s with
        responses := s.responses ++ (taskResponse s.blockNumber expectedLen outcome).toList
        poolResults := s.poolResults ++ (taskPoolResult expectedLen outcome).toList
        failures := s.failures ++ (taskFailure expectedLen outcome).toList
        classification := s.classification.noteTask expectedLen outcome } := by
  cases outcome with
  | ok result =>
    rw [handlePoolTaskOutcome, handleSimulatedPoolResult]
    simp only [taskResponse, taskPoolResult, taskFailure, QuoteClassification.noteTask,
      QuoteClassification.noteFailures]
    rw [show (if 0 < result.successfulSteps then
        { result with
          amountsOut := padded expectedLen result.amountsOut
          gasUsed := result.gasUsed ++ List.replicate (expectedLen - result.amountsOut.length) 0 }
      else result) = filledResult expectedLen result from rfl]
    -- what is appended and noted is about the padded result
    generalize filledResult expectedLen result = filled
    rw [recordPoolErrors, recordPoolOutcome]
    cases classifyPoolOutcome filled expectedLen with
    | none =>
      cases poolErrors filled (isTimeoutLikeOutcome filled) (amountsOutIncludePositiveQuote
        filled.amountsOut && decide (filled.successfulSteps < expectedLen)) expectedLen <;>
      split <;> simp [pushFailure]
    | some noted =>
      cases poolErrors filled (isTimeoutLikeOutcome filled) (amountsOutIncludePositiveQuote
        filled.amountsOut && decide (filled.successfulSteps < expectedLen)) expectedLen <;>
      split <;> simp [pushFailure]
  | error failure =>
    rw [handlePoolTaskOutcome, handlePoolFailure]
    simp only [taskResponse, taskPoolResult, taskFailure, QuoteClassification.noteTask]
    cases poolOutcomeFromFailure failure expectedLen <;> simp [pushFailure]

/-- What a list of outcomes adds. -/
theorem handleOutcomes_eq (s : QuoteRunState) (expectedLen : Nat)
    (outcomes : List (Except QuoteFailure PoolQuoteResult)) :
    s.handleOutcomes expectedLen outcomes =
      { s with
        responses := s.responses ++ outcomes.filterMap (taskResponse s.blockNumber expectedLen)
        poolResults := s.poolResults ++ outcomes.filterMap (taskPoolResult expectedLen)
        failures := s.failures ++ outcomes.filterMap (taskFailure expectedLen)
        classification := outcomes.foldl (QuoteClassification.noteTask expectedLen)
          s.classification } := by
  induction outcomes generalizing s with
  | nil => simp [handleOutcomes]
  | cons outcome outcomes ih =>
    rw [handleOutcomes, List.foldl_cons, ← handleOutcomes, handlePoolTaskOutcome_eq, ih]
    simp only [List.filterMap_cons, List.foldl_cons]
    cases taskResponse s.blockNumber expectedLen outcome <;>
    cases taskPoolResult expectedLen outcome <;>
    cases taskFailure expectedLen outcome <;> simp

end QuoteRunState

/-! ## The notes commute -/

namespace PartialClassification

/-- What two lists of notes come to together. -/
def join : PartialClassification → PartialClassification → PartialClassification
  | none, noted => noted
  | noted, none => noted
  | amountLadders, amountLadders => amountLadders
  | poolCoverage, poolCoverage => poolCoverage
  | _, _ => mixed

theorem notePartialAmountCoverage_eq (noted : PartialClassification) :
    noted.notePartialAmountCoverage = noted.join amountLadders := by
  cases noted <;> rfl

theorem notePoolCoverageGap_eq (noted : PartialClassification) :
    noted.notePoolCoverageGap = noted.join poolCoverage := by
  cases noted <;> rfl

theorem join_none (noted : PartialClassification) : noted.join none = noted := by
  cases noted <;> rfl

/-- **Notes commute.** -/
theorem join_right_comm (a b c : PartialClassification) :
    (a.join b).join c = (a.join c).join b := by
  cases a <;> cases b <;> cases c <;> rfl

end PartialClassification

/-- What an outcome kind notes. -/
def outcomeNote (outcome : PoolOutcomeKind) (reportedSteps expectedSteps : Nat) :
    PartialClassification :=
  if outcome = .timedOut ∧ 0 < reportedSteps ∧ reportedSteps < expectedSteps then .amountLadders
  else if outcome = .partialOutput then .amountLadders
  else .poolCoverage

/-- What an outcome notes about partial results. -/
def taskNote (expectedLen : Nat) : Except QuoteFailure PoolQuoteResult → PartialClassification
  | .ok result =>
    let result := filledResult expectedLen result
    (classifyPoolOutcome result expectedLen).elim .none fun (outcome, _) =>
      outcomeNote outcome result.successfulSteps expectedLen
  | .error failure =>
    (poolOutcomeFromFailure failure expectedLen).elim .none fun poolOutcome =>
      outcomeNote poolOutcome.outcome 0 0

/-- The failure of an outcome is not liquidity-like. -/
def taskDegrades (expectedLen : Nat) (outcome : Except QuoteFailure PoolQuoteResult) : Bool :=
  (taskFailure expectedLen outcome).any fun failure => !isLiquidityLikeFailure failure

/-- The outcome gives a response. -/
def taskUsable (expectedLen : Nat) (outcome : Except QuoteFailure PoolQuoteResult) : Bool :=
  (taskResponse 0 expectedLen outcome).isSome

namespace QuoteClassification

theorem notePoolOutcomeWithSteps_eq (c : QuoteClassification) (outcome : PoolOutcomeKind)
    (reportedSteps expectedSteps : Nat) :
    c.notePoolOutcomeWithSteps outcome reportedSteps expectedSteps =
      { c with partialNotes :=
          c.partialNotes.join (outcomeNote outcome reportedSteps expectedSteps) } := by
  rw [notePoolOutcomeWithSteps, outcomeNote]
  split
  · rw [PartialClassification.notePartialAmountCoverage_eq]
  · split
    · rw [PartialClassification.notePartialAmountCoverage_eq]
    · rw [PartialClassification.notePoolCoverageGap_eq]

/-- A failure degrades, unless it looks like missing liquidity. -/
theorem noteFailure_eq (c : QuoteClassification) (failure : QuoteFailure) :
    c.noteFailure failure = { c with degraded := c.degraded || !isLiquidityLikeFailure failure } := by
  rw [noteFailure]
  cases isLiquidityLikeFailure failure <;> simp

theorem noteFailures_eq (c : QuoteClassification) (failure : Option QuoteFailure) :
    c.noteFailures failure =
      { c with degraded := c.degraded || failure.any fun failure =>
          !isLiquidityLikeFailure failure } := by
  cases failure with
  | none => simp [noteFailures]
  | some failure => exact noteFailure_eq c failure

/-- An outcome joins its notes to the classification. -/
theorem noteTask_eq (expectedLen : Nat) (c : QuoteClassification)
    (outcome : Except QuoteFailure PoolQuoteResult) :
    c.noteTask expectedLen outcome =
      { partialNotes := c.partialNotes.join (taskNote expectedLen outcome)
        hadUsableResponse := c.hadUsableResponse || taskUsable expectedLen outcome
        degraded := c.degraded || taskDegrades expectedLen outcome } := by
  cases outcome with
  | ok result =>
    rw [noteTask]
    simp only [noteFailures_eq, taskNote, taskUsable, taskDegrades, taskResponse]
    generalize filledResult expectedLen result = filled
    cases classifyPoolOutcome filled expectedLen with
    | none =>
      cases amountsOutIncludePositiveQuote filled.amountsOut <;>
      simp [noteResponse, PartialClassification.join_none]
    | some noted =>
      cases amountsOutIncludePositiveQuote filled.amountsOut <;>
      simp [noteResponse, notePoolOutcomeWithSteps_eq]
  | error failure =>
    rw [noteTask, noteFailure_eq]
    simp only [taskNote, taskUsable, taskDegrades, taskFailure, taskResponse]
    cases poolOutcomeFromFailure failure expectedLen with
    | none => simp [PartialClassification.join_none]
    | some poolOutcome => simp [notePoolOutcome, notePoolOutcomeWithSteps_eq]

theorem noteTask_right_comm (expectedLen : Nat) (c : QuoteClassification)
    (first second : Except QuoteFailure PoolQuoteResult) :
    (c.noteTask expectedLen first).noteTask expectedLen second =
      (c.noteTask expectedLen second).noteTask expectedLen first := by
  simp only [noteTask_eq, PartialClassification.join_right_comm c.partialNotes,
    Bool.or_right_comm]

/-- What a list of outcomes leaves in the classification. -/
theorem foldl_noteTask (expectedLen : Nat) (c : QuoteClassification)
    (outcomes : List (Except QuoteFailure PoolQuoteResult)) :
    outcomes.foldl (noteTask expectedLen) c =
      { partialNotes := (outcomes.map (taskNote expectedLen)).foldl .join c.partialNotes
        hadUsableResponse := c.hadUsableResponse || outcomes.any (taskUsable expectedLen)
        degraded := c.degraded || outcomes.any (taskDegrades expectedLen) } := by
  induction outcomes generalizing c with
  | nil => simp
  | cons outcome outcomes ih =>
    rw [List.foldl_cons, ih, noteTask_eq]
    simp [Bool.or_assoc]

end QuoteClassification

/-! ## The final sorts

The lists are sorted by keys that begin with the pool, before they are returned. -/

section

variable {α : Type} (cmp : α → α → Ordering) [Std.TransCmp cmp]

/-- Two orders of a list sort to one list when the comparison tells its elements apart. -/
theorem insertionSort_eq_of_perm {first second : List α} (h : first.Perm second)
    (hcmp : ∀ a ∈ first, ∀ b ∈ first, cmp a b = .eq → a = b) :
    first.insertionSort (fun a b => (cmp a b).isLE = true) =
      second.insertionSort (fun a b => (cmp a b).isLE = true) := by
  have htotal : Std.Total fun a b => (cmp a b).isLE = true := ⟨fun a b => by
    by_cases hle : (cmp a b).isLE = true
    · exact .inl hle
    · exact .inr (Ordering.isLE_of_eq_lt (Std.OrientedCmp.lt_of_not_isLE hle))⟩
  have htrans : IsTrans α fun a b => (cmp a b).isLE = true := ⟨fun _ _ _ hab hbc =>
    Std.TransCmp.isLE_trans hab hbc⟩
  have hfirst := List.perm_insertionSort (fun a b => (cmp a b).isLE = true) first
  have hsecond := List.perm_insertionSort (fun a b => (cmp a b).isLE = true) second
  refine List.Perm.eq_of_pairwise (fun a b ha hb hab hba => ?_)
    (List.pairwise_insertionSort _ _) (List.pairwise_insertionSort _ _)
    (hfirst.trans (h.trans hsecond.symm))
  exact hcmp a (hfirst.mem_iff.mp ha) b (h.mem_iff.mpr (hsecond.mem_iff.mp hb))
    (Std.OrientedCmp.isLE_antisymm hab hba)

end

/-- `responseLe` as a comparison. -/
def compareResponses : AmountOutResponse → AmountOutResponse → Ordering :=
  compareLex (compareOn AmountOutResponse.pool) (compareOn AmountOutResponse.poolAddress)

instance : Std.TransCmp compareResponses :=
  inferInstanceAs (Std.TransCmp (compareLex _ _))

/-- Rows that compare equal are of one pool. -/
theorem pool_eq_of_compareResponses {a b : AmountOutResponse}
    (h : compareResponses a b = .eq) : a.pool = b.pool :=
  Std.LawfulEqCmp.eq_of_compare (compareLex_eq_eq.mp h).1

/-- `poolResultLe` as a comparison. -/
def comparePoolResults : PoolSimulationOutcome → PoolSimulationOutcome → Ordering :=
  compareLex (compareOn PoolSimulationOutcome.protocol) <|
    compareLex (compareOn PoolSimulationOutcome.pool) <|
      compareLex (compareOn PoolSimulationOutcome.poolAddress)
        (compareOn fun result => outcomeKindLabel result.outcome)

instance : Std.TransCmp comparePoolResults :=
  inferInstanceAs (Std.TransCmp (compareLex _ _))

theorem pool_eq_of_comparePoolResults {a b : PoolSimulationOutcome}
    (h : comparePoolResults a b = .eq) : a.pool = b.pool :=
  Std.LawfulEqCmp.eq_of_compare (compareLex_eq_eq.mp (compareLex_eq_eq.mp h).2).1

/-! ## Which pool an entry is of -/

theorem filledResult_pool (expectedLen : Nat) (result : PoolQuoteResult) :
    (filledResult expectedLen result).pool = result.pool := by
  rw [filledResult]
  split <;> rfl

/-- A result is of the pool that was simulated. -/
theorem simulatePool_pool {pool : PoolDescriptor} {expectedLen : Nat} {behaviour : PoolBehaviour}
    {result : PoolQuoteResult} (h : simulatePool pool expectedLen behaviour = .ok result) :
    result.pool = pool := by
  cases behaviour with
  | preflightCancelled =>
    cases h
    rfl
  | ran ladder slippage limitMaxIn =>
    cases h
    rw [finishQuoteAmounts]
    split <;> rfl
  | workerPanicked message => cases h
  | resultDropped => cases h

theorem taskResponse_pool {pool : PoolDescriptor} {blockNumber expectedLen : Nat}
    {behaviour : PoolBehaviour} {response : AmountOutResponse}
    (h : taskResponse blockNumber expectedLen (simulatePool pool expectedLen behaviour) =
      some response) : response.pool = pool.id := by
  cases hsim : simulatePool pool expectedLen behaviour with
  | error failure =>
    rw [hsim] at h
    cases h
  | ok result =>
    rw [hsim] at h
    simp only [taskResponse, Option.ite_none_right_eq_some, Option.some.injEq] at h
    obtain ⟨-, rfl⟩ := h
    rw [filledResult_pool, simulatePool_pool hsim]

theorem taskPoolResult_pool {pool : PoolDescriptor} {expectedLen : Nat}
    {behaviour : PoolBehaviour} {poolResult : PoolSimulationOutcome}
    (h : taskPoolResult expectedLen (simulatePool pool expectedLen behaviour) =
      some poolResult) : poolResult.pool = pool.id := by
  cases hsim : simulatePool pool expectedLen behaviour with
  | error failure =>
    rw [hsim] at h
    simp only [taskPoolResult] at h
    have hpool : failure.pool = some pool.id := by
      cases behaviour <;> cases hsim <;> rfl
    rw [poolOutcomeFromFailure, hpool] at h
    split at h
    · rename_i id outcome hid _
      cases hid
      cases h
      rfl
    · cases h
  | ok result =>
    rw [hsim] at h
    simp only [taskPoolResult, Option.map_eq_some_iff] at h
    obtain ⟨⟨outcome, reason⟩, -, rfl⟩ := h
    rw [makePoolOutcome, filledResult_pool, simulatePool_pool hsim]

/-! ## Two orders of the same outcomes

So two orders give lists that are permutations of each other, with different pools, and these are
sorted to the same list. -/

section

variable {candidates : List QuoteCandidate}

/-- The ids of the candidates are distinct. -/
def DistinctPools (candidates : List QuoteCandidate) : Prop :=
  (candidates.map (·.pool.id)).Nodup

/-- A schedule without cancellation: every candidate is scheduled and every task completes. -/
def QuoteSchedule.Undisturbed (schedule : QuoteSchedule candidates) : Prop :=
  schedule.scheduled = candidates.length ∧ schedule.completed.length = schedule.scheduled

theorem DistinctPools.index_eq (h : DistinctPools candidates) {i j : Nat}
    {first second : QuoteCandidate} (hi : candidates[i]? = some first)
    (hj : candidates[j]? = some second) (hid : first.pool.id = second.pool.id) : i = j := by
  have hi' : (candidates.map (·.pool.id))[i]? = some first.pool.id := by
    rw [List.getElem?_map, hi]
    rfl
  have hj' : (candidates.map (·.pool.id))[j]? = some first.pool.id := by
    rw [List.getElem?_map, hj, hid]
    rfl
  have hlt : i < (candidates.map (·.pool.id)).length := (List.getElem?_eq_some_iff.mp hi').1
  exact (List.getElem?_inj hlt h).mp (hi'.trans hj'.symm)

/-- Entries of one pool are one entry, when at most one entry comes from a task. -/
theorem eq_of_pool_eq {β : Type} (hdistinct : DistinctPools candidates) {expectedLen : Nat}
    (entry : Except QuoteFailure PoolQuoteResult → Option β) (pool : β → String)
    (hpool : ∀ candidate ∈ candidates, ∀ b,
      entry (simulatePool candidate.pool expectedLen candidate.behaviour) = some b →
        pool b = candidate.pool.id) {completed : List Nat} {a b : β}
    (ha : a ∈ (completed.filterMap (taskOutcome candidates expectedLen)).filterMap entry)
    (hb : b ∈ (completed.filterMap (taskOutcome candidates expectedLen)).filterMap entry)
    (h : pool a = pool b) : a = b := by
  have horigin : ∀ c, c ∈ (completed.filterMap (taskOutcome candidates expectedLen)).filterMap
      entry → ∃ (i : Nat) (candidate : QuoteCandidate), candidates[i]? = some candidate ∧
        entry (simulatePool candidate.pool expectedLen candidate.behaviour) = some c := by
    intro c hc
    obtain ⟨outcome, houtcome, hentry⟩ := List.mem_filterMap.mp hc
    obtain ⟨i, -, hi⟩ := List.mem_filterMap.mp houtcome
    obtain ⟨candidate, hcandidate, rfl⟩ := Option.map_eq_some_iff.mp hi
    exact ⟨i, candidate, hcandidate, hentry⟩
  obtain ⟨i, first, hi, hfirst⟩ := horigin a ha
  obtain ⟨j, second, hj, hsecond⟩ := horigin b hb
  have hid : first.pool.id = second.pool.id := by
    rw [← hpool first (List.mem_of_getElem? hi) a hfirst,
      ← hpool second (List.mem_of_getElem? hj) b hsecond, h]
  obtain rfl := hdistinct.index_eq hi hj hid
  rw [hi] at hj
  cases hj
  exact Option.some.inj (hfirst.symm.trans hsecond)

/-- All tasks completed, in some order. -/
theorem QuoteSchedule.completed_perm (schedule : QuoteSchedule candidates)
    (h : schedule.completed.length = candidates.length) :
    schedule.completed.Perm (List.range candidates.length) := by
  refine (List.subperm_of_subset schedule.nodup fun i hi => ?_).perm_of_length_le ?_
  · rw [List.mem_range]
    exact (schedule.completed_lt i hi).trans_le schedule.scheduled_le
  · rw [List.length_range, h]

/-- Undisturbed schedules collect the same candidates. -/
theorem QuoteSchedule.Undisturbed.perm {first second : QuoteSchedule candidates}
    (h₁ : first.Undisturbed) (h₂ : second.Undisturbed) : first.completed.Perm second.completed :=
  (first.completed_perm (h₁.2.trans h₁.1)).trans (second.completed_perm (h₂.2.trans h₂.1)).symm

/-- Two run states that differ in the order of their lists only. -/
structure QuoteRunState.Agree (s t : QuoteRunState) : Prop where
  responses : s.responses.Perm t.responses
  poolResults : s.poolResults.Perm t.poolResults
  failures : s.failures.Perm t.failures
  classification : s.classification = t.classification
  status : s.status = t.status
  blockNumber : s.blockNumber = t.blockNumber

/-- States that agree do so after the check for an empty response. -/
theorem QuoteRunState.Agree.applyEmptyResponseState {s t : QuoteRunState} (h : s.Agree t) :
    s.applyEmptyResponseState.Agree t.applyEmptyResponseState := by
  rw [QuoteRunState.applyEmptyResponseState, QuoteRunState.applyEmptyResponseState,
    h.classification]
  have hnil : s.failures = [] ↔ t.failures = [] := by
    rw [← List.length_eq_zero_iff, ← List.length_eq_zero_iff, h.failures.length_eq]
  by_cases husable : t.classification.hadUsableResponse = true
  · rw [if_pos husable, if_pos husable]
    exact h
  · rw [if_neg husable, if_neg husable]
    by_cases hempty : t.failures = []
    · rw [if_pos hempty, if_pos (hnil.mpr hempty)]
      refine ⟨h.responses, h.poolResults, ?_, ?_, h.status, h.blockNumber⟩
      · exact h.failures.append_right _
      · exact congrArg (QuoteClassification.noteFailure · _) h.classification
    · rw [if_neg hempty, if_neg (fun hs => hempty (hnil.mp hs))]
      exact h

/-- The same outcomes in two orders. -/
theorem handleOutcomes_agree {s : QuoteRunState} {expectedLen : Nat}
    {first second : List (Except QuoteFailure PoolQuoteResult)} (h : first.Perm second) :
    (s.handleOutcomes expectedLen first).Agree (s.handleOutcomes expectedLen second) := by
  rw [QuoteRunState.handleOutcomes_eq, QuoteRunState.handleOutcomes_eq]
  exact ⟨(h.filterMap _).append_left _, (h.filterMap _).append_left _,
    (h.filterMap _).append_left _,
    h.foldl_eq' (fun x _ y _ c => QuoteClassification.noteTask_right_comm expectedLen c x y) _,
    rfl, rfl⟩

/-- What a caller sees of two quotes agrees; the failures as multisets. -/
structure QuoteComputation.SameVerdict (a b : QuoteComputation) : Prop where
  responses : a.responses = b.responses
  poolResults : a.poolResults = b.poolResults
  status : a.status = b.status
  resultQuality : a.resultQuality = b.resultQuality
  partialKind : a.partialKind = b.partialKind
  failures : a.failures.Perm b.failures

/-- **States that agree** are returned alike. -/
theorem QuoteRunState.Agree.sameVerdict {s t : QuoteRunState} (h : s.Agree t)
    (hresponses : ∀ a ∈ s.responses, ∀ b ∈ s.responses, a.pool = b.pool → a = b)
    (hpoolResults : ∀ a ∈ s.poolResults, ∀ b ∈ s.poolResults, a.pool = b.pool → a = b) :
    s.finishCurrentState.SameVerdict t.finishCurrentState := by
  have hsorted : s.responses.insertionSort (responseLe · ·) =
      t.responses.insertionSort (responseLe · ·) :=
    insertionSort_eq_of_perm compareResponses h.responses
      fun a ha b hb hcmp => hresponses a ha b hb (pool_eq_of_compareResponses hcmp)
  have hresults : s.poolResults.insertionSort (poolResultLe · ·) =
      t.poolResults.insertionSort (poolResultLe · ·) :=
    insertionSort_eq_of_perm comparePoolResults h.poolResults
      fun a ha b hb hcmp => hpoolResults a ha b hb (pool_eq_of_comparePoolResults hcmp)
  have hnil : s.failures = [] ↔ t.failures = [] := by
    rw [← List.length_eq_zero_iff, ← List.length_eq_zero_iff, h.failures.length_eq]
  have hexit : QuoteRunState.classifyCurrentExit { s with
        responses := s.responses.insertionSort (responseLe · ·)
        poolResults := s.poolResults.insertionSort (poolResultLe · ·) } =
      QuoteRunState.classifyCurrentExit { t with
        responses := t.responses.insertionSort (responseLe · ·)
        poolResults := t.poolResults.insertionSort (poolResultLe · ·) } := by
    simp only [QuoteRunState.classifyCurrentExit, QuoteRunState.classifyReadyExit, h.status,
      h.classification, hresults, hnil]
  refine ⟨hsorted, hresults, ?_, ?_, ?_, h.failures⟩
  · exact congrArg RequestExit.status hexit
  · exact congrArg RequestExit.resultQuality hexit
  · exact congrArg RequestExit.partialKind hexit

/-- The check for an empty response keeps rows and entries. -/
theorem QuoteRunState.applyEmptyResponseState_lists (s : QuoteRunState) :
    s.applyEmptyResponseState.responses = s.responses ∧
      s.applyEmptyResponseState.poolResults = s.poolResults := by
  rw [QuoteRunState.applyEmptyResponseState]
  split
  · exact ⟨rfl, rfl⟩
  · split <;> exact ⟨rfl, rfl⟩

/-- A quote does not depend on which pool finishes first. -/
theorem quote_order_independent (hdistinct : DistinctPools candidates)
    (blockNumber expectedLen : Nat) (first second : QuoteSchedule candidates)
    (h₁ : first.Undisturbed) (h₂ : second.Undisturbed) :
    (quoteComputation blockNumber expectedLen candidates first).SameVerdict
      (quoteComputation blockNumber expectedLen candidates second) := by
  have houtcomes : (first.completed.filterMap (taskOutcome candidates expectedLen)).Perm
      (second.completed.filterMap (taskOutcome candidates expectedLen)) :=
    (h₁.perm h₂).filterMap _
  rw [quoteComputation, quoteComputation, executePoolQuotes, executePoolQuotes,
    if_neg (by rw [h₁.2]; exact lt_irrefl _), if_neg (by rw [h₂.2]; exact lt_irrefl _)]
  refine (handleOutcomes_agree houtcomes).applyEmptyResponseState.sameVerdict ?_ ?_
  · rw [(QuoteRunState.applyEmptyResponseState_lists _).1, QuoteRunState.handleOutcomes_eq]
    intro a ha b hb
    exact eq_of_pool_eq hdistinct _ AmountOutResponse.pool
      (fun _ _ _ h => taskResponse_pool h) ha hb
  · rw [(QuoteRunState.applyEmptyResponseState_lists _).2, QuoteRunState.handleOutcomes_eq]
    intro a ha b hb
    exact eq_of_pool_eq hdistinct _ PoolSimulationOutcome.pool
      (fun _ _ _ h => taskPoolResult_pool h) ha hb

end

/-- A pool that quotes both amounts and one that quotes the first. -/
def fullAndPartialPools : List QuoteCandidate :=
  [{ pool := ⟨"a", "A", "0xa", "uniswap_v2"⟩
     behaviour := .ran [.amountOut 5 1, .amountOut 9 1] [3, 3] none },
   { pool := ⟨"b", "B", "0xb", "uniswap_v3"⟩
     behaviour := .ran [.amountOut 4 1, .error "exceeds limit"] [3] none }]

/-- Both completion orders of two pools. -/
theorem quote_order_independent_two :
    (quoteComputation 7 2 fullAndPartialPools ⟨2, [0, 1], by decide, by decide, by decide, by decide⟩).SameVerdict
      (quoteComputation 7 2 fullAndPartialPools ⟨2, [1, 0], by decide, by decide, by decide, by decide⟩) :=
  quote_order_independent (by unfold DistinctPools; decide) 7 2 _ _ ⟨rfl, rfl⟩ ⟨rfl, rfl⟩

end TychoSimulationServer
