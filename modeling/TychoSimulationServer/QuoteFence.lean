import TychoSimulationServer.QuoteCancellation
import TychoSimulationServer.QuoteRequest

/-!
# The fence of a quote

The native candidates of a quote come from one pinned version, so all that is left to check in the
end is whether the version is still the published one. If it is not, the native responses go.

The fence knows the pools by their ids only. The VM and RFQ stores are maps of their own, and an id
that is in the pin and in one of them stands for two candidates; the fence drops the responses of
both. `FenceCondition` excludes that.
-/

namespace TychoSimulationServer

open Fallible

variable {Sim : Type}

namespace QuoteEnv

variable (env : QuoteEnv Sim) (behaviours : PoolBehaviours Sim) (schedules : QuoteSchedules)

/-- The task of a candidate of a kind was collected and gave a response. -/
def Responded (prepared : PreparedQuote Sim) (kind : ScheduledPoolKind) (pool : CandidatePool Sim)
    (response : AmountOutResponse) : Prop :=
  ∃ i ∈ (schedules (env.quoteCandidates behaviours prepared)).completed,
    (scheduledPools prepared.sets)[i]? = some (kind, pool) ∧
    taskResponse prepared.start.pinned.blockNumber.toNat prepared.start.amountsIn.length
      (simulatePool (poolDescriptor env.config pool) prepared.start.amountsIn.length
        (behaviours kind pool)) = some response

/-- The native request of a pinned version was current at an instant after every other read: the
store was ready, it allowed requests, and the generation was still the published one. -/
def CurrentAfterwards (pinned : PublishedStateStore Sim) : Prop :=
  ∃ instant ≥ env.fenceInstant, (env.run.world instant).native.ready = true ∧
    (env.run.world instant).native.requestsAllowed = true ∧
    (env.run.world instant).native.requestGeneration = pinned.requestGeneration

/-- What the fence of a quote promises. -/
structure FenceFaithful (prepared : PreparedQuote Sim) : Prop where
  /-- a native response that is left comes from the pinned version, which was still current -/
  native : ∀ pool response, env.Responded behaviours schedules prepared .native pool response →
    response ∈ (env.getAmountsOut behaviours schedules).responses →
      poolById prepared.start.pinned pool.1 = some pool.2 ∧
        env.CurrentAfterwards prepared.start.pinned
  /-- no other response is dropped -/
  others : ∀ kind pool response, kind ≠ .native →
    env.Responded behaviours schedules prepared kind pool response →
      response ∈ (env.getAmountsOut behaviours schedules).responses
  /-- a drop is told -/
  told : ∀ kind pool response, env.Responded behaviours schedules prepared kind pool response →
    response ∉ (env.getAmountsOut behaviours schedules).responses →
      (env.getAmountsOut behaviours schedules).resultQuality ≠ .complete ∧
      ((env.getAmountsOut behaviours schedules).resultQuality = .partialResult ↔
        (env.getAmountsOut behaviours schedules).responses ≠ []) ∧
      ∃ failure ∈ (env.getAmountsOut behaviours schedules).failures,
        failure.kind = .staleNativeState

/-- The fence passes, or no VM or RFQ candidate that responded has the id of a native one. -/
def FenceCondition (prepared : PreparedQuote Sim) : Prop :=
  env.run.nativeRequestIsCurrent env.fenceInstant prepared.start.pinned.requestGeneration = true ∨
    ∀ kind pool response, kind ≠ .native →
      env.Responded behaviours schedules prepared kind pool response →
        ∀ native ∈ prepared.sets.native, native.1 ≠ pool.1

end QuoteEnv

/-! ## The candidates

Candidates are read from the stores at the pin; the quote schedules those it supports. -/

namespace QuoteEnv

variable {env : QuoteEnv Sim}

theorem mem_sortCandidates {candidates : List (CandidatePool Sim)} {pool : CandidatePool Sim} :
    pool ∈ sortCandidates candidates ↔ pool ∈ candidates :=
  (List.perm_insertionSort _ candidates).mem_iff

/-- A candidate is scheduled under the kind of its store. -/
theorem mem_scheduledPools {sets : CandidateSets Sim} {kind : ScheduledPoolKind}
    {pool : CandidatePool Sim} :
    (kind, pool) ∈ scheduledPools sets ↔
      match kind with
      | .native => pool ∈ sets.native
      | .vm => pool ∈ sets.vm
      | .rfq => pool ∈ sets.rfq := by
  cases kind <;> simp [scheduledPools, mem_sortCandidates]

/-- The native candidates are pools of the pinned version. -/
theorem poolById_of_native {start : QuoteStart Sim} {pool : CandidatePool Sim}
    (h : pool ∈ (env.candidateSets start).native) :
    poolById start.pinned pool.1 = some pool.2 := by
  have hmatching : pool ∈ matchingPools start.pinned start.pair.tokenInBytes
      start.pair.tokenOutBytes := (List.mem_filter.mp h).1
  exact (mem_matchingPools.mp hmatching).1

/-- A prepared quote has the candidates of its stores. -/
theorem prepare_sets {prepared : PreparedQuote Sim} (h : env.prepare = .ok prepared) :
    env.start = .ok prepared.start ∧ prepared.sets = env.candidateSets prepared.start := by
  rw [prepare] at h
  obtain ⟨start, hstart, h⟩ := bind_eq_ok.mp h
  dsimp only at h
  rw [check_bind_eq_ok, pure_eq_ok] at h
  obtain ⟨-, rfl⟩ := h
  exact ⟨hstart, rfl⟩

/-- A quote that ends before it has candidates is rejected as a whole, and not for want of
liquidity. -/
theorem start_rejects (env : QuoteEnv Sim) :
    FailsWith (fun computation => ∃ blockNumber failure status, status ≠ .noLiquidity ∧
      computation = rejected blockNumber failure status .requestLevelFailure) env.start := by
  have hrejected : ∀ (blockNumber : Nat) (failure : QuoteFailure) (status : QuoteStatus),
      status ≠ .noLiquidity → ∃ blockNumber' failure' status', status' ≠ .noLiquidity ∧
        rejected blockNumber failure status .requestLevelFailure =
          rejected blockNumber' failure' status' .requestLevelFailure :=
    fun blockNumber failure status h => ⟨blockNumber, failure, status, h, rfl⟩
  have haddress : ∀ blockNumber raw field, FailsWith (fun computation : QuoteComputation =>
      ∃ blockNumber failure status, status ≠ .noLiquidity ∧
        computation = rejected blockNumber failure status .requestLevelFailure)
      (env.parseRequestAddress blockNumber raw field) := by
    intro blockNumber raw field
    rw [parseRequestAddress]
    split
    · exact .ok _
    · exact .error (hrejected _ _ _ (by decide))
  have htoken : ∀ blockNumber lookup address, FailsWith (fun computation : QuoteComputation =>
      ∃ blockNumber failure status, status ≠ .noLiquidity ∧
        computation = rejected blockNumber failure status .requestLevelFailure)
      (handleTokenLookup blockNumber lookup address) := by
    intro blockNumber lookup address
    cases lookup with
    | ok found =>
      cases found with
      | none => exact .error (hrejected _ _ _ (by decide))
      | some token => exact .ok _
    | error err => cases err <;> exact .error (hrejected _ _ _ (by decide))
  rw [start]
  -- the exits of the request in the order of the source
  refine .bind (.ensure (hrejected _ _ _ (by decide))) fun _ => .bind ?_ fun pair =>
    .bind ?_ fun check => .bind ?_ fun tokens => .bind ?_ fun amountsIn => .ok _
  · rw [parsePair]
    exact .bind (haddress _ _ _) fun _ => .bind (haddress _ _ _) fun _ =>
      .bind (.ensure (hrejected _ _ _ (by decide))) fun _ =>
        .bind (.ensure (hrejected _ _ _ (by decide))) fun _ => .ok _
  · rw [ensureReady]
    split
    · exact .ok _
    · exact .error (hrejected _ _ _ (by decide))
  · rw [loadTokens]
    split
    · exact .ok _
    · exact .bind (htoken _ _ _) fun _ => .bind (htoken _ _ _) fun _ => .ok _
  · rw [parseAmounts]
    cases env.request.amounts.mapM env.config.bigUintFromStr with
    | ok amounts => exact .ok _
    | error err => exact .error (hrejected _ _ _ (by decide))

/-! ## What the fence does

The fence asks after the computation whether the pinned native store is still current, and if it is
not drops the rows of all native candidates. -/

variable {behaviours : PoolBehaviours Sim} {schedules : QuoteSchedules}
  {prepared : PreparedQuote Sim}

/-- The computation that the fence is applied to. -/
def unfenced (env : QuoteEnv Sim) (behaviours : PoolBehaviours Sim) (schedules : QuoteSchedules)
    (prepared : PreparedQuote Sim) : QuoteComputation :=
  quoteComputation prepared.start.pinned.blockNumber.toNat prepared.start.amountsIn.length
    (env.quoteCandidates behaviours prepared) (schedules (env.quoteCandidates behaviours prepared))

/-- The responses before the fence are those of the candidates. -/
theorem mem_unfenced {response : AmountOutResponse} :
    response ∈ (env.unfenced behaviours schedules prepared).responses ↔
      ∃ kind pool, env.Responded behaviours schedules prepared kind pool response := by
  rw [unfenced, mem_responses]
  refine ⟨fun ⟨i, hi, candidate, hget, hresponse⟩ => ?_,
    fun ⟨kind, pool, i, hi, hget, hresponse⟩ => ?_⟩
  · rw [quoteCandidates, List.getElem?_map, Option.map_eq_some_iff] at hget
    obtain ⟨⟨kind, pool⟩, hget, rfl⟩ := hget
    exact ⟨kind, pool, i, hi, hget, hresponse⟩
  · refine ⟨i, hi, ⟨poolDescriptor env.config pool, behaviours kind pool⟩, ?_, hresponse⟩
    rw [quoteCandidates, List.getElem?_map, hget]
    rfl

/-- A response carries the id of its candidate. -/
theorem Responded.pool {kind : ScheduledPoolKind} {pool : CandidatePool Sim}
    {response : AmountOutResponse}
    (h : env.Responded behaviours schedules prepared kind pool response) :
    response.pool = pool.1 := by
  obtain ⟨i, -, -, hresponse⟩ := h
  exact taskResponse_pool hresponse

/-- A candidate that responded is one of its store. -/
theorem Responded.mem {kind : ScheduledPoolKind} {pool : CandidatePool Sim}
    {response : AmountOutResponse}
    (h : env.Responded behaviours schedules prepared kind pool response) :
    (kind, pool) ∈ scheduledPools prepared.sets := by
  obtain ⟨i, -, hget, -⟩ := h
  exact List.mem_of_getElem? hget

/-- The ids of the native candidates. -/
def nativePoolIds (prepared : PreparedQuote Sim) : List String :=
  prepared.sets.native.map (·.1)

/-- The native responses are dropped. -/
def Dropped (env : QuoteEnv Sim) (behaviours : PoolBehaviours Sim) (schedules : QuoteSchedules)
    (prepared : PreparedQuote Sim) : Prop :=
  (env.unfenced behaviours schedules prepared).responses.any
      ((nativePoolIds prepared).contains ·.pool) = true ∧
    env.run.nativeRequestIsCurrent env.fenceInstant
      prepared.start.pinned.requestGeneration = false

/-- **A quote with candidates** returns what it computed, or that without the native responses. -/
theorem getAmountsOut_eq (env : QuoteEnv Sim) (h : env.prepare = .ok prepared) :
    (¬env.Dropped behaviours schedules prepared ∧ env.getAmountsOut behaviours schedules =
      env.unfenced behaviours schedules prepared) ∨
    (env.Dropped behaviours schedules prepared ∧ env.getAmountsOut behaviours schedules =
      discardStaleNativeResponses (env.unfenced behaviours schedules prepared)
        (nativePoolIds prepared)) := by
  have hrun : env.runQuote behaviours schedules =
      (env.unfenced behaviours schedules prepared, if prepared.sets.native = [] then none
        else some { requestGeneration := prepared.start.pinned.requestGeneration
                    nativePoolIds := nativePoolIds prepared }) := by
    rw [runQuote, h]
    rfl
  rw [getAmountsOut, hrun]
  by_cases hnone : prepared.sets.native = []
  · rw [if_pos hnone]
    refine .inl ⟨fun hdropped => ?_, rfl⟩
    have hany := hdropped.1
    simp [nativePoolIds, hnone] at hany
  · rw [if_neg hnone]
    dsimp only
    split
    · rename_i hdropped
      exact .inr ⟨hdropped, rfl⟩
    · rename_i hkept
      exact .inl ⟨hkept, rfl⟩

end QuoteEnv

/-! ## A drop -/

section

variable {computation : QuoteComputation} {ids : List String}

/-- The rows that are left are those with other ids. -/
theorem discard_mem {response : AmountOutResponse} :
    response ∈ (discardStaleNativeResponses computation ids).responses ↔
      response ∈ computation.responses ∧ response.pool ∉ ids := by
  have hresponses : (discardStaleNativeResponses computation ids).responses =
      computation.responses.filter fun response => !ids.contains response.pool := by
    rw [discardStaleNativeResponses]
    split <;> rfl
  rw [hresponses, List.mem_filter]
  simp

/-- Something was dropped: the quality tells what is left, and a failure tells why. -/
theorem discard_told (h : computation.responses.any (ids.contains ·.pool) = true) :
    (discardStaleNativeResponses computation ids).resultQuality ≠ .complete ∧
      ((discardStaleNativeResponses computation ids).resultQuality = .partialResult ↔
        (discardStaleNativeResponses computation ids).responses ≠ []) ∧
      ∃ failure ∈ (discardStaleNativeResponses computation ids).failures,
        failure.kind = .staleNativeState := by
  have hshort : (computation.responses.filter fun response => !ids.contains response.pool).length <
      computation.responses.length := by
    obtain ⟨response, hmem, hid⟩ := List.any_eq_true.mp h
    refine List.length_filter_lt_length_iff_exists.mpr ⟨response, hmem, ?_⟩
    simpa using hid
  rw [discardStaleNativeResponses, if_neg (by omega)]
  refine ⟨?_, ?_, _, List.mem_append_right _ (List.mem_singleton_self _), rfl⟩
  · dsimp only
    split <;> exact fun hcomplete => nomatch hcomplete
  · dsimp only
    split
    · rename_i hnil
      exact iff_of_false (fun hpartial => nomatch hpartial) (not_not.mpr hnil)
    · rename_i hnonempty
      exact iff_of_true rfl hnonempty

end

/-! ## The promise of the fence

A row that was dropped was a native one, unless another store has a pool of the same id. -/

namespace QuoteEnv

variable {env : QuoteEnv Sim} {behaviours : PoolBehaviours Sim} {schedules : QuoteSchedules}
  {prepared : PreparedQuote Sim}

/-- A native request that is current was so at the last read of the check. -/
theorem currentAfterwards_of_current {pinned : PublishedStateStore Sim}
    (h : env.run.nativeRequestIsCurrent env.fenceInstant pinned.requestGeneration = true) :
    env.CurrentAfterwards pinned := by
  simp only [EncodeRun.nativeRequestIsCurrent, Bool.and_eq_true, decide_eq_true_eq] at h
  exact ⟨env.fenceInstant + 2, Nat.le_add_right _ _, h.1.1.2, h.1.2, h.2⟩

/-- The ids are those of the native candidates. -/
theorem mem_nativePoolIds {id : String} :
    id ∈ nativePoolIds prepared ↔ ∃ native ∈ prepared.sets.native, native.1 = id :=
  List.mem_map

/-- A dropped response has the id of a native candidate. -/
theorem not_mem_of_dropped (hdropped : env.Dropped behaviours schedules prepared)
    (h : env.prepare = .ok prepared) {response : AmountOutResponse} {native : CandidatePool Sim}
    (hnative : native ∈ prepared.sets.native) (hid : native.1 = response.pool) :
    response ∉ (env.getAmountsOut behaviours schedules).responses := by
  obtain ⟨hkept, -⟩ | ⟨-, heq⟩ := env.getAmountsOut_eq h
  · exact absurd hdropped hkept
  · rw [heq, discard_mem]
    exact fun hleft => hleft.2 (mem_nativePoolIds.mpr ⟨native, hnative, hid⟩)

/-- The fence keeps its promise in one quote. -/
theorem fenceFaithful_iff (h : env.prepare = .ok prepared) :
    env.FenceFaithful behaviours schedules prepared ↔
      env.FenceCondition behaviours schedules prepared := by
  refine ⟨fun hfaithful => ?_, fun hcondition => ⟨?_, ?_, ?_⟩⟩
  · rw [FenceCondition, or_iff_not_imp_left, Bool.not_eq_true]
    intro hstale kind pool response hkind hresponse native hnative hid
    -- the response of another backend would go with the native ones
    have hdropped : env.Dropped behaviours schedules prepared := by
      refine ⟨List.any_eq_true.mpr ⟨response, mem_unfenced.mpr ⟨kind, pool, hresponse⟩, ?_⟩, hstale⟩
      rw [List.contains_iff_mem]
      exact mem_nativePoolIds.mpr ⟨native, hnative, hid.trans hresponse.pool.symm⟩
    exact not_mem_of_dropped hdropped h hnative (hid.trans hresponse.pool.symm)
      (hfaithful.others kind pool response hkind hresponse)
  · intro pool response hresponse hmem
    obtain ⟨hstart, hsets⟩ := prepare_sets h
    have hnative : pool ∈ prepared.sets.native := mem_scheduledPools.mp hresponse.mem
    refine ⟨poolById_of_native (hsets ▸ hnative), currentAfterwards_of_current ?_⟩
    by_contra hstale
    refine not_mem_of_dropped ⟨List.any_eq_true.mpr ⟨response,
      mem_unfenced.mpr ⟨.native, pool, hresponse⟩, ?_⟩, Bool.not_eq_true _ ▸ hstale⟩ h hnative
      hresponse.pool.symm hmem
    rw [List.contains_iff_mem]
    exact mem_nativePoolIds.mpr ⟨pool, hnative, hresponse.pool.symm⟩
  · intro kind pool response hkind hresponse
    have hbefore : response ∈ (env.unfenced behaviours schedules prepared).responses :=
      mem_unfenced.mpr ⟨kind, pool, hresponse⟩
    obtain ⟨-, heq⟩ | ⟨hdropped, heq⟩ := env.getAmountsOut_eq h
    · rw [heq]
      exact hbefore
    · rw [heq, discard_mem]
      refine ⟨hbefore, fun hid => ?_⟩
      obtain ⟨native, hnative, hname⟩ := mem_nativePoolIds.mp hid
      refine hcondition.elim (fun hcurrent => ?_) fun hdistinct =>
        hdistinct kind pool response hkind hresponse native hnative (hname.trans hresponse.pool)
      exact absurd hcurrent (Bool.not_eq_true _ ▸ hdropped.2)
  · intro kind pool response hresponse hgone
    obtain ⟨-, heq⟩ | ⟨hdropped, heq⟩ := env.getAmountsOut_eq h
    · rw [heq] at hgone
      exact absurd (mem_unfenced.mpr ⟨kind, pool, hresponse⟩) hgone
    · rw [heq]
      exact discard_told hdropped.1

/-- In every quote that gets as far as its candidates, the native responses left were simulated on
a pinned version that was still current afterwards, a drop is told, and no other response is dropped
exactly when the fence passes or no responding VM or RFQ candidate has a native candidate's id. -/
theorem quote_fence_iff (env : QuoteEnv Sim) (behaviours : PoolBehaviours Sim)
    (schedules : QuoteSchedules) :
    (∀ prepared, env.prepare = .ok prepared →
        env.FenceFaithful behaviours schedules prepared) ↔
      ∀ prepared, env.prepare = .ok prepared →
        env.FenceCondition behaviours schedules prepared :=
  forall_congr' fun _ => forall_congr' fun h => fenceFaithful_iff h

end QuoteEnv

/-! ## One id in two stores

The native store is published again while a pair is quoted; a VM pool with the id of the native one
is dropped with it. -/

open QuoteEnv

/-- A pool of the tokens `1` and `2`. -/
def pairPool : ProtocolComponent :=
  { id := [], protocolSystem := "uniswap_v2", protocolTypeName := "", tokens := [⟨[1]⟩, ⟨[2]⟩] }

/-- Announce the pool `"pool"`. -/
def announcePair : Update Unit :=
  { blockNumberOrTimestamp := 1
    newPairs := .ofList [("pool", pairPool)]
    states := .ofList [("pool", ())]
    removedPairs := ∅ }

/-- A store with the one pool. -/
def pairStore : PublishedStateStore Unit :=
  (applyUpdate (.empty ∅ none) announcePair).1

/-- A request for the tokens `1` and `2`. -/
def pairConfig : QuoteConfig where
  bytesFromStr address := .ok (if address = "01" then [1] else [2])
  bigUintFromStr _ := .ok 1
  ensureToken _ := .ok none
  derivePoolName _ := ""
  wrappedNativeToken := none
  chainNative := []
  chainWrappedNative := []
  erc4626DepositsEnabled := false
  erc4626PairPolicies := []

/-- A native store that stays as it is until an operation at one instant. -/
def worldUntil (instant : Nat) (vm after : PublishedStateStore Unit)
    (vmReadiness : OptionalReadiness) (i : Nat) : World Unit where
  native := if i < instant then pairStore else after
  vm := vm
  rfq := .empty ∅ none
  nativeBootstrapReady := true
  nativeUpdateStale := false
  vmReadiness := vmReadiness
  rfqReadiness := .disabled

theorem worldUntil_steps {instant : Nat} {vm after : PublishedStateStore Unit}
    {vmReadiness : OptionalReadiness} (h : Relation.ReflTransGen NativeStoreStep pairStore after)
    (i : Nat) :
    Relation.ReflTransGen NativeStoreStep (worldUntil instant vm after vmReadiness i).native
      (worldUntil instant vm after vmReadiness (i + 1)).native := by
  rw [worldUntil, worldUntil]
  by_cases hbefore : i + 1 < instant
  · rw [if_pos (by omega), if_pos hbefore]
  · rw [if_neg hbefore]
    split
    · exact h
    · exact .refl

/-- The pool is in the native store and in the VM store, and the native store is fenced before the
quote asks. -/
def sharedIdQuote : QuoteEnv Unit where
  run := ⟨worldUntil 14 pairStore (fenceRequests pairStore) .ready,
    worldUntil_steps (.single (.fenceRequests pairStore))⟩
  config := pairConfig
  request := ⟨"0x01", "0x02", ["1"]⟩
  cancelled := false
  readinessChecks := 1

/-- Every pool quotes the amount. -/
def quotesOne (out : Nat) : PoolBehaviours Unit :=
  fun _ _ => .ran [.amountOut out 1] [0] none

/-- All candidates are scheduled, and complete in their order. -/
def inOrder : QuoteSchedules :=
  fun candidates => ⟨candidates.length, List.range candidates.length, le_rfl,
    fun _ hi => List.mem_range.mp hi, List.nodup_range, fun h => absurd h (lt_irrefl _)⟩

/-- What the quote prepares. -/
theorem sharedIdQuote_prepare : ∃ prepared, sharedIdQuote.prepare = .ok prepared ∧
    scheduledPools prepared.sets =
      [(.native, "pool", ⟨(), pairPool⟩), (.vm, "pool", ⟨(), pairPool⟩)] ∧
    prepared.start.amountsIn.length = 1 := by
  have hprepared : (sharedIdQuote.prepare.toOption.map fun prepared =>
      (scheduledPools prepared.sets, prepared.start.amountsIn.length)) =
      some ([(.native, "pool", ⟨(), pairPool⟩), (.vm, "pool", ⟨(), pairPool⟩)], 1) := by
    decide +kernel
  obtain ⟨prepared, hsome, heq⟩ := Option.map_eq_some_iff.mp hprepared
  rw [Prod.mk.injEq] at heq
  refine ⟨prepared, ?_, heq⟩
  cases hprepare : sharedIdQuote.prepare with
  | error computation =>
    rw [hprepare] at hsome
    cases hsome
  | ok found =>
    rw [hprepare] at hsome
    cases hsome
    rfl

/-- The VM response goes with the native one. -/
theorem quote_fence_drops_vm :
    (sharedIdQuote.getAmountsOut (quotesOne 5) inOrder).responses = [] ∧
      ¬∀ prepared, sharedIdQuote.prepare = .ok prepared →
        sharedIdQuote.FenceFaithful (quotesOne 5) inOrder prepared := by
  have hnone : (sharedIdQuote.getAmountsOut (quotesOne 5) inOrder).responses = [] := by
    decide +kernel
  refine ⟨hnone, fun h => ?_⟩
  obtain ⟨prepared, hprepare, hpools, hamounts⟩ := sharedIdQuote_prepare
  have hcompleted : 1 ∈ (inOrder (sharedIdQuote.quoteCandidates (quotesOne 5) prepared)).completed := by
    rw [inOrder, List.mem_range, quoteCandidates, List.length_map, hpools]
    decide
  have hsome : (taskResponse prepared.start.pinned.blockNumber.toNat 1 (simulatePool
      (poolDescriptor sharedIdQuote.config ("pool", ⟨(), pairPool⟩)) 1
      (quotesOne 5 .vm ("pool", ⟨(), pairPool⟩)))).isSome = true := rfl
  obtain ⟨response, hresponse⟩ := Option.isSome_iff_exists.mp hsome
  have hresponded : sharedIdQuote.Responded (quotesOne 5) inOrder prepared .vm
      ("pool", ⟨(), pairPool⟩) response :=
    ⟨1, hcompleted, by rw [hpools]; rfl, by rw [hamounts]; exact hresponse⟩
  have hleft := (h prepared hprepare).others .vm _ _ (fun h => nomatch h) hresponded
  rw [hnone] at hleft
  cases hleft

end TychoSimulationServer
