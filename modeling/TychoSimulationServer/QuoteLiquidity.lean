import TychoSimulationServer.QuoteFence

/-!
# What a quote without liquidity rests on

`NoLiquidity` says something about the pinned native version: that no pool of it gives anything for
the pair. It is worth something only if

* the version **serves**: it is ready and allows requests;
* the lookup **finds the pools** of the version that list the pair.

The first is checked before the pin and not again. The readiness check reads whether the store
serves, reads once more for the stale updates, and only then is the published version pinned: what
the store has done in between decides. Each of its operations either publishes nothing or **opens**
or **withdraws** the store, whatever it was before, so the last one that publishes is the one that
counts. A store that was reset or fenced last is pinned as it is then, and a quote of an empty
version ends at once.

The second is a matter of the token index, which is right in every run whose updates respect the
store.
-/

namespace TychoSimulationServer

open Fallible

variable {Sim : Type}

/-! ## Pools of a pair

What pools of a pair a store has, by its shards and by its index, and how operations on the native
store change that. -/

/-- A component lists two tokens. -/
def ProtocolComponent.ListsPair (component : ProtocolComponent) (tokenIn tokenOut : Bytes) : Prop :=
  tokenIn ∈ component.addresses ∧ tokenOut ∈ component.addresses

/-- A component matches a pair in a version: it lists both tokens, or, when no pool of the version
does, stand-ins of both. -/
def PublishedStateStore.PairListed (s : PublishedStateStore Sim) (tokenIn tokenOut : Bytes)
    (component : ProtocolComponent) : Prop :=
  component.ListsPair tokenIn tokenOut ∨
    (¬∃ id entry, poolById s id = some entry ∧ entry.component.ListsPair tokenIn tokenOut) ∧
      (∃ token ∈ s.standIns tokenIn, token ∈ component.addresses) ∧
      ∃ token ∈ s.standIns tokenOut, token ∈ component.addresses

/-- In a consistent store the index lists an id for a pair when its component matches the pair. -/
theorem pairIndexed_iff_of_consistent {s : PublishedStateStore Sim} (hs : s.IndexConsistent)
    {tokenIn tokenOut : Bytes} {id : String} {entry : PoolEntry Sim}
    (h : poolById s id = some entry) :
    s.PairIndexed tokenIn tokenOut id ↔ s.PairListed tokenIn tokenOut entry.component := by
  have hindexed : ∀ {id : String} {entry : PoolEntry Sim} (token : Bytes),
      poolById s id = some entry → (s.Indexed token id ↔ token ∈ entry.component.addresses) := by
    intro id entry token hpool
    obtain ⟨kind, hstored⟩ := (poolById_eq_some hs).mp hpool
    rw [hs.indexed_iff]
    refine ⟨fun ⟨other, found, hfound, hmem⟩ => ?_, fun hmem => ⟨kind, entry, hstored, hmem⟩⟩
    have hfound' := (poolById_eq_some hs).mpr ⟨other, hfound⟩
    cases hpool.symm.trans hfound'
    exact hmem
  have hnone : (∃ other, (poolById s other).isSome ∧ s.Indexed tokenIn other ∧
      s.Indexed tokenOut other) ↔
      ∃ id entry, poolById s id = some entry ∧ entry.component.ListsPair tokenIn tokenOut := by
    refine ⟨fun ⟨other, hsome, hboth⟩ => ?_, fun ⟨other, found, hfound, hboth⟩ => ?_⟩
    · obtain ⟨found, hfound⟩ := Option.isSome_iff_exists.mp hsome
      exact ⟨other, found, hfound, (hindexed _ hfound).mp hboth.1, (hindexed _ hfound).mp hboth.2⟩
    · exact ⟨other, by rw [hfound]; rfl, (hindexed _ hfound).mpr hboth.1,
        (hindexed _ hfound).mpr hboth.2⟩
  rw [PublishedStateStore.PairIndexed, PublishedStateStore.PairListed, hnone,
    ProtocolComponent.ListsPair]
  simp only [hindexed _ h]

/-! ## What an operation says to requests

An operation on the native store as data, and the flags of the version it publishes. They are all
but independent of the version before: an update serves if it leaves a pool, a candidate if it is
ready, an alignment if the store is ready, a reset and a fence never do.
-/

/-- An operation on the native store. -/
inductive NativeStoreOp (Sim : Type) where
  | applyUpdate (update : Update Sim)
  | applyUpdateAtVersion (update : Update Sim) (stateVersion : UInt64)
  | publishCandidate (candidate : PublishedStateStore Sim) (targetVersion : UInt64)
  | reset
  | resetProtocols (protocols : List ProtocolKind)
  | fenceRequests
  | alignBootstrapStateVersion (stateVersion : UInt64)

/-- The store after the operation. -/
def NativeStoreOp.perform (s : PublishedStateStore Sim) :
    NativeStoreOp Sim → PublishedStateStore Sim
  | .applyUpdate update => (TychoSimulationServer.applyUpdate s update).1
  | .applyUpdateAtVersion update stateVersion =>
    (exec (TychoSimulationServer.applyUpdateAtVersion update stateVersion) s).2
  | .publishCandidate candidate targetVersion =>
    (exec (TychoSimulationServer.publishCandidate candidate targetVersion) s).2
  | .reset => TychoSimulationServer.reset s
  | .resetProtocols protocols => TychoSimulationServer.resetProtocols s protocols
  | .fenceRequests => TychoSimulationServer.fenceRequests s
  | .alignBootstrapStateVersion stateVersion =>
    TychoSimulationServer.alignBootstrapStateVersion s stateVersion

/-- Whether the operation opens the store to requests (`some true`) or withdraws it (`some false`);
`none` if it publishes nothing. -/
def NativeStoreOp.opens (s : PublishedStateStore Sim) : NativeStoreOp Sim → Option Bool
  | .applyUpdate update =>
    some (decide ((TychoSimulationServer.applyUpdate s update).2.totalPairs > 0))
  | .applyUpdateAtVersion update stateVersion =>
    if s.version < stateVersion then
      some (decide ((applyUpdateLocked s update stateVersion).2.totalPairs > 0))
    else none
  | .publishCandidate candidate targetVersion =>
    if s.version < targetVersion then some candidate.ready else none
  | .reset => some false
  | .resetProtocols protocols =>
    if protocols.isEmpty then none
    else if protocols.length ≥ ProtocolKind.all.length then some false
    else if protocols.any (fun kind => s.shards[kind]?.isSome) then
      some (!(TychoSimulationServer.resetProtocols s protocols).idToKind.isEmpty)
    else none
  | .fenceRequests => some false
  | .alignBootstrapStateVersion _ => some s.ready

/-- The store after the operations, one after another. -/
def performAll (s : PublishedStateStore Sim) (ops : List (NativeStoreOp Sim)) :
    PublishedStateStore Sim :=
  ops.foldl NativeStoreOp.perform s

/-- What the last of the operations that publishes says to requests. -/
def lastOpens (s : PublishedStateStore Sim) : List (NativeStoreOp Sim) → Option Bool
  | [] => none
  | op :: ops => (lastOpens (op.perform s) ops).or (op.opens s)

/-- A version that is ready and allows requests. -/
def PublishedStateStore.Serves (s : PublishedStateStore Sim) : Prop :=
  s.ready = true ∧ s.requestsAllowed = true

/-- A step of the native store is one of the operations. -/
theorem exists_op_of_step {s s' : PublishedStateStore Sim} (h : NativeStoreStep s s') :
    ∃ op : NativeStoreOp Sim, op.perform s = s' := by
  cases h with
  | applyUpdate update => exact ⟨.applyUpdate update, rfl⟩
  | applyUpdateAtVersion h => exact ⟨.applyUpdateAtVersion _ _, congrArg Prod.snd h⟩
  | publishCandidate h => exact ⟨.publishCandidate _ _, congrArg Prod.snd h⟩
  | reset => exact ⟨.reset, rfl⟩
  | resetProtocols protocols => exact ⟨.resetProtocols protocols, rfl⟩
  | fenceRequests => exact ⟨.fenceRequests, rfl⟩
  | alignBootstrapStateVersion stateVersion =>
    exact ⟨.alignBootstrapStateVersion stateVersion, rfl⟩

/-- Steps of the store are operations in a row. -/
theorem exists_ops_of_steps {s s' : PublishedStateStore Sim}
    (h : Relation.ReflTransGen NativeStoreStep s s') :
    ∃ ops : List (NativeStoreOp Sim), performAll s ops = s' := by
  induction h with
  | refl => exact ⟨[], rfl⟩
  | tail _ hlast ih =>
    obtain ⟨ops, rfl⟩ := ih
    obtain ⟨op, rfl⟩ := exists_op_of_step hlast
    exact ⟨ops ++ [op], List.foldl_append⟩

/-- **What one operation says.** If it publishes a version, that one serves or not, whatever was
before; if not, the store is as it was. -/
theorem NativeStoreOp.opens_spec (op : NativeStoreOp Sim) (s : PublishedStateStore Sim) :
    match op.opens s with
    | some opened => (op.perform s).Serves ↔ opened = true
    | none => op.perform s = s := by
  cases op with
  | applyUpdate update =>
    simp [opens, perform, PublishedStateStore.Serves, TychoSimulationServer.applyUpdate,
      applyUpdateLocked, publish]
  | applyUpdateAtVersion update stateVersion =>
    rw [opens, perform, exec_applyUpdateAtVersion]
    by_cases h : s.version < stateVersion
    · simp [h, PublishedStateStore.Serves, applyUpdateLocked, publish]
    · simp [h]
  | publishCandidate candidate targetVersion =>
    rw [opens, perform, exec_publishCandidate]
    by_cases h : s.version < targetVersion
    · simp [h, PublishedStateStore.Serves, publish]
    · simp [h]
  | reset =>
    simp [opens, perform, PublishedStateStore.Serves, TychoSimulationServer.reset, publish,
      PublishedStateStore.empty]
  | resetProtocols protocols =>
    simp only [opens, perform, TychoSimulationServer.resetProtocols]
    by_cases hempty : protocols.isEmpty
    · simp only [if_pos hempty]
    · by_cases hall : protocols.length ≥ ProtocolKind.all.length
      · simp only [if_neg hempty, if_pos hall]
        simp [PublishedStateStore.Serves, TychoSimulationServer.reset, publish,
          PublishedStateStore.empty]
      · by_cases hany : protocols.any fun kind => s.shards[kind]?.isSome
        · simp only [if_neg hempty, if_neg hall, if_pos hany]
          simp [PublishedStateStore.Serves, publish]
        · simp only [if_neg hempty, if_neg hall, if_neg hany]
  | fenceRequests =>
    simp [opens, perform, PublishedStateStore.Serves, TychoSimulationServer.fenceRequests, publish]
  | alignBootstrapStateVersion stateVersion =>
    simp [opens, perform, PublishedStateStore.Serves,
      TychoSimulationServer.alignBootstrapStateVersion, publish]

/-- **What operations say.** The last one that publishes decides; if none does, the store serves if
it did before. -/
theorem serves_performAll {ops : List (NativeStoreOp Sim)} {s : PublishedStateStore Sim} :
    (performAll s ops).Serves ↔ lastOpens s ops = some true ∨ lastOpens s ops = none ∧ s.Serves := by
  induction ops generalizing s with
  | nil => simp [performAll, lastOpens]
  | cons op ops ih =>
    have hspec := op.opens_spec s
    change (performAll (op.perform s) ops).Serves ↔ _
    rw [ih, lastOpens]
    cases hlater : lastOpens (op.perform s) ops with
    | some opened => simp
    | none =>
      cases hopens : op.opens s with
      | some opened =>
        rw [hopens] at hspec
        simp [hspec]
      | none =>
        rw [hopens] at hspec
        simp [hspec]

/-- A store that serves still does unless the last operation that publishes withdraws it. -/
theorem serves_performAll_iff {ops : List (NativeStoreOp Sim)} {s : PublishedStateStore Sim}
    (h : s.Serves) : (performAll s ops).Serves ↔ lastOpens s ops ≠ some false := by
  rw [serves_performAll]
  cases lastOpens s ops with
  | none => simp [h]
  | some opened => cases opened <;> simp

/-! ## The claim of a quote without liquidity -/

namespace QuoteEnv

variable (env : QuoteEnv Sim)

/-- The ERC4626 policy lets a component be used for the pair of a quote. -/
def Supported (start : QuoteStart Sim) (component : ProtocolComponent) : Prop :=
  componentDirectionSupported component start.pair.tokenInBytes start.pair.tokenOutBytes
    env.config.erc4626DepositsEnabled env.config.erc4626PairPolicies = true

/-- A quote that says that there is no liquidity says so on the basis of a serving version, all of
whose pools for the pair were candidates. -/
def NoLiquidityJustified (behaviours : PoolBehaviours Sim) (schedules : QuoteSchedules) : Prop :=
  (env.getAmountsOut behaviours schedules).status = .noLiquidity →
    ∃ start, env.start = .ok start ∧
      start.pinned.ready = true ∧ start.pinned.requestsAllowed = true ∧
      (∀ pool, pool ∈ (env.candidateSets start).native ↔
        poolById start.pinned pool.1 = some pool.2 ∧
          start.pinned.PairListed start.pair.tokenInBytes start.pair.tokenOutBytes
            pool.2.component ∧ env.Supported start pool.2.component) ∧
      (env.getAmountsOut behaviours schedules).blockNumber = start.pinned.blockNumber.toNat

/-- The version the readiness check has read. -/
def readBefore (check : Nat) : PublishedStateStore Sim :=
  (env.run.world (readinessInstant check + 1)).native

/-- Whatever operations have led from the version the readiness check read to the version that is
pinned, the last of them that publishes anything does not withdraw the store. -/
def OpenAtPin (start : QuoteStart Sim) : Prop :=
  ∀ ops, performAll (env.readBefore start.check) ops = env.pinnedAfter start.check →
    lastOpens (env.readBefore start.check) ops ≠ some false

/-- The native store has come to each of its versions by operations whose updates respect it. -/
def StoreRespected : Prop :=
  ∀ i, StoreReachable RespectsStore (env.run.world i).native

variable {env}

/-- The version a quote works with is the one published at the pin, right after a readiness check
that passed. -/
theorem start_pinned {start : QuoteStart Sim} (h : env.start = .ok start) :
    start.pinned = env.pinnedAfter start.check ∧
      env.run.nativeReadiness (readinessInstant start.check) = .ready := by
  rw [QuoteEnv.start] at h
  rw [check_bind_eq_ok] at h
  obtain ⟨pair, -, h⟩ := bind_eq_ok.mp h.2
  obtain ⟨check, hcheck, h⟩ := bind_eq_ok.mp h
  obtain ⟨⟨tokenIn, tokenOut⟩, -, h⟩ := bind_eq_ok.mp h
  obtain ⟨amountsIn, -, h⟩ := bind_eq_ok.mp h
  rw [pure_eq_ok] at h
  subst h
  have hready : env.run.nativeReadiness (readinessInstant check) = .ready := by
    rw [ensureReady] at hcheck
    split at hcheck
    · rename_i found hfound
      cases hcheck
      simpa using List.find?_some hfound
    · cases hcheck
  exact ⟨rfl, hready⟩

/-- The native candidates, as the index lists them. -/
theorem mem_native_iff {start : QuoteStart Sim} {pool : CandidatePool Sim} :
    pool ∈ (env.candidateSets start).native ↔
      poolById start.pinned pool.1 = some pool.2 ∧
        start.pinned.PairIndexed start.pair.tokenInBytes start.pair.tokenOutBytes pool.1 ∧
        env.Supported start pool.2.component := by
  have hfilter : pool ∈ (env.candidateSets start).native ↔
      pool ∈ matchingPools start.pinned start.pair.tokenInBytes start.pair.tokenOutBytes ∧
        env.Supported start pool.2.component := List.mem_filter
  rw [hfilter, mem_matchingPools, and_assoc]

/-! ## Where `NoLiquidity` comes from

From the absence of candidates, or from candidates that all brought nothing. -/

/-- **The end before the simulation.** A quote with a start that has no candidate says so. -/
theorem prepare_error {start : QuoteStart Sim} {computation : QuoteComputation}
    (h : env.start = .ok start) (hprepare : env.prepare = .error computation) :
    computation.status = .noLiquidity ∧
      computation.blockNumber = start.pinned.blockNumber.toNat := by
  rw [prepare, h] at hprepare
  change (ensure _ (rejected _ _ _ _) >>= fun _ => pure _) = _ at hprepare
  rw [ensure] at hprepare
  split at hprepare
  · cases hprepare
  · cases hprepare
    exact ⟨rfl, rfl⟩

theorem applyEmptyResponseState_blockNumber (s : QuoteRunState) :
    s.applyEmptyResponseState.blockNumber = s.blockNumber := by
  rw [QuoteRunState.applyEmptyResponseState]
  split
  · rfl
  · split <;> rfl

theorem quoteComputation_blockNumber {blockNumber expectedLen : Nat}
    {candidates : List QuoteCandidate} {schedule : QuoteSchedule candidates} :
    (quoteComputation blockNumber expectedLen candidates schedule).blockNumber = blockNumber := by
  have hhandled : ((QuoteRunState.new blockNumber).handleOutcomes expectedLen
      (schedule.outcomes expectedLen)).blockNumber = blockNumber := by
    rw [outcome_handled_lists]
  rw [quoteComputation, executePoolQuotes]
  split
  · exact (applyEmptyResponseState_blockNumber _).trans hhandled
  · exact (applyEmptyResponseState_blockNumber _).trans hhandled

/-- The computation of a quote with a start names the pinned block. -/
theorem getAmountsOut_blockNumber {start : QuoteStart Sim} (h : env.start = .ok start)
    (behaviours : PoolBehaviours Sim) (schedules : QuoteSchedules) :
    (env.getAmountsOut behaviours schedules).blockNumber = start.pinned.blockNumber.toNat := by
  cases hprepare : env.prepare with
  | error computation =>
    rw [getAmountsOut, runQuote, hprepare]
    exact (prepare_error h hprepare).2
  | ok prepared =>
    have hstart : prepared.start = start := by
      cases (prepare_sets hprepare).1.symm.trans h
      rfl
    have hblock : (env.unfenced behaviours schedules prepared).blockNumber =
        start.pinned.blockNumber.toNat := by
      rw [unfenced, quoteComputation_blockNumber, hstart]
    obtain ⟨-, heq⟩ | ⟨-, heq⟩ := env.getAmountsOut_eq hprepare
    · rw [heq]
      exact hblock
    · rw [heq, discardStaleNativeResponses]
      split <;> exact hblock

/-- Every pool gives zero for every amount. -/
def givesNothing (expectedLen : Nat) : PoolBehaviours Sim :=
  fun _ _ => .ran (List.replicate expectedLen (.amountOut 0 0)) [] none

/-- Amounts of nothing are recorded as nothing. -/
theorem recordedRungs_zeros (n : Nat) :
    recordedRungs (List.replicate n (.amountOut 0 0)) = List.replicate n (.amountOut 0 0) := by
  induction n with
  | zero => rfl
  | succ n ih =>
    rw [List.replicate_succ, recordedRungs, if_pos (by decide), ih]

/-- A pool that gives nothing brings nothing. -/
theorem bringsNothing_of_givesNothing {candidate : QuoteCandidate} {expectedLen : Nat}
    (h : candidate.behaviour = .ran (List.replicate expectedLen (.amountOut 0 0)) [] none) :
    candidate.BringsNothing := by
  refine ⟨_, _, _, h, ?_, .inr fun rung hrung => ?_⟩
  · have herrors : ladderErrors (List.replicate expectedLen (.amountOut 0 0)) = [] := by
      rw [ladderErrors, recordedRungs_zeros]
      simp [rungError]
    rw [herrors]
    trivial
  · rw [recordedRungs_zeros] at hrung
    rw [List.eq_of_mem_replicate hrung]
    exact fun hpositive => hpositive rfl

theorem taskUsable_of_response {blockNumber expectedLen : Nat}
    {outcome : Except QuoteFailure PoolQuoteResult} {response : AmountOutResponse}
    (h : taskResponse blockNumber expectedLen outcome = some response) :
    taskUsable expectedLen outcome = true := by
  cases outcome with
  | error failure => cases h
  | ok result =>
    rw [taskUsable, taskResponse, if_pos (taskResponse_ok h).1]
    rfl

/-- A quote without results says there is no liquidity. -/
theorem noLiquidity_of_noResults {s : QuoteRunState}
    (h : s.finishCurrentState.resultQuality = .noResults) :
    s.finishCurrentState.status = .noLiquidity := by
  revert h
  simp only [QuoteRunState.finishCurrentState, QuoteRunState.finish,
    QuoteRunState.classifyCurrentExit, QuoteRunState.classifyReadyExit]
  split
  · split
    · split <;> rintro ⟨⟩
    · split
      · exact fun _ => rfl
      · rintro ⟨⟩
  · exact fun _ => rfl
  · rintro ⟨⟩

/-- A quote whose pools all give zero is one without liquidity. -/
theorem givesNothing_noLiquidity {start : QuoteStart Sim} (h : env.start = .ok start) :
    (env.getAmountsOut (givesNothing start.amountsIn.length) inOrder).status = .noLiquidity := by
  cases hprepare : env.prepare with
  | error computation =>
    rw [getAmountsOut, runQuote, hprepare]
    exact (prepare_error h hprepare).1
  | ok prepared =>
    have hstart : prepared.start = start := by
      cases (prepare_sets hprepare).1.symm.trans h
      rfl
    have hbehaviour : ∀ candidate ∈ env.quoteCandidates (givesNothing start.amountsIn.length)
        prepared, candidate.behaviour =
          .ran (List.replicate start.amountsIn.length (.amountOut 0 0)) [] none := by
      intro candidate hmem
      obtain ⟨⟨kind, pool⟩, -, rfl⟩ := List.mem_map.mp hmem
      rfl
    have hladders : ∀ candidate ∈ env.quoteCandidates (givesNothing start.amountsIn.length)
        prepared, candidate.behaviour.LadderOf start.amountsIn.length := by
      intro candidate hmem
      rw [hbehaviour candidate hmem]
      exact List.length_replicate
    have hnothing := fun candidate hmem =>
      bringsNothing_of_givesNothing (hbehaviour candidate hmem)
    have hstatus : (env.unfenced (givesNothing start.amountsIn.length) inOrder prepared).status =
        .noLiquidity := by
      have hall : (inOrder (env.quoteCandidates (givesNothing start.amountsIn.length)
          prepared)).completed.length =
          (env.quoteCandidates (givesNothing start.amountsIn.length) prepared).length :=
        List.length_range
      rw [unfenced, hstart]
      refine Or.elim ((noLiquidity_iff_of_all hladders hall).mpr hnothing) id fun hquality => ?_
      exact noLiquidity_of_noResults hquality
    -- without rows the fence drops nothing
    have hkept : ¬env.Dropped (givesNothing start.amountsIn.length) inOrder prepared := by
      rintro ⟨hany, -⟩
      obtain ⟨response, hresponse, -⟩ := List.any_eq_true.mp hany
      rw [unfenced, hstart] at hresponse
      obtain ⟨i, -, candidate, hget, hgave⟩ := mem_responses.mp hresponse
      have hmem := List.mem_of_getElem? hget
      have hdry := ((QuoteCandidate.dry_iff (hladders candidate hmem)).mpr
        (hnothing candidate hmem)).1
      rw [taskUsable_of_response hgave] at hdry
      cases hdry
    obtain ⟨-, heq⟩ | ⟨hdropped, -⟩ := env.getAmountsOut_eq hprepare
    · rw [heq]
      exact hstatus
    · exact absurd hdropped hkept

/-! ## When the claim is justified

The native store that is pinned is the one whose readiness was read, unless operations in between
changed what it serves. -/

/-- A readiness check that passes has read a version that serves. -/
theorem serves_readBefore {check : Nat}
    (h : env.run.nativeReadiness (readinessInstant check) = .ready) :
    (env.readBefore check).Serves := by
  rw [EncodeRun.nativeReadiness] at h
  split at h
  · cases h
  · split at h
    · cases h
    · rename_i hserves
      rw [not_or, Bool.not_eq_false, Bool.not_eq_false] at hserves
      exact hserves

/-- Some operations have led from the version that was read to the one that is pinned. -/
theorem exists_ops (env : QuoteEnv Sim) (check : Nat) :
    ∃ ops, performAll (env.readBefore check) ops = env.pinnedAfter check :=
  exists_ops_of_steps ((env.run.steps _).trans (env.run.steps _))

/-- **The pin after a check.** What is pinned after a check that passed serves exactly when the
last operation in between that publishes does not withdraw the store. -/
theorem serves_pinned_iff {start : QuoteStart Sim} (h : env.start = .ok start) :
    (env.pinnedAfter start.check).Serves ↔ env.OpenAtPin start := by
  have hread : (env.readBefore start.check).Serves := serves_readBefore (start_pinned h).2
  constructor
  · intro hserves ops hops
    rw [← hops] at hserves
    exact (serves_performAll_iff hread).mp hserves
  · intro hopen
    obtain ⟨ops, hops⟩ := env.exists_ops start.check
    rw [← hops]
    exact (serves_performAll_iff hread).mpr (hopen ops hops)

/-- In a run whose updates all respect the store, the candidates are the pools of the pair. -/
theorem native_exact {start : QuoteStart Sim} (hrespected : env.StoreRespected)
    (h : env.start = .ok start) (pool : CandidatePool Sim) :
    pool ∈ (env.candidateSets start).native ↔
      poolById start.pinned pool.1 = some pool.2 ∧
        start.pinned.PairListed start.pair.tokenInBytes start.pair.tokenOutBytes
          pool.2.component ∧ env.Supported start pool.2.component := by
  have hpinned := (start_pinned h).1
  have hsound : start.pinned.Sound := by
    rw [hpinned]
    exact sound_of_reachable (hrespected _)
  rw [mem_native_iff]
  refine and_congr_right fun hpool => and_congr_left fun _ => ?_
  exact pairIndexed_iff_of_consistent hsound.indexes hpool

/-- **A quote without liquidity.** In a run whose updates all respect the native store, whatever the
pools give and in which order, a quote that says that there is no liquidity says so on the basis of
a serving version and of all its pools for the pair, exactly when the last operation between the
readiness check's read and the pin that publishes anything does not withdraw the store. -/
theorem quote_no_liquidity_iff (env : QuoteEnv Sim) (hrespected : env.StoreRespected) :
    (∀ behaviours schedules, env.NoLiquidityJustified behaviours schedules) ↔
      ∀ start, env.start = .ok start → env.OpenAtPin start := by
  constructor
  · intro hjustified start hstart
    obtain ⟨found, hfound, hready, hallowed, -⟩ :=
      hjustified _ _ (givesNothing_noLiquidity hstart)
    cases hstart.symm.trans hfound
    rw [(start_pinned hstart).1] at hready hallowed
    exact (serves_pinned_iff hstart).mp ⟨hready, hallowed⟩
  · intro hopen behaviours schedules hstatus
    have hstart : ∃ start, env.start = .ok start := by
      cases hfound : env.start with
      | ok start => exact ⟨start, rfl⟩
      | error computation =>
        have hprepare : env.prepare = .error computation := by
          rw [prepare, hfound]
          rfl
        rw [getAmountsOut, runQuote, hprepare] at hstatus
        obtain ⟨_, _, status, hother, rfl⟩ := start_rejects env computation hfound
        exact absurd hstatus hother
    obtain ⟨start, hstart⟩ := hstart
    have hserves := (serves_pinned_iff hstart).mpr (hopen start hstart)
    rw [← (start_pinned hstart).1] at hserves
    exact ⟨start, hstart, hserves.1, hserves.2, native_exact hrespected hstart,
      getAmountsOut_blockNumber hstart behaviours schedules⟩

end QuoteEnv

/-- An update that announces a pool to the empty store respects it. -/
theorem respectsStore_announcePair : RespectsStore (.empty ∅ none) announcePair := by
  intro id
  have hknown : (PublishedStateStore.empty ∅ none : PublishedStateStore Unit).known id = none := by
    simp [PublishedStateStore.known, PublishedStateStore.empty]
  simp [hknown, announcePair]

/-- The store with the one pool, fenced and then aligned. -/
def reopenedStore : PublishedStateStore Unit :=
  alignBootstrapStateVersion (fenceRequests pairStore) 3

/-- The native store is fenced and opened again after the readiness check has read it. -/
def reopenedQuote : QuoteEnv Unit where
  run := ⟨worldUntil 6 (.empty ∅ none) reopenedStore .disabled, worldUntil_steps
    (.tail (.single (.fenceRequests pairStore)) (.alignBootstrapStateVersion _ 3))⟩
  config := { pairConfig with ensureToken := fun address => .ok (some ⟨address⟩) }
  request := ⟨"0x01", "0x02", ["1"]⟩
  cancelled := false
  readinessChecks := 1

/-- A pool that gives nothing, and a store that was fenced and aligned before the pin: there is no
liquidity, and the quote may say so. -/
theorem quote_no_liquidity_iff_reopened :
    (reopenedQuote.getAmountsOut (QuoteEnv.givesNothing 1) inOrder).status = .noLiquidity ∧
      reopenedQuote.NoLiquidityJustified (QuoteEnv.givesNothing 1) inOrder := by
  have hpair : StoreReachable RespectsStore pairStore :=
    (StoreReachable.new ∅ none).applyUpdate _ respectsStore_announcePair
  have hrespected : reopenedQuote.StoreRespected := by
    intro i
    change StoreReachable RespectsStore (if i < 6 then pairStore else reopenedStore)
    split
    · exact hpair
    · exact hpair.fenceRequests.alignBootstrapStateVersion 3
  refine ⟨by decide +kernel, (QuoteEnv.quote_no_liquidity_iff reopenedQuote hrespected).mpr ?_ _ _⟩
  intro start hstart
  refine (QuoteEnv.serves_pinned_iff hstart).mp ?_
  have hpinned : reopenedQuote.pinnedAfter start.check = reopenedStore :=
    if_neg (by rw [QuoteEnv.readinessInstant]; omega)
  rw [hpinned]
  exact ⟨by decide, by decide⟩

/-- The native store is reset after the readiness check has read it. -/
def resetQuote : QuoteEnv Unit where
  run := ⟨worldUntil 7 (.empty ∅ none) (reset pairStore) .disabled,
    worldUntil_steps (.single (.reset pairStore))⟩
  config := { pairConfig with ensureToken := fun address => .ok (some ⟨address⟩) }
  request := ⟨"0x01", "0x02", ["1"]⟩
  cancelled := false
  readinessChecks := 1

/-- A pair with a pool is told to have no liquidity because the store was reset before the pin. -/
theorem quote_no_liquidity_after_reset :
    (resetQuote.getAmountsOut (quotesOne 5) inOrder).status = .noLiquidity ∧
      ¬resetQuote.NoLiquidityJustified (quotesOne 5) inOrder := by
  have hstatus : (resetQuote.getAmountsOut (quotesOne 5) inOrder).status = .noLiquidity := by
    decide +kernel
  refine ⟨hstatus, fun hjustified => ?_⟩
  obtain ⟨start, hstart, hready, -⟩ := hjustified hstatus
  have hpinned : start.pinned = reset pairStore := by
    rw [(QuoteEnv.start_pinned hstart).1]
    exact if_neg (by rw [QuoteEnv.readinessInstant]; omega)
  rw [hpinned] at hready
  cases hready

end TychoSimulationServer
