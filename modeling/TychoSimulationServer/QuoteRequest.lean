import TychoSimulationServer.QuoteVerdict
import TychoSimulationServer.RoutePinning
import TychoSimulationServer.TokenStore

/-!
# A quote among the updates of the stores

`get_amounts_out` reads the stores one after the other, and they go on changing in between. A run is
told by the world at one instant after the other, as for a route; each read of the quote has an
instant of its own, in program order:

* **readiness** is asked for until a check passes, each check with three reads;
* **the pin** of the native version is the read after the check that passed;
* the VM and RFQ stores are read when the candidates are loaded;
* **the fence** is asked after the last simulation, three reads again, and only when a response has
  the id of a native candidate.

How the pools simulate, and in which order, is chosen for every run. Amounts are numbers.
-/

namespace TychoSimulationServer

open Fallible

variable {Sim : Type}

/-! ## Requests and candidates

A request names a pair and amounts; the environment of a quote has the stores at every instant,
since other tasks move them. -/

/-- `AmountOutRequest`, with the fields that decide the quote. -/
structure AmountOutRequest where
  tokenIn : String
  tokenOut : String
  amounts : List String
deriving DecidableEq, Repr

/-- `RequestPair`. -/
structure RequestPair where
  tokenInAddress : String
  tokenOutAddress : String
  tokenInBytes : Bytes
  tokenOutBytes : Bytes
deriving DecidableEq, Repr

/-- `CandidatePool`. -/
abbrev CandidatePool (Sim : Type) := String × PoolEntry Sim

/-- `CandidateSets`. -/
structure CandidateSets (Sim : Type) where
  native : List (CandidatePool Sim)
  vm : List (CandidatePool Sim)
  rfq : List (CandidatePool Sim)

/-- `ScheduledPoolKind`. -/
inductive ScheduledPoolKind where
  | native
  | vm
  | rfq
deriving DecidableEq, Repr

/-- What does not change during a quote, and the code that is called. -/
structure QuoteConfig where
  bytesFromStr : String → Except String Bytes
  bigUintFromStr : String → Except String Nat
  ensureToken : Bytes → Except TokenStoreError (Option Token)
  derivePoolName : ProtocolComponent → String
  /-- the wrapped native token of the token store -/
  wrappedNativeToken : Option Bytes
  /-- the native token of the chain and its wrapped form -/
  chainNative : Bytes
  chainWrappedNative : Bytes
  erc4626DepositsEnabled : Bool
  erc4626PairPolicies : List Erc4626PairPolicy

/-- A quote among the operations of the stores: what it was asked for, whether it was cancelled
before it began, and how many readiness checks fit into the time it waits. -/
structure QuoteEnv (Sim : Type) where
  run : EncodeRun Sim
  config : QuoteConfig
  request : AmountOutRequest
  cancelled : Bool
  readinessChecks : Nat

/-! ## Names of a pool -/

/-- `ProtocolKind::as_str`. -/
def ProtocolKind.asStr : ProtocolKind → String
  | .uniswapV2 => "uniswap_v2"
  | .uniswapV3 => "uniswap_v3"
  | .uniswapV4 => "uniswap_v4"
  | .aerodromeSlipstreams => "aerodrome_slipstreams"
  | .curve => "vm:curve"
  | .pancakeswapV2 => "pancakeswap_v2"
  | .pancakeswapV3 => "pancakeswap_v3"
  | .ekuboV2 => "ekubo_v2"
  | .sushiswapV2 => "sushiswap_v2"
  | .maverickV2 => "vm:maverick_v2"
  | .balancerV2 => "vm:balancer_v2"
  | .fluidV1 => "fluid_v1"
  | .rocketpool => "rocketpool"
  | .ekuboV3 => "ekubo_v3"
  | .erc4626 => "erc4626"
  | .hashflow => "rfq:hashflow"
  | .bebop => "rfq:bebop"
  | .liquorice => "rfq:liquorice"

/-- `pool_descriptor`. -/
def poolDescriptor (config : QuoteConfig) (pool : CandidatePool Sim) : PoolDescriptor :=
  { id := pool.1
    name := config.derivePoolName pool.2.component
    address := pool.2.component.id.display
    protocol := ((ProtocolKind.fromComponent pool.2.component).map (·.asStr)).getD
      pool.2.component.protocolSystem }

/-! ## Which candidates are left out -/

/-- `filter_unsupported_erc4626_candidates`. -/
def filterUnsupportedErc4626Candidates (config : QuoteConfig) (pair : RequestPair)
    (candidates : List (CandidatePool Sim)) : List (CandidatePool Sim) :=
  candidates.filter fun pool => componentDirectionSupported pool.2.component pair.tokenInBytes
    pair.tokenOutBytes config.erc4626DepositsEnabled config.erc4626PairPolicies

/-- `remap_request_token_for_pool`. -/
def remapRequestTokenForPool (config : QuoteConfig) (requestToken : Token)
    (component : ProtocolComponent) : Token :=
  let poolHasNative := component.tokens.any (·.address = config.chainNative)
  let poolHasWrapped := component.tokens.any (·.address = config.chainWrappedNative)
  if config.chainNative = config.chainWrappedNative then requestToken
  else if requestToken.address = config.chainWrappedNative ∧ poolHasNative ∧ !poolHasWrapped then
    ⟨config.chainNative⟩
  else if requestToken.address = config.chainNative ∧ poolHasWrapped ∧ !poolHasNative then
    ⟨config.chainWrappedNative⟩
  else requestToken

/-- `is_directional_rfq_component`. -/
def isDirectionalRfqComponent (component : ProtocolComponent) : Bool :=
  component.protocolSystem = "rfq:hashflow" || component.protocolTypeName = "hashflow_pool" ||
    component.protocolSystem = "rfq:liquorice" || component.protocolTypeName = "liquorice_pool"

/-- `directional_rfq_candidate_matches_direction`. -/
def directionalRfqCandidateMatchesDirection (config : QuoteConfig) (tokenIn tokenOut : Token)
    (component : ProtocolComponent) : Bool :=
  match component.tokens with
  | expectedTokenIn :: expectedTokenOut :: _ =>
    (remapRequestTokenForPool config tokenIn component).address = expectedTokenIn.address &&
      (remapRequestTokenForPool config tokenOut component).address = expectedTokenOut.address
  | _ => false

/-- `filter_directional_rfq_candidates`. -/
def filterDirectionalRfqCandidates (config : QuoteConfig) (tokenIn tokenOut : Token)
    (candidates : List (CandidatePool Sim)) : List (CandidatePool Sim) :=
  candidates.filter fun pool => !isDirectionalRfqComponent pool.2.component ||
    directionalRfqCandidateMatchesDirection config tokenIn tokenOut pool.2.component

/-! ## The exits before the simulation -/

/-- `finish` with one failure and nothing else. -/
def rejected (blockNumber : Nat) (failure : QuoteFailure) (status : QuoteStatus)
    (resultQuality : QuoteResultQuality) : QuoteComputation :=
  ((QuoteRunState.new blockNumber).pushFailure failure).finish (.new status resultQuality)

/-- `str::trim_start_matches("0x")`, which takes away every repetition. -/
def trimStartMatches0x : List Char → List Char
  | '0' :: 'x' :: rest => trimStartMatches0x rest
  | text => text

/-- `is_direct_native_wrapped_pair`. -/
def isDirectNativeWrappedPair (tokenIn tokenOut : Bytes) (wrappedNative : Option Bytes) : Bool :=
  match wrappedNative with
  | none => false
  | some wrapped => tokenIn = nativeTokenAddress && tokenOut = wrapped ||
      tokenIn = wrapped && tokenOut = nativeTokenAddress

namespace QuoteEnv

variable (env : QuoteEnv Sim)

/-- `parse_address`. -/
def parseRequestAddress (blockNumber : Nat) (raw field : String) :
    Except QuoteComputation (String × Bytes) :=
  let address := (String.ofList (trimStartMatches0x raw.toList)).toLower
  match env.config.bytesFromStr address with
  | .ok bytes => .ok (address, bytes)
  | .error err => .error (rejected blockNumber
      (makeFailure .tokenValidation s!"Invalid {field} address: {err}")
      .invalidRequest .requestLevelFailure)

/-- `parse_pair`. -/
def parsePair (blockNumber : Nat) : Except QuoteComputation RequestPair := do
  let (tokenInAddress, tokenInBytes) ←
    env.parseRequestAddress blockNumber env.request.tokenIn "token_in"
  let (tokenOutAddress, tokenOutBytes) ←
    env.parseRequestAddress blockNumber env.request.tokenOut "token_out"
  ensure (tokenInBytes ≠ tokenOutBytes) (rejected blockNumber
    (makeFailure .invalidRequest "Same-token quotes are unsupported")
    .invalidRequest .requestLevelFailure)
  ensure (isDirectNativeWrappedPair tokenInBytes tokenOutBytes env.config.wrappedNativeToken =
      false) (rejected blockNumber
    (makeFailure .invalidRequest "Direct native/wrapped quotes are unsupported")
    .invalidRequest .requestLevelFailure)
  return { tokenInAddress, tokenOutAddress, tokenInBytes, tokenOutBytes }

/-! ## Readiness and the pin

Readiness is read first, and the stores are pinned afterwards, with awaits in between. -/

/-- The first read of a readiness check; the reads of `QuoteRequestRunner::new` come before. -/
def readinessInstant (check : Nat) : Nat := 4 + 3 * check

/-- The version that is pinned after a readiness check. -/
def pinnedAfter (check : Nat) : PublishedStateStore Sim :=
  (env.run.world (readinessInstant check + 3)).native

/-- `total_pools`, as `QuoteRequestRunner::new` reads it. -/
def totalPools : Nat :=
  (env.run.world 1).native.idToKind.size + (env.run.world 2).vm.idToKind.size +
    (env.run.world 3).rfq.idToKind.size

/-- `ensure_ready` and `wait_for_readiness`: the first readiness check that passes. -/
def ensureReady (blockNumber : Nat) : Except QuoteComputation Nat :=
  match (List.range env.readinessChecks).find? fun check =>
      env.run.nativeReadiness (readinessInstant check) = .ready with
  | some check => .ok check
  | none => .error (rejected blockNumber (makeFailure .warmUp
      s!"Service warming up: block={blockNumber}, pools={env.totalPools}")
      .warmingUp .requestLevelFailure)

/-- `handle_token_lookup`. -/
def handleTokenLookup (blockNumber : Nat) (lookup : Except TokenStoreError (Option Token))
    (tokenAddress : String) : Except QuoteComputation Token :=
  let missing (message : String) : Except QuoteComputation Token :=
    .error (rejected blockNumber (makeFailure .tokenCoverage message)
      .tokenMissing .requestLevelFailure)
  match lookup with
  | .ok (some token) => .ok token
  | .ok none => missing s!"Token not found: {tokenAddress}"
  | .error (.fetchTimeout timeoutMs) =>
    missing s!"Token metadata fetch timed out after {timeoutMs}ms: {tokenAddress}"
  | .error (.requestFailed message) => missing s!"Token metadata fetch failed: {message}"

/-- `load_tokens`. -/
def loadTokens (pinned : PublishedStateStore Sim) (pair : RequestPair) :
    Except QuoteComputation (Token × Token) :=
  match pinned.tokens[pair.tokenInBytes]?, pinned.tokens[pair.tokenOutBytes]? with
  | some tokenIn, some tokenOut => .ok (tokenIn, tokenOut)
  | _, _ => do
    let tokenIn ← handleTokenLookup pinned.blockNumber.toNat
      (env.config.ensureToken pair.tokenInBytes) pair.tokenInAddress
    let tokenOut ← handleTokenLookup pinned.blockNumber.toNat
      (env.config.ensureToken pair.tokenOutBytes) pair.tokenOutAddress
    return (tokenIn, tokenOut)

/-- `parse_amounts`. -/
def parseAmounts (blockNumber : Nat) : Except QuoteComputation (List Nat) :=
  (env.request.amounts.mapM env.config.bigUintFromStr).mapError fun err =>
    rejected blockNumber (makeFailure .invalidRequest s!"Invalid amount: {err}")
      .invalidRequest .requestLevelFailure

end QuoteEnv

/-- What a quote knows when it loads its candidates. -/
structure QuoteStart (Sim : Type) where
  pair : RequestPair
  check : Nat
  pinned : PublishedStateStore Sim
  tokenIn : Token
  tokenOut : Token
  amountsIn : List Nat

namespace QuoteEnv

variable (env : QuoteEnv Sim)

/-- `run` up to `prepare_execution`. -/
def start : Except QuoteComputation (QuoteStart Sim) := do
  let currentBlock := (env.run.world 0).native.blockNumber.toNat
  ensure (env.cancelled = false) (rejected currentBlock
    (makeFailure .timeout "Quote request cancelled before execution") .ready .requestLevelFailure)
  let pair ← env.parsePair currentBlock
  let check ← env.ensureReady currentBlock
  let pinned := env.pinnedAfter check
  let (tokenIn, tokenOut) ← env.loadTokens pinned pair
  let amountsIn ← env.parseAmounts pinned.blockNumber.toNat
  return { pair, check, pinned, tokenIn, tokenOut, amountsIn }

/-! ## Candidates

The candidates of all backends are looked up in the pinned stores and scheduled in one list. -/

/-- The `n`-th read after the pin. -/
def afterPin (start : QuoteStart Sim) (n : Nat) : World Sim :=
  env.run.world (readinessInstant start.check + 3 + n)

/-- `load_candidate_sets`, with the checks before it and the directional filter after it. The
rebuild guards only delay the run. -/
def candidateSets (start : QuoteStart Sim) : CandidateSets Sim :=
  let (tokenIn, tokenOut) := (start.pair.tokenInBytes, start.pair.tokenOutBytes)
  let vmReady := decide ((env.afterPin start 1).vmReadiness = .ready) &&
    decide ((env.afterPin start 3).vmReadiness = .ready)
  let rfqReady := decide ((env.afterPin start 2).rfqReadiness = .ready) &&
    decide ((env.afterPin start 4).rfqReadiness = .ready)
  { native := filterUnsupportedErc4626Candidates env.config start.pair
      (matchingPools start.pinned tokenIn tokenOut)
    vm := if vmReady then matchingPools (env.afterPin start 5).vm tokenIn tokenOut else []
    rfq := filterDirectionalRfqCandidates env.config start.tokenIn start.tokenOut
      (if rfqReady then matchingPools (env.afterPin start 6).rfq tokenIn tokenOut else []) }

/-- `sort_by` the ids. -/
def sortCandidates (candidates : List (CandidatePool Sim)) : List (CandidatePool Sim) :=
  candidates.insertionSort fun a b => (compare a.1 b.1).isLE = true

/-- The candidates in the order they are scheduled in. -/
def scheduledPools (sets : CandidateSets Sim) : List (ScheduledPoolKind × CandidatePool Sim) :=
  (sortCandidates sets.native).map (.native, ·) ++ (sortCandidates sets.vm).map (.vm, ·) ++
    (sortCandidates sets.rfq).map (.rfq, ·)

end QuoteEnv

/-- `PreparedQuoteExecution`, with the start of the quote. -/
structure PreparedQuote (Sim : Type) where
  start : QuoteStart Sim
  sets : CandidateSets Sim

/-- `NativeFence`. -/
structure NativeFence where
  requestGeneration : UInt64
  nativePoolIds : List String
deriving DecidableEq, Repr

/-- How each candidate's task goes. -/
abbrev PoolBehaviours (Sim : Type) := ScheduledPoolKind → CandidatePool Sim → PoolBehaviour

/-- How scheduling and collecting go, for whatever candidates there are. -/
abbrev QuoteSchedules := (candidates : List QuoteCandidate) → QuoteSchedule candidates

namespace QuoteEnv

variable (env : QuoteEnv Sim)

/-- `prepare_candidate_metadata` and `prepare_execution`. -/
def prepare : Except QuoteComputation (PreparedQuote Sim) := do
  let start ← env.start
  let sets := env.candidateSets start
  let (tokenIn, tokenOut) := (start.pair.tokenInAddress, start.pair.tokenOutAddress)
  ensure (0 < sets.native.length + sets.vm.length + sets.rfq.length)
    (rejected start.pinned.blockNumber.toNat
      (makeFailure .noPools s!"No matching pools found for pair {tokenIn}-{tokenOut}")
      .noLiquidity .noResults)
  return { start, sets }

/-- The tasks of the candidates. -/
def quoteCandidates (behaviours : PoolBehaviours Sim) (prepared : PreparedQuote Sim) :
    List QuoteCandidate :=
  (scheduledPools prepared.sets).map fun (kind, pool) =>
    { pool := poolDescriptor env.config pool, behaviour := behaviours kind pool }

variable (behaviours : PoolBehaviours Sim) (schedules : QuoteSchedules)

/-- `QuoteRequestRunner::run`. -/
def runQuote : QuoteComputation × Option NativeFence :=
  match env.prepare with
  | .error computation => (computation, none)
  | .ok prepared =>
    (quoteComputation prepared.start.pinned.blockNumber.toNat prepared.start.amountsIn.length
        (env.quoteCandidates behaviours prepared)
        (schedules (env.quoteCandidates behaviours prepared)),
      if prepared.sets.native = [] then none
      else some { requestGeneration := prepared.start.pinned.requestGeneration
                  nativePoolIds := prepared.sets.native.map (·.1) })

/-- The first read of the fence, after the reads of the candidates and every simulation. -/
def fenceInstant : Nat :=
  match env.start with
  | .ok start => readinessInstant start.check + 10
  | .error _ => 0

end QuoteEnv

/-- `discard_stale_native_responses`. -/
def discardStaleNativeResponses (computation : QuoteComputation) (nativePoolIds : List String) :
    QuoteComputation :=
  let responses := computation.responses.filter fun response =>
    !nativePoolIds.contains response.pool
  let dropped := computation.responses.length - responses.length
  if dropped = 0 then { computation with responses }
  else
    { computation with
      responses
      failures := computation.failures ++ [makeFailure .staleNativeState
        (s!"Native state changed while the quote was running; dropped {dropped} native pool " ++
          "result(s), retry against the current version")]
      status := .ready
      resultQuality := if responses = [] then .requestLevelFailure else .partialResult
      partialKind :=
        if responses = [] then none
        else
          match computation.partialKind with
          | none | some .poolCoverage => some .poolCoverage
          | some .amountLadders | some .mixed => some .mixed }

/-- `get_amounts_out`. -/
def QuoteEnv.getAmountsOut (env : QuoteEnv Sim) (behaviours : PoolBehaviours Sim)
    (schedules : QuoteSchedules) : QuoteComputation :=
  match env.runQuote behaviours schedules with
  | (computation, none) => computation
  | (computation, some fence) =>
    if computation.responses.any (fence.nativePoolIds.contains ·.pool) = true ∧
        env.run.nativeRequestIsCurrent env.fenceInstant fence.requestGeneration = false then
      discardStaleNativeResponses computation fence.nativePoolIds
    else computation

end TychoSimulationServer
