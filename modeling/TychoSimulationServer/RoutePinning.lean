import TychoSimulationServer.Machine
import TychoSimulationServer.RouteExecution
import TychoSimulationServer.StateStoreIndexes

/-!
# Which versions an encoded route reads

While a route is encoded, the native store goes on publishing. `encode_route` is meant to be immune
to that: it pins one published version before it simulates anything, looks native pools up in the
pin, and in the end, after the last simulation, checks that the pinned request generation is still
the current one.

`encode_route` only reads, so a run of it is told by what it sees: `EncodeRun` is the world at one
instant after the other, where the native store moves from each instant to the next by any number
of its own operations. Every read of `encode_route` has an instant of its own, in program order.

Whether there is a pin at all is decided by the protocol *hints* of the request, and a pool the pin
does not have is looked up in the stores as they are at that moment. `PinCovers` says that neither
matters, and then the whole route is read from one version.
-/

namespace TychoSimulationServer

open Fallible DepthOrder

variable {Sim : Type}

/-! ## The world

The stores and the readiness of the backends at every instant; other tasks move them between two
instants. -/

/-- `NativeReadiness`. -/
inductive NativeReadiness where
  | ready
  | warmingUp
  | stale
deriving DecidableEq, Repr

/-- `VmReadiness` and `RfqReadiness`. -/
inductive OptionalReadiness where
  | disabled
  | warmingUp
  | rebuilding
  | ready
  | stale
deriving DecidableEq, Repr

/-- What `encode_route` may read at one instant: the three stores, whether the native subscription
is bootstrapped and the native updates are stale, and how ready the other backends are. -/
structure World (Sim : Type) where
  native : PublishedStateStore Sim
  vm : PublishedStateStore Sim
  rfq : PublishedStateStore Sim
  nativeBootstrapReady : Bool
  nativeUpdateStale : Bool
  vmReadiness : OptionalReadiness
  rfqReadiness : OptionalReadiness

/-- One operation on the native store. -/
inductive NativeStoreStep : PublishedStateStore Sim → PublishedStateStore Sim → Prop where
  | applyUpdate (current : PublishedStateStore Sim) (update : Update Sim) :
    NativeStoreStep current (applyUpdate current update).1
  | applyUpdateAtVersion {current next : PublishedStateStore Sim} {update : Update Sim}
    {stateVersion : UInt64} {result : Except String UpdateMetrics}
    (h : exec (applyUpdateAtVersion update stateVersion) current = (result, next)) :
    NativeStoreStep current next
  | publishCandidate {current next candidate : PublishedStateStore Sim} {targetVersion : UInt64}
    {result : Except String Unit}
    (h : exec (publishCandidate candidate targetVersion) current = (result, next)) :
    NativeStoreStep current next
  | reset (current : PublishedStateStore Sim) : NativeStoreStep current (reset current)
  | resetProtocols (current : PublishedStateStore Sim) (protocols : List ProtocolKind) :
    NativeStoreStep current (resetProtocols current protocols)
  | fenceRequests (current : PublishedStateStore Sim) :
    NativeStoreStep current (fenceRequests current)
  | alignBootstrapStateVersion (current : PublishedStateStore Sim) (stateVersion : UInt64) :
    NativeStoreStep current (alignBootstrapStateVersion current stateVersion)

/-- A run of `encode_route` among the operations of the stores. -/
structure EncodeRun (Sim : Type) where
  world : Nat → World Sim
  steps : ∀ i, Relation.ReflTransGen NativeStoreStep (world i).native (world (i + 1)).native

/-! ## Reading the world

Each function takes the instant of its first read. -/

/-- `EncodeAvailability`. -/
inductive EncodeAvailability where
  | ready
  | nativeWarmingUp
  | nativeStale
  | vmDisabled
  | vmWarmingUp
  | vmRebuilding
  | vmStale
  | rfqDisabled
  | rfqWarmingUp
  | rfqRebuilding
  | rfqStale
deriving DecidableEq, Repr

/-- `availability_message`. -/
def EncodeAvailability.availabilityMessage : EncodeAvailability → Option String
  | .ready => none
  | .nativeWarmingUp => some "Encode unavailable: native state warming up"
  | .nativeStale => some "Encode unavailable: native state stale"
  | .vmDisabled => some "Encode unavailable: VM pools disabled for requested route"
  | .rfqDisabled => some "Encode unavailable: RFQ pools disabled for requested route"
  | .vmWarmingUp => some "Encode unavailable: VM state warming up for requested route"
  | .rfqWarmingUp => some "Encode unavailable: RFQ state warming up for requested route"
  | .vmRebuilding => some "Encode unavailable: VM state rebuilding for requested route"
  | .rfqRebuilding => some "Encode unavailable: RFQ state rebuilding for requested route"
  | .vmStale => some "Encode unavailable: VM state stale for requested route"
  | .rfqStale => some "Encode unavailable: RFQ state stale for requested route"

/-- `availability_error`. -/
def availabilityError (availability : EncodeAvailability) : EncodeError :=
  .unavailable (availability.availabilityMessage.getD
    "unready pool lookup must have an availability message")

/-- What a native readiness says to a route. -/
def NativeReadiness.check : NativeReadiness → Except EncodeAvailability Unit
  | .ready => .ok ()
  | .warmingUp => .error .nativeWarmingUp
  | .stale => .error .nativeStale

/-- What a VM readiness says to a route. -/
def OptionalReadiness.checkVm : OptionalReadiness → Except EncodeAvailability Unit
  | .disabled => .error .vmDisabled
  | .warmingUp => .error .vmWarmingUp
  | .rebuilding => .error .vmRebuilding
  | .ready => .ok ()
  | .stale => .error .vmStale

/-- What an RFQ readiness says to a route. -/
def OptionalReadiness.checkRfq : OptionalReadiness → Except EncodeAvailability Unit
  | .disabled => .error .rfqDisabled
  | .warmingUp => .error .rfqWarmingUp
  | .rebuilding => .error .rfqRebuilding
  | .ready => .ok ()
  | .stale => .error .rfqStale

/-- `has_pool`. -/
def hasPool (published : PublishedStateStore Sim) (id : String) : Bool :=
  published.idToKind.contains id

namespace EncodeRun

variable (run : EncodeRun Sim)

/-- `native_readiness`: three reads. -/
def nativeReadiness (start : Nat) : NativeReadiness :=
  if (run.world start).nativeBootstrapReady = false then .warmingUp
  else if (run.world (start + 1)).native.ready = false ∨
      (run.world (start + 1)).native.requestsAllowed = false then .warmingUp
  else if (run.world (start + 2)).nativeUpdateStale then .stale
  else .ready

/-- `native_request_is_current`: three reads. -/
def nativeRequestIsCurrent (start : Nat) (pinnedGeneration : UInt64) : Bool :=
  (run.world start).nativeBootstrapReady && !(run.world (start + 1)).nativeUpdateStale
    && (run.world (start + 2)).native.ready && (run.world (start + 2)).native.requestsAllowed
    && (run.world (start + 2)).native.requestGeneration = pinnedGeneration

/-- `encode_availability`: up to five reads. -/
def encodeAvailability (start : Nat) (usesNative usesVm usesRfq : Bool) :
    Except EncodeAvailability Unit := do
  if usesNative then (run.nativeReadiness start).check
  if usesVm then (run.world (start + 3)).vmReadiness.checkVm
  if usesRfq then (run.world (start + 4)).rfqReadiness.checkRfq

/-- `pool_rebuild_guard_requirements`: up to eight reads. -/
def poolRebuildGuardRequirements (start : Nat) (id : String) :
    Except EncodeAvailability (Option (Bool × Bool)) :=
  if hasPool (run.world start).native id then do
    (run.nativeReadiness (start + 1)).check
    return some (false, false)
  else if hasPool (run.world (start + 4)).vm id then do
    (run.world (start + 5)).vmReadiness.checkVm
    return some (true, false)
  else if hasPool (run.world (start + 6)).rfq id then do
    (run.world (start + 7)).rfqReadiness.checkRfq
    return some (false, true)
  else .ok none

/-- `pool_by_id` of the whole application: up to eleven reads. -/
def poolById (start : Nat) (id : String) : Except EncodeAvailability (Option (PoolEntry Sim)) :=
  if hasPool (run.world start).native id then do
    (run.nativeReadiness (start + 1)).check
    return TychoSimulationServer.poolById (run.world (start + 4)).native id
  else if hasPool (run.world (start + 5)).vm id then do
    (run.world (start + 6)).vmReadiness.checkVm
    return TychoSimulationServer.poolById (run.world (start + 7)).vm id
  else if hasPool (run.world (start + 8)).rfq id then do
    (run.world (start + 9)).rfqReadiness.checkRfq
    return TychoSimulationServer.poolById (run.world (start + 10)).rfq id
  else .ok none

end EncodeRun

/-! ## `encode_route`

The native store is pinned once, when a hint asks for it; otherwise each pool is read from the store
at the instant it is loaded. -/

/-- What does not change while a route is encoded, and the code that is called. -/
structure EncodeConfig (Sim : Type) where
  chainId : UInt64
  bytesFromStr : String → Except String Bytes
  bigUintFromStr : String → Option Nat
  nativeAddress : Bytes
  wrappedNativeAddress : Bytes
  nativeTokenProtocolAllowlist : List String
  erc4626DepositsEnabled : Bool
  erc4626PairPolicies : List Erc4626PairPolicy
  finiteSplit : Nat → Nat → Bool
  ensureToken : Nat → Bytes → Except EncodeError (Option Token)
  hydrateRfqPoolState : String → Sim → Except EncodeError Sim
  runSimulation : Nat → Sim → Nat → Token → Token → SimulationOutcome Sim
  buildRouteCalldata : RouteEncodeRequest → List (EncodedSwap Sim) → Except EncodeError Unit

/-- The instants of a run: the first check of availability, the pin, the second check, the loads
during resimulation, one block per simulated swap, and the final fence. -/
def pinInstant : Nat := 5

/-- The second check of availability. -/
def recheckInstant : Nat := 6

/-- The first read for the swap that is simulated after `moment` others. -/
def loadInstant (moment : Nat) : Nat := 11 + 19 * moment

section

variable (config : EncodeConfig Sim) (run : EncodeRun Sim)

/-- `load_pool_entry` past its cache. The rebuild guards only delay the run. -/
def resolvePoolEntry (nativePin : Option (PublishedStateStore Sim)) (moment : Nat)
    (poolId : String) : Except EncodeError (CachedPoolEntry Sim) :=
  match nativePin.bind (poolById · poolId) with
  | some entry =>
    .ok { poolState := entry.state, component := entry.component
          backend := PoolBackend.fromComponent entry.component }
  | none => do
    let _ ← (run.poolRebuildGuardRequirements (loadInstant moment) poolId).mapError
      availabilityError
    match ← (run.poolById (loadInstant moment + 8) poolId).mapError availabilityError with
    | none => .error (.notFound s!"Pool {poolId} not found")
    | some entry =>
      let backend := PoolBackend.fromComponent entry.component
      let poolState ←
        if backend = .rfq then config.hydrateRfqPoolState poolId entry.state else .ok entry.state
      return { poolState, component := entry.component, backend }

/-- The lookup behind `TokenCache::get`. -/
def resolveToken (nativePin : Option (PublishedStateStore Sim)) (moment : Nat) (address : Bytes)
    (backend : PoolBackend) : Except EncodeError Token :=
  match nativePin with
  | some pinned =>
    if backend = .native then
      match pinned.tokens[address]? with
      | some token => .ok token
      | none => .error (.invalid "Token not found")
    else unpinned
  | none => unpinned
where
  unpinned : Except EncodeError Token := do
    match ← config.ensureToken moment address with
    | some token => .ok token
    | none => .error (.invalid "Token not found")

/-- What a route is encoded against, with or without a pin. -/
def routeEnv (nativePin : Option (PublishedStateStore Sim)) : RouteEnv Sim where
  bytesFromStr := config.bytesFromStr
  nativeAddress := config.nativeAddress
  wrappedNativeAddress := config.wrappedNativeAddress
  nativeTokenProtocolAllowlist := config.nativeTokenProtocolAllowlist
  erc4626DepositsEnabled := config.erc4626DepositsEnabled
  erc4626PairPolicies := config.erc4626PairPolicies
  resolvePool := resolvePoolEntry config run nativePin
  lookupToken := resolveToken config nativePin
  runSimulation := config.runSimulation

/-- `route_backend_usage`. -/
def routeBackendUsage (segments : List NormalizedSegment) : Bool × Bool × Bool :=
  let backends := (segments.flatMap (·.hops)).flatMap fun hop =>
    hop.swaps.map fun swap => PoolBackend.fromProtocolHint swap.pool.protocol
  (backends.contains .native, backends.contains .vm, backends.contains .rfq)

/-- `validate_chain`. -/
def validateChain (chainId expected : UInt64) : Except EncodeError Unit :=
  ensure (expected = chainId)
    (.invalid s!"Unsupported chainId: {chainId} (this instance serves chain {expected})")

/-- `parse_amount`. -/
def parseAmount (bigUintFromStr : String → Option Nat) (value : String) : Except EncodeError Nat :=
  match bigUintFromStr value with
  | some amount => .ok amount
  | none => .error (.invalid s!"Invalid amount: {value}")

/-- `biguint_to_u256_checked`. -/
def biguintToU256Checked (value : Nat) (label : String) : Except EncodeError Unit :=
  ensure (value < 2 ^ 256) (.invalid s!"{label} must fit uint256")

/-- `ensure_native_encode_current`. -/
def ensureNativeEncodeCurrent (nativeIsCurrent : Bool) : Except EncodeError Unit :=
  ensure (nativeIsCurrent = true) (.unavailable
    "Native state changed while the route was being encoded; retry against the current version")

/-- `EncodeComputation`, with the route it was computed from. -/
structure EncodeComputation (Sim : Type) where
  resimulated : List (ResimulatedSegment Sim)
  swaps : List (EncodedSwap Sim)
  expectedAmountOut : Nat
  amountOutDelta : Nat

/-- The final fence: only a pinned route has one. -/
def finalFence (nativePin : Option (PublishedStateStore Sim)) (start : Nat) :
    Except EncodeError Unit :=
  match nativePin with
  | some pinned =>
    ensureNativeEncodeCurrent (run.nativeRequestIsCurrent start pinned.requestGeneration)
  | none => .ok ()

/-- `encode_route`. -/
def encodeRoute (request : RouteEncodeRequest) : Except EncodeError (EncodeComputation Sim) := do
  validateChain request.chainId config.chainId
  validateSwapKinds request
  let tokenIn ← parseAddress config.bytesFromStr request.tokenIn
  let tokenOut ← parseAddress config.bytesFromStr request.tokenOut
  let amountIn ← parseAmount config.bigUintFromStr request.amountIn
  let minAmountOut ← parseAmount config.bigUintFromStr request.minAmountOut
  let _ ← parseAddress config.bytesFromStr request.tychoRouterAddress
  biguintToU256Checked amountIn "amountIn"
  biguintToU256Checked minAmountOut "minAmountOut"
  let normalized ← normalizeRoute (routeEnv config run none) request.segments tokenIn tokenOut
    amountIn
  let (usesNative, usesVm, usesRfq) := routeBackendUsage normalized
  (run.encodeAvailability 0 usesNative usesVm usesRfq).mapError availabilityError
  let nativePin := if usesNative then some (run.world pinInstant).native else none
  (run.encodeAvailability recheckInstant usesNative usesVm usesRfq).mapError availabilityError
  let resimulated ← resimulateRoute (routeEnv config run nativePin) normalized tokenIn tokenOut
  let expectedTotal := computeExpectedTotal resimulated
  ensure (minAmountOut ≤ expectedTotal) (.simulation "Route expectedAmountOut below minAmountOut")
  let swaps ← buildRouteSwaps config.finiteSplit resimulated
  config.buildRouteCalldata request swaps
  finalFence run nativePin (loadInstant (orderedSwaps resimulated).length)
  return { resimulated, swaps, expectedAmountOut := expectedTotal
           amountOutDelta := expectedTotal - minAmountOut }

end

/-! ## States used in a resimulation

Every state that is used was loaded, or comes from a state of the same pool by a simulation. -/

/-- A property of pool states that loading a pool gives and simulating a swap keeps. -/
structure StateInvariant (env : RouteEnv Sim) (Good : String → Sim → Prop) : Prop where
  resolved : ∀ {moment id entry}, env.resolvePool moment id = .ok entry → Good id entry.poolState
  simulated : ∀ {moment id state amount tokenIn tokenOut out next}, Good id state →
    env.runSimulation moment state amount tokenIn tokenOut = .amountOut out next → Good id next

/-- Every cached pool state has the property. -/
def RouteCaches.Holds (Good : String → Sim → Prop) (caches : RouteCaches Sim) : Prop :=
  ∀ (id : String) (entry : CachedPoolEntry Sim), caches.pools[id]? = some entry →
    Good id entry.poolState

theorem RouteCaches.Holds.insert {Good : String → Sim → Prop} {caches : RouteCaches Sim}
    (h : caches.Holds Good) {id : String} {entry : CachedPoolEntry Sim} {moment : Nat}
    (hentry : Good id entry.poolState) :
    RouteCaches.Holds Good { caches with pools := caches.pools.insert id entry, moment } := by
  intro other held hheld
  rw [Std.ExtTreeMap.getElem?_insert] at hheld
  split at hheld
  case isTrue heq =>
    rw [Std.LawfulEqCmp.compare_eq_iff_eq] at heq
    rw [Option.some.injEq] at hheld
    subst heq hheld
    exact hentry
  case isFalse => exact h other held hheld

section

variable {env : RouteEnv Sim} {Good : String → Sim → Prop} (hgood : StateInvariant env Good)
include hgood

theorem loadPoolEntry_good {caches caches' : RouteCaches Sim} {id : String}
    {entry : CachedPoolEntry Sim} (hcaches : caches.Holds Good)
    (h : loadPoolEntry env caches id = .ok (entry, caches')) :
    Good id entry.poolState ∧ caches'.Holds Good := by
  unfold loadPoolEntry at h
  split at h
  case h_1 cached hcached =>
    cases h
    exact ⟨hcaches id _ hcached, hcaches⟩
  case h_2 =>
    obtain ⟨resolved, hresolved, h⟩ := bind_eq_ok.mp h
    rw [pure_eq_ok, Prod.mk.injEq] at h
    obtain ⟨rfl, rfl⟩ := h
    exact ⟨hgood.resolved hresolved, hcaches.insert (hgood.resolved hresolved)⟩

omit hgood in
theorem tokenCacheGet_pools {caches caches' : RouteCaches Sim} {address : Bytes}
    {backend : PoolBackend} {token : Token}
    (h : tokenCacheGet env caches address backend = .ok (token, caches')) :
    caches'.pools = caches.pools := by
  unfold tokenCacheGet at h
  split at h
  case h_1 =>
    cases h
    rfl
  case h_2 =>
    obtain ⟨found, -, h⟩ := bind_eq_ok.mp h
    rw [pure_eq_ok, Prod.mk.injEq] at h
    obtain ⟨-, rfl⟩ := h
    rfl

/-- **One swap** uses a state with the property and leaves one behind. -/
theorem simulateAllocatedSwap_good {caches caches' : RouteCaches Sim} {allocated : AllocatedSwap}
    {swap : ResimulatedSwap Sim} (hcaches : caches.Holds Good)
    (h : simulateAllocatedSwap env caches allocated = .ok (swap, caches')) :
    Good swap.pool.componentId swap.poolState ∧ caches'.Holds Good := by
  obtain ⟨⟨entry, caches₁⟩, hload, h⟩ := bind_eq_ok.mp h
  dsimp only at h
  rw [check_bind_eq_ok] at h
  obtain ⟨-, h⟩ := h
  obtain ⟨keepNative, -, h⟩ := bind_eq_ok.mp h
  obtain ⟨⟨tokenIn, caches₂⟩, hin, h⟩ := bind_eq_ok.mp h
  obtain ⟨⟨tokenOut, caches₃⟩, hout, h⟩ := bind_eq_ok.mp h
  obtain ⟨⟨amount, newState⟩, hsimulated, h⟩ := bind_eq_ok.mp h
  dsimp only at h
  rw [check_bind_eq_ok, pure_eq_ok, Prod.mk.injEq] at h
  obtain ⟨-, rfl, rfl⟩ := h
  obtain ⟨hentry, hcaches₁⟩ := loadPoolEntry_good hgood hcaches hload
  have hcaches₃ : caches₃.Holds Good := by
    intro id held hheld
    rw [tokenCacheGet_pools hout, tokenCacheGet_pools hin] at hheld
    exact hcaches₁ id held hheld
  refine ⟨hentry, hcaches₃.insert ?_⟩
  unfold simulateSwap at hsimulated
  split at hsimulated
  case h_1 out next hrun =>
    cases hsimulated
    exact hgood.simulated hentry hrun
  all_goals cases hsimulated

/-- Simulations of good states use good states. -/
theorem simulateEach_good {caches caches' : RouteCaches Sim} {allocated : List AllocatedSwap}
    {swaps : List (ResimulatedSwap Sim)} (hcaches : caches.Holds Good)
    (h : simulateEach env caches allocated = .ok (swaps, caches')) :
    (∀ swap ∈ swaps, Good swap.pool.componentId swap.poolState) ∧ caches'.Holds Good := by
  induction allocated generalizing caches caches' swaps with
  | nil =>
    cases h
    exact ⟨nofun, hcaches⟩
  | cons first rest ih =>
    obtain ⟨⟨swap, caches₁⟩, hswap, h⟩ := bind_eq_ok.mp h
    obtain ⟨⟨others, caches₂⟩, hothers, h⟩ := bind_eq_ok.mp h
    rw [pure_eq_ok, Prod.mk.injEq] at h
    obtain ⟨rfl, rfl⟩ := h
    obtain ⟨hfirst, hcaches₁⟩ := simulateAllocatedSwap_good hgood hcaches hswap
    obtain ⟨hrest, hcaches₂⟩ := ih hcaches₁ hothers
    exact ⟨List.forall_mem_cons.mpr ⟨hfirst, hrest⟩, hcaches₂⟩

omit hgood in
/-- Every swap of the simulated hops uses a state with the property. -/
def HopsHold (Good : String → Sim → Prop) (hops : List (ResimulatedHop Sim)) : Prop :=
  ∀ hop ∈ hops, ∀ swap ∈ hop.swaps, Good swap.pool.componentId swap.poolState

theorem resimulateSegmentHop_good {caches caches' : RouteCaches Sim} {segment : NormalizedSegment}
    {state state' : SegmentSimState Sim} {index depth : Nat} (hcaches : caches.Holds Good)
    (hhops : HopsHold Good state.hops)
    (h : resimulateSegmentHop env caches segment state index depth = .ok (state', caches')) :
    HopsHold Good state'.hops ∧ caches'.Holds Good := by
  unfold resimulateSegmentHop at h
  split at h
  case h_1 =>
    cases h
    exact ⟨hhops, hcaches⟩
  case h_2 hop hhop =>
    rw [check_bind_eq_ok] at h
    obtain ⟨-, h⟩ := h
    obtain ⟨allocated, -, h⟩ := bind_eq_ok.mp h
    obtain ⟨⟨swaps, hopExpected, caches₁⟩, hsimulated, h⟩ := bind_eq_ok.mp h
    rw [pure_eq_ok, Prod.mk.injEq] at h
    obtain ⟨rfl, rfl⟩ := h
    obtain ⟨⟨swaps', caches₂⟩, heach, hsimulated⟩ := bind_eq_ok.mp hsimulated
    dsimp only at hsimulated
    rw [check_bind_eq_ok, pure_eq_ok, Prod.mk.injEq, Prod.mk.injEq] at hsimulated
    obtain ⟨-, rfl, -, rfl⟩ := hsimulated
    obtain ⟨hswaps, hcaches₂⟩ := simulateEach_good hgood hcaches heach
    refine ⟨fun hop hmem => ?_, hcaches₂⟩
    rcases List.mem_append.mp hmem with hmem | hmem
    · exact hhops hop hmem
    · obtain rfl := List.mem_singleton.mp hmem
      exact hswaps

theorem resimulateDepth_good {caches caches' : RouteCaches Sim} {segments : List NormalizedSegment}
    {states states' : List (SegmentSimState Sim)} {index depth : Nat}
    (hcaches : caches.Holds Good) (hstates : ∀ state ∈ states, HopsHold Good state.hops)
    (h : resimulateDepth env depth index caches segments states = .ok (states', caches')) :
    (∀ state ∈ states', HopsHold Good state.hops) ∧ caches'.Holds Good := by
  induction segments generalizing caches caches' states states' index with
  | nil =>
    cases h
    exact ⟨hstates, hcaches⟩
  | cons segment segments ih =>
    cases states with
    | nil => cases h
    | cons state states =>
      obtain ⟨⟨first, caches₁⟩, hfirst, h⟩ := bind_eq_ok.mp h
      obtain ⟨⟨others, caches₂⟩, hothers, h⟩ := bind_eq_ok.mp h
      rw [pure_eq_ok, Prod.mk.injEq] at h
      obtain ⟨rfl, rfl⟩ := h
      obtain ⟨hstate, hrest⟩ := List.forall_mem_cons.mp hstates
      obtain ⟨hfirstHops, hcaches₁⟩ := resimulateSegmentHop_good hgood hcaches hstate hfirst
      obtain ⟨hothersHops, hcaches₂⟩ := ih hcaches₁ hrest hothers
      exact ⟨List.forall_mem_cons.mpr ⟨hfirstHops, hothersHops⟩, hcaches₂⟩

theorem resimulateFrom_good {caches : RouteCaches Sim} {segments : List NormalizedSegment}
    {states states' : List (SegmentSimState Sim)} {depths : List Nat}
    (hcaches : caches.Holds Good) (hstates : ∀ state ∈ states, HopsHold Good state.hops)
    (h : resimulateFrom env segments depths caches states = .ok states') :
    ∀ state ∈ states', HopsHold Good state.hops := by
  induction depths generalizing caches states with
  | nil =>
    cases h
    exact hstates
  | cons depth depths ih =>
    obtain ⟨⟨next, caches₁⟩, hnext, h⟩ := bind_eq_ok.mp h
    obtain ⟨hnextHops, hcaches₁⟩ := resimulateDepth_good hgood hcaches hstates hnext
    exact ih hcaches₁ hnextHops h

omit hgood in
/-- The segments have the hops that were simulated. -/
theorem buildResimulatedSegments_hops {segments : List NormalizedSegment}
    {states : List (SegmentSimState Sim)} {built : List (ResimulatedSegment Sim)}
    (h : buildResimulatedSegments segments states = .ok built) :
    ∀ segment ∈ built, ∃ state ∈ states, segment.hops = state.hops := by
  induction segments generalizing states built with
  | nil =>
    cases h
    nofun
  | cons segment segments ih =>
    cases states with
    | nil => cases h
    | cons state states =>
      obtain ⟨one, hone, h⟩ := bind_eq_ok.mp h
      obtain ⟨others, hothers, h⟩ := bind_eq_ok.mp h
      rw [pure_eq_ok] at h
      subst h
      refine List.forall_mem_cons.mpr ⟨⟨state, List.mem_cons_self, ?_⟩, fun other hother => ?_⟩
      · rw [buildResimulatedSegment, check_bind_eq_ok] at hone
        obtain ⟨-, hone⟩ := hone
        split at hone
        case h_1 => cases hone
        case h_2 =>
          rw [pure_eq_ok] at hone
          rw [← hone]
      · obtain ⟨found, hfound, heq⟩ := ih hothers other hother
        exact ⟨found, List.mem_cons_of_mem _ hfound, heq⟩

/-- **Every state used in a resimulation** has a property that loads give and simulations keep. -/
theorem resimulateRoute_good {segments : List NormalizedSegment} {tokenIn tokenOut : Bytes}
    {resimulated : List (ResimulatedSegment Sim)}
    (h : resimulateRoute env segments tokenIn tokenOut = .ok resimulated) :
    ∀ segment ∈ resimulated, HopsHold Good segment.hops := by
  obtain ⟨states, hstates, h⟩ := bind_eq_ok.mp h
  rw [check_bind_eq_ok, check_bind_eq_ok] at h
  obtain ⟨-, -, hbuilt⟩ := h
  have hgoodStates := resimulateFrom_good hgood (fun _ _ hnone => by simp at hnone)
    (fun state hstate => by
      obtain ⟨segment, -, rfl⟩ := List.mem_map.mp hstate
      exact fun hop hhop => by cases hhop) hstates
  intro segment hsegment
  obtain ⟨state, hstate, heq⟩ := buildResimulatedSegments_hops hbuilt segment hsegment
  rw [heq]
  exact hgoodStates state hstate

end

/-! ## One version

If the native pools of the route are hinted as native, all of them are read from the pinned
store. -/

/-- A state a pool has in a published version, or after some swaps were simulated on that. -/
inductive ComesFrom (config : EncodeConfig Sim) (published : PublishedStateStore Sim)
    (id : String) : Sim → Prop where
  | published {entry : PoolEntry Sim} (h : poolById published id = some entry) :
    ComesFrom config published id entry.state
  | simulated {state next : Sim} {moment amount out : Nat} {tokenIn tokenOut : Token}
    (h : ComesFrom config published id state)
    (hrun : config.runSimulation moment state amount tokenIn tokenOut = .amountOut out next) :
    ComesFrom config published id next

/-- The swaps a request asks for. -/
def requestSwaps (segments : List SegmentDraft) : List PoolSwapDraft :=
  (segments.flatMap (·.hops)).flatMap (·.swaps)

/-- A pool of the native store: the store has it at some instant between the pin and the last
simulation, when `count` swaps are simulated. -/
def EncodeRun.NativePool (run : EncodeRun Sim) (count : Nat) (id : String) : Prop :=
  ∃ i, pinInstant ≤ i ∧ i < loadInstant count ∧
    (TychoSimulationServer.poolById (run.world i).native id).isSome

/-- **One version.** All states of native pools that a resimulation used come from one published
version of the native store, and at an instant after the last simulation the store is ready, allows
requests and is still at that version's request generation. -/
def ReadsOneNativeVersion (config : EncodeConfig Sim) (run : EncodeRun Sim)
    (resimulated : List (ResimulatedSegment Sim)) : Prop :=
  let swaps := orderedSwaps resimulated
  ∃ i, (∀ swap ∈ swaps, run.NativePool swaps.length swap.pool.componentId →
      ComesFrom config (run.world i).native swap.pool.componentId swap.poolState) ∧
    ((∃ swap ∈ swaps, run.NativePool swaps.length swap.pool.componentId) →
      ∃ j, loadInstant swaps.length ≤ j ∧ (run.world j).native.ready = true ∧
        (run.world j).native.requestsAllowed = true ∧
        (run.world j).native.requestGeneration = (run.world i).native.requestGeneration)

/-- When a route asks for a native pool, one of its hints is a native protocol and the pinned
version has the pool. -/
def PinCovers (run : EncodeRun Sim) (segments : List SegmentDraft) : Prop :=
  ∀ swap ∈ requestSwaps segments,
    run.NativePool (requestSwaps segments).length swap.pool.componentId →
    (∃ hinted ∈ requestSwaps segments,
      PoolBackend.fromProtocolHint hinted.pool.protocol = .native) ∧
    (poolById (run.world pinInstant).native swap.pool.componentId).isSome

section

variable {config : EncodeConfig Sim} {run : EncodeRun Sim} {request : RouteEncodeRequest}
variable {result : EncodeComputation Sim}

/-- What a successful `encode_route` went through. -/
structure Encoded (config : EncodeConfig Sim) (run : EncodeRun Sim) (request : RouteEncodeRequest)
    (resimulated : List (ResimulatedSegment Sim)) (tokenIn tokenOut : Bytes) (amountIn : Nat)
    (normalized : List NormalizedSegment) (pin : Option (PublishedStateStore Sim)) : Prop where
  normalizes : normalizeRoute (routeEnv config run none) request.segments tokenIn tokenOut
    amountIn = .ok normalized
  pinned : pin = if (routeBackendUsage normalized).1 then some (run.world pinInstant).native
    else none
  resimulates : resimulateRoute (routeEnv config run pin) normalized tokenIn tokenOut =
    .ok resimulated
  fence : finalFence run pin (loadInstant (orderedSwaps resimulated).length) = .ok ()

theorem encodeRoute_spec (h : encodeRoute config run request = .ok result) :
    ∃ tokenIn tokenOut amountIn normalized pin,
      Encoded config run request result.resimulated tokenIn tokenOut amountIn normalized pin := by
  rw [encodeRoute, check_bind_eq_ok, check_bind_eq_ok] at h
  obtain ⟨-, -, h⟩ := h
  obtain ⟨tokenIn, -, h⟩ := bind_eq_ok.mp h
  obtain ⟨tokenOut, -, h⟩ := bind_eq_ok.mp h
  obtain ⟨amountIn, -, h⟩ := bind_eq_ok.mp h
  obtain ⟨minAmountOut, -, h⟩ := bind_eq_ok.mp h
  obtain ⟨router, -, h⟩ := bind_eq_ok.mp h
  rw [check_bind_eq_ok, check_bind_eq_ok] at h
  obtain ⟨-, -, h⟩ := h
  obtain ⟨normalized, hnormal, h⟩ := bind_eq_ok.mp h
  dsimp only at h
  rw [check_bind_eq_ok, check_bind_eq_ok] at h
  obtain ⟨-, -, h⟩ := h
  obtain ⟨resimulated, hresim, h⟩ := bind_eq_ok.mp h
  rw [check_bind_eq_ok] at h
  obtain ⟨-, h⟩ := h
  obtain ⟨swaps, -, h⟩ := bind_eq_ok.mp h
  rw [check_bind_eq_ok, check_bind_eq_ok, pure_eq_ok] at h
  obtain ⟨-, hfence, rfl⟩ := h
  exact ⟨tokenIn, tokenOut, amountIn, normalized, _, hnormal, rfl, hresim, hfence⟩

/-- The pools of a normalised route. -/
def normalizedPools (segments : List NormalizedSegment) : List PoolRef :=
  (segments.flatMap (·.hops)).flatMap fun hop => hop.swaps.map (·.pool)

/-- The pools of a resimulated route, segment by segment. -/
def resimulatedPools (segments : List (ResimulatedSegment Sim)) : List PoolRef :=
  (segments.flatMap (·.hops)).flatMap fun hop => hop.swaps.map (·.pool)

/-- The pools of the request are those of the normalised route. -/
theorem normalizedPools_eq {env : RouteEnv Sim} {tokenIn tokenOut : Bytes}
    {drafts : List SegmentDraft} {normalized : List NormalizedSegment}
    (h : List.Forall₂ (SegmentNormalizes env tokenIn tokenOut) drafts normalized) :
    normalizedPools normalized = (requestSwaps drafts).map (·.pool) := by
  unfold normalizedPools requestSwaps
  rw [List.map_flatMap, List.flatMap_assoc, List.flatMap_assoc]
  symm
  refine flatMap_eq_of_forall₂ h fun hsegment => ?_
  refine flatMap_eq_of_forall₂ hsegment.hops fun hhop => ?_
  exact map_eq_of_forall₂ hhop.swaps fun hswap => hswap.pool.symm

theorem resimulatedPools_eq {normalized : List NormalizedSegment}
    {segments : List (ResimulatedSegment Sim)}
    (h : List.Forall₂ SegmentResimulates normalized segments) :
    resimulatedPools segments = normalizedPools normalized := by
  unfold normalizedPools resimulatedPools
  rw [List.flatMap_assoc, List.flatMap_assoc]
  symm
  refine flatMap_eq_of_forall₂ h fun hsegment => ?_
  refine flatMap_eq_of_forall₂ hsegment.hops fun hhop => ?_
  exact map_eq_of_forall₂ hhop.swaps fun hswap => hswap.pool.symm

/-- As many swaps are simulated as the route has pools. -/
theorem length_orderedSwaps (segments : List (ResimulatedSegment Sim)) :
    (orderedSwaps segments).length = (resimulatedPools segments).length := by
  rw [orderedSwaps_eq, emissions, List.length_map]
  have hcount := length_flatMap_byDepth (segments.map (·.hops)) fun hop => hop.swaps.map (·.pool)
  rw [← List.flatMap_def] at hcount
  rw [resimulatedPools, ← hcount, List.length_flatMap, List.length_flatMap]
  simp only [List.length_map]

/-- A simulated swap stands in a hop of the route. -/
theorem exists_hop_of_mem_orderedSwaps {segments : List (ResimulatedSegment Sim)}
    {swap : ResimulatedSwap Sim} (h : swap ∈ orderedSwaps segments) :
    ∃ segment ∈ segments, ∃ hop ∈ segment.hops, swap ∈ hop.swaps := by
  rw [orderedSwaps_eq] at h
  obtain ⟨emission, hemission, rfl⟩ := List.mem_map.mp h
  obtain ⟨cell, hcell, hswap, -, -⟩ := mem_emissions.mp hemission
  obtain ⟨segment, hsegment, hhop, -⟩ := hop_of_mem_byDepth hcell
  exact ⟨segment, hsegment, cell.item, List.mem_of_getElem? hhop, hswap⟩

/-- An emitted swap is on a pool of the route. -/
theorem pool_mem_of_mem_orderedSwaps {segments : List (ResimulatedSegment Sim)}
    {swap : ResimulatedSwap Sim} (h : swap ∈ orderedSwaps segments) :
    swap.pool ∈ resimulatedPools segments := by
  obtain ⟨segment, hsegment, hop, hhop, hswap⟩ := exists_hop_of_mem_orderedSwaps h
  refine List.mem_flatMap.mpr ⟨hop, List.mem_flatMap.mpr ⟨segment, hsegment, hhop⟩, ?_⟩
  exact List.mem_map_of_mem hswap

/-- A native hint makes the route use the native store. -/
theorem usesNative_of_hint {normalized : List NormalizedSegment} {pool : PoolRef}
    (h : pool ∈ normalizedPools normalized)
    (hhint : PoolBackend.fromProtocolHint pool.protocol = .native) :
    (routeBackendUsage normalized).1 = true := by
  obtain ⟨hop, hhop, hpool⟩ := List.mem_flatMap.mp h
  obtain ⟨swap, hswap, rfl⟩ := List.mem_map.mp hpool
  unfold routeBackendUsage
  rw [List.contains_iff_mem]
  refine List.mem_flatMap.mpr ⟨hop, hhop, List.mem_map.mpr ⟨swap, hswap, hhint⟩⟩

/-- A pinned route takes the pools the pin has from the pin. -/
theorem stateInvariant_pinned {pin : PublishedStateStore Sim} {native : String → Prop}
    (h : ∀ id, native id → (poolById pin id).isSome) :
    StateInvariant (routeEnv config run (some pin)) fun id state =>
      native id → ComesFrom config pin id state := by
  refine ⟨fun {moment id entry} hresolved hnative => ?_, fun hstate hrun hnative => ?_⟩
  · obtain ⟨held, hheld⟩ := Option.isSome_iff_exists.mp (h id hnative)
    have hentry : resolvePoolEntry config run (some pin) moment id =
        .ok { poolState := held.state, component := held.component
              backend := PoolBackend.fromComponent held.component } := by
      unfold resolvePoolEntry
      rw [Option.bind_some, hheld]
    change resolvePoolEntry config run (some pin) moment id = .ok entry at hresolved
    rw [hentry, Except.ok.injEq] at hresolved
    rw [← hresolved]
    exact .published hheld
  · exact .simulated (hstate hnative) hrun

/-- Behind the fence the store is the pinned one, and ready. -/
theorem current_of_finalFence {pin : PublishedStateStore Sim} {start : Nat}
    (h : finalFence run (some pin) start = .ok ()) :
    (run.world (start + 2)).native.ready = true ∧
      (run.world (start + 2)).native.requestsAllowed = true ∧
      (run.world (start + 2)).native.requestGeneration = pin.requestGeneration := by
  have hcurrent := ensure_eq_ok.mp h
  simp only [EncodeRun.nativeRequestIsCurrent, Bool.and_eq_true, decide_eq_true_eq] at hcurrent
  obtain ⟨⟨⟨-, hready⟩, hallowed⟩, hgeneration⟩ := hcurrent
  exact ⟨hready, hallowed, hgeneration⟩

/-- **An encoded route reads one version** of the native store, in every run in which the pin covers
the native pools the route asks for. -/
theorem encodeRoute_reads_one_version (hcovers : PinCovers run request.segments)
    (h : encodeRoute config run request = .ok result) :
    ReadsOneNativeVersion config run result.resimulated := by
  obtain ⟨tokenIn, tokenOut, amountIn, normalized, pin, hencoded⟩ := encodeRoute_spec h
  have hdrafts := (normalizeRoute_spec hencoded.normalizes).1
  have hpools := resimulatedPools_eq (resimulateRoute_spec hencoded.resimulates)
  rw [normalizedPools_eq hdrafts] at hpools
  have hlength : (orderedSwaps result.resimulated).length = (requestSwaps request.segments).length := by
    rw [length_orderedSwaps, hpools, List.length_map]
  have hasked : ∀ swap ∈ orderedSwaps result.resimulated,
      ∃ draft ∈ requestSwaps request.segments, draft.pool = swap.pool := by
    intro swap hswap
    have hpool := pool_mem_of_mem_orderedSwaps hswap
    rw [hpools] at hpool
    exact List.mem_map.mp hpool
  refine ⟨pinInstant, ?_⟩
  -- a route without native pools has nothing to show
  by_cases hnative : ∃ swap ∈ orderedSwaps result.resimulated,
      run.NativePool (orderedSwaps result.resimulated).length swap.pool.componentId
  case neg =>
    exact ⟨fun swap hswap hpool => absurd ⟨swap, hswap, hpool⟩ hnative, fun hsome =>
      absurd hsome hnative⟩
  case pos =>
    obtain ⟨user, huser, huserNative⟩ := hnative
    obtain ⟨draft, hdraft, hdraftPool⟩ := hasked user huser
    rw [hlength, ← hdraftPool] at huserNative
    obtain ⟨⟨hinted, hhinted, hhint⟩, -⟩ := hcovers draft hdraft huserNative
    have hmem : hinted.pool ∈ normalizedPools normalized := by
      rw [normalizedPools_eq hdrafts]
      exact List.mem_map_of_mem hhinted
    have hpin := hencoded.pinned
    rw [usesNative_of_hint hmem hhint, if_pos rfl] at hpin
    have hresim := hencoded.resimulates
    have hfence := hencoded.fence
    rw [hpin] at hresim hfence
    refine ⟨fun swap hswap hpool => ?_, fun _ => ?_⟩
    · have hinvariant : StateInvariant (routeEnv config run (some (run.world pinInstant).native))
          fun id state => (∃ draft ∈ requestSwaps request.segments, draft.pool.componentId = id ∧
            run.NativePool (requestSwaps request.segments).length id) →
            ComesFrom config (run.world pinInstant).native id state := by
        refine stateInvariant_pinned fun id ⟨source, hsource, heq, hheld⟩ => ?_
        subst heq
        exact (hcovers source hsource hheld).2
      have hgood := resimulateRoute_good hinvariant hresim
      obtain ⟨segment, hsegment, hop, hhop, hmemSwap⟩ := exists_hop_of_mem_orderedSwaps hswap
      obtain ⟨source, hsource, hsourcePool⟩ := hasked swap hswap
      refine hgood segment hsegment hop hhop swap hmemSwap ⟨source, hsource, ?_, ?_⟩
      · rw [hsourcePool]
      · rw [← hlength]
        exact hpool
    · exact ⟨_, Nat.le_add_right _ 2, current_of_finalFence hfence⟩

end

/-! Two native pools, and an update of both while a route over them is encoded. -/

/-- A pool of two tokens made of one repeated byte each. -/
def samplePair (first second : UInt8) : ProtocolComponent :=
  { id := [], protocolSystem := "uniswap_v2", protocolTypeName := "uniswap_v2_pool"
    tokens := [⟨List.replicate 20 first⟩, ⟨List.replicate 20 second⟩] }

/-- The store with both pools in their first states. -/
def firstVersion : PublishedStateStore Nat :=
  (applyUpdate (PublishedStateStore.empty ∅ none)
    { blockNumberOrTimestamp := 1
      newPairs := .ofList [("p1", samplePair 0x11 0x33), ("p2", samplePair 0x33 0x22)]
      states := .ofList [("p1", 1), ("p2", 2)]
      removedPairs := ∅ }).1

/-- The store after the next block. -/
def secondVersion : PublishedStateStore Nat :=
  (applyUpdate firstVersion
    { blockNumberOrTimestamp := 2, newPairs := ∅, states := .ofList [("p1", 11), ("p2", 12)]
      removedPairs := ∅ }).1

/-- Everything is ready. -/
def readyWorld (native : PublishedStateStore Nat) : World Nat :=
  { native, vm := .empty ∅ none, rfq := .empty ∅ none, nativeBootstrapReady := true
    nativeUpdateStale := false, vmReadiness := .ready, rfqReadiness := .ready }

/-- The update lands between the two loads. -/
def updatedRun : EncodeRun Nat where
  world i := readyWorld (if i < loadInstant 1 then firstVersion else secondVersion)
  steps i := by
    by_cases hlate : loadInstant 1 ≤ i
    · rw [if_neg (by omega), if_neg (by omega)]
    · by_cases hlast : i + 1 < loadInstant 1
      · rw [if_pos (by omega), if_pos hlast]
      · rw [if_pos (by omega), if_neg hlast]
        exact .single (.applyUpdate _ _)

/-- Nothing happens while the route is encoded. -/
def quietRun : EncodeRun Nat where
  world _ := readyWorld firstVersion
  steps _ := .refl

/-- Pools that trade one for one and keep their state. -/
def evenConfig : EncodeConfig Nat where
  chainId := 1
  bytesFromStr := repeatedByteAddress
  bigUintFromStr text := if text = "100" then some 100 else none
  nativeAddress := List.replicate 20 0
  wrappedNativeAddress := List.replicate 20 0xc0
  nativeTokenProtocolAllowlist := ["rocketpool"]
  erc4626DepositsEnabled := false
  erc4626PairPolicies := []
  finiteSplit _ _ := true
  ensureToken _ address := .ok (some { address })
  hydrateRfqPoolState _ state := .ok state
  runSimulation _ state amount _ _ := .amountOut amount state
  buildRouteCalldata _ _ := .ok ()

/-- A route over both pools, with one protocol as the hint for both. -/
def hintedRequest (protocol : String) : RouteEncodeRequest :=
  let a := "0x1111111111111111111111111111111111111111"
  let b := "0x2222222222222222222222222222222222222222"
  let c := "0x3333333333333333333333333333333333333333"
  let hop (pool tokenIn tokenOut : String) : HopDraft :=
    { tokenIn, tokenOut
      swaps := [{ pool := { protocol, componentId := pool, poolAddress := none }
                  tokenIn, tokenOut, splitBps := 0 }] }
  { chainId := 1, tokenIn := a, tokenOut := b, amountIn := "100", minAmountOut := "100"
    swapKind := .multiSwap, tychoRouterAddress := a
    segments := [{ kind := .multiSwap, shareBps := 0, hops := [hop "p1" a c, hop "p2" c b] }] }

theorem evenConfig_comesFrom {published : PublishedStateStore Nat} {id : String} {state : Nat}
    (h : ComesFrom evenConfig published id state) :
    ∃ entry, poolById published id = some entry ∧ entry.state = state := by
  induction h with
  | published h => exact ⟨_, h, rfl⟩
  | simulated _ hrun ih =>
    simp only [evenConfig, SimulationOutcome.amountOut.injEq] at hrun
    rw [← hrun.2]
    exact ih

theorem misHinted_encodes : ∃ result, encodeRoute evenConfig updatedRun (hintedRequest "vm:curve") =
    .ok result ∧ (orderedSwaps result.resimulated).map (fun swap =>
      (swap.pool.componentId, swap.poolState)) = [("p1", 1), ("p2", 12)] :=
  ⟨_, rfl, rfl⟩

/-- A hint for another backend keeps the pin away: the first pool is read from the first version and
the second from the second. -/
theorem misHinted_mixes_versions :
    ∃ result, encodeRoute evenConfig updatedRun (hintedRequest "vm:curve") = .ok result ∧
      ¬ReadsOneNativeVersion evenConfig updatedRun result.resimulated := by
  obtain ⟨result, hresult, hswaps⟩ := misHinted_encodes
  refine ⟨result, hresult, ?_⟩
  rintro ⟨i, hstates, -⟩
  have hlength := congrArg List.length hswaps
  rw [List.length_map] at hlength
  rw [hlength] at hstates
  have hfirst : ("p1", 1) ∈ (orderedSwaps result.resimulated).map fun swap =>
      (swap.pool.componentId, swap.poolState) := by
    rw [hswaps]
    exact List.mem_cons_self
  have hsecond : ("p2", 12) ∈ (orderedSwaps result.resimulated).map fun swap =>
      (swap.pool.componentId, swap.poolState) := by
    rw [hswaps]
    exact List.mem_cons_of_mem _ List.mem_cons_self
  obtain ⟨swap₁, hswap₁, heq₁⟩ := List.mem_map.mp hfirst
  obtain ⟨swap₂, hswap₂, heq₂⟩ := List.mem_map.mp hsecond
  rw [Prod.mk.injEq] at heq₁ heq₂
  by_cases hversion : i < loadInstant 1
  · -- the first version does not have the second pool's new state
    have hnative : updatedRun.NativePool 2 "p2" := ⟨pinInstant, by decide, by decide, by decide⟩
    have hfrom := hstates swap₂ hswap₂ (heq₂.1 ▸ hnative)
    rw [heq₂.1, heq₂.2] at hfrom
    obtain ⟨entry, hentry, hstate⟩ := evenConfig_comesFrom hfrom
    have hworld : (updatedRun.world i).native = firstVersion := if_pos hversion
    rw [hworld] at hentry
    have hheld : (poolById firstVersion "p2").map (·.state) = some 2 := by decide
    rw [hentry, Option.map_some, hstate] at hheld
    exact absurd hheld (by decide)
  · -- the second version has lost the first pool's old state
    have hnative : updatedRun.NativePool 2 "p1" := ⟨pinInstant, by decide, by decide, by decide⟩
    have hfrom := hstates swap₁ hswap₁ (heq₁.1 ▸ hnative)
    rw [heq₁.1, heq₁.2] at hfrom
    obtain ⟨entry, hentry, hstate⟩ := evenConfig_comesFrom hfrom
    have hworld : (updatedRun.world i).native = secondVersion := if_neg hversion
    rw [hworld] at hentry
    have hheld : (poolById secondVersion "p1").map (·.state) = some 11 := by decide
    rw [hentry, Option.map_some, hstate] at hheld
    exact absurd hheld (by decide)

theorem hinted_encodes :
    ∃ result, encodeRoute evenConfig quietRun (hintedRequest "uniswap_v2") = .ok result :=
  ⟨_, rfl⟩

/-- The same route with its own protocol as the hint, in a quiet store. -/
theorem hinted_reads_one_version :
    ∃ result, encodeRoute evenConfig quietRun (hintedRequest "uniswap_v2") = .ok result ∧
      ReadsOneNativeVersion evenConfig quietRun result.resimulated := by
  obtain ⟨result, hresult⟩ := hinted_encodes
  refine ⟨result, hresult, encodeRoute_reads_one_version (fun swap hswap _ => ?_) hresult⟩
  have hpools : ∀ swap ∈ requestSwaps (hintedRequest "uniswap_v2").segments,
      PoolBackend.fromProtocolHint swap.pool.protocol = .native ∧
        (poolById firstVersion swap.pool.componentId).isSome := by decide
  exact ⟨⟨swap, hswap, (hpools swap hswap).1⟩, (hpools swap hswap).2⟩

end TychoSimulationServer
