import TychoSimulationServer.Protocol
import TychoSimulationServer.Fallible
import TychoSimulationServer.SnapshotSplit

/-!
# Encoding a route

A route request splits an amount over *segments*; a segment is a chain of *hops* from the request's
token in to its token out; a hop is split over *swaps* on single pools. Encoding a route normalises
the request, simulates every swap on the current pool states, hop depth by hop depth, and emits the
swaps in that order with the fractions the router has to split by.

What a pool answers, where a pool and a token come from and how hex bytes are parsed belongs to
other code and is gathered in `RouteEnv`. Anything that may change while the route is encoded is
given the *moment* it is asked at: the number of swaps simulated before. Amounts are natural
numbers, as `BigUint` is.
-/

namespace TychoSimulationServer

open Fallible

variable {Sim : Type}

/-! ## Errors -/

/-- `EncodeErrorKind`. -/
inductive EncodeErrorKind where
  | invalidRequest
  | notFound
  | unavailable
  | simulation
  | encoding
  | internal
deriving DecidableEq, Repr

/-- `EncodeError`. -/
structure EncodeError where
  kind : EncodeErrorKind
  message : String
deriving DecidableEq, Repr

/-- `EncodeError::invalid`. -/
def EncodeError.invalid (message : String) : EncodeError := ⟨.invalidRequest, message⟩

/-- `EncodeError::not_found`. -/
def EncodeError.notFound (message : String) : EncodeError := ⟨.notFound, message⟩

/-- `EncodeError::unavailable`. -/
def EncodeError.unavailable (message : String) : EncodeError := ⟨.unavailable, message⟩

/-- `EncodeError::simulation`. -/
def EncodeError.simulation (message : String) : EncodeError := ⟨.simulation, message⟩

/-- `EncodeError::internal`. -/
def EncodeError.internal (message : String) : EncodeError := ⟨.internal, message⟩

/-! ## Requests

A route is segments in parallel, each a chain of hops, each hop a set of swaps in parallel. -/

/-- `SwapKind`. -/
inductive SwapKind where
  | simpleSwap
  | multiSwap
  | megaSwap
deriving DecidableEq, Repr

/-- `PoolRef`: the protocol is a hint of the caller. -/
structure PoolRef where
  protocol : String
  componentId : String
  poolAddress : Option String
deriving DecidableEq, Repr

/-- `PoolSwapDraft`. -/
structure PoolSwapDraft where
  pool : PoolRef
  tokenIn : String
  tokenOut : String
  splitBps : Nat
deriving DecidableEq, Repr

/-- `HopDraft`. -/
structure HopDraft where
  tokenIn : String
  tokenOut : String
  swaps : List PoolSwapDraft
deriving DecidableEq, Repr

/-- `SegmentDraft`. -/
structure SegmentDraft where
  kind : SwapKind
  shareBps : Nat
  hops : List HopDraft
deriving DecidableEq, Repr

/-- `RouteEncodeRequest`, with the fields that decide the swaps. -/
structure RouteEncodeRequest where
  chainId : UInt64
  tokenIn : String
  tokenOut : String
  amountIn : String
  minAmountOut : String
  swapKind : SwapKind
  tychoRouterAddress : String
  segments : List SegmentDraft
deriving DecidableEq, Repr

/-- `infer_segment_kind`. -/
def inferSegmentKind (segment : SegmentDraft) : SwapKind :=
  if segment.hops.length > 1 then .multiSwap else .simpleSwap

/-- `infer_route_kind`. -/
def inferRouteKind (segments : List SegmentDraft) : SwapKind :=
  if segments.length > 1 then .megaSwap
  else if ((segments.head?.map (·.hops.length)).getD 0) > 1 then .multiSwap
  else .simpleSwap

/-- The debug form of a swap kind. -/
def SwapKind.debug : SwapKind → String
  | .simpleSwap => "SimpleSwap"
  | .multiSwap => "MultiSwap"
  | .megaSwap => "MegaSwap"

/-- `validate_swap_kinds`. -/
def validateSwapKinds (request : RouteEncodeRequest) : Except EncodeError Unit := do
  ensure (request.segments ≠ []) (.invalid "segments must not be empty")
  let expected := (inferRouteKind request.segments).debug
  ensure (request.swapKind = inferRouteKind request.segments)
    (.invalid s!"swapKind mismatch: expected {expected}")
  forM request.segments.zipIdx fun (segment, index) =>
    let expected := (inferSegmentKind segment).debug
    ensure (segment.kind = inferSegmentKind segment)
      (.invalid s!"segment[{index}].kind mismatch: expected {expected}")

/-! ## Wire formats -/

/-- `parse_address`. -/
def parseAddress (bytesFromStr : String → Except String Bytes) (value : String) :
    Except EncodeError Bytes :=
  match bytesFromStr (rustTrim value) with
  | .error err => .error (.invalid s!"Invalid address {value}: {err}")
  | .ok bytes => do
    ensure (bytes.length = 20) (.invalid s!"Invalid address length for {value}")
    return bytes

/-- `format_address`. -/
def formatAddress (bytes : Bytes) : String := bytes.display

/-! ## Protocol policies -/

/-- `normalize_protocol_id`. -/
def normalizeProtocolId (protocolId : String) : String :=
  normalizeProtoName (rustTrim protocolId)

/-- `is_native_protocol_allowlisted`. -/
def isNativeProtocolAllowlisted (protocolId : String) (allowlist : List String) : Bool :=
  allowlist.any fun candidate => normalizeProtocolId candidate = normalizeProtocolId protocolId

/-- `format_native_protocol_allowlist`. -/
def formatNativeProtocolAllowlist (allowlist : List String) : String :=
  ", ".intercalate allowlist

/-- `Erc4626PairPolicy`. -/
structure Erc4626PairPolicy where
  assetSymbol : String
  shareSymbol : String
  asset : Bytes
  share : Bytes
  allowAssetToShare : Bool
  allowShareToAsset : Bool
deriving DecidableEq, Repr

/-- `supports_direction`. -/
def Erc4626PairPolicy.supportsDirection (pair : Erc4626PairPolicy) (tokenIn tokenOut : Bytes)
    (depositsEnabled : Bool) : Bool :=
  (depositsEnabled && pair.allowAssetToShare && tokenIn = pair.asset && tokenOut = pair.share)
    || (pair.allowShareToAsset && tokenIn = pair.share && tokenOut = pair.asset)

/-- `component_matches`. -/
def Erc4626PairPolicy.componentMatches (pair : Erc4626PairPolicy) (component : ProtocolComponent) :
    Bool :=
  component.id = pair.share && component.tokens.length = 2
    && component.tokens.any (·.address = pair.asset)
    && component.tokens.any (·.address = pair.share)

/-- `direction_label`. -/
def Erc4626PairPolicy.directionLabel (pair : Erc4626PairPolicy) (tokenIn tokenOut : Bytes) :
    Option String :=
  if tokenIn = pair.asset ∧ tokenOut = pair.share then
    some (pair.assetSymbol ++ " -> " ++ pair.shareSymbol)
  else if tokenIn = pair.share ∧ tokenOut = pair.asset then
    some (pair.shareSymbol ++ " -> " ++ pair.assetSymbol)
  else none

/-- `supported_direction_labels`. -/
def supportedDirectionLabels (depositsEnabled : Bool) (pairs : List Erc4626PairPolicy) :
    List String :=
  pairs.flatMap fun pair =>
    (if depositsEnabled && pair.allowAssetToShare then
      [pair.assetSymbol ++ " -> " ++ pair.shareSymbol] else []) ++
    (if pair.allowShareToAsset then [pair.shareSymbol ++ " -> " ++ pair.assetSymbol] else [])

/-- `unsupported_direction_message`. -/
def unsupportedDirectionMessage (tokenIn tokenOut : Bytes) (depositsEnabled : Bool)
    (pairs : List Erc4626PairPolicy) : String :=
  let requested := (pairs.findSome? (·.directionLabel tokenIn tokenOut)).getD
    (tokenIn.display ++ " -> " ++ tokenOut.display)
  let supported := ", ".intercalate (supportedDirectionLabels depositsEnabled pairs)
  s!"ERC4626 direction {requested} is not currently supported by this server; supported directions are [{supported}]"

/-- `is_erc4626_protocol`. -/
def isErc4626Protocol (protocol : String) : Bool :=
  normalizeProtocolId protocol = "erc4626"

/-- `request_direction_supported`. -/
def requestDirectionSupported (protocol : String) (tokenIn tokenOut : Bytes)
    (depositsEnabled : Bool) (pairs : List Erc4626PairPolicy) : Bool :=
  !isErc4626Protocol protocol || pairs.any (·.supportsDirection tokenIn tokenOut depositsEnabled)

/-- `component_is_erc4626`. -/
def componentIsErc4626 (component : ProtocolComponent) : Bool :=
  ProtocolKind.fromComponent component = some .erc4626

/-- `component_direction_supported`. -/
def componentDirectionSupported (component : ProtocolComponent) (tokenIn tokenOut : Bytes)
    (depositsEnabled : Bool) (pairs : List Erc4626PairPolicy) : Bool :=
  !componentIsErc4626 component ||
    pairs.any fun pair =>
      pair.supportsDirection tokenIn tokenOut depositsEnabled && pair.componentMatches component

/-- `PoolBackend`: which store a route expects a pool in. -/
inductive PoolBackend where
  | native
  | vm
  | rfq
deriving DecidableEq, Repr

/-- `PoolBackend::from_kind`. -/
def PoolBackend.fromKind : Option ProtocolKind → PoolBackend
  | some .curve | some .balancerV2 | some .maverickV2 | some .uniswapV4 => .vm
  | some .hashflow | some .bebop | some .liquorice => .rfq
  | _ => .native

/-- `PoolBackend::from_component`. -/
def PoolBackend.fromComponent (component : ProtocolComponent) : PoolBackend :=
  fromKind (ProtocolKind.fromComponent component)

/-- `PoolBackend::from_protocol_hint`. -/
def PoolBackend.fromProtocolHint (protocol : String) : PoolBackend :=
  fromKind (ProtocolKind.fromProtocolHint protocol)

/-! ## Allocation -/

/-- `BPS_DENOMINATOR`. -/
def bpsDenominator : Nat := 10000

/-- `mul_bps`. -/
def mulBps (amount bps : Nat) : Nat :=
  if bps = 0 then 0 else amount * bps / bpsDenominator

/-- The loop of `allocate_amounts_by_bps` from some share on, with the shares and amounts handed
out before; `first` says that no share was handled yet. -/
def allocateFrom (total : Nat) (label fieldName : String) (first : Bool) (sumBps allocated : Nat) :
    List Nat → Except EncodeError (List Nat)
  | [] => .error (.invalid s!"{label} {fieldName} must not be empty")
  | [share] => do
    ensure (share ≤ bpsDenominator) (.invalid s!"{label} {fieldName} must be <= 10000")
    ensure (share = 0) (.invalid s!"{label} last {fieldName} must be 0 to take remainder")
    let amount := total - allocated
    ensure (first ∨ amount ≠ 0)
      (.invalid s!"{label} {fieldName} must leave a remainder for the last entry")
    return [amount]
  | share :: rest => do
    ensure (share ≤ bpsDenominator) (.invalid s!"{label} {fieldName} must be <= 10000")
    ensure (share ≠ 0) (.invalid s!"{label} {fieldName} remainder must be last")
    let sumBps := sumBps + share
    ensure (sumBps ≤ bpsDenominator) (.invalid s!"{label} {fieldName} sum exceeds 10000")
    let amount := mulBps total share
    ensure (amount ≠ 0) (.invalid
      s!"{label} {fieldName} rounds down to zero for this amountIn; increase amountIn or adjust {fieldName}")
    let amounts ← allocateFrom total label fieldName false sumBps (allocated + amount) rest
    return amount :: amounts

/-- `allocate_amounts_by_bps`. -/
def allocateAmountsByBps (total : Nat) (shares : List Nat) (label fieldName : String) :
    Except EncodeError (List Nat) :=
  allocateFrom total label fieldName true 0 0 shares

/-! ## Normalisation

The draft is checked and given amounts: continuity of tokens, kinds of swaps, shares. -/

/-- `NormalizedSwapDraftInternal`. -/
structure NormalizedSwapDraft where
  pool : PoolRef
  tokenIn : Bytes
  tokenOut : Bytes
  splitBps : Nat
deriving DecidableEq, Repr

/-- `NormalizedHopInternal`. -/
structure NormalizedHop where
  tokenIn : Bytes
  tokenOut : Bytes
  swaps : List NormalizedSwapDraft
deriving DecidableEq, Repr

/-- `NormalizedSegmentInternal`. -/
structure NormalizedSegment where
  shareBps : Nat
  amountIn : Nat
  hops : List NormalizedHop
deriving DecidableEq, Repr

/-- What a swap on a pool came to. -/
inductive SimulationOutcome (Sim : Type) where
  | amountOut (amount : Nat) (newState : Sim)
  | failed (error : String)
  | workerPanicked
  | resultDropped

/-- `CachedPoolEntry`. -/
structure CachedPoolEntry (Sim : Type) where
  poolState : Sim
  component : ProtocolComponent
  backend : PoolBackend

/-- Everything a route is encoded against. -/
structure RouteEnv (Sim : Type) where
  bytesFromStr : String → Except String Bytes
  nativeAddress : Bytes
  wrappedNativeAddress : Bytes
  nativeTokenProtocolAllowlist : List String
  erc4626DepositsEnabled : Bool
  erc4626PairPolicies : List Erc4626PairPolicy
  resolvePool : Nat → String → Except EncodeError (CachedPoolEntry Sim)
  lookupToken : Nat → Bytes → PoolBackend → Except EncodeError Token
  runSimulation : Nat → Sim → Nat → Token → Token → SimulationOutcome Sim

section

variable (env : RouteEnv Sim)

/-- `validate_erc4626_swap_supported`. -/
def validateErc4626SwapSupported (swap : PoolSwapDraft) (tokenIn tokenOut : Bytes) :
    Except EncodeError Unit :=
  ensure (¬isErc4626Protocol swap.pool.protocol ∨
      requestDirectionSupported swap.pool.protocol tokenIn tokenOut env.erc4626DepositsEnabled
        env.erc4626PairPolicies)
    (.invalid (unsupportedDirectionMessage tokenIn tokenOut env.erc4626DepositsEnabled
      env.erc4626PairPolicies))

/-- `normalize_swap`. -/
def normalizeSwap (hopTokenIn hopTokenOut : Bytes) (swap : PoolSwapDraft) :
    Except EncodeError NormalizedSwapDraft := do
  let tokenIn ← parseAddress env.bytesFromStr swap.tokenIn
  let tokenOut ← parseAddress env.bytesFromStr swap.tokenOut
  ensure (tokenIn = hopTokenIn) (.invalid "swap tokenIn does not match hop tokenIn")
  ensure (tokenOut = hopTokenOut) (.invalid "swap tokenOut does not match hop tokenOut")
  validateErc4626SwapSupported env swap tokenIn tokenOut
  ensure (swap.splitBps ≤ bpsDenominator) (.invalid "swap splitBps must be <= 10000")
  return { pool := swap.pool, tokenIn, tokenOut, splitBps := swap.splitBps }

/-- The error for a protocol that cannot handle the chain's native token. -/
def nativeUnsupported (protocol : String) : EncodeError :=
  let supported := formatNativeProtocolAllowlist env.nativeTokenProtocolAllowlist
  .invalid s!"native tokenIn/tokenOut is only supported for protocols [{supported}]; got {protocol}"

/-- Hops that touch the native token use allowlisted protocols only. -/
def ensureNativeHopAllowlisted (tokenIn tokenOut : Bytes) (protocols : List String) :
    Except EncodeError Unit :=
  if tokenIn = env.nativeAddress ∨ tokenOut = env.nativeAddress then
    forM protocols fun protocol =>
      ensure (isNativeProtocolAllowlisted protocol env.nativeTokenProtocolAllowlist)
        (nativeUnsupported env protocol)
  else .ok ()

/-- `normalize_hop`. -/
def normalizeHop (hop : HopDraft) : Except EncodeError NormalizedHop := do
  ensure (hop.swaps ≠ []) (.invalid "hop.swaps must not be empty")
  let tokenIn ← parseAddress env.bytesFromStr hop.tokenIn
  let tokenOut ← parseAddress env.bytesFromStr hop.tokenOut
  ensureNativeHopAllowlisted env tokenIn tokenOut (hop.swaps.map (·.pool.protocol))
  let swaps ← hop.swaps.mapM (normalizeSwap env tokenIn tokenOut)
  return { tokenIn, tokenOut, swaps }

/-- Consecutive hops of a segment meet in one token. -/
def validateHopChain : List HopDraft → Except EncodeError Unit
  | previous :: next :: rest => do
    let previousOut ← parseAddress env.bytesFromStr previous.tokenOut
    let nextIn ← parseAddress env.bytesFromStr next.tokenIn
    ensure (previousOut = nextIn) (.invalid "hop token continuity mismatch within segment")
    validateHopChain (next :: rest)
  | _ => .ok ()

/-- `validate_hop_continuity`. -/
def validateHopContinuity (segment : SegmentDraft) (requestTokenIn requestTokenOut : Bytes) :
    Except EncodeError Unit :=
  match segment.hops.head?, segment.hops.getLast? with
  | some first, some last => do
    let firstIn ← parseAddress env.bytesFromStr first.tokenIn
    ensure (firstIn = requestTokenIn)
      (.invalid "segment first hop tokenIn does not match request tokenIn")
    let lastOut ← parseAddress env.bytesFromStr last.tokenOut
    ensure (lastOut = requestTokenOut)
      (.invalid "segment last hop tokenOut does not match request tokenOut")
    validateHopChain env segment.hops
  | _, _ => .error (.invalid "segment.hops must not be empty")

/-- One turn of the loop of `normalize_route`. -/
def normalizeSegment (requestTokenIn requestTokenOut : Bytes) (segment : SegmentDraft)
    (segmentIndex amountIn : Nat) : Except EncodeError NormalizedSegment := do
  ensure (segment.hops ≠ []) (.invalid s!"segment[{segmentIndex}].hops must not be empty")
  validateHopContinuity env segment requestTokenIn requestTokenOut
  let hops ← segment.hops.mapM (normalizeHop env)
  ensure (amountIn ≠ 0) (.invalid s!"segment[{segmentIndex}] amountIn must be > 0")
  return { shareBps := segment.shareBps, amountIn, hops }

/-- The loop of `normalize_route`, over the segments and the amounts allocated to them. -/
def normalizeSegments (requestTokenIn requestTokenOut : Bytes) :
    Nat → List SegmentDraft → List Nat → Except EncodeError (List NormalizedSegment)
  | _, [], _ => .ok []
  | _, _ :: _, [] => .error (.internal "Missing segment amount allocation")
  | index, segment :: rest, amount :: amounts => do
    let normalized ← normalizeSegment env requestTokenIn requestTokenOut segment index amount
    let others ← normalizeSegments requestTokenIn requestTokenOut (index + 1) rest amounts
    return normalized :: others

/-- `normalize_route`. -/
def normalizeRoute (segments : List SegmentDraft) (requestTokenIn requestTokenOut : Bytes)
    (totalAmountIn : Nat) : Except EncodeError (List NormalizedSegment) := do
  ensure (segments ≠ []) (.invalid "segments must not be empty")
  ensure (totalAmountIn ≠ 0) (.invalid "amountIn must be > 0")
  let amounts ← allocateAmountsByBps totalAmountIn (segments.map (·.shareBps)) "segment" "shareBps"
  normalizeSegments env requestTokenIn requestTokenOut 0 segments amounts

end

/-! ## Resimulation

Hops are simulated depth by depth, with caches of pools and tokens that all segments share. -/

/-- `AllocatedSwap`. -/
structure AllocatedSwap where
  pool : PoolRef
  tokenIn : Bytes
  tokenOut : Bytes
  splitBps : Nat
  amountIn : Nat
deriving DecidableEq, Repr

/-- `ResimulatedSwapInternal`. -/
structure ResimulatedSwap (Sim : Type) where
  pool : PoolRef
  backend : PoolBackend
  tokenIn : Bytes
  tokenOut : Bytes
  splitBps : Nat
  amountIn : Nat
  expectedAmountOut : Nat
  poolState : Sim
  component : ProtocolComponent

/-- `ResimulatedHopInternal`. -/
structure ResimulatedHop (Sim : Type) where
  tokenIn : Bytes
  tokenOut : Bytes
  amountIn : Nat
  expectedAmountOut : Nat
  swaps : List (ResimulatedSwap Sim)

/-- `ResimulatedSegmentInternal`. -/
structure ResimulatedSegment (Sim : Type) where
  shareBps : Nat
  amountIn : Nat
  expectedAmountOut : Nat
  hops : List (ResimulatedHop Sim)

/-- `allocate_swaps_by_bps`. -/
def allocateSwapsByBps (hopAmountIn : Nat) (swaps : List NormalizedSwapDraft)
    (segmentIndex hopIndex : Nat) : Except EncodeError (List AllocatedSwap) := do
  ensure (swaps ≠ []) (.invalid "hop.swaps must not be empty")
  ensure (hopAmountIn ≠ 0) (.invalid "hop amountIn must be > 0")
  let amounts ← allocateAmountsByBps hopAmountIn (swaps.map (·.splitBps))
    s!"segment[{segmentIndex}].hop[{hopIndex}].swap" "splitBps"
  ensure (swaps.length ≤ amounts.length) (.internal "Missing swap amount allocation")
  return swaps.zipWith (fun swap amountIn =>
    { pool := swap.pool, tokenIn := swap.tokenIn, tokenOut := swap.tokenOut
      splitBps := swap.splitBps, amountIn }) amounts

/-- The pools and tokens loaded so far, with the states the earlier swaps left the pools in, and
the number of swaps simulated. -/
structure RouteCaches (Sim : Type) where
  pools : FinMap String (CachedPoolEntry Sim)
  tokens : FinMap Bytes Token
  moment : Nat

/-- `SegmentSimState`. The hops of a segment are filled one after the other. -/
structure SegmentSimState (Sim : Type) where
  nextAmountIn : Nat
  hops : List (ResimulatedHop Sim)

section

variable (env : RouteEnv Sim)

/-- `load_pool_entry`. -/
def loadPoolEntry (caches : RouteCaches Sim) (poolId : String) :
    Except EncodeError (CachedPoolEntry Sim × RouteCaches Sim) :=
  match caches.pools[poolId]? with
  | some entry => .ok (entry, caches)
  | none => do
    let entry ← env.resolvePool caches.moment poolId
    return (entry, { caches with pools := caches.pools.insert poolId entry })

/-- `TokenCache::get`. -/
def tokenCacheGet (caches : RouteCaches Sim) (address : Bytes) (backend : PoolBackend) :
    Except EncodeError (Token × RouteCaches Sim) :=
  match caches.tokens[address]? with
  | some token => .ok (token, caches)
  | none => do
    let token ← env.lookupToken caches.moment address backend
    return (token, { caches with tokens := caches.tokens.insert address token })

/-- `ensure_erc4626_swap_supported`. -/
def ensureErc4626SwapSupported (component : ProtocolComponent) (tokenIn tokenOut : Bytes) :
    Except EncodeError Unit :=
  ensure (¬componentIsErc4626 component ∨
      componentDirectionSupported component tokenIn tokenOut env.erc4626DepositsEnabled
        env.erc4626PairPolicies)
    (.invalid (unsupportedDirectionMessage tokenIn tokenOut env.erc4626DepositsEnabled
      env.erc4626PairPolicies))

/-- `ensure_native_swap_supported`: says whether the native token stays unwrapped. -/
def ensureNativeSwapSupported (tokenIn tokenOut : Bytes) (component : ProtocolComponent)
    (componentId : String) : Except EncodeError Bool := do
  let supportsNative :=
    isNativeProtocolAllowlisted component.protocolSystem env.nativeTokenProtocolAllowlist
  let (supported, system) :=
    (formatNativeProtocolAllowlist env.nativeTokenProtocolAllowlist, component.protocolSystem)
  ensure (¬((tokenIn = env.nativeAddress ∨ tokenOut = env.nativeAddress) ∧ supportsNative = false))
    (.invalid s!"native tokenIn/tokenOut is only supported for protocols [{supported}]; pool {componentId} uses {system}")
  return supportsNative

/-- `map_swap_token`. -/
def mapSwapToken (address : Bytes) (keepNativeUnwrapped : Bool) : Bytes :=
  if keepNativeUnwrapped = false ∧ address = env.nativeAddress then env.wrappedNativeAddress
  else address

/-- `simulate_swap`. -/
def simulateSwap (moment : Nat) (poolState : Sim) (amountIn : Nat) (tokenIn tokenOut : Token)
    (poolId : String) : Except EncodeError (Nat × Sim) :=
  match env.runSimulation moment poolState amountIn tokenIn tokenOut with
  | .amountOut amount newState => .ok (amount, newState)
  | .failed error => .error (.simulation s!"Pool {poolId} simulation failed: {error}")
  | .workerPanicked => .error (.internal s!"Pool {poolId} simulation worker panicked")
  | .resultDropped => .error (.internal s!"Pool {poolId} simulation result was dropped")

/-- `simulate_allocated_swap`. -/
def simulateAllocatedSwap (caches : RouteCaches Sim) (allocated : AllocatedSwap) :
    Except EncodeError (ResimulatedSwap Sim × RouteCaches Sim) := do
  let poolId := allocated.pool.componentId
  let (entry, caches) ← loadPoolEntry env caches poolId
  ensureErc4626SwapSupported env entry.component allocated.tokenIn allocated.tokenOut
  let keepNative ← ensureNativeSwapSupported env allocated.tokenIn allocated.tokenOut
    entry.component poolId
  let (tokenIn, caches) ← tokenCacheGet env caches (mapSwapToken env allocated.tokenIn keepNative)
    entry.backend
  let (tokenOut, caches) ← tokenCacheGet env caches (mapSwapToken env allocated.tokenOut keepNative)
    entry.backend
  let (amount, newState) ← simulateSwap env caches.moment entry.poolState allocated.amountIn
    tokenIn tokenOut poolId
  ensure (amount ≠ 0) (.simulation s!"Pool {poolId} returned zero amountOut")
  pure
    ({ pool := allocated.pool, backend := entry.backend, tokenIn := allocated.tokenIn
       tokenOut := allocated.tokenOut, splitBps := allocated.splitBps
       amountIn := allocated.amountIn, expectedAmountOut := amount
       poolState := entry.poolState, component := entry.component },
     { caches with
       pools := caches.pools.insert poolId { entry with poolState := newState }
       moment := caches.moment + 1 })

/-- The loop of `simulate_allocated_swaps`. -/
def simulateEach (caches : RouteCaches Sim) :
    List AllocatedSwap → Except EncodeError (List (ResimulatedSwap Sim) × RouteCaches Sim)
  | [] => .ok ([], caches)
  | allocated :: rest => do
    let (swap, caches) ← simulateAllocatedSwap env caches allocated
    let (swaps, caches) ← simulateEach caches rest
    return (swap :: swaps, caches)

/-- `simulate_allocated_swaps`. -/
def simulateAllocatedSwaps (caches : RouteCaches Sim) (allocated : List AllocatedSwap)
    (hopAmountIn : Nat) :
    Except EncodeError (List (ResimulatedSwap Sim) × Nat × RouteCaches Sim) := do
  let (swaps, caches) ← simulateEach env caches allocated
  let hopExpected := (swaps.map (·.expectedAmountOut)).sum
  ensure (hopExpected ≠ 0)
    (.simulation s!"hop amountIn {hopAmountIn} produced zero amountOut")
  return (swaps, hopExpected, caches)

/-- `resimulate_segment_hop`, for one segment and its state. -/
def resimulateSegmentHop (caches : RouteCaches Sim) (segment : NormalizedSegment)
    (state : SegmentSimState Sim) (segmentIndex hopIndex : Nat) :
    Except EncodeError (SegmentSimState Sim × RouteCaches Sim) :=
  match segment.hops[hopIndex]? with
  | none => .ok (state, caches)
  | some hop => do
    ensure (state.nextAmountIn ≠ 0)
      (.invalid s!"segment[{segmentIndex}].hop[{hopIndex}] amountIn is zero")
    let allocated ← allocateSwapsByBps state.nextAmountIn hop.swaps segmentIndex hopIndex
    let (swaps, hopExpected, caches) ← simulateAllocatedSwaps env caches allocated
      state.nextAmountIn
    pure
      ({ nextAmountIn := hopExpected
         hops := state.hops ++
           [{ tokenIn := hop.tokenIn, tokenOut := hop.tokenOut, amountIn := state.nextAmountIn
              expectedAmountOut := hopExpected, swaps }] },
       caches)

/-- The inner loop: one hop of every segment. -/
def resimulateDepth (hopIndex : Nat) : Nat → RouteCaches Sim → List NormalizedSegment →
    List (SegmentSimState Sim) → Except EncodeError (List (SegmentSimState Sim) × RouteCaches Sim)
  | _, caches, [], states => .ok (states, caches)
  | _, _, _ :: _, [] => .error (.internal "Segment state missing after resimulation")
  | index, caches, segment :: segments, state :: states => do
    let (state, caches) ← resimulateSegmentHop env caches segment state index hopIndex
    let (states, caches) ← resimulateDepth hopIndex (index + 1) caches segments states
    return (state :: states, caches)

/-- The outer loop: depth by depth. -/
def resimulateFrom (segments : List NormalizedSegment) : List Nat → RouteCaches Sim →
    List (SegmentSimState Sim) → Except EncodeError (List (SegmentSimState Sim))
  | [], _, states => .ok states
  | hopIndex :: depths, caches, states => do
    let (states, caches) ← resimulateDepth env hopIndex 0 caches segments states
    resimulateFrom segments depths caches states

/-- `max_hop_depth`. -/
def maxHopDepth (segments : List NormalizedSegment) : Nat :=
  (segments.map (·.hops.length)).foldl max 0

/-- `validate_native_request_tokens`. -/
def validateNativeRequestTokens (segments : List NormalizedSegment) : Except EncodeError Unit :=
  forM (segments.flatMap (·.hops)) fun hop =>
    ensureNativeHopAllowlisted env hop.tokenIn hop.tokenOut (hop.swaps.map (·.pool.protocol))

/-- One turn of the loop of `build_resimulated_segments`. -/
def buildResimulatedSegment (segment : NormalizedSegment) (state : SegmentSimState Sim) :
    Except EncodeError (ResimulatedSegment Sim) := do
  ensure (state.hops.length = segment.hops.length)
    (.internal "Segment hops missing after resimulation")
  match state.hops.getLast? with
  | none => .error (.internal "Segment hops missing after resimulation")
  | some lastHop =>
    return { shareBps := segment.shareBps, amountIn := segment.amountIn
             expectedAmountOut := lastHop.expectedAmountOut, hops := state.hops }

/-- `build_resimulated_segments`. -/
def buildResimulatedSegments : List NormalizedSegment → List (SegmentSimState Sim) →
    Except EncodeError (List (ResimulatedSegment Sim))
  | [], _ => .ok []
  | _ :: _, [] => .error (.internal "Segment state missing after resimulation")
  | segment :: segments, state :: states => do
    let built ← buildResimulatedSegment segment state
    let others ← buildResimulatedSegments segments states
    return built :: others

/-- `resimulate_route_with_native_pin`. -/
def resimulateRoute (segments : List NormalizedSegment) (requestTokenIn requestTokenOut : Bytes) :
    Except EncodeError (List (ResimulatedSegment Sim)) := do
  let states ← resimulateFrom env segments (List.range (maxHopDepth segments))
    { pools := ∅, tokens := ∅, moment := 0 }
    (segments.map fun segment => { nextAmountIn := segment.amountIn, hops := [] })
  ensure (requestTokenIn ≠ [] ∧ requestTokenOut ≠ [])
    (.internal "Request tokens missing after resimulation")
  validateNativeRequestTokens env segments
  buildResimulatedSegments segments states

end

/-- `compute_expected_total`. -/
def computeExpectedTotal (segments : List (ResimulatedSegment Sim)) : Nat :=
  (segments.map (·.expectedAmountOut)).sum

/-! ## Emitted swaps

Swaps are emitted in the order they were simulated, and swaps that share a token say which fraction
of it they take. -/

/-- The swap handed to the router encoder. -/
structure EncodedSwap (Sim : Type) where
  component : ProtocolComponent
  tokenIn : Bytes
  tokenOut : Bytes
  split : Rat
  protocolState : Sim
  estimatedAmountIn : Option Nat

/-- `SplitStats`. -/
structure SplitStats where
  totalAmount : Nat
  count : Nat
  lastIndex : Nat
deriving DecidableEq, Repr

/-- The swaps of one depth, segment by segment. -/
def swapsAtDepth (segments : List (ResimulatedSegment Sim)) (hopIndex : Nat) :
    List (ResimulatedSwap Sim) :=
  segments.flatMap fun segment => (segment.hops[hopIndex]?.map (·.swaps)).getD []

/-- All swaps in the order they are emitted: by hop depth. -/
def orderedSwaps (segments : List (ResimulatedSegment Sim)) : List (ResimulatedSwap Sim) :=
  (List.range ((segments.map (·.hops.length)).foldl max 0)).flatMap (swapsAtDepth segments)

/-- `ensure_token_in_single_depth`, with the depths found so far. -/
def ensureTokenInSingleDepth (segments : List (ResimulatedSegment Sim)) : Except EncodeError Unit :=
  do
    let uses := segments.flatMap fun segment =>
      segment.hops.zipIdx.flatMap fun (hop, hopIndex) => hop.swaps.map fun swap =>
        (swap.tokenIn, hopIndex)
    let _ ← uses.foldlM (fun (depths : FinMap Bytes Nat) (tokenIn, hopIndex) =>
      match depths[tokenIn]? with
      | none => .ok (depths.insert tokenIn hopIndex)
      | some depth =>
        let token := formatAddress tokenIn
        if depth = hopIndex then .ok depths
        else .error (.invalid s!"tokenIn {token} appears at multiple hop depths")) ∅

/-- `compute_split_fraction`, with the exact ratio for the quotient of the two `f64`. Whether that
quotient is finite depends on the sizes of the two amounts. -/
def computeSplitFraction (finite : Nat → Nat → Bool) (amountIn totalIn : Nat)
    (isRemainder : Bool) (count : Nat) (tokenIn : Bytes) : Except EncodeError Rat :=
  if count ≤ 1 ∨ isRemainder then .ok 0
  else do
    ensure (totalIn ≠ 0)
      (.invalid "TokenIn total amount must be positive for split calculation")
    let token := formatAddress tokenIn
    ensure (¬(amountIn = 0 ∨ amountIn ≥ totalIn))
      (.invalid s!"Invalid split ratio for tokenIn {token}")
    ensure (finite amountIn totalIn) (.invalid "Invalid split ratio for tokenIn")
    return (amountIn : Rat) / totalIn

/-- One turn of the first loop of `build_route_swaps`. -/
def recordSplit (stats : FinMap Bytes SplitStats) (entry : ResimulatedSwap Sim × Nat) :
    FinMap Bytes SplitStats :=
  let (swap, index) := entry
  let held := stats[swap.tokenIn]?.getD { totalAmount := 0, count := 0, lastIndex := index }
  stats.insert swap.tokenIn
    { totalAmount := held.totalAmount + swap.amountIn, count := held.count + 1
      lastIndex := index }

/-- One turn of the second loop of `build_route_swaps`. -/
def encodeSwap (finite : Nat → Nat → Bool) (stats : FinMap Bytes SplitStats)
    (entry : ResimulatedSwap Sim × Nat) : Except EncodeError (EncodedSwap Sim) :=
  let (swap, index) := entry
  match stats[swap.tokenIn]? with
  | none => .error (.internal "Missing split stats for swap tokenIn")
  | some held => do
    let split ← computeSplitFraction finite swap.amountIn held.totalAmount
      (held.count = 1 || held.lastIndex = index) held.count swap.tokenIn
    return { component := swap.component, tokenIn := swap.tokenIn, tokenOut := swap.tokenOut
             split, protocolState := swap.poolState
             estimatedAmountIn := if swap.backend = .rfq then some swap.amountIn else none }

/-- `build_route_swaps`. -/
def buildRouteSwaps (finite : Nat → Nat → Bool) (segments : List (ResimulatedSegment Sim)) :
    Except EncodeError (List (EncodedSwap Sim)) := do
  ensureTokenInSingleDepth segments
  let ordered := (orderedSwaps segments).zipIdx
  let stats := ordered.foldl recordSplit ∅
  ordered.mapM (encodeSwap finite stats)

end TychoSimulationServer
