import TychoSimulationServer.Protocol
import TychoSimulationServer.Fallible
import TychoSimulationServer.MapFold

/-!
# The state store

The simulator's pools, sharded by protocol, with two redundant indexes: `id_to_kind` says in which
shard an id lives, `token_index` says which ids list a token. A `StateStore` never edits its
published state in place; every operation clones it, edits the clone and publishes it whole.

The edits of an update are three loops: announce new pairs, replace states, drop removed pairs.
None of them looks at the stored entry before it edits the indexes. What the loops do is therefore
stated per pool id: `PoolView` is everything the store says about one id, and each loop changes the
view of the ids it names and of no other. Whether the indexes still agree with the pools afterwards
is then a question about one view.
-/

namespace TychoSimulationServer

open Fallible MapFold

variable {Sim : Type}

/-! ## State

The pools stand in a shard of their protocol. Two indexes are kept beside the shards: the protocol
of an id, and the ids that a token is traded by. -/

/-- A stored pool. -/
structure PoolEntry (Sim : Type) where
  state : Sim
  component : ProtocolComponent
deriving DecidableEq

/-- `PublishedStateStore`. -/
structure PublishedStateStore (Sim : Type) where
  version : UInt64
  requestGeneration : UInt64
  requestsAllowed : Bool
  shards : FinMap ProtocolKind (FinMap String (PoolEntry Sim))
  idToKind : FinMap String ProtocolKind
  tokenIndex : FinMap Bytes (FinSet String)
  tokens : FinMap Bytes Token
  wrappedNativeToken : Option Bytes
  blockNumber : UInt64
  ready : Bool

/-- `PublishedStateStore::empty`. -/
def PublishedStateStore.empty (tokens : FinMap Bytes Token) (wrappedNativeToken : Option Bytes) :
    PublishedStateStore Sim :=
  { version := 0
    requestGeneration := 0
    requestsAllowed := false
    shards := ProtocolKind.all.foldl (fun shards kind => shards.insert kind ∅) ∅
    idToKind := ∅
    tokenIndex := ∅
    tokens := tokens
    wrappedNativeToken := wrappedNativeToken
    blockNumber := 0
    ready := false }

/-- A decoded upstream update. -/
structure Update (Sim : Type) where
  blockNumberOrTimestamp : UInt64
  newPairs : FinMap String ProtocolComponent
  states : FinMap String Sim
  removedPairs : FinMap String ProtocolComponent

/-- `UpdateAccumulator`: what an update did, and the oddities met on the way. -/
structure UpdateAccumulator where
  newPairsCount : Nat := 0
  newPairsMissingState : Nat := 0
  unknownProtocolNewPairs : Nat := 0
  updatedStates : Nat := 0
  updatesForUnknownPair : Nat := 0
  statesMissingInShard : Nat := 0
  removedPairsCount : Nat := 0
  removedUnknownPair : Nat := 0
  anomalySamples : List String := []
  tokensToCache : List Token := []
deriving DecidableEq, Repr

/-- `UPDATE_ANOMALY_SAMPLE_CAP`. -/
def updateAnomalySampleCap : Nat := 6

/-- `UpdateAccumulator::record_anomaly`, keeping the first few samples. -/
def UpdateAccumulator.recordAnomaly (stats : UpdateAccumulator) (kind value : String) :
    UpdateAccumulator :=
  if stats.anomalySamples.length ≥ updateAnomalySampleCap then stats
  else { stats with anomalySamples := stats.anomalySamples ++ [kind ++ ":" ++ value] }

/-- `u64::saturating_add(1)`. -/
def saturatingSucc (n : UInt64) : UInt64 :=
  if n.toNat + 1 < 2 ^ 64 then n + 1 else n

/-! ## Index edits

An id is added to and taken from the set of each token of its component; a set that becomes empty is
dropped. -/

/-- `token_index.entry(address).or_default().insert(id)`. -/
def indexToken (index : FinMap Bytes (FinSet String)) (id : String) (address : Bytes) :
    FinMap Bytes (FinSet String) :=
  index.insert address ((index[address]?.getD ∅).insert id)

/-- Index an id under all tokens of a component. -/
def indexComponent (index : FinMap Bytes (FinSet String)) (id : String)
    (component : ProtocolComponent) : FinMap Bytes (FinSet String) :=
  component.tokens.foldl (fun index token => indexToken index id token.address) index

/-- Take an id out of one token's set, and the set out of the index when it is empty. -/
def unindexToken (index : FinMap Bytes (FinSet String)) (id : String) (address : Bytes) :
    FinMap Bytes (FinSet String) :=
  match index[address]? with
  | none => index
  | some poolIds =>
    let remaining := poolIds.erase id
    if remaining.isEmpty then index.erase address else index.insert address remaining

/-- Take an id out of the sets of all tokens of a component. -/
def unindexComponent (index : FinMap Bytes (FinSet String)) (id : String)
    (component : ProtocolComponent) : FinMap Bytes (FinSet String) :=
  component.tokens.foldl (fun index token => unindexToken index id token.address) index

/-! ## The loops of an update

An update has three parts, applied in this order: pools that are announced, new states of known
pools, pools that are removed. Each part is a loop that edits a copy of the published maps. -/

/-- What the loops of an update thread through: the clone being edited, the states not yet used,
and the statistics. -/
structure UpdateRun (Sim : Type) where
  published : PublishedStateStore Sim
  states : FinMap String Sim
  stats : UpdateAccumulator

/-- One iteration of `apply_new_pairs`. -/
def applyNewPair (run : UpdateRun Sim) (pair : String × ProtocolComponent) : UpdateRun Sim :=
  let id := pair.1
  let component := pair.2
  match ProtocolKind.fromComponent component with
  | none =>
    { run with
      stats :=
        { run.stats with
          unknownProtocolNewPairs := run.stats.unknownProtocolNewPairs + 1
        }.recordAnomaly "unknown_protocol_new_pairs" id }
  | some kind =>
    match run.states[id]? with
    | none =>
      { run with
        stats :=
          { run.stats with
            newPairsMissingState := run.stats.newPairsMissingState + 1
          }.recordAnomaly "new_pairs_missing_state" id }
    | some state =>
      -- the state is taken out of the update whether or not the shard exists
      let states := run.states.erase id
      match run.published.shards[kind]? with
      | none =>
        { run with
          states := states
          stats :=
            { run.stats with
              unknownProtocolNewPairs := run.stats.unknownProtocolNewPairs + 1
            }.recordAnomaly "unknown_protocol_new_pairs" id }
      | some shard =>
        { published :=
            { run.published with
              idToKind := run.published.idToKind.insert id kind
              tokenIndex := indexComponent run.published.tokenIndex id component
              shards := run.published.shards.insert kind (shard.insert id ⟨state, component⟩) }
          states := states
          stats :=
            { run.stats with
              tokensToCache := run.stats.tokensToCache ++ component.tokens
              newPairsCount := run.stats.newPairsCount + 1 } }

/-- `apply_new_pairs`. -/
def applyNewPairs (run : UpdateRun Sim) (newPairs : FinMap String ProtocolComponent) :
    UpdateRun Sim :=
  newPairs.toList.foldl applyNewPair run

/-- One iteration of `apply_state_updates`. -/
def applyStateUpdate (run : UpdateRun Sim) (entry : String × Sim) : UpdateRun Sim :=
  let id := entry.1
  let state := entry.2
  match run.published.idToKind[id]? with
  | none =>
    { run with
      stats :=
        { run.stats with
          updatesForUnknownPair := run.stats.updatesForUnknownPair + 1
        }.recordAnomaly "updates_for_unknown_pair" id }
  | some kind =>
    match run.published.shards[kind]? with
    | none =>
      { run with
        stats :=
          { run.stats with
            statesMissingInShard := run.stats.statesMissingInShard + 1
          }.recordAnomaly "states_missing_in_shard" id }
    | some shard =>
      match shard[id]? with
      | some existing =>
        { run with
          published :=
            { run.published with
              shards :=
                run.published.shards.insert kind (shard.insert id { existing with state := state }) }
          stats := { run.stats with updatedStates := run.stats.updatedStates + 1 } }
      | none =>
        { run with
          stats :=
            { run.stats with
              statesMissingInShard := run.stats.statesMissingInShard + 1
            }.recordAnomaly "states_missing_in_shard" id }

/-- `apply_state_updates`, over the states the new pairs left. -/
def applyStateUpdates (run : UpdateRun Sim) : UpdateRun Sim :=
  run.states.toList.foldl applyStateUpdate run

/-- One iteration of `apply_removed_pairs`. The indexes are cleaned by the removed component's
tokens, not by the stored one's. -/
def applyRemovedPair (run : UpdateRun Sim) (pair : String × ProtocolComponent) : UpdateRun Sim :=
  let id := pair.1
  let component := pair.2
  let published :=
    { run.published with
      tokenIndex := unindexComponent run.published.tokenIndex id component }
  match published.idToKind[id]? with
  | some kind =>
    let published := { published with idToKind := published.idToKind.erase id }
    match published.shards[kind]? with
    | some shard =>
      { run with
        published := { published with shards := published.shards.insert kind (shard.erase id) }
        stats := { run.stats with removedPairsCount := run.stats.removedPairsCount + 1 } }
    | none => { run with published := published }
  | none =>
    { run with
      published := published
      stats :=
        { run.stats with
          removedUnknownPair := run.stats.removedUnknownPair + 1
        }.recordAnomaly "removed_unknown_pair" id }

/-- `apply_removed_pairs`. -/
def applyRemovedPairs (run : UpdateRun Sim) (removedPairs : FinMap String ProtocolComponent) :
    UpdateRun Sim :=
  removedPairs.toList.foldl applyRemovedPair run

/-- `rebuild_indexes`: both indexes from the shards alone. -/
def rebuildIndexes (published : PublishedStateStore Sim) : PublishedStateStore Sim :=
  published.shards.toList.foldl
    (fun published (kind, shard) =>
      shard.toList.foldl
        (fun published (id, entry) =>
          { published with
            idToKind := published.idToKind.insert id kind
            tokenIndex := indexComponent published.tokenIndex id entry.component })
        published)
    { published with idToKind := ∅, tokenIndex := ∅ }

/-! ## Operations

Every operation ends by publishing the copy as one snapshot, with its version. -/

/-- `UpdateMetrics`. -/
structure UpdateMetrics where
  blockNumber : UInt64
  totalPairs : Nat
  stats : UpdateAccumulator
deriving DecidableEq, Repr

/-- `publish`: every publication starts a new request generation. -/
def publish (current replacement : PublishedStateStore Sim) : PublishedStateStore Sim :=
  { replacement with requestGeneration := saturatingSucc current.requestGeneration }

/-- `fence_requests`. -/
def fenceRequests (current : PublishedStateStore Sim) : PublishedStateStore Sim :=
  publish current { current with requestsAllowed := false }

/-- `align_bootstrap_state_version`. -/
def alignBootstrapStateVersion (current : PublishedStateStore Sim) (stateVersion : UInt64) :
    PublishedStateStore Sim :=
  publish current { current with version := stateVersion, requestsAllowed := current.ready }

/-- `reset`. -/
def reset (current : PublishedStateStore Sim) : PublishedStateStore Sim :=
  publish current
    { PublishedStateStore.empty current.tokens current.wrappedNativeToken with
      version := saturatingSucc current.version }

/-- The shards with one kind cleared, if it has a shard. -/
def clearShard (shards : FinMap ProtocolKind (FinMap String (PoolEntry Sim)))
    (kind : ProtocolKind) : FinMap ProtocolKind (FinMap String (PoolEntry Sim)) :=
  match shards[kind]? with
  | some _ => shards.insert kind ∅
  | none => shards

/-- `reset_protocols`. -/
def resetProtocols (current : PublishedStateStore Sim) (protocols : List ProtocolKind) :
    PublishedStateStore Sim :=
  if protocols.isEmpty then current
  else if protocols.length ≥ ProtocolKind.all.length then reset current
  else if protocols.any (fun kind => current.shards[kind]?.isSome) then
    let replacement :=
      rebuildIndexes { current with shards := protocols.foldl clearShard current.shards }
    let ready := !replacement.idToKind.isEmpty
    publish current
      { replacement with
        version := saturatingSucc current.version
        ready := ready
        requestsAllowed := ready }
  else current

/-- `tokens.entry(address).or_insert(token)` for every token an update brought along. -/
def cacheTokens (tokens : FinMap Bytes Token) (incoming : List Token) : FinMap Bytes Token :=
  incoming.foldl (fun tokens token => tokens.insertIfNew token.address token) tokens

/-- The three loops of an update, in order. -/
def runUpdate (current : PublishedStateStore Sim) (update : Update Sim) : UpdateRun Sim :=
  applyRemovedPairs
    (applyStateUpdates
      (applyNewPairs { published := current, states := update.states, stats := {} }
        update.newPairs))
    update.removedPairs

/-- `apply_update_locked`. -/
def applyUpdateLocked (current : PublishedStateStore Sim) (update : Update Sim)
    (stateVersion : UInt64) : PublishedStateStore Sim × UpdateMetrics :=
  let run := runUpdate
    { current with version := stateVersion, blockNumber := update.blockNumberOrTimestamp } update
  let totalPairs := run.published.idToKind.size
  let ready := decide (totalPairs > 0)
  (publish current
    { run.published with
      tokens := cacheTokens run.published.tokens run.stats.tokensToCache
      ready := ready
      requestsAllowed := ready },
    { blockNumber := update.blockNumberOrTimestamp, totalPairs := totalPairs
      stats := run.stats })

/-- `apply_update`. -/
def applyUpdate (current : PublishedStateStore Sim) (update : Update Sim) :
    PublishedStateStore Sim × UpdateMetrics :=
  applyUpdateLocked current update (saturatingSucc current.version)

/-- A fallible operation of the store, with the text of its error. -/
abbrev StoreM (Sim : Type) := Stateful String (PublishedStateStore Sim)

/-- `apply_update_at_version`. -/
def applyUpdateAtVersion (update : Update Sim) (stateVersion : UInt64) :
    StoreM Sim UpdateMetrics := do
  let current ← get
  check (ensure (current.version < stateVersion)
    ("state version " ++ toString stateVersion ++ " must be newer than published version "
      ++ toString current.version))
  let (replacement, metrics) := applyUpdateLocked current update stateVersion
  set replacement
  pure metrics

/-- `publish_candidate`: the candidate is a pinned state of some store. -/
def publishCandidate (candidate : PublishedStateStore Sim) (targetVersion : UInt64) :
    StoreM Sim Unit := do
  let current ← get
  check (ensure (current.version < targetVersion)
    ("candidate state version " ++ toString targetVersion ++
      " must be newer than published version " ++ toString current.version))
  set (publish current
    { candidate with version := targetVersion, requestsAllowed := candidate.ready })

/-! ## Lookups

Readers look at one published snapshot. The native token is looked up under its wrapped address as
well. -/

/-- `native_token_address`. -/
def nativeTokenAddress : Bytes := List.replicate 20 0

/-- `pool_by_id_from_published`. -/
def poolById (published : PublishedStateStore Sim) (id : String) : Option (PoolEntry Sim) := do
  let kind ← published.idToKind[id]?
  let shard ← published.shards[kind]?
  shard[id]?

/-- `ids_for_token`: the ids of a token, where the native token and its wrapped form stand for
each other. -/
def idsForToken (published : PublishedStateStore Sim) (token : Bytes) : Option (FinSet String) :=
  let ids := published.tokenIndex[token]?.getD ∅
  let ids :=
    if published.wrappedNativeToken = some token then
      ids ∪ published.tokenIndex[nativeTokenAddress]?.getD ∅
    else ids
  let ids :=
    if token = nativeTokenAddress then
      match published.wrappedNativeToken with
      | some wrapped => ids ∪ published.tokenIndex[wrapped]?.getD ∅
      | none => ids
    else ids
  if ids.isEmpty then none else some ids

/-- `intersect_pool_ids`: walk the smaller set, keep what the larger contains. -/
def intersectPoolIds (left right : FinSet String) : List String :=
  if left.size ≤ right.size then left.toList.filter (right.contains ·)
  else right.toList.filter (left.contains ·)

/-- `pool_entries_for_ids`. -/
def poolEntriesForIds (published : PublishedStateStore Sim) (ids : List String) :
    List (String × PoolEntry Sim) :=
  ids.filterMap fun id => (poolById published id).map fun entry => (id, entry)

/-- `matching_pools_from_published`. -/
def matchingPools (published : PublishedStateStore Sim) (tokenIn tokenOut : Bytes) :
    List (String × PoolEntry Sim) :=
  let exact :=
    match published.tokenIndex[tokenIn]?, published.tokenIndex[tokenOut]? with
    | some inIds, some outIds => poolEntriesForIds published (intersectPoolIds inIds outIds)
    | _, _ => []
  if exact.isEmpty then
    match idsForToken published tokenIn, idsForToken published tokenOut with
    | some inIds, some outIds => poolEntriesForIds published (intersectPoolIds inIds outIds)
    | _, _ => []
  else exact

end TychoSimulationServer
