import Mathlib.Data.Finset.Basic
import TychoSimulationServer.Protocol

/-!
# Feed messages

The wire types of the upstream feed, as the broadcaster receives, caches and republishes them. A
`StateSyncMessage` of one protocol carries full snapshots of components and VM accounts, the
`BlockChanges` of its block, and the components it removes. The broadcaster reads most maps by key
only; values it never looks into are carried as text.
-/

namespace TychoSimulationServer

/-- A value the broadcaster passes on without looking into it, as its serialised text. -/
abbrev Carried := String

/-- The header of a block. -/
structure BlockHeader where
  hash : Bytes
  number : UInt64
  parentHash : Bytes
  revert : Bool
  timestamp : UInt64
  partialBlockIndex : Option UInt32
deriving DecidableEq, Repr

/-- `HeaderLike::block_number_or_timestamp` of a block header. -/
def BlockHeader.blockNumberOrTimestamp (header : BlockHeader) : UInt64 :=
  header.number

/-- How far the synchronizer of a protocol is. -/
inductive SynchronizerState where
  | started
  | ready (header : BlockHeader)
  | delayed (header : BlockHeader)
  | stale (header : BlockHeader)
  | advanced (header : BlockHeader)
  | ended (reason : String)
deriving DecidableEq, Repr

/-! ## Accounts

A snapshot carries whole accounts; a block carries changes, in which a missing field is left as it
was. -/

/-- What an `AccountUpdate` does to its account. -/
inductive ChangeType where
  | update
  | deletion
  | creation
  | unspecified
deriving DecidableEq, Repr

/-- A full VM account, as snapshots carry it. -/
structure ResponseAccount where
  chain : Carried
  address : Bytes
  title : String
  slots : FinMap Bytes Bytes
  nativeBalance : Bytes
  tokenBalances : FinMap Bytes Bytes
  code : Bytes
  codeHash : Bytes
  balanceModifyTx : Bytes
  codeModifyTx : Bytes
  creationTx : Option Bytes
deriving DecidableEq

/-- A change of a VM account. -/
structure AccountUpdate where
  address : Bytes
  chain : Carried
  slots : FinMap Bytes Bytes
  balance : Option Bytes
  code : Option Bytes
  change : ChangeType
deriving DecidableEq

/-- A token balance of an account. -/
structure AccountBalance where
  account : Bytes
  token : Bytes
  balance : Bytes
  modifyTx : Bytes
deriving DecidableEq, Repr

/-! ## Components -/

/-- The state of a component: its attributes and token balances. -/
structure ResponseProtocolState where
  componentId : String
  attributes : FinMap String Bytes
  balances : FinMap Bytes Bytes
deriving DecidableEq

/-- A component snapshot. -/
structure ComponentWithState where
  state : ResponseProtocolState
  component : Carried
  componentTvl : Option Carried
  entrypoints : Carried
deriving DecidableEq

/-- A change of a component's attributes. -/
structure ProtocolStateDelta where
  componentId : String
  updatedAttributes : FinMap String Bytes
  deletedAttributes : Finset String
deriving DecidableEq

/-- A token balance of a component. -/
structure ComponentBalance where
  token : Bytes
  balance : Bytes
  balanceFloat : Carried
  modifyTx : Bytes
  componentId : String
deriving DecidableEq, Repr

/-! ## Block changes

The parts of a block's changes are separate maps and lists, some keyed by component, some by
account, some by token. The splitter walks them one after the other. -/

/-- An entry point of the dynamic contract indexer. -/
structure EntryPoint where
  externalId : String
  target : Bytes
  signature : String
deriving DecidableEq, Repr

/-- What the dynamic contract indexer reports about a block. -/
structure DciUpdate where
  newEntrypoints : FinMap String (Finset EntryPoint)
  newEntrypointParams : FinMap String (Finset (Carried × String))
  traceResults : FinMap String Carried
deriving DecidableEq

/-- `DCIUpdate::default`. -/
def DciUpdate.empty : DciUpdate :=
  { newEntrypoints := ∅, newEntrypointParams := ∅, traceResults := ∅ }

/-- All changes of one extractor in one block. -/
structure BlockChanges where
  extractor : String
  chain : Carried
  block : Carried
  finalizedBlockHeight : UInt64
  revert : Bool
  newTokens : FinMap Bytes Carried
  accountUpdates : FinMap Bytes AccountUpdate
  stateUpdates : FinMap String ProtocolStateDelta
  newProtocolComponents : FinMap String Carried
  deletedProtocolComponents : FinMap String Carried
  componentBalances : FinMap String (FinMap Bytes ComponentBalance)
  accountBalances : FinMap Bytes (FinMap Bytes AccountBalance)
  componentTvl : FinMap String Carried
  dciUpdate : DciUpdate
  partialBlockIndex : Option UInt32
deriving DecidableEq

/-! ## Messages -/

/-- Full component states and VM accounts of one protocol. -/
structure Snapshot where
  states : FinMap String ComponentWithState
  vmStorage : FinMap Bytes ResponseAccount
deriving DecidableEq

/-- What one protocol's synchronizer reports for one block. -/
structure StateSyncMessage where
  header : BlockHeader
  snapshots : Snapshot
  deltas : Option BlockChanges
  removedComponents : FinMap String Carried
deriving DecidableEq

/-- A protocol's message together with the state of its synchronizer. -/
structure BroadcasterProtocolMessage where
  protocol : String
  syncState : SynchronizerState
  message : StateSyncMessage
deriving DecidableEq

/-! ## Sync statuses -/

/-- `BroadcasterProtocolSyncStatusKind`. -/
inductive BroadcasterProtocolSyncStatusKind where
  | started
  | ready
  | delayed
  | stale
  | advanced
  | ended
deriving DecidableEq, Repr

/-- The published form of a synchronizer state. -/
structure BroadcasterProtocolSyncStatus where
  kind : BroadcasterProtocolSyncStatusKind
  block : Option BlockHeader
  reason : Option String
deriving DecidableEq, Repr

/-- `BroadcasterProtocolSyncStatus::from_synchronizer_state`. -/
def BroadcasterProtocolSyncStatus.fromSynchronizerState :
    SynchronizerState → BroadcasterProtocolSyncStatus
  | .started => { kind := .started, block := none, reason := none }
  | .ready block => { kind := .ready, block := some block, reason := none }
  | .delayed block => { kind := .delayed, block := some block, reason := none }
  | .stale block => { kind := .stale, block := some block, reason := none }
  | .advanced block => { kind := .advanced, block := some block, reason := none }
  | .ended reason => { kind := .ended, block := none, reason := some reason }

end TychoSimulationServer
