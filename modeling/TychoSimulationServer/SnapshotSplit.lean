import Mathlib.Data.List.Sort
import TychoSimulationServer.Contract

/-!
# Cutting a snapshot into chunks

A snapshot is sent as a list of chunks, each of which has to stay below a byte limit once it is
serialised. A decoded partition is cut between its states. A raw partition holds one message per
protocol, and a message that is too large on its own is first cut into *fragments*: messages of the
same protocol and header that carry a part of its entries each.

Every decision is made by serialising a candidate and measuring it, so the length of a serialised
envelope is a parameter here; nothing below depends on how JSON is laid out.
-/

namespace TychoSimulationServer

open Fallible

variable {Sim : Type}

/-! ## Errors and machine arithmetic

Sizes are `usize`, added and multiplied with saturation. The texts of the errors are those of the
source. -/

/-- An error of the snapshot code: one of the contract, a text, or a failed assertion. -/
inductive SnapshotError where
  | contract (error : BroadcasterContractError)
  | text (message : String)
  | panicked (message : String)
deriving DecidableEq, Repr

/-- `usize::MAX`. -/
def usizeMax : Nat := 2 ^ 64 - 1

/-- `usize::saturating_add`. -/
def saturatingAdd (a b : Nat) : Nat := min (a + b) usizeMax

/-- `usize::saturating_mul`. -/
def saturatingMul (a b : Nat) : Nat := min (a * b) usizeMax

/-- A byte string as it is displayed: `0x` and its hexadecimal digits. -/
def Bytes.display (bytes : Bytes) : String :=
  bytes.foldl (fun text byte =>
    (text.push (Nat.digitChar (byte.toNat / 16))).push (Nat.digitChar (byte.toNat % 16))) "0x"

/-- The debug form of a byte string. -/
def Bytes.debug (bytes : Bytes) : String :=
  "Bytes(" ++ bytes.display ++ ")"

/-! ## Constructors of the payloads -/

/-- `BroadcasterSnapshotStart::new`. -/
def BroadcasterSnapshotStart.new (snapshotId : String) (chainId : UInt64)
    (backends : List BroadcasterBackend) (totalChunks : UInt32) :
    Except BroadcasterContractError BroadcasterSnapshotStart := do
  let backends := backends.insertionSort fun a b => (compare a b).isLE
  validateSnapshotStartBackends backends
  return { snapshotId, chainId, backends, totalChunks }

/-- `BroadcasterSnapshotChunk::new`. -/
def BroadcasterSnapshotChunk.new (snapshotId : String) (chunkIndex : UInt32)
    (partitions : List (BroadcasterSnapshotPartition Sim)) :
    Except BroadcasterContractError (BroadcasterSnapshotChunk Sim) := do
  let partitions := partitions.insertionSort fun a b => (compare a.backend b.backend).isLE
  validateSnapshotChunkPartitions partitions
  return { snapshotId, chunkIndex, partitions }

/-- `BroadcasterSnapshotPartition::new`. -/
def BroadcasterSnapshotPartition.new (backend : BroadcasterBackend) (blockNumber : UInt64)
    (states : List (BroadcasterStateEntry Sim))
    (syncStatuses : FinMap String BroadcasterProtocolSyncStatus) :
    BroadcasterSnapshotPartition Sim :=
  { backend, blockNumber, messages := [], syncStatuses
    states := states.insertionSort fun a b => (compare a.componentId b.componentId).isLE }

/-- `BroadcasterSnapshotPartition::with_messages`. -/
def BroadcasterSnapshotPartition.withMessages (backend : BroadcasterBackend)
    (blockNumber : UInt64) (messages : List BroadcasterProtocolMessage)
    (syncStatuses : FinMap String BroadcasterProtocolSyncStatus) :
    BroadcasterSnapshotPartition Sim :=
  { backend, blockNumber, messages, states := [], syncStatuses }

/-! ## Measuring chunks

What fits is decided by serialising: a chunk is built as it would be sent, at the worst number it
may get, and its JSON is measured. How serde serialises is a parameter. -/

/-- What `serde_json::to_vec(&envelope)?.len()` yields. -/
abbrev SerialisedLen (Sim : Type) := BroadcasterEnvelope Sim → Except SnapshotError Nat

/-- `payload_size`: the length of a payload under the longest sequence number. -/
def payloadSize (serialisedLen : SerialisedLen Sim) (streamId : String)
    (payload : BroadcasterPayload Sim) : Except SnapshotError Nat :=
  serialisedLen { streamId, messageSeq := .ofNat (2 ^ 64 - 1), payload }

/-- `ensure_payload_fits`. -/
def ensurePayloadFits (serialisedLen : SerialisedLen Sim) (streamId : String)
    (messageSeq : UInt64) (payload : BroadcasterPayload Sim) (maxPayloadBytes : Nat) :
    Except SnapshotError Unit := do
  let size ← serialisedLen { streamId, messageSeq, payload }
  ensure (size ≤ maxPayloadBytes) (.text
    s!"serialized broadcaster snapshot payload is {size} bytes, above configured max {maxPayloadBytes}")

/-- `WORST_CASE_SNAPSHOT_CHUNK_INDEX`: `u32::MAX`, the index that takes the most digits. -/
def worstCaseSnapshotChunkIndex : Nat := 2 ^ 32 - 1

/-- `SnapshotChunkBuildContext`. -/
structure SnapshotChunkBuildContext where
  streamId : String
  snapshotId : String
  backend : BroadcasterBackend
  blockNumber : UInt64
  maxPayloadBytes : Nat
deriving DecidableEq, Repr

/-- The sync statuses of a partition. -/
abbrev SyncStatuses := FinMap String BroadcasterProtocolSyncStatus

namespace SnapshotChunkBuildContext

/-- `snapshot_chunk`. -/
def snapshotChunk (ctx : SnapshotChunkBuildContext) (chunkIndex : Nat)
    (partition : BroadcasterSnapshotPartition Sim) :
    Except SnapshotError (BroadcasterSnapshotChunk Sim) := do
  ensure (chunkIndex < 2 ^ 32) (.text "snapshot chunk index exceeds u32 range")
  (BroadcasterSnapshotChunk.new ctx.snapshotId (.ofNat chunkIndex) [partition]).mapError .contract

/-- `messages_chunk`. -/
def messagesChunk (ctx : SnapshotChunkBuildContext) (chunkIndex : Nat)
    (messages : List BroadcasterProtocolMessage) (syncStatuses : SyncStatuses) :
    Except SnapshotError (BroadcasterSnapshotChunk Sim) :=
  ctx.snapshotChunk chunkIndex
    (.withMessages ctx.backend ctx.blockNumber messages syncStatuses)

/-- `states_chunk`. -/
def statesChunk (ctx : SnapshotChunkBuildContext) (chunkIndex : Nat)
    (states : List (BroadcasterStateEntry Sim)) (syncStatuses : SyncStatuses) :
    Except SnapshotError (BroadcasterSnapshotChunk Sim) :=
  ctx.snapshotChunk chunkIndex (.new ctx.backend ctx.blockNumber states syncStatuses)

section

variable (serialisedLen : SerialisedLen Sim) (ctx : SnapshotChunkBuildContext)

/-- `chunk_size`. -/
def chunkSize (chunk : BroadcasterSnapshotChunk Sim) : Except SnapshotError Nat :=
  payloadSize serialisedLen ctx.streamId (.snapshotChunk chunk)

/-- `chunk_fits`. -/
def chunkFits (chunk : BroadcasterSnapshotChunk Sim) : Except SnapshotError Bool := do
  let size ← ctx.chunkSize serialisedLen chunk
  return size ≤ ctx.maxPayloadBytes

/-- `messages_size`. -/
def messagesSize (chunkIndex : Nat) (messages : List BroadcasterProtocolMessage)
    (syncStatuses : SyncStatuses) : Except SnapshotError Nat := do
  let chunk ← ctx.messagesChunk chunkIndex messages syncStatuses
  ctx.chunkSize serialisedLen chunk

/-- `messages_fit`. -/
def messagesFit (chunkIndex : Nat) (messages : List BroadcasterProtocolMessage)
    (syncStatuses : SyncStatuses) : Except SnapshotError Bool := do
  let size ← ctx.messagesSize serialisedLen chunkIndex messages syncStatuses
  return size ≤ ctx.maxPayloadBytes

/-- `states_fit`. -/
def statesFit (chunkIndex : Nat) (states : List (BroadcasterStateEntry Sim))
    (syncStatuses : SyncStatuses) : Except SnapshotError Bool := do
  let chunk ← ctx.statesChunk chunkIndex states syncStatuses
  ctx.chunkFits serialisedLen chunk

/-- `raw_fragment_size`. -/
def rawFragmentSize (message : BroadcasterProtocolMessage) (syncStatuses : SyncStatuses)
    (includeSyncStatuses : Bool) : Except SnapshotError Nat :=
  ctx.messagesSize serialisedLen worstCaseSnapshotChunkIndex [message]
    (if includeSyncStatuses then syncStatuses else ∅)

/-- `raw_fragment_fits`. -/
def rawFragmentFits (message : BroadcasterProtocolMessage) (syncStatuses : SyncStatuses)
    (includeSyncStatuses : Bool) : Except SnapshotError Bool := do
  let size ← ctx.rawFragmentSize serialisedLen message syncStatuses includeSyncStatuses
  return size ≤ ctx.maxPayloadBytes

end

end SnapshotChunkBuildContext

/-! ## Empty fragments -/

/-- `empty_block_changes_fragment`. -/
def emptyBlockChangesFragment (source : BlockChanges) : BlockChanges :=
  { source with
    newTokens := ∅, accountUpdates := ∅, stateUpdates := ∅, newProtocolComponents := ∅
    deletedProtocolComponents := ∅, componentBalances := ∅, accountBalances := ∅
    componentTvl := ∅, dciUpdate := .empty }

/-- `empty_protocol_fragment`. The source always passes `include_tail = false`. -/
def emptyProtocolFragment (message : BroadcasterProtocolMessage) (includeTail : Bool) :
    BroadcasterProtocolMessage :=
  { protocol := message.protocol
    syncState := message.syncState
    message :=
      { header := message.message.header
        snapshots := { states := ∅, vmStorage := ∅ }
        deltas := if includeTail then message.message.deltas else none
        removedComponents := if includeTail then message.message.removedComponents else ∅ } }

/-- A message with one more component snapshot. -/
def BroadcasterProtocolMessage.insertState (message : BroadcasterProtocolMessage)
    (componentId : String) (state : ComponentWithState) : BroadcasterProtocolMessage :=
  { message with
    message.snapshots.states := message.message.snapshots.states.insert componentId state }

/-- A message with one more removed component. -/
def BroadcasterProtocolMessage.insertRemoved (message : BroadcasterProtocolMessage)
    (componentId : String) (component : Carried) : BroadcasterProtocolMessage :=
  { message with
    message.removedComponents := message.message.removedComponents.insert componentId component }

/-! ## VM accounts

An account that does not fit is cut into ranges of its slots. The code estimates how many slots fit,
measures, and shrinks the range until it fits. -/

/-- `response_account_with_slots`. -/
def responseAccountWithSlots (account : ResponseAccount) (slots : FinMap Bytes Bytes) :
    ResponseAccount :=
  { account with slots }

/-- `vm_storage_account_fragment`. -/
def vmStorageAccountFragment (message : BroadcasterProtocolMessage) (address : Bytes)
    (account : ResponseAccount) : BroadcasterProtocolMessage :=
  let fragment := emptyProtocolFragment message false
  { fragment with
    message.snapshots.vmStorage := fragment.message.snapshots.vmStorage.insert address account }

/-- `vm_storage_account_fragment_for_slot_range`. -/
def vmStorageAccountFragmentForSlotRange (message : BroadcasterProtocolMessage) (address : Bytes)
    (account : ResponseAccount) (slots : List (Bytes × Bytes)) : BroadcasterProtocolMessage :=
  vmStorageAccountFragment message address (responseAccountWithSlots account (.ofList slots))

/-- `hex_json_string_size`. -/
def hexJsonStringSize (bytes : Bytes) : Nat :=
  saturatingAdd 4 (saturatingMul bytes.length 2)

/-- `estimated_slot_entry_size`. -/
def estimatedSlotEntrySize (entry : Bytes × Bytes) : Nat :=
  saturatingAdd
    (saturatingAdd (saturatingAdd (hexJsonStringSize entry.1) 1) (hexJsonStringSize entry.2)) 1

/-- The bytes of one `"0x…":"0x…"`. -/
def slotEntryLen (slot : Bytes × Bytes) : Nat :=
  (4 + slot.1.length * 2) + 1 + (4 + slot.2.length * 2)

/-- The bytes between the braces of a map of slots. -/
def slotsLen (slots : List (Bytes × Bytes)) : Nat :=
  (slots.map slotEntryLen).sum + (slots.length - 1)

/-- The inner loop that estimates how many of the next slots fit. -/
def estimatedSlotCount (maxPayloadBytes : Nat) : Nat → List (Bytes × Bytes) → Nat
  | _, [] => 0
  | estimatedSize, slot :: rest =>
    let nextSize := saturatingAdd estimatedSize (estimatedSlotEntrySize slot)
    if nextSize > maxPayloadBytes then 0
    else estimatedSlotCount maxPayloadBytes nextSize rest + 1

section

variable (serialisedLen : SerialisedLen Sim) (ctx : SnapshotChunkBuildContext)
  (message : BroadcasterProtocolMessage) (syncStatuses : SyncStatuses)

/-- The error for an account whose metadata alone is too large. -/
def accountMetadataExceeds (address : Bytes) : SnapshotError :=
  let (protocol, account, max) := (message.protocol, address.display, ctx.maxPayloadBytes)
  .text s!"broadcaster snapshot VM storage account metadata for protocol {protocol} account {account} exceeds {max} bytes"

/-- The error for an account with a slot that is too large. -/
def slotFragmentExceeds (address : Bytes) : SnapshotError :=
  let (protocol, account, max) := (message.protocol, address.display, ctx.maxPayloadBytes)
  .text s!"broadcaster snapshot VM storage slot fragment for protocol {protocol} account {account} exceeds {max} bytes"

/-- The loop that gives up slots until the fragment fits. It starts with `extra + 1` slots and
returns how many it keeps after the first one. -/
def shrinkSlotRange (address : Bytes) (account : ResponseAccount) (includeSyncStatuses : Bool)
    (slots : List (Bytes × Bytes)) : Nat → Except SnapshotError Nat
  | 0 => do
    let fragment := vmStorageAccountFragmentForSlotRange message address account (slots.take 1)
    if ← ctx.rawFragmentFits serialisedLen fragment syncStatuses includeSyncStatuses then return 0
    else throw (slotFragmentExceeds ctx message address)
  | extra + 1 => do
    let fragment :=
      vmStorageAccountFragmentForSlotRange message address account (slots.take (extra + 2))
    if ← ctx.rawFragmentFits serialisedLen fragment syncStatuses includeSyncStatuses then
      return extra + 1
    else shrinkSlotRange address account includeSyncStatuses slots extra

/-- One turn of the outer loop: how many of the next slots go into the next fragment, after the
first one. -/
@[irreducible] def slotRange (address : Bytes) (account : ResponseAccount) (includeSyncStatuses : Bool)
    (slots : List (Bytes × Bytes)) : Except SnapshotError Nat := do
  let metadataFragment := vmStorageAccountFragmentForSlotRange message address account []
  let metadataSize ←
    ctx.rawFragmentSize serialisedLen metadataFragment syncStatuses includeSyncStatuses
  ensure (metadataSize < ctx.maxPayloadBytes) (accountMetadataExceeds ctx message address)
  match estimatedSlotCount ctx.maxPayloadBytes metadataSize slots with
  | 0 => throw (slotFragmentExceeds ctx message address)
  | extra + 1 =>
    shrinkSlotRange serialisedLen ctx message syncStatuses address account includeSyncStatuses
      slots extra

/-- The outer loop: the slots from `start` on, in fragments. -/
def splitSlots (address : Bytes) (account : ResponseAccount) (includeSyncStatuses : Bool) :
    List (Bytes × Bytes) → Except SnapshotError (List BroadcasterProtocolMessage)
  | [] => return []
  | slot :: rest => do
    let extra ← slotRange serialisedLen ctx message syncStatuses address account
      includeSyncStatuses (slot :: rest)
    let fragment :=
      vmStorageAccountFragmentForSlotRange message address account (slot :: rest.take extra)
    let later ← splitSlots address account false (rest.drop extra)
    return fragment :: later
termination_by slots => slots.length
decreasing_by
  simp only [List.length_drop, List.length_cons]
  omega

/-- `split_vm_storage_account_for_snapshot`. -/
def splitVmStorageAccountForSnapshot (address : Bytes) (account : ResponseAccount)
    (includeSyncStatuses : Bool) : Except SnapshotError (List BroadcasterProtocolMessage) := do
  let slots := account.slots.toList
  if slots = [] then
    let fragment := vmStorageAccountFragmentForSlotRange message address account []
    let fits ← ctx.rawFragmentFits serialisedLen fragment syncStatuses includeSyncStatuses
    ensure fits (accountMetadataExceeds ctx message address)
    return [fragment]
  splitSlots serialisedLen ctx message syncStatuses address account includeSyncStatuses slots

end

/-! ## Deltas and removals -/

/-- `ProtocolTailFragmentBuilder`: its mutable part. -/
structure ProtocolTailFragmentBuilder where
  fragments : List BroadcasterProtocolMessage
  current : BroadcasterProtocolMessage
  currentHasPayload : Bool
  includeSyncForCurrent : Bool
deriving DecidableEq

section

variable (serialisedLen : SerialisedLen Sim) (ctx : SnapshotChunkBuildContext)
  (sourceMessage : BroadcasterProtocolMessage) (syncStatuses : SyncStatuses)

/-- `ProtocolTailFragmentBuilder::new`. -/
def ProtocolTailFragmentBuilder.new (includeSyncStatuses : Bool) : ProtocolTailFragmentBuilder :=
  { fragments := []
    current := emptyProtocolFragment sourceMessage false
    currentHasPayload := false
    includeSyncForCurrent := includeSyncStatuses }

/-- `ensure_current_fits`. -/
def ProtocolTailFragmentBuilder.ensureCurrentFits (builder : ProtocolTailFragmentBuilder) :
    Except SnapshotError Unit := do
  let (protocol, max) := (sourceMessage.protocol, ctx.maxPayloadBytes)
  let fits ← ctx.rawFragmentFits serialisedLen builder.current syncStatuses
    builder.includeSyncForCurrent
  ensure fits (.text
    s!"broadcaster snapshot delta/removal fragment for protocol {protocol} exceeds {max} bytes")

/-- The fragment a builder starts over with: empty, with empty deltas if the source has deltas. -/
def freshTailFragment : BroadcasterProtocolMessage :=
  let fragment := emptyProtocolFragment sourceMessage false
  match sourceMessage.message.deltas with
  | some source => { fragment with message.deltas := some (emptyBlockChangesFragment source) }
  | none => fragment

/-- The part of `append_named` that closes the current fragment, if it has any payload. -/
def ProtocolTailFragmentBuilder.closeCurrent (builder : ProtocolTailFragmentBuilder) :
    Except SnapshotError ProtocolTailFragmentBuilder := do
  if builder.currentHasPayload then
    builder.ensureCurrentFits serialisedLen ctx sourceMessage syncStatuses
    return { builder with
      fragments := builder.fragments ++ [builder.current], includeSyncForCurrent := false }
  return builder

/-- The part of `append_named` that starts over with a fragment of its own. -/
def ProtocolTailFragmentBuilder.replaceCurrent (kind key : String)
    (insert : BroadcasterProtocolMessage → BroadcasterProtocolMessage)
    (builder : ProtocolTailFragmentBuilder) :
    Except SnapshotError ProtocolTailFragmentBuilder := do
  let current := insert (freshTailFragment sourceMessage)
  if ← ctx.rawFragmentFits serialisedLen current syncStatuses builder.includeSyncForCurrent then
    return { builder with current, currentHasPayload := true }
  let size ← ctx.rawFragmentSize serialisedLen current syncStatuses builder.includeSyncForCurrent
  let (protocol, max) := (sourceMessage.protocol, ctx.maxPayloadBytes)
  throw (.text
    s!"broadcaster snapshot leaf for protocol {protocol} kind {kind} key {key} is {size} bytes, above configured max {max}")

/-- `append_named`. -/
def ProtocolTailFragmentBuilder.appendNamed (kind key : String)
    (insert : BroadcasterProtocolMessage → BroadcasterProtocolMessage)
    (builder : ProtocolTailFragmentBuilder) :
    Except SnapshotError ProtocolTailFragmentBuilder := do
  let candidate := insert builder.current
  if ← ctx.rawFragmentFits serialisedLen candidate syncStatuses builder.includeSyncForCurrent then
    return { builder with current := candidate, currentHasPayload := true }
  let builder ← builder.closeCurrent serialisedLen ctx sourceMessage syncStatuses
  builder.replaceCurrent serialisedLen ctx sourceMessage syncStatuses kind key insert

/-- Insert into the deltas of a fragment, creating them when the fragment has none. -/
def BroadcasterProtocolMessage.insertDelta (emptyDeltas : BlockChanges)
    (insert : BlockChanges → BlockChanges) (fragment : BroadcasterProtocolMessage) :
    BroadcasterProtocolMessage :=
  { fragment with
    message.deltas := some (insert (fragment.message.deltas.getD emptyDeltas)) }

/-- `append_delta_entries`. -/
def ProtocolTailFragmentBuilder.appendDeltaEntries {κ υ : Type} [Ord κ] [Std.TransOrd κ]
    (debug : κ → String) (kind : String) (entries : FinMap κ υ)
    (insert : BlockChanges → κ → υ → BlockChanges) (builder : ProtocolTailFragmentBuilder) :
    Except SnapshotError ProtocolTailFragmentBuilder :=
  match sourceMessage.message.deltas with
  | none => throw (.text "delta entry without source deltas")
  | some source =>
    entries.toList.foldlM (fun builder (key, value) =>
      builder.appendNamed serialisedLen ctx sourceMessage syncStatuses kind (debug key)
        (.insertDelta (emptyBlockChangesFragment source) (insert · key value))) builder

/-- `finish`. -/
def ProtocolTailFragmentBuilder.finish (builder : ProtocolTailFragmentBuilder) :
    Except SnapshotError (List BroadcasterProtocolMessage) := do
  if builder.currentHasPayload then
    builder.ensureCurrentFits serialisedLen ctx sourceMessage syncStatuses
    return builder.fragments ++ [builder.current]
  return builder.fragments

/-- The part of `split_protocol_tail_for_snapshot` that appends the deltas, map by map. -/
def appendDeltas (source : BlockChanges) (builder : ProtocolTailFragmentBuilder) :
    Except SnapshotError ProtocolTailFragmentBuilder := do
  let builder ← builder.appendDeltaEntries serialisedLen ctx sourceMessage syncStatuses
    Bytes.debug "new_tokens" source.newTokens
    fun deltas key value => { deltas with newTokens := deltas.newTokens.insert key value }
  let builder ← builder.appendDeltaEntries serialisedLen ctx sourceMessage syncStatuses
    String.quote "state_updates" source.stateUpdates
    fun deltas key value => { deltas with stateUpdates := deltas.stateUpdates.insert key value }
  let builder ← builder.appendDeltaEntries serialisedLen ctx sourceMessage syncStatuses
    Bytes.debug "account_updates" source.accountUpdates
    fun deltas key value => { deltas with accountUpdates := deltas.accountUpdates.insert key value }
  let builder ← builder.appendDeltaEntries serialisedLen ctx sourceMessage syncStatuses
    String.quote "component_balances" source.componentBalances
    fun deltas key value =>
      { deltas with componentBalances := deltas.componentBalances.insert key value }
  let builder ← builder.appendDeltaEntries serialisedLen ctx sourceMessage syncStatuses
    Bytes.debug "account_balances" source.accountBalances
    fun deltas key value =>
      { deltas with accountBalances := deltas.accountBalances.insert key value }
  let builder ← builder.appendDeltaEntries serialisedLen ctx sourceMessage syncStatuses
    String.quote "component_tvl" source.componentTvl
    fun deltas key value => { deltas with componentTvl := deltas.componentTvl.insert key value }
  let builder ← builder.appendDeltaEntries serialisedLen ctx sourceMessage syncStatuses
    String.quote "new_protocol_components" source.newProtocolComponents
    fun deltas key value =>
      { deltas with newProtocolComponents := deltas.newProtocolComponents.insert key value }
  let builder ← builder.appendDeltaEntries serialisedLen ctx sourceMessage syncStatuses
    String.quote "deleted_protocol_components" source.deletedProtocolComponents
    fun deltas key value =>
      { deltas with deletedProtocolComponents := deltas.deletedProtocolComponents.insert key value }
  let builder ← builder.appendDeltaEntries serialisedLen ctx sourceMessage syncStatuses
    String.quote "dci.new_entrypoints" source.dciUpdate.newEntrypoints
    fun deltas key value =>
      { deltas with dciUpdate.newEntrypoints := deltas.dciUpdate.newEntrypoints.insert key value }
  let builder ← builder.appendDeltaEntries serialisedLen ctx sourceMessage syncStatuses
    String.quote "dci.new_entrypoint_params" source.dciUpdate.newEntrypointParams
    fun deltas key value =>
      { deltas with
        dciUpdate.newEntrypointParams := deltas.dciUpdate.newEntrypointParams.insert key value }
  builder.appendDeltaEntries serialisedLen ctx sourceMessage syncStatuses
    String.quote "dci.trace_results" source.dciUpdate.traceResults
    fun deltas key value =>
      { deltas with dciUpdate.traceResults := deltas.dciUpdate.traceResults.insert key value }

/-- Append the deltas of the source message, if it has any. -/
def appendSourceDeltas (builder : ProtocolTailFragmentBuilder) :
    Except SnapshotError ProtocolTailFragmentBuilder :=
  match sourceMessage.message.deltas with
  | some source => appendDeltas serialisedLen ctx sourceMessage syncStatuses source builder
  | none => pure builder

/-- `split_protocol_tail_for_snapshot`. -/
def splitProtocolTailForSnapshot (includeSyncStatuses : Bool) :
    Except SnapshotError (List BroadcasterProtocolMessage) := do
  if sourceMessage.message.deltas = none ∧ sourceMessage.message.removedComponents.isEmpty then
    return []
  let builder := ProtocolTailFragmentBuilder.new sourceMessage includeSyncStatuses
  let builder ← appendSourceDeltas serialisedLen ctx sourceMessage syncStatuses builder
  let builder ← sourceMessage.message.removedComponents.toList.foldlM (fun builder entry =>
    builder.appendNamed serialisedLen ctx sourceMessage syncStatuses "removed_components" entry.1
      (·.insertRemoved entry.1 entry.2)) builder
  builder.finish serialisedLen ctx sourceMessage syncStatuses

end

/-! ## Messages -/

/-- The fragments cut from the snapshots of a message, and the one being filled. -/
structure SnapshotFragmentBuffer where
  fragments : List BroadcasterProtocolMessage
  current : BroadcasterProtocolMessage
  currentHasPayload : Bool
deriving DecidableEq

section

variable (serialisedLen : SerialisedLen Sim) (ctx : SnapshotChunkBuildContext)
  (message : BroadcasterProtocolMessage) (syncStatuses : SyncStatuses)

/-- The error for a component snapshot that is too large. -/
def stateFragmentExceeds : SnapshotError :=
  let (protocol, max) := (message.protocol, ctx.maxPayloadBytes)
  .text s!"broadcaster snapshot state fragment for protocol {protocol} exceeds {max} bytes"

/-- One turn of the loop over the component snapshots. -/
def SnapshotFragmentBuffer.appendState (buffer : SnapshotFragmentBuffer)
    (entry : String × ComponentWithState) : Except SnapshotError SnapshotFragmentBuffer := do
  let candidate := buffer.current.insertState entry.1 entry.2
  if ← ctx.rawFragmentFits serialisedLen candidate syncStatuses buffer.fragments.isEmpty then
    return { buffer with current := candidate, currentHasPayload := true }
  ensure buffer.currentHasPayload (stateFragmentExceeds ctx message)
  let fragments := buffer.fragments ++ [buffer.current]
  let current := (emptyProtocolFragment message false).insertState entry.1 entry.2
  let fits ← ctx.rawFragmentFits serialisedLen current syncStatuses fragments.isEmpty
  ensure fits (stateFragmentExceeds ctx message)
  return { fragments, current, currentHasPayload := true }

/-- Close the fragment being filled, if it has any payload. -/
def SnapshotFragmentBuffer.flush (buffer : SnapshotFragmentBuffer) : SnapshotFragmentBuffer :=
  if buffer.currentHasPayload then
    { fragments := buffer.fragments ++ [buffer.current]
      current := emptyProtocolFragment message false
      currentHasPayload := false }
  else buffer

/-- One turn of the loop over the VM accounts. -/
def SnapshotFragmentBuffer.appendAccount (buffer : SnapshotFragmentBuffer)
    (entry : Bytes × ResponseAccount) : Except SnapshotError SnapshotFragmentBuffer := do
  let buffer := buffer.flush message
  let accountFragments ← splitVmStorageAccountForSnapshot serialisedLen ctx message syncStatuses
    entry.1 entry.2 buffer.fragments.isEmpty
  return { buffer with fragments := buffer.fragments ++ accountFragments }

/-- `log_protocol_snapshot_export`, as far as it can fail: it measures every fragment. -/
def logProtocolSnapshotExport (fragments : List BroadcasterProtocolMessage) :
    Except SnapshotError Unit :=
  forM fragments.zipIdx fun (fragment, index) => do
    let _ ← ctx.rawFragmentSize serialisedLen fragment syncStatuses (index == 0)

/-- The message has no VM accounts and fits into a chunk as it is. -/
def fitsWhole : Except SnapshotError Bool :=
  if message.message.snapshots.vmStorage.isEmpty then
    ctx.messagesFit serialisedLen worstCaseSnapshotChunkIndex [message] syncStatuses
  else pure false

/-- The part of `split_protocol_message_for_snapshot` that cuts the snapshots. -/
def splitSnapshots : Except SnapshotError (List BroadcasterProtocolMessage) := do
  let buffer : SnapshotFragmentBuffer :=
    { fragments := []
      current := emptyProtocolFragment message false
      currentHasPayload := false }
  let buffer ← message.message.snapshots.states.toList.foldlM
    (·.appendState serialisedLen ctx message syncStatuses) buffer
  let buffer ← message.message.snapshots.vmStorage.toList.foldlM
    (·.appendAccount serialisedLen ctx message syncStatuses) buffer
  return (buffer.flush message).fragments

/-- `split_protocol_message_for_snapshot`. -/
def splitProtocolMessageForSnapshot :
    Except SnapshotError (List BroadcasterProtocolMessage) := do
  if ← fitsWhole serialisedLen ctx message syncStatuses then
    logProtocolSnapshotExport serialisedLen ctx syncStatuses [message]
    return [message]
  let fragments ← splitSnapshots serialisedLen ctx message syncStatuses
  let tailFragments ← splitProtocolTailForSnapshot serialisedLen ctx message syncStatuses
    fragments.isEmpty
  logProtocolSnapshotExport serialisedLen ctx syncStatuses (fragments ++ tailFragments)
  return fragments ++ tailFragments

end

/-! ## Chunks -/

/-- `BroadcasterPartitionState`: what the cache holds for one backend. -/
structure BroadcasterPartitionState (Sim : Type) where
  blockNumber : Option UInt64
  syncStatuses : SyncStatuses
  messages : List BroadcasterProtocolMessage
  states : FinMap String (BroadcasterStateEntry Sim)
deriving DecidableEq

/-- `BroadcasterPartitionState::default`. -/
def BroadcasterPartitionState.empty : BroadcasterPartitionState Sim :=
  { blockNumber := none, syncStatuses := ∅, messages := [], states := ∅ }

/-- The chunks made so far, the items waiting for the next one, and the sync statuses as long as
they have not been sent. -/
structure ChunkBuffer (Sim α : Type) where
  chunks : List (BroadcasterSnapshotChunk Sim)
  items : List α
  syncStatuses : SyncStatuses
deriving DecidableEq

section

variable {α : Type}
  (fit : Nat → List α → SyncStatuses → Except SnapshotError Bool)
  (chunk : Nat → List α → SyncStatuses → Except SnapshotError (BroadcasterSnapshotChunk Sim))
  (exceeds : α → SnapshotError) (baseChunkIndex : Nat)

/-- One turn of the packing loop, which the source has once for fragments and once for states. -/
def ChunkBuffer.pack (buffer : ChunkBuffer Sim α) (item : α) :
    Except SnapshotError (ChunkBuffer Sim α) := do
  let index := baseChunkIndex + buffer.chunks.length
  if ← fit index (buffer.items ++ [item]) buffer.syncStatuses then
    return { buffer with items := buffer.items ++ [item] }
  if buffer.items.isEmpty then throw (exceeds item)
  let next ← chunk index buffer.items buffer.syncStatuses
  return { chunks := buffer.chunks ++ [next], items := [item], syncStatuses := ∅ }

/-- What is left after the loop becomes the last chunk. -/
def ChunkBuffer.close (buffer : ChunkBuffer Sim α) :
    Except SnapshotError (List (BroadcasterSnapshotChunk Sim)) := do
  if !buffer.items.isEmpty || !buffer.syncStatuses.isEmpty then
    let last ← chunk (baseChunkIndex + buffer.chunks.length) buffer.items buffer.syncStatuses
    return buffer.chunks ++ [last]
  return buffer.chunks

end

section

variable (serialisedLen : SerialisedLen Sim) (ctx : SnapshotChunkBuildContext)
  (baseChunkIndex : Nat)

/-- Pack one fragment. -/
def packFragment (buffer : ChunkBuffer Sim BroadcasterProtocolMessage)
    (fragment : BroadcasterProtocolMessage) :
    Except SnapshotError (ChunkBuffer Sim BroadcasterProtocolMessage) :=
  let max := ctx.maxPayloadBytes
  buffer.pack (ctx.messagesFit serialisedLen) ctx.messagesChunk
    (fun ⟨protocol, _, _⟩ =>
      .text s!"broadcaster snapshot message for protocol {protocol} exceeds {max} bytes")
    baseChunkIndex fragment

/-- One turn of the loop over the messages: cut the message, pack its fragments. -/
def packMessage (buffer : ChunkBuffer Sim BroadcasterProtocolMessage)
    (message : BroadcasterProtocolMessage) :
    Except SnapshotError (ChunkBuffer Sim BroadcasterProtocolMessage) := do
  let fragments ← splitProtocolMessageForSnapshot serialisedLen ctx message buffer.syncStatuses
  fragments.foldlM (packFragment serialisedLen ctx baseChunkIndex) buffer

/-- Pack one state. -/
def packState (buffer : ChunkBuffer Sim (BroadcasterStateEntry Sim))
    (state : BroadcasterStateEntry Sim) :
    Except SnapshotError (ChunkBuffer Sim (BroadcasterStateEntry Sim)) :=
  let max := ctx.maxPayloadBytes
  buffer.pack (ctx.statesFit serialisedLen) ctx.statesChunk
    (fun ⟨componentId, _, _⟩ =>
      .text s!"broadcaster snapshot state {componentId} exceeds {max} bytes")
    baseChunkIndex state

/-- `build_partition_snapshot_chunks`. -/
def buildPartitionSnapshotChunks (partition : BroadcasterPartitionState Sim) :
    Except SnapshotError (List (BroadcasterSnapshotChunk Sim)) :=
  if partition.messages.isEmpty then do
    let buffer ← (partition.states.toList.map (·.2)).foldlM
      (packState serialisedLen ctx baseChunkIndex)
      { chunks := [], items := [], syncStatuses := partition.syncStatuses }
    buffer.close ctx.statesChunk baseChunkIndex
  else do
    let buffer ← partition.messages.foldlM (packMessage serialisedLen ctx baseChunkIndex)
      { chunks := [], items := [], syncStatuses := partition.syncStatuses }
    buffer.close ctx.messagesChunk baseChunkIndex

end

/-- The raw messages in a list of chunks, in order. -/
def chunkMessages (chunks : List (BroadcasterSnapshotChunk Sim)) :
    List BroadcasterProtocolMessage :=
  chunks.flatMap fun chunk => chunk.partitions.flatMap (·.messages)

end TychoSimulationServer
