import TychoSimulationServer.Machine
import TychoSimulationServer.SnapshotExport
import TychoSimulationServer.StateStoreContents

/-!
# Replicas of a decoded backend

RFQ states travel decoded: the broadcaster's cache keeps them per component, and a consumer keeps
them in a state store. A consumer starts from an export of the cache and applies every update the
cache publishes. The two sides insert, replace and remove in code of their own; seen from one
component they do the same (`partition_agrees`).

A disconnect is different. The cache of a decoded backend is emptied, and nothing is published: the
consumer keeps what the cache dropped until an update announces or removes it. `Remembers` says that
the next update does.
-/

namespace TychoSimulationServer

open Fallible MapFold

variable {Sim : Type}

/-! ## The consumer

The consumer feeds every update to its own store, after the same checks the cache ran. -/

/-- `snapshot_partition_update`. -/
def snapshotPartitionUpdate (partition : BroadcasterSnapshotPartition Sim) : Update Sim :=
  { blockNumberOrTimestamp := partition.blockNumber
    states := partition.states.foldl (fun states e => states.insert e.componentId e.state) ∅
    newPairs := partition.states.foldl (fun pairs e => pairs.insert e.componentId e.component) ∅
    removedPairs := ∅ }

/-- `live_partition_update`. -/
def livePartitionUpdate (partition : BroadcasterUpdatePartition Sim) : Update Sim :=
  { blockNumberOrTimestamp := partition.blockNumber
    states := partition.updatedStates.foldl (fun states d => states.insert d.componentId d.state)
      (partition.newPairs.foldl (fun states e => states.insert e.componentId e.state) ∅)
    newPairs := partition.newPairs.foldl (fun pairs e => pairs.insert e.componentId e.component) ∅
    removedPairs :=
      partition.removedPairs.foldl (fun pairs r => pairs.insert r.componentId r.component) ∅ }

/-- The parts of the upstream decoder a consumer uses. -/
structure UpdateDecoder (Sim : Type) where
  /-- `Update::merge` -/
  merge : Update Sim → Update Sim → Update Sim
  /-- `decode_protocol_messages` -/
  decodeProtocolMessages : List BroadcasterProtocolMessage → Except String (Option (Update Sim))

/-- What the loop of `apply_live_update` collects. -/
structure LiveUpdate (Sim : Type) where
  combined : Option (Update Sim) := none
  blockNumber : Option UInt64 := none

section

variable (decoder : UpdateDecoder Sim) (backend : BroadcasterBackend)

/-- `ensure_raw_messages_supported`. -/
def ensureRawMessagesSupported : Except String Unit :=
  ensure (backend ≠ .rfq)
    "raw RFQ broadcaster messages are unsupported; expected decoded RFQ state partitions"

/-- One turn of the loop of `apply_live_update`. -/
def LiveUpdate.collect (live : LiveUpdate Sim) (partition : BroadcasterUpdatePartition Sim) :
    Except String (LiveUpdate Sim) := do
  let blockNumber := some (max (live.blockNumber.getD 0) partition.blockNumber)
  let decoded ←
    if partition.messages.isEmpty then pure (some (livePartitionUpdate partition))
    else do
      ensureRawMessagesSupported backend
      decoder.decodeProtocolMessages partition.messages
  match decoded, live.combined with
  | some decoded, some current =>
    return { combined := some (decoder.merge current decoded), blockNumber }
  | some decoded, none => return { combined := some decoded, blockNumber }
  | none, combined => return { combined, blockNumber }

/-- `apply_live_update`, as far as the store is concerned. -/
def applyLiveUpdate (update : BroadcasterUpdateMessage Sim) (stateVersion : Option UInt64) :
    StoreM Sim Unit := do
  let live ← check ((update.partitions.filter (·.backend = backend)).foldlM
    (LiveUpdate.collect decoder backend) {})
  match live.blockNumber, live.combined with
  | some blockNumber, some combined => do
    let combined := { combined with blockNumberOrTimestamp := blockNumber }
    match stateVersion with
    | some stateVersion =>
      let _ ← applyUpdateAtVersion combined stateVersion
      pure ()
    | none => do
      let current ← get
      set (TychoSimulationServer.applyUpdate current combined).1
  | _, _ => pure ()

/-- `buffer_snapshot_partition`. Raw messages wait for the end of the snapshot, where they are
supported; they do not concern the store here. -/
def bufferSnapshotPartition (store : PublishedStateStore Sim)
    (partition : BroadcasterSnapshotPartition Sim) : Except String (PublishedStateStore Sim) :=
  if partition.messages.isEmpty then
    .ok (TychoSimulationServer.applyUpdate store (snapshotPartitionUpdate partition)).1
  else do
    ensureRawMessagesSupported backend
    return store

/-- The partitions of a chunk that are for this backend. -/
def observeSnapshotPartition (store : PublishedStateStore Sim)
    (partition : BroadcasterSnapshotPartition Sim) : Except String (PublishedStateStore Sim) :=
  if partition.backend = backend then bufferSnapshotPartition backend store partition
  else .ok store

/-- What a snapshot payload does to the store of a decoded backend; `stateVersion` is that of the
replay boundary. -/
def observeSnapshotPayload (stateVersion : UInt64) (store : PublishedStateStore Sim) :
    BroadcasterPayload Sim → Except String (PublishedStateStore Sim)
  | .snapshotChunk chunk => chunk.partitions.foldlM (observeSnapshotPartition backend) store
  | .snapshotEnd _ => .ok (alignBootstrapStateVersion store stateVersion)
  | _ => .ok store

/-- A consumer applies a snapshot to an empty store. -/
def bootstrapDecoded (tokens : FinMap Bytes Token) (wrappedNativeToken : Option Bytes)
    (stateVersion : UInt64) (payloads : List (BroadcasterPayload Sim)) :
    Except String (PublishedStateStore Sim) :=
  payloads.foldlM (observeSnapshotPayload backend stateVersion) (.empty tokens wrappedNativeToken)

end

/-- What `mark_stream_disconnected` does to the cache. -/
def BroadcasterSnapshotCache.markStreamDisconnected (cache : BroadcasterSnapshotCache Sim) :
    BroadcasterSnapshotCache Sim :=
  if cache.configuredBackends.any (· ≠ .rfq) then cache.beginSameGenerationRecovery
  else cache.resetSameGeneration

/-! ## One partition on both sides

The cache edits its partition and the consumer its store, entry by entry, from the same lists. -/

/-- A cached state as a pool. -/
def BroadcasterStateEntry.pool (entry : BroadcasterStateEntry Sim) : PoolEntry Sim :=
  ⟨entry.state, entry.component⟩

/-- The states of a backend after the new pairs, the deltas and the removals of a partition. -/
def partitionStates (partition : BroadcasterUpdatePartition Sim)
    (decoded : DecodedStates Sim) : Except SnapshotError (DecodedStates Sim) := do
  let decoded := partition.newPairs.foldl (·.insertNew partition.backend) decoded
  let states ← partition.updatedStates.foldlM (applyStateDelta partition.backend) decoded.states
  return partition.removedPairs.foldl DecodedStates.remove { decoded with states }

/-- The cache applies a partition to the state of its backend. -/
theorem applyUpdatePartition_eq (data : BroadcasterSnapshotCacheData Sim)
    (partition : BroadcasterUpdatePartition Sim) :
    applyUpdatePartition data partition =
      (do
        let state := data.partitions[partition.backend]?.getD .empty
        let decoded ← partitionStates partition ⟨data.knownBackends, state.states⟩
        return { data with
          knownBackends := decoded.knownBackends
          partitions := data.partitions.insert partition.backend
            { state with
              blockNumber := some partition.blockNumber
              syncStatuses := partition.syncStatuses
              states := decoded.states } }) := by
  simp only [applyUpdatePartition, partitionStates, bind_assoc, pure_bind]

/-- A pool after an update that announces, restates or ignores it. -/
def announceOrRestate (newPair : Option ProtocolComponent) (state : Option Sim)
    (old : Option (PoolEntry Sim)) : Option (PoolEntry Sim) :=
  match newPair, state with
  | some component, some state => some ⟨state, component⟩
  | none, some state => old.map ({ · with state })
  | _, none => old

theorem announceOrRestate_restate {newPair : Option ProtocolComponent} {state : Option Sim}
    (hstated : newPair.isSome → state.isSome) (old : Option (PoolEntry Sim)) (state' : Sim) :
    (announceOrRestate newPair state old).map ({ · with state := state' }) =
      announceOrRestate newPair (some state') old := by
  rcases newPair with _ | component
  · rcases state with _ | state <;> rcases old with _ | pool <;> rfl
  · obtain ⟨state, rfl⟩ := Option.isSome_iff_exists.mp (hstated rfl)
    rfl

/-- The cached states are what the consumer's maps make of the old pools. -/
structure MapsMatch (old : String → Option (PoolEntry Sim))
    (cached : FinMap String (BroadcasterStateEntry Sim)) (newPairs : FinMap String ProtocolComponent)
    (states : FinMap String Sim) : Prop where
  pools : ∀ id : String, cached[id]?.map (·.pool) =
    announceOrRestate newPairs[id]? states[id]? (old id)
  /-- a new pair comes with a state -/
  stated : ∀ id : String, newPairs[id]?.isSome → states[id]?.isSome

section Match

variable {old : String → Option (PoolEntry Sim)} {newPairs : FinMap String ProtocolComponent}
  {states : FinMap String Sim}

/-- New pairs, on both sides. -/
theorem mapsMatch_insertNew (backend : BroadcasterBackend)
    (entries : List (BroadcasterStateEntry Sim)) {decoded : DecodedStates Sim}
    (h : MapsMatch old decoded.states newPairs states) :
    MapsMatch old (entries.foldl (·.insertNew backend) decoded).states
      (entries.foldl (fun pairs e => pairs.insert e.componentId e.component) newPairs)
      (entries.foldl (fun states e => states.insert e.componentId e.state) states) := by
  induction entries generalizing decoded newPairs states with
  | nil => exact h
  | cons entry entries ih =>
    refine ih { pools := ?_, stated := ?_ }
    · intro id
      simp only [DecodedStates.insertNew, Std.ExtTreeMap.getElem?_insert]
      by_cases hid : compare entry.componentId id = .eq
      · simp only [if_pos hid]
        rfl
      · simp only [if_neg hid]
        exact h.pools id
    · intro id
      rw [Std.ExtTreeMap.getElem?_insert, Std.ExtTreeMap.getElem?_insert]
      by_cases hid : compare entry.componentId id = .eq
      · simp only [if_pos hid, Option.isSome_some, imp_self]
      · simp only [if_neg hid]
        exact h.stated id

/-- One delta, on both sides. -/
theorem mapsMatch_applyStateDelta {backend : BroadcasterBackend}
    {cached cached' : FinMap String (BroadcasterStateEntry Sim)} {delta : BroadcasterStateDelta Sim}
    (h : MapsMatch old cached newPairs states)
    (hdelta : applyStateDelta backend cached delta = .ok cached') :
    MapsMatch old cached' newPairs (states.insert delta.componentId delta.state) := by
  rw [applyStateDelta] at hdelta
  simp only [check_bind_eq_ok, ensure_eq_ok, pure_eq_ok] at hdelta
  obtain ⟨-, -, rfl⟩ := hdelta
  refine { pools := ?_, stated := ?_ }
  · intro id
    rw [Std.ExtTreeMap.getElem?_modify, Std.ExtTreeMap.getElem?_insert]
    by_cases hid : compare delta.componentId id = .eq
    · simp only [if_pos hid]
      obtain rfl := Std.LawfulEqCmp.eq_of_compare hid
      rw [← announceOrRestate_restate (h.stated _), ← h.pools, Option.map_map, Option.map_map]
      rfl
    · simp only [if_neg hid]
      exact h.pools id
  · intro id hpair
    rw [Std.ExtTreeMap.getElem?_insert]
    by_cases hid : compare delta.componentId id = .eq
    · simp only [if_pos hid, Option.isSome_some]
    · simp only [if_neg hid]
      exact h.stated id hpair

/-- Removals, on both sides. -/
theorem removed_getElem? (removed : List BroadcasterRemovedPair) {decoded start : DecodedStates Sim}
    {gone : FinMap String ProtocolComponent}
    (h : ∀ id : String, decoded.states[id]? =
      if gone.contains id then none else start.states[id]?) (id : String) :
    (removed.foldl DecodedStates.remove decoded).states[id]? =
      if (removed.foldl (fun pairs r => pairs.insert r.componentId r.component) gone).contains id
      then none else start.states[id]? := by
  induction removed generalizing decoded gone with
  | nil => exact h id
  | cons pair removed ih =>
    refine ih fun id => ?_
    rw [DecodedStates.remove, Std.ExtTreeMap.getElem?_erase, Std.ExtTreeMap.contains_insert, h id]
    by_cases hid : compare pair.componentId id = .eq
    · simp [hid]
    · simp [hid]

/-- A component that classifies to a backend has a protocol. -/
theorem isSome_fromComponent {componentId : String} {component : ProtocolComponent}
    {backend : BroadcasterBackend} (h : backendForComponent componentId component = .ok backend) :
    (ProtocolKind.fromComponent component).isSome := by
  rw [backendForComponent] at h
  split at h
  case h_1 => cases h
  case h_2 kind hkind => rw [hkind]; rfl

/-- The consumer's update, when all its new pairs have a protocol. -/
theorem poolAfter_eq {update : Update Sim} {id : String} {pool : Option (PoolEntry Sim)}
    (hknown : ∀ component, update.newPairs[id]? = some component →
      (ProtocolKind.fromComponent component).isSome)
    (hstated : update.newPairs[id]?.isSome → update.states[id]?.isSome) :
    update.poolAfter id pool =
      if update.removedPairs.contains id then none
      else announceOrRestate update.newPairs[id]? update.states[id]? pool := by
  rw [Update.poolAfter, Update.announcedPool]
  rcases hpair : update.newPairs[id]? with _ | component
  · rcases update.states[id]? with _ | state <;> simp [announceOrRestate]
  · obtain ⟨kind, hkind⟩ := Option.isSome_iff_exists.mp (hknown component hpair)
    rw [hpair] at hstated
    obtain ⟨state, hstate⟩ := Option.isSome_iff_exists.mp (hstated rfl)
    simp [hkind, hstate, announceOrRestate]

/-- The values of a map that is filled from a list come from the list. -/
theorem exists_mem_of_foldl_insert {α υ : Type} {key : α → String} {value : α → υ} {xs : List α}
    {m : FinMap String υ} {id : String} {v : υ}
    (h : (xs.foldl (fun m x => m.insert (key x) (value x)) m)[id]? = some v) :
    m[id]? = some v ∨ ∃ x ∈ xs, key x = id ∧ value x = v := by
  induction xs generalizing m with
  | nil => exact .inl h
  | cons x xs ih =>
    obtain h | ⟨x', hx', hkey⟩ := ih h
    · rw [Std.ExtTreeMap.getElem?_insert] at h
      by_cases hid : compare (key x) id = .eq
      · rw [if_pos hid, Option.some.injEq] at h
        exact .inr ⟨x, List.mem_cons_self, Std.LawfulEqCmp.eq_of_compare hid, h⟩
      · rw [if_neg hid] at h
        exact .inl h
    · exact .inr ⟨x', List.mem_cons_of_mem _ hx', hkey⟩

/-- **One partition.** The cache and the consumer do the same to every component. -/
theorem partition_agrees {partition : BroadcasterUpdatePartition Sim}
    (hplaced : partition.WellPlaced) {decoded decoded' : DecodedStates Sim}
    (h : partitionStates partition decoded = .ok decoded') (id : String) :
    decoded'.states[id]?.map (·.pool) =
      (livePartitionUpdate partition).poolAfter id (decoded.states[id]?.map (·.pool)) := by
  obtain ⟨cached, hdeltas, h⟩ := bind_eq_ok.mp h
  obtain rfl := pure_eq_ok.mp h
  have hstart : MapsMatch (fun id => decoded.states[id]?.map (·.pool)) decoded.states ∅ ∅ :=
    { pools := fun id => by simp [announceOrRestate]
      stated := fun id hsome => by simp at hsome }
  have hnew := mapsMatch_insertNew partition.backend partition.newPairs hstart
  have hmatch := foldlM_induction (fun pre cached => MapsMatch _ cached _
    (pre.foldl (fun states d => states.insert d.componentId d.state) _)) hnew
    (fun pre delta _ _ _ hpre hstep => by
      rw [List.foldl_append]
      exact mapsMatch_applyStateDelta hpre hstep) hdeltas
  have hremoved := @removed_getElem? Sim partition.removedPairs
    { partition.newPairs.foldl (·.insertNew partition.backend) decoded with states := cached }
    { partition.newPairs.foldl (·.insertNew partition.backend) decoded with states := cached }
    ∅ (fun id => by simp) id
  rw [poolAfter_eq ?_ (hmatch.stated id)]
  · rw [hremoved, apply_ite (Option.map _), Option.map_none]
    refine congrArg (ite _ none) ?_
    exact hmatch.pools id
  · intro component hcomponent
    obtain hempty | ⟨entry, hentry, -, rfl⟩ := exists_mem_of_foldl_insert hcomponent
    · simp at hempty
    · exact isSome_fromComponent (hplaced.newPairs entry hentry)

end Match

/-! ## What a published update mentions

Which ids are announced, restated and removed by the update that is published for an update of the
feed. -/

namespace UpdatePartitionBuilder

/-- The ids of the new pairs. -/
def newIds (builder : UpdatePartitionBuilder Sim) : List String :=
  builder.newPairs.map (·.componentId)

/-- The ids of the removed pairs. -/
def goneIds (builder : UpdatePartitionBuilder Sim) : List String :=
  builder.removedPairs.map (·.componentId)

end UpdatePartitionBuilder

/-- Some partition under construction lists the id. -/
def UpdatePartitionBuilders.Lists (ids : UpdatePartitionBuilder Sim → List String)
    (builders : UpdatePartitionBuilders Sim) (id : String) : Prop :=
  ∃ (backend : BroadcasterBackend) (builder : UpdatePartitionBuilder Sim),
    builders[backend]? = some builder ∧ id ∈ ids builder

section Mentions

variable {ids : UpdatePartitionBuilder Sim → List String} {builders builders' : UpdatePartitionBuilders Sim}

/-- Editing a partition adds what the edit adds. -/
theorem lists_edit {f : UpdatePartitionBuilder Sim → UpdatePartitionBuilder Sim}
    {extra : List String} (backend : BroadcasterBackend)
    (hextra : ∀ builder, ids (f builder) = ids builder ++ extra) (hempty : ids {} = [])
    (id : String) :
    (builders.edit backend f).Lists ids id ↔ builders.Lists ids id ∨ id ∈ extra := by
  have hlookup : ∀ b : BroadcasterBackend, (builders.edit backend f)[b]? =
      if backend = b then some (f (builders[backend]?.getD {})) else builders[b]? := by
    intro b
    rw [UpdatePartitionBuilders.edit, Std.ExtTreeMap.getElem?_insert]
    simp only [Std.LawfulEqCmp.compare_eq_iff_eq]
  have hold : id ∈ ids (builders[backend]?.getD {}) → builders.Lists ids id := by
    rcases hbuilder : builders[backend]? with _ | builder
    · simp [hempty]
    · exact fun hin => ⟨backend, builder, hbuilder, hin⟩
  constructor
  · rintro ⟨b, builder, hbuilder, hin⟩
    rw [hlookup] at hbuilder
    by_cases hb : backend = b
    · rw [if_pos hb, Option.some.injEq] at hbuilder
      rw [← hbuilder, hextra, List.mem_append] at hin
      exact hin.imp_left hold
    · rw [if_neg hb] at hbuilder
      exact .inl ⟨b, builder, hbuilder, hin⟩
  · rintro (⟨b, builder, hbuilder, hin⟩ | hin)
    · by_cases hb : backend = b
      · subst hb
        refine ⟨backend, _, by rw [hlookup, if_pos rfl], ?_⟩
        rw [hextra, hbuilder, List.mem_append]
        exact .inl hin
      · exact ⟨b, builder, by rw [hlookup, if_neg hb, hbuilder], hin⟩
    · refine ⟨backend, _, by rw [hlookup, if_pos rfl], ?_⟩
      rw [hextra, List.mem_append]
      exact .inr hin

/-- An edit that adds no id mentions no more ids. -/
theorem lists_edit_same {f : UpdatePartitionBuilder Sim → UpdatePartitionBuilder Sim}
    (backend : BroadcasterBackend) (hsame : ∀ builder, ids (f builder) = ids builder)
    (hempty : ids {} = []) (id : String) :
    (builders.edit backend f).Lists ids id ↔ builders.Lists ids id := by
  have hextra : ∀ builder, ids (f builder) = ids builder ++ [] := by
    intro builder
    rw [hsame, List.append_nil]
  rw [lists_edit backend hextra hempty]
  simp

/-- A loop over a map whose turns add the key of their entry. -/
theorem lists_foldlM {υ : Type}
    {step : UpdatePartitionBuilders Sim → String × υ →
      Except BroadcasterContractError (UpdatePartitionBuilders Sim)}
    (hstep : ∀ builders builders' entry, step builders entry = .ok builders' → ∀ id,
      builders'.Lists ids id ↔ builders.Lists ids id ∨ id = entry.1)
    {m : FinMap String υ} (h : m.toList.foldlM step builders = .ok builders') (id : String) :
    builders'.Lists ids id ↔ builders.Lists ids id ∨ m.contains id := by
  have hloop := foldlM_induction (fun pre c => c.Lists ids id ↔
    builders.Lists ids id ∨ ∃ entry ∈ pre, id = entry.1) (by simp) (by
      intro pre entry c c' _ hpre hc
      rw [hstep c c' entry hc id, hpre]
      simp only [List.mem_append, List.mem_singleton, or_and_right, exists_or, exists_eq_left,
        or_assoc]) h
  rw [hloop, Std.ExtTreeMap.contains_eq_isSome_getElem?]
  refine or_congr_right ⟨?_, ?_⟩
  · rintro ⟨⟨key, value⟩, hentry, rfl⟩
    rw [Std.ExtTreeMap.mem_toList_iff_getElem?_eq_some] at hentry
    rw [hentry]
    rfl
  · intro hsome
    obtain ⟨value, hvalue⟩ := Option.isSome_iff_exists.mp hsome
    exact ⟨(id, value), Std.ExtTreeMap.mem_toList_iff_getElem?_eq_some.mpr hvalue, rfl⟩

/-- A loop whose turns add nothing. -/
theorem lists_foldlM_same {α : Type}
    {step : UpdatePartitionBuilders Sim → α →
      Except BroadcasterContractError (UpdatePartitionBuilders Sim)}
    (hstep : ∀ builders builders' entry, step builders entry = .ok builders' → ∀ id,
      builders'.Lists ids id ↔ builders.Lists ids id)
    {entries : List α} (h : entries.foldlM step builders = .ok builders') (id : String) :
    builders'.Lists ids id ↔ builders.Lists ids id :=
  foldlM_induction (fun _ c => c.Lists ids id ↔ builders.Lists ids id) Iff.rfl
    (fun _ entry c c' _ hpre hc => (hstep c c' entry hc id).trans hpre) h

variable {update : TychoUpdate Sim} {knownBackends : FinMap String BroadcasterBackend}
  {message : BroadcasterUpdateMessage Sim}

/-- An announced pool is mentioned as new, and nothing else is. -/
theorem splitNewPair_lists {entry : String × ProtocolComponent}
    (h : splitNewPair update builders entry = .ok builders') (id : String) :
    (builders'.Lists UpdatePartitionBuilder.newIds id ↔
      builders.Lists UpdatePartitionBuilder.newIds id ∨ id = entry.1) ∧
    (builders'.Lists UpdatePartitionBuilder.goneIds id ↔
      builders.Lists UpdatePartitionBuilder.goneIds id) := by
  rw [splitNewPair] at h
  split at h
  · cases h
  · obtain ⟨backend, -, h⟩ := bind_eq_ok.mp h
    obtain rfl := pure_eq_ok.mp h
    refine ⟨?_, lists_edit_same backend (by intro _; rfl) (by rfl) id⟩
    rw [← List.mem_singleton]
    exact lists_edit backend (by intro _; exact List.map_append) (by rfl) id

/-- A new state mentions no pool as new or gone. -/
theorem splitState_lists {entry : String × Sim}
    (h : splitState update knownBackends builders entry = .ok builders') (id : String) :
    (builders'.Lists UpdatePartitionBuilder.newIds id ↔
      builders.Lists UpdatePartitionBuilder.newIds id) ∧
    (builders'.Lists UpdatePartitionBuilder.goneIds id ↔
      builders.Lists UpdatePartitionBuilder.goneIds id) := by
  rw [splitState] at h
  split at h
  · obtain rfl := Except.ok.inj h
    exact ⟨Iff.rfl, Iff.rfl⟩
  · split at h
    · cases h
    · obtain rfl := Except.ok.inj h
      exact ⟨lists_edit_same _ (by intro _; rfl) (by rfl) id, lists_edit_same _ (by intro _; rfl) (by rfl) id⟩

theorem splitRemovedPair_lists {entry : String × ProtocolComponent}
    (h : splitRemovedPair builders entry = .ok builders') (id : String) :
    (builders'.Lists UpdatePartitionBuilder.newIds id ↔
      builders.Lists UpdatePartitionBuilder.newIds id) ∧
    (builders'.Lists UpdatePartitionBuilder.goneIds id ↔
      builders.Lists UpdatePartitionBuilder.goneIds id ∨ id = entry.1) := by
  obtain ⟨backend, -, h⟩ := bind_eq_ok.mp h
  obtain rfl := pure_eq_ok.mp h
  refine ⟨lists_edit_same backend (by intro _; rfl) (by rfl) id, ?_⟩
  rw [← List.mem_singleton]
  exact lists_edit backend (by intro _; exact List.map_append) (by rfl) id

theorem splitSyncState_lists {entry : String × SynchronizerState}
    (h : splitSyncState builders entry = .ok builders') (id : String) :
    (builders'.Lists UpdatePartitionBuilder.newIds id ↔
      builders.Lists UpdatePartitionBuilder.newIds id) ∧
    (builders'.Lists UpdatePartitionBuilder.goneIds id ↔
      builders.Lists UpdatePartitionBuilder.goneIds id) := by
  obtain ⟨backend, -, h⟩ := bind_eq_ok.mp h
  obtain rfl := pure_eq_ok.mp h
  exact ⟨lists_edit_same backend (by intro _; rfl) (by rfl) id, lists_edit_same backend (by intro _; rfl) (by rfl) id⟩

/-- The message announces and removes what the update does. -/
structure MentionsOf (message : BroadcasterUpdateMessage Sim) (update : TychoUpdate Sim) : Prop where
  newPairs : ∀ id, (∃ p ∈ message.partitions, ∃ e ∈ p.newPairs, e.componentId = id) ↔
    update.newPairs.contains id
  removedPairs : ∀ id, (∃ p ∈ message.partitions, ∃ r ∈ p.removedPairs, r.componentId = id) ↔
    update.removedPairs.contains id
  messages : ∀ p ∈ message.partitions, p.messages = []

/-- **Publishing an update** keeps what it mentions. -/
theorem fromTychoUpdate_mentions
    (h : BroadcasterUpdateMessage.fromTychoUpdate update knownBackends = .ok message) :
    MentionsOf message update := by
  obtain ⟨news, hnews, h⟩ := bind_eq_ok.mp h
  obtain ⟨states, hstates, h⟩ := bind_eq_ok.mp h
  obtain ⟨removed, hremoved, h⟩ := bind_eq_ok.mp h
  obtain ⟨synced, hsynced, h⟩ := bind_eq_ok.mp h
  rw [BroadcasterUpdateMessage.new, check_bind_eq_ok, pure_eq_ok] at h
  obtain ⟨-, rfl⟩ := h
  have hempty : ∀ (ids : UpdatePartitionBuilder Sim → List String) id,
      ¬UpdatePartitionBuilders.Lists ids ∅ id := by
    rintro ids id ⟨backend, builder, hbuilder, -⟩
    simp at hbuilder
  -- of the four loops only the first one lists new ids, and only the third one removed ids
  have hnew : ∀ id, synced.Lists UpdatePartitionBuilder.newIds id ↔
      update.newPairs.contains id := by
    intro id
    rw [lists_foldlM_same (fun _ _ _ h id => (splitSyncState_lists h id).1) hsynced,
      lists_foldlM_same (fun _ _ _ h id => (splitRemovedPair_lists h id).1) hremoved,
      lists_foldlM_same (fun _ _ _ h id => (splitState_lists h id).1) hstates,
      lists_foldlM (fun _ _ _ h id => (splitNewPair_lists h id).1) hnews]
    exact or_iff_right (hempty _ id)
  have hgone : ∀ id, synced.Lists UpdatePartitionBuilder.goneIds id ↔
      update.removedPairs.contains id := by
    intro id
    rw [lists_foldlM_same (fun _ _ _ h id => (splitSyncState_lists h id).2) hsynced,
      lists_foldlM (fun _ _ _ h id => (splitRemovedPair_lists h id).2) hremoved,
      lists_foldlM_same (fun _ _ _ h id => (splitState_lists h id).2) hstates,
      lists_foldlM_same (fun _ _ _ h id => (splitNewPair_lists h id).2) hnews]
    exact or_iff_right (hempty _ id)
  -- the partitions are the builders that are not empty, sorted by backend
  have hpartitions : ∀ p, p ∈ (List.insertionSort (fun a b => (compare a.backend b.backend).isLE)
      ((synced.toList.filter fun entry => !entry.2.isEmpty).map fun entry =>
        BroadcasterUpdatePartition.new entry.1 update.blockNumberOrTimestamp entry.2.newPairs
          entry.2.updatedStates entry.2.removedPairs entry.2.syncStatuses)) ↔
      ∃ (backend : BroadcasterBackend) (builder : UpdatePartitionBuilder Sim),
        synced[backend]? = some builder ∧ builder.isEmpty = false ∧
        p = BroadcasterUpdatePartition.new backend update.blockNumberOrTimestamp builder.newPairs
          builder.updatedStates builder.removedPairs builder.syncStatuses := by
    intro p
    rw [(List.perm_insertionSort _ _).mem_iff]
    constructor
    · intro hp
      obtain ⟨⟨backend, builder⟩, hin, rfl⟩ := List.mem_map.mp hp
      obtain ⟨hentry, hfull⟩ := List.mem_filter.mp hin
      exact ⟨backend, builder, Std.ExtTreeMap.mem_toList_iff_getElem?_eq_some.mp hentry,
        by simpa using hfull, rfl⟩
    · rintro ⟨backend, builder, hbuilder, hfull, rfl⟩
      have hentry := Std.ExtTreeMap.mem_toList_iff_getElem?_eq_some.mpr hbuilder
      exact List.mem_map.mpr ⟨(backend, builder), List.mem_filter.mpr ⟨hentry, by simp [hfull]⟩, rfl⟩
  refine { newPairs := fun id => ?_, removedPairs := fun id => ?_, messages := fun p hp => ?_ }
  · rw [← hnew id]
    constructor
    · rintro ⟨p, hp, e, he, rfl⟩
      obtain ⟨backend, builder, hbuilder, -, rfl⟩ := (hpartitions p).mp hp
      refine ⟨backend, builder, hbuilder, List.mem_map_of_mem ?_⟩
      exact (List.perm_insertionSort _ _).mem_iff.mp he
    · rintro ⟨backend, builder, hbuilder, hin⟩
      obtain ⟨e, he, rfl⟩ := List.mem_map.mp hin
      have hfull : builder.isEmpty = false := by
        cases hnil : builder.newPairs with
        | nil => rw [hnil] at he; cases he
        | cons _ _ => simp [UpdatePartitionBuilder.isEmpty, hnil]
      exact ⟨_, (hpartitions _).mpr ⟨backend, builder, hbuilder, hfull, rfl⟩, e,
        (List.perm_insertionSort _ _).mem_iff.mpr he, rfl⟩
  · rw [← hgone id]
    constructor
    · rintro ⟨p, hp, r, hr, rfl⟩
      obtain ⟨backend, builder, hbuilder, -, rfl⟩ := (hpartitions p).mp hp
      refine ⟨backend, builder, hbuilder, List.mem_map_of_mem ?_⟩
      exact (List.perm_insertionSort _ _).mem_iff.mp hr
    · rintro ⟨backend, builder, hbuilder, hin⟩
      obtain ⟨r, hr, rfl⟩ := List.mem_map.mp hin
      have hfull : builder.isEmpty = false := by
        cases hnil : builder.removedPairs with
        | nil => rw [hnil] at hr; cases hr
        | cons _ _ => simp [UpdatePartitionBuilder.isEmpty, hnil]
      exact ⟨_, (hpartitions _).mpr ⟨backend, builder, hbuilder, hfull, rfl⟩, r,
        (List.perm_insertionSort _ _).mem_iff.mpr hr, rfl⟩
  · obtain ⟨backend, builder, -, -, rfl⟩ := (hpartitions p).mp hp
    rfl

end Mentions

/-! ## One update on both sides

A pool that the update mentions is the same on both sides afterwards; another one is what it was. -/

/-- The decoded states the cache holds. -/
def BroadcasterSnapshotCache.rfqStates (cache : BroadcasterSnapshotCache Sim) :
    FinMap String (BroadcasterStateEntry Sim) :=
  (cache.inner.partitions[BroadcasterBackend.rfq]?.getD .empty).states

/-- The pool the cache holds for a component. -/
def BroadcasterSnapshotCache.rfqPool (cache : BroadcasterSnapshotCache Sim) (id : String) :
    Option (PoolEntry Sim) :=
  cache.rfqStates[id]?.map (·.pool)

/-- **A decoded cache.** -/
structure DecodedCache (cache : BroadcasterSnapshotCache Sim) : Prop where
  backends : cache.configuredBackends = [.rfq]
  messages : (cache.inner.partitions[BroadcasterBackend.rfq]?.getD .empty).messages = []
  /-- states are stored under their own id -/
  ids : ∀ (id : String) (entry : BroadcasterStateEntry Sim),
    cache.rfqStates[id]? = some entry → entry.componentId = id

/-- Each state is stored under its own id. -/
def OwnIds (states : FinMap String (BroadcasterStateEntry Sim)) : Prop :=
  ∀ (id : String) (entry : BroadcasterStateEntry Sim),
    states[id]? = some entry → entry.componentId = id

theorem OwnIds.insert {states : FinMap String (BroadcasterStateEntry Sim)} (h : OwnIds states)
    (entry : BroadcasterStateEntry Sim) : OwnIds (states.insert entry.componentId entry) := by
  intro id entry' hentry
  rw [Std.ExtTreeMap.getElem?_insert] at hentry
  by_cases hid : compare entry.componentId id = .eq
  · rw [if_pos hid, Option.some.injEq] at hentry
    rw [← hentry]
    exact Std.LawfulEqCmp.eq_of_compare hid
  · rw [if_neg hid] at hentry
    exact h id entry' hentry

theorem OwnIds.modify {states : FinMap String (BroadcasterStateEntry Sim)} (h : OwnIds states)
    (key : String) (state : Sim) : OwnIds (states.modify key ({ · with state })) := by
  intro id entry' hentry
  rw [Std.ExtTreeMap.getElem?_modify] at hentry
  by_cases hid : compare key id = .eq
  · rw [if_pos hid] at hentry
    obtain ⟨entry, hold, rfl⟩ := Option.map_eq_some_iff.mp hentry
    obtain rfl := Std.LawfulEqCmp.eq_of_compare hid
    exact h key entry hold
  · rw [if_neg hid] at hentry
    exact h id entry' hentry

theorem OwnIds.erase {states : FinMap String (BroadcasterStateEntry Sim)} (h : OwnIds states)
    (key : String) : OwnIds (states.erase key) := by
  intro id entry' hentry
  rw [Std.ExtTreeMap.getElem?_erase] at hentry
  by_cases hid : compare key id = .eq
  · rw [if_pos hid] at hentry
    cases hentry
  · rw [if_neg hid] at hentry
    exact h id entry' hentry

/-- A partition keeps states under their own ids. -/
theorem ownIds_partitionStates {partition : BroadcasterUpdatePartition Sim}
    {decoded decoded' : DecodedStates Sim} (h : OwnIds decoded.states)
    (hpartition : partitionStates partition decoded = .ok decoded') : OwnIds decoded'.states := by
  obtain ⟨cached, hdeltas, hresult⟩ := bind_eq_ok.mp hpartition
  obtain rfl := pure_eq_ok.mp hresult
  have hnew : OwnIds (partition.newPairs.foldl (·.insertNew partition.backend) decoded).states :=
    List.foldlRecOn (motive := fun decoded : DecodedStates Sim => OwnIds decoded.states)
      partition.newPairs _ h fun decoded hdecoded entry _ => hdecoded.insert entry
  have hcached : OwnIds cached := by
    refine foldlM_induction (fun _ cached => OwnIds cached) hnew ?_ hdeltas
    intro _ delta c c' _ hc hstep
    rw [applyStateDelta] at hstep
    simp only [check_bind_eq_ok, pure_eq_ok] at hstep
    obtain ⟨-, -, rfl⟩ := hstep
    exact hc.modify _ _
  exact List.foldlRecOn (motive := fun decoded : DecodedStates Sim => OwnIds decoded.states)
    partition.removedPairs _ hcached fun decoded hdecoded removed _ => hdecoded.erase _

/-- The update of a decoded cache: one partition, applied to its states. -/
structure UpdatesTo (cache cache' : BroadcasterSnapshotCache Sim)
    (message : BroadcasterUpdateMessage Sim) (partition : BroadcasterUpdatePartition Sim) : Prop where
  partitions : message.partitions = [partition]
  backend : partition.backend = .rfq
  messages : partition.messages = []
  placed : partition.WellPlaced
  states : ∃ known decoded', partitionStates partition ⟨known, cache.rfqStates⟩ = .ok decoded' ∧
    cache'.rfqStates = decoded'.states
  decoded : DecodedCache cache'

/-- **Publishing** an update from a decoded cache. -/
theorem applyUpdate_updatesTo {merge : StateSyncMerge} {cache cache' : BroadcasterSnapshotCache Sim}
    (hcache : DecodedCache cache) {update : TychoUpdate Sim} {message : BroadcasterUpdateMessage Sim}
    (h : cache.applyUpdate merge update = .ok (cache', message)) :
    MentionsOf message update ∧ ∃ partition, UpdatesTo cache cache' message partition := by
  obtain ⟨staged, hstaged, h⟩ := bind_eq_ok.mp h
  rw [BroadcasterSnapshotCache.stageUpdate] at hstaged
  obtain ⟨message', hmessage, hstaged⟩ := bind_eq_ok.mp hstaged
  rw [check_bind_eq_ok, check_bind_eq_ok, pure_eq_ok] at hstaged
  obtain ⟨hconfigured, -, rfl⟩ := hstaged
  rw [mapError_eq_ok] at hmessage
  obtain ⟨committed, hcommit, h⟩ := bind_eq_ok.mp h
  rw [pure_eq_ok, Prod.mk.injEq] at h
  obtain ⟨rfl, rfl⟩ := h
  have hmentions := fromTychoUpdate_mentions hmessage
  refine ⟨hmentions, ?_⟩
  -- all partitions are RFQ ones, so there is one
  have hvalid : validateUpdatePartitions message'.partitions = .ok () := by
    obtain ⟨_, _, h⟩ := bind_eq_ok.mp hmessage
    obtain ⟨_, _, h⟩ := bind_eq_ok.mp h
    obtain ⟨_, _, h⟩ := bind_eq_ok.mp h
    obtain ⟨_, _, h⟩ := bind_eq_ok.mp h
    rw [BroadcasterUpdateMessage.new, check_bind_eq_ok, pure_eq_ok] at h
    rw [← h.2]
    exact h.1
  obtain ⟨⟨hne, -⟩, hnodup, hplaced⟩ := validateUpdatePartitions_eq_ok.mp hvalid
  have hrfq : ∀ p ∈ message'.partitions, p.backend = .rfq := by
    intro p hp
    rw [ensureConfiguredUpdateBackends, forM_eq_ok] at hconfigured
    have hin := ensure_eq_ok.mp (hconfigured p hp)
    rw [hcache.backends] at hin
    exact List.mem_singleton.mp hin
  obtain ⟨partition, rest, hpartitions⟩ := List.exists_cons_of_ne_nil hne
  have hrest : rest = [] := by
    cases rest with
    | nil => rfl
    | cons q rest =>
      rw [hpartitions, List.map_cons, List.nodup_cons] at hnodup
      have hp := hrfq partition (hpartitions ▸ List.mem_cons_self)
      have hq := hrfq q (hpartitions ▸ List.mem_cons_of_mem _ List.mem_cons_self)
      exact absurd (by simp [hp, hq]) hnodup.1
  subst hrest
  have hin : partition ∈ message'.partitions := hpartitions ▸ List.mem_singleton_self _
  have hbackend := hrfq partition hin
  obtain ⟨inner, hinner, hcommit⟩ := bind_eq_ok.mp hcommit
  obtain rfl := pure_eq_ok.mp hcommit
  rw [BroadcasterSnapshotCache.commitDecoded] at hinner
  simp only [applyUpdateMessage, hpartitions, List.foldlM_cons, List.foldlM_nil, bind_pure] at hinner
  rw [applyUpdatePartition_eq] at hinner
  obtain ⟨decoded', hdecoded, hinner⟩ := bind_eq_ok.mp hinner
  obtain rfl := pure_eq_ok.mp hinner
  have hown : OwnIds decoded'.states := ownIds_partitionStates (fun id entry => by
    rw [hbackend]
    exact hcache.ids id entry) hdecoded
  have hlookup : (cache.inner.partitions.insert partition.backend
      { (cache.inner.partitions[partition.backend]?.getD .empty) with
        blockNumber := some partition.blockNumber
        syncStatuses := partition.syncStatuses
        states := decoded'.states })[BroadcasterBackend.rfq]? = some
      { (cache.inner.partitions[partition.backend]?.getD .empty) with
        blockNumber := some partition.blockNumber
        syncStatuses := partition.syncStatuses
        states := decoded'.states } := by
    rw [hbackend, Std.ExtTreeMap.getElem?_insert_self]
  refine ⟨partition,
    { partitions := hpartitions, backend := hbackend, messages := hmentions.messages _ hin
      placed := hplaced _ hin, states := ?_, decoded := ?_ }⟩
  · refine ⟨_, decoded', by rw [hbackend] at hdecoded; exact hdecoded, ?_⟩
    rw [BroadcasterSnapshotCache.rfqStates, hlookup]
    rfl
  · refine { backends := hcache.backends, messages := ?_, ids := ?_ }
    · dsimp only
      rw [hlookup, hbackend]
      exact hcache.messages
    · intro id entry hentry
      rw [BroadcasterSnapshotCache.rfqStates, hlookup] at hentry
      exact hown id entry hentry

/-- **Applying** the update of a decoded cache. -/
theorem applyLiveUpdate_pools {decoder : UpdateDecoder Sim}
    {cache cache' : BroadcasterSnapshotCache Sim} {message : BroadcasterUpdateMessage Sim}
    {partition : BroadcasterUpdatePartition Sim} (hupdate : UpdatesTo cache cache' message partition)
    {stateVersion : UInt64} {store store' : PublishedStateStore Sim} (hstore : store.ShardsComplete)
    (h : exec (applyLiveUpdate decoder .rfq message (some stateVersion)) store = (.ok (), store')) :
    store'.ShardsComplete ∧ ∀ id, poolById store' id =
      (livePartitionUpdate partition).poolAfter id (poolById store id) := by
  have hfilter : message.partitions.filter (·.backend = .rfq) = [partition] := by
    rw [hupdate.partitions]
    simp [hupdate.backend]
  have hcollect : (message.partitions.filter (·.backend = .rfq)).foldlM
      (LiveUpdate.collect decoder .rfq) {} = .ok
      { combined := some (livePartitionUpdate partition)
        blockNumber := some (max 0 partition.blockNumber) } := by
    rw [hfilter, List.foldlM_cons, LiveUpdate.collect, hupdate.messages]
    rfl
  rw [applyLiveUpdate, exec_check_bind_eq_ok] at h
  obtain ⟨live, hlive, h⟩ := h
  obtain rfl := Except.ok.inj (hcollect.symm.trans hlive)
  obtain ⟨metrics, middle, happly, h⟩ := exec_bind_eq_ok.mp h
  obtain rfl : middle = store' := congrArg Prod.snd h
  rw [applyUpdateAtVersion, exec_get_bind, exec_check_unit_bind_eq_ok, exec_set_bind] at happly
  obtain rfl : _ = middle := congrArg Prod.snd happly.2
  exact ⟨shardsComplete_applyUpdateLocked hstore _ _,
    fun id => poolById_applyUpdateLocked hstore _ stateVersion id⟩

/-! ## Bootstrap

A consumer begins with the chunks of the cache, and then holds what the cache holds. -/

/-- A key is in the map when it was, or when it is inserted. -/
theorem isSome_foldl_insert {α υ : Type} {key : α → String} {value : α → υ} {xs : List α}
    {m : FinMap String υ} {id : String} :
    (xs.foldl (fun m x => m.insert (key x) (value x)) m)[id]?.isSome ↔
      m[id]?.isSome ∨ ∃ x ∈ xs, key x = id := by
  induction xs generalizing m with
  | nil => simp
  | cons x xs ih =>
    rw [List.foldl_cons, ih, Std.ExtTreeMap.getElem?_insert]
    by_cases hid : compare (key x) id = .eq
    · simp [Std.LawfulEqCmp.eq_of_compare hid]
    · have hne : key x ≠ id := fun heq => hid (heq ▸ Std.ReflCmp.compare_self)
      simp [hid, hne]

/-- The states of a partition, all taken from one map. -/
def TakenFrom (states : FinMap String (BroadcasterStateEntry Sim))
    (partition : BroadcasterSnapshotPartition Sim) : Prop :=
  ∀ entry ∈ partition.states, states[entry.componentId]? = some entry

/-- **A decoded snapshot partition** sets the components it has. -/
theorem poolAfter_snapshotPartitionUpdate {states : FinMap String (BroadcasterStateEntry Sim)}
    {partition : BroadcasterSnapshotPartition Sim} (hplaced : partition.WellPlaced)
    (htaken : TakenFrom states partition) (id : String) (old : Option (PoolEntry Sim)) :
    ((∃ entry ∈ partition.states, entry.componentId = id) →
      (snapshotPartitionUpdate partition).poolAfter id old = states[id]?.map (·.pool)) ∧
    ((¬∃ entry ∈ partition.states, entry.componentId = id) →
      (snapshotPartitionUpdate partition).poolAfter id old = old) := by
  let update := snapshotPartitionUpdate partition
  have hpairs : update.newPairs[id]?.isSome ↔ ∃ entry ∈ partition.states, entry.componentId = id :=
    isSome_foldl_insert.trans (by simp)
  have hstates : update.states[id]?.isSome ↔ ∃ entry ∈ partition.states, entry.componentId = id :=
    isSome_foldl_insert.trans (by simp)
  have hkept : ¬update.removedPairs.contains id := by simp [update, snapshotPartitionUpdate]
  have hknown : ∀ component, update.newPairs[id]? = some component →
      (ProtocolKind.fromComponent component).isSome := by
    intro component hcomponent
    obtain hempty | ⟨entry, hentry, -, rfl⟩ := exists_mem_of_foldl_insert hcomponent
    · simp at hempty
    · exact isSome_fromComponent (hplaced.states entry hentry)
  rw [poolAfter_eq hknown (fun hsome => hstates.mpr (hpairs.mp hsome)), if_neg hkept]
  refine ⟨fun hin => ?_, fun hnot => ?_⟩
  · obtain ⟨component, hcomponent⟩ := Option.isSome_iff_exists.mp (hpairs.mpr hin)
    obtain ⟨state, hstate⟩ := Option.isSome_iff_exists.mp (hstates.mpr hin)
    obtain hempty | ⟨e, he, hid, rfl⟩ := exists_mem_of_foldl_insert hcomponent
    · simp at hempty
    obtain hempty | ⟨e', he', hid', rfl⟩ := exists_mem_of_foldl_insert hstate
    · simp at hempty
    have hsame : e = e' := by
      have h := htaken e he
      have h' := htaken e' he'
      rw [hid] at h
      rw [hid', h, Option.some.injEq] at h'
      exact h'
    have hlookup := htaken e he
    rw [hid] at hlookup
    rw [hcomponent, hstate, hlookup, ← hsame]
    rfl
  · have hpair : update.newPairs[id]? = none := by
      rw [← Option.not_isSome_iff_eq_none, hpairs]
      exact hnot
    have hstate : update.states[id]? = none := by
      rw [← Option.not_isSome_iff_eq_none, hstates]
      exact hnot
    rw [hpair, hstate]
    rfl

/-- The chunks of a decoded partition. -/
structure DecodedChunks (states : List (BroadcasterStateEntry Sim))
    (partitions : List (BroadcasterSnapshotPartition Sim)) : Prop where
  backend : ∀ q ∈ partitions, q.backend = .rfq
  messages : ∀ q ∈ partitions, q.messages = []
  placed : ∀ q ∈ partitions, q.WellPlaced
  states : ∀ entry, (∃ q ∈ partitions, entry ∈ q.states) ↔ entry ∈ states

/-- Chunks of one backend, and more of them. -/
theorem DecodedChunks.append {states items : List (BroadcasterStateEntry Sim)}
    {partitions : List (BroadcasterSnapshotPartition Sim)} (h : DecodedChunks states partitions)
    {ctx : SnapshotChunkBuildContext} (hbackend : ctx.backend = .rfq) {index : Nat}
    {syncStatuses : SyncStatuses} {next : BroadcasterSnapshotChunk Sim}
    (hnext : ctx.statesChunk index items syncStatuses = .ok next) :
    DecodedChunks (states ++ items) (partitions ++ next.partitions) := by
  obtain ⟨hchunk, hpartitions⟩ := snapshotChunk_eq_ok rfl hnext
  have hplaced := hchunk.wellPlaced
  rw [hpartitions] at hplaced ⊢
  have hlast := hplaced _ (List.mem_singleton_self _)
  refine { backend := ?_, messages := ?_, placed := ?_, states := ?_ }
  · simp only [List.forall_mem_append, List.forall_mem_singleton]
    exact ⟨h.backend, hbackend⟩
  · simp only [List.forall_mem_append, List.forall_mem_singleton]
    exact ⟨h.messages, rfl⟩
  · simp only [List.forall_mem_append, List.forall_mem_singleton]
    exact ⟨h.placed, hlast⟩
  · intro entry
    rw [List.mem_append, ← h.states entry]
    simp only [List.mem_append, List.mem_singleton, or_and_right, exists_or, exists_eq_left]
    refine or_congr_right ?_
    exact (List.perm_insertionSort _ _).mem_iff

/-- The partitions of some chunks. -/
def chunkPartitions (chunks : List (BroadcasterSnapshotChunk Sim)) :
    List (BroadcasterSnapshotPartition Sim) :=
  chunks.flatMap (·.partitions)

/-- **Exporting a decoded partition** sends every state it has. -/
theorem buildPartition_decodedChunks {serialisedLen : SerialisedLen Sim}
    {ctx : SnapshotChunkBuildContext} (hbackend : ctx.backend = .rfq) {base : Nat}
    {partition : BroadcasterPartitionState Sim} (hmessages : partition.messages = [])
    {chunks : List (BroadcasterSnapshotChunk Sim)}
    (h : buildPartitionSnapshotChunks serialisedLen ctx base partition = .ok chunks) :
    DecodedChunks (partition.states.toList.map (·.2)) (chunkPartitions chunks) := by
  rw [buildPartitionSnapshotChunks, hmessages] at h
  obtain ⟨buffer, hfold, hclose⟩ := bind_eq_ok.mp h
  have happend : ∀ (cs : List (BroadcasterSnapshotChunk Sim)) next,
      chunkPartitions (cs ++ [next]) = chunkPartitions cs ++ next.partitions := by
    intro cs next
    rw [chunkPartitions, List.flatMap_append, List.flatMap_singleton]
    rfl
  -- what is packed so far: the chunks, then the states still waiting
  have hpacked := foldlM_induction (fun pre (c : ChunkBuffer Sim (BroadcasterStateEntry Sim)) =>
      ∃ sent, DecodedChunks sent (chunkPartitions c.chunks) ∧ sent ++ c.items = pre)
    ⟨[], { backend := by simp [chunkPartitions], messages := by simp [chunkPartitions]
           placed := by simp [chunkPartitions], states := by simp [chunkPartitions] }, rfl⟩
    (by
      rintro pre state c c' _ ⟨sent, hsent, hpre⟩ hstep
      rw [packState] at hstep
      obtain rfl | ⟨next, hnext, rfl⟩ := pack_cases hstep
      · exact ⟨sent, hsent, by rw [← hpre, List.append_assoc]⟩
      · refine ⟨sent ++ c.items, ?_, by rw [hpre]⟩
        rw [happend]
        exact hsent.append hbackend hnext) hfold
  obtain ⟨sent, hsent, hall⟩ := hpacked
  obtain ⟨hitems, -, rfl⟩ | ⟨last, hlast, rfl, -⟩ := close_cases hclose
  · rw [hitems, List.append_nil] at hall
    exact hall ▸ hsent
  · rw [happend, ← hall]
    exact hsent.append hbackend hlast

/-- The partitions of a chunk, one after the other. -/
theorem observeSnapshotPartitions_pools {states : FinMap String (BroadcasterStateEntry Sim)}
    {partitions : List (BroadcasterSnapshotPartition Sim)}
    (hbackend : ∀ q ∈ partitions, q.backend = .rfq) (hmessages : ∀ q ∈ partitions, q.messages = [])
    (hplaced : ∀ q ∈ partitions, q.WellPlaced) (htaken : ∀ q ∈ partitions, TakenFrom states q)
    {store store' : PublishedStateStore Sim} (hstore : store.ShardsComplete)
    (h : partitions.foldlM (observeSnapshotPartition .rfq) store = .ok store') :
    store'.ShardsComplete ∧ ∀ id,
      ((∃ q ∈ partitions, ∃ entry ∈ q.states, entry.componentId = id) →
        poolById store' id = states[id]?.map (·.pool)) ∧
      ((¬∃ q ∈ partitions, ∃ entry ∈ q.states, entry.componentId = id) →
        poolById store' id = poolById store id) := by
  induction partitions generalizing store with
  | nil =>
    obtain rfl := pure_eq_ok.mp h
    exact ⟨hstore, fun id => ⟨by simp, fun _ => rfl⟩⟩
  | cons q rest ih =>
    rw [List.foldlM_cons] at h
    obtain ⟨middle, hmiddle, h⟩ := bind_eq_ok.mp h
    simp only [List.forall_mem_cons] at hbackend hmessages hplaced htaken
    have heq : middle = (TychoSimulationServer.applyUpdate store (snapshotPartitionUpdate q)).1 := by
      rw [observeSnapshotPartition, if_pos hbackend.1, bufferSnapshotPartition, hmessages.1] at hmiddle
      exact (Except.ok.inj hmiddle).symm
    have hpools : ∀ id, poolById middle id =
        (snapshotPartitionUpdate q).poolAfter id (poolById store id) := by
      intro id
      rw [heq]
      exact poolById_applyUpdateLocked hstore _ _ id
    have hcomplete : middle.ShardsComplete := heq ▸ shardsComplete_applyUpdateLocked hstore _ _
    obtain ⟨hdone, hrest⟩ := ih hbackend.2 hmessages.2 hplaced.2 htaken.2 hcomplete h
    refine ⟨hdone, fun id => ?_⟩
    obtain ⟨hhas, hlacks⟩ :=
      poolAfter_snapshotPartitionUpdate hplaced.1 htaken.1 id (poolById store id)
    -- a later partition decides about its ids, this one about those that come in no later one
    by_cases hlater : ∃ q ∈ rest, ∃ entry ∈ q.states, entry.componentId = id
    · refine ⟨fun _ => (hrest id).1 hlater, fun hnot => absurd ?_ hnot⟩
      obtain ⟨q', hq', hentry⟩ := hlater
      exact ⟨q', List.mem_cons_of_mem _ hq', hentry⟩
    · have hsame := (hrest id).2 hlater
      rw [hsame, hpools]
      refine ⟨fun hin => hhas ?_, fun hnot => hlacks fun hentry => hnot ?_⟩
      · obtain ⟨q', hq', hentry⟩ := hin
        obtain rfl | hq' := List.mem_cons.mp hq'
        · exact hentry
        · exact absurd ⟨q', hq', hentry⟩ hlater
      · exact ⟨q, List.mem_cons_self, hentry⟩

/-- Chunks are applied partition by partition. -/
theorem observeSnapshotChunks_eq (stateVersion : UInt64)
    (chunks : List (BroadcasterSnapshotChunk Sim)) (store : PublishedStateStore Sim) :
    (chunks.map BroadcasterPayload.snapshotChunk).foldlM
        (observeSnapshotPayload .rfq stateVersion) store =
      (chunkPartitions chunks).foldlM (observeSnapshotPartition .rfq) store := by
  induction chunks generalizing store with
  | nil => rfl
  | cons chunk chunks ih =>
    rw [List.map_cons, List.foldlM_cons, chunkPartitions, List.flatMap_cons, List.foldlM_append]
    exact bind_congr fun store => ih store

/-- **A consumer that boots** from an export of a decoded cache holds what the cache holds. -/
theorem bootstrapDecoded_pools {serialisedLen : SerialisedLen Sim}
    {cache : BroadcasterSnapshotCache Sim} (hcache : DecodedCache cache) {maxPayloadBytes : Nat}
    {exported : BroadcasterSnapshotExport Sim}
    (hexport : cache.exportSnapshotSource serialisedLen cache.snapshotSource maxPayloadBytes =
      .ok exported)
    {tokens : FinMap Bytes Token} {wrappedNativeToken : Option Bytes} {stateVersion : UInt64}
    {store : PublishedStateStore Sim}
    (hboot : bootstrapDecoded .rfq tokens wrappedNativeToken stateVersion exported.payloads =
      .ok store) :
    store.ShardsComplete ∧ ∀ id, poolById store id = cache.rfqPool id := by
  obtain ⟨chunks, hchunks, hexport⟩ := bind_eq_ok.mp hexport
  obtain ⟨start, -, hexport⟩ := bind_eq_ok.mp hexport
  rw [check_bind_eq_ok, pure_eq_ok] at hexport
  obtain ⟨-, rfl⟩ := hexport
  -- the chunks of the one configured backend
  have hdecoded : DecodedChunks (cache.rfqStates.toList.map (·.2)) (chunkPartitions chunks) := by
    rw [buildSnapshotChunks, hcache.backends] at hchunks
    simp only [List.foldlM_cons, List.foldlM_nil, bind_pure, appendBackendChunks] at hchunks
    have hsource : cache.snapshotSource.partitions = cache.inner.partitions := rfl
    rw [hsource] at hchunks
    have hmessages := hcache.messages
    rw [BroadcasterSnapshotCache.rfqStates]
    rcases hpartition : cache.inner.partitions[BroadcasterBackend.rfq]? with _ | partition
    · rw [hpartition] at hchunks
      obtain rfl := Except.ok.inj hchunks
      exact { backend := by simp [chunkPartitions], messages := by simp [chunkPartitions]
              placed := by simp [chunkPartitions]
              states := by simp [chunkPartitions, BroadcasterPartitionState.empty] }
    · rw [hpartition] at hchunks hmessages
      obtain ⟨more, hmore, hchunks⟩ := bind_eq_ok.mp hchunks
      obtain rfl := pure_eq_ok.mp hchunks
      exact buildPartition_decodedChunks rfl hmessages hmore
  have htaken : ∀ q ∈ chunkPartitions chunks, TakenFrom cache.rfqStates q := by
    intro q hq entry hentry
    have hin := (hdecoded.states entry).mp ⟨q, hq, hentry⟩
    obtain ⟨⟨id, entry'⟩, hpair, rfl⟩ := List.mem_map.mp hin
    rw [Std.ExtTreeMap.mem_toList_iff_getElem?_eq_some] at hpair
    rw [hcache.ids id entry' hpair]
    exact hpair
  simp only [bootstrapDecoded, snapshotPayloads, List.foldlM_cons, List.foldlM_append,
    List.foldlM_nil, bind_pure] at hboot
  obtain ⟨opened, hopened, hboot⟩ := bind_eq_ok.mp hboot
  obtain rfl := Except.ok.inj hopened
  obtain ⟨filled, hfilled, hboot⟩ := bind_eq_ok.mp hboot
  rw [observeSnapshotChunks_eq] at hfilled
  obtain rfl := Except.ok.inj hboot
  obtain ⟨hcomplete, hpools⟩ := observeSnapshotPartitions_pools hdecoded.backend hdecoded.messages
    hdecoded.placed htaken (sound_empty tokens wrappedNativeToken).shards hfilled
  refine ⟨hcomplete, fun id => ?_⟩
  change poolById filled id = _
  rw [BroadcasterSnapshotCache.rfqPool]
  rcases hentry : cache.rfqStates[id]? with _ | entry
  · refine ((hpools id).2 ?_).trans rfl
    rintro ⟨q, hq, entry, hin, rfl⟩
    rw [htaken q hq entry hin] at hentry
    cases hentry
  · rw [← hentry]
    refine (hpools id).1 ?_
    have hin : entry ∈ cache.rfqStates.toList.map (·.2) :=
      List.mem_map_of_mem (Std.ExtTreeMap.mem_toList_iff_getElem?_eq_some.mpr hentry)
    obtain ⟨q, hq, hstate⟩ := (hdecoded.states entry).mpr hin
    exact ⟨q, hq, entry, hstate, hcache.ids id entry hentry⟩

/-! ## Runs

Updates, reconnections and bootstraps in any order. The condition is on the pools that the cache
dropped at a disconnect. -/

/-- A decoded cache and a consumer of what it publishes. -/
structure ReplicaRun (Sim : Type) where
  cache : BroadcasterSnapshotCache Sim
  /-- the consumer's store, once it has booted -/
  replica : Option (PublishedStateStore Sim)
  /-- ghost: the components the cache dropped at disconnects since its last update -/
  dropped : String → Prop

/-- The update announces or removes every component that was dropped. -/
def Remembers (dropped : String → Prop) (update : TychoUpdate Sim) : Prop :=
  ∀ id, dropped id → update.newPairs.contains id ∨ update.removedPairs.contains id

/-- The consumer applies a published update, if there is a consumer. -/
def FollowsUpdate (decoder : UpdateDecoder Sim) (message : BroadcasterUpdateMessage Sim)
    (stateVersion : UInt64) : Option (PublishedStateStore Sim) → Option (PublishedStateStore Sim) → Prop
  | none, replica => replica = none
  | some store, replica => ∃ store', replica = some store' ∧
      exec (applyLiveUpdate decoder .rfq message (some stateVersion)) store = (.ok (), store')

/-- One step. `allowed` restricts the updates that come after a disconnect. -/
inductive ReplicaStep (serialisedLen : SerialisedLen Sim) (merge : StateSyncMerge)
    (decoder : UpdateDecoder Sim) (allowed : (String → Prop) → TychoUpdate Sim → Prop)
    (run : ReplicaRun Sim) : ReplicaRun Sim → Prop where
  /-- an upstream update is committed and published, and the consumer applies it -/
  | update (update : TychoUpdate Sim) (message : BroadcasterUpdateMessage Sim)
      (stateVersion : UInt64) (cache : BroadcasterSnapshotCache Sim)
      (replica : Option (PublishedStateStore Sim)) (hallowed : allowed run.dropped update)
      (hcommit : run.cache.applyUpdate merge update = .ok (cache, message))
      (hfollow : FollowsUpdate decoder message stateVersion run.replica replica) :
      ReplicaStep serialisedLen merge decoder allowed run
        { cache, replica, dropped := fun _ => False }
  /-- the upstream connection is lost -/
  | disconnect : ReplicaStep serialisedLen merge decoder allowed run
      { run with
        cache := run.cache.markStreamDisconnected
        dropped := fun id => run.dropped id ∨ (run.cache.rfqPool id).isSome }
  /-- a consumer boots from an export -/
  | boot (maxPayloadBytes : Nat) (exported : BroadcasterSnapshotExport Sim)
      (tokens : FinMap Bytes Token) (wrappedNativeToken : Option Bytes) (stateVersion : UInt64)
      (store : PublishedStateStore Sim)
      (hexport : run.cache.exportSnapshotSource serialisedLen run.cache.snapshotSource
        maxPayloadBytes = .ok exported)
      (hboot : bootstrapDecoded .rfq tokens wrappedNativeToken stateVersion exported.payloads =
        .ok store) :
      ReplicaStep serialisedLen merge decoder allowed run
        { run with replica := some store, dropped := fun _ => False }

/-- The runs of an RFQ broadcaster with a consumer. -/
def replicaMachine (serialisedLen : SerialisedLen Sim) (merge : StateSyncMerge)
    (decoder : UpdateDecoder Sim) (chainId : UInt64)
    (allowed : (String → Prop) → TychoUpdate Sim → Prop) : Machine (ReplicaRun Sim) where
  init run := run = { cache := .new chainId [.rfq], replica := none, dropped := fun _ => False }
  step := ReplicaStep serialisedLen merge decoder allowed

/-- **The replica follows**: while the cache is ready, the consumer holds the same components with
the same state. -/
def ReplicaRun.Agrees (run : ReplicaRun Sim) : Prop :=
  run.cache.isReady → ∀ store, run.replica = some store →
    ∀ id, poolById store id = run.cache.rfqPool id

/-- **The invariant of a run.** -/
structure ReplicaInvariant (run : ReplicaRun Sim) : Prop where
  cache : DecodedCache run.cache
  shards : ∀ store, run.replica = some store → store.ShardsComplete
  /-- the consumer differs from the cache at most in what was dropped -/
  agrees : ∀ store, run.replica = some store → ∀ id, ¬run.dropped id →
    poolById store id = run.cache.rfqPool id
  /-- what was dropped is gone from the cache -/
  dropped : ∀ id, run.dropped id → run.cache.rfqPool id = none
  /-- and the cache is not ready before its next update -/
  unready : ∀ id, run.dropped id → run.cache.isReady = false

theorem decodedCache_new (chainId : UInt64) :
    DecodedCache (BroadcasterSnapshotCache.new chainId [.rfq] : BroadcasterSnapshotCache Sim) :=
  { backends := rfl
    messages := by simp [BroadcasterSnapshotCache.new,
      BroadcasterSnapshotCache.newWithInitialGeneration, BroadcasterPartitionState.empty]
    ids := fun id entry hentry => by
      simp [BroadcasterSnapshotCache.rfqStates, BroadcasterSnapshotCache.new,
        BroadcasterSnapshotCache.newWithInitialGeneration, BroadcasterPartitionState.empty] at hentry }

/-- A disconnect empties a decoded cache. -/
theorem markStreamDisconnected_eq {cache : BroadcasterSnapshotCache Sim}
    (hcache : DecodedCache cache) : cache.markStreamDisconnected = cache.resetSameGeneration := by
  rw [BroadcasterSnapshotCache.markStreamDisconnected, hcache.backends]
  rfl

theorem rfqStates_resetSameGeneration (cache : BroadcasterSnapshotCache Sim) :
    cache.resetSameGeneration.rfqStates = ∅ := by
  simp [BroadcasterSnapshotCache.rfqStates, BroadcasterSnapshotCache.resetSameGeneration,
    BroadcasterPartitionState.empty]

/-- What the update mentions no longer depends on what was there before. -/
theorem poolAfter_eq_of_mentioned {cache cache' : BroadcasterSnapshotCache Sim}
    {message : BroadcasterUpdateMessage Sim} {partition : BroadcasterUpdatePartition Sim}
    (hupdate : UpdatesTo cache cache' message partition) {update : TychoUpdate Sim}
    (hmentions : MentionsOf message update) {id : String}
    (h : update.newPairs.contains id ∨ update.removedPairs.contains id)
    (old old' : Option (PoolEntry Sim)) :
    (livePartitionUpdate partition).poolAfter id old =
      (livePartitionUpdate partition).poolAfter id old' := by
  have hpartitions := hupdate.partitions
  by_cases hremoved : (livePartitionUpdate partition).removedPairs.contains id
  · rw [Update.poolAfter, Update.poolAfter, if_pos hremoved, if_pos hremoved]
  obtain h | h := h
  · -- the new pair is announced with its state
    obtain ⟨p, hp, entry, hentry, rfl⟩ := (hmentions.newPairs id).mpr h
    rw [hpartitions, List.mem_singleton] at hp
    subst hp
    have hpair : (livePartitionUpdate p).newPairs[entry.componentId]?.isSome :=
      isSome_foldl_insert.mpr (.inr ⟨entry, hentry, rfl⟩)
    have hstate : (livePartitionUpdate p).states[entry.componentId]?.isSome :=
      isSome_foldl_insert.mpr (.inl (isSome_foldl_insert.mpr (.inr ⟨entry, hentry, rfl⟩)))
    obtain ⟨component, hcomponent⟩ := Option.isSome_iff_exists.mp hpair
    obtain ⟨state, hstate⟩ := Option.isSome_iff_exists.mp hstate
    have hkind : (ProtocolKind.fromComponent component).isSome := by
      obtain hempty | ⟨e, he, -, rfl⟩ := exists_mem_of_foldl_insert hcomponent
      · simp at hempty
      · exact isSome_fromComponent (hupdate.placed.newPairs e he)
    obtain ⟨kind, hkind⟩ := Option.isSome_iff_exists.mp hkind
    have hannounced : (livePartitionUpdate p).announcedPool entry.componentId =
        some ⟨state, component⟩ := by
      simp [Update.announcedPool, hcomponent, hkind, hstate]
    rw [Update.poolAfter, Update.poolAfter, hannounced]
  · obtain ⟨p, hp, removed, hin, rfl⟩ := (hmentions.removedPairs id).mpr h
    rw [hpartitions, List.mem_singleton] at hp
    subst hp
    refine absurd ?_ hremoved
    rw [Std.ExtTreeMap.contains_eq_isSome_getElem?]
    exact isSome_foldl_insert.mpr (.inr ⟨removed, hin, rfl⟩)

section Runs

variable {serialisedLen : SerialisedLen Sim} {merge : StateSyncMerge} {decoder : UpdateDecoder Sim}
  {chainId : UInt64} {run run' : ReplicaRun Sim}

theorem replicaInvariant_init {allowed : (String → Prop) → TychoUpdate Sim → Prop}
    (h : (replicaMachine serialisedLen merge decoder chainId allowed).init run) :
    ReplicaInvariant run := by
  obtain rfl := h
  exact { cache := decodedCache_new chainId
          shards := fun _ hstore => absurd hstore.symm (Option.some_ne_none _)
          agrees := fun _ hstore => absurd hstore.symm (Option.some_ne_none _)
          dropped := fun _ hdropped => hdropped.elim
          unready := fun _ hdropped => hdropped.elim }

/-- **One step** of a run whose updates remember what was dropped. -/
theorem ReplicaInvariant.step (h : ReplicaInvariant run)
    (hstep : ReplicaStep serialisedLen merge decoder Remembers run run') :
    ReplicaInvariant run' := by
  cases hstep with
  | update update message stateVersion cache replica hremembers hcommit hfollow =>
    obtain ⟨hmentions, partition, hupdate⟩ := applyUpdate_updatesTo h.cache hcommit
    obtain ⟨known, decoded', hpartition, hstates⟩ := hupdate.states
    have hcached : ∀ id, cache.rfqPool id =
        (livePartitionUpdate partition).poolAfter id (run.cache.rfqPool id) := by
      intro id
      rw [BroadcasterSnapshotCache.rfqPool, hstates]
      exact partition_agrees hupdate.placed hpartition id
    have hreplica : ∀ store', replica = some store' → ∃ store, run.replica = some store ∧
        store'.ShardsComplete ∧ ∀ id, poolById store' id =
          (livePartitionUpdate partition).poolAfter id (poolById store id) := by
      intro store' hstore'
      cases hold : run.replica with
      | none =>
        rw [hold] at hfollow
        rw [hstore'] at hfollow
        cases hfollow
      | some store =>
        rw [hold] at hfollow
        obtain ⟨store'', heq, hexec⟩ := hfollow
        rw [hstore', Option.some.injEq] at heq
        subst heq
        exact ⟨store, rfl, applyLiveUpdate_pools hupdate (h.shards store hold) hexec⟩
    refine { cache := hupdate.decoded, shards := ?_, agrees := ?_
             dropped := fun _ hdropped => hdropped.elim
             unready := fun _ hdropped => hdropped.elim }
    · intro store' hstore'
      obtain ⟨store, -, hshards, -⟩ := hreplica store' hstore'
      exact hshards
    · intro store' hstore' id _
      obtain ⟨store, hstore, -, hpools⟩ := hreplica store' hstore'
      rw [hpools, hcached]
      -- a pool that was dropped is mentioned by the update; the others agreed before it
      by_cases hdropped : run.dropped id
      · exact poolAfter_eq_of_mentioned hupdate hmentions (hremembers id hdropped) _ _
      · rw [h.agrees store hstore id hdropped]
  | disconnect =>
    -- the cache forgets every pool, while the replica keeps them until it boots again
    have hempty : ∀ id, (run.cache.markStreamDisconnected).rfqPool id = none := by
      intro id
      rw [markStreamDisconnected_eq h.cache, BroadcasterSnapshotCache.rfqPool,
        rfqStates_resetSameGeneration]
      simp
    refine { cache := ?_, shards := h.shards, agrees := ?_, dropped := fun id _ => hempty id
             unready := ?_ }
    · rw [markStreamDisconnected_eq h.cache]
      refine { backends := h.cache.backends, messages := ?_, ids := ?_ }
      · simp [BroadcasterSnapshotCache.resetSameGeneration, BroadcasterPartitionState.empty]
      · intro id entry hentry
        rw [rfqStates_resetSameGeneration] at hentry
        simp at hentry
    · intro store hstore id hnot
      rw [not_or] at hnot
      rw [hempty, h.agrees store hstore id hnot.1]
      exact Option.not_isSome_iff_eq_none.mp hnot.2
    · intro id _
      rw [markStreamDisconnected_eq h.cache, BroadcasterSnapshotCache.isReady]
      change (run.cache.configuredBackends.all _) = false
      rw [h.cache.backends]
      simp [BroadcasterSnapshotCache.resetSameGeneration]
  | boot maxPayloadBytes exported tokens wrappedNativeToken stateVersion store hexport hboot =>
    obtain ⟨hshards, hpools⟩ := bootstrapDecoded_pools h.cache hexport hboot
    refine { cache := h.cache, shards := ?_, agrees := ?_
             dropped := fun _ hdropped => hdropped.elim
             unready := fun _ hdropped => hdropped.elim }
    · intro store' hstore'
      obtain rfl := Option.some.inj hstore'
      exact hshards
    · intro store' hstore' id _
      obtain rfl := Option.some.inj hstore'
      exact hpools id

/-- The condition is the right one: a component that was dropped, and that the next update does not
mention, stays with the consumer. -/
theorem forgotten_component_stays (h : ReplicaInvariant run) {store store' : PublishedStateStore Sim}
    (hstore : run.replica = some store) {update : TychoUpdate Sim}
    {message : BroadcasterUpdateMessage Sim} {stateVersion : UInt64}
    {cache : BroadcasterSnapshotCache Sim}
    (hcommit : run.cache.applyUpdate merge update = .ok (cache, message))
    (hexec : exec (applyLiveUpdate decoder .rfq message (some stateVersion)) store =
      (.ok (), store'))
    {id : String} (hdropped : run.dropped id) (hheld : (poolById store id).isSome)
    (hforgot : ¬(update.newPairs.contains id ∨ update.removedPairs.contains id)) :
    (poolById store' id).isSome ∧ cache.rfqPool id = none := by
  obtain ⟨hmentions, partition, hupdate⟩ := applyUpdate_updatesTo h.cache hcommit
  obtain ⟨known, decoded', hpartition, hstates⟩ := hupdate.states
  obtain ⟨-, hpools⟩ := applyLiveUpdate_pools hupdate (h.shards store hstore) hexec
  have hin : partition ∈ message.partitions := hupdate.partitions ▸ List.mem_singleton_self _
  -- the update neither announces nor removes the pool, so it only restates it
  have hpair : (livePartitionUpdate partition).newPairs[id]? = none := by
    rw [← Option.not_isSome_iff_eq_none]
    intro hsome
    obtain hempty | ⟨entry, hentry, hid⟩ := isSome_foldl_insert.mp hsome
    · simp at hempty
    · exact hforgot (.inl ((hmentions.newPairs id).mp ⟨partition, hin, entry, hentry, hid⟩))
  have hkept : ¬(livePartitionUpdate partition).removedPairs.contains id := by
    rw [Std.ExtTreeMap.contains_eq_isSome_getElem?]
    intro hsome
    obtain hempty | ⟨removed, hremoved, hid⟩ := isSome_foldl_insert.mp hsome
    · simp at hempty
    · exact hforgot (.inr ((hmentions.removedPairs id).mp ⟨partition, hin, removed, hremoved, hid⟩))
  have hafter : ∀ old, (livePartitionUpdate partition).poolAfter id old =
      announceOrRestate none (livePartitionUpdate partition).states[id]? old := by
    intro old
    rw [poolAfter_eq (by rw [hpair]; nofun) (by rw [hpair]; nofun), if_neg hkept, hpair]
  have hisSome : ∀ (state : Option Sim) (old : Option (PoolEntry Sim)),
      (announceOrRestate none state old).isSome = old.isSome := by
    intro state old
    cases state <;> cases old <;> rfl
  refine ⟨?_, ?_⟩
  · rw [hpools, hafter, hisSome]
    exact hheld
  · rw [BroadcasterSnapshotCache.rfqPool, hstates, partition_agrees hupdate.placed hpartition,
      hafter, ← Option.not_isSome_iff_eq_none, hisSome]
    have hnone : run.cache.rfqStates[id]?.map (·.pool) = none := h.dropped id hdropped
    rw [hnone]
    exact Bool.false_ne_true

/-- **A replica follows a decoded cache** along every run in which the first update after a
disconnect announces or removes every component that the disconnect dropped. -/
theorem replica_follows (serialisedLen : SerialisedLen Sim) (merge : StateSyncMerge)
    (decoder : UpdateDecoder Sim) (chainId : UInt64) (run : ReplicaRun Sim)
    (h : (replicaMachine serialisedLen merge decoder chainId Remembers).Reachable run) :
    run.Agrees := by
  have hrun : ReplicaInvariant run :=
    h.invariant (fun _ => replicaInvariant_init) fun _ _ hs hstep => hs.step hstep
  intro hready store hstore id
  refine hrun.agrees store hstore id fun hdropped => ?_
  rw [hrun.unready id hdropped] at hready
  cases hready

end Runs

/-- A decoder for consumers that get decoded updates only. -/
def idleDecoder : UpdateDecoder Unit where
  merge _ incoming := incoming
  decodeProtocolMessages _ := .ok none

/-- Payloads that are all far below the cap. -/
def shortLen : SerialisedLen Unit := fun _ => .ok 400

/-- An update that announces another pool, and perhaps the first one again. -/
def announceOther (again : Bool) : TychoUpdate Unit :=
  let newPairs := (∅ : FinMap String ProtocolComponent).insert "other" hashflowPool
  let states := (∅ : FinMap String Unit).insert "other" ()
  { blockNumberOrTimestamp := 2
    newPairs := if again then newPairs.insert "pool" hashflowPool else newPairs
    states := if again then states.insert "pool" () else states
    removedPairs := ∅
    syncStates := ∅ }

/-- The states of a run: a pool is announced, a consumer boots, the upstream connection is lost, and
the first update after it announces another pool. -/
structure ReconnectRun (again : Bool) where
  cache : BroadcasterSnapshotCache Unit
  announced : BroadcasterUpdateMessage Unit
  commit : BroadcasterSnapshotCache.applyUpdate keepIncoming (.new 1 [.rfq]) (announcePool ∅) =
    .ok (cache, announced)
  exported : BroadcasterSnapshotExport Unit
  pinned : cache.exportSnapshotSource shortLen cache.snapshotSource 1000 = .ok exported
  store : PublishedStateStore Unit
  booted : bootstrapDecoded .rfq ∅ none 0 exported.payloads = .ok store
  cache' : BroadcasterSnapshotCache Unit
  message : BroadcasterUpdateMessage Unit
  recommit : cache.markStreamDisconnected.applyUpdate keepIncoming (announceOther again) =
    .ok (cache', message)
  store' : PublishedStateStore Unit
  followed : exec (applyLiveUpdate idleDecoder .rfq message (some 1)) store = (.ok (), store')
  ready : cache'.isReady = true

/-- The run exists. -/
def reconnectRun (again : Bool) : ReconnectRun again :=
  match again with
  | true => ⟨_, _, rfl, _, rfl, _, rfl, _, _, rfl, _, rfl, rfl⟩
  | false => ⟨_, _, rfl, _, rfl, _, rfl, _, _, rfl, _, rfl, rfl⟩

/-- The last state of the run. -/
def ReconnectRun.last {again : Bool} (r : ReconnectRun again) : ReplicaRun Unit :=
  { cache := r.cache', replica := some r.store', dropped := fun _ => False }

theorem ReconnectRun.reachable {again : Bool} (r : ReconnectRun again)
    {allowed : (String → Prop) → TychoUpdate Unit → Prop}
    (hfirst : allowed (fun _ => False) (announcePool ∅))
    (hsecond : allowed (fun id => False ∨ (r.cache.rfqPool id).isSome) (announceOther again)) :
    (replicaMachine shortLen keepIncoming idleDecoder 1 allowed).Reachable r.last := by
  refine ⟨_, rfl, ?_⟩
  refine .tail (.tail (.tail (.tail .refl
    (.update _ r.announced 0 r.cache none hfirst r.commit rfl))
    (.boot 1000 r.exported ∅ none 0 r.store r.pinned r.booted)) .disconnect) ?_
  exact .update _ r.message 1 r.cache' _ hsecond r.recommit ⟨r.store', rfl, r.followed⟩

/-- When the pool is announced again, the consumer holds what the cache holds. -/
theorem replica_follows_reannounced : ∃ run : ReplicaRun Unit,
    (replicaMachine shortLen keepIncoming idleDecoder 1 Remembers).Reachable run ∧
      run.cache.isReady = true ∧ run.replica.isSome ∧ run.Agrees := by
  let r := reconnectRun true
  have hreachable : (replicaMachine shortLen keepIncoming idleDecoder 1 Remembers).Reachable
      r.last := by
    refine r.reachable (fun _ hdropped => hdropped.elim) ?_
    intro id hdropped
    obtain hfalse | hpool := hdropped
    · exact hfalse.elim
    · have hid : id = "pool" := by
        by_contra hne
        have hnone : r.cache.rfqPool id = none := by
          change Option.map _ ((∅ : FinMap String (BroadcasterStateEntry Unit)).insert "pool"
            ⟨"pool", hashflowPool, ()⟩)[id]? = none
          rw [Std.ExtTreeMap.getElem?_insert, if_neg fun heq =>
            hne (Std.LawfulEqCmp.eq_of_compare heq).symm]
          simp
        rw [hnone] at hpool
        cases hpool
      subst hid
      exact .inl (by decide)
  exact ⟨r.last, hreachable, r.ready, rfl,
    replica_follows shortLen keepIncoming idleDecoder 1 _ hreachable⟩

/-- **A disconnect is not visible to consumers**: the pool is not announced again, the cache is ready
without it, and the consumer keeps it. -/
theorem replica_keeps_dropped_pool : ∃ run : ReplicaRun Unit,
    (replicaMachine shortLen keepIncoming idleDecoder 1 fun _ _ => True).Reachable run ∧
      ¬run.Agrees := by
  let r := reconnectRun false
  refine ⟨r.last, r.reachable trivial trivial, ?_⟩
  intro hagrees
  have hpool := hagrees r.ready r.store' rfl "pool"
  have hkept : (poolById r.store' "pool").isSome = true := by rfl
  have hgone : r.last.cache.rfqPool "pool" = none := by rfl
  rw [hpool, hgone] at hkept
  cases hkept

end TychoSimulationServer
