import TychoSimulationServer.Contract
import TychoSimulationServer.MapFold

/-!
# Redis stream entries

A published envelope is one entry of a Redis stream: the serialised envelope together with some
metadata derived from it, every field written as text. The publisher derives the metadata from the
envelope; the reader parses the fields and derives the metadata again, from the payload, to compare.

The two derivations are separate code. `Describes` says what metadata an envelope has, and both
sides meet there: an entry that passes `validate` describes the envelope in its payload
(`validate_spec`), and an entry that passes `validate` survives the way through the fields
(`redisStreamMessage_entryFieldMap`).

Turning an envelope into JSON and back is serde's and a parameter here.
-/

namespace TychoSimulationServer

open Fallible

variable {Sim : Type}

/-! ## Numbers as text -/

/-- `u64::to_string`. -/
def u64ToString (value : UInt64) : String := value.toNat.repr

/-- The digits of a number as `str::parse` reads it, without a leading plus. -/
def unsignedDigits (text : String) : List Char :=
  match text.toList with
  | '+' :: digits => digits
  | digits => digits

/-- `str::parse::<u64>`. -/
def parseU64 (text : String) : Option UInt64 :=
  let digits := unsignedDigits text
  let value := Nat.ofDigitChars 10 digits 0
  if digits ≠ [] ∧ digits.all Char.isDigit ∧ value < 2 ^ 64 then some (.ofNat value) else none

theorem unsignedDigits_repr (n : Nat) : unsignedDigits n.repr = Nat.toDigits 10 n := by
  unfold unsignedDigits
  rw [Nat.toList_repr]
  split
  case h_1 digits hdigits =>
    have hplus : '+' ∈ Nat.toDigits 10 n := by simp [hdigits]
    have hdigit := Nat.isDigit_of_mem_toDigits (by decide) (by decide) hplus
    exact absurd hdigit (by decide)
  case h_2 => rfl

/-- **Numbers survive as text.** -/
theorem parseU64_u64ToString (value : UInt64) : parseU64 (u64ToString value) = some value := by
  unfold parseU64 u64ToString
  dsimp only
  rw [unsignedDigits_repr, Nat.ofDigitChars_ten_toDigits]
  have hdigits : (Nat.toDigits 10 value.toNat).all Char.isDigit = true := by
    rw [List.all_eq_true]
    exact fun c hc => Nat.isDigit_of_mem_toDigits (by decide) (by decide) hc
  rw [if_pos ⟨Nat.toDigits_ne_nil, hdigits, value.toNat_lt⟩, UInt64.ofNat_toNat]

/-! ## Entries -/

/-- `BroadcasterRedisStreamEntry`. -/
structure BroadcasterRedisStreamEntry where
  schemaVersion : String
  chainId : UInt64
  streamId : String
  messageSeq : UInt64
  stateVersion : UInt64
  kind : BroadcasterMessageKind
  snapshotId : Option String
  backendScope : String
  blockNumber : Option UInt64
  observedTimestampMs : Option UInt64
  publishedAtMs : UInt64
  payloadJson : String
deriving DecidableEq, Repr

/-- `REDIS_STREAM_SCHEMA_VERSION`. -/
def redisStreamSchemaVersion : String := "1"

/-- How serde writes and reads an envelope. -/
structure EnvelopeJson (Sim : Type) where
  toString : BroadcasterEnvelope Sim → Except String String
  fromStr : String → Except String (BroadcasterEnvelope Sim)

/-- serde reads the envelope back from what it wrote. It does not of every envelope: the readers of
the lists sort them and refuse what is listed twice. -/
def EnvelopeJson.ReadsBack (json : EnvelopeJson Sim) (envelope : BroadcasterEnvelope Sim) : Prop :=
  ∀ text, json.toString envelope = .ok text → json.fromStr text = .ok envelope

/-- A table of texts as a codec. -/
def EnvelopeJson.ofTable [DecidableEq (BroadcasterEnvelope Sim)]
    (table : List (BroadcasterEnvelope Sim × String)) : EnvelopeJson Sim where
  toString envelope :=
    match table.lookup envelope with
    | some text => .ok text
    | none => .error "not in this sample"
  fromStr text :=
    match (table.map Prod.swap).lookup text with
    | some envelope => .ok envelope
    | none => .error "not in this sample"

/-- A table whose second column has no repetition can be read backwards. -/
theorem lookup_swap {α β : Type} [DecidableEq α] [DecidableEq β] {table : List (α × β)} {a : α}
    {b : β} (hnodup : (table.map (·.2)).Nodup) (h : table.lookup a = some b) :
    (table.map Prod.swap).lookup b = some a := by
  induction table with
  | nil => cases h
  | cons row table ih =>
    obtain ⟨a', b'⟩ := row
    rw [List.map_cons, List.nodup_cons] at hnodup
    rw [List.lookup_cons] at h
    change ((b', a') :: table.map Prod.swap).lookup b = some a
    rw [List.lookup_cons]
    by_cases ha : a = a'
    · rw [beq_iff_eq.mpr ha] at h
      obtain rfl : b' = b := Option.some.inj h
      rw [beq_self_eq_true, ha]
    · rw [beq_eq_false_iff_ne.mpr ha] at h
      change table.lookup a = some b at h
      obtain ⟨before, after, htable, -⟩ := List.lookup_eq_some_iff.mp h
      have hmem : b ∈ table.map (·.2) := by
        rw [htable]
        simp
      have hother : b ≠ b' := by
        rintro rfl
        exact hnodup.1 hmem
      rw [beq_eq_false_iff_ne.mpr hother]
      exact ih hnodup.2 h

theorem readsBack_ofTable [DecidableEq (BroadcasterEnvelope Sim)]
    {table : List (BroadcasterEnvelope Sim × String)} (hnodup : (table.map (·.2)).Nodup)
    (envelope : BroadcasterEnvelope Sim) : (EnvelopeJson.ofTable table).ReadsBack envelope := by
  intro text h
  rw [EnvelopeJson.ofTable] at h ⊢
  dsimp only at h ⊢
  cases hlookup : table.lookup envelope with
  | none =>
    rw [hlookup] at h
    cases h
  | some found =>
    rw [hlookup, Except.ok.injEq] at h
    subst h
    rw [lookup_swap hnodup hlookup]

/-- What a table writes is in it. -/
theorem mem_of_toString_ofTable [DecidableEq (BroadcasterEnvelope Sim)]
    {table : List (BroadcasterEnvelope Sim × String)} {envelope : BroadcasterEnvelope Sim}
    {text : String} (h : (EnvelopeJson.ofTable table).toString envelope = .ok text) :
    (envelope, text) ∈ table := by
  rw [EnvelopeJson.ofTable] at h
  dsimp only at h
  cases hlookup : table.lookup envelope with
  | none =>
    rw [hlookup] at h
    cases h
  | some found =>
    rw [hlookup, Except.ok.injEq] at h
    obtain ⟨before, after, rfl, -⟩ := List.lookup_eq_some_iff.mp hlookup
    rw [h]
    simp

/-- A table without repetition writes what its rows say. -/
theorem toString_ofTable [DecidableEq (BroadcasterEnvelope Sim)]
    {table : List (BroadcasterEnvelope Sim × String)} (hnodup : (table.map (·.1)).Nodup)
    {row : BroadcasterEnvelope Sim × String} (h : row ∈ table) :
    (EnvelopeJson.ofTable table).toString row.1 = .ok row.2 := by
  have hlookup : table.lookup row.1 = some row.2 := by
    obtain ⟨before, after, rfl⟩ := List.append_of_mem h
    refine List.lookup_eq_some_iff.mpr ⟨before, after, rfl, fun other hother => ?_⟩
    rw [List.map_append, List.nodup_append] at hnodup
    rw [bne_iff_ne]
    intro heq
    exact hnodup.2.2 other.1 (List.mem_map_of_mem hother) row.1 List.mem_cons_self heq.symm
  rw [EnvelopeJson.ofTable]
  dsimp only
  rw [hlookup]

/-- `required_redis_field`. -/
def requiredRedisField (field value : String) : Except BroadcasterContractError String := do
  ensure (rustTrim value ≠ "") (.redisEntryEmptyField field)
  return value

/-- `ensure_redis_delta_kind`. -/
def ensureRedisDeltaKind (kind : BroadcasterMessageKind) : Except BroadcasterContractError Unit :=
  match kind with
  | .recoveryStart | .recoveryChunk | .recoveryCatchUp | .recoveryCommit | .update | .heartbeat
  | .progress => .ok ()
  | .snapshotStart | .snapshotChunk | .snapshotEnd =>
    .error (.redisSnapshotPayloadUnsupported kind)

/-- `redis_entry_requires_snapshot_id`. -/
def redisEntryRequiresSnapshotId (kind : BroadcasterMessageKind) : Bool :=
  kind = .heartbeat || kind = .progress

/-! ## Backend scopes

The backends of a payload are written in order, between commas. The reader refuses a scope that
names one twice or none at all. -/

/-- `redis_backend_scope`: the backends in order, without repetition. -/
def redisBackendScope (backends : List BroadcasterBackend) :
    Except BroadcasterContractError String := do
  ensure (backends ≠ []) (.redisEntryEmptyField "backend_scope")
  validateUniqueBackendEntries "redis_entry.backend_scope" backends
  let unique := BroadcasterBackend.all.filter (backends.contains ·)
  return ",".intercalate (unique.map (·.asStr))

/-- `parse_redis_backend`. -/
def parseRedisBackend (value : String) : Except BroadcasterContractError BroadcasterBackend :=
  match value with
  | "native" => .ok .native
  | "vm" => .ok .vm
  | "rfq" => .ok .rfq
  | _ => .error (.redisBackendScopeInvalid value)

/-- `str::split(',')`. -/
def splitCommas (text : String) : List String :=
  (text.toList.splitOn ',').map String.ofList

/-- The loop of `parse_redis_backend_scope`. -/
def parseBackends (backends : List BroadcasterBackend) :
    List String → Except BroadcasterContractError (List BroadcasterBackend)
  | [] => .ok backends
  | value :: rest => do
    let backend ← parseRedisBackend value
    ensure (backend ∉ backends)
      (.duplicateBackendEntry "redis_entry.backend_scope" backend)
    parseBackends (backends ++ [backend]) rest

/-- `parse_redis_backend_scope`. -/
def parseRedisBackendScope (backendScope : String) :
    Except BroadcasterContractError (List BroadcasterBackend) := do
  let _ ← requiredRedisField "backend_scope" backendScope
  let backends ← parseBackends [] (splitCommas backendScope)
  let expected ← redisBackendScope backends
  ensure (backendScope = expected) (.redisBackendScopeInvalid backendScope)
  return backends

/-- A scope that parses is the scope of the backends it parses to. -/
theorem parseRedisBackendScope_spec {scope : String} {backends : List BroadcasterBackend}
    (h : parseRedisBackendScope scope = .ok backends) :
    redisBackendScope backends = .ok scope ∧ rustTrim scope ≠ "" := by
  obtain ⟨field, hfield, h⟩ := bind_eq_ok.mp h
  obtain ⟨parsed, -, h⟩ := bind_eq_ok.mp h
  obtain ⟨expected, hexpected, h⟩ := bind_eq_ok.mp h
  rw [check_bind_eq_ok, ensure_eq_ok, pure_eq_ok] at h
  obtain ⟨rfl, rfl⟩ := h
  rw [requiredRedisField, check_bind_eq_ok, ensure_eq_ok] at hfield
  exact ⟨hexpected, hfield.1⟩

/-! ## Metadata of a payload

The metadata is read off the payload. A block number stands for the chain's own backends and only if
they agree on it; the RFQ backend has a timestamp in its place. -/

/-- `redis_update_backend_scope`. -/
def redisUpdateBackendScope (partitions : List (BroadcasterUpdatePartition Sim)) :
    Except BroadcasterContractError (Option (List BroadcasterBackend)) :=
  let backends := partitions.map (·.backend)
  if backends = [] then .ok (some backends)
  else do
    let scope ← redisBackendScope backends
    let parsed ← parseRedisBackendScope scope
    return some parsed

/-- `redis_payload_backend_scope`. -/
def redisPayloadBackendScope :
    BroadcasterPayload Sim → Except BroadcasterContractError (Option (List BroadcasterBackend))
  | .update update => redisUpdateBackendScope update.partitions
  | .recoveryStart start => do
    validateRecoveryManifest start.manifest
    return some start.manifest.backends
  | .recoveryChunk chunk => do
    validateRecoveryChunk chunk
    return some chunk.backends
  | .recoveryCatchUp catchUp => do
    validateRecoveryCatchUp catchUp
    redisUpdateBackendScope catchUp.update.partitions
  | .recoveryCommit commit => do
    validateRecoveryCommit commit
    return some commit.backends
  | .heartbeat heartbeat => .ok (some (heartbeat.backendHeads.map (·.backend)))
  | .progress progress => .ok (some progress.backends)
  | .snapshotStart _ | .snapshotChunk _ | .snapshotEnd _ => .ok none

/-- The block numbers of an update on the chain's own backends. -/
def chainBlockNumbers (partitions : List (BroadcasterUpdatePartition Sim)) : List UInt64 :=
  (partitions.filter fun partition => partition.backend = .native || partition.backend = .vm).map
    (·.blockNumber)

/-- `redis_payload_chain_block_numbers`. -/
def redisPayloadChainBlockNumbers : BroadcasterPayload Sim → List UInt64
  | .update update => chainBlockNumbers update.partitions
  | .recoveryCatchUp catchUp => chainBlockNumbers catchUp.update.partitions
  | _ => []

/-- `redis_payload_global_block_number`. -/
def redisPayloadGlobalBlockNumber : List UInt64 → Option UInt64
  | [] => none
  | first :: remaining => if remaining.all (· = first) then some first else none

/-- `redis_entry_block_number`. -/
def redisEntryBlockNumber (payload : BroadcasterPayload Sim) : Option UInt64 :=
  redisPayloadGlobalBlockNumber (redisPayloadChainBlockNumbers payload)

/-- The timestamp of an update: the number of its RFQ partition. -/
def rfqTimestamp (partitions : List (BroadcasterUpdatePartition Sim)) : Option UInt64 :=
  (partitions.find? (·.backend = .rfq)).map (·.blockNumber)

/-- `redis_entry_observed_timestamp_ms`. -/
def redisEntryObservedTimestampMs : BroadcasterPayload Sim → Option UInt64
  | .update update => rfqTimestamp update.partitions
  | .recoveryCatchUp catchUp => rfqTimestamp catchUp.update.partitions
  | .heartbeat heartbeat =>
    (heartbeat.backendHeads.find? (·.backend = .rfq)).map (·.blockNumber)
  | _ => none

/-- `redis_payload_snapshot_id`. -/
def redisPayloadSnapshotId : BroadcasterPayload Sim → Option String
  | .heartbeat heartbeat => some heartbeat.snapshotId
  | .progress progress => some progress.snapshotId
  | _ => none

/-- `redis_payload_chain_id`. -/
def redisPayloadChainId : BroadcasterPayload Sim → Option UInt64
  | .heartbeat heartbeat => some heartbeat.chainId
  | .progress progress => some progress.chainId
  | _ => none

/-- The target version a recovery payload carries. -/
def redisPayloadTargetStateVersion : BroadcasterPayload Sim → Option UInt64
  | .recoveryStart start => some start.manifest.targetStateVersion
  | .recoveryChunk chunk => some chunk.targetStateVersion
  | .recoveryCatchUp catchUp => some catchUp.targetStateVersion
  | .recoveryCommit commit => some commit.targetStateVersion
  | _ => none

/-! ## Validation

The writer runs these checks on the entry it has made, and the reader on the entry it has read: the
metadata is derived from the payload again and compared. -/

/-- An optional number of the entry against the one of the payload. -/
def ensureOptionalMatch (field : String) (mismatch : UInt64 → UInt64 → BroadcasterContractError)
    (entryValue payloadValue : Option UInt64) : Except BroadcasterContractError Unit :=
  match entryValue, payloadValue with
  | some entryValue, some payloadValue =>
    ensure (entryValue = payloadValue) (mismatch entryValue payloadValue)
  | some _, none => .error (.redisEntryUnexpectedField field)
  | none, some _ => .error (.redisEntryEmptyField field)
  | none, none => .ok ()

/-- `ensure_redis_payload_block_number`. -/
def ensureRedisPayloadBlockNumber (entryBlockNumber : Option UInt64)
    (payload : BroadcasterPayload Sim) : Except BroadcasterContractError Unit :=
  ensureOptionalMatch "block_number" .redisBlockNumberMismatch entryBlockNumber
    (redisEntryBlockNumber payload)

/-- `ensure_redis_payload_observed_timestamp_ms`. -/
def ensureRedisPayloadObservedTimestampMs (entryObservedTimestampMs : Option UInt64)
    (payload : BroadcasterPayload Sim) : Except BroadcasterContractError Unit :=
  ensureOptionalMatch "observed_timestamp_ms" .redisObservedTimestampMismatch
    entryObservedTimestampMs (redisEntryObservedTimestampMs payload)

/-- `ensure_redis_snapshot_id`. -/
def ensureRedisSnapshotId (entrySnapshotId : Option String) (payloadSnapshotId : String) :
    Except BroadcasterContractError Unit :=
  match entrySnapshotId with
  | none => .error (.redisEntryMissingSnapshotId .snapshotStart)
  | some entrySnapshotId => ensureSnapshotId entrySnapshotId payloadSnapshotId

/-- `ensure_redis_backend_scope`. -/
def ensureRedisBackendScope (entryBackends payloadBackends : List BroadcasterBackend) :
    Except BroadcasterContractError Unit := do
  let entryScope ← redisBackendScope entryBackends
  let payloadScope := (redisBackendScope payloadBackends).toOption.getD ""
  ensure (entryScope = payloadScope) (.redisBackendScopeInvalid entryScope)

/-- `ensure_redis_payload_state_version`. -/
def ensureRedisPayloadStateVersion (stateVersion : UInt64) (payload : BroadcasterPayload Sim) :
    Except BroadcasterContractError Unit :=
  match redisPayloadTargetStateVersion payload with
  | none => .ok ()
  | some target =>
    ensure (target = stateVersion) (.redisPayloadJsonInvalid
      s!"Redis entry state_version {stateVersion} does not match recovery target {target}")

/-- A check that is made when the payload carries a value. -/
def whenCarried {α : Type} (value : Option α) (check : α → Except BroadcasterContractError Unit) :
    Except BroadcasterContractError Unit :=
  match value with
  | some value => check value
  | none => .ok ()

section

variable (json : EnvelopeJson Sim)

/-- `parse_redis_payload_json`. -/
def parseRedisPayloadJson (payloadJson : String) :
    Except BroadcasterContractError (BroadcasterEnvelope Sim) :=
  (json.fromStr payloadJson).mapError .redisPayloadJsonInvalid

/-- `validate_payload`. -/
def validatePayload (entry : BroadcasterRedisStreamEntry) (backends : List BroadcasterBackend) :
    Except BroadcasterContractError Unit := do
  let envelope ← parseRedisPayloadJson json entry.payloadJson
  ensureStreamId entry.streamId envelope.streamId
  ensureMessageSeq (some entry.messageSeq) envelope.messageSeq
  ensure (envelope.kind = entry.kind) (.redisPayloadKindMismatch entry.kind envelope.kind)
  whenCarried (redisPayloadSnapshotId envelope.payload) (ensureRedisSnapshotId entry.snapshotId)
  whenCarried (redisPayloadChainId envelope.payload) (ensureChainId entry.chainId)
  let payloadBackends ← redisPayloadBackendScope envelope.payload
  whenCarried payloadBackends (ensureRedisBackendScope backends)
  ensureRedisPayloadBlockNumber entry.blockNumber envelope.payload
  ensureRedisPayloadObservedTimestampMs entry.observedTimestampMs envelope.payload
  ensureRedisPayloadStateVersion entry.stateVersion envelope.payload

/-- `validate`. -/
def BroadcasterRedisStreamEntry.validate (entry : BroadcasterRedisStreamEntry) :
    Except BroadcasterContractError Unit := do
  ensure (entry.schemaVersion = redisStreamSchemaVersion)
    (.redisUnsupportedSchemaVersion entry.schemaVersion)
  let _ ← requiredRedisField "stream_id" entry.streamId
  let _ ← requiredRedisField "payload_json" entry.payloadJson
  ensure (entry.messageSeq ≠ 0) .redisMessageSequenceZero
  ensureRedisDeltaKind entry.kind
  let backends ← parseRedisBackendScope entry.backendScope
  whenCarried entry.snapshotId fun snapshotId => do
    let _ ← requiredRedisField "snapshot_id" snapshotId
  ensure (¬(entry.snapshotId = none ∧ redisEntryRequiresSnapshotId entry.kind))
    (.redisEntryMissingSnapshotId entry.kind)
  validatePayload json entry backends

/-- `from_envelope_at`. -/
def fromEnvelopeAt (chainId : UInt64) (envelope : BroadcasterEnvelope Sim)
    (publishedAtMs stateVersion : UInt64) :
    Except BroadcasterContractError BroadcasterRedisStreamEntry := do
  ensureRedisDeltaKind envelope.kind
  let backends ← redisPayloadBackendScope envelope.payload
  let payloadJson ← (json.toString envelope).mapError .redisPayloadJsonInvalid
  let streamId ← requiredRedisField "stream_id" envelope.streamId
  let backendScope ← redisBackendScope (backends.getD [])
  let entry : BroadcasterRedisStreamEntry :=
    { schemaVersion := redisStreamSchemaVersion, chainId, streamId
      messageSeq := envelope.messageSeq, stateVersion, kind := envelope.kind
      snapshotId := redisPayloadSnapshotId envelope.payload, backendScope
      blockNumber := redisEntryBlockNumber envelope.payload
      observedTimestampMs := redisEntryObservedTimestampMs envelope.payload
      publishedAtMs, payloadJson }
  entry.validate json
  return entry

end

/-! ## Fields

Redis keeps an entry as a list of texts. Absent fields are left out, numbers are written in
decimal. -/

/-- An optional field is left out when it is absent. -/
def optionalField (field : String) (value : Option String) : List (String × String) :=
  (value.map fun value => (field, value)).toList

/-- `redis_entry_fields`: every field serialises to a text. -/
def redisEntryFields (entry : BroadcasterRedisStreamEntry) : List (String × String) :=
  [("schema_version", entry.schemaVersion), ("chain_id", u64ToString entry.chainId),
      ("stream_id", entry.streamId), ("message_seq", u64ToString entry.messageSeq),
      ("state_version", u64ToString entry.stateVersion), ("kind", entry.kind.asStr)]
    ++ optionalField "snapshot_id" entry.snapshotId
    ++ [("backend_scope", entry.backendScope)]
    ++ optionalField "block_number" (entry.blockNumber.map u64ToString)
    ++ optionalField "observed_timestamp_ms" (entry.observedTimestampMs.map u64ToString)
    ++ [("published_at_ms", u64ToString entry.publishedAtMs), ("payload_json", entry.payloadJson)]

/-- The text after the last dash: `rsplit_once('-')`. -/
def afterLastDash (text : String) : Option String :=
  if '-' ∈ text.toList then
    some (String.ofList ((text.toList.reverse.takeWhile (· ≠ '-')).reverse))
  else none

/-- `redis_entry_id`. -/
def redisEntryId (entry : BroadcasterRedisStreamEntry) : Except String String :=
  match afterLastDash entry.streamId with
  | none => .error "Redis broadcaster stream_id is missing generation"
  | some generation =>
    match parseU64 generation with
    | none => .error s!"Redis broadcaster stream_id has invalid generation: {generation}"
    | some generation => .ok (u64ToString generation ++ "-" ++ u64ToString entry.messageSeq)

/-- Why a field map is not an entry. -/
inductive EntryDecodeError where
  | unknownField
  | missingField (field : String)
  | expectedU64String
  | expectedOptionalU64String
  | unknownVariant (text : String)
  | contract (error : BroadcasterContractError)
deriving DecidableEq, Repr

/-- The fields of `WireEntry`. -/
def wireEntryFields : List String :=
  ["schema_version", "chain_id", "stream_id", "message_seq", "state_version", "kind",
   "snapshot_id", "backend_scope", "block_number", "observed_timestamp_ms", "published_at_ms",
   "payload_json"]

/-- A field that has to be there. -/
def requireField (fields : FinMap String String) (field : String) :
    Except EntryDecodeError String :=
  match fields[field]? with
  | some value => .ok value
  | none => .error (.missingField field)

/-- `u64_string::deserialize`. -/
def requireU64 (fields : FinMap String String) (field : String) : Except EntryDecodeError UInt64 :=
  do
    let text ← requireField fields field
    match parseU64 text with
    | some value => .ok value
    | none => .error .expectedU64String

/-- `optional_u64_string::deserialize`, with its default. -/
def optionalU64 (fields : FinMap String String) (field : String) :
    Except EntryDecodeError (Option UInt64) :=
  match fields[field]? with
  | none => .ok none
  | some text =>
    match parseU64 text with
    | some value => .ok (some value)
    | none => .error .expectedOptionalU64String

/-- The kind of an entry. -/
def requireKind (fields : FinMap String String) :
    Except EntryDecodeError BroadcasterMessageKind := do
  let text ← requireField fields "kind"
  match BroadcasterMessageKind.fromStr text with
  | some kind => .ok kind
  | none => .error (.unknownVariant text)

section

variable (json : EnvelopeJson Sim)

/-- `WireEntry::deserialize`: the fields as they stand. -/
def deserializeWireEntry (fields : FinMap String String) :
    Except EntryDecodeError BroadcasterRedisStreamEntry := do
  ensure (∀ field ∈ fields.keys, field ∈ wireEntryFields) .unknownField
  let schemaVersion ← requireField fields "schema_version"
  let chainId ← requireU64 fields "chain_id"
  let streamId ← requireField fields "stream_id"
  let messageSeq ← requireU64 fields "message_seq"
  let stateVersion ← requireU64 fields "state_version"
  let kind ← requireKind fields
  let snapshotId := fields["snapshot_id"]?
  let backendScope ← requireField fields "backend_scope"
  let blockNumber ← optionalU64 fields "block_number"
  let observedTimestampMs ← optionalU64 fields "observed_timestamp_ms"
  let publishedAtMs ← requireU64 fields "published_at_ms"
  let payloadJson ← requireField fields "payload_json"
  return { schemaVersion, chainId, streamId, messageSeq, stateVersion, kind, snapshotId
           backendScope, blockNumber, observedTimestampMs, publishedAtMs, payloadJson }

/-- `BroadcasterRedisStreamEntry::deserialize`. -/
def deserializeEntry (fields : FinMap String String) :
    Except EntryDecodeError BroadcasterRedisStreamEntry := do
  let entry ← deserializeWireEntry fields
  (entry.validate json).mapError .contract
  return entry

/-- `RedisStreamMessage`. -/
structure RedisStreamMessage where
  entryId : String
  entry : BroadcasterRedisStreamEntry
deriving DecidableEq, Repr

/-- `redis_stream_message`. -/
def redisStreamMessage (entryId : String) (fields : FinMap String String) :
    Except EntryDecodeError RedisStreamMessage := do
  let entry ← deserializeEntry json fields
  return { entryId, entry }

end

/-! ## Both ways

The fields of an entry differ, so that the map made of them answers every field with what was
written. The parsers undo the printers one by one. -/

/-- The fields of an entry as a map. -/
def entryFieldMap (entry : BroadcasterRedisStreamEntry) : FinMap String String :=
  .ofList (redisEntryFields entry)

/-- An optional field is written when there is a value. -/
theorem mem_optionalField {field name text : String} {value : Option String} :
    (name, text) ∈ optionalField field value ↔ name = field ∧ value = some text := by
  cases value with
  | none => simp [optionalField]
  | some value =>
    simp only [optionalField, Option.map_some, Option.toList_some, List.mem_singleton,
      Prod.mk.injEq, Option.some.injEq]
    exact and_congr_right fun _ => eq_comm

theorem pairwise_redisEntryFields (entry : BroadcasterRedisStreamEntry) :
    (redisEntryFields entry).Pairwise fun a b => a.1 ≠ b.1 := by
  -- only the names matter, and which of the optional ones are there
  rw [← List.pairwise_map]
  unfold redisEntryFields optionalField
  cases entry.blockNumber <;> cases entry.observedTimestampMs <;> cases entry.snapshotId <;>
    simp

/-- What a map of an entry's fields holds. -/
theorem getElem?_entryFieldMap {entry : BroadcasterRedisStreamEntry} {field : String}
    {value : Option String} (h : ∀ text, (field, text) ∈ redisEntryFields entry ↔ value = some text) :
    (entryFieldMap entry)[field]? = value := by
  refine Option.ext fun text => ?_
  exact (MapFold.getElem?_ofList_eq_some (pairwise_redisEntryFields entry)).trans (h text)

/-- Only fields of `WireEntry` are written. -/
theorem field_mem_wireEntryFields {entry : BroadcasterRedisStreamEntry} {field text : String}
    (h : (field, text) ∈ redisEntryFields entry) : field ∈ wireEntryFields := by
  simp only [redisEntryFields, List.mem_append, List.mem_cons, Prod.mk.injEq, List.not_mem_nil,
    or_false, mem_optionalField] at h
  rcases h with
    (((((⟨rfl, -⟩ | ⟨rfl, -⟩ | ⟨rfl, -⟩ | ⟨rfl, -⟩ | ⟨rfl, -⟩ | ⟨rfl, -⟩) | ⟨rfl, -⟩) | ⟨rfl, -⟩) |
      ⟨rfl, -⟩) | ⟨rfl, -⟩) | ⟨rfl, -⟩ | ⟨rfl, -⟩ <;> simp [wireEntryFields]

/-- A field is found when it is in the map. -/
theorem requireField_eq_ok {fields : FinMap String String} {field text : String} :
    requireField fields field = .ok text ↔ fields[field]? = some text := by
  unfold requireField
  split
  case h_1 value hvalue => rw [hvalue, Except.ok.injEq, Option.some.injEq]
  case h_2 hnone => simp [hnone]

theorem requireU64_of_text {fields : FinMap String String} {field : String} {value : UInt64}
    (h : fields[field]? = some (u64ToString value)) : requireU64 fields field = .ok value := by
  unfold requireU64
  rw [requireField_eq_ok.mpr h]
  simp only [bind, Except.bind, parseU64_u64ToString]

theorem optionalU64_of_text {fields : FinMap String String} {field : String}
    {value : Option UInt64} (h : fields[field]? = value.map u64ToString) :
    optionalU64 fields field = .ok value := by
  unfold optionalU64
  rw [h]
  cases value with
  | none => rfl
  | some value => simp only [Option.map_some, parseU64_u64ToString]

theorem requireKind_of_text {fields : FinMap String String} {kind : BroadcasterMessageKind}
    (h : fields["kind"]? = some kind.asStr) : requireKind fields = .ok kind := by
  unfold requireKind
  rw [requireField_eq_ok.mpr h]
  simp only [bind, Except.bind, BroadcasterMessageKind.fromStr_asStr]

/-- **The fields of an entry** are read as that entry. -/
theorem deserializeWireEntry_entryFieldMap (entry : BroadcasterRedisStreamEntry) :
    deserializeWireEntry (entryFieldMap entry) = .ok entry := by
  have hknown : ∀ field ∈ (entryFieldMap entry).keys, field ∈ wireEntryFields := by
    intro field hkey
    rw [Std.ExtTreeMap.mem_keys, Std.ExtTreeMap.mem_iff_isSome_getElem?] at hkey
    obtain ⟨text, htext⟩ := Option.isSome_iff_exists.mp hkey
    exact field_mem_wireEntryFields
      ((MapFold.getElem?_ofList_eq_some (pairwise_redisEntryFields entry)).mp htext)
  -- every field is looked up in the map and found as it was written
  have hfield : ∀ (field : String) (value : Option String),
      (∀ text, (field, text) ∈ redisEntryFields entry ↔ value = some text) →
      (entryFieldMap entry)[field]? = value := fun _ _ => getElem?_entryFieldMap
  have hschema := hfield "schema_version" (some entry.schemaVersion)
    (by simp [redisEntryFields, mem_optionalField, eq_comm])
  have hchain := hfield "chain_id" (some (u64ToString entry.chainId))
    (by simp [redisEntryFields, mem_optionalField, eq_comm])
  have hstream := hfield "stream_id" (some entry.streamId)
    (by simp [redisEntryFields, mem_optionalField, eq_comm])
  have hseq := hfield "message_seq" (some (u64ToString entry.messageSeq))
    (by simp [redisEntryFields, mem_optionalField, eq_comm])
  have hversion := hfield "state_version" (some (u64ToString entry.stateVersion))
    (by simp [redisEntryFields, mem_optionalField, eq_comm])
  have hkind := hfield "kind" (some entry.kind.asStr)
    (by simp [redisEntryFields, mem_optionalField, eq_comm])
  have hsnapshot := hfield "snapshot_id" entry.snapshotId
    (by simp [redisEntryFields, mem_optionalField])
  have hscope := hfield "backend_scope" (some entry.backendScope)
    (by simp [redisEntryFields, mem_optionalField, eq_comm])
  have hblock := hfield "block_number" (entry.blockNumber.map u64ToString)
    (by simp [redisEntryFields, mem_optionalField])
  have hobserved := hfield "observed_timestamp_ms" (entry.observedTimestampMs.map u64ToString)
    (by simp [redisEntryFields, mem_optionalField])
  have hpublished := hfield "published_at_ms" (some (u64ToString entry.publishedAtMs))
    (by simp [redisEntryFields, mem_optionalField, eq_comm])
  have hpayload := hfield "payload_json" (some entry.payloadJson)
    (by simp [redisEntryFields, mem_optionalField, eq_comm])
  rw [deserializeWireEntry, check_bind_eq_ok, ensure_eq_ok]
  refine ⟨hknown, ?_⟩
  rw [requireField_eq_ok.mpr hschema, requireU64_of_text hchain, requireField_eq_ok.mpr hstream,
    requireU64_of_text hseq, requireU64_of_text hversion, requireKind_of_text hkind, hsnapshot,
    requireField_eq_ok.mpr hscope, optionalU64_of_text hblock, optionalU64_of_text hobserved,
    requireU64_of_text hpublished, requireField_eq_ok.mpr hpayload]
  rfl

/-- **An entry that passes validation** is read back from its fields. -/
theorem redisStreamMessage_entryFieldMap {json : EnvelopeJson Sim}
    {entry : BroadcasterRedisStreamEntry} (entryId : String)
    (h : entry.validate json = .ok ()) :
    redisStreamMessage json entryId (entryFieldMap entry) = .ok { entryId, entry } := by
  unfold redisStreamMessage deserializeEntry
  rw [deserializeWireEntry_entryFieldMap]
  simp only [bind, Except.bind, h, Except.mapError, pure, Except.pure]

/-- The metadata of an entry, against the envelope it was derived from. -/
structure Describes (entry : BroadcasterRedisStreamEntry) (envelope : BroadcasterEnvelope Sim) :
    Prop where
  streamId : entry.streamId = envelope.streamId
  messageSeq : entry.messageSeq = envelope.messageSeq
  kind : entry.kind = envelope.kind
  backendScope : ∃ backends, redisPayloadBackendScope envelope.payload = .ok (some backends) ∧
    redisBackendScope backends = .ok entry.backendScope
  blockNumber : entry.blockNumber = redisEntryBlockNumber envelope.payload
  observedTimestampMs : entry.observedTimestampMs = redisEntryObservedTimestampMs envelope.payload
  snapshotId : ∀ id, redisPayloadSnapshotId envelope.payload = some id → entry.snapshotId = some id
  chainId : ∀ id, redisPayloadChainId envelope.payload = some id → entry.chainId = id
  stateVersion : ∀ version, redisPayloadTargetStateVersion envelope.payload = some version →
    entry.stateVersion = version

/-- The check of an optional value passes when there is none, or it passes. -/
theorem whenCarried_eq_ok {α : Type} {value : Option α}
    {check : α → Except BroadcasterContractError Unit} :
    whenCarried value check = .ok () ↔ ∀ a, value = some a → check a = .ok () := by
  cases value with
  | none => simp [whenCarried]
  | some value => simp [whenCarried]

/-- Optional numbers match when they are equal. -/
theorem ensureOptionalMatch_eq_ok {field : String}
    {mismatch : UInt64 → UInt64 → BroadcasterContractError} {entryValue payloadValue : Option UInt64} :
    ensureOptionalMatch field mismatch entryValue payloadValue = .ok () ↔
      entryValue = payloadValue := by
  unfold ensureOptionalMatch
  split
  case h_1 => rw [ensure_eq_ok, Option.some.injEq]
  all_goals simp

/-- The snapshot of the entry has to be the one of the payload. -/
theorem ensureRedisSnapshotId_eq_ok {entrySnapshotId : Option String} {payloadSnapshotId : String} :
    ensureRedisSnapshotId entrySnapshotId payloadSnapshotId = .ok () ↔
      entrySnapshotId = some payloadSnapshotId := by
  unfold ensureRedisSnapshotId
  split
  case h_1 => simp
  case h_2 => rw [ensureSnapshotId, ensure_eq_ok, Option.some.injEq]

/-- A version is compared when the payload carries one. -/
theorem ensureRedisPayloadStateVersion_eq_ok {stateVersion : UInt64}
    {payload : BroadcasterPayload Sim} :
    ensureRedisPayloadStateVersion stateVersion payload = .ok () ↔
      ∀ target, redisPayloadTargetStateVersion payload = some target → stateVersion = target := by
  unfold ensureRedisPayloadStateVersion
  split
  case h_1 hnone => simp [hnone]
  case h_2 target htarget =>
    rw [ensure_eq_ok]
    simp only [htarget, Option.some.injEq]
    exact ⟨fun heq other hother => heq.symm.trans hother, fun h => (h target rfl).symm⟩

/-- The scope of an entry is the scope of its payload. -/
theorem ensureRedisBackendScope_spec {scope : String}
    {entryBackends payloadBackends : List BroadcasterBackend}
    (hscope : redisBackendScope entryBackends = .ok scope) (hne : rustTrim scope ≠ "")
    (h : ensureRedisBackendScope entryBackends payloadBackends = .ok ()) :
    redisBackendScope payloadBackends = .ok scope := by
  obtain ⟨entryScope, hentry, h⟩ := bind_eq_ok.mp h
  rw [hscope, Except.ok.injEq] at hentry
  subst hentry
  rw [ensure_eq_ok] at h
  cases hpayload : redisBackendScope payloadBackends with
  | ok payloadScope =>
    rw [hpayload] at h
    rw [h]
    rfl
  | error e =>
    -- an unusable payload scope reads as the empty text
    rw [hpayload] at h
    exact absurd (h ▸ rfl) hne

/-- Only delta payloads pass, and those have a backend scope. -/
theorem redisPayloadBackendScope_ne_none {payload : BroadcasterPayload Sim}
    (h : ensureRedisDeltaKind payload.kind = .ok ()) :
    redisPayloadBackendScope payload ≠ .ok none := by
  intro hnone
  cases payload with
  | snapshotStart | snapshotChunk | snapshotEnd => cases h
  | update update =>
    simp only [redisPayloadBackendScope, redisUpdateBackendScope] at hnone
    split at hnone
    · cases hnone
    · obtain ⟨scope, -, hnone⟩ := bind_eq_ok.mp hnone
      obtain ⟨parsed, -, hnone⟩ := bind_eq_ok.mp hnone
      cases hnone
  | recoveryCatchUp catchUp =>
    simp only [redisPayloadBackendScope, redisUpdateBackendScope, check_bind_eq_ok] at hnone
    obtain ⟨-, hnone⟩ := hnone
    split at hnone
    · cases hnone
    · obtain ⟨scope, -, hnone⟩ := bind_eq_ok.mp hnone
      obtain ⟨parsed, -, hnone⟩ := bind_eq_ok.mp hnone
      cases hnone
  | recoveryStart | recoveryChunk | recoveryCommit =>
    simp only [redisPayloadBackendScope, check_bind_eq_ok] at hnone
    obtain ⟨-, hnone⟩ := hnone
    cases hnone
  | heartbeat | progress => cases hnone

/-- **A validated entry** describes the envelope in its payload. -/
theorem validate_spec {json : EnvelopeJson Sim} {entry : BroadcasterRedisStreamEntry}
    (h : entry.validate json = .ok ()) :
    ∃ envelope, json.fromStr entry.payloadJson = .ok envelope ∧ Describes entry envelope := by
  rw [BroadcasterRedisStreamEntry.validate, check_bind_eq_ok] at h
  obtain ⟨-, h⟩ := h
  obtain ⟨streamId, -, h⟩ := bind_eq_ok.mp h
  obtain ⟨payloadJson, -, h⟩ := bind_eq_ok.mp h
  rw [check_bind_eq_ok, check_bind_eq_ok] at h
  obtain ⟨-, hkind, h⟩ := h
  obtain ⟨backends, hbackends, h⟩ := bind_eq_ok.mp h
  rw [check_bind_eq_ok, check_bind_eq_ok] at h
  obtain ⟨-, -, h⟩ := h
  obtain ⟨envelope, henvelope, h⟩ := bind_eq_ok.mp h
  rw [check_bind_eq_ok, check_bind_eq_ok, check_bind_eq_ok, check_bind_eq_ok, check_bind_eq_ok,
    ensure_eq_ok, whenCarried_eq_ok, whenCarried_eq_ok] at h
  obtain ⟨hstream, hseq, hpayloadKind, hsnapshot, hchain, h⟩ := h
  obtain ⟨payloadBackends, hpayloadBackends, h⟩ := bind_eq_ok.mp h
  rw [check_bind_eq_ok, check_bind_eq_ok, check_bind_eq_ok, whenCarried_eq_ok] at h
  obtain ⟨hscope, hblock, hobserved, hversion⟩ := h
  obtain ⟨hentryScope, hne⟩ := parseRedisBackendScope_spec hbackends
  have hparsed : json.fromStr entry.payloadJson = .ok envelope := mapError_eq_ok.mp henvelope
  rw [← hpayloadKind] at hkind
  refine ⟨envelope, hparsed, ?_⟩
  exact
    { streamId := ensure_eq_ok.mp hstream
      messageSeq := Option.some.inj (ensure_eq_ok.mp hseq)
      kind := hpayloadKind.symm
      backendScope := by
        cases payloadBackends with
        | none => exact absurd hpayloadBackends (redisPayloadBackendScope_ne_none hkind)
        | some payloadBackends =>
          exact ⟨payloadBackends, hpayloadBackends,
            ensureRedisBackendScope_spec hentryScope hne (hscope _ rfl)⟩
      blockNumber := ensureOptionalMatch_eq_ok.mp hblock
      observedTimestampMs := ensureOptionalMatch_eq_ok.mp hobserved
      snapshotId := fun id hid => ensureRedisSnapshotId_eq_ok.mp (hsnapshot id hid)
      chainId := fun id hid => ensure_eq_ok.mp (hchain id hid)
      stateVersion := ensureRedisPayloadStateVersion_eq_ok.mp hversion }

/-- The metadata two entries share. -/
structure SameMetadata (entry other : BroadcasterRedisStreamEntry) (payload : BroadcasterPayload Sim) :
    Prop where
  streamId : other.streamId = entry.streamId
  messageSeq : other.messageSeq = entry.messageSeq
  kind : other.kind = entry.kind
  backendScope : other.backendScope = entry.backendScope
  blockNumber : other.blockNumber = entry.blockNumber
  observedTimestampMs : other.observedTimestampMs = entry.observedTimestampMs
  snapshotId : (redisPayloadSnapshotId payload).isSome → other.snapshotId = entry.snapshotId
  chainId : (redisPayloadChainId payload).isSome → other.chainId = entry.chainId
  stateVersion : (redisPayloadTargetStateVersion payload).isSome →
    other.stateVersion = entry.stateVersion

/-- Two entries that describe one envelope share their metadata. -/
theorem Describes.sameMetadata {entry other : BroadcasterRedisStreamEntry}
    {envelope : BroadcasterEnvelope Sim} (h : Describes entry envelope)
    (hother : Describes other envelope) : SameMetadata entry other envelope.payload := by
  refine ⟨?_, ?_, ?_, ?_, ?_, ?_, fun hid => ?_, fun hid => ?_, fun hversion => ?_⟩
  · rw [h.streamId, hother.streamId]
  · rw [h.messageSeq, hother.messageSeq]
  · rw [h.kind, hother.kind]
  · obtain ⟨backends, hbackends, hscope⟩ := h.backendScope
    obtain ⟨others, hothers, hotherScope⟩ := hother.backendScope
    rw [hbackends, Except.ok.injEq, Option.some.injEq] at hothers
    rw [← hothers, hscope, Except.ok.injEq] at hotherScope
    exact hotherScope.symm
  · rw [h.blockNumber, hother.blockNumber]
  · rw [h.observedTimestampMs, hother.observedTimestampMs]
  · obtain ⟨id, hid⟩ := Option.isSome_iff_exists.mp hid
    rw [h.snapshotId id hid, hother.snapshotId id hid]
  · obtain ⟨id, hid⟩ := Option.isSome_iff_exists.mp hid
    rw [h.chainId id hid, hother.chainId id hid]
  · obtain ⟨version, hversion⟩ := Option.isSome_iff_exists.mp hversion
    rw [h.stateVersion version hversion, hother.stateVersion version hversion]

theorem deserializeEntry_spec {json : EnvelopeJson Sim} {fields : FinMap String String}
    {entry : BroadcasterRedisStreamEntry} (h : deserializeEntry json fields = .ok entry) :
    entry.validate json = .ok () ∧ fields["payload_json"]? = some entry.payloadJson := by
  obtain ⟨wire, hwire, h⟩ := bind_eq_ok.mp h
  rw [check_bind_eq_ok, pure_eq_ok] at h
  obtain ⟨hvalid, rfl⟩ := h
  refine ⟨mapError_eq_ok.mp hvalid, ?_⟩
  rw [deserializeWireEntry, check_bind_eq_ok] at hwire
  obtain ⟨-, hwire⟩ := hwire
  obtain ⟨schemaVersion, -, hwire⟩ := bind_eq_ok.mp hwire
  obtain ⟨chainId, -, hwire⟩ := bind_eq_ok.mp hwire
  obtain ⟨streamId, -, hwire⟩ := bind_eq_ok.mp hwire
  obtain ⟨messageSeq, -, hwire⟩ := bind_eq_ok.mp hwire
  obtain ⟨stateVersion, -, hwire⟩ := bind_eq_ok.mp hwire
  obtain ⟨kind, -, hwire⟩ := bind_eq_ok.mp hwire
  obtain ⟨backendScope, -, hwire⟩ := bind_eq_ok.mp hwire
  obtain ⟨blockNumber, -, hwire⟩ := bind_eq_ok.mp hwire
  obtain ⟨observedTimestampMs, -, hwire⟩ := bind_eq_ok.mp hwire
  obtain ⟨publishedAtMs, -, hwire⟩ := bind_eq_ok.mp hwire
  obtain ⟨payloadJson, hpayload, hwire⟩ := bind_eq_ok.mp hwire
  rw [pure_eq_ok] at hwire
  rw [← hwire]
  exact requireField_eq_ok.mp hpayload

/-- What `from_envelope_at` makes. -/
theorem fromEnvelopeAt_spec {json : EnvelopeJson Sim} {chainId publishedAtMs stateVersion : UInt64}
    {envelope : BroadcasterEnvelope Sim} {entry : BroadcasterRedisStreamEntry}
    (h : fromEnvelopeAt json chainId envelope publishedAtMs stateVersion = .ok entry) :
    entry.validate json = .ok () ∧ json.toString envelope = .ok entry.payloadJson := by
  rw [fromEnvelopeAt, check_bind_eq_ok] at h
  obtain ⟨-, h⟩ := h
  obtain ⟨backends, -, h⟩ := bind_eq_ok.mp h
  obtain ⟨payloadJson, hjson, h⟩ := bind_eq_ok.mp h
  obtain ⟨streamId, -, h⟩ := bind_eq_ok.mp h
  obtain ⟨backendScope, -, h⟩ := bind_eq_ok.mp h
  rw [check_bind_eq_ok, pure_eq_ok] at h
  obtain ⟨hvalid, rfl⟩ := h
  exact ⟨hvalid, mapError_eq_ok.mp hjson⟩

/-- **The codec.** An entry made from an envelope and written under its id is read back as that
entry, with that envelope in it; and any fields that are read as an entry carry the metadata of
their own payload, so that two maps with one payload cannot differ in it. -/
theorem redis_entry_codec (json : EnvelopeJson Sim) :
    (∀ chainId envelope publishedAtMs stateVersion entry entryId,
      (∀ text, json.toString envelope = .ok text → json.fromStr text = .ok envelope) →
      fromEnvelopeAt json chainId envelope publishedAtMs stateVersion = .ok entry →
      redisEntryId entry = .ok entryId →
      redisStreamMessage json entryId (entryFieldMap entry) = .ok { entryId, entry } ∧
        json.fromStr entry.payloadJson = .ok envelope) ∧
    (∀ fields entry, deserializeEntry json fields = .ok entry →
      ∃ envelope, json.fromStr entry.payloadJson = .ok envelope ∧ Describes entry envelope) ∧
    (∀ fields altered entry other, deserializeEntry json fields = .ok entry →
      deserializeEntry json altered = .ok other →
      altered["payload_json"]? = fields["payload_json"]? →
      ∃ envelope, json.fromStr entry.payloadJson = .ok envelope ∧
        SameMetadata entry other envelope.payload) := by
  refine ⟨?_, ?_, ?_⟩
  · intro chainId envelope publishedAtMs stateVersion entry entryId hinverse h _
    obtain ⟨hvalid, hjson⟩ := fromEnvelopeAt_spec h
    exact ⟨redisStreamMessage_entryFieldMap entryId hvalid, hinverse _ hjson⟩
  · intro fields entry h
    exact validate_spec (deserializeEntry_spec h).1
  · intro fields altered entry other h haltered hpayload
    obtain ⟨hvalid, htext⟩ := deserializeEntry_spec h
    obtain ⟨hotherValid, hotherText⟩ := deserializeEntry_spec haltered
    rw [hpayload, htext, Option.some.injEq] at hotherText
    obtain ⟨envelope, henvelope, hdescribes⟩ := validate_spec hvalid
    obtain ⟨otherEnvelope, hotherEnvelope, hotherDescribes⟩ := validate_spec hotherValid
    rw [← hotherText, henvelope, Except.ok.injEq] at hotherEnvelope
    subst hotherEnvelope
    exact ⟨envelope, henvelope, hdescribes.sameMetadata hotherDescribes⟩

/-- A heartbeat of the fifth generation. -/
def sampleHeartbeat : BroadcasterEnvelope Unit :=
  { streamId := "chain-1-5", messageSeq := 4
    payload := .heartbeat
      { chainId := 1, snapshotId := "snap-1", backendHeads := [⟨.native, 7⟩, ⟨.rfq, 9⟩] } }

/-- Its JSON. -/
def sampleHeartbeatJson : String :=
  "\x7b\"stream_id\":\"chain-1-5\",\"message_seq\":4,\"kind\":\"heartbeat\",\"chainId\":1," ++
  "\"snapshotId\":\"snap-1\",\"backendHeads\":[\x7b\"backend\":\"native\",\"blockNumber\":7\x7d," ++
  "\x7b\"backend\":\"rfq\",\"blockNumber\":9\x7d]\x7d"

/-- serde on that heartbeat. -/
def sampleJson : EnvelopeJson Unit where
  toString envelope :=
    if envelope = sampleHeartbeat then .ok sampleHeartbeatJson else .error "not in this sample"
  fromStr text :=
    if text = sampleHeartbeatJson then .ok sampleHeartbeat else .error "not in this sample"

set_option maxRecDepth 4000 in
theorem sampleHeartbeat_entry : ∃ entry,
    fromEnvelopeAt sampleJson 1 sampleHeartbeat 1000 3 = .ok entry ∧
      redisEntryId entry = .ok "5-4" :=
  ⟨_, rfl, rfl⟩

/-- The heartbeat goes through its fields and back. -/
theorem redis_entry_codec_heartbeat : ∃ entry,
    fromEnvelopeAt sampleJson 1 sampleHeartbeat 1000 3 = .ok entry ∧
      redisStreamMessage sampleJson "5-4" (entryFieldMap entry) = .ok { entryId := "5-4", entry } ∧
      sampleJson.fromStr entry.payloadJson = .ok sampleHeartbeat := by
  obtain ⟨entry, hentry, hid⟩ := sampleHeartbeat_entry
  have hinverse : ∀ text, sampleJson.toString sampleHeartbeat = .ok text →
      sampleJson.fromStr text = .ok sampleHeartbeat := by
    intro text htext
    have heq : sampleHeartbeatJson = text := by
      change (if sampleHeartbeat = sampleHeartbeat then Except.ok sampleHeartbeatJson
        else Except.error "not in this sample") = Except.ok text at htext
      rw [if_pos rfl, Except.ok.injEq] at htext
      exact htext
    exact if_pos heq.symm
  exact ⟨entry, hentry, (redis_entry_codec sampleJson).1 _ _ _ _ _ _ hinverse hentry hid⟩

end TychoSimulationServer
