import TychoSimulationServer.JsonText
import TychoSimulationServer.RecoveryConsumer
import TychoSimulationServer.SnapshotExport

/-!
# Publishing a recovery replacement

A replacement snapshot is published as one JSON text, cut into fragments of at most
`RECOVERY_FRAGMENT_TARGET_BYTES` bytes. Each fragment becomes a Redis entry that must not take more
than `RECOVERY_REDIS_ENTRY_MAX_BYTES` and that names its own encoded size.

The target counts the bytes of the text. In the entry the fragment is a JSON string once more, and a
quote or a backslash takes two bytes there.
-/

namespace TychoSimulationServer

open Fallible JsonText

variable {Sim : Type}

/-! ## The replacement

The replacement is the snapshot of the named backends, under ids of the recovery, serialised as one
text. -/

/-- `BroadcasterRecoverySource`. -/
structure BroadcasterRecoverySource (Sim : Type) where
  recoveryId : UInt64
  partitions : Partitions Sim

/-- `serialize_recovery_source`, with serde_json for lists of envelopes as `toJson`. -/
def BroadcasterSnapshotCache.serializeRecoverySource (serialisedLen : SerialisedLen Sim)
    (toJson : List (BroadcasterEnvelope Sim) → Except String String)
    (cache : BroadcasterSnapshotCache Sim) (source : BroadcasterRecoverySource Sim)
    (maxPayloadBytes : Nat) : Except SnapshotError String := do
  let (chainId, recoveryId) := (cache.chainId, source.recoveryId)
  let streamId := s!"chain-{chainId}-recovery-{recoveryId}"
  let snapshotId := s!"chain-{chainId}-recovery-snapshot-{recoveryId}"
  let chunks ← buildSnapshotChunks serialisedLen ⟨streamId, snapshotId, source.partitions⟩
    cache.configuredBackends maxPayloadBytes
  ensure (chunks.length < 2 ^ 32) (.text "out of range integral type conversion attempted")
  let start ← (BroadcasterSnapshotStart.new snapshotId cache.chainId cache.configuredBackends
    (.ofNat chunks.length)).mapError .contract
  let envelopes := (snapshotPayloads start chunks).zipIdx.map fun (payload, index) =>
    { streamId, messageSeq := .ofNat (min (index + 1) (2 ^ 64 - 1)), payload }
  (toJson envelopes).mapError fun error =>
    .text ("failed to serialize broadcaster recovery replacement: " ++ error)

/-! ## Fragments

The text is cut into windows of three and a half million bytes at most, never inside a character. -/

/-- `RECOVERY_REDIS_ENTRY_MAX_BYTES`. -/
def recoveryRedisEntryMaxBytes : Nat := 4 * 1024 * 1024

/-- `RECOVERY_FRAGMENT_TARGET_BYTES`. -/
def recoveryFragmentTargetBytes : Nat := 3500000

/-- Why something is not published. -/
inductive PublishError where
  | text (message : String)
  | contract (error : BroadcasterContractError)
  /-- `OversizedRedisEntry` -/
  | oversized (kind : BroadcasterMessageKind) (encodedBytes limitBytes : Nat)
deriving DecidableEq, Repr

/-- `PreparedRecoveryFragment`. -/
structure PreparedRecoveryFragment where
  payload : String
  digest : String
deriving DecidableEq, Repr

section

variable (digestBytes : String → String)

/-- The loop of `prepare_recovery_fragments`, from an offset on. -/
def prepareFrom (rest : List Char) : Except PublishError (List PreparedRecoveryFragment) :=
  if rest = [] then .ok []
  else
    -- the end moves back from the target to the next character boundary
    let fragment := takeBytes recoveryFragmentTargetBytes rest
    if fragment = [] then
      .error (.text "broadcaster recovery fragment boundary is not valid UTF-8")
    else do
      let payload := String.ofList fragment
      let more ← prepareFrom (rest.drop fragment.length)
      return { payload, digest := digestBytes payload } :: more
termination_by rest.length
decreasing_by
  rename_i hrest hfragment
  have hlen := List.length_pos_of_ne_nil hrest
  have hpos : 0 < (takeBytes recoveryFragmentTargetBytes rest).length :=
    List.length_pos_of_ne_nil hfragment
  rw [List.length_drop]
  omega

/-- `prepare_recovery_fragments`. -/
def prepareRecoveryFragments (replacementJson : String) :
    Except PublishError (List PreparedRecoveryFragment) :=
  if replacementJson = "" then
    .error (.text "broadcaster recovery replacement must not be empty")
  else prepareFrom digestBytes replacementJson.toList

end

/-! ## Entries

An entry must not exceed eight mebibytes as a command. A chunk names its own encoded size, so it is
built again until the size is right. -/

/-- The fields of `BroadcasterRedisPublisherConfig` that an entry depends on. -/
structure BroadcasterRedisPublisherConfig where
  chainId : UInt64
  streamKey : String
  maxlen : Option UInt64

/-- `redis_entry_encoded_size`. -/
def redisEntryEncodedSize (config : BroadcasterRedisPublisherConfig)
    (entry : BroadcasterRedisStreamEntry) : Except PublishError Nat :=
  (replayEntryEncodedSize config.streamKey config.maxlen entry).mapError .text

/-- `ensure_redis_entry_size`. -/
def ensureRedisEntrySize (config : BroadcasterRedisPublisherConfig)
    (entry : BroadcasterRedisStreamEntry) (limitBytes : Nat) : Except PublishError Nat := do
  let encodedBytes ← redisEntryEncodedSize config entry
  ensure (encodedBytes ≤ limitBytes) (.oversized entry.kind encodedBytes limitBytes)
  return encodedBytes

/-- `RecoveryEntryScope`. -/
structure RecoveryEntryScope where
  recoveryId : String
  targetStateVersion : UInt64
  backends : List BroadcasterBackend

/-- `BroadcasterRecoveryChunk::new`. -/
def BroadcasterRecoveryChunk.new (recoveryId : String) (targetStateVersion : UInt64)
    (backends : List BroadcasterBackend) (chunkIndex : UInt32) (encodedBytes : UInt64)
    (digest payloadFragment : String) :
    Except BroadcasterContractError BroadcasterRecoveryChunk := do
  let chunk : BroadcasterRecoveryChunk :=
    { recoveryId, targetStateVersion
      backends := backends.insertionSort fun a b => (compare a b).isLE
      chunkIndex, encodedBytes, digest, payloadFragment }
  validateRecoveryChunk chunk
  return chunk

section

variable (json : EnvelopeJson Sim) (config : BroadcasterRedisPublisherConfig) (streamId : String)

/-- `recovery_entry`, at some time. -/
def recoveryEntry (messageSeq : UInt64) (payload : BroadcasterPayload Sim)
    (currentTimeMs stateVersion : UInt64) : Except PublishError BroadcasterRedisStreamEntry :=
  (fromEnvelopeAt json config.chainId { streamId, messageSeq, payload } currentTimeMs
    stateVersion).mapError .contract

/-- The loop of `build_recovery_chunk_entry`: the chunk is built with the size of the one before,
until it has that size. The clock is read at every attempt. -/
def buildFrom (messageSeq : UInt64) (scope : RecoveryEntryScope) (chunkIndex : Nat)
    (fragment : PreparedRecoveryFragment) (clock : Nat → UInt64) :
    Nat → Nat → Except PublishError (BroadcasterRedisStreamEntry × Nat)
  | 0, _ => .error (.text "broadcaster recovery chunk encoded size did not converge")
  | attempts + 1, encodedBytes => do
    ensure (chunkIndex < 2 ^ 32) (.text "out of range integral type conversion attempted")
    let chunk ← (BroadcasterRecoveryChunk.new scope.recoveryId scope.targetStateVersion
      scope.backends (.ofNat chunkIndex) (.ofNat encodedBytes) fragment.digest
      fragment.payload).mapError .contract
    let entry ← recoveryEntry json config streamId messageSeq (.recoveryChunk chunk)
      (clock attempts) scope.targetStateVersion
    let measured ← redisEntryEncodedSize config entry
    if measured = encodedBytes then do
      let _ ← ensureRedisEntrySize config entry recoveryRedisEntryMaxBytes
      return (entry, measured)
    else buildFrom messageSeq scope chunkIndex fragment clock attempts measured

/-- `build_recovery_chunk_entry`. -/
def buildRecoveryChunkEntry (messageSeq : UInt64) (scope : RecoveryEntryScope) (chunkIndex : Nat)
    (fragment : PreparedRecoveryFragment) (clock : Nat → UInt64) :
    Except PublishError (BroadcasterRedisStreamEntry × Nat) :=
  buildFrom json config streamId messageSeq scope chunkIndex fragment clock 4 1

/-- The chunk entries of `publish_recovery`: they follow the start, which has the next number. -/
def recoveryChunkEntries (nextMessageSeq : UInt64) (scope : RecoveryEntryScope)
    (fragments : List PreparedRecoveryFragment) (clock : Nat → Nat → UInt64) :
    Except PublishError (List (BroadcasterRedisStreamEntry × Nat)) :=
  fragments.zipIdx.mapM fun (fragment, chunkIndex) => do
    ensure (nextMessageSeq.toNat + 1 + chunkIndex < 2 ^ 64)
      (.text "Redis broadcaster recovery chunk sequence overflow")
    buildRecoveryChunkEntry json config streamId (.ofNat (nextMessageSeq.toNat + 1 + chunkIndex))
      scope chunkIndex fragment (clock chunkIndex)

end

/-! ## Fragments as windows -/

section

variable {digestBytes : String → String}

/-- A piece of the text as a fragment. -/
def fragmentOf (digestBytes : String → String) (window : List Char) : PreparedRecoveryFragment :=
  { payload := String.ofList window, digest := digestBytes (String.ofList window) }

theorem prepareFrom_eq (rest : List Char) : prepareFrom digestBytes rest =
    .ok ((windows recoveryFragmentTargetBytes rest).map (fragmentOf digestBytes)) := by
  fun_induction windows recoveryFragmentTargetBytes rest with
  | case1 rest hnone =>
    have hrest : rest = [] := by
      by_contra hne
      exact takeBytes_ne_nil (by decide) hne hnone
    rw [prepareFrom, if_pos hrest]
    rfl
  | case2 rest hsome ih =>
    have hrest : rest ≠ [] := by
      rintro rfl
      exact hsome rfl
    rw [prepareFrom, if_neg hrest]
    simp only [if_neg hsome, ih]
    rfl

/-- **The fragments** are the windows of the text; only an empty text has none. -/
theorem prepareRecoveryFragments_eq_ok {replacementJson : String}
    {fragments : List PreparedRecoveryFragment} :
    prepareRecoveryFragments digestBytes replacementJson = .ok fragments ↔ replacementJson ≠ "" ∧
      fragments = (windows recoveryFragmentTargetBytes replacementJson.toList).map
        (fragmentOf digestBytes) := by
  rw [prepareRecoveryFragments]
  split
  case isTrue hempty => simp [hempty]
  case isFalse hne =>
    rw [prepareFrom_eq, Except.ok.injEq]
    exact ⟨fun h => ⟨hne, h.symm⟩, fun h => h.2.symm⟩

end

/-! ## The size of a command -/

/-- The bytes of the arguments of a command. -/
def argumentBytes (arguments : List String) : Nat :=
  (arguments.map fun argument => respBulkStringSize argument.utf8ByteSize).sum

/-- A sum with saturation is the sum, up to the largest number. -/
theorem foldl_saturatingAdd {arguments : List String} {total : Nat} (h : total ≤ usizeMax) :
    arguments.foldl (fun total argument =>
      saturatingAdd total (respBulkStringSize argument.utf8ByteSize)) total =
      min (total + argumentBytes arguments) usizeMax := by
  induction arguments generalizing total with
  | nil => exact (Nat.min_eq_left h).symm
  | cons argument rest ih =>
    have hnext : saturatingAdd total (respBulkStringSize argument.utf8ByteSize) ≤ usizeMax :=
      Nat.min_le_right _ _
    rw [List.foldl_cons, ih hnext, argumentBytes, argumentBytes, List.map_cons,
      List.sum_cons, saturatingAdd]
    omega

/-- The size of a command of fewer than a hundred arguments. -/
theorem respArraySize_eq {arguments : List String} (h : arguments.length < 100) :
    respArraySize arguments =
      min (1 + decimalDigits arguments.length + 2 + argumentBytes arguments) usizeMax := by
  have hdigits : decimalDigits arguments.length ≤ 2 := (Nat.length_repr_le_iff (by decide)).mpr h
  have hmax : 5 ≤ usizeMax := by decide
  exact foldl_saturatingAdd (by omega)

/-! ## The JSON of a chunk

Everything in front of the payload depends on the chunk's size through its digits only. -/

/-- The JSON of an envelope up to its kind. -/
def envelopeHead (streamId : String) (messageSeq : UInt64) : String :=
  "\x7b\"stream_id\":" ++ quoted streamId ++ ",\"message_seq\":" ++ u64ToString messageSeq

/-- The JSON of a chunk up to its encoded size. -/
def chunkJsonHead (streamId : String) (messageSeq : UInt64) (chunk : BroadcasterRecoveryChunk) :
    String :=
  envelopeHead streamId messageSeq ++ ",\"kind\":\"recovery_chunk\",\"recoveryId\":" ++
  quoted chunk.recoveryId ++ ",\"targetStateVersion\":" ++ u64ToString chunk.targetStateVersion ++ ",\"backends\":[" ++
  ",".intercalate (chunk.backends.map fun backend => quoted backend.asStr) ++
  "],\"chunkIndex\":" ++ chunk.chunkIndex.toNat.repr ++ ",\"encodedBytes\":"

/-- The JSON of a chunk between its encoded size and its fragment. -/
def chunkJsonDigest (chunk : BroadcasterRecoveryChunk) : String :=
  ",\"digest\":" ++ quoted chunk.digest ++ ",\"payloadFragment\":"

/-- The JSON serde writes for a chunk. -/
def recoveryChunkJson (streamId : String) (messageSeq : UInt64) (chunk : BroadcasterRecoveryChunk) :
    String :=
  chunkJsonHead streamId messageSeq chunk ++ u64ToString chunk.encodedBytes ++
    chunkJsonDigest chunk ++ quoted chunk.payloadFragment ++ "\x7d"

/-- The bytes of that JSON besides the digits of its encoded size and its escaped fragment. -/
def chunkFrameBytes (streamId : String) (messageSeq : UInt64) (chunk : BroadcasterRecoveryChunk) :
    Nat :=
  (chunkJsonHead streamId messageSeq chunk).utf8ByteSize + (chunkJsonDigest chunk).utf8ByteSize + 3

theorem utf8ByteSize_u64ToString (value : UInt64) :
    (u64ToString value).utf8ByteSize = decimalDigits value.toNat :=
  utf8ByteSize_repr value.toNat

/-- **The fragment counts escaped**, and the encoded size with its digits. -/
theorem utf8ByteSize_recoveryChunkJson {streamId : String} {messageSeq : UInt64}
    {chunk : BroadcasterRecoveryChunk} :
    (recoveryChunkJson streamId messageSeq chunk).utf8ByteSize =
      chunkFrameBytes streamId messageSeq chunk + decimalDigits chunk.encodedBytes.toNat +
        escapedSize chunk.payloadFragment := by
  have hbrace : "\x7d".utf8ByteSize = 1 := by decide
  rw [recoveryChunkJson, String.utf8ByteSize_append, String.utf8ByteSize_append,
    String.utf8ByteSize_append, String.utf8ByteSize_append, utf8ByteSize_u64ToString,
    utf8ByteSize_quoted, hbrace, chunkFrameBytes]
  omega

/-! ## Chunk entries

An entry is validated after it has been made, with all the checks a reader will run. -/

/-- The backends of a scope in its text. -/
def backendScopeText (backends : List BroadcasterBackend) : String :=
  ",".intercalate ((BroadcasterBackend.all.filter (backends.contains ·)).map (·.asStr))

theorem redisBackendScope_of_nodup {backends : List BroadcasterBackend} (hne : backends ≠ [])
    (hnodup : backends.Nodup) : redisBackendScope backends = .ok (backendScopeText backends) := by
  rw [redisBackendScope, check_bind_eq_ok, check_bind_eq_ok, ensure_eq_ok,
    validateUniqueBackendEntries_eq_ok, pure_eq_ok]
  exact ⟨hne, hnodup, rfl⟩

/-- The text of a scope parses to its backends in order. -/
theorem parse_backendScopeText {backends : List BroadcasterBackend} (hne : backends ≠ []) :
    parseRedisBackendScope (backendScopeText backends) =
      .ok (BroadcasterBackend.all.filter (backends.contains ·)) := by
  have hsome : ∃ b, backends.contains b = true := by
    obtain ⟨b, rest, rfl⟩ := List.exists_cons_of_ne_nil hne
    exact ⟨b, by simp⟩
  rw [backendScopeText, BroadcasterBackend.all]
  generalize hkeep : (fun b => backends.contains b) = keep at *
  have hany : keep .native = true ∨ keep .vm = true ∨ keep .rfq = true := by
    obtain ⟨b, hb⟩ := hsome
    rw [← hkeep]
    cases b with
    | native => exact .inl hb
    | vm => exact .inr (.inl hb)
    | rfq => exact .inr (.inr hb)
  -- the seven scopes that are not empty
  cases hnative : keep .native <;> cases hvm : keep .vm <;> cases hrfq : keep .rfq
  case false.false.false => simp [hnative, hvm, hrfq] at hany
  all_goals
    simp only [List.filter_cons, List.filter_nil, hnative, hvm, hrfq, if_true, Bool.false_eq_true,
      if_false]
    decide

/-- The entry of a recovery payload. -/
def payloadEntry (config : BroadcasterRedisPublisherConfig) (envelope : BroadcasterEnvelope Sim)
    (backends : List BroadcasterBackend) (stateVersion currentTimeMs : UInt64)
    (payloadJson : String) : BroadcasterRedisStreamEntry :=
  { schemaVersion := redisStreamSchemaVersion, chainId := config.chainId
    streamId := envelope.streamId, messageSeq := envelope.messageSeq, stateVersion
    kind := envelope.kind, snapshotId := none, backendScope := backendScopeText backends
    blockNumber := redisEntryBlockNumber envelope.payload
    observedTimestampMs := redisEntryObservedTimestampMs envelope.payload
    publishedAtMs := currentTimeMs, payloadJson }

/-- What makes a recovery payload an entry: it passes its checks, and serde writes its envelope as
this JSON and reads it back. -/
structure MakesEntry (json : EnvelopeJson Sim) (envelope : BroadcasterEnvelope Sim)
    (backends : List BroadcasterBackend) (stateVersion : UInt64) (payloadJson : String) :
    Prop where
  writes : json.toString envelope = .ok payloadJson
  reads : json.fromStr payloadJson = .ok envelope
  text : rustTrim payloadJson ≠ ""
  streamId : rustTrim envelope.streamId ≠ ""
  messageSeq : envelope.messageSeq ≠ 0
  scope : redisPayloadBackendScope envelope.payload = .ok (some backends)
  named : backends ≠ []
  nodup : backends.Nodup
  target : redisPayloadTargetStateVersion envelope.payload = some stateVersion

/-- The entry of a chunk. -/
def chunkEntry (config : BroadcasterRedisPublisherConfig) (streamId : String) (messageSeq : UInt64)
    (chunk : BroadcasterRecoveryChunk) (currentTimeMs : UInt64) : BroadcasterRedisStreamEntry :=
  { schemaVersion := redisStreamSchemaVersion, chainId := config.chainId, streamId, messageSeq
    stateVersion := chunk.targetStateVersion, kind := .recoveryChunk, snapshotId := none
    backendScope := backendScopeText chunk.backends, blockNumber := none
    observedTimestampMs := none, publishedAtMs := currentTimeMs
    payloadJson := recoveryChunkJson streamId messageSeq chunk }

/-- serde writes the chunk as this JSON and reads it back. -/
structure SerdeChunk (json : EnvelopeJson Sim) (streamId : String) (messageSeq : UInt64)
    (chunk : BroadcasterRecoveryChunk) : Prop where
  writes : json.toString { streamId, messageSeq, payload := .recoveryChunk chunk } =
    .ok (recoveryChunkJson streamId messageSeq chunk)
  reads : json.fromStr (recoveryChunkJson streamId messageSeq chunk) =
    .ok { streamId, messageSeq, payload := .recoveryChunk chunk }

section

variable {json : EnvelopeJson Sim} {config : BroadcasterRedisPublisherConfig} {streamId : String}
  {messageSeq currentTimeMs : UInt64} {chunk : BroadcasterRecoveryChunk}

/-- A character of the first part is one of the whole. -/
theorem mem_toList_append {c : Char} {text more : String} (h : c ∈ text.toList) :
    c ∈ (text ++ more).toList := by
  rw [String.toList_append]
  exact List.mem_append_left _ h

theorem rustTrim_recoveryChunkJson : rustTrim (recoveryChunkJson streamId messageSeq chunk) ≠ "" := by
  have hhead : '\x7b' ∈ (chunkJsonHead streamId messageSeq chunk).toList := by
    unfold chunkJsonHead envelopeHead
    iterate 12 apply mem_toList_append
    decide
  refine rustTrim_ne_empty (c := '\x7b') ?_ (by decide)
  unfold recoveryChunkJson
  iterate 4 apply mem_toList_append
  exact hhead

theorem requiredRedisField_of_text {field value : String} (h : rustTrim value ≠ "") :
    requiredRedisField field value = .ok value := by
  rw [requiredRedisField, check_bind_eq_ok, ensure_eq_ok]
  exact ⟨h, rfl⟩

theorem ensureOptionalMatch_self (field : String)
    (mismatch : UInt64 → UInt64 → BroadcasterContractError) (value : Option UInt64) :
    ensureOptionalMatch field mismatch value value = .ok () := by
  cases value with
  | none => rfl
  | some value => exact ensure_eq_ok.mpr rfl

section

variable {envelope : BroadcasterEnvelope Sim} {backends : List BroadcasterBackend}
  {stateVersion : UInt64} {payloadJson : String}

/-- A payload with a target version is one of the four of a recovery: it has no snapshot and no
chain of its own. -/
theorem MakesEntry.plain (h : MakesEntry json envelope backends stateVersion payloadJson) :
    ensureRedisDeltaKind envelope.kind = .ok () ∧ redisEntryRequiresSnapshotId envelope.kind = false ∧
      redisPayloadSnapshotId envelope.payload = none ∧ redisPayloadChainId envelope.payload = none := by
  have htarget := h.target
  rw [BroadcasterEnvelope.kind]
  cases hpayload : envelope.payload with
  | recoveryStart start => exact ⟨rfl, rfl, rfl, rfl⟩
  | recoveryChunk chunk => exact ⟨rfl, rfl, rfl, rfl⟩
  | recoveryCatchUp catchUp => exact ⟨rfl, rfl, rfl, rfl⟩
  | recoveryCommit commit => exact ⟨rfl, rfl, rfl, rfl⟩
  | _ =>
    rw [hpayload] at htarget
    cases htarget

/-- **The entry passes** what it is validated by. -/
theorem MakesEntry.validate (h : MakesEntry json envelope backends stateVersion payloadJson) :
    (payloadEntry config envelope backends stateVersion currentTimeMs payloadJson).validate json =
      .ok () := by
  obtain ⟨hkind, hplain, hsnapshot, hchain⟩ := h.plain
  have hscope := redisBackendScope_of_nodup h.named h.nodup
  have hparse := parse_backendScopeText h.named
  obtain ⟨hparsed, -⟩ := parseRedisBackendScope_spec hparse
  rw [BroadcasterRedisStreamEntry.validate, check_bind_eq_ok]
  refine ⟨ensure_eq_ok.mpr rfl, bind_eq_ok.mpr ⟨_, requiredRedisField_of_text h.streamId, ?_⟩⟩
  refine bind_eq_ok.mpr ⟨_, requiredRedisField_of_text h.text, ?_⟩
  rw [check_bind_eq_ok, check_bind_eq_ok]
  refine ⟨ensure_eq_ok.mpr h.messageSeq, hkind, bind_eq_ok.mpr ⟨_, hparse, ?_⟩⟩
  rw [check_bind_eq_ok, check_bind_eq_ok]
  refine ⟨rfl, ensure_eq_ok.mpr fun hrequired => ?_, ?_⟩
  · exact Bool.false_ne_true (hplain.symm.trans hrequired.2)
  refine bind_eq_ok.mpr ⟨_, mapError_eq_ok.mpr h.reads, ?_⟩
  rw [check_bind_eq_ok, check_bind_eq_ok, check_bind_eq_ok, check_bind_eq_ok, check_bind_eq_ok,
    hsnapshot, hchain]
  refine ⟨ensure_eq_ok.mpr rfl, ensure_eq_ok.mpr rfl, ensure_eq_ok.mpr rfl, rfl, rfl, ?_⟩
  refine bind_eq_ok.mpr ⟨some backends, h.scope, ?_⟩
  rw [check_bind_eq_ok, check_bind_eq_ok, check_bind_eq_ok]
  refine ⟨bind_eq_ok.mpr ⟨_, hparsed, ?_⟩, ensureOptionalMatch_self _ _ _,
    ensureOptionalMatch_self _ _ _, ?_⟩
  · rw [hscope]
    exact ensure_eq_ok.mpr rfl
  · rw [ensureRedisPayloadStateVersion, h.target]
    exact ensure_eq_ok.mpr rfl

/-- **The entry of a recovery payload is made.** -/
theorem MakesEntry.recoveryEntry (h : MakesEntry json envelope backends stateVersion payloadJson) :
    recoveryEntry json config envelope.streamId envelope.messageSeq envelope.payload currentTimeMs
        stateVersion =
      .ok (payloadEntry config envelope backends stateVersion currentTimeMs payloadJson) := by
  obtain ⟨hkind, -, hsnapshot, -⟩ := h.plain
  rw [TychoSimulationServer.recoveryEntry, mapError_eq_ok, fromEnvelopeAt, check_bind_eq_ok]
  refine ⟨hkind, bind_eq_ok.mpr ⟨some backends, h.scope, ?_⟩⟩
  refine bind_eq_ok.mpr ⟨_, mapError_eq_ok.mpr h.writes, ?_⟩
  refine bind_eq_ok.mpr ⟨_, requiredRedisField_of_text h.streamId, ?_⟩
  refine bind_eq_ok.mpr ⟨_, redisBackendScope_of_nodup h.named h.nodup, ?_⟩
  rw [check_bind_eq_ok, hsnapshot]
  exact ⟨h.validate, rfl⟩

end

/-- **The entry of a valid chunk is made.** -/
theorem recoveryEntry_of_valid (hserde : SerdeChunk json streamId messageSeq chunk)
    (hvalid : validateRecoveryChunk chunk = .ok ()) (hstream : rustTrim streamId ≠ "")
    (hseq : messageSeq ≠ 0) (hne : chunk.backends ≠ []) (hnodup : chunk.backends.Nodup) :
    recoveryEntry json config streamId messageSeq (.recoveryChunk chunk) currentTimeMs
      chunk.targetStateVersion = .ok (chunkEntry config streamId messageSeq chunk currentTimeMs) := by
  have hmakes : MakesEntry json ⟨streamId, messageSeq, .recoveryChunk chunk⟩ chunk.backends
      chunk.targetStateVersion (recoveryChunkJson streamId messageSeq chunk) :=
    { writes := hserde.writes, reads := hserde.reads, text := rustTrim_recoveryChunkJson
      streamId := hstream, messageSeq := hseq, scope := check_bind_eq_ok.mpr ⟨hvalid, rfl⟩
      named := hne, nodup := hnodup, target := rfl }
  exact hmakes.recoveryEntry

end

/-! ## The size of a chunk entry -/

section

variable {config : BroadcasterRedisPublisherConfig} {streamId entryId : String}
  {messageSeq currentTimeMs : UInt64} {chunk : BroadcasterRecoveryChunk}

/-- The arguments of the command before the payload, which is the last one. -/
def chunkArguments (config : BroadcasterRedisPublisherConfig) (streamId entryId : String)
    (messageSeq : UInt64) (chunk : BroadcasterRecoveryChunk) (currentTimeMs : UInt64) :
    List String :=
  ["XADD", config.streamKey] ++ (match config.maxlen with
    | none => []
    | some maxlen => ["MAXLEN", "~", u64ToString maxlen]) ++
  [entryId, "schema_version", redisStreamSchemaVersion, "chain_id", u64ToString config.chainId,
    "stream_id", streamId, "message_seq", u64ToString messageSeq, "state_version",
    u64ToString chunk.targetStateVersion, "kind", "recovery_chunk", "backend_scope",
    backendScopeText chunk.backends, "published_at_ms", u64ToString currentTimeMs, "payload_json"]

/-- The bytes of the command around a payload. -/
def commandBytes (config : BroadcasterRedisPublisherConfig) (streamId entryId : String)
    (messageSeq : UInt64) (chunk : BroadcasterRecoveryChunk) (currentTimeMs : UInt64) : Nat :=
  let arguments := chunkArguments config streamId entryId messageSeq chunk currentTimeMs
  1 + decimalDigits (arguments.length + 1) + 2 + argumentBytes arguments

theorem argumentBytes_append (arguments more : List String) :
    argumentBytes (arguments ++ more) = argumentBytes arguments + argumentBytes more := by
  rw [argumentBytes, List.map_append, List.sum_append, argumentBytes, argumentBytes]

theorem argumentBytes_cons (argument : String) (more : List String) :
    argumentBytes (argument :: more) =
      respBulkStringSize argument.utf8ByteSize + argumentBytes more := by
  rw [argumentBytes, List.map_cons, List.sum_cons, argumentBytes]

theorem argumentBytes_singleton (argument : String) :
    argumentBytes [argument] = respBulkStringSize argument.utf8ByteSize := by
  rw [argumentBytes, List.map_singleton, List.sum_singleton]

theorem length_chunkArguments_le (config : BroadcasterRedisPublisherConfig)
    (streamId entryId : String) (messageSeq : UInt64) (chunk : BroadcasterRecoveryChunk)
    (currentTimeMs : UInt64) :
    (chunkArguments config streamId entryId messageSeq chunk currentTimeMs).length ≤ 23 := by
  rw [chunkArguments]
  cases config.maxlen <;> simp

/-- **The size of a chunk entry**: the command around it, and its payload as an argument. -/
theorem encodedSize_chunkEntry
    (hid : redisEntryId (chunkEntry config streamId messageSeq chunk currentTimeMs) = .ok entryId) :
    redisEntryEncodedSize config (chunkEntry config streamId messageSeq chunk currentTimeMs) =
      .ok (min (commandBytes config streamId entryId messageSeq chunk currentTimeMs +
        respBulkStringSize (recoveryChunkJson streamId messageSeq chunk).utf8ByteSize) usizeMax) := by
  rw [redisEntryEncodedSize, mapError_eq_ok]
  refine bind_eq_ok.mpr ⟨entryId, hid, ?_⟩
  generalize hpayload : recoveryChunkJson streamId messageSeq chunk = payload
  have hlength := length_chunkArguments_le config streamId entryId messageSeq chunk currentTimeMs
  have hcount : (chunkArguments config streamId entryId messageSeq chunk currentTimeMs ++
      [payload]).length =
        (chunkArguments config streamId entryId messageSeq chunk currentTimeMs).length + 1 :=
    List.length_append
  refine congrArg Except.ok ?_
  refine (congrArg respArraySize (?_ : _ =
    chunkArguments config streamId entryId messageSeq chunk currentTimeMs ++ [payload])).trans ?_
  · rw [← hpayload, chunkArguments]
    cases config.maxlen <;> rfl
  rw [respArraySize_eq (by omega), hcount, argumentBytes_append, argumentBytes_singleton,
    commandBytes]
  congr 1
  omega

/-- Only the digits of the time count. -/
theorem commandBytes_congr {other : UInt64}
    (h : decimalDigits other.toNat = decimalDigits currentTimeMs.toNat) :
    commandBytes config streamId entryId messageSeq chunk other =
      commandBytes config streamId entryId messageSeq chunk currentTimeMs := by
  have hbytes : argumentBytes (chunkArguments config streamId entryId messageSeq chunk other) =
      argumentBytes (chunkArguments config streamId entryId messageSeq chunk currentTimeMs) := by
    simp only [chunkArguments, argumentBytes_append, argumentBytes_cons,
      utf8ByteSize_u64ToString, h]
  have hlength : (chunkArguments config streamId entryId messageSeq chunk other).length =
      (chunkArguments config streamId entryId messageSeq chunk currentTimeMs).length := by
    simp only [chunkArguments, List.length_append, List.length_cons, List.length_nil]
  rw [commandBytes, commandBytes, hbytes, hlength]

end

end TychoSimulationServer
