import TychoSimulationServer.SentRecovery
import TychoSimulationServer.RecoveryChunkSize
import TychoSimulationServer.RecoveryCommit

/-!
# A recovery on its way

A sent recovery passes every check of a consumer that is ready for it. Until its commit no backend
changes; the commit builds the backends from what the chunks spell, the replacement of the
transaction, and from the catch-ups, its Buffer A.
-/

namespace TychoSimulationServer

open Fallible JsonText SelfMeasure

variable {Sim : Type}

/-! ## The consumer

As long as the messages are those of the transaction, each of them can only be collected: the
indexes, the digests and the sizes are what the start has promised. -/

section

variable {codec : RecoveryCodec Sim} {config : BroadcasterRedisPublisherConfig}
  {prepared : PreparedBroadcasterRedisSubscription Sim} {sent : SentRecovery Sim}
  {transaction : BroadcasterRecoveryTransaction Sim} {targetStateVersion : UInt64}
  {first last : ReplayMessage Sim} {chunks catchUps : List (ReplayMessage Sim)}

/-- The readers of a backend that is replaced are fenced off. -/
def fencedFor (backends : List BroadcasterBackend) (live : PreparedRedisProcessor Sim) :
    PreparedRedisProcessor Sim :=
  if live.processor.backend ∈ backends then
    { live with processor := { live.processor with store := fenceRequests live.processor.store } }
  else live

/-- A subscription with so much of a recovery. -/
def assembling (prepared : PreparedBroadcasterRedisSubscription Sim)
    (manifest : BroadcasterRecoveryManifest) (chunks : List BroadcasterRecoveryChunk)
    (bufferA : List (BroadcasterRecoveryCatchUp Sim)) : PreparedBroadcasterRedisSubscription Sim :=
  { prepared with
    processors := prepared.processors.map (fencedFor manifest.backends)
    recovery := some { manifest, chunks, bufferA } }

/-- What a consumer must be to take a transaction: it reads the same stream, its backends are older
than the target, and no attempt at the same target is in its hands. -/
structure ReadyFor (prepared : PreparedBroadcasterRedisSubscription Sim)
    (config : BroadcasterRedisPublisherConfig) (backends : List BroadcasterBackend)
    (targetStateVersion : UInt64) : Prop where
  streamKey : prepared.replayBoundary.streamKey = config.streamKey
  maxlen : prepared.redisMaxlen = config.maxlen
  older : ∀ live ∈ prepared.processors, live.processor.backend ∈ backends →
    live.processor.store.version < targetStateVersion
  newTarget : ∀ recovery, prepared.recovery = some recovery →
    recovery.manifest.targetStateVersion ≠ targetStateVersion

/-- A message of a recovery is applied as one. -/
theorem apply_recovery {message : ReplayMessage Sim}
    (h : message.envelope.payload.isRecovery = true) :
    applyReplayMessage codec prepared message = applyRecoveryMessage codec prepared message := by
  rw [applyReplayMessage, h, Bool.true_or, if_pos rfl]

/-- **The start** fences the readers of the named backends and opens the recovery. -/
theorem apply_start (hready : ReadyFor prepared config transaction.backends targetStateVersion)
    (hdescribes : sent.Describes codec.recoveryDigest transaction targetStateVersion)
    (hsent : SentMessages config sent first chunks catchUps last) :
    applyReplayMessage codec prepared first = .ok (assembling prepared sent.manifest [] []) := by
  have hprocessors : prepared.processors.mapM (startRecovery sent.manifest) =
      .ok (prepared.processors.map (fencedFor sent.manifest.backends)) := by
    refine mapM_eq_ok.mpr (List.forall₂_map_right_iff.mpr ?_)
    refine List.forall₂_same.mpr fun live hlive => ?_
    rw [startRecovery, fencedFor]
    split
    case isFalse => rfl
    case isTrue hnamed =>
      rw [check_bind_eq_ok, ensure_eq_ok, hdescribes.target]
      exact ⟨hready.older live hlive ((hdescribes.backends _).mp hnamed), rfl⟩
  have hnew : prepared.recovery.all (·.manifest ≠ sent.manifest) = true := by
    cases hrecovery : prepared.recovery with
    | none => rfl
    | some recovery =>
      refine decide_eq_true fun heq => hready.newTarget recovery hrecovery ?_
      rw [heq]
      exact hdescribes.target
  rw [apply_recovery (by rw [hsent.start]; rfl), applyRecoveryMessage, hsent.start]
  simp only [applyRecoveryStart, check_bind_eq_ok, mapError_eq_ok]
  refine ⟨hdescribes.valid, bind_eq_ok.mpr ⟨_, hsent.watermark, ?_⟩⟩
  simp only [check_bind_eq_ok, ensure_eq_ok]
  exact ⟨trivial, hnew, bind_eq_ok.mpr ⟨_, hprocessors, rfl⟩⟩

/-- **A chunk** is the next one. -/
theorem apply_chunk (hready : ReadyFor prepared config transaction.backends targetStateVersion)
    (hdescribes : sent.Describes codec.recoveryDigest transaction targetStateVersion)
    {i : Nat} {chunk : BroadcasterRecoveryChunk} {message : ReplayMessage Sim}
    (hi : sent.chunks[i]? = some chunk) (hpayload : message.envelope.payload = .recoveryChunk chunk)
    (hsize : replayEntryEncodedSize config.streamKey config.maxlen message.entry =
      .ok chunk.encodedBytes.toNat) :
    applyReplayMessage codec (assembling prepared sent.manifest (sent.chunks.take i) []) message =
      .ok (assembling prepared sent.manifest (sent.chunks.take (i + 1)) []) := by
  have hchunk := hdescribes.chunks i chunk hi
  have hlt := (List.getElem?_eq_some_iff.mp hi).1
  have hheld : (sent.chunks.take i).length = i := by
    rw [List.length_take, Nat.min_eq_left (Nat.le_of_lt hlt)]
  rw [apply_recovery (by rw [hpayload]; rfl), applyRecoveryMessage, hpayload]
  simp only [applyRecoveryChunk, check_bind_eq_ok, mapError_eq_ok]
  refine ⟨hchunk.valid, ?_⟩
  simp only [assembling, check_bind_eq_ok, pure_eq_ok]
  refine ⟨?_, ?_⟩
  · rw [checkRecoveryChunk, validateRecoveryIdentity]
    simp only [check_bind_eq_ok, ensure_eq_ok, hheld, hchunk.index, hready.streamKey, hready.maxlen]
    refine ⟨⟨hchunk.recoveryId, hchunk.target⟩, hchunk.backends, trivial, ?_, hchunk.size,
      bind_eq_ok.mpr ⟨_, mapError_eq_ok.mpr hsize, ?_⟩⟩
    · rw [hdescribes.chunkCount]
      exact hlt
    · rw [check_bind_eq_ok, ensure_eq_ok, ensure_eq_ok, ← hchunk.digest]
      exact ⟨rfl, rfl, hchunk.declared⟩
  · rw [List.take_add_one, hi]
    rfl

/-- **A catch-up** is the next one. -/
theorem apply_catchUp
    (hdescribes : sent.Describes codec.recoveryDigest transaction targetStateVersion)
    {i : Nat} {catchUp : BroadcasterRecoveryCatchUp Sim} {message : ReplayMessage Sim}
    (hi : sent.catchUps[i]? = some catchUp)
    (hpayload : message.envelope.payload = .recoveryCatchUp catchUp) :
    applyReplayMessage codec
        (assembling prepared sent.manifest sent.chunks (sent.catchUps.take i)) message =
      .ok (assembling prepared sent.manifest sent.chunks (sent.catchUps.take (i + 1))) := by
  have hcatchUp := hdescribes.catchUps i catchUp hi
  have hlt := (List.getElem?_eq_some_iff.mp hi).1
  have hheld : (sent.catchUps.take i).length = i := by
    rw [List.length_take, Nat.min_eq_left (Nat.le_of_lt hlt)]
  rw [apply_recovery (by rw [hpayload]; rfl), applyRecoveryMessage, hpayload]
  simp only [applyRecoveryCatchUp, check_bind_eq_ok, mapError_eq_ok]
  refine ⟨hcatchUp.valid, ?_⟩
  simp only [assembling, check_bind_eq_ok, pure_eq_ok]
  refine ⟨?_, ?_⟩
  · rw [checkRecoveryCatchUp, validateRecoveryIdentity]
    simp only [check_bind_eq_ok, ensure_eq_ok, hheld]
    refine ⟨⟨hcatchUp.recoveryId, hcatchUp.target⟩, ?_, hdescribes.chunkCount.symm, hcatchUp.index⟩
    rw [UInt32.lt_iff_toNat_lt, hcatchUp.index, hdescribes.bufferACount]
    exact hlt
  · rw [List.take_add_one, hi]
    rfl

/-- **Everything before the commit** is taken, and nothing is exposed. -/
theorem assemble (hready : ReadyFor prepared config transaction.backends targetStateVersion)
    (hdescribes : sent.Describes codec.recoveryDigest transaction targetStateVersion)
    (hsent : SentMessages config sent first chunks catchUps last) :
    (first :: (chunks ++ catchUps)).foldlM (applyReplayMessage codec) prepared =
      .ok (assembling prepared sent.manifest sent.chunks sent.catchUps) := by
  have hchunks : chunks.foldlM (applyReplayMessage codec)
        (assembling prepared sent.manifest (sent.chunks.take 0) []) =
      .ok (assembling prepared sent.manifest (sent.chunks.take chunks.length) []) :=
    foldlM_states (fun i => assembling prepared sent.manifest (sent.chunks.take i) [])
      fun i message hi => by
        obtain ⟨chunk, hchunk, hpayload, hsize⟩ := forall₂_getElem? hsent.chunks hi
        exact apply_chunk hready hdescribes hchunk hpayload hsize
  have hcatchUps : catchUps.foldlM (applyReplayMessage codec)
        (assembling prepared sent.manifest sent.chunks (sent.catchUps.take 0)) =
      .ok (assembling prepared sent.manifest sent.chunks (sent.catchUps.take catchUps.length)) :=
    foldlM_states (fun i => assembling prepared sent.manifest sent.chunks (sent.catchUps.take i))
      fun i message hi => by
        obtain ⟨catchUp, hcatchUp, hpayload⟩ := forall₂_getElem? hsent.catchUps hi
        exact apply_catchUp hdescribes hcatchUp hpayload
  rw [← hsent.chunks.length_eq, List.take_length] at hchunks
  rw [← hsent.catchUps.length_eq, List.take_length] at hcatchUps
  rw [List.foldlM_cons, apply_start hready hdescribes hsent]
  change (chunks ++ catchUps).foldlM _ _ = _
  rw [List.foldlM_append]
  exact bind_eq_ok.mpr ⟨_, hchunks, hcatchUps⟩

/-! ## What is adopted

At the commit the collected chunks are the replacement, byte for byte. What may still go wrong is in
the replacement itself. -/

/-- **One processor behind a transaction**: a backend that the transaction names has what the
replacement and the updates of Buffer A make of an empty store, at the target version. -/
inductive Adopts (merge : StateSyncMerge) (boundary : BroadcasterRedisReplayBoundary)
    (transaction : BroadcasterRecoveryTransaction Sim) (snapshot : List (BroadcasterEnvelope Sim))
    (live : PreparedRedisProcessor Sim) : PreparedRedisProcessor Sim → Prop
  | replaced {bootstrapped caughtUp : BroadcasterSubscriptionProcessor Sim} :
    live.processor.backend ∈ transaction.backends →
    snapshot.foldlM (fun candidate envelope => candidate.observe merge envelope none)
      (live.processor.recoveryCopy boundary) = .ok bootstrapped →
    bootstrapped.bootstrapComplete = true →
    transaction.bufferA.foldlM (fun candidate update => candidate.applyUpdateMessage update none)
      bootstrapped = .ok caughtUp →
    Adopts merge boundary transaction snapshot live (behind boundary
      { live with processor := { live.processor with
          store := recovered boundary.stateVersion (fenceRequests live.processor.store)
            caughtUp.store } })
  | kept : live.processor.backend ∉ transaction.backends →
    Adopts merge boundary transaction snapshot live (behind boundary live)

theorem Adopts.unique {merge : StateSyncMerge} {boundary : BroadcasterRedisReplayBoundary}
    {snapshot : List (BroadcasterEnvelope Sim)} {live a b : PreparedRedisProcessor Sim}
    (ha : Adopts merge boundary transaction snapshot live a)
    (hb : Adopts merge boundary transaction snapshot live b) : a = b := by
  cases ha with
  | kept hother =>
    cases hb with
    | kept => rfl
    | replaced hnamed => exact absurd hnamed hother
  | replaced hnamed hboot _ hcaught =>
    cases hb with
    | kept hother => exact absurd hnamed hother
    | replaced _ hboot' _ hcaught' =>
      rw [hboot, Except.ok.injEq] at hboot'
      subst hboot'
      rw [hcaught, Except.ok.injEq] at hcaught'
      subst hcaught'
      rfl

/-- The candidate that a commit builds for a backend, in terms of the transaction. -/
theorem recoveryCandidate_eq_ok
    (hdescribes : sent.Describes codec.recoveryDigest transaction targetStateVersion)
    {boundary : BroadcasterRedisReplayBoundary} {snapshot : List (BroadcasterEnvelope Sim)}
    {live : PreparedRedisProcessor Sim} {candidate : PublishedStateStore Sim} :
    (fencedFor sent.manifest.backends live).processor.recoveryCandidate codec.merge boundary snapshot
        sent.catchUps = .ok candidate ↔
      ∃ bootstrapped caughtUp,
        snapshot.foldlM (fun candidate envelope => candidate.observe codec.merge envelope none)
          (live.processor.recoveryCopy boundary) = .ok bootstrapped ∧
        bootstrapped.bootstrapComplete = true ∧
        transaction.bufferA.foldlM (fun candidate update => candidate.applyUpdateMessage update none)
          bootstrapped = .ok caughtUp ∧ caughtUp.store = candidate := by
  have hcopy : (fencedFor sent.manifest.backends live).processor.recoveryCopy boundary =
      live.processor.recoveryCopy boundary := by
    rw [fencedFor]
    split <;> rfl
  rw [BroadcasterSubscriptionProcessor.recoveryCandidate, hcopy, ← hdescribes.updates]
  simp only [bind_eq_ok, ensure_eq_ok, pure_eq_ok, List.foldlM_map]
  constructor
  · rintro ⟨bootstrapped, hboot, -, hlive, caughtUp, hcaught, rfl⟩
    exact ⟨bootstrapped, caughtUp, hboot, hlive, hcaught, rfl⟩
  · rintro ⟨bootstrapped, caughtUp, hboot, hlive, hcaught, rfl⟩
    exact ⟨bootstrapped, hboot, (), hlive, caughtUp, hcaught, rfl⟩

/-- The checks of a commit pass. -/
theorem check_commit
    (hdescribes : sent.Describes codec.recoveryDigest transaction targetStateVersion)
    (hsent : SentMessages config sent first chunks catchUps last) :
    checkRecoveryCommit ⟨sent.manifest, sent.chunks, sent.catchUps⟩ last.entry.messageSeq
      sent.commit = .ok () := by
  have hcommit := hdescribes.commit
  rw [checkRecoveryCommit, validateRecoveryIdentity]
  simp only [check_bind_eq_ok, ensure_eq_ok]
  refine ⟨⟨hcommit.recoveryId, hcommit.target⟩, ⟨hcommit.backends, hcommit.digest,
    hcommit.bufferACount, hcommit.watermark, ?_⟩, hdescribes.chunkCount.symm,
    hdescribes.bufferACount.symm⟩
  rw [hsent.commitSeq, hcommit.watermark]

/-- The replacement that is decoded is the one of the transaction. -/
theorem replacement_eq_ok
    (hdescribes : sent.Describes codec.recoveryDigest transaction targetStateVersion)
    (hbytes : transaction.replacementJson.utf8ByteSize < 2 ^ 64)
    {snapshot : List (BroadcasterEnvelope Sim)} :
    RecoveryAssembly.replacement codec ⟨sent.manifest, sent.chunks, sent.catchUps⟩ = .ok snapshot ↔
      codec.decodeReplacement transaction.replacementJson = .ok snapshot := by
  have htext : RecoveryAssembly.replacementJson
      (⟨sent.manifest, sent.chunks, sent.catchUps⟩ : RecoveryAssembly Sim) =
      transaction.replacementJson := hdescribes.text
  rw [RecoveryAssembly.replacement, htext, check_bind_eq_ok, ensure_eq_ok, mapError_eq_ok,
    hdescribes.bytes, hdescribes.digest, UInt64.toNat_ofNat_of_lt' hbytes]
  exact and_iff_right ⟨rfl, rfl⟩

/-- It matters which backends are named, not in which order. -/
theorem fencedFor_congr {backends others : List BroadcasterBackend}
    (h : ∀ backend, backend ∈ backends ↔ backend ∈ others) :
    (fencedFor backends : PreparedRedisProcessor Sim → _) = fencedFor others := by
  funext live
  rw [fencedFor, fencedFor]
  exact if_congr (h _) rfl rfl

section

variable {boundary : BroadcasterRedisReplayBoundary} {snapshot : List (BroadcasterEnvelope Sim)}

/-- The processors that a commit with these candidates leaves. -/
def committed (prepared : PreparedBroadcasterRedisSubscription Sim)
    (manifest : BroadcasterRecoveryManifest) (boundary : BroadcasterRedisReplayBoundary)
    (candidates : List (Nat × PublishedStateStore Sim)) : List (PreparedRedisProcessor Sim) :=
  ((prepared.processors.map (fencedFor manifest.backends)).mapIdx
    (afterPublication manifest.targetStateVersion candidates)).map (behind boundary)

/-- What is published to the processors is what they adopt. -/
theorem adopts_of_candidates
    (hdescribes : sent.Describes codec.recoveryDigest transaction targetStateVersion)
    (hversion : boundary.stateVersion = sent.manifest.targetStateVersion)
    {candidates : List (Nat × PublishedStateStore Sim)}
    (h : recoveryCandidates codec (prepared.processors.map (fencedFor sent.manifest.backends))
      boundary snapshot ⟨sent.manifest, sent.chunks, sent.catchUps⟩ = .ok candidates) :
    List.Forall₂ (Adopts codec.merge boundary transaction snapshot) prepared.processors
      (committed prepared sent.manifest boundary candidates) := by
  refine forall₂_of_getElem? (by simp [committed]) fun i live live' hlive hlive' => ?_
  have hfenced : (prepared.processors.map (fencedFor sent.manifest.backends))[i]? =
      some (fencedFor sent.manifest.backends live) := by
    rw [List.getElem?_map, hlive]
    rfl
  rw [committed, List.getElem?_map, List.getElem?_mapIdx, hfenced, Option.map_some, Option.map_some,
    Option.some.injEq] at hlive'
  subst hlive'
  -- a backend the recovery names has a candidate, the others have none and stay
  by_cases hnamed : live.processor.backend ∈ sent.manifest.backends
  case pos =>
    have hbackend : (fencedFor sent.manifest.backends live).processor.backend ∈
        sent.manifest.backends := by
      rw [fencedFor, if_pos hnamed]
      exact hnamed
    obtain ⟨candidate, hcandidate, hlookup⟩ := lookup_recoveryCandidates h hfenced hbackend
    obtain ⟨bootstrapped, caughtUp, hboot, hcomplete, hcaught, rfl⟩ :=
      (recoveryCandidate_eq_ok hdescribes).mp hcandidate
    rw [afterPublication, hlookup, fencedFor, if_pos hnamed, ← hversion]
    exact .replaced ((hdescribes.backends _).mp hnamed) hboot hcomplete hcaught
  case neg =>
    have hnone : candidates.lookup i = none := by
      rw [List.lookup_eq_none_iff]
      intro entry hentry
      rw [bne_iff_ne]
      rintro rfl
      obtain ⟨other, hother, hbackend⟩ :=
        (mem_map_fst_recoveryCandidates h).mp (List.mem_map_of_mem hentry)
      rw [hfenced, Option.some.injEq] at hother
      rw [← hother, fencedFor, if_neg hnamed] at hbackend
      exact hnamed hbackend
    rw [afterPublication, hnone, fencedFor, if_neg hnamed]
    exact .kept fun h => hnamed ((hdescribes.backends _).mpr h)

/-- What they can adopt, the commit can build. -/
theorem candidates_of_adopts
    (hdescribes : sent.Describes codec.recoveryDigest transaction targetStateVersion)
    {processors : List (PreparedRedisProcessor Sim)}
    (h : List.Forall₂ (Adopts codec.merge boundary transaction snapshot) prepared.processors
      processors) :
    ∃ candidates, recoveryCandidates codec
      (prepared.processors.map (fencedFor sent.manifest.backends)) boundary snapshot
      ⟨sent.manifest, sent.chunks, sent.catchUps⟩ = .ok candidates := by
  refine exists_mapM_eq_ok.mpr fun item hitem => ?_
  obtain ⟨fenced, index⟩ := item
  rw [List.mem_filter, List.mem_zipIdx_iff_getElem?, List.getElem?_map,
    Option.map_eq_some_iff] at hitem
  obtain ⟨⟨live, hlive, rfl⟩, hnamed⟩ := hitem
  have hbackend : live.processor.backend ∈ sent.manifest.backends := by
    by_contra hnot
    rw [decide_eq_true_eq] at hnamed
    rw [fencedFor, if_neg hnot] at hnamed
    exact hnot hnamed
  obtain ⟨hlt, hget⟩ := List.getElem?_eq_some_iff.mp hlive
  have hadopts := h.get hlt (h.length_eq ▸ hlt)
  rw [List.get_eq_getElem, hget] at hadopts
  generalize processors.get _ = live' at hadopts
  cases hadopts with
  | kept hother => exact absurd ((hdescribes.backends _).mp hbackend) hother
  | @replaced bootstrapped caughtUp _ hboot hcomplete hcaught =>
    have hcandidate := (recoveryCandidate_eq_ok hdescribes).mpr
      ⟨bootstrapped, caughtUp, hboot, hcomplete, hcaught, rfl⟩
    exact ⟨_, bind_eq_ok.mpr ⟨_, hcandidate, rfl⟩⟩

/-- The plan of the commit of a sent recovery. -/
theorem planCommit_sent
    (hdescribes : sent.Describes codec.recoveryDigest transaction targetStateVersion)
    (hsent : SentMessages config sent first chunks catchUps last)
    (hbytes : transaction.replacementJson.utf8ByteSize < 2 ^ 64)
    (hboundary : commitBoundary prepared.replayBoundary last.entry.messageSeq sent.manifest =
      .ok boundary) {plan : CommitPlan Sim} :
    planCommit codec (assembling prepared sent.manifest sent.chunks sent.catchUps)
        last.entry.messageSeq sent.commit = .ok plan ↔
      plan.recovery = ⟨sent.manifest, sent.chunks, sent.catchUps⟩ ∧ plan.boundary = boundary ∧
        codec.decodeReplacement transaction.replacementJson = .ok plan.snapshot ∧
        recoveryCandidates codec (prepared.processors.map (fencedFor sent.manifest.backends))
          boundary plan.snapshot ⟨sent.manifest, sent.chunks, sent.catchUps⟩ =
            .ok plan.candidates := by
  obtain ⟨recovery, snapshot, planBoundary, candidates⟩ := plan
  rw [planCommit_eq_ok]
  constructor
  · rintro ⟨hrecovery, -, hsnapshot, hplanBoundary, hcandidates⟩
    have hsame : ⟨sent.manifest, sent.chunks, sent.catchUps⟩ = recovery := Option.some.inj hrecovery
    subst hsame
    obtain rfl := Except.ok.inj (hboundary.symm.trans hplanBoundary)
    exact ⟨rfl, rfl, (replacement_eq_ok hdescribes hbytes).mp hsnapshot, hcandidates⟩
  · rintro ⟨hrecovery, hplanBoundary, hsnapshot, hcandidates⟩
    change recovery = _ at hrecovery
    change planBoundary = boundary at hplanBoundary
    subst hrecovery hplanBoundary
    exact ⟨rfl, check_commit hdescribes hsent, (replacement_eq_ok hdescribes hbytes).mpr hsnapshot,
      hboundary, hcandidates⟩

/-- **A commit in a subscription** that can be reached, unless it has the last number. -/
theorem applyRecoveryCommit_eq_ok {entry : BroadcasterRedisStreamEntry}
    {commit : BroadcasterRecoveryCommit} {done : PreparedBroadcasterRedisSubscription Sim}
    (hinv : SubscriptionInvariant prepared) (hvalid : validateRecoveryCommit commit = .ok ())
    (hlast : entry.messageSeq.toNat ≠ 2 ^ 64 - 1) :
    applyRecoveryCommit codec prepared entry commit = .ok done ↔
      ∃ plan, planCommit codec prepared entry.messageSeq commit = .ok plan ∧
        done = { prepared with
          processors := (prepared.published plan.recovery.manifest.targetStateVersion
            plan.candidates).processors.map (behind plan.boundary)
          replayBoundary := plan.boundary, recovery := none } := by
  rw [applyRecoveryCommit, check_bind_eq_ok, mapError_eq_ok, and_iff_right hvalid,
    exec_commitRecovery]
  cases hplan : planCommit codec prepared entry.messageSeq commit with
  | error error =>
    constructor
    · rintro ⟨⟩
    · rintro ⟨plan, ⟨⟩, -⟩
  | ok plan =>
    simp only [exec_publishPlan hinv hplan fun _ => hlast]
    constructor
    · intro h
      exact ⟨plan, rfl, (pure_eq_ok.mp h).symm⟩
    · rintro ⟨other, hother, rfl⟩
      obtain rfl := Except.ok.inj hother
      rfl

/-- **The commit of a sent recovery**: it is adopted exactly when the replacement can be decoded and
every backend can be built from it. -/
theorem adopt (hinv : SubscriptionInvariant (assembling prepared sent.manifest sent.chunks
      sent.catchUps))
    (hdescribes : sent.Describes codec.recoveryDigest transaction targetStateVersion)
    (hsent : SentMessages config sent first chunks catchUps last)
    (hbytes : transaction.replacementJson.utf8ByteSize < 2 ^ 64)
    (hlast : last.entry.messageSeq.toNat ≠ 2 ^ 64 - 1)
    (hboundary : commitBoundary prepared.replayBoundary last.entry.messageSeq sent.manifest =
      .ok boundary) (hversion : boundary.stateVersion = sent.manifest.targetStateVersion)
    {done : PreparedBroadcasterRedisSubscription Sim} :
    applyReplayMessage codec (assembling prepared sent.manifest sent.chunks sent.catchUps) last =
        .ok done ↔
      ∃ snapshot, codec.decodeReplacement transaction.replacementJson = .ok snapshot ∧
        List.Forall₂ (Adopts codec.merge boundary transaction snapshot) prepared.processors
          done.processors ∧
        done = { prepared with
          processors := done.processors, replayBoundary := boundary, recovery := none } := by
  rw [apply_recovery (by rw [hsent.commit]; rfl), applyRecoveryMessage, hsent.commit]
  simp only [applyRecoveryCommit_eq_ok hinv hdescribes.commit.valid hlast,
    planCommit_sent hdescribes hsent hbytes hboundary]
  constructor
  · rintro ⟨⟨_, snapshot, _, candidates⟩, ⟨hrecovery, hplanBoundary, hsnapshot, hcandidates⟩, rfl⟩
    change _ = _ at hrecovery
    change _ = boundary at hplanBoundary
    subst hrecovery hplanBoundary
    exact ⟨snapshot, hsnapshot, adopts_of_candidates hdescribes hversion hcandidates, rfl⟩
  · rintro ⟨snapshot, hsnapshot, hadopts, hdone⟩
    obtain ⟨candidates, hcandidates⟩ := candidates_of_adopts hdescribes hadopts
    -- adopting leaves no choice, so what was adopted is what the commit computes
    have hunique : Relator.RightUnique (Adopts codec.merge boundary transaction snapshot) :=
      fun _ _ _ ha hb => ha.unique hb
    have hsame := hunique.forall₂ hadopts (adopts_of_candidates hdescribes hversion hcandidates)
    refine ⟨⟨_, snapshot, boundary, candidates⟩, ⟨rfl, rfl, hsnapshot, hcandidates⟩, ?_⟩
    rw [hdone, hsame]
    rfl

end

end

/-! ## From the publisher to the consumer

The entries as they were built, the messages as they were read. In between serde writes and reads
the envelopes. -/

/-- A boundary that could be built. -/
structure BroadcasterRedisReplayBoundary.WellFormed (boundary : BroadcasterRedisReplayBoundary) :
    Prop where
  streamKey : rustTrim boundary.streamKey ≠ ""
  streamId : rustTrim boundary.streamId ≠ ""
  snapshotId : rustTrim boundary.snapshotId ≠ ""
  generation : boundary.generation ≠ 0

section

variable {json : EnvelopeJson Sim} {codec : RecoveryCodec Sim}
  {config : BroadcasterRedisPublisherConfig} {streamId : String}
  {nextMessageSeq targetStateVersion : UInt64} {transaction : BroadcasterRecoveryTransaction Sim}
  {clock : RecoveryClock} {entries : List BroadcasterRedisStreamEntry}
  {messages : List (ReplayMessage Sim)} {prepared : PreparedBroadcasterRedisSubscription Sim}

theorem steps_of_foldlM {done : PreparedBroadcasterRedisSubscription Sim}
    (h : messages.foldlM (applyReplayMessage codec) prepared = .ok done) :
    (subscriptionMachine codec).Steps prepared done := by
  induction messages generalizing prepared with
  | nil =>
    obtain rfl := Except.ok.inj h
    exact .refl
  | cons message messages ih =>
    rw [List.foldlM_cons] at h
    obtain ⟨next, hnext, h⟩ := bind_eq_ok.mp h
    exact .head (.inl ⟨message, hnext⟩) (ih h)

/-- A message that is collected for a recovery leaves the processors alone. -/
theorem collected_processors {message : ReplayMessage Sim}
    {next : PreparedBroadcasterRedisSubscription Sim}
    (hkind : (∃ chunk, message.envelope.payload = .recoveryChunk chunk) ∨
      ∃ catchUp, message.envelope.payload = .recoveryCatchUp catchUp)
    (h : applyReplayMessage codec prepared message = .ok next) :
    next.processors = prepared.processors := by
  rcases hkind with ⟨chunk, hpayload⟩ | ⟨catchUp, hpayload⟩
  · rw [apply_recovery (by rw [hpayload]; rfl), applyRecoveryMessage, hpayload] at h
    simp only [applyRecoveryChunk, check_bind_eq_ok] at h
    obtain ⟨-, h⟩ := h
    split at h
    · cases h
    · rw [check_bind_eq_ok, pure_eq_ok] at h
      rw [← h.2]
  · rw [apply_recovery (by rw [hpayload]; rfl), applyRecoveryMessage, hpayload] at h
    simp only [applyRecoveryCatchUp, check_bind_eq_ok] at h
    obtain ⟨-, h⟩ := h
    split at h
    · cases h
    · rw [check_bind_eq_ok, pure_eq_ok] at h
      rw [← h.2]

theorem collected_all {next : PreparedBroadcasterRedisSubscription Sim}
    (hkinds : ∀ message ∈ messages, (∃ chunk, message.envelope.payload = .recoveryChunk chunk) ∨
      ∃ catchUp, message.envelope.payload = .recoveryCatchUp catchUp)
    (h : messages.foldlM (applyReplayMessage codec) prepared = .ok next) :
    next.processors = prepared.processors := by
  refine foldlM_induction (fun _ between => between.processors = prepared.processors) rfl
    (fun _ message between after hmem hbetween hafter => ?_) h
  rw [collected_processors (hkinds message hmem) hafter, hbetween]

/-- **Before its commit** a recovery changes no backend: the readers of those it names are fenced
off, whatever has been read of it. -/
theorem before_commit {sent : SentRecovery Sim} {first last : ReplayMessage Sim}
    {chunks catchUps read : List (ReplayMessage Sim)}
    (hready : ReadyFor prepared config transaction.backends targetStateVersion)
    (hdescribes : sent.Describes codec.recoveryDigest transaction targetStateVersion)
    (hsent : SentMessages config sent first chunks catchUps last)
    (hread : read <+: first :: (chunks ++ catchUps)) (hne : read ≠ []) :
    ∃ before, read.foldlM (applyReplayMessage codec) prepared = .ok before ∧
      before.processors = prepared.processors.map (fencedFor transaction.backends) := by
  obtain ⟨before, hbefore⟩ := foldlM_prefix_ok (assemble hready hdescribes hsent) hread
  refine ⟨before, hbefore, ?_⟩
  cases read with
  | nil => exact absurd rfl hne
  | cons message read =>
    obtain ⟨rfl, hmore⟩ := List.cons_prefix_cons.mp hread
    rw [List.foldlM_cons, apply_start hready hdescribes hsent] at hbefore
    refine (collected_all ?_ hbefore).trans ?_
    case refine_2 =>
      rw [← fencedFor_congr hdescribes.backends]
      rfl
    case refine_1 =>
      intro message hmessage
      rcases List.mem_append.mp (hmore.subset hmessage) with hmessage | hmessage
      · obtain ⟨i, hi⟩ := List.mem_iff_getElem?.mp hmessage
        obtain ⟨chunk, -, hpayload, -⟩ := forall₂_getElem? hsent.chunks hi
        exact .inl ⟨chunk, hpayload⟩
      · obtain ⟨i, hi⟩ := List.mem_iff_getElem?.mp hmessage
        obtain ⟨catchUp, -, hpayload⟩ := forall₂_getElem? hsent.catchUps hi
        exact .inr ⟨catchUp, hpayload⟩

/-- **A recovery arrives as it was sent.** A consumer that reads all entries of a transaction
exposes nothing before the commit, and adopts the transaction with it exactly when the replacement
can be decoded and every backend can be built from it. -/
theorem recovery_transaction_adopted
    (hentries : recoveryEntries json config codec.recoveryDigest streamId nextMessageSeq
      targetStateVersion transaction clock = .ok entries) (hserde : ReadsBackAll json entries)
    (hmessages : List.Forall₂ (ReadsAs json) entries messages)
    (hbytes : transaction.replacementJson.utf8ByteSize < 2 ^ 64)
    (hroom : nextMessageSeq.toNat + messages.length < 2 ^ 64)
    (hreachable : (subscriptionMachine codec).Reachable prepared)
    (hready : ReadyFor prepared config transaction.backends targetStateVersion)
    (hwell : prepared.replayBoundary.WellFormed) :
    (∀ read, read <+: messages.dropLast → read ≠ [] → ∃ before,
      read.foldlM (applyReplayMessage codec) prepared = .ok before ∧
        before.processors = prepared.processors.map (fencedFor transaction.backends)) ∧
    ∀ done, messages.foldlM (applyReplayMessage codec) prepared = .ok done ↔
      ∃ snapshot boundary, codec.decodeReplacement transaction.replacementJson = .ok snapshot ∧
        boundary = { prepared.replayBoundary with
          exclusiveMessageSeq := .ofNat (nextMessageSeq.toNat + messages.length - 1)
          stateVersion := targetStateVersion } ∧
        List.Forall₂ (Adopts codec.merge boundary transaction snapshot) prepared.processors
          done.processors ∧
        done = { prepared with
          processors := done.processors, replayBoundary := boundary, recovery := none } := by
  obtain ⟨sent, first, last, chunks, catchUps, rfl, hfirst, hdescribes, hsent⟩ :=
    recoveryEntries_sent hentries hserde hmessages
  have hassemble := assemble hready hdescribes hsent
  have hinv := invariant_reachable (hreachable.steps (steps_of_foldlM hassemble))
  -- the commit follows the start, the chunks and the catch-ups
  have hseq : last.entry.messageSeq =
        .ofNat (nextMessageSeq.toNat + (first :: (chunks ++ catchUps) ++ [last]).length - 1) ∧
      last.entry.messageSeq.toNat ≠ 2 ^ 64 - 1 := by
    have hwatermark := hsent.watermark
    rw [hfirst, expectedCommit, hdescribes.chunkCount, hdescribes.bufferACount,
      hsent.chunks.length_eq, hsent.catchUps.length_eq, check_bind_eq_ok, ensure_eq_ok,
      pure_eq_ok] at hwatermark
    have hlength : nextMessageSeq.toNat + (first :: (chunks ++ catchUps) ++ [last]).length - 1 =
        nextMessageSeq.toNat + chunks.length + catchUps.length + 1 := by
      simp
      omega
    simp only [List.length_append, List.length_cons, List.length_nil] at hroom
    rw [hlength, hsent.commitSeq, ← hwatermark.2, UInt64.toNat_ofNat_of_lt' hwatermark.1]
    exact ⟨rfl, by omega⟩
  have hboundary : commitBoundary prepared.replayBoundary last.entry.messageSeq sent.manifest = .ok
      { prepared.replayBoundary with
        exclusiveMessageSeq := last.entry.messageSeq, stateVersion := targetStateVersion } := by
    rw [commitBoundary, mapError_eq_ok, boundary_new_eq_ok, hdescribes.target]
    exact ⟨hwell.streamKey, hwell.streamId, hwell.snapshotId, hwell.generation, rfl⟩
  constructor
  · intro read hread hne
    rw [List.dropLast_concat] at hread
    exact before_commit hready hdescribes hsent hread hne
  · intro done
    have hlastStep : (first :: (chunks ++ catchUps) ++ [last]).foldlM (applyReplayMessage codec)
        prepared = .ok done ↔ applyReplayMessage codec
          (assembling prepared sent.manifest sent.chunks sent.catchUps) last = .ok done := by
      rw [List.foldlM_append, hassemble]
      change [last].foldlM (applyReplayMessage codec) _ = .ok done ↔ _
      simp only [List.foldlM_cons, List.foldlM_nil, bind_pure]
    rw [hlastStep, adopt hinv hdescribes hsent hbytes hseq.2 hboundary hdescribes.target.symm,
      ← hseq.1]
    constructor
    · rintro ⟨snapshot, hsnapshot, hadopts, hdone⟩
      exact ⟨snapshot, _, hsnapshot, rfl, hadopts, hdone⟩
    · rintro ⟨snapshot, _, hsnapshot, rfl, hadopts, hdone⟩
      exact ⟨snapshot, hsnapshot, hadopts, hdone⟩

end

/-!
## A recovery in two chunks

The pool of the replacement has a book of three and a half million letters. The first window of the
JSON ends with the last of them, so what follows the book is a chunk of its own. An update comes
while the replacement is serialised: it stands between the chunks and the commit.
-/

/-- So many letters. -/
@[irreducible] def letters (n : Nat) : String := String.ofList (List.replicate n 'a')

/-- A pool whose book is so many letters. -/
def bookPool (n : Nat) : BroadcasterStateEntry String :=
  { componentId := "pool", component := hashflowPool
    state := "\x7b\"data\":\"" ++ letters n ++ "\"\x7d" }

/-- The snapshot chunk with that pool. -/
def bookSnapshotChunk (n : Nat) : BroadcasterEnvelope String :=
  ⟨"chain-1-recovery-1", 2, .snapshotChunk ⟨"chain-1-recovery-snapshot-1", 0,
    [.new .rfq 2 [bookPool n] ∅]⟩⟩

/-- The envelopes of a replacement with that pool. -/
def bookEnvelopes (n : Nat) : List (BroadcasterEnvelope String) :=
  [⟨"chain-1-recovery-1", 1, .snapshotStart ⟨"chain-1-recovery-snapshot-1", 1, [.rfq], 1⟩⟩,
    bookSnapshotChunk n,
    ⟨"chain-1-recovery-1", 3, .snapshotEnd ⟨"chain-1-recovery-snapshot-1"⟩⟩]

/-- Their JSON up to the letters. -/
def bookFront : String :=
  "[\x7b\"stream_id\":\"chain-1-recovery-1\",\"message_seq\":1,\"kind\":\"snapshot_start\"," ++
  "\"snapshotId\":\"chain-1-recovery-snapshot-1\",\"chainId\":1,\"backends\":[\"rfq\"]," ++
  "\"totalChunks\":1\x7d,\x7b\"stream_id\":\"chain-1-recovery-1\",\"message_seq\":2," ++
  "\"kind\":\"snapshot_chunk\",\"snapshotId\":\"chain-1-recovery-snapshot-1\"," ++
  "\"chunkIndex\":0,\"partitions\":[\x7b\"backend\":\"rfq\",\"blockNumber\":2," ++
  "\"states\":[\x7b\"componentId\":\"pool\",\"component\":\x7b\"id\":\"0x\"," ++
  "\"protocol_system\":\"rfq:hashflow\",\"protocol_type_name\":\"hashflow_pool\"," ++
  "\"tokens\":[]\x7d,\"state\":\x7b\"data\":\""

/-- Their JSON after the letters. -/
def bookBack : String :=
  "\"\x7d\x7d]\x7d]\x7d,\x7b\"stream_id\":\"chain-1-recovery-1\",\"message_seq\":3," ++
  "\"kind\":\"snapshot_end\",\"snapshotId\":\"chain-1-recovery-snapshot-1\"\x7d]"

/-- The digests of a window that ends with three and a half million letters, of the rest, and of
both. -/
def bookDigests : String × String × String :=
  ("d409922f365df703ee9dee90c35368758dfdad5563d26efdb782057d28b0bd6b",
    "75f7032219534b937e8e42653d9b2665e980106d84dcf51d265851da69e9d8ef",
    "42117be44cff4bf3ee06d46754f5086ce691cfb0575302229fbc8ab1d7c0fec7")

/-- The first fragment. -/
def firstFragment : PreparedRecoveryFragment :=
  { payload := bookFront ++ letters 3499500, digest := bookDigests.1 }

/-- The second. -/
def secondFragment : PreparedRecoveryFragment :=
  { payload := bookBack, digest := bookDigests.2.1 }

/-- The replacement. -/
def bookReplacement : String := firstFragment.payload ++ secondFragment.payload

/-- The digest and the JSON of the replacement. -/
def bookCodec : RecoveryCodec String where
  recoveryDigest text :=
    if text = firstFragment.payload then bookDigests.1
    else if text = secondFragment.payload then bookDigests.2.1
    else bookDigests.2.2
  decodeReplacement text :=
    if text = bookReplacement then .ok (bookEnvelopes 3499500) else .error "not in this sample"
  merge := keepIncoming

/-- An update that comes while the replacement is serialised. -/
def bookUpdate : BroadcasterUpdateMessage String :=
  { partitions := [{ backend := .rfq, blockNumber := 3, messages := [], newPairs := []
                     updatedStates := [⟨"pool", .rfq, "\x7b\"data\":\"\"\x7d"⟩], removedPairs := []
                     syncStatuses := ∅ }] }

/-- The transaction. -/
def bookTransaction : BroadcasterRecoveryTransaction String :=
  { recoveryId := "recovery-1", backends := [.rfq], replacementJson := bookReplacement
    bufferA := [bookUpdate] }

/-- The state version of the first recovery of the fifth generation. -/
def bookTarget : UInt64 := 1407374883553281

/-- The scope of its entries. -/
def bookScope : RecoveryEntryScope :=
  { recoveryId := "recovery-1", targetStateVersion := bookTarget, backends := [.rfq] }

/-- The manifest of its start, at message 2. -/
def bookManifest : BroadcasterRecoveryManifest :=
  { recoveryId := "recovery-1", targetStateVersion := bookTarget, backends := [.rfq]
    chunkCount := 2, replacementEncodedBytes := 3500124, chunkEncodedBytes := [3500687, 745]
    chunkDigests := [bookDigests.1, bookDigests.2.1], replacementDigest := bookDigests.2.2
    bufferACount := 1, commitWatermark := 6 }

/-- Its catch-up. -/
def bookCatchUp : BroadcasterRecoveryCatchUp String :=
  { recoveryId := "recovery-1", targetStateVersion := bookTarget, blockIndex := 0
    update := bookUpdate }

/-- Its commit. -/
def bookCommit : BroadcasterRecoveryCommit :=
  { recoveryId := "recovery-1", targetStateVersion := bookTarget, backends := [.rfq]
    replacementDigest := bookDigests.2.2, bufferACount := 1, commitWatermark := 6 }

/-- An envelope of the stream. -/
def bookEnvelope (seq : UInt64) (payload : BroadcasterPayload String) :
    BroadcasterEnvelope String :=
  { streamId := formatRedisStreamId sampleConfig.chainId 5, messageSeq := seq, payload }

/-- The JSON of the start. -/
def bookStartJson : String :=
  envelopeHead (formatRedisStreamId sampleConfig.chainId 5) 2 ++
  ",\"kind\":\"recovery_start\"," ++
  "\"manifest\":\x7b\"recoveryId\":\"recovery-1\",\"targetStateVersion\":1407374883553281," ++
  "\"backends\":[\"rfq\"],\"chunkCount\":2,\"replacementEncodedBytes\":3500124," ++
  "\"chunkEncodedBytes\":[3500687,745],\"chunkDigests\":[\"" ++ bookDigests.1 ++ "\",\"" ++
  bookDigests.2.1 ++ "\"],\"replacementDigest\":\"" ++ bookDigests.2.2 ++
  "\",\"bufferACount\":1,\"commitWatermark\":6\x7d\x7d"

/-- The JSON of the catch-up. -/
def bookCatchUpJson : String :=
  envelopeHead (formatRedisStreamId sampleConfig.chainId 5) 5 ++
  ",\"kind\":\"recovery_catch_up\"," ++
  "\"recoveryId\":\"recovery-1\",\"targetStateVersion\":1407374883553281,\"blockIndex\":0," ++
  "\"update\":\x7b\"partitions\":[\x7b\"backend\":\"rfq\",\"blockNumber\":3," ++
  "\"updatedStates\":[\x7b\"componentId\":\"pool\",\"backend\":\"rfq\"," ++
  "\"state\":\x7b\"data\":\"\"\x7d\x7d]\x7d]\x7d\x7d"

/-- The JSON of the commit. -/
def bookCommitJson : String :=
  envelopeHead (formatRedisStreamId sampleConfig.chainId 5) 6 ++
  ",\"kind\":\"recovery_commit\"," ++
  "\"recoveryId\":\"recovery-1\",\"targetStateVersion\":1407374883553281,\"backends\":[\"rfq\"]," ++
  "\"replacementDigest\":\"" ++ bookDigests.2.2 ++ "\",\"bufferACount\":1," ++
  "\"commitWatermark\":6\x7d"

/-- The envelopes around the chunks, with their JSON. -/
def bookTexts : List (BroadcasterEnvelope String × String) :=
  [(bookEnvelope 2 (.recoveryStart ⟨bookManifest⟩), bookStartJson),
    (bookEnvelope 5 (.recoveryCatchUp bookCatchUp), bookCatchUpJson),
    (bookEnvelope 6 (.recoveryCommit bookCommit), bookCommitJson)]

/-- The chunk of a fragment that names some size. -/
def bookChunk (i : Nat) (fragment : PreparedRecoveryFragment) (encodedBytes : UInt64) :
    BroadcasterRecoveryChunk :=
  { bookScope.chunk i fragment 1 with encodedBytes }

/-- serde on the chunk of a fragment. -/
def fragmentCodec (i : Nat) (fragment : PreparedRecoveryFragment) : EnvelopeJson String :=
  chunkCodec (formatRedisStreamId sampleConfig.chainId 5) (.ofNat (3 + i))
    (bookScope.chunk i fragment 1)

/-- The number in a text. -/
def messageSeqOf (text : String) : Option UInt64 :=
  parseU64 (String.ofList ((text.toList.drop 46).takeWhile Char.isDigit))

/-- serde on the texts of the transaction, whatever size its chunks name. -/
def bookJson : EnvelopeJson String where
  toString envelope :=
    match envelope.payload with
    | .recoveryChunk chunk =>
      let first := bookChunk 0 firstFragment chunk.encodedBytes
      let second := bookChunk 1 secondFragment chunk.encodedBytes
      if envelope = bookEnvelope 3 (.recoveryChunk first) ∨
          envelope = bookEnvelope 4 (.recoveryChunk second) then
        .ok (recoveryChunkJson envelope.streamId envelope.messageSeq chunk)
      else .error "not in this sample"
    | _ => (EnvelopeJson.ofTable bookTexts).toString envelope
  fromStr text :=
    match messageSeqOf text with
    | some 3 => (fragmentCodec 0 firstFragment).fromStr text
    | some 4 => (fragmentCodec 1 secondFragment).fromStr text
    | _ => (EnvelopeJson.ofTable bookTexts).fromStr text

/-- The boundary of the bootstrap. -/
def bookBoundary : BroadcasterRedisReplayBoundary :=
  { streamKey := "deltas", streamId := "chain-1-stream-5", snapshotId := "chain-1-snapshot-5"
    generation := 5, exclusiveMessageSeq := 1, stateVersion := 1407374883553280 }

/-- A snapshot without a pool. -/
def emptySession : List (BroadcasterEnvelope String) :=
  [⟨"chain-1-stream-5", 1, .snapshotStart ⟨"chain-1-snapshot-5", 1, [.rfq], 1⟩⟩,
    ⟨"chain-1-stream-5", 2, .snapshotChunk ⟨"chain-1-snapshot-5", 0, [.new .rfq 1 []
      ((∅ : SyncStatuses).insert "rfq:hashflow" (.fromSynchronizerState .started))]⟩⟩,
    ⟨"chain-1-stream-5", 3, .snapshotEnd ⟨"chain-1-snapshot-5"⟩⟩]

/-- The processor of the RFQ backend before its bootstrap. -/
def bookProcessor : BroadcasterSubscriptionProcessor String where
  expectedChainId := 1
  backend := .rfq
  backendLabel := "rfq"
  decoder := { merge := fun _ update => update, decodeProtocolMessages := fun _ => .ok none }
  tokenSnapshot := ∅
  wrappedNativeToken := none
  store := .empty ∅ none
  tracker := .new
  rawSnapshot := ∅
  bootstrapRedisReplayBoundary := none

/-! ### Its consumer -/

/-- The subscription after its bootstrap. -/
theorem book_booted : ∃ live, prepareBroadcasterRedisSubscription bookCodec [bookProcessor]
    bookBoundary emptySession none = .ok
      { processors := [⟨live, bookBoundary⟩], replayBoundary := bookBoundary, recovery := none
        redisMaxlen := none } ∧
    live.backend = .rfq ∧ live.store.version = bookBoundary.stateVersion ∧
      ∀ boundary, live.recoveryCopy boundary = bookProcessor.recoveryCopy boundary :=
  ⟨_, rfl, rfl, rfl, fun _ => rfl⟩

theorem wellPlaced_bookPool (n : Nat) :
    (BroadcasterSnapshotPartition.new .rfq 2 [bookPool n] ∅).WellPlaced := by
  have hbackend : (ProtocolKind.fromComponent hashflowPool).map backendForKind = some .rfq := by
    decide
  obtain ⟨kind, hkind, hrfq⟩ := Option.map_eq_some_iff.mp hbackend
  refine ⟨?_, ?_, ?_⟩
  · intro m hm
    cases hm
  · intro s hs
    obtain rfl := List.mem_singleton.mp hs
    change backendForComponent "pool" hashflowPool = .ok .rfq
    rw [backendForComponent, hkind, ← hrfq]
  · intro protocol hprotocol
    exact absurd hprotocol Std.ExtTreeMap.not_mem_empty

/-- **The replacement** bootstraps a fresh processor, and the update is applied on top. -/
theorem book_caughtUp (merge : StateSyncMerge) (boundary : BroadcasterRedisReplayBoundary)
    (n : Nat) : ∃ bootstrapped caughtUp : BroadcasterSubscriptionProcessor String,
      (bookEnvelopes n).foldlM (fun candidate envelope => candidate.observe merge envelope none)
        (bookProcessor.recoveryCopy boundary) = .ok bootstrapped ∧
      bootstrapped.bootstrapComplete = true ∧
      [bookUpdate].foldlM (fun candidate update => candidate.applyUpdateMessage update none)
        bootstrapped = .ok caughtUp := by
  -- the pool belongs to the backend, so the tracker takes the chunk
  have hchunk : ∃ event, exec (observe (bookSnapshotChunk n))
      ⟨.snapshot ⟨"chain-1-recovery-1", 1, "chain-1-recovery-snapshot-1", {.rfq}, ∅, 0, 1⟩,
        some 2⟩ = (.ok event, ⟨.snapshot ⟨"chain-1-recovery-1", 1, "chain-1-recovery-snapshot-1",
          {.rfq}, {.rfq}, 1, 1⟩, some 3⟩) := by
    refine observe_snapshot_ok.mpr ⟨⟨rfl, rfl, ?_⟩, .inl ⟨⟨_, rfl, rfl, rfl, by decide, ?_⟩,
      ⟨List.nodup_singleton _, ?_⟩, rfl⟩⟩
    · exact (by decide : (2 : UInt64).toNat ≠ 2 ^ 64 - 1)
    · intro partition hpartition
      rw [List.mem_singleton.mp hpartition]
      exact Finset.mem_singleton_self _
    · intro partition hpartition
      rw [List.mem_singleton.mp hpartition]
      exact wellPlaced_bookPool n
  obtain ⟨event, hchunk⟩ := hchunk
  let started (observed : Finset BroadcasterBackend) (chunks : UInt32) (next : UInt64)
      (store : PublishedStateStore String) : BroadcasterSubscriptionProcessor String :=
    { bookProcessor.recoveryCopy boundary with
      store
      tracker := ⟨.snapshot ⟨"chain-1-recovery-1", 1, "chain-1-recovery-snapshot-1", {.rfq},
        observed, chunks, 1⟩, some next⟩ }
  have hloaded : ∃ store, (started ∅ 0 2 (.empty ∅ none)).observe merge (bookSnapshotChunk n) none =
      .ok (started {.rfq} 1 3 store) := by
    rw [BroadcasterSubscriptionProcessor.observe, hchunk]
    exact ⟨_, rfl⟩
  obtain ⟨store, hloaded⟩ := hloaded
  obtain ⟨bootstrapped, hend, hlive, caughtUp, hcaught⟩ : ∃ bootstrapped,
      (started {.rfq} 1 3 store).observe merge
        ⟨"chain-1-recovery-1", 3, .snapshotEnd ⟨"chain-1-recovery-snapshot-1"⟩⟩ none =
          .ok bootstrapped ∧
      bootstrapped.bootstrapComplete = true ∧
      ∃ caughtUp, bootstrapped.applyUpdateMessage bookUpdate none = .ok caughtUp :=
    ⟨_, rfl, rfl, _, rfl⟩
  refine ⟨bootstrapped, caughtUp, ?_, hlive, bind_eq_ok.mpr ⟨_, hcaught, rfl⟩⟩
  refine bind_eq_ok.mpr ⟨started ∅ 0 2 (.empty ∅ none), rfl, ?_⟩
  exact bind_eq_ok.mpr ⟨_, hloaded, bind_eq_ok.mpr ⟨_, hend, rfl⟩⟩

/-! ### Its fragments -/

theorem book_bytes : bookFront.utf8ByteSize = 500 ∧ bookBack.utf8ByteSize = 124 := by
  decide +kernel

theorem book_escaped : escapedSize bookFront = 573 ∧ escapedSize bookBack = 139 := by
  -- literal by literal
  unfold bookFront bookBack
  simp only [escapedSize_append]
  decide +kernel

theorem utf8ByteSize_letters (n : Nat) : (letters n).utf8ByteSize = n := by
  rw [← String.utf8Len_toList, letters, String.toList_ofList]
  induction n with
  | zero => rfl
  | succ n ih =>
    rw [List.replicate_succ, String.utf8Len_cons, ih]
    rfl

theorem escapedSize_letters (n : Nat) : escapedSize (letters n) = n := by
  have hletter : String.utf8Len (escapeChar 'a') = 1 := by decide
  rw [escapedSize, letters, String.toList_ofList, utf8Len_escape_replicate, hletter, Nat.mul_one]

theorem firstFragment_bytes : firstFragment.payload.utf8ByteSize = 3500000 := by
  rw [firstFragment, String.utf8ByteSize_append, utf8ByteSize_letters, book_bytes.1]

theorem secondFragment_bytes : secondFragment.payload.utf8ByteSize = 124 := book_bytes.2

theorem bookReplacement_bytes : bookReplacement.utf8ByteSize = 3500124 := by
  rw [bookReplacement, String.utf8ByteSize_append, firstFragment_bytes, secondFragment_bytes]

theorem firstFragment_digest : bookCodec.recoveryDigest firstFragment.payload = bookDigests.1 := by
  simp only [bookCodec, if_true]

/-- The fragments differ in length, so their digests can be told apart. -/
theorem secondFragment_digest :
    bookCodec.recoveryDigest secondFragment.payload = bookDigests.2.1 := by
  have hne : secondFragment.payload ≠ firstFragment.payload := by
    intro h
    have hbytes := congrArg String.utf8ByteSize h
    rw [firstFragment_bytes, secondFragment_bytes] at hbytes
    cases hbytes
  simp only [bookCodec, if_neg hne, if_true]

theorem bookReplacement_digest : bookCodec.recoveryDigest bookReplacement = bookDigests.2.2 := by
  have hbytes := bookReplacement_bytes
  have hfirst : bookReplacement ≠ firstFragment.payload := by
    intro h
    rw [h, firstFragment_bytes] at hbytes
    cases hbytes
  have hsecond : bookReplacement ≠ secondFragment.payload := by
    intro h
    rw [h, secondFragment_bytes] at hbytes
    cases hbytes
  simp only [bookCodec, if_neg hfirst, if_neg hsecond]

/-- **The replacement is cut in two**: the first window ends with the letters. -/
theorem book_fragments : prepareRecoveryFragments bookCodec.recoveryDigest bookReplacement =
    .ok [firstFragment, secondFragment] := by
  have hbytes := bookReplacement_bytes
  have hne : ∀ text : String, text.utf8ByteSize ≠ 0 → text ≠ "" := by
    rintro _ h rfl
    exact h rfl
  have hfirst : firstFragment.payload ≠ "" := hne _ (by rw [firstFragment_bytes]; decide)
  have hsecond : secondFragment.payload ≠ "" :=
    hne _ (by rw [secondFragment_bytes]; decide)
  have hfull : String.utf8Len firstFragment.payload.toList = recoveryFragmentTargetBytes := by
    rw [String.utf8Len_toList, firstFragment_bytes]
    rfl
  have hrest : windows recoveryFragmentTargetBytes secondFragment.payload.toList =
      [secondFragment.payload.toList] := by
    refine windows_single hsecond ?_
    rw [secondFragment_bytes]
    decide
  rw [prepareRecoveryFragments_eq_ok, bookReplacement, String.toList_append,
    windows_append_of_full (mt String.toList_eq_nil_iff.mp hfirst) hfull, hrest]
  refine ⟨hne _ (by rw [← bookReplacement, bookReplacement_bytes]; decide), ?_⟩
  simp only [List.map_cons, List.map_nil, fragmentOf, String.ofList_toList, firstFragment_digest,
    secondFragment_digest]
  rfl

/-!
### Its JSON

serde is given for the envelopes of this transaction only. All of them begin with the stream and
their number, so that the number tells them apart; a chunk is read back whatever size it names,
since the size is found by trying.
-/

/-- A text that begins as an envelope of the stream does. -/
def BeginsEnvelope (streamId : String) (seq : UInt64) (text : String) : Prop :=
  ∃ rest, text.toList = (envelopeHead streamId seq).toList ++ ',' :: rest

theorem BeginsEnvelope.head {streamId kind : String} {seq : UInt64}
    (h : kind.toList.head? = some ',') :
    BeginsEnvelope streamId seq (envelopeHead streamId seq ++ kind) := by
  obtain ⟨rest, hrest⟩ := List.head?_eq_some_iff.mp h
  exact ⟨rest, by rw [String.toList_append, hrest]⟩

theorem BeginsEnvelope.append {streamId text : String} {seq : UInt64}
    (h : BeginsEnvelope streamId seq text) (more : String) :
    BeginsEnvelope streamId seq (text ++ more) := by
  obtain ⟨rest, hrest⟩ := h
  refine ⟨rest ++ more.toList, ?_⟩
  rw [String.toList_append, hrest, List.append_assoc, List.cons_append]

/-- The number stands at the same place in every envelope of the stream. -/
theorem BeginsEnvelope.messageSeqOf {text : String} {seq : UInt64}
    (h : BeginsEnvelope (formatRedisStreamId sampleConfig.chainId 5) seq text) :
    messageSeqOf text = some seq := by
  have hfront : ("\x7b\"stream_id\":" ++ quoted (formatRedisStreamId sampleConfig.chainId 5) ++
      ",\"message_seq\":").toList.length = 46 := by decide
  obtain ⟨rest, hrest⟩ := h
  have hnumber : (text.toList.drop 46).takeWhile Char.isDigit = (u64ToString seq).toList := by
    rw [hrest, envelopeHead, String.toList_append, List.append_assoc, ← hfront, List.drop_left,
      List.takeWhile_append_of_pos fun c hc => isDigit_u64ToString hc]
    exact List.append_nil _
  rw [TychoSimulationServer.messageSeqOf, hnumber, String.ofList_toList, parseU64_u64ToString]

/-- The JSON of a chunk begins as its envelope does. -/
theorem beginsEnvelope_chunk (streamId : String) (seq : UInt64)
    (chunk : BroadcasterRecoveryChunk) :
    BeginsEnvelope streamId seq (recoveryChunkJson streamId seq chunk) := by
  unfold recoveryChunkJson chunkJsonHead
  iterate 12 refine BeginsEnvelope.append ?_ _
  exact .head (by decide)

theorem bookTexts_begin : ∀ row ∈ bookTexts, BeginsEnvelope
    (formatRedisStreamId sampleConfig.chainId 5) row.1.messageSeq row.2 := by
  intro row hrow
  simp only [bookTexts, List.mem_cons, List.not_mem_nil, or_false] at hrow
  rcases hrow with rfl | rfl | rfl
  · iterate 9 refine BeginsEnvelope.append ?_ _
    exact .head (by decide)
  · iterate 4 refine BeginsEnvelope.append ?_ _
    exact .head (by decide)
  · iterate 5 refine BeginsEnvelope.append ?_ _
    exact .head (by decide)

/-- serde on the chunks of the transaction, whatever size they name. -/
theorem bookJson_chunks (encodedBytes : UInt64) :
    SerdeChunk bookJson (formatRedisStreamId sampleConfig.chainId 5) 3
        (bookChunk 0 firstFragment encodedBytes) ∧
      SerdeChunk bookJson (formatRedisStreamId sampleConfig.chainId 5) 4
        (bookChunk 1 secondFragment encodedBytes) := by
  have hseq := fun seq chunk => (beginsEnvelope_chunk
    (formatRedisStreamId sampleConfig.chainId 5) seq chunk).messageSeqOf
  have hfirst : SerdeChunk (fragmentCodec 0 firstFragment)
      (formatRedisStreamId sampleConfig.chainId 5) 3 (bookChunk 0 firstFragment encodedBytes) :=
    chunkCodec_serde encodedBytes
  have hsecond : SerdeChunk (fragmentCodec 1 secondFragment)
      (formatRedisStreamId sampleConfig.chainId 5) 4 (bookChunk 1 secondFragment encodedBytes) :=
    chunkCodec_serde encodedBytes
  refine ⟨⟨?_, ?_⟩, ⟨?_, ?_⟩⟩
  · dsimp only [bookJson]
    rw [if_pos (.inl rfl)]
  · simp only [bookJson, hseq]
    exact hfirst.reads
  · dsimp only [bookJson]
    rw [if_pos (.inr rfl)]
  · simp only [bookJson, hseq]
    exact hsecond.reads

/-- The texts around the chunks are written and read back. -/
theorem bookJson_text {envelope : BroadcasterEnvelope String} {text : String}
    (h : (envelope, text) ∈ bookTexts) :
    bookJson.toString envelope = .ok text ∧ bookJson.fromStr text = .ok envelope := by
  have hseqs : (bookTexts.map (·.1.messageSeq)).Nodup := by decide
  have hrows : (bookTexts.map (·.1)).Nodup := .of_map (·.messageSeq) (by rwa [List.map_map])
  have htexts : (bookTexts.map (·.2)).Nodup := by
    -- their numbers differ
    refine .of_map messageSeqOf ?_
    have hmap : (bookTexts.map (·.2)).map messageSeqOf =
        (bookTexts.map (·.1.messageSeq)).map some := by
      rw [List.map_map, List.map_map]
      exact List.map_congr_left fun row hrow => (bookTexts_begin row hrow).messageSeqOf
    rw [hmap]
    exact hseqs.map (Option.some_injective _)
  have hwrites := toString_ofTable hrows h
  have hreads := readsBack_ofTable htexts envelope text hwrites
  have hseq := (bookTexts_begin _ h).messageSeqOf
  simp only [bookTexts, List.mem_cons, List.not_mem_nil, or_false, Prod.mk.injEq] at h
  constructor
  · rcases h with ⟨rfl, rfl⟩ | ⟨rfl, rfl⟩ | ⟨rfl, rfl⟩ <;> exact hwrites
  · simp only [bookJson, hseq]
    rcases h with ⟨rfl, rfl⟩ | ⟨rfl, rfl⟩ | ⟨rfl, rfl⟩ <;> exact hreads

/-- **serde** reads back whatever it has written. -/
theorem bookJson_readsBack (envelope : BroadcasterEnvelope String) :
    bookJson.ReadsBack envelope := by
  have htable : ∀ text, (EnvelopeJson.ofTable bookTexts).toString envelope = .ok text →
      bookJson.fromStr text = .ok envelope :=
    fun text h => (bookJson_text (mem_of_toString_ofTable h)).2
  obtain ⟨streamId, messageSeq, payload⟩ := envelope
  intro text h
  cases payload with
  | recoveryChunk chunk =>
    dsimp only [bookJson] at h
    split at h
    case isFalse => cases h
    case isTrue hchunk =>
      obtain rfl := Except.ok.inj h
      simp only [bookEnvelope, BroadcasterEnvelope.mk.injEq,
        BroadcasterPayload.recoveryChunk.injEq] at hchunk
      obtain ⟨hfirst, hsecond⟩ := bookJson_chunks chunk.encodedBytes
      rcases hchunk with ⟨rfl, rfl, hchunk⟩ | ⟨rfl, rfl, hchunk⟩
      · have hreads := hfirst.reads
        rwa [← hchunk] at hreads
      · have hreads := hsecond.reads
        rwa [← hchunk] at hreads
  | _ => exact htable text h

/-! ### Its entries -/

/-- The envelopes around the chunks make entries. -/
theorem book_makesEntry {envelope : BroadcasterEnvelope String} {text : String}
    (h : (envelope, text) ∈ bookTexts) : MakesEntry bookJson envelope [.rfq] bookTarget text := by
  obtain ⟨hwrites, hreads⟩ := bookJson_text h
  obtain ⟨rest, hrest⟩ := bookTexts_begin _ h
  have htext : rustTrim text ≠ "" := by
    refine rustTrim_ne_empty (c := '\x7b') ?_ (by decide)
    refine hrest ▸ List.mem_append_left _ ?_
    unfold envelopeHead
    iterate 3 apply mem_toList_append
    decide
  have hchecks : envelope.messageSeq ≠ 0 ∧
      redisPayloadBackendScope envelope.payload = .ok (some [.rfq]) ∧
      redisPayloadTargetStateVersion envelope.payload = some bookTarget ∧
      envelope.streamId = formatRedisStreamId sampleConfig.chainId 5 := by
    simp only [bookTexts, List.mem_cons, List.not_mem_nil, or_false, Prod.mk.injEq] at h
    rcases h with ⟨rfl, -⟩ | ⟨rfl, -⟩ | ⟨rfl, -⟩
    all_goals exact ⟨by decide, by decide, rfl, rfl⟩
  exact
    { writes := hwrites, reads := hreads, text := htext
      streamId := hchecks.2.2.2 ▸ rustTrim_streamId _ _, messageSeq := hchecks.1
      scope := hchecks.2.1, named := List.cons_ne_nil _ _, nodup := List.nodup_singleton _
      target := hchecks.2.2.1 }

/-- The bytes around the payload of a chunk: only the digest and the length of the JSON count. -/
theorem book_frames (payload : String) :
    (∀ digest, commandBytes sampleConfig (formatRedisStreamId sampleConfig.chainId 5)
        (u64ToString 5 ++ "-" ++ u64ToString 3) 3 (bookScope.chunk 0 ⟨payload, digest⟩ 1)
        1700000000000 = 312 ∧
      commandBytes sampleConfig (formatRedisStreamId sampleConfig.chainId 5)
        (u64ToString 5 ++ "-" ++ u64ToString 4) 4 (bookScope.chunk 1 ⟨payload, digest⟩ 1)
        1700000000000 = 312) ∧
    chunkFrameBytes (formatRedisStreamId sampleConfig.chainId 5) 3
      (bookScope.chunk 0 ⟨payload, bookDigests.1⟩ 1) = 283 ∧
    chunkFrameBytes (formatRedisStreamId sampleConfig.chainId 5) 4
      (bookScope.chunk 1 ⟨payload, bookDigests.2.1⟩ 1) = 283 := by
  have hcommand : ∀ (streamId id : String) (seq : UInt64) (i : Nat) (digest : String),
      commandBytes sampleConfig streamId id seq (bookScope.chunk i ⟨payload, digest⟩ 1)
        1700000000000 =
      commandBytes sampleConfig streamId id seq (bookScope.chunk i ⟨"", ""⟩ 1) 1700000000000 :=
    fun _ _ _ _ _ => rfl
  have hframe : ∀ (streamId : String) (seq : UInt64) (i : Nat) (digest : String),
      chunkFrameBytes streamId seq (bookScope.chunk i ⟨payload, digest⟩ 1) =
      chunkFrameBytes streamId seq (bookScope.chunk i ⟨"", digest⟩ 1) := fun _ _ _ _ => rfl
  simp only [hcommand, hframe, forall_const]
  decide +kernel

/-- The bytes of a chunk entry whose size takes so many digits. -/
theorem book_measured (digits : Nat) :
    measuredBytes sampleConfig 5 3 bookScope 0 firstFragment 1700000000000 digits =
        min (312 + respBulkStringSize (283 + digits + 3500073)) usizeMax ∧
      measuredBytes sampleConfig 5 4 bookScope 1 secondFragment 1700000000000 digits =
        min (312 + respBulkStringSize (283 + digits + 139)) usizeMax := by
  have hescaped : escapedSize firstFragment.payload = 3500073 := by
    rw [firstFragment, escapedSize_append, escapedSize_letters, book_escaped.1]
  obtain ⟨hfirst, hframe, -⟩ := book_frames firstFragment.payload
  obtain ⟨hsecond, -, hrest⟩ := book_frames secondFragment.payload
  constructor
  · change measuredBytes sampleConfig 5 3 bookScope 0 ⟨firstFragment.payload, bookDigests.1⟩
      1700000000000 digits = _
    simp only [measuredBytes, chunkEntryBytes, hfirst, hframe, hescaped]
  · change measuredBytes sampleConfig 5 4 bookScope 1 ⟨secondFragment.payload, bookDigests.2.1⟩
      1700000000000 digits = _
    simp only [measuredBytes, chunkEntryBytes, hsecond, hrest,
      show escapedSize secondFragment.payload = 139 from book_escaped.2]

/-- The entry of an envelope around the chunks. -/
def bookEntry (seq : UInt64) (payload : BroadcasterPayload String) (text : String) :
    BroadcasterRedisStreamEntry :=
  payloadEntry sampleConfig (bookEnvelope seq payload) [.rfq] bookTarget 1700000000000 text

/-- The entry of a chunk that names its own size. -/
def bookChunkEntry (seq : UInt64) (i : Nat) (fragment : PreparedRecoveryFragment) (size : Nat) :
    BroadcasterRedisStreamEntry :=
  chunkEntry sampleConfig (formatRedisStreamId sampleConfig.chainId 5) seq
    (bookScope.chunk i fragment size) 1700000000000

theorem bookScope_valid : bookScope.Valid :=
  ⟨by decide, by decide, by decide, by decide⟩

theorem bookDigests_named : rustTrim firstFragment.digest ≠ "" ∧
    rustTrim secondFragment.digest ≠ "" ∧ rustTrim bookDigests.2.2 ≠ "" := by
  refine ⟨?_, ?_, ?_⟩
  · exact rustTrim_ne_empty (c := 'd') (by decide +kernel) (by decide)
  · exact rustTrim_ne_empty (c := '7') (by decide +kernel) (by decide)
  · exact rustTrim_ne_empty (c := '4') (by decide +kernel) (by decide)

theorem bookFragments_named : rustTrim firstFragment.payload ≠ "" ∧
    rustTrim secondFragment.payload ≠ "" := by
  constructor
  · refine rustTrim_ne_empty (c := '[') ?_ (by decide)
    unfold firstFragment bookFront
    apply mem_toList_append
    iterate 7 apply mem_toList_append
    decide
  · refine rustTrim_ne_empty (c := '"') ?_ (by decide)
    unfold secondFragment bookBack
    apply mem_toList_append
    decide

/-- **The chunks are made**: the loop settles on the sizes the manifest names. -/
theorem book_chunkEntries : recoveryChunkEntries bookJson sampleConfig
    (formatRedisStreamId sampleConfig.chainId 5) 2 bookScope [firstFragment, secondFragment]
    (fun _ _ => 1700000000000) =
      .ok [(bookChunkEntry 3 0 firstFragment 3500687, 3500687),
        (bookChunkEntry 4 1 secondFragment 745, 745)] := by
  have hsizes : settle (fun digits => min (312 + respBulkStringSize (283 + digits + 3500073))
        usizeMax) 4 1 = some 3500687 ∧
      settle (fun digits => min (312 + respBulkStringSize (283 + digits + 139)) usizeMax) 4 1 =
        some 745 := by
    decide +kernel
  obtain ⟨hfirst, hsecond⟩ := hsizes
  rw [← funext fun digits => (book_measured digits).1] at hfirst
  rw [← funext fun digits => (book_measured digits).2] at hsecond
  have hchunk : ∀ size, SerdeChunk bookJson (formatRedisStreamId sampleConfig.chainId 5) 3
        (bookScope.chunk 0 firstFragment size) ∧
      SerdeChunk bookJson (formatRedisStreamId sampleConfig.chainId 5) 4
        (bookScope.chunk 1 secondFragment size) := fun size => bookJson_chunks (.ofNat size)
  have hone : ∃ attempt : Nat, buildRecoveryChunkEntry bookJson sampleConfig
      (formatRedisStreamId sampleConfig.chainId 5) 3 bookScope 0 firstFragment
      (fun _ => 1700000000000) = _ :=
    buildFrom_settles (fun size => (hchunk size).1) bookScope_valid (by decide) (by decide)
      bookDigests_named.1 bookFragments_named.1 (fun _ => rfl) (by decide) (by decide) hfirst
  have htwo : ∃ attempt : Nat, buildRecoveryChunkEntry bookJson sampleConfig
      (formatRedisStreamId sampleConfig.chainId 5) 4 bookScope 1 secondFragment
      (fun _ => 1700000000000) = _ :=
    buildFrom_settles (fun size => (hchunk size).2) bookScope_valid (by decide) (by decide)
      bookDigests_named.2.1 bookFragments_named.2 (fun _ => rfl) (by decide) (by decide) hsecond
  obtain ⟨_, hone⟩ := hone
  obtain ⟨_, htwo⟩ := htwo
  rw [if_pos (by decide)] at hone htwo
  refine mapM_eq_ok.mpr (.cons ?_ (.cons ?_ .nil))
  · rw [check_bind_eq_ok]
    exact ⟨rfl, hone⟩
  · rw [check_bind_eq_ok]
    exact ⟨rfl, htwo⟩

theorem book_sizes :
    replayEntryEncodedSize "deltas" none
      (bookEntry 2 (.recoveryStart ⟨bookManifest⟩) bookStartJson) = .ok 846 ∧
    replayEntryEncodedSize "deltas" none
      (bookEntry 5 (.recoveryCatchUp bookCatchUp) bookCatchUpJson) = .ok 649 ∧
    replayEntryEncodedSize "deltas" none
      (bookEntry 6 (.recoveryCommit bookCommit) bookCommitJson) = .ok 601 := by
  decide +kernel

/-- **The chunks have the sizes they name.** -/
theorem book_chunkSizes :
    redisEntryEncodedSize sampleConfig (bookChunkEntry 3 0 firstFragment 3500687) = .ok 3500687 ∧
    redisEntryEncodedSize sampleConfig (bookChunkEntry 4 1 secondFragment 745) = .ok 745 := by
  have hsizes : min (312 + respBulkStringSize (283 + digits 3500687 + 3500073)) usizeMax = 3500687 ∧
      min (312 + respBulkStringSize (283 + digits 745 + 139)) usizeMax = 745 := by
    decide +kernel
  have hfirst : validateRecoveryChunk (bookScope.chunk 0 firstFragment 3500687) = .ok () :=
    (validate_chunk_iff bookScope_valid bookDigests_named.1 (by decide) (by decide)).mpr
      bookFragments_named.1
  have hsecond : validateRecoveryChunk (bookScope.chunk 1 secondFragment 745) = .ok () :=
    (validate_chunk_iff bookScope_valid bookDigests_named.2.1 (by decide) (by decide)).mpr
      bookFragments_named.2
  have hone : _ ∧ redisEntryEncodedSize sampleConfig
      (bookChunkEntry 3 0 firstFragment 3500687) = _ :=
    attempt_measures (fun size => (bookJson_chunks (.ofNat size)).1) bookScope_valid (by decide)
      1700000000000 (by decide) hfirst
  have htwo : _ ∧ redisEntryEncodedSize sampleConfig
      (bookChunkEntry 4 1 secondFragment 745) = _ :=
    attempt_measures (fun size => (bookJson_chunks (.ofNat size)).2) bookScope_valid (by decide)
      1700000000000 (by decide) hsecond
  replace hone := hone.2
  replace htwo := htwo.2
  rw [(book_measured _).1, hsizes.1] at hone
  rw [(book_measured _).2, hsizes.2] at htwo
  exact ⟨hone, htwo⟩

theorem book_valid : validateRecoveryManifest bookManifest = .ok () ∧
    validateRecoveryCatchUp bookCatchUp = .ok () ∧ validateRecoveryCommit bookCommit = .ok () := by
  obtain ⟨hfirst, hsecond, hreplacement⟩ := bookDigests_named
  refine ⟨?_, ?_, ?_⟩
  · simp only [validateRecoveryManifest, requireRecoveryText, check_bind_eq_ok, ensure_eq_ok,
      forM_eq_ok]
    refine ⟨rustTrim_recoveryId, rfl, rfl, by decide, rfl, rfl, by decide, by decide, ?_,
      hreplacement, by decide⟩
    exact List.forall_mem_cons.mpr ⟨hfirst, List.forall_mem_singleton.mpr hsecond⟩
  · simp only [validateRecoveryCatchUp, requireRecoveryText, check_bind_eq_ok, ensure_eq_ok]
    exact ⟨rustTrim_recoveryId, rfl, rfl⟩
  · simp only [validateRecoveryCommit, requireRecoveryText, check_bind_eq_ok, ensure_eq_ok]
    exact ⟨rustTrim_recoveryId, rfl, rfl, hreplacement, by decide⟩

/-- The sizes of the entries are within the limits. -/
theorem book_ensured {entry : BroadcasterRedisStreamEntry} {size : Nat}
    (h : replayEntryEncodedSize "deltas" none entry = .ok size)
    (hle : size ≤ recoveryRedisEntryMaxBytes) :
    ensureRedisEntrySize sampleConfig entry recoveryRedisEntryMaxBytes = .ok size :=
  bind_eq_ok.mpr ⟨size, mapError_eq_ok.mpr h, check_bind_eq_ok.mpr ⟨ensure_eq_ok.mpr hle, rfl⟩⟩

theorem book_recoveryEntry {seq : UInt64} {payload : BroadcasterPayload String} {text : String}
    (h : (bookEnvelope seq payload, text) ∈ bookTexts) :
    recoveryEntry bookJson sampleConfig (formatRedisStreamId sampleConfig.chainId 5) seq payload
      1700000000000 bookTarget = .ok (bookEntry seq payload text) :=
  (book_makesEntry h).recoveryEntry

/-- **The start is made.** -/
theorem book_startEntry : recoveryStartEntry bookJson sampleConfig bookCodec.recoveryDigest
    (formatRedisStreamId sampleConfig.chainId 5) 2 bookTarget bookTransaction
    [firstFragment, secondFragment] [3500687, 745] 6 1700000000000 =
      .ok (bookEntry 2 (.recoveryStart ⟨bookManifest⟩) bookStartJson) := by
  have hvalid := book_valid.1
  have hmanifest : BroadcasterRecoveryManifest.new bookTransaction.recoveryId bookTarget
      bookTransaction.backends (.ofNat bookTransaction.replacementJson.utf8ByteSize)
      ([3500687, 745].map .ofNat) ([firstFragment, secondFragment].map (·.digest))
      (bookCodec.recoveryDigest bookTransaction.replacementJson)
      (.ofNat bookTransaction.bufferA.length) 6 = .ok bookManifest := by
    change BroadcasterRecoveryManifest.new "recovery-1" bookTarget [.rfq]
      (.ofNat bookReplacement.utf8ByteSize) [3500687, 745] [bookDigests.1, bookDigests.2.1]
      (bookCodec.recoveryDigest bookReplacement) 1 6 = _
    rw [bookReplacement_bytes, bookReplacement_digest, BroadcasterRecoveryManifest.new,
      check_bind_eq_ok, check_bind_eq_ok]
    exact ⟨rfl, hvalid, rfl⟩
  rw [recoveryStartEntry, check_bind_eq_ok]
  refine ⟨rfl, bind_eq_ok.mpr ⟨_, mapError_eq_ok.mpr hmanifest, ?_⟩⟩
  refine bind_eq_ok.mpr ⟨⟨bookManifest⟩, mapError_eq_ok.mpr ?_, ?_⟩
  · rw [BroadcasterRecoveryStart.new, check_bind_eq_ok]
    exact ⟨hvalid, rfl⟩
  · exact bind_eq_ok.mpr ⟨_, book_recoveryEntry (.head _),
      bind_eq_ok.mpr ⟨846, book_ensured book_sizes.1 (by decide), rfl⟩⟩

/-- **The catch-up is made.** -/
theorem book_catchUpEntry : recoveryCatchUpEntry bookJson sampleConfig
    (formatRedisStreamId sampleConfig.chainId 5) 2 bookTarget bookTransaction 2 0 bookUpdate
    1700000000000 =
      .ok (bookEntry 5 (.recoveryCatchUp bookCatchUp) bookCatchUpJson) := by
  have hcatchUp : BroadcasterRecoveryCatchUp.new bookTransaction.recoveryId bookTarget (.ofNat 0)
      bookUpdate = .ok bookCatchUp := by
    rw [BroadcasterRecoveryCatchUp.new, check_bind_eq_ok]
    exact ⟨book_valid.2.1, rfl⟩
  rw [recoveryCatchUpEntry, check_bind_eq_ok, check_bind_eq_ok]
  refine ⟨rfl, rfl, bind_eq_ok.mpr ⟨_, mapError_eq_ok.mpr hcatchUp, ?_⟩⟩
  exact bind_eq_ok.mpr ⟨_, book_recoveryEntry (.tail _ (.head _)),
    bind_eq_ok.mpr ⟨649, book_ensured book_sizes.2.1 (by decide), rfl⟩⟩

/-- **The commit is made.** -/
theorem book_commitEntry : recoveryCommitEntry bookJson sampleConfig bookCodec.recoveryDigest
    (formatRedisStreamId sampleConfig.chainId 5) bookTarget bookTransaction 6 1700000000000 =
      .ok (bookEntry 6 (.recoveryCommit bookCommit) bookCommitJson) := by
  have hcommit : BroadcasterRecoveryCommit.new bookTransaction.recoveryId bookTarget
      bookTransaction.backends
      (bookCodec.recoveryDigest bookTransaction.replacementJson)
      (.ofNat bookTransaction.bufferA.length) 6 = .ok bookCommit := by
    change BroadcasterRecoveryCommit.new "recovery-1" bookTarget [.rfq]
      (bookCodec.recoveryDigest bookReplacement) 1 6 = _
    rw [bookReplacement_digest, BroadcasterRecoveryCommit.new, check_bind_eq_ok]
    exact ⟨book_valid.2.2, rfl⟩
  rw [recoveryCommitEntry]
  refine bind_eq_ok.mpr ⟨_, mapError_eq_ok.mpr hcommit, ?_⟩
  exact bind_eq_ok.mpr ⟨_, book_recoveryEntry (.tail _ (.tail _ (.head _))),
    bind_eq_ok.mpr ⟨601, book_ensured book_sizes.2.2 (by decide), rfl⟩⟩

/-- A message of the stream. -/
def bookMessage (entry : BroadcasterRedisStreamEntry) (payload : BroadcasterPayload String) :
    ReplayMessage String where
  entryId := u64ToString 5 ++ "-" ++ u64ToString entry.messageSeq
  entry := entry
  envelope := bookEnvelope entry.messageSeq payload
  checkpointAfter := .new { bookBoundary with exclusiveMessageSeq := entry.messageSeq } 1

/-- The messages of the recovery. -/
def bookMessages : List (ReplayMessage String) :=
  [bookMessage (bookEntry 2 (.recoveryStart ⟨bookManifest⟩) bookStartJson)
      (.recoveryStart ⟨bookManifest⟩),
    bookMessage (bookChunkEntry 3 0 firstFragment 3500687)
      (.recoveryChunk (bookScope.chunk 0 firstFragment 3500687)),
    bookMessage (bookChunkEntry 4 1 secondFragment 745)
      (.recoveryChunk (bookScope.chunk 1 secondFragment 745)),
    bookMessage (bookEntry 5 (.recoveryCatchUp bookCatchUp) bookCatchUpJson)
      (.recoveryCatchUp bookCatchUp),
    bookMessage (bookEntry 6 (.recoveryCommit bookCommit) bookCommitJson)
      (.recoveryCommit bookCommit)]

/-- The sizes of the entries are added up. -/
theorem sizes_added {config : BroadcasterRedisPublisherConfig}
    {entries : List BroadcasterRedisStreamEntry} {sizes : List Nat}
    (h : List.Forall₂ (fun entry size => redisEntryEncodedSize config entry = .ok size) entries
      sizes) {total : Nat} (hlt : total + sizes.sum < 2 ^ 64) :
    entries.foldlM (fun total entry => do
      let size ← redisEntryEncodedSize config entry
      ensure (total + size < 2 ^ 64) (PublishError.text "recovery byte count overflow")
      return total + size) total = .ok (total + sizes.sum) := by
  induction h generalizing total with
  | nil => rfl
  | cons hsize _ ih =>
    rw [List.sum_cons, ← Nat.add_assoc] at hlt ⊢
    refine bind_eq_ok.mpr ⟨_, bind_eq_ok.mpr ⟨_, hsize, ?_⟩, ih hlt⟩
    exact check_bind_eq_ok.mpr ⟨ensure_eq_ok.mpr (by omega), rfl⟩

theorem book_entrySizes : List.Forall₂
    (fun entry size => redisEntryEncodedSize sampleConfig entry = .ok size)
    (bookMessages.map (·.entry)) [846, 3500687, 745, 649, 601] :=
  .cons (mapError_eq_ok.mpr book_sizes.1) (.cons book_chunkSizes.1 (.cons book_chunkSizes.2
    (.cons (mapError_eq_ok.mpr book_sizes.2.1) (.cons (mapError_eq_ok.mpr book_sizes.2.2) .nil))))

/-- **The entries** of the transaction. -/
theorem book_entries : recoveryEntries bookJson sampleConfig bookCodec.recoveryDigest
    (formatRedisStreamId sampleConfig.chainId 5) 2 bookTarget bookTransaction
    ⟨1700000000000, fun _ _ => 1700000000000, fun _ => 1700000000000, 1700000000000⟩ =
      .ok (bookMessages.map (·.entry)) := by
  rw [recoveryEntries]
  refine bind_eq_ok.mpr ⟨_, book_fragments, bind_eq_ok.mpr ⟨6, rfl, ?_⟩⟩
  refine bind_eq_ok.mpr ⟨_, book_chunkEntries, bind_eq_ok.mpr ⟨_, book_startEntry, ?_⟩⟩
  refine bind_eq_ok.mpr ⟨_, mapM_eq_ok.mpr (.cons book_catchUpEntry .nil), ?_⟩
  refine bind_eq_ok.mpr ⟨_, book_commitEntry, ?_⟩
  exact bind_eq_ok.mpr ⟨_, sizes_added book_entrySizes (by decide), rfl⟩

theorem bookEntry_readsAs {json : EnvelopeJson String} {seq : UInt64}
    {payload : BroadcasterPayload String} {text : String}
    (h : json.fromStr text = .ok (bookEnvelope seq payload)) :
    ReadsAs json (bookMessage (bookEntry seq payload text) payload).entry
      (bookMessage (bookEntry seq payload text) payload) :=
  ⟨rfl, h⟩

theorem bookChunkEntry_readsAs {json : EnvelopeJson String} {seq : UInt64} {i size : Nat}
    {fragment : PreparedRecoveryFragment}
    (h : SerdeChunk json (formatRedisStreamId sampleConfig.chainId 5) seq
      (bookScope.chunk i fragment size)) :
    ReadsAs json (bookMessage (bookChunkEntry seq i fragment size)
        (.recoveryChunk (bookScope.chunk i fragment size))).entry
      (bookMessage (bookChunkEntry seq i fragment size)
        (.recoveryChunk (bookScope.chunk i fragment size))) :=
  ⟨rfl, h.reads⟩

theorem book_reads : List.Forall₂ (ReadsAs bookJson) (bookMessages.map (·.entry)) bookMessages := by
  have hchunk : ∀ size, SerdeChunk bookJson (formatRedisStreamId sampleConfig.chainId 5) 3
        (bookScope.chunk 0 firstFragment size) ∧
      SerdeChunk bookJson (formatRedisStreamId sampleConfig.chainId 5) 4
        (bookScope.chunk 1 secondFragment size) := fun size => bookJson_chunks (.ofNat size)
  rw [List.forall₂_map_left_iff, List.forall₂_same]
  simp only [bookMessages, List.forall_mem_cons]
  refine ⟨bookEntry_readsAs (bookJson_text (.head _)).2, bookChunkEntry_readsAs (hchunk _).1,
    bookChunkEntry_readsAs (hchunk _).2, bookEntry_readsAs (bookJson_text (.tail _ (.head _))).2,
    bookEntry_readsAs (bookJson_text (.tail _ (.tail _ (.head _)))).2, List.forall_mem_nil _⟩

/-- A recovery of one backend, in two chunks and with an update behind them, is adopted behind its
commit at message 6. -/
theorem recovery_transaction_adopted_chunks : ∃ live before done,
    prepareBroadcasterRedisSubscription bookCodec [bookProcessor] bookBoundary emptySession none =
      .ok live ∧
    (bookMessages.take 4).foldlM (applyReplayMessage bookCodec) live = .ok before ∧
      before.processors = live.processors.map (fencedFor [.rfq]) ∧
    bookMessages.foldlM (applyReplayMessage bookCodec) live = .ok done ∧
      done.replayBoundary =
        { bookBoundary with exclusiveMessageSeq := 6, stateVersion := bookTarget } ∧
      done.recovery = none := by
  obtain ⟨processor, hbooted, hbackend, hversion, hcopy⟩ := book_booted
  set live : PreparedBroadcasterRedisSubscription String :=
    { processors := [⟨processor, bookBoundary⟩], replayBoundary := bookBoundary, recovery := none
      redisMaxlen := none } with hlive
  have hreachable : (subscriptionMachine bookCodec).Reachable live :=
    ⟨live, ⟨[bookProcessor], bookBoundary, emptySession, none, hbooted⟩, .refl⟩
  have hready : ReadyFor live sampleConfig bookTransaction.backends bookTarget := by
    refine ⟨rfl, rfl, fun p hp _ => ?_, nofun⟩
    rw [List.mem_singleton.mp hp]
    exact hversion ▸ (by decide : bookBoundary.stateVersion < bookTarget)
  have hwell : bookBoundary.WellFormed := ⟨by decide, by decide, by decide, by decide⟩
  have hbytes : bookTransaction.replacementJson.utf8ByteSize < 2 ^ 64 := by
    rw [show bookTransaction.replacementJson.utf8ByteSize = 3500124 from bookReplacement_bytes]
    decide
  obtain ⟨hbefore, hdone⟩ := recovery_transaction_adopted book_entries
    (fun _ _ _ _ => bookJson_readsBack _) book_reads hbytes (by decide) hreachable hready hwell
  obtain ⟨before, hread, hfenced⟩ := hbefore bookMessages.dropLast (List.prefix_refl _)
    (List.cons_ne_nil _ _)
  have hdecode : bookCodec.decodeReplacement bookTransaction.replacementJson =
      .ok (bookEnvelopes 3499500) := by
    simp only [bookCodec, bookTransaction, if_true]
  obtain ⟨bootstrapped, caughtUp, hreplaced, hcomplete, hcaught⟩ :=
    book_caughtUp bookCodec.merge
      { bookBoundary with exclusiveMessageSeq := 6, stateVersion := bookTarget } 3499500
  rw [← hcopy] at hreplaced
  obtain ⟨next, hadopts⟩ : ∃ next, Adopts bookCodec.merge
      { bookBoundary with exclusiveMessageSeq := 6, stateVersion := bookTarget } bookTransaction
      (bookEnvelopes 3499500) ⟨processor, bookBoundary⟩ next :=
    ⟨_, .replaced (by rw [hbackend]; exact .head _) hreplaced hcomplete hcaught⟩
  refine ⟨live, before, { live with
    processors := [next]
    replayBoundary := { bookBoundary with exclusiveMessageSeq := 6, stateVersion := bookTarget } },
    hbooted, hread, hfenced, ?_, rfl, rfl⟩
  exact (hdone _).mpr ⟨_, _, hdecode, rfl, .cons hadopts .nil, rfl⟩

end TychoSimulationServer
