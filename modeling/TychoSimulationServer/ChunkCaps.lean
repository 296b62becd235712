import TychoSimulationServer.RecoveryConsumer
import TychoSimulationServer.SlotSplit
import TychoSimulationServer.SnapshotExport

/-!
# Byte caps of joined snapshots

A chunk is measured under the longest sequence number and the index it has in its own export. When
exports are joined the chunks get new numbers, and the artifact measures them again under those. A
chunk that was measured has a sequence number's worth of digits to spare, which is more than an
index can grow.

Not every chunk was measured. A chunk is closed when one more item does not fit; that item then
waits **alone** for the next chunk. A fragment was measured alone when it was cut, a decoded state
was not. Nor was the chunk that carries sync statuses and nothing else. Such a chunk is only checked
where its own export numbers it.
-/

namespace TychoSimulationServer

open Fallible

variable {Sim : Type}

/-! ## Fragments fit alone

Every builder checks a fragment before it closes it, so each fragment fits into a chunk of its
own. -/

section

variable {serialisedLen : SerialisedLen Sim} {ctx : SnapshotChunkBuildContext}
  {message : BroadcasterProtocolMessage} {syncStatuses : SyncStatuses}

/-- Alone in a chunk of the worst index the fragment fits, with the sync statuses or without. -/
def FitsAlone (serialisedLen : SerialisedLen Sim) (ctx : SnapshotChunkBuildContext)
    (syncStatuses : SyncStatuses) (fragment : BroadcasterProtocolMessage) : Prop :=
  ∃ includeSyncStatuses,
    ctx.rawFragmentFits serialisedLen fragment syncStatuses includeSyncStatuses = .ok true

/-- All closed fragments fit. -/
def AllFitAlone (serialisedLen : SerialisedLen Sim) (ctx : SnapshotChunkBuildContext)
    (syncStatuses : SyncStatuses) (fragments : List BroadcasterProtocolMessage) : Prop :=
  ∀ fragment ∈ fragments, FitsAlone serialisedLen ctx syncStatuses fragment

theorem AllFitAlone.append {fragments more : List BroadcasterProtocolMessage}
    (h : AllFitAlone serialisedLen ctx syncStatuses fragments)
    (hmore : AllFitAlone serialisedLen ctx syncStatuses more) :
    AllFitAlone serialisedLen ctx syncStatuses (fragments ++ more) :=
  List.forall_mem_append.mpr ⟨h, hmore⟩

theorem AllFitAlone.concat {fragments : List BroadcasterProtocolMessage}
    {fragment : BroadcasterProtocolMessage}
    (h : AllFitAlone serialisedLen ctx syncStatuses fragments)
    (hfragment : FitsAlone serialisedLen ctx syncStatuses fragment) :
    AllFitAlone serialisedLen ctx syncStatuses (fragments ++ [fragment]) :=
  h.append (List.forall_mem_singleton.mpr hfragment)

theorem ensureCurrentFits_eq_ok {builder : ProtocolTailFragmentBuilder}
    (h : builder.ensureCurrentFits serialisedLen ctx message syncStatuses = .ok ()) :
    FitsAlone serialisedLen ctx syncStatuses builder.current := by
  obtain ⟨fits, hfits, h⟩ := bind_eq_ok.mp h
  rw [ensure_eq_ok] at h
  exact ⟨_, by rw [hfits, h]⟩

/-- An entry is appended after the fragment before it was checked. -/
theorem appendNamed_fits {builder builder' : ProtocolTailFragmentBuilder} {kind key : String}
    {insert : BroadcasterProtocolMessage → BroadcasterProtocolMessage}
    (hall : AllFitAlone serialisedLen ctx syncStatuses builder.fragments)
    (h : builder.appendNamed serialisedLen ctx message syncStatuses kind key insert =
      .ok builder') :
    AllFitAlone serialisedLen ctx syncStatuses builder'.fragments := by
  unfold ProtocolTailFragmentBuilder.appendNamed at h
  obtain ⟨fits, -, h⟩ := bind_eq_ok.mp h
  cases fits with
  | true =>
    simp only [if_true, pure_eq_ok] at h
    rw [← h]
    exact hall
  | false =>
    simp only [Bool.false_eq_true, if_false] at h
    obtain ⟨closed, hclosed, h⟩ := bind_eq_ok.mp h
    have hclosedFit : AllFitAlone serialisedLen ctx syncStatuses closed.fragments := by
      unfold ProtocolTailFragmentBuilder.closeCurrent at hclosed
      split at hclosed
      case isTrue =>
        obtain ⟨hfits, hclosed⟩ := check_bind_eq_ok.mp hclosed
        rw [pure_eq_ok] at hclosed
        rw [← hclosed]
        exact hall.concat (ensureCurrentFits_eq_ok hfits)
      case isFalse =>
        rw [pure_eq_ok] at hclosed
        rw [← hclosed]
        exact hall
    -- starting over leaves the closed fragments alone
    unfold ProtocolTailFragmentBuilder.replaceCurrent at h
    obtain ⟨fits, -, h⟩ := bind_eq_ok.mp h
    cases fits with
    | true =>
      simp only [if_true, pure_eq_ok] at h
      rw [← h]
      exact hclosedFit
    | false =>
      simp only [Bool.false_eq_true, if_false] at h
      obtain ⟨size, -, h⟩ := bind_eq_ok.mp h
      cases h

theorem appendDeltaEntries_fits {κ υ : Type} [Ord κ] [Std.TransOrd κ] {debug : κ → String}
    {kind : String} {entries : FinMap κ υ} {insert : BlockChanges → κ → υ → BlockChanges}
    {builder builder' : ProtocolTailFragmentBuilder}
    (hall : AllFitAlone serialisedLen ctx syncStatuses builder.fragments)
    (h : builder.appendDeltaEntries serialisedLen ctx message syncStatuses debug kind entries
      insert = .ok builder') :
    AllFitAlone serialisedLen ctx syncStatuses builder'.fragments := by
  unfold ProtocolTailFragmentBuilder.appendDeltaEntries at h
  split at h
  case h_1 => cases h
  case h_2 source _ =>
    exact foldlM_induction (fun _ c => AllFitAlone serialisedLen ctx syncStatuses c.fragments) hall
      (fun _ _ _ _ _ hc hstep => appendNamed_fits hc hstep) h

theorem splitProtocolTail_fits {fragments : List BroadcasterProtocolMessage}
    {includeSyncStatuses : Bool}
    (h : splitProtocolTailForSnapshot serialisedLen ctx message syncStatuses includeSyncStatuses =
      .ok fragments) :
    AllFitAlone serialisedLen ctx syncStatuses fragments := by
  unfold splitProtocolTailForSnapshot at h
  split at h
  case isTrue =>
    rw [pure_eq_ok] at h
    rw [← h]
    exact List.forall_mem_nil _
  case isFalse =>
    obtain ⟨filled, hdeltas, h⟩ := bind_eq_ok.mp h
    obtain ⟨builder, hremoved, hfinish⟩ := bind_eq_ok.mp h
    have hfilled : AllFitAlone serialisedLen ctx syncStatuses filled.fragments := by
      have hnew : AllFitAlone serialisedLen ctx syncStatuses
          (ProtocolTailFragmentBuilder.new message includeSyncStatuses).fragments :=
        List.forall_mem_nil _
      unfold appendSourceDeltas at hdeltas
      split at hdeltas
      case h_1 source _ =>
        unfold appendDeltas at hdeltas
        simp only [bind_eq_ok] at hdeltas
        obtain ⟨_, h₁, _, h₂, _, h₃, _, h₄, _, h₅, _, h₆, _, h₇, _, h₈, _, h₉, _, h₁₀, h₁₁⟩ :=
          hdeltas
        -- eleven maps of changes, one loop for each
        exact appendDeltaEntries_fits (appendDeltaEntries_fits (appendDeltaEntries_fits
          (appendDeltaEntries_fits (appendDeltaEntries_fits (appendDeltaEntries_fits
          (appendDeltaEntries_fits (appendDeltaEntries_fits (appendDeltaEntries_fits
          (appendDeltaEntries_fits (appendDeltaEntries_fits hnew h₁) h₂) h₃) h₄) h₅) h₆) h₇) h₈)
          h₉) h₁₀) h₁₁
      case h_2 =>
        rw [pure_eq_ok] at hdeltas
        rw [← hdeltas]
        exact hnew
    have hbuilder : AllFitAlone serialisedLen ctx syncStatuses builder.fragments :=
      foldlM_induction (fun _ c => AllFitAlone serialisedLen ctx syncStatuses c.fragments) hfilled
        (fun _ _ _ _ _ hc hstep => appendNamed_fits hc hstep) hremoved
    unfold ProtocolTailFragmentBuilder.finish at hfinish
    split at hfinish
    case isTrue =>
      obtain ⟨hfits, hfinish⟩ := check_bind_eq_ok.mp hfinish
      rw [pure_eq_ok] at hfinish
      rw [← hfinish]
      exact hbuilder.concat (ensureCurrentFits_eq_ok hfits)
    case isFalse =>
      rw [pure_eq_ok] at hfinish
      rw [← hfinish]
      exact hbuilder

/-- The closed fragments fit, and so does the one being filled once it has any payload. -/
def SnapshotFragmentBuffer.Fits (serialisedLen : SerialisedLen Sim)
    (ctx : SnapshotChunkBuildContext) (syncStatuses : SyncStatuses)
    (buffer : SnapshotFragmentBuffer) : Prop :=
  AllFitAlone serialisedLen ctx syncStatuses buffer.fragments ∧
    (buffer.currentHasPayload = true → FitsAlone serialisedLen ctx syncStatuses buffer.current)

/-- A state begins a new fragment when it does not fit into the current one. -/
theorem appendState_fits {buffer buffer' : SnapshotFragmentBuffer}
    {entry : String × ComponentWithState} (hfits : buffer.Fits serialisedLen ctx syncStatuses)
    (h : buffer.appendState serialisedLen ctx message syncStatuses entry = .ok buffer') :
    buffer'.Fits serialisedLen ctx syncStatuses := by
  unfold SnapshotFragmentBuffer.appendState at h
  obtain ⟨fits, hcandidate, h⟩ := bind_eq_ok.mp h
  cases fits with
  | true =>
    simp only [if_true, pure_eq_ok] at h
    rw [← h]
    exact ⟨hfits.1, fun _ => ⟨_, hcandidate⟩⟩
  | false =>
    simp only [Bool.false_eq_true, if_false] at h
    obtain ⟨hpayload, h⟩ := check_bind_eq_ok.mp h
    obtain ⟨fits', hcurrent, h⟩ := bind_eq_ok.mp h
    obtain ⟨htrue, h⟩ := check_bind_eq_ok.mp h
    rw [ensure_eq_ok] at hpayload htrue
    rw [pure_eq_ok] at h
    rw [← h]
    exact ⟨hfits.1.concat (hfits.2 hpayload), fun _ => ⟨_, by rw [hcurrent, htrue]⟩⟩

theorem flush_fits {buffer : SnapshotFragmentBuffer} (message : BroadcasterProtocolMessage)
    (hfits : buffer.Fits serialisedLen ctx syncStatuses) :
    (buffer.flush message).Fits serialisedLen ctx syncStatuses := by
  unfold SnapshotFragmentBuffer.flush
  split
  case isTrue hpayload => exact ⟨hfits.1.concat (hfits.2 hpayload), fun h => by cases h⟩
  case isFalse => exact hfits

theorem splitVmStorageAccount_fits {address : Bytes} {account : ResponseAccount}
    {includeSyncStatuses : Bool} {fragments : List BroadcasterProtocolMessage}
    (h : splitVmStorageAccountForSnapshot serialisedLen ctx message syncStatuses address account
      includeSyncStatuses = .ok fragments) :
    AllFitAlone serialisedLen ctx syncStatuses fragments := by
  obtain ⟨-, -, -, -, hfits⟩ := exactCut_of_ok h
  intro fragment hmem
  obtain ⟨i, hi⟩ := List.mem_iff_getElem?.mp hmem
  exact ⟨_, hfits i fragment hi⟩

/-- **Every fragment fits alone.** -/
theorem splitProtocolMessage_fits {fragments : List BroadcasterProtocolMessage}
    (h : splitProtocolMessageForSnapshot serialisedLen ctx message syncStatuses = .ok fragments) :
    AllFitAlone serialisedLen ctx syncStatuses fragments := by
  unfold splitProtocolMessageForSnapshot at h
  obtain ⟨whole, hwhole, h⟩ := bind_eq_ok.mp h
  cases whole with
  | true =>
    simp only [if_true, check_bind_eq_ok, pure_eq_ok] at h
    rw [← h.2]
    refine List.forall_mem_singleton.mpr ⟨true, ?_⟩
    unfold fitsWhole at hwhole
    split at hwhole
    case isTrue => exact hwhole
    case isFalse => cases hwhole
  | false =>
    simp only [Bool.false_eq_true, if_false, bind_eq_ok, pure_eq_ok] at h
    obtain ⟨snapshots, hsnapshots, tail, htail, _, -, rfl⟩ := h
    unfold splitSnapshots at hsnapshots
    simp only [bind_eq_ok, pure_eq_ok] at hsnapshots
    obtain ⟨states, hstates, accounts, haccounts, rfl⟩ := hsnapshots
    have hstart : SnapshotFragmentBuffer.Fits serialisedLen ctx syncStatuses
        ⟨[], emptyProtocolFragment message false, false⟩ :=
      ⟨List.forall_mem_nil _, fun h => by cases h⟩
    have hstatesFit := foldlM_induction
      (fun _ c => SnapshotFragmentBuffer.Fits serialisedLen ctx syncStatuses c) hstart
      (fun _ _ _ _ _ hc hstep => appendState_fits hc hstep) hstates
    have haccountsFit := foldlM_induction
      (fun _ c => SnapshotFragmentBuffer.Fits serialisedLen ctx syncStatuses c) hstatesFit
      (fun _ entry c c' _ hc hstep => by
        unfold SnapshotFragmentBuffer.appendAccount at hstep
        simp only [bind_eq_ok, pure_eq_ok] at hstep
        obtain ⟨added, hadded, rfl⟩ := hstep
        have hflushed := flush_fits message hc
        exact ⟨hflushed.1.append (splitVmStorageAccount_fits hadded), hflushed.2⟩) haccounts
    exact (flush_fits message haccountsFit).1.append (splitProtocolTail_fits htail)

end

/-! ## What the packing loop lets through

An item that waits alone has been let through because it fits alone; several wait together only
after they were measured together. -/

section

variable {α : Type} {fit : Nat → List α → SyncStatuses → Except SnapshotError Bool}
  {chunk : Nat → List α → SyncStatuses → Except SnapshotError (BroadcasterSnapshotChunk Sim)}
  {exceeds : α → SnapshotError} {baseChunkIndex : Nat} {P : α → Prop}
  {Good : BroadcasterSnapshotChunk Sim → Prop}

/-- The waiting items were measured together, or there is none, or one that waits alone. -/
def ChunkBuffer.Waits (fit : Nat → List α → SyncStatuses → Except SnapshotError Bool)
    (P : α → Prop) (baseChunkIndex : Nat) (buffer : ChunkBuffer Sim α) : Prop :=
  fit (baseChunkIndex + buffer.chunks.length) buffer.items buffer.syncStatuses = .ok true ∨
    buffer.items = [] ∨ ∃ item, buffer.items = [item] ∧ buffer.syncStatuses = ∅ ∧ P item

/-- The chunks that come of such waiting items are good. -/
structure MakesGood (fit : Nat → List α → SyncStatuses → Except SnapshotError Bool)
    (chunk : Nat → List α → SyncStatuses → Except SnapshotError (BroadcasterSnapshotChunk Sim))
    (P : α → Prop) (Good : BroadcasterSnapshotChunk Sim → Prop) : Prop where
  measured : ∀ index items syncStatuses c, fit index items syncStatuses = .ok true →
    chunk index items syncStatuses = .ok c → Good c
  statuses : ∀ index syncStatuses c, chunk index [] syncStatuses = .ok c → Good c
  alone : ∀ index item c, P item → chunk index [item] ∅ = .ok c → Good c

theorem ChunkBuffer.Waits.good {buffer : ChunkBuffer Sim α} {c : BroadcasterSnapshotChunk Sim}
    (hgood : MakesGood fit chunk P Good) (hwaits : buffer.Waits fit P baseChunkIndex)
    (h : chunk (baseChunkIndex + buffer.chunks.length) buffer.items buffer.syncStatuses = .ok c) :
    Good c := by
  obtain hfit | hnone | ⟨item, hitem, hempty, hP⟩ := hwaits
  · exact hgood.measured _ _ _ _ hfit h
  · rw [hnone] at h
    exact hgood.statuses _ _ _ h
  · rw [hitem, hempty] at h
    exact hgood.alone _ _ _ hP h

/-- **One turn**: what was closed is good, what waits may be closed later. -/
theorem pack_good {buffer buffer' : ChunkBuffer Sim α} {item : α}
    (hgood : MakesGood fit chunk P Good) (hP : P item)
    (hchunks : ∀ c ∈ buffer.chunks, Good c) (hwaits : buffer.Waits fit P baseChunkIndex)
    (h : buffer.pack fit chunk exceeds baseChunkIndex item = .ok buffer') :
    (∀ c ∈ buffer'.chunks, Good c) ∧ buffer'.Waits fit P baseChunkIndex := by
  rw [ChunkBuffer.pack] at h
  obtain ⟨fits, hfits, h⟩ := bind_eq_ok.mp h
  cases fits with
  | true =>
    obtain rfl := pure_eq_ok.mp h
    exact ⟨hchunks, .inl hfits⟩
  | false =>
    simp only [Bool.false_eq_true, if_false] at h
    split at h
    case isTrue => cases h
    case isFalse =>
      obtain ⟨next, hnext, h⟩ := bind_eq_ok.mp h
      obtain rfl := pure_eq_ok.mp h
      refine ⟨List.forall_mem_append.mpr ⟨hchunks, ?_⟩, .inr (.inr ⟨item, rfl, rfl, hP⟩)⟩
      exact List.forall_mem_singleton.mpr (hwaits.good hgood hnext)

/-- **The loop** makes good chunks only. -/
theorem packAll_good {items : List α} {buffer buffer' : ChunkBuffer Sim α}
    (hgood : MakesGood fit chunk P Good) (hP : ∀ item ∈ items, P item)
    (hchunks : ∀ c ∈ buffer.chunks, Good c) (hwaits : buffer.Waits fit P baseChunkIndex)
    (h : items.foldlM (ChunkBuffer.pack fit chunk exceeds baseChunkIndex) buffer = .ok buffer') :
    (∀ c ∈ buffer'.chunks, Good c) ∧ buffer'.Waits fit P baseChunkIndex := by
  refine foldlM_induction (fun _ b => (∀ c ∈ b.chunks, Good c) ∧ b.Waits fit P baseChunkIndex)
    ⟨hchunks, hwaits⟩ ?_ h
  intro _ item b b' hmem hb hstep
  exact pack_good hgood (hP item hmem) hb.1 hb.2 hstep

theorem close_good {buffer : ChunkBuffer Sim α} {chunks : List (BroadcasterSnapshotChunk Sim)}
    (hgood : MakesGood fit chunk P Good) (hchunks : ∀ c ∈ buffer.chunks, Good c)
    (hwaits : buffer.Waits fit P baseChunkIndex)
    (h : buffer.close chunk baseChunkIndex = .ok chunks) : ∀ c ∈ chunks, Good c := by
  obtain ⟨-, -, rfl⟩ | ⟨last, hlast, rfl, -⟩ := close_cases h
  · exact hchunks
  · refine List.forall_mem_append.mpr ⟨hchunks, ?_⟩
    exact List.forall_mem_singleton.mpr (hwaits.good hgood hlast)

end

/-! ## Numbers in the text of a chunk

A chunk is measured before its numbers are known, at the worst index. Its size depends on its
numbers only through their digits. -/

/-- The envelope of a chunk under a sequence number and an index. -/
def chunkAt (streamId snapshotId : String) (partitions : List (BroadcasterSnapshotPartition Sim))
    (messageSeq : UInt64) (chunkIndex : UInt32) : BroadcasterEnvelope Sim :=
  { streamId, messageSeq, payload := .snapshotChunk { snapshotId, chunkIndex, partitions } }

/-- The digits of the two numbers. -/
def numberDigits (messageSeq : UInt64) (chunkIndex : UInt32) : Nat :=
  decimalDigits messageSeq.toNat + decimalDigits chunkIndex.toNat

/-- How serde lays out a chunk: the two numbers take their digits, and leaving out the sync statuses
does not make the text longer. -/
structure NumberLayout (serialisedLen : SerialisedLen Sim) : Prop where
  numbers : ∀ streamId snapshotId partitions seq seq' index index' size,
    serialisedLen (chunkAt streamId snapshotId partitions seq index) = .ok size →
    ∃ size', serialisedLen (chunkAt streamId snapshotId partitions seq' index') = .ok size' ∧
      size' + numberDigits seq index = size + numberDigits seq' index'
  withoutStatuses : ∀ streamId snapshotId backend blockNumber messages syncStatuses seq index size,
    serialisedLen (chunkAt streamId snapshotId
      [.withMessages backend blockNumber messages syncStatuses] seq index) = .ok size →
    ∃ bare ≤ size, serialisedLen (chunkAt streamId snapshotId
      [.withMessages backend blockNumber messages ∅] seq index) = .ok bare

theorem decimalDigits_pos (value : Nat) : 0 < decimalDigits value :=
  Nat.length_repr_pos

theorem decimalDigits_le {value k : Nat} (hk : 0 < k) (h : value < 10 ^ k) :
    decimalDigits value ≤ k :=
  (Nat.length_repr_le_iff hk).mpr h

theorem decimalDigits_chunkIndex (index : UInt32) : decimalDigits index.toNat ≤ 10 :=
  decimalDigits_le (by decide) (index.toNat_lt.trans (by decide))

/-- The sequence number under which chunks are measured has twenty digits. -/
theorem twenty_lt_numberDigits (index : UInt32) :
    21 ≤ numberDigits (.ofNat (2 ^ 64 - 1)) index := by
  have htwenty : decimalDigits (UInt64.ofNat (2 ^ 64 - 1)).toNat = 20 := by decide
  have hpos := decimalDigits_pos index.toNat
  rw [numberDigits, htwenty]
  omega

/-! ## Measured chunks

So every chunk that is built has been measured with at least as many digits as it is sent with. -/

section

variable {serialisedLen : SerialisedLen Sim} {ctx : SnapshotChunkBuildContext}

/-- Under the longest sequence number and some index the chunk keeps below the limit. -/
def MeasuredChunk (serialisedLen : SerialisedLen Sim) (streamId : String) (maxPayloadBytes : Nat)
    (chunk : BroadcasterSnapshotChunk Sim) : Prop :=
  ∃ index size, serialisedLen (chunkAt streamId chunk.snapshotId chunk.partitions
    (.ofNat (2 ^ 64 - 1)) index) = .ok size ∧ size ≤ maxPayloadBytes

/-- A chunk with a single decoded state and no sync statuses, or with no content but statuses. -/
def UnmeasuredShape (chunk : BroadcasterSnapshotChunk Sim) : Prop :=
  ∃ p, chunk.partitions = [p] ∧ p.messages = [] ∧
    (p.states = [] ∨ ∃ state, p.states = [state] ∧ p.syncStatuses = ∅)

/-- A chunk of one partition that was measured, or has the shape of one that need not be. -/
structure CheckedChunk (serialisedLen : SerialisedLen Sim) (streamId : String)
    (maxPayloadBytes : Nat) (chunk : BroadcasterSnapshotChunk Sim) : Prop where
  single : ∃ p, chunk.partitions = [p]
  checked : MeasuredChunk serialisedLen streamId maxPayloadBytes chunk ∨ UnmeasuredShape chunk

theorem snapshotChunk_shape {index : Nat} {partition : BroadcasterSnapshotPartition Sim}
    {chunk : BroadcasterSnapshotChunk Sim} (h : ctx.snapshotChunk index partition = .ok chunk) :
    chunk = { snapshotId := ctx.snapshotId, chunkIndex := .ofNat index, partitions := [partition] } := by
  rw [SnapshotChunkBuildContext.snapshotChunk, check_bind_eq_ok, mapError_eq_ok,
    chunk_new_singleton] at h
  exact h.2.2

theorem single_of_snapshotChunk {index : Nat} {partition : BroadcasterSnapshotPartition Sim}
    {chunk : BroadcasterSnapshotChunk Sim} (h : ctx.snapshotChunk index partition = .ok chunk) :
    ∃ p, chunk.partitions = [p] := by
  rw [snapshotChunk_shape h]
  exact ⟨partition, rfl⟩

/-- A chunk that fits was measured. -/
theorem measuredChunk_of_chunkFits {chunk : BroadcasterSnapshotChunk Sim}
    (h : ctx.chunkFits serialisedLen chunk = .ok true) :
    MeasuredChunk serialisedLen ctx.streamId ctx.maxPayloadBytes chunk := by
  obtain ⟨size, hsize, h⟩ := bind_eq_ok.mp h
  exact ⟨chunk.chunkIndex, size, hsize, of_decide_eq_true (pure_eq_ok.mp h)⟩

/-- Messages that fit make a measured chunk. -/
theorem measuredChunk_of_messagesFit {index index' : Nat}
    {messages : List BroadcasterProtocolMessage} {syncStatuses : SyncStatuses}
    {chunk : BroadcasterSnapshotChunk Sim}
    (hfit : ctx.messagesFit serialisedLen index messages syncStatuses = .ok true)
    (h : ctx.messagesChunk index' messages syncStatuses = .ok chunk) :
    MeasuredChunk serialisedLen ctx.streamId ctx.maxPayloadBytes chunk := by
  obtain ⟨size, hsize, hle⟩ := bind_eq_ok.mp hfit
  obtain ⟨measured, hmeasured, hsize⟩ := bind_eq_ok.mp hsize
  obtain rfl := snapshotChunk_shape hmeasured
  obtain rfl := snapshotChunk_shape h
  exact ⟨_, size, hsize, of_decide_eq_true (pure_eq_ok.mp hle)⟩

/-- Leaving out the sync statuses keeps a chunk of messages measured. -/
theorem measuredChunk_alone (layout : NumberLayout serialisedLen) {index : Nat}
    {fragment : BroadcasterProtocolMessage} {syncStatuses : SyncStatuses}
    {chunk : BroadcasterSnapshotChunk Sim}
    (hfits : FitsAlone serialisedLen ctx syncStatuses fragment)
    (h : ctx.messagesChunk index [fragment] ∅ = .ok chunk) :
    MeasuredChunk serialisedLen ctx.streamId ctx.maxPayloadBytes chunk := by
  obtain ⟨includeSyncStatuses, hfits⟩ := hfits
  obtain ⟨size, hsize, hle⟩ := bind_eq_ok.mp hfits
  obtain ⟨measured, hmeasured, hsize⟩ := bind_eq_ok.mp hsize
  obtain rfl := snapshotChunk_shape hmeasured
  obtain rfl := snapshotChunk_shape h
  obtain ⟨bare, hbare, hlen⟩ := layout.withoutStatuses _ _ _ _ _ _ _ _ _ hsize
  exact ⟨_, bare, hlen, hbare.trans (of_decide_eq_true (pure_eq_ok.mp hle))⟩

/-- Chunks of messages that were measured are good. -/
theorem makesGood_messages (ctx : SnapshotChunkBuildContext)
    (layout : NumberLayout serialisedLen) :
    MakesGood (ctx.messagesFit serialisedLen) ctx.messagesChunk
      (fun fragment => ∃ syncStatuses, FitsAlone serialisedLen ctx syncStatuses fragment)
      (CheckedChunk serialisedLen ctx.streamId ctx.maxPayloadBytes) where
  measured index items syncStatuses c hfit h :=
    ⟨single_of_snapshotChunk h, .inl (measuredChunk_of_messagesFit hfit h)⟩
  statuses index syncStatuses c h := by
    obtain rfl := snapshotChunk_shape h
    exact ⟨⟨_, rfl⟩, .inr ⟨_, rfl, rfl, .inl rfl⟩⟩
  alone index item c hfits h := by
    obtain ⟨syncStatuses, hfits⟩ := hfits
    exact ⟨single_of_snapshotChunk h, .inl (measuredChunk_alone layout hfits h)⟩

theorem makesGood_states :
    MakesGood (ctx.statesFit serialisedLen) ctx.statesChunk (fun _ => True)
      (CheckedChunk serialisedLen ctx.streamId ctx.maxPayloadBytes) where
  measured index items syncStatuses c hfit h := by
    obtain ⟨measured, hmeasured, hfit⟩ := bind_eq_ok.mp hfit
    obtain rfl := Except.ok.inj (hmeasured.symm.trans h)
    exact ⟨single_of_snapshotChunk h, .inl (measuredChunk_of_chunkFits hfit)⟩
  statuses index syncStatuses c h := by
    obtain rfl := snapshotChunk_shape h
    exact ⟨⟨_, rfl⟩, .inr ⟨_, rfl, rfl, .inl rfl⟩⟩
  alone index item c _ h := by
    obtain rfl := snapshotChunk_shape h
    exact ⟨⟨_, rfl⟩, .inr ⟨_, rfl, rfl, .inr ⟨item, rfl, rfl⟩⟩⟩

/-- **The chunks of a partition were measured**, or have a shape that is let through. -/
theorem buildPartition_checked (layout : NumberLayout serialisedLen) {baseChunkIndex : Nat}
    {partition : BroadcasterPartitionState Sim} {chunks : List (BroadcasterSnapshotChunk Sim)}
    (h : buildPartitionSnapshotChunks serialisedLen ctx baseChunkIndex partition = .ok chunks) :
    ∀ c ∈ chunks, CheckedChunk serialisedLen ctx.streamId ctx.maxPayloadBytes c := by
  rw [buildPartitionSnapshotChunks] at h
  split at h
  case isTrue =>
    obtain ⟨buffer, hfold, hclose⟩ := bind_eq_ok.mp h
    obtain ⟨hchunks, hwaits⟩ := packAll_good makesGood_states (fun _ _ => trivial)
      (List.forall_mem_nil _) (.inr (.inl rfl)) hfold
    exact close_good makesGood_states hchunks hwaits hclose
  case isFalse =>
    obtain ⟨buffer, hfold, hclose⟩ := bind_eq_ok.mp h
    have hgood := makesGood_messages ctx layout
    have hpacked := foldlM_induction (fun _ b =>
      (∀ c ∈ b.chunks, CheckedChunk serialisedLen ctx.streamId ctx.maxPayloadBytes c) ∧
      ChunkBuffer.Waits (ctx.messagesFit serialisedLen) (fun fragment => ∃ syncStatuses,
        FitsAlone serialisedLen ctx syncStatuses fragment) baseChunkIndex b)
      ⟨List.forall_mem_nil _, .inr (.inl rfl)⟩ (fun _ message b b' _ hb hstep => by
        obtain ⟨fragments, hsplit, hpack⟩ := bind_eq_ok.mp hstep
        exact packAll_good hgood (fun f hf => ⟨_, splitProtocolMessage_fits hsplit f hf⟩) hb.1 hb.2
          hpack) hfold
    exact close_good hgood hpacked.1 hpacked.2 hclose

theorem buildSnapshotChunks_checked (layout : NumberLayout serialisedLen)
    {source : BroadcasterSnapshotSource Sim} {configuredBackends : List BroadcasterBackend}
    {maxPayloadBytes : Nat} {chunks : List (BroadcasterSnapshotChunk Sim)}
    (h : buildSnapshotChunks serialisedLen source configuredBackends maxPayloadBytes = .ok chunks) :
    ∀ c ∈ chunks, CheckedChunk serialisedLen source.streamId maxPayloadBytes c := by
  refine foldlM_induction
    (fun _ held => ∀ c ∈ held, CheckedChunk serialisedLen source.streamId maxPayloadBytes c)
    (List.forall_mem_nil _) ?_ h
  intro _ backend held held' _ hheld hstep
  rw [appendBackendChunks] at hstep
  split at hstep
  case h_1 =>
    obtain rfl := Except.ok.inj hstep
    exact hheld
  case h_2 partition _ =>
    obtain ⟨more, hmore, hstep⟩ := bind_eq_ok.mp hstep
    obtain rfl := pure_eq_ok.mp hstep
    exact List.forall_mem_append.mpr ⟨hheld, buildPartition_checked layout hmore⟩

/-- **A measured chunk may be renumbered**: a sequence number of at most eleven digits leaves room
for any index. -/
theorem MeasuredChunk.renumbered (layout : NumberLayout serialisedLen) {streamId : String}
    {maxPayloadBytes : Nat} {chunk : BroadcasterSnapshotChunk Sim} {seq : UInt64}
    (h : MeasuredChunk serialisedLen streamId maxPayloadBytes chunk) (hseq : seq.toNat < 10 ^ 11)
    (index : UInt32) :
    ∃ size, serialisedLen (chunkAt streamId chunk.snapshotId chunk.partitions seq index) =
      .ok size ∧ size ≤ maxPayloadBytes := by
  obtain ⟨index', size', hsize', hle⟩ := h
  obtain ⟨size, hsize, hdigits⟩ := layout.numbers _ _ _ _ seq _ index _ hsize'
  have hspare := twenty_lt_numberDigits index'
  have hseqDigits := decimalDigits_le (by decide) hseq
  have hindexDigits := decimalDigits_chunkIndex index
  refine ⟨size, hsize, ?_⟩
  have hnew : numberDigits seq index ≤ 21 := by
    rw [numberDigits]
    omega
  omega

end

/-! ## The artifact -/

/-- `BroadcasterSnapshotArtifact`. -/
structure BroadcasterSnapshotArtifact (Sim : Type) where
  chainId : UInt64
  streamId : String
  snapshotId : String
  redisReplayBoundary : BroadcasterRedisReplayBoundary
  payloads : List (BroadcasterEnvelope Sim)
  snapshotChunkCount : UInt32
  encodedBytes : Nat

/-- The payloads under the sequence numbers from one on. -/
def artifactPayloads (exported : BroadcasterSnapshotExport Sim) : List (BroadcasterEnvelope Sim) :=
  exported.payloads.zipIdx.map fun (payload, index) =>
    { streamId := exported.streamId, messageSeq := .ofNat (min (index + 1) (2 ^ 64 - 1)), payload }

/-- One turn of the loop that measures the payloads of the artifact. -/
def artifactPayloadSize (serialisedLen : SerialisedLen Sim) (maxPayloadBytes : Nat)
    (entry : BroadcasterEnvelope Sim × Nat) : Except SnapshotError Nat := do
  let (envelope, index) := entry
  let bytes ← serialisedLen envelope
  ensure (bytes ≤ maxPayloadBytes) (.text
    s!"snapshot payload {index} is {bytes} bytes, above configured max {maxPayloadBytes}")
  return bytes

/-- `build_snapshot_artifact`: the artifact and the size of its largest payload. -/
def buildSnapshotArtifact (serialisedLen : SerialisedLen Sim) (chainId : UInt64)
    (exported : BroadcasterSnapshotExport Sim) (boundary : BroadcasterRedisReplayBoundary) :
    Except SnapshotError (BroadcasterSnapshotArtifact Sim × Nat) := do
  ensure (exported.streamId = boundary.streamId)
    (.text "snapshot stream_id mismatch with Redis replay boundary")
  ensure (exported.snapshotId = boundary.snapshotId)
    (.text "snapshot_id mismatch with Redis replay boundary")
  let payloads := artifactPayloads exported
  let sizes ← payloads.zipIdx.mapM (artifactPayloadSize serialisedLen exported.maxPayloadBytes)
  let chunkCount := payloads.countP fun envelope => envelope.kind = .snapshotChunk
  return ({ chainId, streamId := exported.streamId, snapshotId := exported.snapshotId
            redisReplayBoundary := boundary, payloads, snapshotChunkCount := .ofNat chunkCount
            encodedBytes := sizes.foldl saturatingAdd 0 }, sizes.foldl max 0)

/-- No chunk of the joined export fails the size check of the artifact. -/
def ChunksPass (serialisedLen : SerialisedLen Sim) (combined : BroadcasterSnapshotExport Sim) :
    Prop :=
  ∀ entry ∈ (artifactPayloads combined).zipIdx, entry.1.kind = .snapshotChunk →
    ∃ bytes, artifactPayloadSize serialisedLen combined.maxPayloadBytes entry = .ok bytes

/-! ## Places of chunks

A chunk of a joined export was measured at its place in its own export and stands at another place
in the joined one. The later place may take more digits. -/

/-- The chunks of an export, in order. -/
def exportedChunks (exported : BroadcasterSnapshotExport Sim) :
    List (BroadcasterSnapshotChunk Sim) :=
  exported.payloads.filterMap fun
    | .snapshotChunk chunk => some chunk
    | _ => none

/-- A chunk of one of several exports, with its place in its own export. -/
structure ChunkPlace (Sim : Type) where
  exported : BroadcasterSnapshotExport Sim
  chunk : BroadcasterSnapshotChunk Sim
  index : Nat

/-- All chunks of the exports, in the order in which they are joined. -/
def chunkPlaces (exports : List (BroadcasterSnapshotExport Sim)) : List (ChunkPlace Sim) :=
  exports.flatMap fun exported =>
    (exportedChunks exported).zipIdx.map fun (chunk, index) => { exported, chunk, index }

/-- The sequence number of the payload that carries chunk number `index`. -/
def chunkSeq (index : Nat) : UInt64 := .ofNat (min (index + 2) (2 ^ 64 - 1))

/-- The envelope in which an export measures a chunk of its own. -/
def ChunkPlace.ownEnvelope (place : ChunkPlace Sim) : BroadcasterEnvelope Sim :=
  chunkAt place.exported.streamId place.chunk.snapshotId place.chunk.partitions
    (chunkSeq place.index) (.ofNat place.index)

/-- **Room to move**: a chunk of a shape that need not be measured, or one with a sequence number of
twelve digits or more, has room for the digits that its new place takes more than its own. -/
def RoomToMove (serialisedLen : SerialisedLen Sim)
    (exports : List (BroadcasterSnapshotExport Sim)) : Prop :=
  ∀ j place own, (chunkPlaces exports)[j]? = some place →
    UnmeasuredShape place.chunk ∨ 10 ^ 11 ≤ j + 2 →
    serialisedLen place.ownEnvelope = .ok own →
    own + numberDigits (chunkSeq j) (.ofNat j) ≤
      place.exported.maxPayloadBytes + numberDigits (chunkSeq place.index) (.ofNat place.index)

/-- The places, in order, are the chunks of the exports in order. -/
theorem map_chunk_chunkPlaces (exports : List (BroadcasterSnapshotExport Sim)) :
    (chunkPlaces exports).map (·.chunk) = exports.flatMap exportedChunks := by
  rw [chunkPlaces, List.map_flatMap]
  refine List.flatMap_congr fun exported _ => ?_
  rw [List.map_map]
  exact List.zipIdx_map_fst 0 _

/-- A place names an export and an index in it. -/
theorem mem_chunkPlaces {exports : List (BroadcasterSnapshotExport Sim)} {place : ChunkPlace Sim} :
    place ∈ chunkPlaces exports ↔
      place.exported ∈ exports ∧ (exportedChunks place.exported)[place.index]? = some place.chunk := by
  rw [chunkPlaces, List.mem_flatMap]
  constructor
  · rintro ⟨exported, hexported, hplace⟩
    obtain ⟨⟨chunk, index⟩, hentry, rfl⟩ := List.mem_map.mp hplace
    exact ⟨hexported, List.mem_zipIdx_iff_getElem?.mp hentry⟩
  · rintro ⟨hexported, hchunk⟩
    refine ⟨place.exported, hexported, List.mem_map.mpr ⟨(place.chunk, place.index), ?_, rfl⟩⟩
    exact List.mem_zipIdx_iff_getElem?.mpr hchunk

theorem chunkSeq_of_lt {index : Nat} (h : index < 2 ^ 32) : chunkSeq index = .ofNat (index + 2) := by
  have hle : index + 2 ≤ 2 ^ 64 - 1 := by omega
  rw [chunkSeq, Nat.min_eq_left hle]

/-! ## What an export measured -/

section

variable {serialisedLen : SerialisedLen Sim} {source : BroadcasterSnapshotSource Sim}
  {maxPayloadBytes : Nat} {chunks : List (BroadcasterSnapshotChunk Sim)}
  {exported : BroadcasterSnapshotExport Sim}

/-- The chunks of a session are its chunks. -/
theorem exportedChunks_session {start : BroadcasterSnapshotStart}
    (session : SnapshotSession exported start chunks) : exportedChunks exported = chunks := by
  rw [exportedChunks, session.payloads, snapshotPayloads]
  simp [List.filterMap_map]

/-- A chunk stands one behind its index, after the start. -/
theorem snapshotPayloads_getElem? {start : BroadcasterSnapshotStart}
    {chunks : List (BroadcasterSnapshotChunk Sim)} {j : Nat} {chunk : BroadcasterSnapshotChunk Sim}
    (h : chunks[j]? = some chunk) :
    (snapshotPayloads start chunks)[j + 1]? = some (.snapshotChunk chunk) := by
  have hlt := (List.getElem?_eq_some_iff.mp h).1
  rw [snapshotPayloads, List.getElem?_cons_succ,
    List.getElem?_append_left (by rw [List.length_map]; exact hlt), List.getElem?_map, h]
  rfl

theorem withContext_eq_ok {α : Type} {context : String} {x : Except SnapshotError α} {a : α} :
    withContext context x = .ok a ↔ x = .ok a := by
  rcases x with (_ | _) | _ <;> simp [withContext]

/-- There are no more chunks than a `u32` numbers. -/
theorem buildSnapshotChunks_index_lt {configuredBackends : List BroadcasterBackend}
    (h : buildSnapshotChunks serialisedLen source configuredBackends maxPayloadBytes = .ok chunks) :
    ∀ i, i < chunks.length → i < 2 ^ 32 := by
  refine foldlM_induction (fun _ held => ∀ i, i < held.length → i < 2 ^ 32)
    (fun i hi => by cases hi) ?_ h
  intro _ backend held held' _ hheld hstep
  rw [appendBackendChunks] at hstep
  split at hstep
  case h_1 =>
    obtain rfl := Except.ok.inj hstep
    exact hheld
  case h_2 partition _ =>
    obtain ⟨more, hmore, hstep⟩ := bind_eq_ok.mp hstep
    obtain rfl := pure_eq_ok.mp hstep
    intro i hi
    rcases Nat.lt_or_ge i held.length with hlt | hge
    · exact hheld i hlt
    · have hin : i - held.length < more.length := by
        rw [List.length_append] at hi
        omega
      have hof := (buildPartition_chunked hmore).1 _ _ (List.getElem?_eq_getElem hin)
      have hindex := hof.index_lt
      omega

/-- **An export measured each chunk where it is**, and checked it before. -/
theorem exportSnapshotSource_measured (layout : NumberLayout serialisedLen)
    {cache : BroadcasterSnapshotCache Sim}
    (h : cache.exportSnapshotSource serialisedLen source maxPayloadBytes = .ok exported)
    {i : Nat} {chunk : BroadcasterSnapshotChunk Sim}
    (hchunk : (exportedChunks exported)[i]? = some chunk) :
    chunk.snapshotId = exported.snapshotId ∧
      CheckedChunk serialisedLen exported.streamId exported.maxPayloadBytes chunk ∧
      ∃ own, serialisedLen (chunkAt exported.streamId chunk.snapshotId chunk.partitions (chunkSeq i)
        (.ofNat i)) = .ok own ∧ own ≤ exported.maxPayloadBytes := by
  obtain ⟨start, chunks, hbuild, hsession, -⟩ := exportSnapshotSource_session h
  rw [exportedChunks_session hsession] at hchunk
  have horder := hsession.inOrder i chunk hchunk
  obtain ⟨chunks', hbuild', h⟩ := bind_eq_ok.mp h
  obtain rfl := Except.ok.inj (hbuild.symm.trans hbuild')
  obtain ⟨start', -, h⟩ := bind_eq_ok.mp h
  rw [check_bind_eq_ok, pure_eq_ok, forM_eq_ok] at h
  obtain ⟨hfits, rfl⟩ := h
  have hlt := (List.getElem?_eq_some_iff.mp hchunk).1
  refine ⟨horder.1.trans hsession.snapshotId,
    buildSnapshotChunks_checked layout hbuild chunk (List.mem_of_getElem? hchunk), ?_⟩
  -- the chunk is the payload after the start
  have hfit := hfits (.snapshotChunk chunk, i + 1)
    (List.mem_zipIdx_iff_getElem?.mpr (snapshotPayloads_getElem? hchunk))
  obtain ⟨own, hsize, hle⟩ := bind_eq_ok.mp (withContext_eq_ok.mp hfit)
  refine ⟨own, ?_, ensure_eq_ok.mp hle⟩
  rw [chunkSeq_of_lt (buildSnapshotChunks_index_lt hbuild i hlt), chunkAt, ← horder.2.1]
  exact hsize

end

/-! ## Joining -/

section

variable {serialisedLen : SerialisedLen Sim} {chainId : UInt64}
  {first combined : BroadcasterSnapshotExport Sim} {exports : List (BroadcasterSnapshotExport Sim)}

/-- The exports of the joined snapshot share their ids and cap. -/
def SameTarget (first exported : BroadcasterSnapshotExport Sim) : Prop :=
  exported.streamId = first.streamId ∧ exported.snapshotId = first.snapshotId ∧
    exported.maxPayloadBytes = first.maxPayloadBytes

/-- Exports are joined when they are of one snapshot. -/
theorem collectSnapshotExportParts_target {parts parts' : SnapshotExportParts Sim}
    {exported : BroadcasterSnapshotExport Sim}
    (h : collectSnapshotExportParts chainId first parts exported = .ok parts') :
    SameTarget first exported := by
  rw [collectSnapshotExportParts, check_bind_eq_ok, check_bind_eq_ok, check_bind_eq_ok,
    ensure_eq_ok, ensure_eq_ok, ensure_eq_ok] at h
  exact ⟨h.1, h.2.1, h.2.2.1⟩

/-- What the loop over the exports collects. -/
theorem collectAll_chunks {parts : SnapshotExportParts Sim}
    (hsessions : ∀ exported ∈ exports, ∃ start chunks, SnapshotSession exported start chunks)
    (h : exports.foldlM (collectSnapshotExportParts chainId first)
      { backends := [], chunks := [] } = .ok parts) :
    parts.chunks = exports.flatMap exportedChunks ∧ ∀ exported ∈ exports, SameTarget first exported := by
  refine foldlM_induction (fun pre held => held.chunks = pre.flatMap exportedChunks ∧
    ∀ exported ∈ pre, SameTarget first exported) ⟨rfl, List.forall_mem_nil _⟩ ?_ h
  rintro pre exported held held' hmem ⟨hchunks, htarget⟩ hstep
  obtain ⟨start, chunks, hsession⟩ := hsessions exported hmem
  have hsame := collectSnapshotExportParts_target hstep
  obtain ⟨-, -, rfl⟩ := collectSnapshotExportParts_session hsession hstep
  refine ⟨?_, List.forall_mem_append.mpr ⟨htarget, List.forall_mem_singleton.mpr hsame⟩⟩
  rw [List.flatMap_append, List.flatMap_singleton, exportedChunks_session hsession, ← hchunks]

/-- A chunk of one partition keeps it when it is numbered anew. -/
theorem renumberChunks_partitions {snapshotId : String}
    {chunks renumbered : List (BroadcasterSnapshotChunk Sim)}
    (hsingle : ∀ chunk ∈ chunks, ∃ p, chunk.partitions = [p])
    (h : renumberChunks snapshotId chunks = .ok renumbered) :
    renumbered.map (·.partitions) = chunks.map (·.partitions) := by
  refine foldlM_induction (fun pre held => held.map (·.partitions) = pre.map (·.partitions)) rfl ?_ h
  intro pre chunk held held' hmem hheld hstep
  obtain ⟨next, hnext, hstep⟩ := bind_eq_ok.mp hstep
  obtain rfl := pure_eq_ok.mp hstep
  obtain ⟨p, hp⟩ := hsingle chunk hmem
  obtain ⟨-, -, -, -, hperm⟩ := snapshotChunk_new_eq_ok (mapError_eq_ok.mp hnext)
  rw [hp, List.perm_singleton] at hperm
  rw [List.map_append, List.map_append, hheld, List.map_singleton, List.map_singleton, hp, hperm]

/-- The joined chunks have the partitions of the exported ones, in order. -/
theorem combineSnapshotExports_chunks
    (hsessions : ∀ exported ∈ exports, ∃ start chunks, SnapshotSession exported start chunks)
    (hsingle : ∀ exported ∈ exports, ∀ chunk ∈ exportedChunks exported,
      ∃ p, chunk.partitions = [p])
    (h : combineSnapshotExports chainId exports = .ok combined) :
    ∃ start chunks, combined.payloads = snapshotPayloads start chunks ∧
      ChunksInOrder combined.snapshotId chunks ∧
      chunks.map (·.partitions) = (exports.flatMap exportedChunks).map (·.partitions) ∧
      ∀ exported ∈ exports, SameTarget combined exported := by
  rcases exports with _ | ⟨first, rest⟩
  · cases h
  obtain ⟨parts, hparts, h⟩ := bind_eq_ok.mp h
  obtain ⟨start, -, h⟩ := bind_eq_ok.mp h
  obtain ⟨chunks, hchunks, h⟩ := bind_eq_ok.mp h
  obtain rfl := pure_eq_ok.mp h
  obtain ⟨hcollected, htarget⟩ := collectAll_chunks hsessions hparts
  refine ⟨start, chunks, rfl, (renumberChunks_spec hchunks).1, ?_, htarget⟩
  rw [← hcollected]
  refine renumberChunks_partitions (fun chunk hchunk => ?_) hchunks
  rw [hcollected, List.mem_flatMap] at hchunk
  obtain ⟨exported, hexported, hchunk⟩ := hchunk
  exact hsingle exported hexported chunk hchunk

/-- A payload is taken when it is within the limit. -/
theorem artifactPayloadSize_eq_ok {maxPayloadBytes bytes : Nat}
    {entry : BroadcasterEnvelope Sim × Nat} :
    artifactPayloadSize serialisedLen maxPayloadBytes entry = .ok bytes ↔
      serialisedLen entry.1 = .ok bytes ∧ bytes ≤ maxPayloadBytes := by
  rw [artifactPayloadSize, bind_eq_ok]
  simp only [check_bind_eq_ok, ensure_eq_ok, pure_eq_ok]
  constructor
  · rintro ⟨size, hsize, hle, rfl⟩
    exact ⟨hsize, hle⟩
  · rintro ⟨hsize, hle⟩
    exact ⟨bytes, hsize, hle, rfl⟩

/-- Only the payloads between the start and the end are chunks. -/
theorem getElem?_snapshotPayloads_chunk {start : BroadcasterSnapshotStart}
    {chunks : List (BroadcasterSnapshotChunk Sim)} {i : Nat} {payload : BroadcasterPayload Sim}
    (h : (snapshotPayloads start chunks)[i]? = some payload) (hkind : payload.kind = .snapshotChunk) :
    ∃ j chunk, i = j + 1 ∧ chunks[j]? = some chunk ∧ payload = .snapshotChunk chunk := by
  rw [snapshotPayloads] at h
  rcases i with _ | j
  · cases h
    cases hkind
  rw [List.getElem?_cons_succ, List.getElem?_append] at h
  split at h
  case isTrue =>
    rw [List.getElem?_map, Option.map_eq_some_iff] at h
    obtain ⟨chunk, hchunk, rfl⟩ := h
    exact ⟨j, chunk, rfl, hchunk, rfl⟩
  case isFalse =>
    have hend := List.mem_singleton.mp (List.mem_of_getElem? h)
    rw [hend] at hkind
    cases hkind

/-- The artifact measures each chunk under its joined place. -/
theorem chunksPass_iff {start : BroadcasterSnapshotStart}
    {chunks : List (BroadcasterSnapshotChunk Sim)}
    (hpayloads : combined.payloads = snapshotPayloads start chunks) :
    ChunksPass serialisedLen combined ↔ ∀ j chunk, chunks[j]? = some chunk → ∃ bytes,
      serialisedLen (chunkAt combined.streamId chunk.snapshotId chunk.partitions (chunkSeq j)
        chunk.chunkIndex) = .ok bytes ∧ bytes ≤ combined.maxPayloadBytes := by
  simp only [ChunksPass, artifactPayloadSize_eq_ok]
  constructor
  · intro hpass j chunk hchunk
    have hentry : (⟨combined.streamId, chunkSeq j, .snapshotChunk chunk⟩, j + 1) ∈
        (artifactPayloads combined).zipIdx := by
      rw [List.mem_zipIdx_iff_getElem?, artifactPayloads, List.getElem?_map, List.getElem?_zipIdx,
        hpayloads, snapshotPayloads_getElem? hchunk]
      simp [chunkSeq]
    exact hpass _ hentry rfl
  · rintro hall ⟨envelope, i⟩ hentry hkind
    rw [List.mem_zipIdx_iff_getElem?, artifactPayloads, List.getElem?_map, List.getElem?_zipIdx,
      hpayloads] at hentry
    rcases hpayload : (snapshotPayloads start chunks)[i]? with _ | payload
    · rw [hpayload] at hentry
      cases hentry
    simp only [hpayload, Option.map_some, Option.some.injEq, Nat.zero_add] at hentry
    subst hentry
    obtain ⟨j, chunk, rfl, hchunk, rfl⟩ := getElem?_snapshotPayloads_chunk hpayload hkind
    obtain ⟨bytes, hsize, hle⟩ := hall j chunk hchunk
    exact ⟨bytes, hsize, hle⟩

/-- Whether a chunk fits under its joined place. -/
theorem joined_fits_iff (layout : NumberLayout serialisedLen) {place : ChunkPlace Sim} {j own : Nat}
    (hchecked : CheckedChunk serialisedLen place.exported.streamId place.exported.maxPayloadBytes
      place.chunk) (hown : serialisedLen place.ownEnvelope = .ok own) :
    (∃ bytes, serialisedLen (chunkAt place.exported.streamId place.chunk.snapshotId
        place.chunk.partitions (chunkSeq j) (.ofNat j)) = .ok bytes ∧
        bytes ≤ place.exported.maxPayloadBytes) ↔
      (UnmeasuredShape place.chunk ∨ 10 ^ 11 ≤ j + 2 →
        own + numberDigits (chunkSeq j) (.ofNat j) ≤
          place.exported.maxPayloadBytes +
            numberDigits (chunkSeq place.index) (.ofNat place.index)) := by
  obtain ⟨joined, hjoined, hdigits⟩ := layout.numbers _ _ _ _ (chunkSeq j) _ (.ofNat j) _ hown
  constructor
  · rintro ⟨bytes, hbytes, hle⟩ -
    obtain rfl := Except.ok.inj (hjoined.symm.trans hbytes)
    omega
  · intro hroom
    refine ⟨joined, hjoined, ?_⟩
    by_cases hj : 10 ^ 11 ≤ j + 2
    · have hle := hroom (.inr hj)
      omega
    rcases hchecked.checked with hmeasured | hshape
    · have hseq : (chunkSeq j).toNat < 10 ^ 11 := by
        have hle : (chunkSeq j).toNat ≤ min (j + 2) (2 ^ 64 - 1) := Nat.mod_le _ _
        omega
      obtain ⟨size, hsize, hle⟩ := hmeasured.renumbered layout hseq (.ofNat j)
      obtain rfl := Except.ok.inj (hjoined.symm.trans hsize)
      exact hle
    · have hle := hroom (.inl hshape)
      omega

/-- **Joined chunks fit** exactly when those that were not measured, if any, have room to move. -/
theorem combined_chunks_fit_iff (layout : NumberLayout serialisedLen)
    (hexports : ∀ exported ∈ exports, ∃ (cache : BroadcasterSnapshotCache Sim) (source : _)
      (maxPayloadBytes : Nat),
      cache.exportSnapshotSource serialisedLen source maxPayloadBytes = .ok exported)
    (h : combineSnapshotExports chainId exports = .ok combined) :
    ChunksPass serialisedLen combined ↔ RoomToMove serialisedLen exports := by
  have hmeasured : ∀ exported ∈ exports, ∀ i chunk, (exportedChunks exported)[i]? = some chunk →
      chunk.snapshotId = exported.snapshotId ∧ CheckedChunk serialisedLen exported.streamId exported.maxPayloadBytes chunk ∧
      ∃ own, serialisedLen (chunkAt exported.streamId chunk.snapshotId chunk.partitions (chunkSeq i)
        (.ofNat i)) = .ok own ∧ own ≤ exported.maxPayloadBytes := by
    intro exported hexported i chunk hchunk
    obtain ⟨cache, source, maxPayloadBytes, hexport⟩ := hexports exported hexported
    exact exportSnapshotSource_measured layout hexport hchunk
  have hsessions : ∀ exported ∈ exports, ∃ start chunks,
      SnapshotSession exported start chunks := by
    intro exported hexported
    obtain ⟨cache, source, maxPayloadBytes, hexport⟩ := hexports exported hexported
    obtain ⟨start, chunks, -, hsession, -⟩ := exportSnapshotSource_session hexport
    exact ⟨start, chunks, hsession⟩
  have hsingle : ∀ exported ∈ exports, ∀ chunk ∈ exportedChunks exported,
      ∃ p, chunk.partitions = [p] := by
    intro exported hexported chunk hchunk
    obtain ⟨i, hi⟩ := List.mem_iff_getElem?.mp hchunk
    exact (hmeasured exported hexported i chunk hi).2.1.single
  obtain ⟨start, chunks, hpayloads, horder, hpartitions, htarget⟩ :=
    combineSnapshotExports_chunks hsessions hsingle h
  have hplaces : chunks.map (·.partitions) =
      (chunkPlaces exports).map fun place => place.chunk.partitions := by
    rw [hpartitions, ← map_chunk_chunkPlaces, List.map_map]
    rfl
  -- the joined envelope of a place
  have hiff : ∀ j place, (chunkPlaces exports)[j]? = some place → ∀ chunk, chunks[j]? = some chunk →
      ((∃ bytes, serialisedLen (chunkAt combined.streamId chunk.snapshotId chunk.partitions
        (chunkSeq j) chunk.chunkIndex) = .ok bytes ∧ bytes ≤ combined.maxPayloadBytes) ↔
      ∀ own, UnmeasuredShape place.chunk ∨ 10 ^ 11 ≤ j + 2 →
        serialisedLen place.ownEnvelope = .ok own →
        own + numberDigits (chunkSeq j) (.ofNat j) ≤ place.exported.maxPayloadBytes +
          numberDigits (chunkSeq place.index) (.ofNat place.index)) := by
    intro j place hplace chunk hchunk
    obtain ⟨hexported, hown⟩ := mem_chunkPlaces.mp (List.mem_of_getElem? hplace)
    obtain ⟨hid, hchecked, own, hsize, -⟩ := hmeasured _ hexported _ _ hown
    obtain ⟨hstream, hsnapshot, hcap⟩ := htarget _ hexported
    obtain ⟨hjoinedId, hindex, -⟩ := horder j chunk hchunk
    have hsame : chunk.partitions = place.chunk.partitions := by
      have hmapped := congrArg (·[j]?) hplaces
      simpa [hplace, hchunk] using hmapped
    rw [hjoinedId, ← hsnapshot, ← hid, hindex, hsame, ← hstream, ← hcap,
      joined_fits_iff layout hchecked hsize]
    constructor
    · intro hroom own' hcase hown'
      obtain rfl := Except.ok.inj (hsize.symm.trans hown')
      exact hroom hcase
    · exact fun hroom hcase => hroom own hcase hsize
  have hlength : chunks.length = (chunkPlaces exports).length := by
    have hmapped := congrArg List.length hplaces
    rwa [List.length_map, List.length_map] at hmapped
  rw [chunksPass_iff hpayloads]
  constructor
  · intro hpass j place own hplace
    have hlt := (List.getElem?_eq_some_iff.mp hplace).1
    have hchunk := List.getElem?_eq_getElem (hlength ▸ hlt)
    exact (hiff j place hplace _ hchunk).mp (hpass j _ hchunk) own
  · intro hroom j chunk hchunk
    have hlt := (List.getElem?_eq_some_iff.mp hchunk).1
    have hplace := List.getElem?_eq_getElem (hlength ▸ hlt)
    exact (hiff j _ hplace chunk hchunk).mpr fun own => hroom j _ own hplace

end

/-! ## A joined chunk that outgrows its limit

Seven chunks of one backend in front move the second chunk of the other from index one to index
eight, and its number from three to ten. The chunk was full to the byte. -/

/-- The bytes of a partition of decoded states that are given by the bytes of their entries. -/
def partitionLen (partition : BroadcasterSnapshotPartition Nat) : Nat :=
  41 + partition.backend.asStr.length + decimalDigits partition.blockNumber.toNat +
    (partition.states.map (·.state)).sum + (partition.states.length - 1) +
    49 * partition.syncStatuses.size

/-- The lengths of the JSON texts of the payloads of the snapshot `chain-1-snapshot-1`. -/
def stateLen : SerialisedLen Nat
  | { messageSeq, payload := .snapshotChunk chunk, .. } => .ok <|
    135 + numberDigits messageSeq chunk.chunkIndex + (chunk.partitions.map partitionLen).sum
  | { payload := .snapshotStart start, .. } => .ok <|
    150 + (start.backends.map (·.asStr.length)).sum
  | { messageSeq, .. } => .ok (103 + decimalDigits messageSeq.toNat)

/-- The sample serialiser writes numbers as serde does. -/
theorem stateLen_layout : NumberLayout stateLen where
  numbers streamId snapshotId partitions seq seq' index index' size h := by
    obtain rfl := Except.ok.inj h
    refine ⟨_, rfl, ?_⟩
    dsimp only
    omega
  withoutStatuses streamId snapshotId backend blockNumber messages syncStatuses seq index size h := by
    obtain rfl := Except.ok.inj h
    refine ⟨_, ?_, rfl⟩
    have hnone : (∅ : SyncStatuses).size = 0 := Std.ExtTreeMap.size_empty
    simp only [BroadcasterSnapshotPartition.withMessages, partitionLen, List.map_cons, List.map_nil,
      List.sum_cons, List.sum_nil, hnone]
    omega

/-- A pool of a protocol. -/
def poolOf (protocolSystem : String) : ProtocolComponent :=
  { id := [], protocolSystem, protocolTypeName := "pool", tokens := [] }

/-- An update that announces pools of a protocol. -/
def announcePools (protocolSystem : String) (pools : List (String × Nat)) : TychoUpdate Nat :=
  { blockNumberOrTimestamp := 1
    newPairs := .ofList (pools.map fun pool => (pool.1, poolOf protocolSystem))
    states := .ofList pools
    removedPairs := ∅
    syncStates := ∅ }

/-- The cache of one backend after the pools were announced. -/
def poolsCache (backend : BroadcasterBackend) (protocolSystem : String)
    (pools : List (String × Nat)) : Except SnapshotError (BroadcasterSnapshotCache Nat) := do
  let (cache, _) ← BroadcasterSnapshotCache.applyUpdate keepIncoming (.new 1 [backend])
    (announcePools protocolSystem pools)
  return cache

/-- The chunk of one pool. -/
def poolChunk (backend : BroadcasterBackend) (protocolSystem : String) (chunkIndex : Nat)
    (pool : String × Nat) : BroadcasterSnapshotChunk Nat :=
  { snapshotId := "chain-1-snapshot-1", chunkIndex := .ofNat chunkIndex
    partitions := [.new backend 1 [⟨pool.1, poolOf protocolSystem, pool.2⟩] ∅] }

/-- An export with one chunk for each pool. -/
def poolsExport (backends : List BroadcasterBackend) (chunks : List (BroadcasterSnapshotChunk Nat)) :
    BroadcasterSnapshotExport Nat :=
  { streamId := "chain-1-stream-1"
    snapshotId := "chain-1-snapshot-1"
    maxPayloadBytes := 1000
    payloads := snapshotPayloads ⟨"chain-1-snapshot-1", 1, backends, .ofNat chunks.length⟩ chunks }

/-- Seven chunks of one pool each. -/
def nativeChunks : List (BroadcasterSnapshotChunk Nat) :=
  ["a", "b", "c", "d", "e", "f", "g"].mapIdx fun i id => poolChunk .native "uniswap_v2" i (id, 700)

/-- A small pool and a wide one, each in a chunk of its own. -/
def rfqChunks (base wide : Nat) : List (BroadcasterSnapshotChunk Nat) :=
  [("small", 600), ("wide", wide)].mapIdx fun i pool =>
    poolChunk .rfq "rfq:hashflow" (base + i) pool

theorem native_exported : ∃ cache, poolsCache .native "uniswap_v2"
    (["a", "b", "c", "d", "e", "f", "g"].map (·, 700)) = .ok cache ∧
    cache.exportSnapshotSource stateLen cache.snapshotSource 1000 =
      .ok (poolsExport [.native] nativeChunks) :=
  ⟨_, rfl, by decide +kernel⟩

/-- A wide pool of 818 bytes takes its own chunk to the limit. -/
theorem rfq_exported : ∀ wide ∈ [817, 818], ∃ cache,
    poolsCache .rfq "rfq:hashflow" [("small", 600), ("wide", wide)] = .ok cache ∧
    cache.exportSnapshotSource stateLen cache.snapshotSource 1000 =
      .ok (poolsExport [.rfq] (rfqChunks 0 wide)) := by
  refine List.forall_mem_cons.mpr ⟨⟨_, rfl, by decide +kernel⟩, ?_⟩
  exact List.forall_mem_singleton.mpr ⟨_, rfl, by decide +kernel⟩

/-- The export of both backends. -/
def joinedExport (wide : Nat) : BroadcasterSnapshotExport Nat :=
  poolsExport [.native, .rfq] (nativeChunks ++ rfqChunks 7 wide)

theorem pools_joined : ∀ wide ∈ [817, 818],
    combineSnapshotExports 1 [poolsExport [.native] nativeChunks,
      poolsExport [.rfq] (rfqChunks 0 wide)] = .ok (joinedExport wide) := by
  refine List.forall_mem_cons.mpr ⟨by decide +kernel, ?_⟩
  exact List.forall_mem_singleton.mpr (by decide +kernel)

theorem joined_chunks_fit : ∀ row ∈ (nativeChunks ++ rfqChunks 7 817).zipIdx, ∃ bytes,
    stateLen (chunkAt "chain-1-stream-1" row.1.snapshotId row.1.partitions (chunkSeq row.2)
      row.1.chunkIndex) = .ok bytes ∧ bytes ≤ 1000 := by
  have hfits : (nativeChunks ++ rfqChunks 7 817).zipIdx.all fun row =>
      (stateLen (chunkAt "chain-1-stream-1" row.1.snapshotId row.1.partitions (chunkSeq row.2)
        row.1.chunkIndex)).toOption.any (· ≤ 1000) := by
    decide
  intro row hrow
  obtain ⟨bytes, hbytes, hle⟩ := (Option.any_eq_true _ _).mp (List.all_eq_true.mp hfits row hrow)
  exact ⟨bytes, by cases hlen : stateLen _ <;> simp_all [Except.toOption], of_decide_eq_true hle⟩

/-- With one byte to spare the wide pool may move: all chunks pass. -/
theorem combined_chunks_fit_iff_spare :
    ChunksPass stateLen (joinedExport 817) ∧
      RoomToMove stateLen [poolsExport [.native] nativeChunks,
        poolsExport [.rfq] (rfqChunks 0 817)] := by
  have hpass : ChunksPass stateLen (joinedExport 817) :=
    (chunksPass_iff rfl).mpr fun j chunk hchunk =>
      joined_chunks_fit (chunk, j) (List.mk_mem_zipIdx_iff_getElem?.mpr hchunk)
  refine ⟨hpass, (combined_chunks_fit_iff stateLen_layout ?_ (pools_joined 817 (by decide))).mp hpass⟩
  refine List.forall_mem_cons.mpr ⟨?_, List.forall_mem_singleton.mpr ?_⟩
  · obtain ⟨cache, -, hexport⟩ := native_exported
    exact ⟨cache, _, _, hexport⟩
  · obtain ⟨cache, -, hexport⟩ := rfq_exported 817 (by decide)
    exact ⟨cache, _, _, hexport⟩

/-- At the limit it may not: its tenth payload has a sequence number of two digits. -/
theorem joined_chunk_exceeds :
    (∃ cache, poolsCache .native "uniswap_v2"
      (["a", "b", "c", "d", "e", "f", "g"].map (·, 700)) = .ok cache ∧
      cache.exportSnapshotSource stateLen cache.snapshotSource 1000 =
        .ok (poolsExport [.native] nativeChunks)) ∧
    (∃ cache, poolsCache .rfq "rfq:hashflow" [("small", 600), ("wide", 818)] = .ok cache ∧
      cache.exportSnapshotSource stateLen cache.snapshotSource 1000 =
        .ok (poolsExport [.rfq] (rfqChunks 0 818))) ∧
    combineSnapshotExports 1 [poolsExport [.native] nativeChunks,
      poolsExport [.rfq] (rfqChunks 0 818)] = .ok (joinedExport 818) ∧
    ¬ChunksPass stateLen (joinedExport 818) := by
  refine ⟨native_exported, rfq_exported 818 (by decide), pools_joined 818 (by decide), ?_⟩
  rw [joinedExport, chunksPass_iff rfl]
  intro hpass
  obtain ⟨bytes, hsize, hle⟩ := hpass 8 (poolChunk .rfq "rfq:hashflow" 8 ("wide", 818)) rfl
  have hbytes : bytes = 1001 := by
    obtain rfl := Except.ok.inj hsize
    decide
  change bytes ≤ 1000 at hle
  omega

end TychoSimulationServer
