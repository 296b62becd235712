import TychoSimulationServer.SnapshotPacking
import TychoSimulationServer.SnapshotReassembly

/-!
# Cutting and reassembling are inverse

The two halves meet at `Cuts`: the splitter only produces fragments that cut their message, and
the fragments of a cut message reassemble to it. What is left is bookkeeping over chunks and
protocols, and one exception. A blank message, one that has a header and nothing else, is cut into
no fragment at all when it does not fit as it is, so it is missing after the reassembly.
-/

namespace TychoSimulationServer

open Fallible MapFold

variable {Sim : Type}

/-! ## Restored messages

What comes out of the reassembly is compared map by map: two messages that hold the same entries
have the same maps. -/

/-- The same bindings in all eleven maps. -/
structure BlockChanges.SameMaps (left right : BlockChanges) : Prop where
  newTokens : left.newTokens = right.newTokens
  accountUpdates : left.accountUpdates = right.accountUpdates
  stateUpdates : left.stateUpdates = right.stateUpdates
  newProtocolComponents : left.newProtocolComponents = right.newProtocolComponents
  deletedProtocolComponents : left.deletedProtocolComponents = right.deletedProtocolComponents
  componentBalances : left.componentBalances = right.componentBalances
  accountBalances : left.accountBalances = right.accountBalances
  componentTvl : left.componentTvl = right.componentTvl
  dciUpdate : left.dciUpdate = right.dciUpdate

/-- Deltas come back with all their maps; deltas without any entry may be missing. -/
def RestoresDeltas : Option BlockChanges → Option BlockChanges → Prop
  | none, none => True
  | none, some original => original.isBlank = true
  | some restored, some original => restored.SameMaps original
  | some _, none => False

/-- `restored` is the message `original` again. -/
structure Restores (restored original : BroadcasterProtocolMessage) : Prop where
  protocol : restored.protocol = original.protocol
  syncState : restored.syncState = original.syncState
  header : restored.message.header = original.message.header
  states : restored.message.snapshots.states = original.message.snapshots.states
  vmStorage : restored.message.snapshots.vmStorage = original.message.snapshots.vmStorage
  deltas : RestoresDeltas restored.message.deltas original.message.deltas
  removedComponents : restored.message.removedComponents = original.message.removedComponents

/-- What the indexer reports is its three maps. -/
theorem DciUpdate.eq_of_maps {left right : DciUpdate}
    (hentrypoints : left.newEntrypoints = right.newEntrypoints)
    (hparams : left.newEntrypointParams = right.newEntrypointParams)
    (htraces : left.traceResults = right.traceResults) : left = right := by
  cases left
  cases right
  simp_all

/-- Changes with the same entries have the same maps. -/
theorem sameMaps_of_holds {left right : BlockChanges} (h : ∀ e, left.Holds e ↔ right.Holds e) :
    left.SameMaps right := by
  exact
    { newTokens := ext_eq_some fun k v => h (.newToken k v)
      accountUpdates := ext_eq_some fun k v => h (.accountUpdate k v)
      stateUpdates := ext_eq_some fun k v => h (.stateUpdate k v)
      newProtocolComponents := ext_eq_some fun k v => h (.newProtocolComponent k v)
      deletedProtocolComponents := ext_eq_some fun k v => h (.deletedProtocolComponent k v)
      componentBalances := ext_eq_some fun k v => h (.componentBalances k v)
      accountBalances := ext_eq_some fun k v => h (.accountBalances k v)
      componentTvl := ext_eq_some fun k v => h (.componentTvl k v)
      dciUpdate := DciUpdate.eq_of_maps (ext_eq_some fun k v => h (.newEntrypoints k v))
        (ext_eq_some fun k v => h (.newEntrypointParams k v))
        (ext_eq_some fun k v => h (.traceResult k v)) }

/-- An account is in every message with the same entries. -/
theorem vmStorage_of_holds {left right : BroadcasterProtocolMessage}
    (h : ∀ e, left.Holds e ↔ right.Holds e) {address : Bytes} {account : ResponseAccount}
    (haccount : left.message.snapshots.vmStorage[address]? = some account) :
    right.message.snapshots.vmStorage[address]? = some account := by
  obtain ⟨account', haccount', hmeta⟩ :=
    (h (.account address (responseAccountWithSlots account ∅))).mp ⟨account, haccount, rfl⟩
  have hslots : account'.slots = account.slots := by
    refine ext_eq_some fun slot value => ?_
    have hslot := h (.slot address slot value)
    simp only [BroadcasterProtocolMessage.Holds, haccount, haccount', Option.some.injEq,
      exists_eq_left'] at hslot
    exact hslot.symm
  have heq : account' = account := by
    rcases account with ⟨_, _, _, _, _, _, _, _, _, _, _⟩
    rcases account' with ⟨_, _, _, _, _, _, _, _, _, _, _⟩
    simp only [responseAccountWithSlots, ResponseAccount.mk.injEq] at hmeta hslots ⊢
    simp [hmeta, hslots]
  rw [haccount', heq]

/-- **A fragment that carries every entry is the message.** -/
theorem restores_of_carries {message restored : BroadcasterProtocolMessage}
    {entries : List SnapshotEntry} (hcarries : Carries message restored entries)
    (hall : ∀ e, message.Holds e → e ∈ entries) : Restores restored message := by
  have hiff : ∀ e, restored.Holds e ↔ message.Holds e := fun e =>
    ⟨fun he => hcarries.subset e ((hcarries.holds e).mp he),
      fun he => (hcarries.holds e).mpr (hall e he)⟩
  refine ⟨hcarries.protocol, hcarries.syncState, hcarries.header,
    ext_eq_some fun k v => hiff (.state k v), ?_, ?_, ext_eq_some fun k v => hiff (.removed k v)⟩
  · exact ext_eq_some fun address account =>
      ⟨vmStorage_of_holds hiff, vmStorage_of_holds fun e => (hiff e).symm⟩
  · rcases hdeltas : restored.message.deltas with _ | deltas
    · rcases hsource : message.message.deltas with _ | source
      · trivial
      · refine isBlank_deltas_of_forall fun e he => ?_
        obtain ⟨deltas, hdeltas', -⟩ := (hiff (.delta e)).mpr ⟨source, hsource, he⟩
        rw [hdeltas] at hdeltas'
        cases hdeltas'
    · rcases hsource : message.message.deltas with _ | source
      · exact hcarries.deltas (by simp [hdeltas]) hsource
      · refine sameMaps_of_holds fun e => ?_
        have he := hiff (.delta e)
        simpa [BroadcasterProtocolMessage.Holds, hdeltas, hsource] using he

/-! ## The fragments of one message -/

section

variable {merge : StateSyncMerge} {message : BroadcasterProtocolMessage}

/-- A further fragment of a protocol is merged. -/
theorem push_of_some {reassembly : RawSnapshotReassembly}
    {existing incoming merged : BroadcasterProtocolMessage}
    (hexisting : reassembly[incoming.protocol]? = some existing)
    (hmerge : mergeSnapshotProtocolMessage merge existing incoming = .ok merged) :
    RawSnapshotReassembly.push merge reassembly incoming =
      .ok (reassembly.insert incoming.protocol merged) := by
  simp only [RawSnapshotReassembly.push, hexisting, hmerge]
  rfl

/-- Later fragments of a message are merged into the part that has already arrived. -/
theorem push_rest (laws : MergesDisjoint merge) (hkept : message.SnapshotsKept)
    (reassembly : RawSnapshotReassembly) {fragments : List BroadcasterProtocolMessage}
    {segments : List (List SnapshotEntry)}
    (hcarries : List.Forall₂ (Carries message) fragments segments) :
    ∀ {existing : BroadcasterProtocolMessage} {done : List SnapshotEntry},
      Carries message existing done →
      ((done ++ segments.flatten).filter (·.exclusive)).Nodup →
      ∃ restored, fragments.foldlM (RawSnapshotReassembly.push merge)
          (reassembly.insert message.protocol existing) =
          .ok (reassembly.insert message.protocol restored) ∧
        Carries message restored (done ++ segments.flatten) := by
  induction hcarries with
  | nil =>
    intro existing done hexisting _
    exact ⟨existing, rfl, by simpa using hexisting⟩
  | @cons fragment segment fragments segments hfragment _ ih =>
    intro existing done hexisting hnodup
    rw [List.flatten_cons, ← List.append_assoc] at hnodup
    have hdisjoint : ∀ e ∈ done, e.exclusive = true → e ∉ segment := by
      intro e he hex hseg
      rw [List.filter_append, List.filter_append] at hnodup
      have hpair := (List.nodup_append.mp (List.nodup_append.mp hnodup).1).2.2
      exact hpair e (List.mem_filter.mpr ⟨he, hex⟩) e (List.mem_filter.mpr ⟨hseg, hex⟩) rfl
    obtain ⟨merged, hmerge, hmerged⟩ :=
      mergeSnapshotProtocolMessage_carries laws hkept hexisting hfragment hdisjoint
    obtain ⟨restored, hrest, hrestored⟩ := ih hmerged hnodup
    refine ⟨restored, ?_, ?_⟩
    · have hlookup : (reassembly.insert message.protocol existing)[fragment.protocol]? =
          some existing := by
        rw [hfragment.protocol, Std.ExtTreeMap.getElem?_insert, if_pos Std.ReflCmp.compare_self]
      rw [List.foldlM_cons, push_of_some hlookup hmerge, hfragment.protocol, insert_insert]
      exact hrest
    · rw [List.flatten_cons, ← List.append_assoc]
      exact hrestored

/-- **The fragments of a message reassemble to it**, next to the other protocols. -/
theorem push_fragments (laws : MergesDisjoint merge) (hkept : message.SnapshotsKept)
    {fragments : List BroadcasterProtocolMessage} (hcuts : Cuts message fragments)
    (hne : fragments ≠ []) {reassembly : RawSnapshotReassembly}
    (hnew : reassembly[message.protocol]? = none) :
    ∃ restored, fragments.foldlM (RawSnapshotReassembly.push merge) reassembly =
        .ok (reassembly.insert message.protocol restored) ∧
      Restores restored message := by
  obtain ⟨segments, hcarries, hall, hnodup⟩ := hcuts
  cases hcarries with
  | nil => exact absurd rfl hne
  | @cons fragment segment fragments segments hfragment hrest =>
    obtain ⟨restored, hfold, hrestored⟩ := push_rest laws hkept reassembly hrest hfragment hnodup
    refine ⟨restored, ?_, restores_of_carries hrestored hall⟩
    have hpush : RawSnapshotReassembly.push merge reassembly fragment =
        .ok (reassembly.insert message.protocol fragment) := by
      rw [← hfragment.protocol] at hnew ⊢
      simp only [RawSnapshotReassembly.push, hnew]
      rfl
    rw [List.foldlM_cons, hpush]
    exact hfold

/-- The fragments of several messages of different protocols reassemble to all of them. -/
theorem push_messages (laws : MergesDisjoint merge) {messages : List BroadcasterProtocolMessage}
    {cuts : List (List BroadcasterProtocolMessage)}
    (hcuts : List.Forall₂ (fun m fragments => Cuts m fragments ∧ fragments ≠ []) messages cuts) :
    messages.Pairwise (·.protocol ≠ ·.protocol) → (∀ m ∈ messages, m.SnapshotsKept) →
    ∀ {reassembly : RawSnapshotReassembly}, (∀ m ∈ messages, reassembly[m.protocol]? = none) →
      ∃ reassembly' : RawSnapshotReassembly,
        cuts.flatten.foldlM (RawSnapshotReassembly.push merge) reassembly = .ok reassembly' ∧
        (∀ m ∈ messages, ∃ restored, reassembly'[m.protocol]? = some restored ∧
          Restores restored m) ∧
        ∀ protocol : String, (∀ m ∈ messages, m.protocol ≠ protocol) →
          reassembly'[protocol]? = reassembly[protocol]? := by
  induction hcuts with
  | nil =>
    intro _ _ reassembly _
    exact ⟨reassembly, rfl, by simp, fun _ _ => rfl⟩
  | @cons message fragments messages cuts hmessage _ ih =>
    intro hdistinct hkept reassembly hnew
    rw [List.pairwise_cons] at hdistinct
    obtain ⟨restored, hfold, hrestored⟩ := push_fragments laws (hkept message List.mem_cons_self)
      hmessage.1 hmessage.2 (hnew message List.mem_cons_self)
    -- the fragments of this message leave other protocols alone
    have hother : ∀ protocol : String, message.protocol ≠ protocol →
        (reassembly.insert message.protocol restored)[protocol]? = reassembly[protocol]? := by
      intro protocol hne
      rw [Std.ExtTreeMap.getElem?_insert,
        if_neg fun heq => hne (Std.LawfulEqCmp.eq_of_compare heq)]
    obtain ⟨reassembly', hfold', hall, hframe⟩ := ih hdistinct.2
      (fun m hm => hkept m (List.mem_cons_of_mem _ hm))
      (fun m hm => (hother _ (hdistinct.1 m hm)).trans (hnew m (List.mem_cons_of_mem _ hm)))
    refine ⟨reassembly', ?_, fun m hm => ?_, fun protocol hne => ?_⟩
    · rw [List.flatten_cons, List.foldlM_append, hfold]
      exact hfold'
    · rcases List.mem_cons.mp hm with rfl | hm
      · refine ⟨restored, ?_, hrestored⟩
        rw [hframe m.protocol fun m' hm' heq => hdistinct.1 m' hm' heq.symm,
          Std.ExtTreeMap.getElem?_insert, if_pos Std.ReflCmp.compare_self]
      · exact hall m hm
    · rw [hframe protocol fun m hm => hne m (List.mem_cons_of_mem _ hm),
        hother protocol (hne message List.mem_cons_self)]

/-- Every message stands under its own protocol. -/
def RawSnapshotReassembly.Keyed (reassembly : RawSnapshotReassembly) : Prop :=
  ∀ (protocol : String) m, reassembly[protocol]? = some m → m.protocol = protocol

theorem protocol_of_mergeSnapshotProtocolMessage {existing incoming merged : BroadcasterProtocolMessage}
    (h : mergeSnapshotProtocolMessage merge existing incoming = .ok merged) :
    merged.protocol = existing.protocol := by
  rw [mergeSnapshotProtocolMessage, check_bind_eq_ok, check_bind_eq_ok, check_bind_eq_ok,
    bind_eq_ok] at h
  obtain ⟨-, -, -, _, -, h⟩ := h
  rw [pure_eq_ok] at h
  rw [← h]

/-- Pushing a message touches its protocol only. -/
theorem push_keyed {reassembly reassembly' : RawSnapshotReassembly}
    (hkeyed : reassembly.Keyed)
    (h : RawSnapshotReassembly.push merge reassembly message = .ok reassembly') :
    reassembly'.Keyed ∧ ∀ protocol : String, protocol ≠ message.protocol →
      reassembly'[protocol]? = reassembly[protocol]? := by
  obtain ⟨stored, hstored, rfl⟩ : ∃ stored : BroadcasterProtocolMessage,
      stored.protocol = message.protocol ∧
      reassembly' = reassembly.insert message.protocol stored := by
    unfold RawSnapshotReassembly.push at h
    rcases hexisting : reassembly[message.protocol]? with _ | existing
    · rw [hexisting, pure_eq_ok] at h
      exact ⟨message, rfl, h.symm⟩
    · rw [hexisting] at h
      obtain ⟨merged, hmerged, h⟩ := bind_eq_ok.mp h
      rw [pure_eq_ok] at h
      refine ⟨merged, ?_, h.symm⟩
      rw [protocol_of_mergeSnapshotProtocolMessage hmerged]
      exact hkeyed _ _ hexisting
  refine ⟨fun protocol m hm => ?_, fun protocol hne => ?_⟩
  · rw [Std.ExtTreeMap.getElem?_insert] at hm
    split at hm
    case isTrue heq =>
      cases hm
      rw [hstored]
      exact Std.LawfulEqCmp.eq_of_compare heq
    case isFalse => exact hkeyed protocol m hm
  · rw [Std.ExtTreeMap.getElem?_insert,
      if_neg fun heq => hne (Std.LawfulEqCmp.eq_of_compare heq).symm]

/-- A protocol that no pushed message has is not in the reassembly. -/
theorem pushAll_keyed {messages : List BroadcasterProtocolMessage}
    {reassembly : RawSnapshotReassembly}
    (h : messages.foldlM (RawSnapshotReassembly.push merge) (∅ : RawSnapshotReassembly) =
      .ok reassembly) :
    reassembly.Keyed ∧ ∀ protocol : String, (∀ m ∈ messages, m.protocol ≠ protocol) →
      reassembly[protocol]? = none := by
  refine foldlM_induction (fun pre (held : RawSnapshotReassembly) => held.Keyed ∧
    ∀ protocol : String, (∀ m ∈ pre, m.protocol ≠ protocol) → held[protocol]? = none) ?_ ?_ h
  · exact ⟨fun protocol m hm => by simp at hm, fun protocol _ => by simp⟩
  · intro pre m c c' _ hc hstep
    obtain ⟨hkeyed, hframe⟩ := push_keyed hc.1 hstep
    refine ⟨hkeyed, fun protocol hne => ?_⟩
    rw [hframe protocol (hne m (by simp)).symm]
    exact hc.2 protocol fun m' hm' => hne m' (by simp [hm'])

end

/-! ## Chunks

The chunks of a partition are pushed in order; each message arrives as the fragments it was cut
into. -/

/-- A fragment has the protocol of its message. -/
theorem protocol_of_mem_cut {message fragment : BroadcasterProtocolMessage}
    {fragments : List BroadcasterProtocolMessage} (hcuts : Cuts message fragments)
    (h : fragment ∈ fragments) : fragment.protocol = message.protocol := by
  obtain ⟨segments, hcarries, -, -⟩ := hcuts
  induction hcarries with
  | nil => cases h
  | cons hfragment _ ih =>
    rcases List.mem_cons.mp h with rfl | h
    · exact hfragment.protocol
    · exact ih h

/-- Fragments are of the protocols of the messages they were cut from. -/
theorem protocol_of_mem_cuts {messages : List BroadcasterProtocolMessage}
    {cuts : List (List BroadcasterProtocolMessage)} (hcuts : List.Forall₂ Cuts messages cuts)
    {fragment : BroadcasterProtocolMessage} (h : fragment ∈ cuts.flatten) :
    ∃ message ∈ messages, fragment.protocol = message.protocol := by
  induction hcuts with
  | nil => simp at h
  | @cons message fragments messages cuts hcut _ ih =>
    rw [List.flatten_cons, List.mem_append] at h
    rcases h with h | h
    · exact ⟨message, List.mem_cons_self, protocol_of_mem_cut hcut h⟩
    · obtain ⟨message', hmessage', heq⟩ := ih h
      exact ⟨message', List.mem_cons_of_mem _ hmessage', heq⟩

/-- What the packing loop puts into chunks is, message by message, a cut of the message. -/
theorem packMessages_cuts {serialisedLen : SerialisedLen Sim} {ctx : SnapshotChunkBuildContext}
    {baseChunkIndex : Nat} {messages : List BroadcasterProtocolMessage}
    {buffer buffer' : ChunkBuffer Sim BroadcasterProtocolMessage}
    (h : messages.foldlM (packMessage serialisedLen ctx baseChunkIndex) buffer = .ok buffer') :
    ∃ cuts, List.Forall₂ Cuts messages cuts ∧
      chunkMessages buffer'.chunks ++ buffer'.items =
        chunkMessages buffer.chunks ++ buffer.items ++ cuts.flatten := by
  refine foldlM_induction (fun pre c => ∃ cuts, List.Forall₂ Cuts pre cuts ∧
    chunkMessages c.chunks ++ c.items =
      chunkMessages buffer.chunks ++ buffer.items ++ cuts.flatten) ⟨[], .nil, by simp⟩ ?_ h
  rintro pre message c c' _ ⟨cuts, hcuts, hmessages⟩ hstep
  obtain ⟨fragments, hsplit, hpack⟩ := bind_eq_ok.mp hstep
  refine ⟨cuts ++ [fragments],
    List.rel_append hcuts (.cons (splitProtocolMessage_cuts hsplit) .nil), ?_⟩
  rw [packFragments_messages hpack, hmessages]
  simp [List.append_assoc]

section

variable (serialisedLen : SerialisedLen Sim) (ctx : SnapshotChunkBuildContext)
  (baseChunkIndex : Nat)

/-- Where the packing loop over the messages of a partition starts. -/
def startBuffer (partition : BroadcasterPartitionState Sim) :
    ChunkBuffer Sim BroadcasterProtocolMessage :=
  { chunks := [], items := [], syncStatuses := partition.syncStatuses }

/-- Every blank message of the partition fits into a chunk of its own, together with the sync
statuses that are still to be sent when the loop reaches it. -/
def BlankMessagesFit (partition : BroadcasterPartitionState Sim) : Prop :=
  ∀ pre blank post reached, partition.messages = pre ++ blank :: post → blank.isBlank = true →
    pre.foldlM (packMessage serialisedLen ctx baseChunkIndex) (startBuffer partition) =
      .ok reached →
    ctx.messagesFit serialisedLen worstCaseSnapshotChunkIndex [blank] reached.syncStatuses =
      .ok true

/-- Pushing the messages of the chunks in order never fails and gives back, per protocol, the
message the chunks were made from: none is missing, none is made up, none comes twice. -/
def Reassembles (merge : StateSyncMerge) (chunks : List (BroadcasterSnapshotChunk Sim))
    (messages : List BroadcasterProtocolMessage) : Prop :=
  ∃ taken, reassembleChunks merge chunks = .ok taken ∧
    (taken.map (·.protocol)).Nodup ∧
    (∀ original ∈ messages, ∃ restored ∈ taken, Restores restored original) ∧
    ∀ restored ∈ taken, ∃ original ∈ messages, Restores restored original

end

section

variable {serialisedLen : SerialisedLen Sim} {ctx : SnapshotChunkBuildContext}
  {baseChunkIndex : Nat} {partition : BroadcasterPartitionState Sim}
  {chunks : List (BroadcasterSnapshotChunk Sim)}

/-- The raw messages of a partition, in the chunks they were packed into. -/
theorem buildPartition_messages
    (h : buildPartitionSnapshotChunks serialisedLen ctx baseChunkIndex partition = .ok chunks) :
    ∃ buffer, partition.messages.foldlM (packMessage serialisedLen ctx baseChunkIndex)
        (startBuffer partition) = .ok buffer ∧
      chunkMessages chunks = chunkMessages buffer.chunks ++ buffer.items := by
  unfold buildPartitionSnapshotChunks at h
  split at h
  case isTrue hnone =>
    obtain ⟨buffer, hfold, hclose⟩ := bind_eq_ok.mp h
    rw [List.isEmpty_iff.mp hnone]
    exact ⟨_, rfl, chunkMessages_states rfl hfold hclose⟩
  case isFalse =>
    obtain ⟨buffer, hfold, hclose⟩ := bind_eq_ok.mp h
    exact ⟨buffer, hfold, close_messages hclose⟩

/-- A blank message that does not fit is cut into nothing; any other message is cut into something. -/
theorem packMessages_cuts_nonempty
    {buffer : ChunkBuffer Sim BroadcasterProtocolMessage}
    (hfits : BlankMessagesFit serialisedLen ctx baseChunkIndex partition)
    (h : partition.messages.foldlM (packMessage serialisedLen ctx baseChunkIndex)
      (startBuffer partition) = .ok buffer) :
    ∃ cuts, List.Forall₂ (fun m fragments => Cuts m fragments ∧ fragments ≠ [])
        partition.messages cuts ∧
      chunkMessages buffer.chunks ++ buffer.items = cuts.flatten := by
  refine foldlM_induction_split (fun pre c => ∃ cuts,
    List.Forall₂ (fun m fragments => Cuts m fragments ∧ fragments ≠ []) pre cuts ∧
    chunkMessages c.chunks ++ c.items = cuts.flatten) ⟨[], .nil, rfl⟩ ?_ h
  rintro pre message post c c' hmessages hreached ⟨cuts, hcuts, heq⟩ hstep
  obtain ⟨fragments, hsplit, hpack⟩ := bind_eq_ok.mp hstep
  have hne : fragments ≠ [] := by
    rw [ne_eq, splitProtocolMessage_eq_nil hsplit]
    rintro ⟨hblank, hnofit⟩
    rw [hfits pre message post c hmessages hblank hreached] at hnofit
    cases hnofit
  refine ⟨cuts ++ [fragments],
    List.rel_append hcuts (.cons ⟨splitProtocolMessage_cuts hsplit, hne⟩ .nil), ?_⟩
  rw [packFragments_messages hpack, heq, List.flatten_append, List.flatten_singleton]

/-- A blank message is cut into something only when it fits. -/
theorem messagesFit_of_split {message : BroadcasterProtocolMessage} {syncStatuses : SyncStatuses}
    {fragments : List BroadcasterProtocolMessage} (hblank : message.isBlank = true)
    (hsplit : splitProtocolMessageForSnapshot serialisedLen ctx message syncStatuses =
      .ok fragments) (hne : fragments ≠ []) :
    ctx.messagesFit serialisedLen worstCaseSnapshotChunkIndex [message] syncStatuses = .ok true := by
  have hnil := splitProtocolMessage_eq_nil hsplit
  obtain ⟨whole, hwhole, -⟩ := bind_eq_ok.mp hsplit
  have hempty : message.message.snapshots.vmStorage.isEmpty = true := by
    simp only [BroadcasterProtocolMessage.isBlank, Bool.and_eq_true] at hblank
    exact hblank.1.1.2
  rw [fitsWhole, if_pos hempty] at hwhole
  cases whole with
  | true => exact hwhole
  | false => exact absurd (hnil.mpr ⟨hblank, hwhole⟩) hne

/-- What is taken out is what has been put together. -/
theorem mem_takeMessages {reassembly : RawSnapshotReassembly} {m : BroadcasterProtocolMessage} :
    m ∈ reassembly.takeMessages ↔ ∃ protocol : String, reassembly[protocol]? = some m := by
  simp [RawSnapshotReassembly.takeMessages, Std.ExtTreeMap.mem_toList_iff_getElem?_eq_some]

/-- There is one message for each protocol. -/
theorem nodup_takeMessages {reassembly : RawSnapshotReassembly} (hkeyed : reassembly.Keyed) :
    (reassembly.takeMessages.map (·.protocol)).Nodup := by
  have hkeys : reassembly.takeMessages.map (·.protocol) = reassembly.keys := by
    rw [RawSnapshotReassembly.takeMessages, List.map_map, ← Std.ExtTreeMap.map_fst_toList_eq_keys]
    refine List.map_congr_left fun entry hentry => ?_
    exact hkeyed _ _ (Std.ExtTreeMap.mem_toList_iff_getElem?_eq_some.mp hentry)
  rw [hkeys]
  exact Std.ExtTreeMap.nodup_keys

/-- A blank message that does not fit leaves no trace in the chunks. -/
theorem not_reassembles_of_blank {merge : StateSyncMerge}
    {pre post : List BroadcasterProtocolMessage} {blank : BroadcasterProtocolMessage}
    {reached : ChunkBuffer Sim BroadcasterProtocolMessage}
    (hdistinct : partition.messages.Pairwise (·.protocol ≠ ·.protocol))
    (hbuild : buildPartitionSnapshotChunks serialisedLen ctx baseChunkIndex partition = .ok chunks)
    (hmessages : partition.messages = pre ++ blank :: post)
    (hreached : pre.foldlM (packMessage serialisedLen ctx baseChunkIndex) (startBuffer partition) =
      .ok reached)
    (hsplit : splitProtocolMessageForSnapshot serialisedLen ctx blank reached.syncStatuses =
      .ok []) :
    ¬Reassembles merge chunks partition.messages := by
  rintro ⟨taken, htaken, -, hall, -⟩
  obtain ⟨buffer, hfold, hchunks⟩ := buildPartition_messages hbuild
  rw [hmessages, List.pairwise_append, List.pairwise_cons] at hdistinct
  obtain ⟨-, ⟨hpost, -⟩, hpre⟩ := hdistinct
  -- the loop passes over the blank message without packing anything
  have hskip : post.foldlM (packMessage serialisedLen ctx baseChunkIndex) reached = .ok buffer := by
    rw [hmessages, List.foldlM_append, hreached] at hfold
    have hstep : packMessage serialisedLen ctx baseChunkIndex reached blank = .ok reached := by
      rw [packMessage, hsplit]
      rfl
    have hcons : (blank :: post).foldlM (packMessage serialisedLen ctx baseChunkIndex) reached =
        .ok buffer := hfold
    rwa [List.foldlM_cons, hstep] at hcons
  obtain ⟨before, hbefore, hbeforeEq⟩ := packMessages_cuts hreached
  obtain ⟨after, hafter, hafterEq⟩ := packMessages_cuts hskip
  -- so every message in the chunks is of another protocol
  have hother : ∀ m ∈ chunkMessages chunks, m.protocol ≠ blank.protocol := by
    intro m hm
    rw [hchunks, hafterEq, hbeforeEq] at hm
    simp only [startBuffer, chunkMessages, List.flatMap_nil, List.nil_append,
      List.mem_append] at hm
    rcases hm with hm | hm
    · obtain ⟨m', hm', heq⟩ := protocol_of_mem_cuts hbefore hm
      rw [heq]
      exact hpre m' hm' blank List.mem_cons_self
    · obtain ⟨m', hm', heq⟩ := protocol_of_mem_cuts hafter hm
      rw [heq]
      exact (hpost m' hm').symm
  obtain ⟨reassembly, hpush, htake⟩ := bind_eq_ok.mp htaken
  rw [pure_eq_ok] at htake
  subst htake
  obtain ⟨hkeyed, hnone⟩ := pushAll_keyed hpush
  have hblank : blank ∈ partition.messages := by simp [hmessages]
  obtain ⟨restored, hrestored, hsame⟩ := hall blank hblank
  obtain ⟨protocol, hlookup⟩ := mem_takeMessages.mp hrestored
  have hprotocol : protocol = blank.protocol := by
    rw [← hkeyed protocol restored hlookup, hsame.protocol]
  rw [hprotocol, hnone blank.protocol hother] at hlookup
  cases hlookup

end

/-- **Cutting and reassembling are inverse, up to blank messages.** For every partition with one
message per protocol, and messages that do not remove what they snapshot, the chunks of the
partition reassemble to its messages exactly when its blank messages fit. -/
theorem snapshot_chunks_reassemble (serialisedLen : SerialisedLen Sim) (merge : StateSyncMerge)
    (laws : MergesDisjoint merge) (ctx : SnapshotChunkBuildContext) (baseChunkIndex : Nat)
    (partition : BroadcasterPartitionState Sim) (chunks : List (BroadcasterSnapshotChunk Sim))
    (hdistinct : partition.messages.Pairwise (·.protocol ≠ ·.protocol))
    (hkept : ∀ m ∈ partition.messages, m.SnapshotsKept)
    (hbuild : buildPartitionSnapshotChunks serialisedLen ctx baseChunkIndex partition =
      .ok chunks) :
    Reassembles merge chunks partition.messages ↔
      BlankMessagesFit serialisedLen ctx baseChunkIndex partition := by
  obtain ⟨buffer, hfold, hchunks⟩ := buildPartition_messages hbuild
  constructor
  · intro hreassembles pre blank post reached hmessages hblank hreached
    -- the loop went past this message, so it was cut without an error
    obtain ⟨fragments, hsplit⟩ : ∃ fragments,
        splitProtocolMessageForSnapshot serialisedLen ctx blank reached.syncStatuses =
          .ok fragments := by
      rw [hmessages, List.foldlM_append, hreached] at hfold
      have hcons : (blank :: post).foldlM (packMessage serialisedLen ctx baseChunkIndex) reached =
          .ok buffer := hfold
      rw [List.foldlM_cons] at hcons
      obtain ⟨next, hnext, -⟩ := bind_eq_ok.mp hcons
      obtain ⟨fragments, hsplit, -⟩ := bind_eq_ok.mp hnext
      exact ⟨fragments, hsplit⟩
    have hne : fragments ≠ [] := by
      rintro rfl
      exact not_reassembles_of_blank hdistinct hbuild hmessages hreached hsplit hreassembles
    exact messagesFit_of_split hblank hsplit hne
  · intro hfits
    obtain ⟨cuts, hcuts, heq⟩ := packMessages_cuts_nonempty hfits hfold
    obtain ⟨reassembly, hpush, hall, hframe⟩ :=
      @push_messages _ laws _ _ hcuts hdistinct hkept ∅ (by simp)
    rw [← heq, ← hchunks] at hpush
    have hkeyed := (pushAll_keyed hpush).1
    refine ⟨RawSnapshotReassembly.takeMessages reassembly, ?_, nodup_takeMessages hkeyed,
      fun original horiginal => ?_, fun restored hrestored => ?_⟩
    · rw [reassembleChunks, hpush]
      rfl
    · obtain ⟨restored, hlookup, hsame⟩ := hall original horiginal
      exact ⟨restored, mem_takeMessages.mpr ⟨_, hlookup⟩, hsame⟩
    · obtain ⟨protocol, hlookup⟩ := mem_takeMessages.mp hrestored
      by_contra hnone
      have hother : ∀ m ∈ partition.messages, m.protocol ≠ protocol := by
        rintro m hm rfl
        obtain ⟨restored', hlookup', hsame⟩ := hall m hm
        rw [hlookup, Option.some.injEq] at hlookup'
        exact hnone ⟨m, hm, hlookup' ▸ hsame⟩
      rw [hframe protocol hother] at hlookup
      simp at hlookup

/-! ## A blank message on its own -/

/-- Block changes with the entries of both sides in the maps that are merged. -/
def BlockChanges.union (left right : BlockChanges) : BlockChanges :=
  { left with
    accountUpdates := left.accountUpdates ∪ right.accountUpdates
    stateUpdates := left.stateUpdates ∪ right.stateUpdates
    newProtocolComponents := left.newProtocolComponents ∪ right.newProtocolComponents
    deletedProtocolComponents := left.deletedProtocolComponents ∪ right.deletedProtocolComponents
    componentBalances := left.componentBalances ∪ right.componentBalances
    accountBalances := left.accountBalances ∪ right.accountBalances
    componentTvl := left.componentTvl ∪ right.componentTvl }

/-- A merge that keeps the entries of both sides, the incoming ones first. -/
def unionMerge (left right : StateSyncMessage) : StateSyncMessage :=
  { header := right.header
    snapshots :=
      { states := left.snapshots.states ∪ right.snapshots.states
        vmStorage := left.snapshots.vmStorage ∪ right.snapshots.vmStorage }
    deltas :=
      match left.deltas, right.deltas with
      | none, deltas => deltas
      | deltas, none => deltas
      | some l, some r => some (l.union r)
    removedComponents := left.removedComponents ∪ right.removedComponents }

/-- The union of maps is a merge of disjoint messages. -/
theorem mergesDisjoint_unionMerge : MergesDisjoint unionMerge where
  header _ _ := rfl
  states _ _ _ := rfl
  removed _ _ _ := rfl
  deltasLeft left right h := by
    rcases hleft : left.deltas with _ | l <;> simp [unionMerge, hleft, h]
  deltasRight left right h := by simp [unionMerge, h]
  deltasBoth left right l r hl hr _ :=
    ⟨l.union r, by simp [unionMerge, hl, hr], ⟨rfl, rfl, rfl, rfl, rfl, rfl, rfl, rfl, rfl⟩⟩

/-- The header of a first block. -/
def firstHeader : BlockHeader :=
  { hash := [1], number := 1, parentHash := [0], revert := false, timestamp := 1
    partialBlockIndex := none }

/-- A message that has a header and nothing else. -/
def blankMessage : BroadcasterProtocolMessage :=
  { protocol := "uniswap_v2"
    syncState := .started
    message :=
      { header := firstHeader
        snapshots := { states := ∅, vmStorage := ∅ }
        deltas := none
        removedComponents := ∅ } }

/-- A raw partition that holds the blank message. -/
def blankPartition : BroadcasterPartitionState Unit :=
  { blockNumber := some 1
    syncStatuses := .ofList
      [("uniswap_v2", BroadcasterProtocolSyncStatus.fromSynchronizerState .started)]
    messages := [blankMessage]
    states := ∅ }

/-- An account with one slot. -/
def vault : ResponseAccount :=
  { chain := "ethereum", address := [10], title := "vault"
    slots := (∅ : FinMap Bytes Bytes).insert [1] [2]
    nativeBalance := [0], tokenBalances := ∅, code := [], codeHash := [], balanceModifyTx := []
    codeModifyTx := [], creationTx := none }

/-- The length of the JSON text of a snapshot chunk, for chunks made of blank messages
with one account like the vault at most, and their status. -/
def vaultLen : SerialisedLen Unit
  | { payload := .snapshotChunk chunk, .. } => .ok <|
    191 + (if chunk.chunkIndex < 10 then 1 else 10) +
      (chunk.partitions.map fun p => 49 * p.syncStatuses.size + (p.messages.length - 1) +
        (p.messages.map fun m => 250 + (m.message.snapshots.vmStorage.toList.map fun entry =>
          210 + slotsLen entry.2.slots.toList).sum).sum).sum
  | _ => .ok 0

/-- The native partition of the first snapshot, under a limit. -/
def firstContext (maxPayloadBytes : Nat) : SnapshotChunkBuildContext :=
  { streamId := "chain-1-stream-1", snapshotId := "chain-1-snapshot-1", backend := .native
    blockNumber := 1, maxPayloadBytes }

/-- A chunk of the native partition. -/
def nativeChunk (chunkIndex : UInt32) (messages : List BroadcasterProtocolMessage)
    (syncStatuses : SyncStatuses) : BroadcasterSnapshotChunk Unit :=
  { snapshotId := "chain-1-snapshot-1", chunkIndex
    partitions := [.withMessages .native 1 messages syncStatuses] }

/-- The message of a protocol with the vault, under some slots. -/
def vaultMessage (slots : List (Bytes × Bytes)) : BroadcasterProtocolMessage :=
  vmStorageAccountFragmentForSlotRange blankMessage [10] vault slots

/-- A raw partition with a vault of two slots and the blank message of another protocol. -/
def vaultPartition : BroadcasterPartitionState Unit :=
  { blankPartition with
    messages :=
      [vaultMessage [([1], [2]), ([3], [4])], { blankMessage with protocol := "uniswap_v3" }] }

theorem vaultMessages_kept : ∀ m ∈ vaultPartition.messages, m.SnapshotsKept := by
  refine List.forall_mem_cons.mpr ⟨keysApart_empty_left _, List.forall_mem_singleton.mpr ?_⟩
  exact keysApart_empty_left _

/-- The chunks of the vault partition under a limit that holds one slot. -/
def vaultChunks : List (BroadcasterSnapshotChunk Unit) :=
  [nativeChunk 0 [vaultMessage [([1], [2])]] blankPartition.syncStatuses,
    nativeChunk 1 [vaultMessage [([3], [4])]] ∅,
    nativeChunk 2 [{ blankMessage with protocol := "uniswap_v3" }] ∅]

theorem vaultPartition_built :
    buildPartitionSnapshotChunks vaultLen (firstContext 725) 0 vaultPartition =
      .ok vaultChunks := by
  decide +kernel

/-- The blank message comes after the vault, with nothing else left to send. -/
theorem vaultPartition_fits : BlankMessagesFit vaultLen (firstContext 725) 0 vaultPartition := by
  intro pre blank post reached hmessages hblank hreached
  rcases pre with _ | ⟨first, pre⟩
  · obtain ⟨rfl, -⟩ := List.cons.inj hmessages
    exact absurd hblank (by decide)
  obtain ⟨rfl, hrest⟩ := List.cons.inj hmessages
  rcases pre with _ | ⟨second, pre⟩
  · obtain ⟨rfl, -⟩ := List.cons.inj hrest
    have hfits : ([vaultMessage [([1], [2]), ([3], [4])]].foldlM
        (packMessage vaultLen (firstContext 725) 0) (startBuffer vaultPartition)).toOption.all
        (fun reached => (firstContext 725).messagesFit vaultLen worstCaseSnapshotChunkIndex
          [{ blankMessage with protocol := "uniswap_v3" }] reached.syncStatuses = .ok true) := by
      decide +kernel
    rw [hreached] at hfits
    exact of_decide_eq_true hfits
  · exact absurd (List.cons.inj hrest).2 (by simp)

/-- Under a limit of 725 bytes the vault is cut into two chunks and the blank message has a third
one, and both messages come back. -/
theorem snapshot_chunks_reassemble_vault :
    buildPartitionSnapshotChunks vaultLen (firstContext 725) 0 vaultPartition = .ok vaultChunks ∧
    Reassembles unionMerge vaultChunks vaultPartition.messages :=
  ⟨vaultPartition_built, (snapshot_chunks_reassemble vaultLen unionMerge mergesDisjoint_unionMerge
    (firstContext 725) 0 vaultPartition vaultChunks (by decide) vaultMessages_kept
    vaultPartition_built).mpr vaultPartition_fits⟩

set_option maxRecDepth 10000 in
/-- Under a limit of 300 bytes the message and the sync status do not fit together. The export
succeeds with a chunk that carries the status alone, and the message is gone. -/
theorem snapshot_blank_message_lost :
    buildPartitionSnapshotChunks vaultLen (firstContext 300) 0 blankPartition =
      .ok [nativeChunk 0 [] blankPartition.syncStatuses] ∧
    reassembleChunks unionMerge [nativeChunk 0 [] blankPartition.syncStatuses] = .ok [] ∧
    ¬Reassembles unionMerge [nativeChunk 0 [] blankPartition.syncStatuses] blankPartition.messages := by
  have hnothing : reassembleChunks unionMerge [nativeChunk 0 [] blankPartition.syncStatuses] = .ok [] := by decide
  refine ⟨by decide, hnothing, ?_⟩
  rintro ⟨taken, htaken, -, hall, -⟩
  rw [hnothing, Except.ok.injEq] at htaken
  subst htaken
  obtain ⟨restored, hrestored, -⟩ := hall blankMessage (List.mem_singleton.mpr rfl)
  cases hrestored

end TychoSimulationServer
