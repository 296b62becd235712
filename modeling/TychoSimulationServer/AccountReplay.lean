import TychoSimulationServer.RawCompaction

/-!
# The account history of a protocol

What the stored message of a protocol is for, as far as VM accounts go: a consumer that boots loads
its account snapshots and then applies the account updates and balances it still carries. That
consumer should hold of every account what a consumer holds that was there all along and applied the
messages one by one.

Both consumers apply messages by the same rule, `AccountEntry.applyTo`, and accounts do not meet, so
the comparison is made account by account. The compaction alone never changes what a message means
(`applyTo_compacted`). The merge before it does in two places: a snapshot that arrives while an
update or balance of the account still waits, of which a waiting creation is the worst case because
it discards the snapshot, and a creation that arrives while balances of the account still wait.
-/

namespace TychoSimulationServer

open Fallible MapFold

/-! ## What a consumer holds

What somebody holds of an account who has applied everything that was sent: its slots, its balances
and its code. -/

/-- What a consumer holds of an account. An account it has never heard of holds nothing. -/
structure HeldAccount where
  slots : FinMap Bytes Bytes
  nativeBalance : Option Bytes
  code : Option Bytes
  tokenBalances : FinMap Bytes Bytes
deriving DecidableEq

namespace HeldAccount

/-- Nothing is held. -/
def empty : HeldAccount :=
  { slots := ∅, nativeBalance := none, code := none, tokenBalances := ∅ }

/-- A snapshot replaces the account. -/
def ofSnapshot (account : ResponseAccount) : HeldAccount :=
  { slots := account.slots
    nativeBalance := some account.nativeBalance
    code := some account.code
    tokenBalances := account.tokenBalances }

/-- An update overlays slots, native balance and code. -/
def overlay (held : HeldAccount) (update : AccountUpdate) : HeldAccount :=
  { held with
    slots := held.slots ∪ update.slots
    nativeBalance := update.balance <|> held.nativeBalance
    code := update.code <|> held.code }

/-- Balances overlay the token balances. -/
def credit (held : HeldAccount) (balances : FinMap Bytes AccountBalance) : HeldAccount :=
  { held with
    tokenBalances := held.tokenBalances ∪ balances.map fun _ balance => balance.balance }

end HeldAccount

/-- What a message says of one account. -/
structure AccountEntry where
  snapshot : Option ResponseAccount
  update : Option AccountUpdate
  balances : Option (FinMap Bytes AccountBalance)

/-- What a message says of an account. -/
def StateSyncMessage.account (message : StateSyncMessage) (address : Bytes) : AccountEntry :=
  { snapshot := message.snapshots.vmStorage[address]?
    update := (message.changes (·.accountUpdates))[address]?
    balances := (message.changes (·.accountBalances))[address]? }

namespace AccountEntry

/-- The entry deletes its account. -/
def deletes (entry : AccountEntry) : Bool :=
  entry.update.any (·.change = .deletion)

/-- The entry creates its account. -/
def creates (entry : AccountEntry) : Bool :=
  entry.update.any (·.change = .creation)

/-- **How a consumer applies a message**: a deletion erases the account, a creation starts a new
one, and anything else goes over the snapshot of the message, or over what is held if there is
none. -/
def applyTo (entry : AccountEntry) (held : HeldAccount) : HeldAccount :=
  if entry.deletes then .empty
  else
    let start := if entry.creates then .empty else entry.snapshot.elim held .ofSnapshot
    let updated := entry.update.elim start start.overlay
    entry.balances.elim updated updated.credit

/-- The entry after compaction. -/
def compacted (entry : AccountEntry) : AccountEntry :=
  if entry.deletes then { snapshot := none, update := none, balances := none }
  else if entry.creates then { entry with snapshot := none }
  else
    match entry.snapshot with
    | none => entry
    | some account =>
      let updated := entry.update.elim account (foldAccountUpdateIntoSnapshot account)
      { snapshot := some (entry.balances.elim updated (applyAccountBalances updated))
        update := none
        balances := none }

/-- The entry that the merge hands to the compaction: the newest creation or deletion wins over the
merged update. -/
def merged (stored incoming : AccountEntry) : AccountEntry :=
  { snapshot := incoming.snapshot.or stored.snapshot
    update :=
      if incoming.deletes || incoming.creates then incoming.update
      else Option.merge AccountUpdate.overlay stored.update incoming.update
    balances := Option.merge (· ∪ ·) stored.balances incoming.balances }

/-- The same, as the source has it: the lifecycle of the incoming message extends the merge. -/
theorem merged_update (stored incoming : AccountEntry) :
    (if incoming.deletes || incoming.creates then incoming.update
      else Option.merge AccountUpdate.overlay stored.update incoming.update) =
    (incoming.update.filter fun update =>
      update.change = .creation || update.change = .deletion).or
      (Option.merge AccountUpdate.overlay stored.update incoming.update) := by
  obtain ⟨snapshot, update, balances⟩ := incoming
  rcases update with _ | update
  · rfl
  · cases hchange : update.change <;> simp [deletes, creates, hchange, Option.filter_some]

end AccountEntry

/-! ## The entries of a stored message

What a stored message has of one account: a snapshot, or a change that waits for one. -/

/-- What folding the account changes leaves of one account. -/
theorem foldAccountChanges_entry (snapshots : Snapshot) (deltas : BlockChanges) (address : Bytes) :
    ({ snapshot := (foldAccountChanges snapshots deltas).1.vmStorage[address]?
       update := (foldAccountChanges snapshots deltas).2.accountUpdates[address]?
       balances := (foldAccountChanges snapshots deltas).2.accountBalances[address]? } :
        AccountEntry) =
      AccountEntry.compacted
        { snapshot := snapshots.vmStorage[address]?
          update := deltas.accountUpdates[address]?
          balances := deltas.accountBalances[address]? } := by
  simp only [foldAccountChanges, getElem?_foldChanges, getElem?_residualChanges,
    getElem?_withoutKeys, changedBy, AccountEntry.compacted, AccountEntry.deletes,
    AccountEntry.creates, Std.ExtTreeMap.contains_eq_isSome_getElem?]
  rcases hdeletes : deltas.accountUpdates[address]?.any (·.change = .deletion) with _ | _
  · rcases hcreates : deltas.accountUpdates[address]?.any (·.change = .creation) with _ | _
    · rcases snapshots.vmStorage[address]? with _ | account
      · simp [hdeletes, hcreates]
      · simp [hdeletes, hcreates]
    · simp [hdeletes, hcreates]
  · simp [hdeletes]

/-- **A compacted account**, entry by entry. -/
theorem compact_account (message : StateSyncMessage) (address : Bytes) :
    (compactRawStateSyncMessage message).account address = (message.account address).compacted := by
  rw [StateSyncMessage.account, compact_snapshots,
    compact_changes message fun deltas h => (empty_of_no_residue h).1,
    compact_changes message fun deltas h => (empty_of_no_residue h).2.2.2.2.2.1]
  rcases h : message.deltas with _ | deltas
  · simp only [StateSyncMessage.dropRemoved, StateSyncMessage.changes, StateSyncMessage.account, h,
      Option.map_none, Option.elim_none, Option.getD_none, Std.ExtTreeMap.getElem?_empty]
    rcases message.snapshots.vmStorage[address]? with _ | account
    · rfl
    · rfl
  · rw [StateSyncMessage.dropRemoved, StateSyncMessage.account, StateSyncMessage.changes,
      StateSyncMessage.changes, StateSyncMessage.changes, StateSyncMessage.changes, h]
    exact foldAccountChanges_entry message.snapshots deltas address

/-- Creations and deletions are kept, other changes are not. -/
theorem getElem?_accountLifecycle (updates : FinMap Bytes AccountUpdate) (address : Bytes) :
    (accountLifecycle updates)[address]? = updates[address]?.filter fun update =>
      update.change = .creation || update.change = .deletion := by
  rw [accountLifecycle, Std.ExtTreeMap.getElem?_filter']

/-- The newest creation or deletion wins over the merged update. -/
theorem mergedWith_accountUpdates {merge : StateSyncMerge} (laws : MergesUpdates merge)
    (stored incoming : StateSyncMessage) (address : Bytes) :
    ((stored.mergedWith merge incoming).changes (·.accountUpdates))[address]? =
      ((incoming.changes (·.accountUpdates))[address]?.filter fun update =>
        update.change = .creation || update.change = .deletion).or
        (Option.merge AccountUpdate.overlay (stored.changes (·.accountUpdates))[address]?
          (incoming.changes (·.accountUpdates))[address]?) := by
  simp only [StateSyncMessage.mergedWith, StateSyncMessage.changes, Option.map_map,
    Function.comp_def, BlockChanges.extendBootstrap]
  have hcases := merge_deltas laws stored incoming
  generalize stored.deltas = old, incoming.deltas = new,
    (merge stored incoming.withoutBootstrap).deltas = result at hcases ⊢
  rcases hcases with _ | newer | older | ⟨older, newer, merged, h⟩
  · simp
  · simp [Std.ExtTreeMap.getElem?_union, getElem?_accountLifecycle, BlockChanges.withoutBootstrap]
  · simp [Std.ExtTreeMap.getElem?_union]
  · simp [Std.ExtTreeMap.getElem?_union, getElem?_accountLifecycle, h.accountUpdates,
      BlockChanges.withoutBootstrap]

/-- The balances of both messages are combined. -/
theorem mergedWith_accountBalances {merge : StateSyncMerge} (laws : MergesUpdates merge)
    (stored incoming : StateSyncMessage) (address : Bytes) :
    ((stored.mergedWith merge incoming).changes (·.accountBalances))[address]? =
      Option.merge (· ∪ ·) (stored.changes (·.accountBalances))[address]?
        (incoming.changes (·.accountBalances))[address]? := by
  simp only [StateSyncMessage.mergedWith, StateSyncMessage.changes, Option.map_map,
    Function.comp_def, BlockChanges.extendBootstrap]
  have hcases := merge_deltas laws stored incoming
  generalize stored.deltas = old, incoming.deltas = new,
    (merge stored incoming.withoutBootstrap).deltas = result at hcases ⊢
  rcases hcases with _ | newer | older | ⟨older, newer, merged, h⟩
  · simp
  · simp [BlockChanges.withoutBootstrap]
  · simp
  · simp [h.accountBalances, BlockChanges.withoutBootstrap]

/-- **A merged account**, entry by entry. -/
theorem mergedWith_account {merge : StateSyncMerge} (laws : MergesUpdates merge)
    (stored incoming : StateSyncMessage) (address : Bytes) :
    (stored.mergedWith merge incoming).account address =
      (stored.account address).merged (incoming.account address) := by
  have hsnapshot : (stored.mergedWith merge incoming).snapshots.vmStorage[address]? =
      incoming.snapshots.vmStorage[address]?.or stored.snapshots.vmStorage[address]? := by
    rw [StateSyncMessage.mergedWith, laws.vmStorage, Std.ExtTreeMap.getElem?_union]
    rfl
  rw [StateSyncMessage.account, hsnapshot, mergedWith_accountUpdates laws,
    mergedWith_accountBalances laws]
  rw [AccountEntry.merged, AccountEntry.merged_update]
  rfl

/-! ## One message

Applying a merged and compacted message is applying the two messages one after the other, unless a
snapshot meets a creation that still waits. -/

namespace HeldAccount

variable (held : HeldAccount)

/-- Two overlays are the overlay by the merged update. -/
theorem overlay_overlay (older newer : AccountUpdate) :
    (held.overlay older).overlay newer = held.overlay (older.overlay newer) := by
  have hslots : held.slots ∪ older.slots ∪ newer.slots =
      held.slots ∪ (older.slots ∪ newer.slots) := by
    refine Std.ExtTreeMap.ext_getElem? fun slot => ?_
    simp only [Std.ExtTreeMap.getElem?_union, Option.or_assoc]
  simp only [overlay, AccountUpdate.overlay, hslots, HeldAccount.mk.injEq, true_and, and_true]
  cases newer.balance <;> cases newer.code <;> simp

/-- Two lists of balances are credited as their union. -/
theorem credit_credit (older newer : FinMap Bytes AccountBalance) :
    (held.credit older).credit newer = held.credit (older ∪ newer) := by
  have htokens : (held.tokenBalances ∪ older.map fun _ balance => balance.balance) ∪
      (newer.map fun _ balance => balance.balance) =
      held.tokenBalances ∪ (older ∪ newer).map fun _ balance => balance.balance := by
    refine Std.ExtTreeMap.ext_getElem? fun token => ?_
    simp only [Std.ExtTreeMap.getElem?_union, Std.ExtTreeMap.getElem?_map, Option.map_or,
      Option.or_assoc]
  simp only [credit, htokens]

/-- Slots and token balances do not meet. -/
theorem overlay_credit (update : AccountUpdate) (balances : FinMap Bytes AccountBalance) :
    (held.credit balances).overlay update = (held.overlay update).credit balances := rfl

/-- A change that is folded into a snapshot is a change that is applied. -/
theorem ofSnapshot_fold (account : ResponseAccount) (update : AccountUpdate) :
    ofSnapshot (foldAccountUpdateIntoSnapshot account update) =
      (ofSnapshot account).overlay update := by
  simp only [ofSnapshot, foldAccountUpdateIntoSnapshot, overlay, HeldAccount.mk.injEq, true_and,
    and_true]
  cases update.balance <;> cases update.code <;> simp

theorem ofSnapshot_balances (account : ResponseAccount) (balances : FinMap Bytes AccountBalance) :
    ofSnapshot (applyAccountBalances account balances) = (ofSnapshot account).credit balances := rfl

end HeldAccount

namespace AccountEntry

/-- **Compaction keeps the meaning** of an entry for a consumer that starts with nothing. -/
theorem applyTo_compacted (entry : AccountEntry) :
    entry.compacted.applyTo .empty = entry.applyTo .empty := by
  obtain ⟨snapshot, update, balances⟩ := entry
  rw [compacted]
  rcases hdeletes : deletes ⟨snapshot, update, balances⟩ with _ | _
  · rcases hcreates : creates ⟨snapshot, update, balances⟩ with _ | _
    · rcases snapshot with _ | account
      · rfl
      · -- the folded snapshot, loaded, is the loaded snapshot with the changes applied
        rw [applyTo, applyTo, hdeletes, hcreates]
        cases update <;> cases balances <;>
          simp [deletes, creates, HeldAccount.ofSnapshot_fold, HeldAccount.ofSnapshot_balances]
    · have hdeletes' : deletes ⟨none, update, balances⟩ = false := hdeletes
      have hcreates' : creates ⟨none, update, balances⟩ = true := hcreates
      simp [applyTo, hdeletes, hcreates, hdeletes', hcreates']
  · rw [applyTo, applyTo, hdeletes]
    rfl

/-- The update that a merge makes of two that neither delete nor, for the newer one, create. -/
theorem merged_lifecycle {stored incoming : AccountEntry} (hstored : stored.deletes = false)
    (hdeletes : incoming.deletes = false) (hcreates : incoming.creates = false) :
    (stored.merged incoming).deletes = false ∧
      (stored.merged incoming).creates = stored.creates := by
  obtain ⟨_, older, _⟩ := stored
  obtain ⟨_, newer, _⟩ := incoming
  rcases older with _ | older
  · rcases newer with _ | newer
    · exact ⟨rfl, rfl⟩
    · simp_all [deletes, creates, merged]
  · rcases newer with _ | newer
    · simp_all [deletes, creates, merged]
    · by_cases hcreation : older.change = .creation
      · simp_all [deletes, creates, merged, AccountUpdate.overlay]
      · simp_all [deletes, creates, merged, AccountUpdate.overlay]

/-- **A merge keeps the meaning** of the two entries, one after the other, unless the incoming entry
meets something that waits: a snapshot must not meet a waiting update or balance, and a creation
must not meet waiting balances. -/
theorem applyTo_merged {stored incoming : AccountEntry} (hstored : stored.deletes = false)
    (hsnapshot : incoming.snapshot ≠ none → incoming.deletes = false → incoming.creates = false →
      stored.update = none ∧ stored.balances = none)
    (hcreation : incoming.creates = true → stored.balances = none) :
    (stored.merged incoming).applyTo .empty = incoming.applyTo (stored.applyTo .empty) := by
  rcases hdeletes : incoming.deletes with _ | _
  · rcases hcreates : incoming.creates with _ | _
    · obtain ⟨hmdeletes, hmcreates⟩ := merged_lifecycle hstored hdeletes hcreates
      have hupdate : (stored.merged incoming).update =
          Option.merge AccountUpdate.overlay stored.update incoming.update := by
        rw [merged, hdeletes, hcreates]
        rfl
      rw [applyTo, hmdeletes, hmcreates, hupdate, applyTo, hdeletes, hcreates, merged]
      rcases hin : incoming.snapshot with _ | account
      · -- what waited is overlaid once more
        rw [applyTo, hstored]
        cases stored.update <;> cases incoming.update <;> cases stored.balances <;>
          cases incoming.balances <;>
          simp [HeldAccount.overlay_credit, HeldAccount.overlay_overlay, HeldAccount.credit_credit]
      · -- the snapshot replaces the account, and nothing waited for it
        obtain ⟨hnone, hnobalances⟩ := hsnapshot (by simp [hin]) hdeletes hcreates
        have hstart : stored.creates = false := by simp [creates, hnone]
        simp [hnone, hnobalances, hstart]
    · have hmerged : (stored.merged incoming).update = incoming.update := by
        rw [merged, hcreates, Bool.or_true]
        rfl
      have hnobalances := hcreation hcreates
      simp only [applyTo, deletes, creates, hmerged] at hdeletes hcreates ⊢
      simp [hdeletes, hcreates, merged, hnobalances]
  · have hmerged : (stored.merged incoming).deletes = true := by
      rw [deletes, merged, hdeletes, Bool.true_or]
      exact hdeletes
    rw [applyTo, hmerged, applyTo, hdeletes]
    rfl

/-- A compacted entry has no deletion left. -/
theorem compacted_deletes (entry : AccountEntry) : entry.compacted.deletes = false := by
  rw [compacted]
  rcases hdeletes : entry.deletes with _ | _
  · rcases hcreates : entry.creates with _ | _
    · rcases entry.snapshot with _ | account
      · exact hdeletes
      · rfl
    · exact hdeletes
  · rfl

end AccountEntry

/-! ## All messages of a protocol -/

/-- A message that is folded without meeting what the stored message waits with: it brings no
snapshot of an account with a waiting update or waiting balances, unless it creates or deletes the
account itself, and it creates no account with waiting balances. -/
structure FoldsAccounts (stored : List BroadcasterProtocolMessage)
    (incoming : BroadcasterProtocolMessage) : Prop where
  snapshots : ∀ existing ∈ stored, ∀ address ∈ incoming.message.snapshots.vmStorage.keys,
    (incoming.message.account address).deletes = false →
    (incoming.message.account address).creates = false →
    (existing.message.account address).update = none ∧
      (existing.message.account address).balances = none
  creations : ∀ existing ∈ stored,
    ∀ address ∈ (incoming.message.changes (·.accountUpdates)).keys,
      (incoming.message.account address).creates = true →
      (existing.message.account address).balances = none

/-- What a consumer holds of an account after applying messages one by one. -/
def heldAfter (messages : List BroadcasterProtocolMessage) (address : Bytes) : HeldAccount :=
  messages.foldl (fun held message => (message.message.account address).applyTo held) .empty

/-- A consumer that boots from the stored message of a protocol holds of every account what one
holds that applied the messages one by one. -/
def AccountsReplayed (merge : StateSyncMerge) (messages : List BroadcasterProtocolMessage) : Prop :=
  ∃ stored, messages.foldl (mergeRawMessage merge) [] = [stored] ∧
    ∀ address, (stored.message.account address).applyTo .empty = heldAfter messages address

/-- **One message**: booting from the new stored message is booting from the old one and applying
the message. -/
theorem mergeStored_applyTo {merge : StateSyncMerge} (laws : MergesUpdates merge)
    {stored incoming : BroadcasterProtocolMessage} (hfolds : FoldsAccounts [stored] incoming)
    (address : Bytes) (hstored : (stored.message.account address).deletes = false) :
    ((mergeStored merge stored incoming).message.account address).applyTo .empty =
      (incoming.message.account address).applyTo
        ((stored.message.account address).applyTo .empty) := by
  have hexisting : stored ∈ [stored] := List.mem_singleton_self _
  rw [mergeStored_message, compact_account, AccountEntry.applyTo_compacted,
    mergedWith_account laws]
  refine AccountEntry.applyTo_merged hstored (fun hsnapshot => ?_) fun hcreates => ?_
  · refine hfolds.snapshots stored hexisting address (Std.ExtTreeMap.mem_keys.mpr ?_)
    rw [Std.ExtTreeMap.mem_iff_isSome_getElem?]
    exact Option.isSome_iff_ne_none.mpr hsnapshot
  · refine hfolds.creations stored hexisting address (Std.ExtTreeMap.mem_keys.mpr ?_) hcreates
    rw [Std.ExtTreeMap.mem_iff_isSome_getElem?]
    exact Option.isSome_of_any hcreates

/-- **All messages**: the stored message never waits with a deletion, and booting from it is
applying every message. -/
theorem foldl_mergeRawMessage_accounts {merge : StateSyncMerge} (laws : MergesUpdates merge)
    {protocol : String} (messages : List BroadcasterProtocolMessage)
    (hprotocol : ∀ message ∈ messages, message.protocol = protocol)
    (hfolds : Meets merge FoldsAccounts messages) (hne : messages ≠ []) :
    ∃ stored, messages.foldl (mergeRawMessage merge) [] = [stored] ∧ stored.protocol = protocol ∧
      ∀ address, (stored.message.account address).deletes = false ∧
        (stored.message.account address).applyTo .empty = heldAfter messages address := by
  induction messages using List.reverseRecOn with
  | nil => exact absurd rfl hne
  | append_singleton messages message ih =>
    have hmessage : message.protocol = protocol :=
      hprotocol message (List.mem_append_right _ (List.mem_singleton_self _))
    obtain ⟨hbefore, hfold⟩ := hfolds.of_concat
    rw [List.foldl_concat]
    rcases eq_or_ne messages [] with rfl | hmessages
    · refine ⟨_, mergeRawMessage_nil merge message, hmessage, fun address => ?_⟩
      rw [compact_account, AccountEntry.applyTo_compacted]
      exact ⟨AccountEntry.compacted_deletes _, rfl⟩
    · obtain ⟨stored, hstored, hname, hheld⟩ := ih
        (fun m hm => hprotocol m (List.mem_append_left _ hm)) hbefore hmessages
      rw [hstored] at hfold
      refine ⟨mergeStored merge stored message, ?_, hname, fun address => ?_⟩
      · rw [hstored, mergeRawMessage_singleton merge (hname.trans hmessage.symm)]
      · obtain ⟨hdeletes, happly⟩ := hheld address
        refine ⟨?_, ?_⟩
        · rw [mergeStored_message, compact_account]
          exact AccountEntry.compacted_deletes _
        · rw [mergeStored_applyTo laws hfold address hdeletes, happly, heldAfter, heldAfter,
            List.foldl_concat]

/-- **The account history of a protocol.** As long as no snapshot meets a waiting update or balance
of its account, and no creation meets waiting balances, a consumer that boots from the stored
message holds what one holds that applied all messages so far. -/
theorem accounts_replayed (merge : StateSyncMerge) (laws : MergesUpdates merge)
    (protocol : String) (messages : List BroadcasterProtocolMessage)
    (hprotocol : ∀ message ∈ messages, message.protocol = protocol) (hne : messages ≠ [])
    (hfolds : Meets merge FoldsAccounts messages) : AccountsReplayed merge messages := by
  obtain ⟨stored, hstored, -, hheld⟩ :=
    foldl_mergeRawMessage_accounts laws messages hprotocol hfolds hne
  exact ⟨stored, hstored, fun address => (hheld address).2⟩

/-! ## A vault that is created, changed and deleted -/

/-- The address of the vault. -/
def vaultAddress : Bytes := [7]

/-- An update of the vault that sets its first slot. -/
def vaultUpdate (change : ChangeType) (value : Bytes) : BlockChanges :=
  { noChanges with
    accountUpdates := (∅ : FinMap Bytes AccountUpdate).insert vaultAddress
      { address := vaultAddress, chain := "ethereum"
        slots := (∅ : FinMap Bytes Bytes).insert [1] value
        balance := none, code := none, change } }

/-- A snapshot of the vault with a value in its first slot. -/
def vaultSnapshot (value : Bytes) : Snapshot :=
  { states := ∅
    vmStorage := (∅ : FinMap Bytes ResponseAccount).insert vaultAddress
      { chain := "ethereum", address := vaultAddress, title := "vault"
        slots := (∅ : FinMap Bytes Bytes).insert [1] value
        nativeBalance := [0], tokenBalances := ∅, code := [0], codeHash := [0]
        balanceModifyTx := [0], codeModifyTx := [0], creationTx := none } }

/-- The vault is created, updated, deleted, and then comes with a snapshot. -/
def vaultHistory : List BroadcasterProtocolMessage :=
  [messageAt "vm:balancer_v2" 1 ⟨∅, ∅⟩ (some (vaultUpdate .creation [1]))] ++
    [messageAt "vm:balancer_v2" 2 ⟨∅, ∅⟩ (some (vaultUpdate .update [2]))] ++
    [messageAt "vm:balancer_v2" 3 ⟨∅, ∅⟩ (some (vaultUpdate .deletion []))] ++
    [messageAt "vm:balancer_v2" 4 (vaultSnapshot [4]) none]

/-- The vault's messages meet the condition. -/
theorem accounts_replayed_vault :
    Meets overlayMerge FoldsAccounts vaultHistory ∧ AccountsReplayed overlayMerge vaultHistory := by
  have hmeets : Meets overlayMerge FoldsAccounts vaultHistory :=
    .concat (.concat (.concat (.concat (.nil _ _)
      ⟨by decide +kernel, by decide +kernel⟩) ⟨by decide +kernel, by decide +kernel⟩)
      ⟨by decide +kernel, by decide +kernel⟩) ⟨by decide +kernel, by decide +kernel⟩
  exact ⟨hmeets, accounts_replayed overlayMerge mergesUpdates_overlayMerge "vm:balancer_v2"
    vaultHistory (by decide) (by decide) hmeets⟩

/-- The vault is created in block 1. Its snapshot of block 2 is discarded, because the creation
still waits in the stored message. -/
theorem waiting_creation_discards_snapshot :
    ¬∀ merge, MergesUpdates merge → ∀ (protocol : String)
      (messages : List BroadcasterProtocolMessage),
      (∀ message ∈ messages, message.protocol = protocol) →
      messages.Pairwise (fun a b => a.message.header.number < b.message.header.number) →
      messages ≠ [] → AccountsReplayed merge messages := by
  intro h
  obtain ⟨stored, hstored, hheld⟩ := h overlayMerge mergesUpdates_overlayMerge "vm:balancer_v2"
    [messageAt "vm:balancer_v2" 1 ⟨∅, ∅⟩ (some (vaultUpdate .creation [1])),
      messageAt "vm:balancer_v2" 2 (vaultSnapshot [2]) none] (by decide) (by decide) (by decide)
  have hslot := congrArg (fun stored : List BroadcasterProtocolMessage => stored.map fun message =>
    ((message.message.account vaultAddress).applyTo .empty).slots[([1] : Bytes)]?) hstored
  rw [List.map_singleton, hheld vaultAddress] at hslot
  exact absurd hslot (by decide +kernel)

end TychoSimulationServer
