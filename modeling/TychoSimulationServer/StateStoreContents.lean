import TychoSimulationServer.StateStoreIndexes

/-!
# The contents of the state store

`StateStoreIndexes` looks at where an update files a pool; this module looks at what it files. Seen
from one id, an update announces the pool, replaces its state, or removes it, in that order, and
`poolById` returns the result (`poolById_applyUpdateLocked`). The token index plays no part.
-/

namespace TychoSimulationServer

open Fallible MapFold

variable {Sim : Type}

/-! ## Slots

The store seen from one id: the protocol it is filed under, what each shard has under it, and the
state that the update still has for it. -/

/-- Everything the shards say about one id, and the state an update still has for it. `entry kind`
is `none` when the kind has no shard. -/
@[ext] structure PoolSlot (Sim : Type) where
  kind : Option ProtocolKind
  entry : ProtocolKind → Option (Option (PoolEntry Sim))
  waiting : Option Sim

/-- The slot of an id during an update. -/
def UpdateRun.slot (run : UpdateRun Sim) (id : String) : PoolSlot Sim :=
  { kind := run.published.idToKind[id]?
    entry := fun kind => run.published.shards[kind]?.map fun shard => shard[id]?
    waiting := run.states[id]? }

/-- The pool a slot names. -/
def PoolSlot.pool (slot : PoolSlot Sim) : Option (PoolEntry Sim) :=
  slot.kind.bind fun kind => (slot.entry kind).join

/-- The pool of a slot is the pool that readers find. -/
theorem pool_slot (run : UpdateRun Sim) (id : String) :
    (run.slot id).pool = poolById run.published id := by
  simp only [UpdateRun.slot, PoolSlot.pool, poolById, Option.bind_eq_bind]
  rcases run.published.idToKind[id]? with _ | kind
  · rfl
  · rw [Option.bind_some, Option.bind_some]
    rcases run.published.shards[kind]? with _ | shard <;> rfl

/-- The slot with another pool in one shard. -/
def PoolSlot.put (slot : PoolSlot Sim) (kind : ProtocolKind) (pool : Option (PoolEntry Sim)) :
    PoolSlot Sim :=
  { slot with entry := fun k => if k = kind then some pool else slot.entry k }

/-- Replacing a shard is seen by the ids of that shard only. -/
theorem slot_entry_insert (shards : FinMap ProtocolKind (FinMap String (PoolEntry Sim)))
    (kind k : ProtocolKind) (shard : FinMap String (PoolEntry Sim)) (id : String) :
    ((shards.insert kind shard)[k]?.map fun shard => shard[id]?) =
      if k = kind then some (shard[id]?) else shards[k]?.map fun shard => shard[id]? := by
  rw [Std.ExtTreeMap.getElem?_insert]
  by_cases h : k = kind
  · simp [h]
  · have h' : kind ≠ k := fun heq => h heq.symm
    simp [h, h']

/-- What announcing a pair does to its own slot. -/
def PoolSlot.announce (component : ProtocolComponent) (slot : PoolSlot Sim) : PoolSlot Sim :=
  match ProtocolKind.fromComponent component, slot.waiting with
  | some kind, some state =>
    match slot.entry kind with
    | some _ =>
      { slot.put kind (some ⟨state, component⟩) with kind := some kind, waiting := none }
    | none => { slot with waiting := none }
  | _, _ => slot

/-- What a new state does to its own slot. -/
def PoolSlot.restate (state : Sim) (slot : PoolSlot Sim) : PoolSlot Sim :=
  match slot.kind with
  | none => slot
  | some kind =>
    match slot.entry kind with
    | some (some existing) => slot.put kind (some { existing with state })
    | _ => slot

/-- What removing a pair does to its own slot. -/
def PoolSlot.remove (slot : PoolSlot Sim) : PoolSlot Sim :=
  match slot.kind with
  | none => slot
  | some kind =>
    match slot.entry kind with
    | some _ => { slot.put kind none with kind := none }
    | none => { slot with kind := none }

/-! ## The three loops -/

theorem applyNewPair_slot_other (run : UpdateRun Sim) (id : String)
    (component : ProtocolComponent) (id' : String) (hne : id' ≠ id) :
    (applyNewPair run (id, component)).slot id' = run.slot id' := by
  have hne' : id ≠ id' := fun heq => hne heq.symm
  simp only [applyNewPair]
  rcases ProtocolKind.fromComponent component with _ | kind
  · rfl
  · rcases run.states[id]? with _ | state
    · rfl
    · simp only
      rcases hshard : run.published.shards[kind]? with _ | shard
      · simp [UpdateRun.slot, Std.ExtTreeMap.getElem?_erase, hne']
      · refine PoolSlot.ext ?_ (funext fun k => ?_) ?_
        · simp [UpdateRun.slot, Std.ExtTreeMap.getElem?_insert, hne']
        · simp only [UpdateRun.slot, slot_entry_insert]
          by_cases h : k = kind
          · subst h
            simp [hshard, Std.ExtTreeMap.getElem?_insert, hne']
          · simp [h]
        · simp [UpdateRun.slot, Std.ExtTreeMap.getElem?_erase, hne']

theorem applyNewPair_slot_own (run : UpdateRun Sim) (id : String)
    (component : ProtocolComponent) :
    (applyNewPair run (id, component)).slot id = (run.slot id).announce component := by
  simp only [applyNewPair, PoolSlot.announce]
  rcases ProtocolKind.fromComponent component with _ | kind
  · rfl
  · rcases hstate : run.states[id]? with _ | state
    · simp [UpdateRun.slot, hstate]
    · rcases hshard : run.published.shards[kind]? with _ | shard
      · simp [UpdateRun.slot, hstate, hshard]
      · simp only [UpdateRun.slot, hstate, hshard, Option.map_some]
        refine PoolSlot.ext (by simp) (funext fun k => ?_) (by simp)
        simp only [PoolSlot.put, slot_entry_insert]
        by_cases h : k = kind <;> simp [h]

theorem applyStateUpdate_slot_other (run : UpdateRun Sim) (id : String) (state : Sim)
    (id' : String) (hne : id' ≠ id) :
    (applyStateUpdate run (id, state)).slot id' = run.slot id' := by
  have hne' : id ≠ id' := fun heq => hne heq.symm
  simp only [applyStateUpdate]
  rcases run.published.idToKind[id]? with _ | kind
  · rfl
  · rcases hshard : run.published.shards[kind]? with _ | shard
    · simp only [hshard]
      rfl
    · rcases hold : shard[id]? with _ | existing
      · simp only [hshard, hold]
        rfl
      · simp only [hshard, hold]
        refine PoolSlot.ext rfl (funext fun k => ?_) rfl
        simp only [UpdateRun.slot, slot_entry_insert]
        by_cases h : k = kind
        · subst h
          simp [hshard, Std.ExtTreeMap.getElem?_insert, hne']
        · simp [h]

theorem applyStateUpdate_slot_own (run : UpdateRun Sim) (id : String) (state : Sim) :
    (applyStateUpdate run (id, state)).slot id = (run.slot id).restate state := by
  simp only [applyStateUpdate, PoolSlot.restate]
  rcases hkind : run.published.idToKind[id]? with _ | kind
  · simp [UpdateRun.slot, hkind]
  · rcases hshard : run.published.shards[kind]? with _ | shard
    · simp [UpdateRun.slot, hkind, hshard]
    · rcases hold : shard[id]? with _ | existing
      · simp [UpdateRun.slot, hkind, hshard, hold]
      · simp only [UpdateRun.slot, hkind, hshard, hold, Option.map_some]
        refine PoolSlot.ext (by simp [PoolSlot.put]) (funext fun k => ?_) rfl
        simp only [PoolSlot.put, slot_entry_insert]
        by_cases h : k = kind <;> simp [h]

theorem applyRemovedPair_slot_other (run : UpdateRun Sim) (id : String)
    (component : ProtocolComponent) (id' : String) (hne : id' ≠ id) :
    (applyRemovedPair run (id, component)).slot id' = run.slot id' := by
  have hne' : id ≠ id' := fun heq => hne heq.symm
  simp only [applyRemovedPair]
  rcases run.published.idToKind[id]? with _ | kind
  · rfl
  · rcases hshard : run.published.shards[kind]? with _ | shard
    · simp only [hshard]
      refine PoolSlot.ext ?_ rfl rfl
      simp [UpdateRun.slot, Std.ExtTreeMap.getElem?_erase, hne']
    · simp only [hshard]
      refine PoolSlot.ext ?_ (funext fun k => ?_) rfl
      · simp [UpdateRun.slot, Std.ExtTreeMap.getElem?_erase, hne']
      · simp only [UpdateRun.slot, slot_entry_insert]
        by_cases h : k = kind
        · subst h
          simp [hshard, Std.ExtTreeMap.getElem?_erase, hne']
        · simp [h]

theorem applyRemovedPair_slot_own (run : UpdateRun Sim) (id : String)
    (component : ProtocolComponent) :
    (applyRemovedPair run (id, component)).slot id = (run.slot id).remove := by
  simp only [applyRemovedPair, PoolSlot.remove]
  rcases hkind : run.published.idToKind[id]? with _ | kind
  · simp [UpdateRun.slot, hkind]
  · rcases hshard : run.published.shards[kind]? with _ | shard
    · simp [UpdateRun.slot, hkind, hshard]
    · simp only [UpdateRun.slot, hkind, hshard, Option.map_some]
      refine PoolSlot.ext (by simp) (funext fun k => ?_) rfl
      simp only [PoolSlot.put, slot_entry_insert]
      by_cases h : k = kind <;> simp [h]

/-! ## A whole update

So a pool is known after an update by its slot before it and by what the update says about its
id. -/

/-- The pool an update announces under an id, if its protocol is known and it has a state. -/
def Update.announcedPool (update : Update Sim) (id : String) : Option (PoolEntry Sim) := do
  let component ← update.newPairs[id]?
  let _ ← ProtocolKind.fromComponent component
  let state ← update.states[id]?
  pure ⟨state, component⟩

/-- What an update makes of the pool of an id. -/
def Update.poolAfter (update : Update Sim) (id : String) (old : Option (PoolEntry Sim)) :
    Option (PoolEntry Sim) :=
  if update.removedPairs.contains id then none
  else
    match update.announcedPool id with
    | some pool => some pool
    | none =>
      match update.states[id]? with
      | some state => old.map ({ · with state })
      | none => old

/-- What is put into a slot is found there. -/
theorem PoolSlot.pool_put_own {slot : PoolSlot Sim} {kind : ProtocolKind}
    {pool : Option (PoolEntry Sim)} (hkind : slot.kind = some kind) :
    (slot.put kind pool).pool = pool := by
  simp [PoolSlot.pool, PoolSlot.put, hkind]

theorem PoolSlot.pool_restate (state : Sim) (slot : PoolSlot Sim) :
    (slot.restate state).pool = slot.pool.map ({ · with state }) := by
  rcases hkind : slot.kind with _ | kind
  · simp [PoolSlot.restate, PoolSlot.pool, hkind]
  · rcases hentry : slot.entry kind with _ | pool
    · simp [PoolSlot.restate, PoolSlot.pool, hkind, hentry]
    · rcases pool with _ | existing
      · simp [PoolSlot.restate, PoolSlot.pool, hkind, hentry]
      · have hpool : slot.pool = some existing := by simp [PoolSlot.pool, hkind, hentry]
        rw [PoolSlot.restate, hkind]
        simp only [hentry]
        rw [PoolSlot.pool_put_own hkind, hpool]
        rfl

theorem PoolSlot.pool_remove (slot : PoolSlot Sim) : slot.remove.pool = none := by
  rcases hkind : slot.kind with _ | kind
  · simp [PoolSlot.remove, PoolSlot.pool, hkind]
  · rcases hentry : slot.entry kind with _ | pool <;>
      simp [PoolSlot.remove, PoolSlot.pool, hkind, hentry]

/-- **Announcing**, when every kind has a shard. -/
theorem PoolSlot.announce_spec {slot : PoolSlot Sim} (hshards : ∀ kind, (slot.entry kind).isSome)
    (component : ProtocolComponent) :
    (∃ state, (ProtocolKind.fromComponent component).isSome ∧ slot.waiting = some state ∧
      (slot.announce component).pool = some ⟨state, component⟩ ∧
      (slot.announce component).waiting = none) ∨
    ((ProtocolKind.fromComponent component = none ∨ slot.waiting = none) ∧
      slot.announce component = slot) := by
  rcases hkind : ProtocolKind.fromComponent component with _ | kind
  · exact .inr ⟨.inl rfl, by simp [PoolSlot.announce, hkind]⟩
  · rcases hwaiting : slot.waiting with _ | state
    · exact .inr ⟨.inr rfl, by simp [PoolSlot.announce, hkind, hwaiting]⟩
    · obtain ⟨old, hold⟩ := Option.isSome_iff_exists.mp (hshards kind)
      refine .inl ⟨state, rfl, rfl, ?_, ?_⟩
      · simp [PoolSlot.announce, hkind, hwaiting, hold, PoolSlot.put, PoolSlot.pool]
      · simp [PoolSlot.announce, hkind, hwaiting, hold]

/-- **An update, seen from one pool.** -/
theorem poolById_runUpdate {s : PublishedStateStore Sim} (hshards : s.ShardsComplete)
    (update : Update Sim) (id : String) :
    poolById (runUpdate s update).published id = update.poolAfter id (poolById s id) := by
  let start : UpdateRun Sim := ⟨s, update.states, {}⟩
  let announced := applyNewPairs start update.newPairs
  let restated := applyStateUpdates announced
  have hstart : (start.slot id).pool = poolById s id := pool_slot start id
  have hentries : ∀ kind, ((start.slot id).entry kind).isSome := by
    intro kind
    rw [UpdateRun.slot, Option.isSome_map]
    exact hshards kind
  -- each loop acts on the slot of the id once, if it acts on it at all
  have hfirst := foldl_toList_view UpdateRun.slot (fun _ component => PoolSlot.announce component)
    applyNewPair_slot_other applyNewPair_slot_own update.newPairs start id
  have hsecond := foldl_toList_view UpdateRun.slot (fun _ state => PoolSlot.restate state)
    applyStateUpdate_slot_other applyStateUpdate_slot_own announced.states announced id
  have hthird := foldl_toList_view UpdateRun.slot (fun _ _ => PoolSlot.remove)
    applyRemovedPair_slot_other applyRemovedPair_slot_own update.removedPairs restated id
  change announced.slot id = _ at hfirst
  change restated.slot id = _ at hsecond
  change (runUpdate s update).slot id = _ at hthird
  have hwaiting : announced.states[id]? = (announced.slot id).waiting := rfl
  have hrestated : (restated.slot id).pool = match update.announcedPool id with
      | some pool => some pool
      | none => match update.states[id]? with
        | some state => (poolById s id).map ({ · with state })
        | none => poolById s id := by
    rw [hsecond, hwaiting, hfirst]
    have huntouched : ∀ slot : PoolSlot Sim, slot = start.slot id → update.announcedPool id = none →
        (match slot.waiting with
          | some state => slot.restate state
          | none => slot).pool =
        (match update.announcedPool id with
          | some pool => some pool
          | none => match update.states[id]? with
            | some state => (poolById s id).map ({ · with state })
            | none => poolById s id) := by
      rintro slot rfl hnone
      rw [hnone, ← hstart]
      change (match update.states[id]? with
        | some state => (start.slot id).restate state
        | none => start.slot id).pool = _
      rcases update.states[id]? with _ | state
      · rfl
      · exact PoolSlot.pool_restate state _
    rcases hpair : update.newPairs[id]? with _ | component
    · exact huntouched _ rfl (by simp [Update.announcedPool, hpair])
    · obtain ⟨state, hkind, hstate, hpool, hgone⟩ | ⟨hnot, hsame⟩ :=
        PoolSlot.announce_spec hentries component
      · obtain ⟨kind, hkind⟩ := Option.isSome_iff_exists.mp hkind
        have hannounced : update.announcedPool id = some ⟨state, component⟩ := by
          have hstate' : update.states[id]? = some state := hstate
          simp [Update.announcedPool, hpair, hkind, hstate']
        simp only [hgone, hannounced]
        exact hpool
      · refine huntouched _ hsame ?_
        obtain hnone | hnone := hnot
        · simp [Update.announcedPool, hpair, hnone]
        · have hnone' : update.states[id]? = none := hnone
          simp [Update.announcedPool, hpair, hnone']
  rw [← pool_slot, hthird, Update.poolAfter, Std.ExtTreeMap.contains_eq_isSome_getElem?]
  rcases update.removedPairs[id]? with _ | gone
  · exact hrestated
  · exact PoolSlot.pool_remove _

/-- **What the store holds after an update.** -/
theorem poolById_applyUpdateLocked {s : PublishedStateStore Sim} (hshards : s.ShardsComplete)
    (update : Update Sim) (stateVersion : UInt64) (id : String) :
    poolById (applyUpdateLocked s update stateVersion).1 id =
      update.poolAfter id (poolById s id) :=
  poolById_runUpdate (s := { s with version := stateVersion
                                    blockNumber := update.blockNumberOrTimestamp }) hshards update id

end TychoSimulationServer
