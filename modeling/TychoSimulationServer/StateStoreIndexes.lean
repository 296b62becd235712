import TychoSimulationServer.StateStore

/-!
# The indexes of the state store

When do `id_to_kind` and `token_index` agree with the shards? The loops of an update edit the
indexes from the data of the update, so the answer depends on how the update's components compare
with the stored ones: re-announcing an id must keep its protocol and may only add tokens, and
removing an id must name every token it is indexed under.

`RespectsStore` states that condition. An update that meets it keeps the indexes consistent, one
that does not breaks them, and along every run of updates that meet it the lookup by token pair
returns exactly the stored pools.
-/

namespace TychoSimulationServer

open Fallible MapFold

variable {Sim : Type}

/-! ## Consistency

The token index is right when it lists an id under a token exactly if a stored pool of that id
trades the token, and the other index when it names the shard. -/

/-- The token addresses of a component. -/
def ProtocolComponent.addresses (component : ProtocolComponent) : List Bytes :=
  component.tokens.map (·.address)

/-- The pool an id names in the shard of a kind. -/
def PublishedStateStore.storedIn (s : PublishedStateStore Sim) (kind : ProtocolKind)
    (id : String) : Option (PoolEntry Sim) :=
  s.shards[kind]?.bind (·[id]?)

/-- The index lists an id under a token. -/
def PublishedStateStore.Indexed (s : PublishedStateStore Sim) (token : Bytes) (id : String) :
    Prop :=
  id ∈ s.tokenIndex[token]?.getD ∅

instance (s : PublishedStateStore Sim) (token : Bytes) (id : String) :
    Decidable (s.Indexed token id) :=
  inferInstanceAs (Decidable (id ∈ s.tokenIndex[token]?.getD ∅))

/-- **Index consistency.** An id lives in a shard exactly when `id_to_kind` names that shard, so it
lives in at most one; and the index lists an id under a token exactly when the stored component of
the id lists the token. -/
structure PublishedStateStore.IndexConsistent (s : PublishedStateStore Sim) : Prop where
  kind_iff : ∀ id kind, (s.storedIn kind id).isSome ↔ s.idToKind[id]? = some kind
  indexed_iff : ∀ id token, s.Indexed token id ↔
    ∃ kind entry, s.storedIn kind id = some entry ∧ token ∈ entry.component.addresses

/-- The pool with this id, wherever it is stored. -/
def PublishedStateStore.Stores (s : PublishedStateStore Sim) (id : String)
    (entry : PoolEntry Sim) : Prop :=
  ∃ kind, s.storedIn kind id = some entry

/-- **Exact matching.** Whenever some stored pool lists both tokens, the lookup returns the stored
pools that list both, each once. -/
def PublishedStateStore.MatchingExact (s : PublishedStateStore Sim) : Prop :=
  ∀ tokenIn tokenOut,
    (∃ id entry, s.Stores id entry ∧ tokenIn ∈ entry.component.addresses ∧
      tokenOut ∈ entry.component.addresses) →
    ((matchingPools s tokenIn tokenOut).map Prod.fst).Nodup ∧
    ∀ id entry, (id, entry) ∈ matchingPools s tokenIn tokenOut ↔
      s.Stores id entry ∧ tokenIn ∈ entry.component.addresses ∧
        tokenOut ∈ entry.component.addresses

/-! ## The condition on updates

An announcement of a pool that is known already does not take the old component out of the index,
and a removal takes out only the tokens it names. So neither may leave out a token. -/

/-- The kind and component an update announces for an id, if it announces it with a known protocol
and a state. -/
def Update.announced (update : Update Sim) (id : String) :
    Option (ProtocolKind × ProtocolComponent) := do
  let component ← update.newPairs[id]?
  let kind ← ProtocolKind.fromComponent component
  let _ ← update.states[id]?
  pure (kind, component)

/-- The kind and component an id is stored with. -/
def PublishedStateStore.known (s : PublishedStateStore Sim) (id : String) :
    Option (ProtocolKind × ProtocolComponent) := do
  let kind ← s.idToKind[id]?
  let entry ← s.storedIn kind id
  pure (kind, entry.component)

/-- **The condition on an update.** An id that is stored already is announced again only under its
own protocol; if the update does not also remove it, no token of the stored component is left out;
and an id is removed with a component that names all tokens it is stored or announced with. -/
def RespectsStore (s : PublishedStateStore Sim) (update : Update Sim) : Prop :=
  ∀ id,
    (∀ old ∈ s.known id, ∀ new ∈ update.announced id, old.1 = new.1 ∧
      (update.removedPairs[id]? = none → old.2.addresses ⊆ new.2.addresses)) ∧
    ∀ gone ∈ update.removedPairs[id]?,
      (∀ old ∈ s.known id, old.2.addresses ⊆ gone.addresses) ∧
      ∀ new ∈ update.announced id, new.2.addresses ⊆ gone.addresses

/-! ## Views

Consistency is a statement about each id by itself. The view of an id is all it speaks about. -/

/-- Everything the indexes and shards say about one id. `entry kind` is `none` when the kind has no
shard, and otherwise the component stored there. Pool states do not matter here. -/
@[ext] structure PoolView where
  kind : Option ProtocolKind
  entry : ProtocolKind → Option (Option ProtocolComponent)
  indexed : Bytes → Prop

/-- The view of an id. -/
def PublishedStateStore.view (s : PublishedStateStore Sim) (id : String) : PoolView :=
  { kind := s.idToKind[id]?
    entry := fun kind => s.shards[kind]?.map fun shard => shard[id]?.map (·.component)
    indexed := fun token => s.Indexed token id }

/-- A view is consistent: one shard, named by `kind`, and indexed under its tokens. -/
structure PoolView.Consistent (v : PoolView) : Prop where
  kind_iff : ∀ kind, (∃ component, v.entry kind = some (some component)) ↔ v.kind = some kind
  indexed_iff : ∀ token, v.indexed token ↔
    ∃ kind component, v.entry kind = some (some component) ∧ token ∈ component.addresses

/-- The id was announced: it is indexed under the new tokens as well, and stored in the new
shard. Nothing is taken away. -/
def PoolView.announce (v : PoolView) (kind : ProtocolKind) (component : ProtocolComponent) :
    PoolView :=
  { kind := some kind
    entry := fun k => if k = kind then some (some component) else v.entry k
    indexed := fun token => v.indexed token ∨ token ∈ component.addresses }

/-- The id was removed: it leaves the shard `kind` names and the sets of the given tokens. -/
def PoolView.remove (v : PoolView) (gone : ProtocolComponent) : PoolView :=
  { kind := none
    entry := fun k => if v.kind = some k then (v.entry k).map fun _ => none else v.entry k
    indexed := fun token => v.indexed token ∧ token ∉ gone.addresses }

/-- The view has the component of the stored pool. -/
theorem view_entry_eq_some {s : PublishedStateStore Sim} {id : String} {kind : ProtocolKind}
    {component : ProtocolComponent} :
    (s.view id).entry kind = some (some component) ↔
      ∃ entry, s.storedIn kind id = some entry ∧ entry.component = component := by
  change (s.shards[kind]?.map fun shard => shard[id]?.map (·.component)) = _ ↔
    ∃ entry, s.shards[kind]?.bind (·[id]?) = some entry ∧ _
  rcases s.shards[kind]? with _ | shard <;> simp

/-- A store is consistent when the view of every id is. -/
theorem indexConsistent_iff_view {s : PublishedStateStore Sim} :
    s.IndexConsistent ↔ ∀ id, (s.view id).Consistent := by
  have hkind : ∀ id kind, (∃ component, (s.view id).entry kind = some (some component)) ↔
      (s.storedIn kind id).isSome := by
    intro id kind
    rw [Option.isSome_iff_exists]
    simp only [view_entry_eq_some]
    exact ⟨fun ⟨_, entry, h, _⟩ => ⟨entry, h⟩, fun ⟨entry, h⟩ => ⟨_, entry, h, rfl⟩⟩
  have htoken : ∀ id token, (∃ kind component, (s.view id).entry kind = some (some component) ∧
      token ∈ component.addresses) ↔
      ∃ kind entry, s.storedIn kind id = some entry ∧ token ∈ entry.component.addresses := by
    intro id token
    simp only [view_entry_eq_some]
    constructor
    · rintro ⟨kind, _, ⟨entry, h, rfl⟩, hmem⟩
      exact ⟨kind, entry, h, hmem⟩
    · rintro ⟨kind, entry, h, hmem⟩
      exact ⟨kind, _, ⟨entry, h, rfl⟩, hmem⟩
  constructor
  · intro h id
    exact ⟨fun kind => (hkind id kind).trans (h.kind_iff id kind),
      fun token => (h.indexed_iff id token).trans (htoken id token).symm⟩
  · intro h
    exact ⟨fun id kind => (hkind id kind).symm.trans ((h id).kind_iff kind),
      fun id token => ((h id).indexed_iff token).trans (htoken id token)⟩

/-! ## Index edits, per id

An edit changes the entries of its own id, under the tokens of its component. -/

theorem mem_indexToken {index : FinMap Bytes (FinSet String)} {id id' : String}
    {address token : Bytes} :
    id' ∈ (indexToken index id address)[token]?.getD ∅ ↔
      id' ∈ index[token]?.getD ∅ ∨ id' = id ∧ token = address := by
  unfold indexToken
  rw [Std.ExtTreeMap.getElem?_insert]
  by_cases h : address = token
  · subst h
    rw [eq_comm (a := id')]
    simp [or_comm]
  · have h' : token ≠ address := fun heq => h heq.symm
    simp [h, h']

/-- Adding an id under all tokens of a component. -/
theorem mem_indexComponent {index : FinMap Bytes (FinSet String)} {id id' : String}
    {component : ProtocolComponent} {token : Bytes} :
    id' ∈ (indexComponent index id component)[token]?.getD ∅ ↔
      id' ∈ index[token]?.getD ∅ ∨ id' = id ∧ token ∈ component.addresses := by
  unfold indexComponent ProtocolComponent.addresses
  induction component.tokens generalizing index with
  | nil => simp
  | cons t rest ih =>
    rw [List.foldl_cons, ih, mem_indexToken, List.map_cons, List.mem_cons]
    tauto

theorem mem_unindexToken {index : FinMap Bytes (FinSet String)} {id id' : String}
    {address token : Bytes} :
    id' ∈ (unindexToken index id address)[token]?.getD ∅ ↔
      id' ∈ index[token]?.getD ∅ ∧ ¬ (id' = id ∧ token = address) := by
  rcases haddr : index[address]? with _ | poolIds
  · simp only [unindexToken, haddr]
    by_cases h : token = address
    · subst h
      simp [haddr]
    · simp [h]
  · simp only [unindexToken, haddr]
    by_cases h : token = address
    · subst h
      have hmem : id' ∈ poolIds.erase id ↔ id' ∈ poolIds ∧ ¬ id' = id := by
        rw [Std.ExtTreeSet.mem_erase, Ne, Std.LawfulEqCmp.compare_eq_iff_eq, eq_comm (a := id),
          and_comm]
      simp only [haddr, Option.getD_some, and_true, ← hmem]
      split
      case isTrue hempty =>
        rw [Std.ExtTreeSet.isEmpty_iff] at hempty
        simp [hempty]
      case isFalse hempty => simp
    · have h' : address ≠ token := fun heq => h heq.symm
      split
      · simp [h, h', Std.ExtTreeMap.getElem?_erase]
      · simp [h, h', Std.ExtTreeMap.getElem?_insert]

/-- Taking an id out under all tokens of a component. -/
theorem mem_unindexComponent {index : FinMap Bytes (FinSet String)} {id id' : String}
    {component : ProtocolComponent} {token : Bytes} :
    id' ∈ (unindexComponent index id component)[token]?.getD ∅ ↔
      id' ∈ index[token]?.getD ∅ ∧ ¬ (id' = id ∧ token ∈ component.addresses) := by
  unfold unindexComponent ProtocolComponent.addresses
  induction component.tokens generalizing index with
  | nil => simp
  | cons t rest ih =>
    rw [List.foldl_cons, ih, mem_unindexToken, List.map_cons, List.mem_cons]
    tauto

/-! ## The loops, per id -/

/-- Replacing one shard changes the view of an id in that shard only. -/
theorem view_entry_insert (shards : FinMap ProtocolKind (FinMap String (PoolEntry Sim)))
    (kind k : ProtocolKind) (shard : FinMap String (PoolEntry Sim)) (id : String) :
    ((shards.insert kind shard)[k]?.map fun shard => shard[id]?.map (·.component)) =
      if k = kind then some (shard[id]?.map (·.component))
      else shards[k]?.map fun shard => shard[id]?.map (·.component) := by
  rw [Std.ExtTreeMap.getElem?_insert]
  by_cases h : k = kind
  · simp [h]
  · have h' : kind ≠ k := fun heq => h heq.symm
    simp [h, h']

/-- The view of an id during an update: the state still waiting for it, and what is published. -/
def UpdateRun.view (run : UpdateRun Sim) (id : String) : Option Sim × PoolView :=
  (run.states[id]?, run.published.view id)

/-- What announcing a pair does to its own view, when its kind has a shard. -/
def announceEffect (component : ProtocolComponent) (v : Option Sim × PoolView) :
    Option Sim × PoolView :=
  match ProtocolKind.fromComponent component, v.1 with
  | some kind, some _ =>
    match v.2.entry kind with
    | some _ => (none, v.2.announce kind component)
    | none => (none, v.2)
  | _, _ => v

theorem applyNewPair_view_other (run : UpdateRun Sim) (id : String)
    (component : ProtocolComponent) (id' : String) (hne : id' ≠ id) :
    (applyNewPair run (id, component)).view id' = run.view id' := by
  have hne' : id ≠ id' := fun heq => hne heq.symm
  simp only [applyNewPair]
  rcases ProtocolKind.fromComponent component with _ | kind
  · rfl
  · rcases run.states[id]? with _ | state
    · rfl
    · simp only
      rcases hshard : run.published.shards[kind]? with _ | shard
      · simp [UpdateRun.view, Std.ExtTreeMap.getElem?_erase, hne']
      · refine Prod.ext (by simp [UpdateRun.view, Std.ExtTreeMap.getElem?_erase, hne']) ?_
        refine PoolView.ext ?_ (funext fun k => ?_) (funext fun token => propext ?_)
        · simp [UpdateRun.view, PublishedStateStore.view, Std.ExtTreeMap.getElem?_insert, hne']
        · simp only [UpdateRun.view, PublishedStateStore.view, view_entry_insert]
          by_cases h : k = kind
          · subst h
            simp [hshard, Std.ExtTreeMap.getElem?_insert, hne']
          · simp [h]
        · simp only [UpdateRun.view, PublishedStateStore.view, PublishedStateStore.Indexed,
            mem_indexComponent, hne, false_and, or_false]

theorem applyNewPair_view_own (run : UpdateRun Sim) (id : String)
    (component : ProtocolComponent) :
    (applyNewPair run (id, component)).view id = announceEffect component (run.view id) := by
  simp only [applyNewPair, announceEffect]
  rcases ProtocolKind.fromComponent component with _ | kind
  · rfl
  · rcases hstate : run.states[id]? with _ | state
    · simp [UpdateRun.view, hstate]
    · rcases hshard : run.published.shards[kind]? with _ | shard
      · simp [UpdateRun.view, hstate, PublishedStateStore.view, hshard]
      · simp only [UpdateRun.view, hstate, PublishedStateStore.view, hshard, Option.map_some]
        refine Prod.ext (by simp) ?_
        refine PoolView.ext (by simp [PoolView.announce]) (funext fun k => ?_)
          (funext fun token => propext ?_)
        · simp only [PoolView.announce, view_entry_insert]
          by_cases h : k = kind <;> simp [h]
        · simp only [PoolView.announce, PublishedStateStore.Indexed, mem_indexComponent, true_and]

/-- Replacing a state changes no view. -/
theorem applyStateUpdate_view (run : UpdateRun Sim) (entry : String × Sim) (id : String) :
    (applyStateUpdate run entry).published.view id = run.published.view id := by
  obtain ⟨id', state⟩ := entry
  simp only [applyStateUpdate]
  rcases run.published.idToKind[id']? with _ | kind
  · rfl
  · rcases hshard : run.published.shards[kind]? with _ | shard
    · simp only [hshard]
    · rcases hold : shard[id']? with _ | existing
      · simp only [hshard, hold]
      · simp only [hshard, hold]
        refine PoolView.ext rfl (funext fun k => ?_) rfl
        simp only [PublishedStateStore.view, view_entry_insert]
        by_cases h : k = kind
        · subst h
          by_cases hid : id' = id
          · subst hid
            simp [hshard, hold]
          · simp [hshard, Std.ExtTreeMap.getElem?_insert, hid]
        · simp [h]

theorem applyStateUpdates_view (run : UpdateRun Sim) (id : String) :
    (applyStateUpdates run).published.view id = run.published.view id := by
  unfold applyStateUpdates
  generalize run.states.toList = entries
  induction entries generalizing run with
  | nil => rfl
  | cons entry rest ih => rw [List.foldl_cons, ih, applyStateUpdate_view]

theorem applyRemovedPair_view_other (run : UpdateRun Sim) (id : String)
    (component : ProtocolComponent) (id' : String) (hne : id' ≠ id) :
    (applyRemovedPair run (id, component)).published.view id' = run.published.view id' := by
  have hne' : id ≠ id' := fun heq => hne heq.symm
  have hindex : ∀ token, id' ∈ (unindexComponent run.published.tokenIndex id
      component)[token]?.getD ∅ ↔ run.published.Indexed token id' := by
    intro token
    simp only [mem_unindexComponent, hne, false_and, not_false_eq_true, and_true,
      PublishedStateStore.Indexed]
  simp only [applyRemovedPair]
  rcases run.published.idToKind[id]? with _ | kind
  · exact PoolView.ext rfl rfl (funext fun token => propext (hindex token))
  · rcases hshard : run.published.shards[kind]? with _ | shard
    · simp only [hshard]
      refine PoolView.ext ?_ rfl (funext fun token => propext (hindex token))
      simp [PublishedStateStore.view, Std.ExtTreeMap.getElem?_erase, hne']
    · simp only [hshard]
      refine PoolView.ext ?_ (funext fun k => ?_) (funext fun token => propext (hindex token))
      · simp [PublishedStateStore.view, Std.ExtTreeMap.getElem?_erase, hne']
      · simp only [PublishedStateStore.view, view_entry_insert]
        by_cases h : k = kind
        · subst h
          simp [hshard, Std.ExtTreeMap.getElem?_erase, hne']
        · simp [h]

theorem applyRemovedPair_view_own (run : UpdateRun Sim) (id : String)
    (component : ProtocolComponent) :
    (applyRemovedPair run (id, component)).published.view id =
      (run.published.view id).remove component := by
  have hindex : ∀ token, id ∈ (unindexComponent run.published.tokenIndex id
      component)[token]?.getD ∅ ↔
        run.published.Indexed token id ∧ token ∉ component.addresses := by
    intro token
    simp only [mem_unindexComponent, true_and, PublishedStateStore.Indexed]
  simp only [applyRemovedPair]
  rcases hkind : run.published.idToKind[id]? with _ | kind
  · refine PoolView.ext ?_ (funext fun k => ?_) (funext fun token => propext (hindex token))
    · exact hkind
    · simp [PublishedStateStore.view, PoolView.remove, hkind]
  · rcases hshard : run.published.shards[kind]? with _ | shard
    · simp only [hshard]
      refine PoolView.ext ?_ (funext fun k => ?_) (funext fun token => propext (hindex token))
      · simp [PublishedStateStore.view, PoolView.remove]
      · by_cases h : kind = k
        · subst h
          simp [PublishedStateStore.view, PoolView.remove, hkind, hshard]
        · simp [PublishedStateStore.view, PoolView.remove, hkind, h]
    · simp only [hshard]
      refine PoolView.ext ?_ (funext fun k => ?_) (funext fun token => propext (hindex token))
      · simp [PublishedStateStore.view, PoolView.remove]
      · simp only [PublishedStateStore.view, PoolView.remove, view_entry_insert, hkind,
          Option.some.injEq]
        by_cases h : kind = k
        · subst h
          simp [hshard]
        · have h' : k ≠ kind := fun heq => h heq.symm
          simp [h, h']

/-- Every kind has a shard. -/
def PublishedStateStore.ShardsComplete (s : PublishedStateStore Sim) : Prop :=
  ∀ kind : ProtocolKind, s.shards[kind]?.isSome

/-- Whether a kind has a shard can be read off any view. -/
theorem shardsComplete_iff_view {s : PublishedStateStore Sim} (id : String) :
    s.ShardsComplete ↔ ∀ kind, ((s.view id).entry kind).isSome := by
  simp [PublishedStateStore.ShardsComplete, PublishedStateStore.view]

/-- The view an update leaves of an id: announced first if the update announces it, removed last
if the update removes it. -/
def PoolView.afterUpdate (v : PoolView) (announced : Option (ProtocolKind × ProtocolComponent))
    (gone : Option ProtocolComponent) : PoolView :=
  let v :=
    match announced with
    | some (kind, component) => v.announce kind component
    | none => v
  match gone with
  | some component => v.remove component
  | none => v

/-- **An update, seen from one id.** -/
theorem runUpdate_view {s : PublishedStateStore Sim} (hshards : s.ShardsComplete)
    (update : Update Sim) (id : String) :
    (runUpdate s update).published.view id =
      (s.view id).afterUpdate (update.announced id) update.removedPairs[id]? := by
  -- the first loop
  have hnew := foldl_toList_view UpdateRun.view (fun _ => announceEffect)
    (fun run id component id' => applyNewPair_view_other run id component id')
    (fun run id component => applyNewPair_view_own run id component)
    update.newPairs ⟨s, update.states, {}⟩ id
  have hfirst : (applyNewPairs ⟨s, update.states, {}⟩ update.newPairs).published.view id =
      (s.view id).afterUpdate (update.announced id) none := by
    have hsnd := congrArg Prod.snd hnew
    refine hsnd.trans ?_
    rcases hpair : update.newPairs[id]? with _ | component
    · simp [Update.announced, hpair, PoolView.afterUpdate, UpdateRun.view]
    · rcases hkind : ProtocolKind.fromComponent component with _ | kind
      · simp [Update.announced, hpair, hkind, PoolView.afterUpdate, UpdateRun.view,
          announceEffect]
      · rcases hstate : update.states[id]? with _ | state
        · simp [Update.announced, hpair, hkind, hstate, PoolView.afterUpdate, UpdateRun.view,
            announceEffect]
        · obtain ⟨old, hold⟩ := Option.isSome_iff_exists.mp
            ((shardsComplete_iff_view id).mp hshards kind)
          simp [Update.announced, hpair, hkind, hstate, PoolView.afterUpdate, UpdateRun.view,
            announceEffect, hold]
  -- the second loop changes no view, the third removes
  have hlast := foldl_toList_view (fun run id => run.published.view id)
    (fun _ gone v => PoolView.remove v gone)
    (fun run id component id' => applyRemovedPair_view_other run id component id')
    (fun run id component => applyRemovedPair_view_own run id component)
    update.removedPairs
    (applyStateUpdates (applyNewPairs ⟨s, update.states, {}⟩ update.newPairs)) id
  refine hlast.trans ?_
  rw [applyStateUpdates_view, hfirst]
  rcases update.removedPairs[id]? with _ | gone <;> rfl

/-! ## When a view stays consistent

An announcement adds the new tokens and leaves the old ones; a removal takes out the tokens of the
component that is stored. The equivalences say when that is right. -/

/-- The kind and component a view names. -/
def PoolView.known (v : PoolView) : Option (ProtocolKind × ProtocolComponent) := do
  let kind ← v.kind
  let component ← (v.entry kind).join
  pure (kind, component)

theorem known_eq_view (s : PublishedStateStore Sim) (id : String) :
    s.known id = (s.view id).known := by
  simp only [PublishedStateStore.known, PoolView.known, PublishedStateStore.view,
    PublishedStateStore.storedIn]
  rcases s.idToKind[id]? with _ | kind
  · rfl
  · simp only [Option.bind_eq_bind, Option.bind_some]
    rcases s.shards[kind]? with _ | shard
    · rfl
    · simp only [Option.bind_some, Option.map_some, Option.join_some]
      rcases shard[id]? with _ | entry <;> rfl

/-- In a consistent view, what is stored is what is known. -/
theorem PoolView.Consistent.entry_iff {v : PoolView} (hv : v.Consistent) {kind : ProtocolKind}
    {component : ProtocolComponent} :
    v.entry kind = some (some component) ↔ (kind, component) ∈ v.known := by
  constructor
  · intro h
    have hkind := (hv.kind_iff kind).mp ⟨component, h⟩
    simp [PoolView.known, hkind, h]
  · intro h
    rcases hkind : v.kind with _ | k
    · simp [PoolView.known, hkind] at h
    · obtain ⟨c, hc⟩ := (hv.kind_iff k).mpr hkind
      simp only [PoolView.known, hkind, hc, Option.bind_eq_bind, Option.bind_some,
        Option.join_some, Option.pure_def, Option.mem_def, Option.some.injEq, Prod.mk.injEq] at h
      obtain ⟨rfl, rfl⟩ := h
      exact hc

/-- In a consistent view, the indexed tokens are those of the known component. -/
theorem PoolView.Consistent.indexed_iff_known {v : PoolView} (hv : v.Consistent) {token : Bytes} :
    v.indexed token ↔ ∃ old ∈ v.known, token ∈ old.2.addresses := by
  rw [hv.indexed_iff]
  constructor
  · rintro ⟨kind, component, hentry, hmem⟩
    exact ⟨(kind, component), hv.entry_iff.mp hentry, hmem⟩
  · rintro ⟨⟨kind, component⟩, hold, hmem⟩
    exact ⟨kind, component, hv.entry_iff.mpr hold, hmem⟩

/-- Announcing keeps a view consistent exactly when the id was unknown, or known under the same
kind with no token that the new component leaves out. -/
theorem PoolView.Consistent.announce_iff {v : PoolView} (hv : v.Consistent)
    {kind : ProtocolKind} {component : ProtocolComponent} :
    (v.announce kind component).Consistent ↔
      ∀ old ∈ v.known, old.1 = kind ∧ old.2.addresses ⊆ component.addresses := by
  constructor
  · rintro hnew ⟨oldKind, old⟩ hold
    have hentry := hv.entry_iff.mpr hold
    have hkind : oldKind = kind := by
      -- the old shard still holds the id, so it must be the announced one
      by_contra hne
      have h : (v.announce kind component).entry oldKind = some (some old) := by
        simp [PoolView.announce, hne, hentry]
      have hk := (hnew.kind_iff oldKind).mp ⟨old, h⟩
      exact hne (Option.some.inj hk).symm
    refine ⟨hkind, fun token hmem => ?_⟩
    have hindexed : (v.announce kind component).indexed token :=
      Or.inl (hv.indexed_iff_known.mpr ⟨_, hold, hmem⟩)
    obtain ⟨k, c, hc, htoken⟩ := (hnew.indexed_iff token).mp hindexed
    have hk : some kind = some k := (hnew.kind_iff k).mp ⟨c, hc⟩
    rw [← Option.some.inj hk] at hc
    simp only [PoolView.announce, if_true, Option.some.injEq] at hc
    rwa [hc]
  · intro hold
    refine ⟨fun k => ?_, fun token => ?_⟩
    · by_cases hk : k = kind
      · simp [PoolView.announce, hk]
      · have hkind : ¬ kind = k := fun heq => hk heq.symm
        simp only [PoolView.announce, hk, if_false, Option.some.injEq, hkind, iff_false,
          not_exists]
        intro c hc
        exact hk (hold _ (hv.entry_iff.mp hc)).1
    · simp only [PoolView.announce]
      constructor
      · rintro (hindexed | hmem)
        · obtain ⟨old, hmem, htoken⟩ := hv.indexed_iff_known.mp hindexed
          exact ⟨kind, component, by simp, (hold old hmem).2 htoken⟩
        · exact ⟨kind, component, by simp, hmem⟩
      · rintro ⟨k, c, hc, htoken⟩
        by_cases hk : k = kind
        · simp only [hk, if_true, Option.some.injEq] at hc
          exact .inr (hc ▸ htoken)
        · simp only [hk, if_false] at hc
          exact .inl ((hv.indexed_iff token).mpr ⟨k, c, hc, htoken⟩)

/-- A view that stores nothing and names no kind is consistent when nothing is indexed. -/
theorem consistent_iff_of_empty {v : PoolView} (hkind : v.kind = none)
    (hentry : ∀ k c, v.entry k ≠ some (some c)) :
    v.Consistent ↔ ∀ token, ¬ v.indexed token := by
  constructor
  · intro hv token hindexed
    obtain ⟨k, c, hc, -⟩ := (hv.indexed_iff token).mp hindexed
    exact hentry k c hc
  · intro h
    refine ⟨fun k => ?_, fun token => ?_⟩
    · simp [hkind, hentry]
    · simp [h, hentry]

/-- Removing keeps a view consistent exactly when the removed component names every token the id
was known with. -/
theorem PoolView.Consistent.remove_iff {v : PoolView} (hv : v.Consistent)
    {gone : ProtocolComponent} :
    (v.remove gone).Consistent ↔ ∀ old ∈ v.known, old.2.addresses ⊆ gone.addresses := by
  rw [consistent_iff_of_empty rfl]
  · simp only [PoolView.remove, hv.indexed_iff_known, not_and, not_not]
    exact ⟨fun h old hold token hmem => h token ⟨old, hold, hmem⟩,
      fun h token ⟨old, hold, hmem⟩ => h old hold hmem⟩
  · intro k c hc
    simp only [PoolView.remove] at hc
    split at hc
    case isTrue hk => simp at hc
    case isFalse hk => exact hk ((hv.kind_iff k).mp ⟨c, hc⟩)

/-- Announcing and removing at once keeps a view consistent exactly when the id was not known
under another kind and the removed component names every token of either. -/
theorem PoolView.Consistent.announce_remove_iff {v : PoolView} (hv : v.Consistent)
    {kind : ProtocolKind} {component gone : ProtocolComponent} :
    ((v.announce kind component).remove gone).Consistent ↔
      (∀ old ∈ v.known, old.1 = kind ∧ old.2.addresses ⊆ gone.addresses) ∧
        component.addresses ⊆ gone.addresses := by
  have hindexed : ∀ token, ((v.announce kind component).remove gone).indexed token ↔
      ((∃ old ∈ v.known, token ∈ old.2.addresses) ∨ token ∈ component.addresses) ∧
        token ∉ gone.addresses := by
    intro token
    simp only [PoolView.remove, PoolView.announce, hv.indexed_iff_known]
  have hnone : (∀ old ∈ v.known, old.1 = kind) →
      (((v.announce kind component).remove gone).Consistent ↔
        ∀ token, ¬ ((v.announce kind component).remove gone).indexed token) := by
    intro hsame
    refine consistent_iff_of_empty rfl fun k c hc => ?_
    simp only [PoolView.remove, PoolView.announce, Option.some.injEq] at hc
    by_cases hk : kind = k
    · simp [hk] at hc
    · have hk' : ¬ k = kind := fun heq => hk heq.symm
      simp only [hk, hk', if_false] at hc
      exact hk' (hsame _ (hv.entry_iff.mp hc))
  constructor
  · intro hnew
    have hsame : ∀ old ∈ v.known, old.1 = kind := by
      rintro ⟨oldKind, old⟩ hold
      -- an entry under another kind survives the removal, though no kind is named any more
      by_contra hne
      have hne' : ¬ kind = oldKind := fun heq => hne heq.symm
      have h : ((v.announce kind component).remove gone).entry oldKind = some (some old) := by
        have hne'' : ¬ oldKind = kind := hne
        simp [PoolView.remove, PoolView.announce, hne', hne'', hv.entry_iff.mpr hold]
      have hk := (hnew.kind_iff oldKind).mp ⟨old, h⟩
      simp [PoolView.remove] at hk
    have hempty := (hnone hsame).mp hnew
    simp only [hindexed, not_and, not_not] at hempty
    exact ⟨fun old hold => ⟨hsame old hold, fun token hmem => hempty token (.inl ⟨old, hold, hmem⟩)⟩,
      fun token hmem => hempty token (.inr hmem)⟩
  · rintro ⟨hold, hcomponent⟩
    refine (hnone fun old h => (hold old h).1).mpr fun token => ?_
    rw [hindexed]
    rintro ⟨⟨old, hmem, htoken⟩ | htoken, hnot⟩
    · exact hnot ((hold old hmem).2 htoken)
    · exact hnot (hcomponent htoken)

/-- **One update.** A consistent store stays consistent under an update exactly when the update
respects it. -/
theorem runUpdate_consistent_iff {s : PublishedStateStore Sim} (hshards : s.ShardsComplete)
    (hs : s.IndexConsistent) (update : Update Sim) :
    (runUpdate s update).published.IndexConsistent ↔ RespectsStore s update := by
  rw [indexConsistent_iff_view] at hs ⊢
  refine forall_congr' fun id => ?_
  have hv := hs id
  rw [runUpdate_view hshards, known_eq_view]
  rcases update.announced id with _ | ⟨kind, component⟩
  · rcases update.removedPairs[id]? with _ | gone
    · simpa [PoolView.afterUpdate] using hv
    · simpa [PoolView.afterUpdate] using hv.remove_iff
  · rcases update.removedPairs[id]? with _ | gone
    · simpa [PoolView.afterUpdate] using hv.announce_iff
    · have h := @PoolView.Consistent.announce_remove_iff _ hv kind component gone
      simp only [PoolView.afterUpdate, h, Option.mem_def, Option.some.injEq, forall_eq',
        reduceCtorEq, false_implies, and_true]
      constructor
      · rintro ⟨hold, hcomponent⟩
        exact ⟨fun old h => (hold old h).1, fun old h => (hold old h).2, hcomponent⟩
      · rintro ⟨hkind, hold, hcomponent⟩
        exact ⟨fun old h => ⟨hkind old h, hold old h⟩, hcomponent⟩

/-! ## Rebuilding the indexes

The rebuild walks all stored pools and starts from empty indexes, so it is right whatever the old
indexes were. -/

/-- All stored pools, shard by shard. -/
def PublishedStateStore.pools (s : PublishedStateStore Sim) :
    List (ProtocolKind × String × PoolEntry Sim) :=
  s.shards.toList.flatMap fun (kind, shard) => shard.toList.map fun (id, entry) => (kind, id, entry)

theorem mem_pools {s : PublishedStateStore Sim} {kind : ProtocolKind} {id : String}
    {entry : PoolEntry Sim} : (kind, id, entry) ∈ s.pools ↔ s.storedIn kind id = some entry := by
  simp only [PublishedStateStore.pools, List.mem_flatMap, List.mem_map, Prod.mk.injEq,
    Prod.exists, PublishedStateStore.storedIn, Option.bind_eq_some_iff]
  constructor
  · rintro ⟨k, shard, hshard, i, e, hentry, rfl, rfl, rfl⟩
    exact ⟨shard, Std.ExtTreeMap.mem_toList_iff_getElem?_eq_some.mp hshard,
      Std.ExtTreeMap.mem_toList_iff_getElem?_eq_some.mp hentry⟩
  · rintro ⟨shard, hshard, hentry⟩
    exact ⟨kind, shard, Std.ExtTreeMap.mem_toList_iff_getElem?_eq_some.mpr hshard, id, entry,
      Std.ExtTreeMap.mem_toList_iff_getElem?_eq_some.mpr hentry, rfl, rfl, rfl⟩

/-- One iteration of `rebuild_indexes`. -/
def rebuildStep (published : PublishedStateStore Sim)
    (pool : ProtocolKind × String × PoolEntry Sim) : PublishedStateStore Sim :=
  { published with
    idToKind := published.idToKind.insert pool.2.1 pool.1
    tokenIndex := indexComponent published.tokenIndex pool.2.1 pool.2.2.component }

/-- The rebuild is one loop over the listed pools. -/
theorem rebuildIndexes_eq_foldl (s : PublishedStateStore Sim) :
    rebuildIndexes s = s.pools.foldl rebuildStep { s with idToKind := ∅, tokenIndex := ∅ } := by
  simp only [rebuildIndexes, PublishedStateStore.pools, List.foldl_flatMap, List.foldl_map]
  rfl

theorem foldl_rebuildStep_shards (pools : List (ProtocolKind × String × PoolEntry Sim))
    (s : PublishedStateStore Sim) : (pools.foldl rebuildStep s).shards = s.shards := by
  induction pools generalizing s with
  | nil => rfl
  | cons pool rest ih => rw [List.foldl_cons, ih]; rfl

theorem foldl_rebuildStep_indexed (pools : List (ProtocolKind × String × PoolEntry Sim))
    (s : PublishedStateStore Sim) (token : Bytes) (id : String) :
    (pools.foldl rebuildStep s).Indexed token id ↔
      s.Indexed token id ∨
        ∃ pool ∈ pools, pool.2.1 = id ∧ token ∈ pool.2.2.component.addresses := by
  induction pools generalizing s with
  | nil => simp
  | cons pool rest ih =>
    rw [List.foldl_cons, ih]
    have hstep : (rebuildStep s pool).Indexed token id ↔
        s.Indexed token id ∨ pool.2.1 = id ∧ token ∈ pool.2.2.component.addresses := by
      rw [eq_comm (a := pool.2.1)]
      exact mem_indexComponent
    simp only [hstep, List.mem_cons, exists_eq_or_imp, or_assoc]

/-- An id that all pools place under one kind is indexed under it. -/
theorem foldl_rebuildStep_idToKind {pools : List (ProtocolKind × String × PoolEntry Sim)}
    {s : PublishedStateStore Sim} {id : String} (kind : ProtocolKind)
    (hsame : ∀ pool ∈ pools, pool.2.1 = id → pool.1 = kind) :
    (pools.foldl rebuildStep s).idToKind[id]? =
      if ∃ pool ∈ pools, pool.2.1 = id then some kind else s.idToKind[id]? := by
  induction pools generalizing s with
  | nil => simp
  | cons pool rest ih =>
    rw [List.foldl_cons, ih fun pool' h => hsame pool' (List.mem_cons_of_mem pool h)]
    by_cases hid : pool.2.1 = id
    · have hkind := hsame pool List.mem_cons_self hid
      simp [rebuildStep, hid, hkind]
    · have hrest : (∃ pool' ∈ pool :: rest, pool'.2.1 = id) ↔ ∃ pool' ∈ rest, pool'.2.1 = id := by
        simp only [List.mem_cons, exists_eq_or_imp, hid, false_or]
      simp only [rebuildStep, Std.ExtTreeMap.getElem?_insert, Std.LawfulEqCmp.compare_eq_iff_eq,
        hid, if_false, hrest]

/-- **Rebuilding repairs.** Whatever the old indexes were, the rebuilt ones are consistent, as long
as no id is stored under two kinds. -/
theorem rebuildIndexes_consistent {s : PublishedStateStore Sim}
    (hunique : ∀ id k k' e e', s.storedIn k id = some e → s.storedIn k' id = some e' → k = k') :
    (rebuildIndexes s).IndexConsistent := by
  rw [rebuildIndexes_eq_foldl]
  have hstored : ∀ kind id, (s.pools.foldl rebuildStep
      { s with idToKind := ∅, tokenIndex := ∅ }).storedIn kind id = s.storedIn kind id := by
    intro kind id
    simp only [PublishedStateStore.storedIn, foldl_rebuildStep_shards]
  -- no id is in two shards, so the last iteration for an id writes what the first one wrote
  have hkind : ∀ {kind id entry}, s.storedIn kind id = some entry →
      (s.pools.foldl rebuildStep { s with idToKind := ∅, tokenIndex := ∅ }).idToKind[id]? =
        some kind := by
    intro kind id entry h
    rw [foldl_rebuildStep_idToKind kind]
    · rw [if_pos ⟨(kind, id, entry), mem_pools.mpr h, rfl⟩]
    · rintro ⟨k, i, e⟩ hmem rfl
      exact hunique i k kind e entry (mem_pools.mp hmem) h
  refine ⟨fun id kind => ?_, fun id token => ?_⟩
  · rw [hstored, Option.isSome_iff_exists]
    constructor
    · rintro ⟨entry, h⟩
      exact hkind h
    · intro h
      by_cases hex : ∃ pool ∈ s.pools, pool.2.1 = id
      · obtain ⟨⟨k, i, e⟩, hmem, rfl⟩ := hex
        have hstore := mem_pools.mp hmem
        have hk := (hkind hstore).symm.trans h
        rw [Option.some.injEq] at hk
        exact ⟨e, hk ▸ hstore⟩
      · rw [foldl_rebuildStep_idToKind kind fun pool hmem hid =>
          absurd ⟨pool, hmem, hid⟩ hex, if_neg hex] at h
        simp at h
  · simp only [hstored, foldl_rebuildStep_indexed]
    have hempty : ¬ PublishedStateStore.Indexed
        { s with idToKind := ∅, tokenIndex := ∅ } token id := by
      simp [PublishedStateStore.Indexed]
    simp only [hempty, false_or]
    constructor
    · rintro ⟨⟨kind, i, entry⟩, hmem, rfl, htoken⟩
      exact ⟨kind, entry, mem_pools.mp hmem, htoken⟩
    · rintro ⟨kind, entry, hstore, htoken⟩
      exact ⟨(kind, id, entry), mem_pools.mpr hstore, rfl, htoken⟩

/-! ## The other operations

Resetting protocols empties their shards and rebuilds; the rest moves versions and flags. -/

/-- The shards of the given protocols are emptied. -/
theorem getElem?_foldl_clearShard (protocols : List ProtocolKind)
    (shards : FinMap ProtocolKind (FinMap String (PoolEntry Sim))) (kind : ProtocolKind) :
    (protocols.foldl clearShard shards)[kind]? =
      if kind ∈ protocols then shards[kind]?.map fun _ => ∅ else shards[kind]? := by
  induction protocols generalizing shards with
  | nil => simp
  | cons k rest ih =>
    have hclear : (clearShard shards k)[kind]? =
        if kind = k then shards[kind]?.map fun _ => ∅ else shards[kind]? := by
      unfold clearShard
      by_cases h : kind = k
      · subst h
        rcases hshard : shards[kind]? with _ | shard <;> simp [hshard]
      · have h' : ¬ k = kind := fun heq => h heq.symm
        rcases shards[k]? with _ | shard <;> simp [h, h', Std.ExtTreeMap.getElem?_insert]
    rw [List.foldl_cons, ih, hclear]
    by_cases h : kind = k
    · rcases shards[kind]? with _ | shard <;> simp [h]
    · simp [h]

/-- Clearing shards only takes pools away. -/
theorem storedIn_clearShards {s : PublishedStateStore Sim} {protocols : List ProtocolKind}
    {kind : ProtocolKind} {id : String} {entry : PoolEntry Sim}
    (h : PublishedStateStore.storedIn
      { s with shards := protocols.foldl clearShard s.shards } kind id = some entry) :
    s.storedIn kind id = some entry := by
  simp only [PublishedStateStore.storedIn, getElem?_foldl_clearShard] at h ⊢
  split at h
  · rcases hshard : s.shards[kind]? with _ | shard <;> simp [hshard] at h
  · exact h

/-- On consistent indexes an id is stored under one protocol. -/
theorem IndexConsistent.unique {s : PublishedStateStore Sim} (hs : s.IndexConsistent)
    {id : String} {k k' : ProtocolKind} {e e' : PoolEntry Sim}
    (h : s.storedIn k id = some e) (h' : s.storedIn k' id = some e') : k = k' := by
  have hk := (hs.kind_iff id k).mp (by rw [h]; rfl)
  have hk' := (hs.kind_iff id k').mp (by rw [h']; rfl)
  rw [hk] at hk'
  exact Option.some.inj hk'

/-- An empty store has a shard for each protocol. -/
theorem empty_shards (tokens : FinMap Bytes Token) (wrapped : Option Bytes) (kind : ProtocolKind) :
    (PublishedStateStore.empty tokens wrapped : PublishedStateStore Sim).shards[kind]? =
      some ∅ := by
  simp only [PublishedStateStore.empty, ProtocolKind.all, List.foldl_cons, List.foldl_nil,
    Std.ExtTreeMap.getElem?_insert]
  cases kind <;> simp

/-- What every reachable store keeps: a shard for every kind, and consistent indexes. -/
structure PublishedStateStore.Sound (s : PublishedStateStore Sim) : Prop where
  shards : s.ShardsComplete
  indexes : s.IndexConsistent

theorem sound_empty (tokens : FinMap Bytes Token) (wrapped : Option Bytes) :
    (PublishedStateStore.empty tokens wrapped : PublishedStateStore Sim).Sound := by
  have hstored : ∀ kind id, (PublishedStateStore.empty tokens wrapped :
      PublishedStateStore Sim).storedIn kind id = none := by
    intro kind id
    simp [PublishedStateStore.storedIn, empty_shards]
  refine ⟨fun kind => by rw [empty_shards]; rfl, fun id kind => ?_, fun id token => ?_⟩
  · rw [hstored]
    simp [PublishedStateStore.empty]
  · simp only [hstored]
    simp [PublishedStateStore.Indexed, PublishedStateStore.empty]

/-- Soundness is about the shards and the indexes only, so the flags, versions and tokens of a
publication do not matter. -/
theorem PublishedStateStore.Sound.of_same {s s' : PublishedStateStore Sim} (hs : s.Sound)
    (hshards : s'.shards = s.shards) (hkind : s'.idToKind = s.idToKind)
    (hindex : s'.tokenIndex = s.tokenIndex) : s'.Sound := by
  refine ⟨fun kind => ?_, fun id kind => ?_, fun id token => ?_⟩
  · rw [hshards]
    exact hs.shards kind
  · simp only [storedIn, hshards, hkind]
    exact hs.indexes.kind_iff id kind
  · simp only [Indexed, storedIn, hshards, hindex]
    exact hs.indexes.indexed_iff id token

theorem sound_resetProtocols {s : PublishedStateStore Sim} (hs : s.Sound)
    (protocols : List ProtocolKind) : (resetProtocols s protocols).Sound := by
  unfold resetProtocols
  split
  · exact hs
  · split
    · exact (sound_empty s.tokens s.wrappedNativeToken).of_same rfl rfl rfl
    · split
      · have hrebuilt : (rebuildIndexes
            { s with shards := protocols.foldl clearShard s.shards }).IndexConsistent :=
          rebuildIndexes_consistent fun id k k' e e' h h' =>
            IndexConsistent.unique hs.indexes (storedIn_clearShards h) (storedIn_clearShards h')
        refine PublishedStateStore.Sound.of_same ⟨fun kind => ?_, hrebuilt⟩ rfl rfl rfl
        rw [rebuildIndexes_eq_foldl, foldl_rebuildStep_shards, getElem?_foldl_clearShard]
        have hkind := hs.shards kind
        split
        · simpa using hkind
        · exact hkind
      · exact hs

/-- A run of the three loops keeps every shard. -/
theorem shardsComplete_runUpdate {s : PublishedStateStore Sim} (hs : s.ShardsComplete)
    (update : Update Sim) : (runUpdate s update).published.ShardsComplete := by
  refine (shardsComplete_iff_view "").mpr fun kind => ?_
  have hkind := (shardsComplete_iff_view "").mp hs kind
  rw [runUpdate_view hs]
  have hannounce : ∀ (v : PoolView) (k : ProtocolKind) (c : ProtocolComponent),
      (v.entry kind).isSome → ((v.announce k c).entry kind).isSome := by
    intro v k c h
    simp only [PoolView.announce]
    split
    · rfl
    · exact h
  have hremove : ∀ (v : PoolView) (c : ProtocolComponent),
      (v.entry kind).isSome → ((v.remove c).entry kind).isSome := by
    intro v c h
    simp only [PoolView.remove]
    split
    · simpa using h
    · exact h
  unfold PoolView.afterUpdate
  rcases update.announced "" with _ | ⟨k, c⟩ <;> rcases update.removedPairs[""]? with _ | gone
  · exact hkind
  · exact hremove _ _ hkind
  · exact hannounce _ _ _ hkind
  · exact hremove _ _ (hannounce _ _ _ hkind)

theorem shardsComplete_applyUpdateLocked {s : PublishedStateStore Sim} (hs : s.ShardsComplete)
    (update : Update Sim) (version : UInt64) :
    (applyUpdateLocked s update version).1.ShardsComplete := by
  let start := { s with version := version, blockNumber := update.blockNumberOrTimestamp }
  have hstart : start.ShardsComplete := hs
  exact shardsComplete_runUpdate hstart update

/-- **One update of the store.** It stays sound exactly when the update respects it. -/
theorem sound_applyUpdateLocked_iff {s : PublishedStateStore Sim} (hs : s.Sound)
    (update : Update Sim) (version : UInt64) :
    (applyUpdateLocked s update version).1.Sound ↔ RespectsStore s update := by
  let start := { s with version := version, blockNumber := update.blockNumberOrTimestamp }
  have hstart : start.Sound := hs.of_same rfl rfl rfl
  have hiff : (runUpdate start update).published.IndexConsistent ↔ RespectsStore s update :=
    runUpdate_consistent_iff hstart.shards hstart.indexes update
  rw [← hiff]
  constructor
  · intro h
    have hrun : (runUpdate start update).published.Sound := h.of_same rfl rfl rfl
    exact hrun.indexes
  · intro h
    have hrun : (runUpdate start update).published.Sound :=
      ⟨shardsComplete_runUpdate hstart.shards update, h⟩
    exact hrun.of_same rfl rfl rfl

/-! ## Matching pools

A pair of tokens is answered from the index, by intersecting two sets, and the ids are then looked
up. On consistent indexes nothing is missed and nothing is there twice. -/

/-- In a consistent store, looking an id up finds the pool that is stored. -/
theorem poolById_eq_some {s : PublishedStateStore Sim} (hs : s.IndexConsistent) {id : String}
    {entry : PoolEntry Sim} : poolById s id = some entry ↔ s.Stores id entry := by
  have hlookup : poolById s id = s.idToKind[id]?.bind fun kind => s.storedIn kind id := rfl
  rw [hlookup, Option.bind_eq_some_iff]
  constructor
  · rintro ⟨kind, -, h⟩
    exact ⟨kind, h⟩
  · rintro ⟨kind, h⟩
    exact ⟨kind, (hs.kind_iff id kind).mp (by rw [h]; rfl), h⟩

theorem mem_intersectPoolIds {left right : FinSet String} {id : String} :
    id ∈ intersectPoolIds left right ↔ id ∈ left ∧ id ∈ right := by
  unfold intersectPoolIds
  split
  · simp [List.mem_filter, Std.ExtTreeSet.mem_toList, Std.ExtTreeSet.contains_iff_mem]
  · simp [List.mem_filter, Std.ExtTreeSet.mem_toList, Std.ExtTreeSet.contains_iff_mem, and_comm]

theorem nodup_toList (ids : FinSet String) : ids.toList.Nodup := by
  refine Std.ExtTreeSet.distinct_toList.imp fun h heq => h ?_
  rw [heq]
  exact Std.ReflCmp.compare_self

theorem nodup_intersectPoolIds (left right : FinSet String) :
    (intersectPoolIds left right).Nodup := by
  unfold intersectPoolIds
  split
  · exact (nodup_toList left).filter _
  · exact (nodup_toList right).filter _

/-- The entries for some ids are those of the ids that are stored. -/
theorem mem_poolEntriesForIds_iff {s : PublishedStateStore Sim} {ids : List String}
    {pool : String × PoolEntry Sim} :
    pool ∈ poolEntriesForIds s ids ↔ pool.1 ∈ ids ∧ poolById s pool.1 = some pool.2 := by
  simp only [poolEntriesForIds, List.mem_filterMap, Option.map_eq_some_iff]
  refine ⟨?_, fun ⟨hid, hpool⟩ => ⟨_, hid, _, hpool, rfl⟩⟩
  rintro ⟨id, hid, entry, hentry, rfl⟩
  exact ⟨hid, hentry⟩

theorem mem_poolEntriesForIds {s : PublishedStateStore Sim} (hs : s.IndexConsistent)
    {ids : List String} {id : String} {entry : PoolEntry Sim} :
    (id, entry) ∈ poolEntriesForIds s ids ↔ id ∈ ids ∧ s.Stores id entry := by
  rw [mem_poolEntriesForIds_iff, poolById_eq_some hs]

/-- The ids of the entries are among the ids looked up, in their order. -/
theorem map_fst_poolEntriesForIds_sublist (s : PublishedStateStore Sim) (ids : List String) :
    ((poolEntriesForIds s ids).map Prod.fst).Sublist ids := by
  unfold poolEntriesForIds
  induction ids with
  | nil => simp
  | cons id rest ih =>
    rw [List.filterMap_cons]
    rcases poolById s id with _ | entry
    · exact ih.cons id
    · exact ih.cons_cons id

/-- **Exact matching.** Consistent indexes make the lookup by token pair exact. -/
theorem matchingExact_of_consistent {s : PublishedStateStore Sim} (hs : s.IndexConsistent) :
    s.MatchingExact := by
  rintro tokenIn tokenOut ⟨id₀, entry₀, ⟨kind₀, hstore₀⟩, hin₀, hout₀⟩
  have hindexed : ∀ {id token} {entry : PoolEntry Sim}, s.Stores id entry →
      (s.Indexed token id ↔ token ∈ entry.component.addresses) := by
    rintro id token entry ⟨kind, hstore⟩
    rw [hs.indexed_iff]
    constructor
    · rintro ⟨kind', entry', hstore', hmem⟩
      obtain rfl := IndexConsistent.unique hs hstore hstore'
      rw [hstore, Option.some.injEq] at hstore'
      rwa [hstore']
    · intro hmem
      exact ⟨kind, entry, hstore, hmem⟩
  have hset : ∀ {token}, s.Indexed token id₀ → ∃ ids, s.tokenIndex[token]? = some ids := by
    intro token h
    unfold PublishedStateStore.Indexed at h
    rcases hids : s.tokenIndex[token]? with _ | ids
    · simp [hids] at h
    · exact ⟨ids, rfl⟩
  have hin := (hindexed ⟨kind₀, hstore₀⟩).mpr hin₀
  have hout := (hindexed ⟨kind₀, hstore₀⟩).mpr hout₀
  obtain ⟨inIds, hinIds⟩ := hset hin
  obtain ⟨outIds, houtIds⟩ := hset hout
  have hmem : ∀ {id entry}, (id, entry) ∈ poolEntriesForIds s (intersectPoolIds inIds outIds) ↔
      s.Stores id entry ∧ tokenIn ∈ entry.component.addresses ∧
        tokenOut ∈ entry.component.addresses := by
    intro id entry
    rw [mem_poolEntriesForIds hs, mem_intersectPoolIds, and_comm]
    refine and_congr_right fun hstore => ?_
    rw [← hindexed hstore, ← hindexed hstore, PublishedStateStore.Indexed, hinIds,
      PublishedStateStore.Indexed, houtIds]
    rfl
  -- the exact branch is not empty, so the lookup returns it
  have hexact : matchingPools s tokenIn tokenOut =
      poolEntriesForIds s (intersectPoolIds inIds outIds) := by
    have hne : (poolEntriesForIds s (intersectPoolIds inIds outIds)).isEmpty = false := by
      have h₀ := hmem.mpr ⟨⟨kind₀, hstore₀⟩, hin₀, hout₀⟩
      rw [List.isEmpty_eq_false_iff]
      exact List.ne_nil_of_mem h₀
    simp only [matchingPools, hinIds, houtIds, hne, Bool.false_eq_true, if_false]
  rw [hexact]
  refine ⟨(map_fst_poolEntriesForIds_sublist s _).nodup (nodup_intersectPoolIds inIds outIds), ?_⟩
  exact fun id entry => hmem

/-! ## What the lookup by pair reads

Without any assumption on the indexes: the pools are those the index lists under both tokens, or
under their stand-ins. -/

/-- The tokens that the index is asked for instead of a token: itself, and the native token and its
wrapped form for each other. -/
def PublishedStateStore.standIns (s : PublishedStateStore Sim) (token : Bytes) : List Bytes :=
  token :: (if s.wrappedNativeToken = some token then [nativeTokenAddress] else []) ++
    if token = nativeTokenAddress then s.wrappedNativeToken.toList else []

/-- The index lists an id for a pair: under both tokens, or, when it lists no pool so, under stand-ins
of both. -/
def PublishedStateStore.PairIndexed (s : PublishedStateStore Sim) (tokenIn tokenOut : Bytes)
    (id : String) : Prop :=
  s.Indexed tokenIn id ∧ s.Indexed tokenOut id ∨
    (¬∃ other, (poolById s other).isSome ∧ s.Indexed tokenIn other ∧ s.Indexed tokenOut other) ∧
      (∃ token ∈ s.standIns tokenIn, s.Indexed token id) ∧
      ∃ token ∈ s.standIns tokenOut, s.Indexed token id

theorem getD_of_nonEmpty (ids : FinSet String) :
    (if ids.isEmpty then none else some ids).getD ∅ = ids := by
  split
  · rename_i hempty
    exact (Std.ExtTreeSet.isEmpty_iff.mp hempty).symm
  · rfl

/-- The ids of a token are those of its stand-ins. -/
theorem mem_idsForToken {s : PublishedStateStore Sim} {token : Bytes} {id : String} :
    id ∈ (idsForToken s token).getD ∅ ↔ ∃ other ∈ s.standIns token, s.Indexed other id := by
  rw [idsForToken, getD_of_nonEmpty]
  simp only [PublishedStateStore.standIns, PublishedStateStore.Indexed, List.cons_append,
    List.mem_cons, List.mem_append, or_and_right, exists_or]
  by_cases hwrapped : s.wrappedNativeToken = some token
  · by_cases hnative : token = nativeTokenAddress
    · simp [hwrapped, hnative, Std.ExtTreeSet.mem_union_iff]
    · simp [hwrapped, hnative, Std.ExtTreeSet.mem_union_iff]
  · by_cases hnative : token = nativeTokenAddress
    · cases hnone : s.wrappedNativeToken with
      | none => simp [hnative]
      | some wrapped =>
        have hne : wrapped ≠ nativeTokenAddress := fun heq => hwrapped (by rw [hnone, heq, hnative])
        simp [hnative, hne, Std.ExtTreeSet.mem_union_iff]
    · simp [hwrapped, hnative]

theorem mem_exactPools {s : PublishedStateStore Sim} {tokenIn tokenOut : Bytes}
    {pool : String × PoolEntry Sim} :
    (pool ∈ match s.tokenIndex[tokenIn]?, s.tokenIndex[tokenOut]? with
      | some inIds, some outIds => poolEntriesForIds s (intersectPoolIds inIds outIds)
      | _, _ => []) ↔
      poolById s pool.1 = some pool.2 ∧ s.Indexed tokenIn pool.1 ∧ s.Indexed tokenOut pool.1 := by
  rw [PublishedStateStore.Indexed, PublishedStateStore.Indexed]
  cases s.tokenIndex[tokenIn]? <;> cases s.tokenIndex[tokenOut]? <;>
    simp [mem_poolEntriesForIds_iff, mem_intersectPoolIds, and_comm]

theorem mem_standInPools {s : PublishedStateStore Sim} {tokenIn tokenOut : Bytes}
    {pool : String × PoolEntry Sim} :
    (pool ∈ match idsForToken s tokenIn, idsForToken s tokenOut with
      | some inIds, some outIds => poolEntriesForIds s (intersectPoolIds inIds outIds)
      | _, _ => []) ↔
      poolById s pool.1 = some pool.2 ∧ (∃ token ∈ s.standIns tokenIn, s.Indexed token pool.1) ∧
        ∃ token ∈ s.standIns tokenOut, s.Indexed token pool.1 := by
  rw [← mem_idsForToken, ← mem_idsForToken]
  cases idsForToken s tokenIn <;> cases idsForToken s tokenOut <;>
    simp [mem_poolEntriesForIds_iff, mem_intersectPoolIds, and_comm]

/-- **The lookup by pair**, for every store: the pools whose ids are listed for the pair. -/
theorem mem_matchingPools {s : PublishedStateStore Sim} {tokenIn tokenOut : Bytes}
    {pool : String × PoolEntry Sim} :
    pool ∈ matchingPools s tokenIn tokenOut ↔
      poolById s pool.1 = some pool.2 ∧ s.PairIndexed tokenIn tokenOut pool.1 := by
  have hchoice : ∀ exact standIn : List (String × PoolEntry Sim),
      (∀ p, p ∈ exact ↔ poolById s p.1 = some p.2 ∧ s.Indexed tokenIn p.1 ∧
        s.Indexed tokenOut p.1) →
      (∀ p, p ∈ standIn ↔ poolById s p.1 = some p.2 ∧
        (∃ token ∈ s.standIns tokenIn, s.Indexed token p.1) ∧
          ∃ token ∈ s.standIns tokenOut, s.Indexed token p.1) →
      (pool ∈ (if exact.isEmpty then standIn else exact) ↔
        poolById s pool.1 = some pool.2 ∧ s.PairIndexed tokenIn tokenOut pool.1) := by
    intro exact standIn hexact hstandIn
    rw [PublishedStateStore.PairIndexed]
    split
    · -- the exact lookup found nothing, so the stand-ins of both tokens are tried
      rename_i hempty
      rw [List.isEmpty_iff] at hempty
      have hnone : ¬∃ other, (poolById s other).isSome ∧ s.Indexed tokenIn other ∧
          s.Indexed tokenOut other := by
        rintro ⟨other, hsome, hindexed⟩
        obtain ⟨entry, hentry⟩ := Option.isSome_iff_exists.mp hsome
        have hmem := (hexact (other, entry)).mpr ⟨hentry, hindexed⟩
        rw [hempty] at hmem
        cases hmem
      rw [hstandIn]
      refine and_congr_right fun hpool => ⟨fun hstand => .inr ⟨hnone, hstand⟩, fun h => ?_⟩
      obtain hboth | ⟨-, hstand⟩ := h
      · exact absurd ⟨pool.1, by rw [hpool]; rfl, hboth⟩ hnone
      · exact hstand
    · -- the exact lookup found a pool, so the stand-ins are not looked at
      rename_i hnonempty
      rw [List.isEmpty_iff] at hnonempty
      rw [hexact]
      refine and_congr_right fun _ => ⟨.inl, fun h => ?_⟩
      obtain hboth | ⟨hnone, -⟩ := h
      · exact hboth
      · obtain ⟨other, hother⟩ := List.exists_mem_of_ne_nil _ hnonempty
        obtain ⟨hpool, hindexed⟩ := (hexact other).mp hother
        exact absurd ⟨other.1, by rw [hpool]; rfl, hindexed⟩ hnone
  exact hchoice _ _ (fun _ => mem_exactPools) (fun _ => mem_standInPools)

/-! ## Runs

The states a store reaches from an empty one by the operations the program has. -/

/-- The states a store can reach by operations whose updates all meet `good`. A candidate is a
state that some store reached in the same way. -/
inductive StoreReachable (good : PublishedStateStore Sim → Update Sim → Prop) :
    PublishedStateStore Sim → Prop where
  | new (tokens : FinMap Bytes Token) (wrapped : Option Bytes) :
      StoreReachable good (.empty tokens wrapped)
  | applyUpdate {s : PublishedStateStore Sim} (update : Update Sim) :
      StoreReachable good s → good s update → StoreReachable good (applyUpdate s update).1
  | applyUpdateAtVersion {s : PublishedStateStore Sim} (update : Update Sim) (version : UInt64) :
      StoreReachable good s → (s.version < version → good s update) →
        StoreReachable good (exec (applyUpdateAtVersion update version) s).2
  | publishCandidate {s candidate : PublishedStateStore Sim} (version : UInt64) :
      StoreReachable good s → StoreReachable good candidate →
        StoreReachable good (exec (publishCandidate candidate version) s).2
  | reset {s : PublishedStateStore Sim} : StoreReachable good s → StoreReachable good (reset s)
  | resetProtocols {s : PublishedStateStore Sim} (protocols : List ProtocolKind) :
      StoreReachable good s → StoreReachable good (resetProtocols s protocols)
  | fenceRequests {s : PublishedStateStore Sim} :
      StoreReachable good s → StoreReachable good (fenceRequests s)
  | alignBootstrapStateVersion {s : PublishedStateStore Sim} (version : UInt64) :
      StoreReachable good s → StoreReachable good (alignBootstrapStateVersion s version)

/-- An update at a version is applied when the store is older. -/
theorem exec_applyUpdateAtVersion (s : PublishedStateStore Sim) (update : Update Sim)
    (version : UInt64) :
    (exec (applyUpdateAtVersion update version) s).2 =
      if s.version < version then (applyUpdateLocked s update version).1 else s := by
  unfold applyUpdateAtVersion ensure
  rw [exec_get_bind]
  by_cases h : s.version < version
  · rw [if_pos h, if_pos h]
    rfl
  · rw [if_neg h, if_neg h]
    rfl

/-- A candidate is published when the store is older. -/
theorem exec_publishCandidate (s candidate : PublishedStateStore Sim) (version : UInt64) :
    (exec (publishCandidate candidate version) s).2 =
      if s.version < version then
        publish s { candidate with version := version, requestsAllowed := candidate.ready }
      else s := by
  unfold publishCandidate ensure
  rw [exec_get_bind]
  by_cases h : s.version < version
  · rw [if_pos h, if_pos h]
    rfl
  · rw [if_neg h, if_neg h]
    rfl

/-- Along a run whose updates respect the store, every state is sound. -/
theorem sound_of_reachable {s : PublishedStateStore Sim} (h : StoreReachable RespectsStore s) :
    s.Sound := by
  induction h with
  | new tokens wrapped => exact sound_empty tokens wrapped
  | applyUpdate update _ hgood ih => exact (sound_applyUpdateLocked_iff ih update _).mpr hgood
  | applyUpdateAtVersion update version _ hgood ih =>
    rw [exec_applyUpdateAtVersion]
    split
    case isTrue hlt => exact (sound_applyUpdateLocked_iff ih update version).mpr (hgood hlt)
    case isFalse => exact ih
  | publishCandidate version _ _ ih ihc =>
    rw [exec_publishCandidate]
    split
    · exact ihc.of_same rfl rfl rfl
    · exact ih
  | @reset s _ ih =>
    exact (sound_empty s.tokens s.wrappedNativeToken).of_same rfl rfl rfl
  | resetProtocols protocols _ ih => exact sound_resetProtocols ih protocols
  | fenceRequests _ ih => exact ih.of_same rfl rfl rfl
  | alignBootstrapStateVersion version _ ih => exact ih.of_same rfl rfl rfl

/-- **The indexes along every run.** In every run whose updates all respect the store, every state
reached has consistent indexes and exact matching; and from such a state an update that does not
respect the store breaks the indexes. -/
theorem stateStore_indexes_consistent :
    (∀ s : PublishedStateStore Sim, StoreReachable RespectsStore s →
      s.IndexConsistent ∧ s.MatchingExact) ∧
    ∀ (s : PublishedStateStore Sim) (update : Update Sim), StoreReachable RespectsStore s →
      ((applyUpdate s update).1.IndexConsistent ↔ RespectsStore s update) := by
  refine ⟨fun s h => ?_, fun s update h => ?_⟩
  · have hs := sound_of_reachable h
    exact ⟨hs.indexes, matchingExact_of_consistent hs.indexes⟩
  · have hs := sound_of_reachable h
    have hiff := sound_applyUpdateLocked_iff hs update (saturatingSucc s.version)
    refine ⟨fun hc => hiff.mp ⟨?_, hc⟩, fun hgood => (hiff.mpr hgood).indexes⟩
    exact shardsComplete_applyUpdateLocked hs.shards update _

/-- A pool of one token. -/
def soloPool (token : UInt8) : ProtocolComponent :=
  { id := [], protocolSystem := "uniswap_v2", protocolTypeName := "", tokens := [⟨[token]⟩] }

/-- Announce the pool `"pool"` with one token. -/
def announceSolo (token : UInt8) : Update Unit :=
  { blockNumberOrTimestamp := 1
    newPairs := .ofList [("pool", soloPool token)]
    states := .ofList [("pool", ())]
    removedPairs := ∅ }

/-- The pool with a second token. -/
def duoPool : ProtocolComponent :=
  { id := [], protocolSystem := "uniswap_v2", protocolTypeName := "", tokens := [⟨[1]⟩, ⟨[2]⟩] }

/-- Announce the pool again, with its second token. -/
def announceDuo : Update Unit :=
  { blockNumberOrTimestamp := 2
    newPairs := .ofList [("pool", duoPool)]
    states := .ofList [("pool", ())]
    removedPairs := ∅ }

/-- Remove the pool. -/
def removeDuo : Update Unit :=
  { blockNumberOrTimestamp := 3, newPairs := ∅, states := ∅
    removedPairs := .ofList [("pool", duoPool)] }

/-- What an update says of one pool is all there is to respect. -/
theorem respectsStore_of_single {s : PublishedStateStore Sim} {update : Update Sim} (pool : String)
    (hother : ∀ id, id ≠ pool → update.newPairs[id]? = none ∧ update.removedPairs[id]? = none)
    (hpool : (∀ old ∈ s.known pool, ∀ new ∈ update.announced pool, old.1 = new.1 ∧
        (update.removedPairs[pool]? = none → old.2.addresses ⊆ new.2.addresses)) ∧
      ∀ gone ∈ update.removedPairs[pool]?,
        (∀ old ∈ s.known pool, old.2.addresses ⊆ gone.addresses) ∧
        ∀ new ∈ update.announced pool, new.2.addresses ⊆ gone.addresses) :
    RespectsStore s update := by
  intro id
  by_cases hid : id = pool
  · subst hid
    exact hpool
  · obtain ⟨hnew, hgone⟩ := hother id hid
    have hannounced : update.announced id = none := by
      rw [Update.announced, hnew]
      rfl
    rw [hannounced, hgone]
    exact ⟨by rintro _ _ _ ⟨⟩, by rintro _ ⟨⟩⟩

/-- A pool is announced, announced again with a token more, and removed. -/
theorem stateStore_indexes_consistent_readded :
    let announced := (applyUpdate (.empty ∅ none) (announceSolo 1)).1
    let readded := (applyUpdate announced announceDuo).1
    let removed := (applyUpdate readded removeDuo).1
    (readded.IndexConsistent ∧ readded.known "pool" = some (.uniswapV2, duoPool)) ∧
      removed.IndexConsistent ∧ removed.MatchingExact ∧ removed.known "pool" = none := by
  intro announced readded removed
  have hother : ∀ (component : ProtocolComponent) (id : String), id ≠ "pool" →
      (Std.ExtTreeMap.ofList [("pool", component)])[id]? = none := by
    intro component id hid
    refine Std.ExtTreeMap.getElem?_ofList_of_contains_eq_false ?_
    simpa using hid
  have hknown : announced.known "pool" = some (.uniswapV2, soloPool 1) := by decide
  have hreadded : readded.known "pool" = some (.uniswapV2, duoPool) := by decide
  have hfirst : RespectsStore (.empty ∅ none) (announceSolo 1) :=
    respectsStore_of_single "pool" (fun id hid => ⟨hother _ id hid, rfl⟩) (by decide)
  have hsecond : RespectsStore announced announceDuo := by
    refine respectsStore_of_single "pool" (fun id hid => ⟨hother _ id hid, rfl⟩) ?_
    rw [hknown]
    decide
  have hthird : RespectsStore readded removeDuo := by
    refine respectsStore_of_single "pool" (fun id hid => ⟨rfl, hother _ id hid⟩) ?_
    rw [hreadded]
    decide
  have hreach := ((StoreReachable.new ∅ none).applyUpdate _ hfirst).applyUpdate _ hsecond
  have hremoved := stateStore_indexes_consistent.1 _ (hreach.applyUpdate _ hthird)
  exact ⟨⟨(stateStore_indexes_consistent.1 _ hreach).1, hreadded⟩, hremoved.1, hremoved.2, by decide⟩

/-- Announcing a pool for the token `1` and then again for the token `2` leaves it indexed under
`1`, which its stored component does not list. -/
theorem stateStore_reannounce_stale :
    ¬ ∀ s : PublishedStateStore Unit, StoreReachable (fun _ _ => True) s →
      s.IndexConsistent ∧ s.MatchingExact := by
  intro h
  have hreach := (((StoreReachable.new ∅ none).applyUpdate (announceSolo 1) trivial).applyUpdate
    (announceSolo 2) trivial : StoreReachable (fun _ _ => True) _)
  obtain ⟨hconsistent, -⟩ := h _ hreach
  obtain ⟨kind, entry, hentry, htoken⟩ := (hconsistent.indexed_iff "pool" [1]).mp (by decide)
  have hkind := (hconsistent.kind_iff "pool" kind).mp (by rw [hentry]; rfl)
  have huniswap : kind = .uniswapV2 := by
    refine (Option.some.inj (hkind.symm.trans ?_))
    decide
  subst huniswap
  have hstored : entry = ⟨(), soloPool 2⟩ := by
    refine (Option.some.inj (hentry.symm.trans ?_))
    decide
  subst hstored
  revert htoken
  decide

end TychoSimulationServer
