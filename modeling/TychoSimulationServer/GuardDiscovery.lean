import TychoSimulationServer.RebuildGuards

/-!
# Where a route finds its pools

Which gates a request holds is decided by what the hints name and by the stores in which the checks
find the pools: the hints first, and after a find the hinted gates do not cover, the gate of the
last find and no other. So a run goes wrong in three ways, all of them a matter of the stores, the
hints and the components.

* A pool is found in a store the request has not asked for, while the rest of the route comes back
  to a pool that was loaded from the other store. The new guard forgets the old gate, and the pool
  cache still offers the pool.
* A pool is loaded from a store that was not asked for. The check found it elsewhere, or nowhere,
  and it has moved since.
* The request is dropped while a worker runs on a state of the VM or RFQ store whose component has
  another protocol. Whether the worker closure keeps a guard is decided by the protocol.

`Guarded` excludes the three. That the guard then covers what it has to is proved here: the first
guard covers what the hints name, an upgrade covers the store of the find, and in between the guard
stays.
-/

namespace TychoSimulationServer

namespace GuardedRoute

/-! ## What the stores and the hints ask for

A backend is asked for by a hint, or by a pool that a lookup found in its store. These are
conditions on the stores and on the request; the guard does not occur in them. -/

/-- The request has asked for the gate of the store: the pool found last in a VM or RFQ store was
in this one, or the hints name it and every pool so far was found in stores they name. -/
def Asked (s : GuardedRoute) (store : PoolBackend) : Prop :=
  s.found.head? = some store ∨
    s.usage.covers store = true ∧ ∀ other ∈ s.found, s.usage.covers other = true

/-- The pool of the current swap was this component when it was loaded from the store. -/
def LoadedNow (s : GuardedRoute) (component : ProtocolComponent) (store : PoolBackend) : Prop :=
  ∃ id, s.todo.head? = some id ∧ (id, component, store) ∈ s.loaded

/-- The condition on a step, of the stores, the hints and the components. When a check ends with a
pool in a VM or RFQ store that was not asked for, the pools the rest of the route comes back to
were not loaded from the other one. When a pool is loaded from the VM or RFQ store, that store was
asked for. When the request is dropped while its worker runs on a state of these stores, the
component is of a VM or RFQ protocol. -/
def Guarded (s : GuardedRoute) : RouteAction → Prop
  | .lookup ready => ready = true →
    (∀ store, s.stage = .requirements store .readiness → store ≠ .native → ¬s.Asked store →
      ∀ id component other, id ∈ s.todo → (id, component, other) ∈ s.loaded → other ≠ .native →
        other = store) ∧
    (∀ store id component, s.stage = .loading store .fetch → s.todo.head? = some id →
      s.stores store id = some component → store ≠ .native → s.Asked store)
  | .dropRequest => s.worker ≠ none → ∀ component store, s.LoadedNow component store →
      store ≠ .native → (PoolBackend.fromComponent component).usesRebuildGuard = true
  | _ => True

/-! ## The guard follows

The check of the requirements compares the guard in hand with what was found, and acquires what is
missing. So behind it the guard covers what is asked for. -/

/-- The guard the request has, or the one it waits for. -/
def guardDue (s : GuardedRoute) : Option SimulationRebuildGuard :=
  match s.stage with
  | .acquireVm needs | .acquireRfq needs => some needs
  | _ => s.rebuildGuard

/-- A guard holds the gates the request has asked for and those of the pools in the cache that the
rest of the route uses. -/
structure Meets (s : GuardedRoute) (guard : SimulationRebuildGuard) : Prop where
  asked : ∀ store, s.Asked store → guard.covers store = true
  cached : ∀ id ∈ s.todo, ∀ entry, s.poolCache id = some entry → entry.store ≠ .native →
    guard.covers entry.store = true

/-- The invariant that ties the guard to the stores and the hints. -/
structure Informed (s : GuardedRoute) : Prop where
  fresh : s.stage = .entering → s.found = [] ∧ ∀ id, s.poolCache id = none
  due : s.stage ≠ .entering → s.stage ≠ .finished → ∃ guard, s.guardDue = some guard ∧
    s.Meets guard
  /-- the cache has what was loaded, under the backend of its protocol -/
  loaded : ∀ id entry, s.poolCache id = some entry →
    (id, entry.component, entry.store) ∈ s.loaded ∧ entry.backend = .fromComponent entry.component
  /-- the worker of a request that waits has the request's guard if the protocol says so -/
  clone : ∀ worker, s.worker = some worker → s.stage = .simulating → ∃ component,
    s.LoadedNow component worker.store ∧
      worker.guard = if (PoolBackend.fromComponent component).usesRebuildGuard
        then s.rebuildGuard else none

variable {s next : GuardedRoute} {store : PoolBackend}

theorem informed_start (segments : List NormalizedSegment)
    (stores : PoolBackend → String → Option ProtocolComponent) (writer : PoolBackend → Bool)
    (otherReaders : PoolBackend → Nat) (nativePin : String → Option ProtocolComponent) :
    (start segments stores writer otherReaders nativePin).Informed where
  fresh _ := ⟨rfl, fun _ => rfl⟩
  due h := absurd rfl h
  loaded := by rintro - - ⟨⟩
  clone := by rintro - ⟨⟩

/-- Before the first find the request has asked for what the hints name. -/
theorem asked_iff_of_found_nil (h : s.found = []) :
    s.Asked store ↔ s.usage.covers store = true := by
  simp [Asked, h]

/-- What is asked for after a find: the store of the find, and if that one was asked for before,
what was asked for before. -/
theorem asked_of_noteFound {other : PoolBackend} {stage : RouteStage} (hstore : store ≠ .native)
    (h : ({ s.noteFound store with stage } : GuardedRoute).Asked other) :
    other = store ∨ s.Asked store ∧ s.Asked other := by
  have hfound : (s.noteFound store).found = store :: s.found := if_neg hstore
  change (s.noteFound store).found.head? = some other ∨
    s.usage.covers other = true ∧ ∀ b ∈ (s.noteFound store).found, s.usage.covers b = true at h
  rw [hfound, List.forall_mem_cons] at h
  obtain h | ⟨hother, hhere, hbefore⟩ := h
  · cases h
    exact .inl rfl
  · exact .inr ⟨.inr ⟨hhere, hbefore⟩, .inr ⟨hother, hbefore⟩⟩

/-- The gates a pool of a store needs. -/
theorem covers_needs (hstore : store ≠ .native) :
    ({ vm := decide (store = .vm), rfq := decide (store = .rfq) } :
      SimulationRebuildGuard).covers store = true := by
  cases store with
  | native => exact absurd rfl hstore
  | vm | rfq => rfl

/-- `blocks_required_rebuilds` of the gates a pool of a store needs. -/
theorem blocksRequiredRebuilds_needs (guard : SimulationRebuildGuard) (hstore : store ≠ .native) :
    guard.blocksRequiredRebuilds (decide (store = .vm)) (decide (store = .rfq)) =
      guard.covers store := by
  cases store with
  | native => exact absurd rfl hstore
  | vm | rfq => simp [SimulationRebuildGuard.blocksRequiredRebuilds, SimulationRebuildGuard.covers]

/-! ### One step -/

namespace Informed

/-- A request that returns leaves nothing to tie. -/
theorem finish (s : GuardedRoute) : s.finish.Informed where
  fresh := by rintro ⟨⟩
  due _ h := absurd rfl h
  loaded := by rintro - - ⟨⟩
  clone := by rintro - - ⟨⟩

/-- A guard in hand covers what was asked for. -/
theorem guard (hs : s.Informed) (hentering : s.stage ≠ .entering)
    (hfinished : s.stage ≠ .finished) (hvm : ∀ needs, s.stage ≠ .acquireVm needs)
    (hrfq : ∀ needs, s.stage ≠ .acquireRfq needs) :
    ∃ guard, s.rebuildGuard = some guard ∧ s.Meets guard := by
  obtain ⟨guard, hdue, hmeets⟩ := hs.due hentering hfinished
  refine ⟨guard, ?_, hmeets⟩
  rw [guardDue] at hdue
  split at hdue
  · exact absurd ‹_› (hvm _)
  · exact absurd ‹_› (hrfq _)
  · exact hdue

/-- A step that keeps the guard and the cache, and no stage of which waits for a guard. -/
theorem of_kept (hs : s.Informed) {guard : SimulationRebuildGuard}
    (hdue : next.guardDue = some guard) (hmeets : s.Meets guard)
    (hfound : next.found = s.found) (husage : next.usage = s.usage)
    (htodo : ∀ id ∈ next.todo, id ∈ s.todo) (hcache : next.poolCache = s.poolCache)
    (hloaded : next.loaded = s.loaded) (hentering : next.stage ≠ .entering)
    (hclone : next.stage ≠ .simulating ∨ next.worker = none) : next.Informed where
  fresh h := absurd h hentering
  due _ _ := by
    refine ⟨guard, hdue, fun store h => hmeets.asked store ?_, fun id hid entry hentry => ?_⟩
    · rwa [Asked, hfound, husage] at h
    · exact hmeets.cached id (htodo id hid) entry (hcache ▸ hentry)
  loaded id entry h := by
    rw [hloaded]
    exact hs.loaded id entry (hcache ▸ h)
  clone worker hworker hsim := by
    obtain h | h := hclone
    · exact absurd hsim h
    · cases h.symm.trans hworker

/-- The pool of the current swap is loaded from a store that was asked for. -/
theorem cachePool (hs : s.Informed) {guard : SimulationRebuildGuard}
    (hguard : s.rebuildGuard = some guard) (hmeets : s.Meets guard) {id : String}
    {component : ProtocolComponent} (hasked : store ≠ .native → s.Asked store) :
    (s.cachePool id component store).Informed where
  fresh := by rintro ⟨⟩
  due _ _ := by
    refine ⟨guard, hguard, hmeets.asked, fun other hother entry hentry hstore => ?_⟩
    have hentry : Function.update s.poolCache id _ other = some entry := hentry
    by_cases heq : other = id
    · subst heq
      rw [Function.update_self] at hentry
      cases hentry
      exact hmeets.asked store (hasked hstore)
    · rw [Function.update_of_ne heq] at hentry
      exact hmeets.cached other hother entry hentry hstore
  loaded other entry hentry := by
    have hentry : Function.update s.poolCache id _ other = some entry := hentry
    by_cases heq : other = id
    · subst heq
      rw [Function.update_self] at hentry
      cases hentry
      exact ⟨List.mem_cons_self, rfl⟩
    · rw [Function.update_of_ne heq] at hentry
      exact (hs.loaded other entry hentry).imp_left (List.mem_cons_of_mem _)
  clone := by rintro - - ⟨⟩

/-- **The end of a check.** Either the guard covers the store of the find, or it is replaced by
one that does. -/
theorem checkRequirements_readiness (hs : s.Informed) {id : String} {ready : Bool}
    (hstage : s.stage = .requirements store .readiness)
    (hguarded : s.Guarded (.lookup ready))
    (h : s.checkRequirements ready id store .readiness = some next) : next.Informed := by
  obtain ⟨guard, hguard, hmeets⟩ := hs.guard (by rw [hstage]; simp) (by rw [hstage]; simp)
    (by rw [hstage]; simp) (by rw [hstage]; simp)
  by_cases hnative : store = .native
  · -- a native pool needs no gate and is no find
    subst hnative
    cases ready with
    | false =>
      cases h
      exact finish s
    | true =>
      cases h
      exact hs.of_kept hguard hmeets rfl rfl (fun _ h => h) rfl rfl (by simp) (.inl (by simp))
  have hneeds : (decide (store = .vm) || decide (store = .rfq)) = true := by
    cases store with
    | native => exact absurd rfl hnative
    | vm | rfq => rfl
  simp only [checkRequirements, hguard, Option.any_some, blocksRequiredRebuilds_needs guard hnative,
    hneeds, Bool.true_and] at h
  split at h
  · rename_i hready
    split at h
    · -- the upgrade: the find was not asked for, so no other gate is needed any more
      rename_i hcovers
      have hcovers : guard.covers store = false := by simpa using hcovers
      have hasked : ¬s.Asked store := fun hasked => by
        rw [hmeets.asked store hasked] at hcovers
        cases hcovers
      cases h
      refine ⟨(by rintro ⟨⟩), fun _ _ => ⟨_, rfl, fun other hother => ?_,
        fun other hother entry hentry hstore => ?_⟩, hs.loaded, (by rintro - - ⟨⟩)⟩
      · obtain rfl | ⟨hbefore, -⟩ := asked_of_noteFound hnative hother
        · exact covers_needs hnative
        · exact absurd hbefore hasked
      · have hsame : entry.store = store := (hguarded hready).1 store hstage hnative hasked other
          entry.component entry.store hother (hs.loaded other entry hentry).1 hstore
        rw [hsame]
        exact covers_needs hnative
    · rename_i hcovers
      have hcovers : guard.covers store = true := by simpa using hcovers
      cases h
      refine ⟨(by rintro ⟨⟩), fun _ _ => ⟨guard, hguard, fun other hother => ?_,
        hmeets.cached⟩, hs.loaded, (by rintro - - ⟨⟩)⟩
      obtain rfl | ⟨-, hbefore⟩ := asked_of_noteFound hnative hother
      · exact hcovers
      · exact hmeets.asked other hbefore
  · cases h
    exact finish s

/-- A pool is looked up, and loaded if its store may be read. -/
theorem lookup (hs : s.Informed) {ready : Bool} (hguarded : s.Guarded (.lookup ready))
    (h : s.perform (.lookup ready) = some next) : next.Informed := by
  simp only [perform] at h
  split at h
  · rename_i store phase id rest hstage htodo
    obtain ⟨guard, hguard, hmeets⟩ := hs.guard (by rw [hstage]; simp) (by rw [hstage]; simp)
      (by rw [hstage]; simp) (by rw [hstage]; simp)
    cases phase with
    | hasPool =>
      simp only [checkRequirements] at h
      repeat' split at h
      all_goals
        cases h
        exact hs.of_kept hguard hmeets rfl rfl (fun _ h => h) rfl rfl (by simp) (.inl (by simp))
    | readiness => exact hs.checkRequirements_readiness hstage hguarded h
    | fetch => cases h
  · rename_i store phase id rest hstage htodo
    obtain ⟨guard, hguard, hmeets⟩ := hs.guard (by rw [hstage]; simp) (by rw [hstage]; simp)
      (by rw [hstage]; simp) (by rw [hstage]; simp)
    cases phase with
    | hasPool | readiness =>
      simp only [loadPool] at h
      repeat' split at h
      all_goals cases h
      all_goals first
        | exact finish s
        | exact hs.of_kept hguard hmeets rfl rfl (fun _ h => h) rfl rfl (by simp) (.inl (by simp))
    | fetch =>
      simp only [loadPool] at h
      split at h
      · rename_i component hcomponent
        split at h
        · cases h
          exact hs.cachePool hguard hmeets
            ((hguarded ‹_›).2 store id component hstage (by rw [htodo]; rfl) hcomponent)
        · cases h
          exact finish s
      · cases h
        exact finish s
  · cases h

/-- The first guard is for the hints, a later one for the store of a find. -/
theorem acquireGate (hs : s.Informed) (h : s.perform .acquireGate = some next) :
    next.Informed := by
  simp only [perform] at h
  split at h
  · rename_i needs hstage
    obtain ⟨guard, hdue, hmeets⟩ := hs.due (by rw [hstage]; simp) (by rw [hstage]; simp)
    rw [guardDue, hstage] at hdue
    split at h
    · cases h
    · cases h
      exact hs.of_kept hdue hmeets rfl rfl (fun _ h => h) rfl rfl (by simp) (.inl (by simp))
  · rename_i needs hstage
    obtain ⟨guard, hdue, hmeets⟩ := hs.due (by rw [hstage]; simp) (by rw [hstage]; simp)
    rw [guardDue, hstage] at hdue
    split at h
    · cases h
    · cases h
      by_cases hfirst : s.rebuildGuard = none
      · rw [if_pos hfirst]
        exact hs.of_kept hdue hmeets rfl rfl (fun _ h => h) rfl rfl (by simp) (.inl (by simp))
      · rw [if_neg hfirst]
        exact hs.of_kept hdue hmeets rfl rfl (fun _ h => h) rfl rfl (by simp) (.inl (by simp))
  · cases h

theorem takeSwap (hs : s.Informed) {ready : Bool} (h : s.perform (.takeSwap ready) = some next) :
    next.Informed := by
  simp only [perform] at h
  split at h
  · rename_i hstage
    obtain ⟨guard, hguard, hmeets⟩ := hs.guard (by rw [hstage]; simp) (by rw [hstage]; simp)
      (by rw [hstage]; simp) (by rw [hstage]; simp)
    split at h
    · cases h
      exact finish s
    · split at h
      · split at h
        · cases h
          exact hs.of_kept hguard hmeets rfl rfl (fun _ h => h) rfl rfl (by simp) (.inl (by simp))
        · split at h
          · cases h
            exact hs.cachePool hguard hmeets fun h => absurd rfl h
          · cases h
            exact hs.of_kept hguard hmeets rfl rfl (fun _ h => h) rfl rfl (by simp)
              (.inl (by simp))
      · cases h
        exact finish s
  · cases h

theorem spawn (hs : s.Informed) {ready : Bool} (h : s.perform (.spawn ready) = some next) :
    next.Informed := by
  simp only [perform] at h
  split at h
  · rename_i id rest hstage htodo
    obtain ⟨guard, hguard, hmeets⟩ := hs.guard (by rw [hstage]; simp) (by rw [hstage]; simp)
      (by rw [hstage]; simp) (by rw [hstage]; simp)
    split at h
    · rename_i entry hentry
      obtain ⟨hloaded, hbackend⟩ := hs.loaded id entry hentry
      split at h
      · cases h
        refine ⟨(by rintro ⟨⟩), fun _ _ => ⟨guard, hguard, hmeets.asked, hmeets.cached⟩,
          hs.loaded, fun worker hworker _ => ?_⟩
        cases hworker
        refine ⟨entry.component, ⟨id, by rw [htodo]; rfl, hloaded⟩, ?_⟩
        rw [hbackend]
      · cases h
        exact finish s
    · cases h
  · cases h

theorem workerDone (hs : s.Informed) (h : s.perform .workerDone = some next) :
    next.Informed := by
  simp only [perform] at h
  split at h
  · cases h
  · cases h
    exact ⟨hs.fresh, fun hentering hfinished => by
      obtain ⟨guard, hdue, hmeets⟩ := hs.due hentering hfinished
      exact ⟨guard, hdue, hmeets.asked, hmeets.cached⟩, hs.loaded, (by rintro - ⟨⟩)⟩

theorem resume (hs : s.Informed) {ready : Bool} (h : s.perform (.resume ready) = some next) :
    next.Informed := by
  simp only [perform] at h
  split at h
  · rename_i id rest hstage htodo hworker
    obtain ⟨guard, hguard, hmeets⟩ := hs.guard (by rw [hstage]; simp) (by rw [hstage]; simp)
      (by rw [hstage]; simp) (by rw [hstage]; simp)
    split at h
    · cases h
      exact hs.of_kept hguard hmeets rfl rfl
        (fun other hother => by rw [htodo]; exact List.mem_cons_of_mem _ hother) rfl rfl (by simp)
        (.inl (by simp))
    · cases h
      exact finish s
  · cases h

/-- The first step asks for what the hints name. -/
theorem enter (hs : s.Informed) {ready : Bool} (h : s.perform (.enter ready) = some next) :
    next.Informed := by
  simp only [perform] at h
  split at h
  · rename_i hstage
    obtain ⟨hfound, hcache⟩ := hs.fresh hstage
    split at h
    · cases h
      refine ⟨(by rintro ⟨⟩), fun _ _ => ⟨s.usage, rfl, fun store hasked => ?_,
        fun id _ entry hentry => ?_⟩, hs.loaded, (by rintro - - ⟨⟩)⟩
      · exact (asked_iff_of_found_nil hfound).mp hasked
      · cases (hcache id).symm.trans hentry
    · cases h
      exact finish s
  · cases h

/-- The requirements are checked again after the wait for a guard. -/
theorem recheck (hs : s.Informed) {ready : Bool} (h : s.perform (.recheck ready) = some next) :
    next.Informed := by
  simp only [perform] at h
  split at h
  · rename_i hstage
    obtain ⟨guard, hguard, hmeets⟩ := hs.guard (by rw [hstage]; simp) (by rw [hstage]; simp)
      (by rw [hstage]; simp) (by rw [hstage]; simp)
    split at h
    · cases h
      exact hs.of_kept hguard hmeets rfl rfl (fun _ h => h) rfl rfl (by simp) (.inl (by simp))
    · cases h
      exact finish s
  · cases h

/-- **Every action** keeps the guard informed. -/
theorem perform (hs : s.Informed) {action : RouteAction} (hguarded : s.Guarded action)
    (h : s.perform action = some next) : next.Informed := by
  cases action with
  | enter ready => exact hs.enter h
  | acquireGate => exact hs.acquireGate h
  | recheck ready => exact hs.recheck h
  | takeSwap ready => exact hs.takeSwap h
  | lookup ready => exact hs.lookup hguarded h
  | spawn ready => exact hs.spawn h
  | workerDone => exact hs.workerDone h
  | resume ready => exact hs.resume h
  | dropRequest =>
    simp only [GuardedRoute.perform] at h
    split at h <;> cases h
    exact finish s
  | storeChange store pools | endRebuild store | otherRelease store =>
    cases h
    exact ⟨hs.fresh, fun hentering hfinished => by
      obtain ⟨guard, hdue, hmeets⟩ := hs.due hentering hfinished
      exact ⟨guard, hdue, hmeets.asked, hmeets.cached⟩, hs.loaded, hs.clone⟩
  | beginRebuild store | otherAcquire store =>
    simp only [GuardedRoute.perform] at h
    split at h <;> cases h
    exact ⟨hs.fresh, fun hentering hfinished => by
      obtain ⟨guard, hdue, hmeets⟩ := hs.due hentering hfinished
      exact ⟨guard, hdue, hmeets.asked, hmeets.cached⟩, hs.loaded, hs.clone⟩

/-- The history of a step adds nothing. -/
theorem note (h : next.Informed) : (s.note next).Informed :=
  ⟨h.fresh, fun hentering hfinished => by
    obtain ⟨guard, hdue, hmeets⟩ := h.due hentering hfinished
    exact ⟨guard, hdue, hmeets.asked, hmeets.cached⟩, h.loaded, h.clone⟩

/-! ### The guard covers

The condition of the other development follows from the condition on the stores. -/

/-- **A guarded step is covering.** What the stores, the hints and the components allow, the guard
at hand is enough for. -/
theorem covering (hs : s.Informed) (hsheltered : s.Sheltered) {action : RouteAction}
    (hguarded : s.Guarded action) (h : s.perform action = some next) : s.Covering action := by
  cases action with
  | acquireGate =>
    intro needs hstage
    obtain ⟨guard, hdue, hmeets⟩ := hs.due (by rw [hstage]; simp) (by rw [hstage]; simp)
    rw [guardDue, hstage] at hdue
    cases hdue
    exact hmeets.cached
  | lookup ready =>
    intro hready store id component hstage hid hcomponent hstore
    obtain ⟨guard, hguard, hmeets⟩ := hs.guard (by rw [hstage]; simp) (by rw [hstage]; simp)
      (by rw [hstage]; simp) (by rw [hstage]; simp)
    rw [hguard, Option.any_some]
    exact hmeets.asked store ((hguarded hready).2 store id component hstage hid hcomponent hstore)
  | dropRequest =>
    intro worker hworker hstore
    have hfinished : s.stage ≠ .finished := by
      intro hstage
      rw [GuardedRoute.perform, if_pos hstage] at h
      cases h
    have hsim : s.stage = .simulating :=
      (hsheltered.waits (by rw [hworker]; simp)).resolve_right hfinished
    obtain ⟨component, hloaded, hclone⟩ := hs.clone worker hworker hsim
    obtain ⟨guard, hguard, -⟩ := hs.guard (by rw [hsim]; simp) hfinished (by rw [hsim]; simp)
      (by rw [hsim]; simp)
    rw [hclone, if_pos (hguarded (by rw [hworker]; simp) component worker.store hloaded hstore),
      hguard]
    simp
  | enter _ | recheck _ | takeSwap _ | spawn _ | workerDone | resume _ | storeChange _ _
  | beginRebuild _ | endRebuild _ | otherAcquire _ | otherRelease _ => trivial

end Informed

end GuardedRoute

/-! ## Runs -/

/-- The requests whose steps are all guarded. -/
def guardedMachine : Machine GuardedRoute where
  init s := ∃ segments stores writer otherReaders nativePin,
    s = GuardedRoute.start segments stores writer otherReaders nativePin
  step s s' := ∃ action, s.Guarded action ∧ s.step action = some s'

/-- In every run whose steps are allowed by the stores, the hints and the components, every
simulation runs under the gate of its store. -/
theorem route_simulates_guarded {s : GuardedRoute} (h : guardedMachine.Reachable s) :
    s.SimulatesGuarded := by
  have hboth := h.invariant (P := fun s => s.Sheltered ∧ s.Informed)
    (fun s hinit => by
      obtain ⟨segments, stores, writer, otherReaders, nativePin, rfl⟩ := hinit
      exact ⟨GuardedRoute.sheltered_start segments stores writer otherReaders nativePin,
        GuardedRoute.informed_start segments stores writer otherReaders nativePin⟩)
    (fun s s' hs hstep => by
      obtain ⟨action, hguarded, hnext⟩ := hstep
      obtain ⟨hsheltered, hinformed⟩ := hs
      obtain ⟨next, hperform, rfl⟩ := Option.map_eq_some_iff.mp hnext
      exact ⟨hsheltered.step (hinformed.covering hsheltered hguarded hperform) hnext,
        (hinformed.perform hguarded hperform).note⟩)
  exact hboth.1.simulatesGuarded

/-- The actions one after another. -/
def GuardedRoute.runActions (s : GuardedRoute) (actions : List RouteAction) :
    Option GuardedRoute :=
  actions.foldlM GuardedRoute.step s

theorem GuardedRoute.reachable_of_runActions {actions : List RouteAction} {s s' : GuardedRoute}
    (hs : guardMachine.Reachable s) (hrun : s.runActions actions = some s') :
    guardMachine.Reachable s' := by
  induction actions generalizing s with
  | nil =>
    cases hrun
    exact hs
  | cons action actions ih =>
    rw [runActions, List.foldlM_cons] at hrun
    obtain ⟨middle, hstep, hrest⟩ := Option.bind_eq_some_iff.mp hrun
    exact ih (hs.steps (.single ⟨action, hstep⟩)) hrest

/-- A route whose hops are one swap each on the pools, all hinted as pools of the VM store. -/
def vmHintedRoute (pools : List String) : List NormalizedSegment :=
  [{ shareBps := 0, amountIn := 1
     hops := pools.map fun id =>
      { tokenIn := [1], tokenOut := [2]
        swaps := [{ pool := ⟨"vm:curve", id, none⟩, tokenIn := [1], tokenOut := [2]
                    splitBps := 0 }] } }]

/-- A VM store with the pool `curve` and an RFQ store with the pool `bebop`. -/
def curveAndBebop : PoolBackend → String → Option ProtocolComponent
  | .vm, "curve" => some ⟨[1], "vm:curve", "curve_pool", []⟩
  | .rfq, "bebop" => some ⟨[2], "rfq:bebop", "bebop_pool", []⟩
  | _, _ => none

/-- The start of a request among these stores with no rebuild and no other request. -/
def startAmong (pools : List String) : GuardedRoute :=
  .start (vmHintedRoute pools) curveAndBebop (fun _ => false) (fun _ => 0) fun _ => none

/-- The actions are guarded one after another. -/
def GuardedRoute.GuardedRun : GuardedRoute → List RouteAction → GuardedRoute → Prop
  | s, [], s' => s = s'
  | s, action :: actions, s' =>
    s.Guarded action ∧ ∃ next, s.step action = some next ∧ GuardedRun next actions s'

theorem GuardedRoute.GuardedRun.reachable {actions : List RouteAction} {s s' : GuardedRoute}
    (h : s.GuardedRun actions s') (hs : guardedMachine.Reachable s) :
    guardedMachine.Reachable s' := by
  induction actions generalizing s with
  | nil =>
    cases h
    exact hs
  | cons action actions ih =>
    obtain ⟨hguarded, next, hstep, hrest⟩ := h
    exact ih hrest (hs.steps (.single ⟨action, hguarded, hstep⟩))

/-- A pool of the VM store and then one of the RFQ store, with hints for the first alone: the guard
is replaced for the second, whose worker is running. -/
theorem route_simulates_guarded_bebop : ∃ s worker, guardedMachine.Reachable s ∧
    s.worker = some worker ∧ worker.store = .rfq ∧ s.SimulatesGuarded := by
  have hrun : ∃ s worker, (startAmong ["curve", "bebop"]).GuardedRun
      [.enter true, .acquireGate, .acquireGate, .recheck true,
        .takeSwap true, .lookup true, .lookup true, .lookup true, .lookup true, .lookup true,
        .lookup true, .lookup true, .spawn true, .workerDone, .resume true,
        .takeSwap true, .lookup true, .lookup true, .lookup true, .lookup true, .acquireGate,
        .acquireGate, .lookup true, .lookup true, .lookup true, .lookup true, .lookup true,
        .spawn true] s ∧ s.worker = some worker ∧ worker.store = .rfq := by
    refine ⟨_, _, ⟨trivial, _, rfl, trivial, _, rfl, trivial, _, rfl, trivial, _, rfl, trivial, _,
      rfl, ?_, _, rfl, ?_, _, rfl, ?_, _, rfl, ?_, _, rfl, ?_, _, rfl, ?_, _, rfl, ?_, _, rfl,
      trivial, _, rfl, trivial, _, rfl, trivial, _, rfl, trivial, _, rfl, ?_, _, rfl, ?_, _, rfl,
      ?_, _, rfl, ?_, _, rfl, trivial, _, rfl, trivial, _, rfl, ?_, _, rfl, ?_, _, rfl, ?_, _, rfl,
      ?_, _, rfl, ?_, _, rfl, trivial, _, rfl, rfl⟩, rfl, rfl⟩
    all_goals refine fun _ => ⟨fun store hstage => ?_, fun store id component hstage => ?_⟩
    -- only the ends of the checks and of the loads ask for something
    all_goals cases hstage
    · exact fun _ hasked => absurd (.inr ⟨rfl, by rintro - ⟨⟩⟩) hasked
    · exact fun _ _ _ => .inl rfl
    · -- the route does not come back to the first pool
      intro _ _ id component other hid hloaded
      cases List.mem_singleton.mp hloaded
      exact absurd hid (by decide)
    · exact fun _ _ _ => .inl rfl
  obtain ⟨s, worker, hrun, hworker, hstore⟩ := hrun
  have hreach := hrun.reachable ⟨_, ⟨_, _, _, _, _, rfl⟩, .refl⟩
  exact ⟨s, worker, hreach, hworker, hstore, route_simulates_guarded hreach⟩

/-- A pool of the VM store, then one of the RFQ store, then the first again: the guard for the
second has taken the place of the first, and a rebuild of the VM backend may begin while the
worker simulates. -/
theorem route_simulates_unguarded : ∃ s worker, guardMachine.Reachable s ∧
    s.worker = some worker ∧ worker.store = .vm ∧ s.holdsGate .vm = false ∧
    (s.step (.beginRebuild .vm)).isSome = true ∧ ¬ s.SimulatesGuarded := by
  have hrun : ∃ s worker, (startAmong ["curve", "bebop", "curve"]).runActions
      [.enter true, .acquireGate, .acquireGate, .recheck true,
        .takeSwap true, .lookup true, .lookup true, .lookup true, .lookup true, .lookup true,
        .lookup true, .lookup true, .spawn true, .workerDone, .resume true,
        .takeSwap true, .lookup true, .lookup true, .lookup true, .lookup true, .acquireGate,
        .acquireGate, .lookup true, .lookup true, .lookup true, .lookup true, .lookup true,
        .spawn true, .workerDone, .resume true,
        .takeSwap true, .spawn true] = some s ∧
      s.worker = some worker ∧ worker.store = .vm ∧ s.holdsGate .vm = false ∧
      (s.step (.beginRebuild .vm)).isSome = true :=
    ⟨_, _, rfl, rfl, rfl, rfl, rfl⟩
  obtain ⟨s, worker, hrun, hworker, hstore, hgate, hrebuild⟩ := hrun
  have hreach : guardMachine.Reachable s := GuardedRoute.reachable_of_runActions
    ⟨_, ⟨_, _, _, _, _, rfl⟩, .refl⟩ hrun
  refine ⟨s, worker, hreach, hworker, hstore, hgate, hrebuild, fun h => ?_⟩
  have hheld := (h worker hworker (by rw [hstore]; simp)).1
  rw [hstore, hgate] at hheld
  cases hheld

end TychoSimulationServer
