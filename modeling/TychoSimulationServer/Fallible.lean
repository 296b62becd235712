import Mathlib.Data.List.Forall2
import Mathlib.Logic.Basic
import Mathlib.Tactic.Common

/-!
# Fallible computations

Two shapes of fallible code recur in a service: a *check*, which reads its arguments and either
passes or reports an error, and a *stateful operation*, which additionally owns a piece of state
and may be interrupted by an error after some of its writes. Checks live in `Except ε`; stateful
operations live in `Stateful ε σ`, whose failures keep the state they happened in, so that a
half-done write is visible.

* **inversion** — `bind_eq_ok`, `forM_eq_ok` and `mapM_eq_ok` take a successful run apart;
* **failures** — `FailsWith` says which errors a computation may report;
* **loops** — `foldlM_induction` carries a property through a fallible fold, and
  `exec_forM_of_invariant` through a loop of stateful operations;
* **atomicity** — `FailureAtomic` says that an operation which fails has written nothing, with one
  rule per way of building an operation.
-/

namespace Fallible

variable {ε σ α β : Type}

/-! ## Checks

`Except` with `ensure` in front reads like the source's early returns: the first check that fails
decides the error. -/

/-- Pass when `c` holds, report `e` otherwise. -/
def ensure (c : Prop) [Decidable c] (e : ε) : Except ε Unit :=
  if c then .ok () else .error e

/-- A check passes when its condition holds. -/
@[simp] theorem ensure_eq_ok {c : Prop} [Decidable c] {e : ε} {u : Unit} :
    ensure c e = .ok u ↔ c := by
  unfold ensure
  split <;> simp_all

@[simp] theorem pure_eq_ok {a b : α} : (pure a : Except ε α) = .ok b ↔ a = b := by
  simp [pure, Except.pure]

@[simp] theorem throw_ne_ok {e : ε} {a : α} : (throw e : Except ε α) ≠ .ok a :=
  nofun

/-- **Inversion of sequencing.** A successful bind is a successful first part followed by a
successful second part. -/
theorem bind_eq_ok {x : Except ε α} {f : α → Except ε β} {b : β} :
    (x >>= f) = .ok b ↔ ∃ a, x = .ok a ∧ f a = .ok b := by
  cases x with
  | error e => simp [bind, Except.bind]
  | ok a => simp [bind, Except.bind]

/-- Renaming the error does not change what succeeds. -/
theorem mapError_eq_ok {ε' : Type} {f : ε → ε'} {x : Except ε α} {a : α} :
    x.mapError f = .ok a ↔ x = .ok a := by
  cases x <;> simp [Except.mapError]

/-- A result that is renamed comes from a result. -/
theorem map_eq_ok {f : α → β} {x : Except ε α} {b : β} :
    x.map f = .ok b ↔ ∃ a, x = .ok a ∧ f a = b := by
  cases x <;> simp [Except.map]

/-- A sequence of two checks passes when both do. -/
theorem check_bind_eq_ok {x : Except ε Unit} {y : Except ε α} {a : α} :
    (do x; y) = .ok a ↔ x = .ok () ∧ y = .ok a := by
  rw [bind_eq_ok]
  exact ⟨fun ⟨(), hx, hy⟩ => ⟨hx, hy⟩, fun ⟨hx, hy⟩ => ⟨(), hx, hy⟩⟩

/-- Every failure of `x` is one that `P` allows. -/
def FailsWith (P : ε → Prop) (x : Except ε α) : Prop :=
  ∀ e, x = .error e → P e

theorem FailsWith.ok {P : ε → Prop} (a : α) : FailsWith P (.ok a : Except ε α) :=
  fun _ => nofun

theorem FailsWith.error {P : ε → Prop} {e : ε} (h : P e) :
    FailsWith P (.error e : Except ε α) := by
  intro e' he
  cases he
  exact h

theorem FailsWith.ensure {P : ε → Prop} {c : Prop} [Decidable c] {e : ε} (h : P e) :
    FailsWith P (Fallible.ensure c e) := by
  by_cases hc : c
  · rw [Fallible.ensure, if_pos hc]
    exact .ok ()
  · rw [Fallible.ensure, if_neg hc]
    exact .error h

/-- What follows a computation may add failures of its own. -/
theorem FailsWith.bind {P : ε → Prop} {x : Except ε α} {f : α → Except ε β} (hx : FailsWith P x)
    (hf : ∀ a, FailsWith P (f a)) : FailsWith P (x >>= f) := by
  cases x with
  | error e => exact .error (hx e rfl)
  | ok a => exact hf a

/-- A computation that does not succeed fails as allowed. -/
theorem FailsWith.exists_error {P : ε → Prop} {x : Except ε α} (hx : FailsWith P x)
    (h : ∀ a, x ≠ .ok a) : ∃ e, x = .error e ∧ P e := by
  cases x with
  | error e => exact ⟨e, rfl, hx e rfl⟩
  | ok a => exact absurd rfl (h a)

/-- A checking loop passes when every iteration does. -/
theorem forM_eq_ok {f : α → Except ε Unit} {xs : List α} :
    forM xs f = .ok () ↔ ∀ x ∈ xs, f x = .ok () := by
  induction xs with
  | nil => simp [pure, Except.pure]
  | cons x xs ih =>
    rw [List.forM_cons, check_bind_eq_ok, ih]
    simp

/-- A mapping loop succeeds when every iteration does. -/
theorem mapM_eq_ok {f : α → Except ε β} {xs : List α} {ys : List β} :
    xs.mapM f = .ok ys ↔ List.Forall₂ (fun x y => f x = .ok y) xs ys := by
  induction xs generalizing ys with
  | nil =>
    rw [List.mapM_nil, pure_eq_ok, List.forall₂_nil_left_iff]
    exact eq_comm
  | cons x xs ih =>
    rw [List.mapM_cons, bind_eq_ok, List.forall₂_cons_left_iff]
    simp only [bind_eq_ok, pure_eq_ok, ih]
    constructor
    · rintro ⟨y, hy, ys, hys, rfl⟩
      exact ⟨y, ys, hy, hys, rfl⟩
    · rintro ⟨y, ys, hy, hys, rfl⟩
      exact ⟨y, hy, ys, hys, rfl⟩

/-- A mapping loop succeeds when every iteration can. -/
theorem exists_mapM_eq_ok {f : α → Except ε β} {xs : List α} :
    (∃ ys, xs.mapM f = .ok ys) ↔ ∀ x ∈ xs, ∃ y, f x = .ok y := by
  induction xs with
  | nil => exact ⟨fun _ => List.forall_mem_nil _, fun _ => ⟨[], rfl⟩⟩
  | cons x xs ih =>
    rw [List.forall_mem_cons, ← ih]
    simp only [List.mapM_cons, bind_eq_ok, pure_eq_ok]
    constructor
    · rintro ⟨_, y, hy, ys, hys, -⟩
      exact ⟨⟨y, hy⟩, ys, hys⟩
    · rintro ⟨⟨y, hy⟩, ys, hys⟩
      exact ⟨_, y, hy, ys, hys, rfl⟩

/-- A mapping loop over numbered items gives one result for each. -/
theorem mapM_zipIdx_eq_ok {f : α × Nat → Except ε β} {xs : List α} {ys : List β}
    (h : xs.zipIdx.mapM f = .ok ys) : ys.length = xs.length ∧
      ∀ i y, ys[i]? = some y → ∃ x, xs[i]? = some x ∧ f (x, i) = .ok y := by
  have hys := mapM_eq_ok.mp h
  refine ⟨by rw [← hys.length_eq, List.length_zipIdx], fun i y hi => ?_⟩
  obtain ⟨hlt, rfl⟩ := List.getElem?_eq_some_iff.mp hi
  have hzip : i < xs.zipIdx.length := hys.length_eq ▸ hlt
  have hget := hys.get hzip hlt
  rw [List.get_eq_getElem, List.get_eq_getElem, List.getElem_zipIdx, Nat.zero_add] at hget
  rw [List.length_zipIdx] at hzip
  exact ⟨_, List.getElem?_eq_getElem hzip, hget⟩

/-- Every result of a loop comes from an iteration. -/
theorem forall₂_exists_left {R : α → β → Prop} {xs : List α} {ys : List β} {y : β}
    (h : List.Forall₂ R xs ys) (hy : y ∈ ys) : ∃ x ∈ xs, R x y := by
  induction h with
  | nil => cases hy
  | cons hxy _ ih =>
    rcases List.mem_cons.mp hy with rfl | hy
    · exact ⟨_, List.mem_cons_self, hxy⟩
    · obtain ⟨x, hx, hxy⟩ := ih hy
      exact ⟨x, List.mem_cons_of_mem _ hx, hxy⟩

/-- Items related to two lists in a row split where the lists do. -/
theorem forall₂_append_left {R : α → β → Prop} {xs ys : List α} {zs : List β}
    (h : List.Forall₂ R (xs ++ ys) zs) :
    ∃ us vs, zs = us ++ vs ∧ List.Forall₂ R xs us ∧ List.Forall₂ R ys vs := by
  induction xs generalizing zs with
  | nil => exact ⟨[], zs, rfl, .nil, h⟩
  | cons x xs ih =>
    obtain ⟨z, zs, hz, hzs, rfl⟩ := List.forall₂_cons_left_iff.mp h
    obtain ⟨us, vs, rfl, hus, hvs⟩ := ih hzs
    exact ⟨z :: us, vs, rfl, .cons hz hus, hvs⟩

/-- Related lists are related place by place. -/
theorem forall₂_getElem? {R : α → β → Prop} {xs : List α} {ys : List β} {i : Nat}
    {y : β} (h : List.Forall₂ R xs ys) (hi : ys[i]? = some y) : ∃ x, xs[i]? = some x ∧ R x y := by
  obtain ⟨hlt, rfl⟩ := List.getElem?_eq_some_iff.mp hi
  have hx : i < xs.length := h.length_eq ▸ hlt
  exact ⟨xs[i], List.getElem?_eq_getElem hx, h.get hx hlt⟩

/-- Lists of one length that are related place by place are related. -/
theorem forall₂_of_getElem? {R : α → β → Prop} {xs : List α} {ys : List β}
    (hlength : xs.length = ys.length)
    (h : ∀ (i : Nat) x y, xs[i]? = some x → ys[i]? = some y → R x y) : List.Forall₂ R xs ys := by
  refine List.forall₂_iff_get.mpr ⟨hlength, fun i hx hy => ?_⟩
  exact h i _ _ (List.getElem?_eq_getElem hx) (List.getElem?_eq_getElem hy)

/-- What related items have in common, their lists have in common. -/
theorem map_eq_of_forall₂ {γ : Type} {R : α → β → Prop} {f : α → γ} {g : β → γ} {xs : List α}
    {ys : List β} (h : List.Forall₂ R xs ys) (hR : ∀ {x y}, R x y → f x = g y) :
    xs.map f = ys.map g := by
  induction h with
  | nil => rfl
  | cons hxy _ ih => rw [List.map_cons, List.map_cons, hR hxy, ih]

theorem flatMap_eq_of_forall₂ {γ : Type} {R : α → β → Prop} {f : α → List γ} {g : β → List γ}
    {xs : List α} {ys : List β} (h : List.Forall₂ R xs ys) (hR : ∀ {x y}, R x y → f x = g y) :
    xs.flatMap f = ys.flatMap g := by
  rw [List.flatMap_def, List.flatMap_def, map_eq_of_forall₂ h hR]

/-- **Induction over a fallible fold.** A property of the items consumed so far and the state they
lead to, kept by every successful iteration, holds of all items and the final state. -/
theorem foldlM_induction_split {f : β → α → Except ε β} {xs : List α} {b b' : β}
    (P : List α → β → Prop) (start : P [] b)
    (step : ∀ pre x post c c', xs = pre ++ x :: post → pre.foldlM f b = .ok c → P pre c →
      f c x = .ok c' → P (pre ++ [x]) c')
    (h : xs.foldlM f b = .ok b') : P xs b' := by
  -- the items consumed before `c` was reached are `pre`, those still to come are `ys`
  suffices ∀ (ys pre : List α) (c : β), xs = pre ++ ys → pre.foldlM f b = .ok c → P pre c →
      ys.foldlM f c = .ok b' → P xs b' from this xs [] b rfl rfl start h
  intro ys
  induction ys with
  | nil =>
    intro pre c hxs _ hc hfold
    rw [List.foldlM_nil, pure_eq_ok] at hfold
    rw [hxs, List.append_nil]
    exact hfold ▸ hc
  | cons y ys ih =>
    intro pre c hxs hpre hc hfold
    rw [List.foldlM_cons, bind_eq_ok] at hfold
    obtain ⟨d, hd, hrest⟩ := hfold
    refine ih (pre ++ [y]) d (by simp [hxs]) ?_ (step pre y ys c d hxs hpre hc hd) hrest
    rw [List.foldlM_append, bind_eq_ok]
    exact ⟨c, hpre, by rw [List.foldlM_cons, hd]; rfl⟩

/-- The same, for properties that need of an item only that it is in the list. -/
theorem foldlM_induction {f : β → α → Except ε β} {xs : List α} {b b' : β}
    (P : List α → β → Prop) (start : P [] b)
    (step : ∀ pre x c c', x ∈ xs → P pre c → f c x = .ok c' → P (pre ++ [x]) c')
    (h : xs.foldlM f b = .ok b') : P xs b' := by
  refine foldlM_induction_split P start (fun pre x post c c' hxs _ hc hstep => ?_) h
  exact step pre x c c' (by simp [hxs]) hc hstep

/-- A fold through states that are known by their number. -/
theorem foldlM_states {f : β → α → Except ε β} {xs : List α} (S : Nat → β)
    (h : ∀ (i : Nat) x, xs[i]? = some x → f (S i) x = .ok (S (i + 1))) :
    xs.foldlM f (S 0) = .ok (S xs.length) := by
  induction xs generalizing S with
  | nil => rfl
  | cons x xs ih =>
    rw [List.foldlM_cons, h 0 x rfl]
    exact ih (fun i => S (i + 1)) fun i y hy => h (i + 1) y hy

/-- A fold over a prefix of what can be folded. -/
theorem foldlM_prefix_ok {f : β → α → Except ε β} {xs ys : List α} {b c : β}
    (h : ys.foldlM f b = .ok c) (hpre : xs <+: ys) : ∃ d, xs.foldlM f b = .ok d := by
  obtain ⟨zs, rfl⟩ := hpre
  rw [List.foldlM_append] at h
  obtain ⟨d, hd, -⟩ := bind_eq_ok.mp h
  exact ⟨d, hd⟩

/-! ## Stateful operations -/

/-- An operation on a state `σ` that may fail with `ε`. The state survives a failure. -/
abbrev Stateful (ε σ α : Type) := ExceptT ε (StateM σ) α

/-- Run a stateful operation: its outcome, and the state it leaves behind in either case. -/
def exec (m : Stateful ε σ α) (s : σ) : Except ε α × σ :=
  m.run s

/-- A check as a stateful operation: it leaves the state alone. -/
def check (x : Except ε α) : Stateful ε σ α :=
  ExceptT.mk (pure x)

@[simp] theorem exec_pure (a : α) (s : σ) : exec (pure a : Stateful ε σ α) s = (.ok a, s) := rfl

@[simp] theorem exec_throw (e : ε) (s : σ) :
    exec (throw e : Stateful ε σ α) s = (.error e, s) := rfl

@[simp] theorem exec_check (x : Except ε α) (s : σ) :
    exec (check x : Stateful ε σ α) s = (x, s) := rfl

@[simp] theorem exec_get (s : σ) : exec (get : Stateful ε σ σ) s = (.ok s, s) := rfl

@[simp] theorem exec_set (s s' : σ) : exec (set s' : Stateful ε σ Unit) s = (.ok (), s') := rfl

/-- A sequence runs the second part from the state the first one leaves. -/
theorem exec_bind (m : Stateful ε σ α) (f : α → Stateful ε σ β) (s : σ) :
    exec (m >>= f) s =
      match exec m s with
      | (.ok a, s') => exec (f a) s'
      | (.error e, s') => (.error e, s') := by
  change ExceptT.bindCont f (exec m s).1 (exec m s).2 = _
  rcases exec m s with ⟨_ | a, s'⟩ <;> rfl

/-- **Inversion of stateful sequencing.** -/
theorem exec_bind_eq_ok {m : Stateful ε σ α} {f : α → Stateful ε σ β} {s s' : σ} {b : β} :
    exec (m >>= f) s = (.ok b, s') ↔
      ∃ a s₁, exec m s = (.ok a, s₁) ∧ exec (f a) s₁ = (.ok b, s') := by
  rw [exec_bind]
  rcases exec m s with ⟨_ | a, s₁⟩ <;> simp

/-- A check in front of an operation passes and leaves the state to the operation. -/
theorem exec_check_bind_eq_ok {x : Except ε α} {f : α → Stateful ε σ β} {s s' : σ} {b : β} :
    exec (check x >>= f) s = (.ok b, s') ↔ ∃ a, x = .ok a ∧ exec (f a) s = (.ok b, s') := by
  rw [exec_bind_eq_ok]
  simp only [exec_check, Prod.mk.injEq]
  constructor
  · rintro ⟨a, _, ⟨hx, rfl⟩, hf⟩
    exact ⟨a, hx, hf⟩
  · rintro ⟨a, hx, hf⟩
    exact ⟨a, s, ⟨hx, rfl⟩, hf⟩

/-- A check without a result in front of an operation. -/
theorem exec_check_unit_bind_eq_ok {x : Except ε Unit} {m : Stateful ε σ β} {s s' : σ} {b : β} :
    exec (do check x; m) s = (.ok b, s') ↔ x = .ok () ∧ exec m s = (.ok b, s') := by
  rw [exec_check_bind_eq_ok]
  exact ⟨fun ⟨(), hx, hm⟩ => ⟨hx, hm⟩, fun ⟨hx, hm⟩ => ⟨(), hx, hm⟩⟩

/-- Reading the state hands it to what follows. -/
@[simp] theorem exec_get_bind (f : σ → Stateful ε σ β) (s : σ) :
    exec (get >>= f) s = exec (f s) s := by
  rw [exec_bind, exec_get]

/-- Writing the state replaces it for what follows. -/
@[simp] theorem exec_set_bind (s₀ : σ) (m : Stateful ε σ β) (s : σ) :
    exec (do set s₀; m) s = exec m s₀ := by
  rw [exec_bind, exec_set]

/-- **The loop rule.** A property of the items processed so far and the state they lead to, from
which every iteration succeeds and which it keeps, makes the loop succeed. -/
theorem exec_forM_of_invariant {f : α → Stateful ε σ Unit} {xs : List α} {s : σ}
    (P : List α → σ → Prop) (start : P [] s)
    (step : ∀ pre x post t, xs = pre ++ x :: post → P pre t →
      ∃ t', exec (f x) t = (.ok (), t') ∧ P (pre ++ [x]) t') :
    ∃ s', exec (xs.forM f) s = (.ok (), s') ∧ P xs s' := by
  suffices ∀ (ys pre : List α) (t : σ), xs = pre ++ ys → P pre t →
      ∃ s', exec (ys.forM f) t = (.ok (), s') ∧ P xs s' from this xs [] s rfl start
  intro ys
  induction ys with
  | nil =>
    intro pre t hxs ht
    rw [hxs, List.append_nil]
    exact ⟨t, rfl, ht⟩
  | cons y ys ih =>
    intro pre t hxs ht
    obtain ⟨t', hstep, ht'⟩ := step pre y ys t hxs ht
    obtain ⟨s', hrest, hs'⟩ := ih (pre ++ [y]) t' (by simp [hxs]) ht'
    refine ⟨s', ?_, hs'⟩
    rw [show (y :: ys).forM f = (do f y; ys.forM f) from rfl, exec_bind, hstep]
    exact hrest

/-- A loop fails with its first iteration. -/
theorem exec_forM_cons_error {f : α → Stateful ε σ Unit} {x : α} {xs : List α} {s s' : σ} {e : ε}
    (h : exec (f x) s = (.error e, s')) : exec ((x :: xs).forM f) s = (.error e, s') := by
  rw [show (x :: xs).forM f = (do f x; xs.forM f) from rfl, exec_bind, h]

/-! ## Failure atomicity

A caller that drops the error of an atomic operation has lost nothing: the state is the one before
the call. The rules follow the way such operations are written, checks first and one write last. -/

/-- **Failure atomicity.** Whenever the operation fails, it leaves the state it was given. -/
def FailureAtomic (m : Stateful ε σ α) : Prop :=
  ∀ s e s', exec m s = (.error e, s') → s' = s

/-- An operation that only fails is atomic. -/
theorem FailureAtomic.throw (e : ε) : FailureAtomic (throw e : Stateful ε σ α) := by
  intro s e' s' h
  simp only [exec_throw, Prod.mk.injEq] at h
  exact h.2.symm

/-- Checks may be put in front of an atomic operation. -/
theorem FailureAtomic.check_bind {x : Except ε α} {f : α → Stateful ε σ β}
    (hf : ∀ a, FailureAtomic (f a)) : FailureAtomic (check x >>= f) := by
  intro s e s' h
  rw [exec_bind, exec_check] at h
  cases x with
  | error e' =>
    simp only [Prod.mk.injEq] at h
    exact h.2.symm
  | ok a => exact hf a s e s' h

/-- Reading the state in front of an atomic operation keeps it atomic. -/
theorem FailureAtomic.get_bind {f : σ → Stateful ε σ β} (hf : ∀ s, FailureAtomic (f s)) :
    FailureAtomic (get >>= f) := by
  intro s e s' h
  rw [exec_bind, exec_get] at h
  exact hf s s e s' h

/-- A write that nothing fallible follows is atomic. -/
theorem FailureAtomic.set_pure (s₀ : σ) (a : α) :
    FailureAtomic (do set s₀; pure a : Stateful ε σ α) := by
  intro s e s' h
  rw [exec_bind, exec_set] at h
  simp at h

end Fallible
