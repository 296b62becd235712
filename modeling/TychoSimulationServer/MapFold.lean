import Mathlib.Logic.Basic
import Mathlib.Tactic.Common
import TychoSimulationServer.Fallible

/-!
# Loops over finite maps

Code that walks a map and updates a state entry by entry usually touches, at each entry, only what
belongs to that entry's key. Seen through a *view* of the state per key, such a loop is easy: the
view of a key in the map changes once, by that entry's effect, and every other view stays.

* `foldl_view_of_notMem`, `foldl_view_of_mem` — the view of a key through a fold over a list with
  distinct keys;
* `foldl_toList_view` — the same for a fold over a whole map;
* `mergeInto` — the loop that merges one map into another, with a fallible merge per key;
* `getElem?_ofList_eq_some`, `getElem?_insert_eq_some` — maps that are filled binding by binding;
* `KeysApart` — maps without a common key, and their union.
-/

namespace MapFold

variable {κ υ σ ρ : Type}

section View

variable {step : σ → κ × υ → σ} {view : σ → κ → ρ} {effect : κ → υ → ρ → ρ}

/-- A key that does not occur keeps its view. -/
theorem foldl_view_of_notMem
    (other : ∀ s k v k', k' ≠ k → view (step s (k, v)) k' = view s k')
    {k : κ} : ∀ {entries : List (κ × υ)} {s : σ}, (∀ e ∈ entries, k ≠ e.1) →
      view (entries.foldl step s) k = view s k := by
  intro entries
  induction entries with
  | nil => intro s _; rfl
  | cons e rest ih =>
    intro s h
    rw [List.foldl_cons, ih fun e' he' => h e' (List.mem_cons_of_mem e he')]
    exact other s e.1 e.2 k (h e List.mem_cons_self)

/-- A key that occurs once has its effect applied once. -/
theorem foldl_view_of_mem
    (other : ∀ s k v k', k' ≠ k → view (step s (k, v)) k' = view s k')
    (own : ∀ s k v, view (step s (k, v)) k = effect k v (view s k))
    {k : κ} {v : υ} : ∀ {entries : List (κ × υ)} {s : σ},
      entries.Pairwise (fun a b => a.1 ≠ b.1) → (k, v) ∈ entries →
      view (entries.foldl step s) k = effect k v (view s k) := by
  intro entries
  induction entries with
  | nil => intro s _ h; simp at h
  | cons e rest ih =>
    intro s hdist hmem
    rw [List.pairwise_cons] at hdist
    obtain ⟨hhead, hrest⟩ := hdist
    rw [List.foldl_cons]
    rcases List.mem_cons.mp hmem with rfl | hmem
    · rw [foldl_view_of_notMem other (fun e' he' => hhead e' he'), own]
    · rw [ih hrest hmem, other s e.1 e.2 k (fun heq => hhead (k, v) hmem heq.symm)]

end View

section Lawful

variable [Ord κ] [Std.TransOrd κ] [Std.LawfulEqOrd κ]

theorem pairwise_ne_toList (m : Std.ExtTreeMap κ υ) :
    m.toList.Pairwise (fun a b => a.1 ≠ b.1) := by
  refine Std.ExtTreeMap.distinct_keys_toList.imp fun h heq => h ?_
  rw [heq]
  exact Std.ReflCmp.compare_self

/-- Maps with the same bindings are equal. -/
theorem ext_eq_some {a b : Std.ExtTreeMap κ υ}
    (h : ∀ (k : κ) (v : υ), a[k]? = some v ↔ b[k]? = some v) : a = b :=
  Std.ExtTreeMap.ext_getElem? fun k => Option.ext fun v => h k v

/-- The second of two writes to a key is the one that stays. -/
theorem insert_insert (m : Std.ExtTreeMap κ υ) (k : κ) (v w : υ) :
    (m.insert k v).insert k w = m.insert k w := by
  refine Std.ExtTreeMap.ext_getElem? fun k' => ?_
  rw [Std.ExtTreeMap.getElem?_insert, Std.ExtTreeMap.getElem?_insert,
    Std.ExtTreeMap.getElem?_insert]
  split <;> rfl

/-- The bindings of a map under a constructor that keeps them apart. -/
theorem nodup_map_toList {ε : Type} {f : κ × υ → ε} (hf : ∀ p q, f p = f q → p = q)
    (m : Std.ExtTreeMap κ υ) : (m.toList.map f).Nodup := by
  rw [List.nodup_iff_pairwise_ne, List.pairwise_map]
  exact (pairwise_ne_toList m).imp fun hne heq => hne (by rw [hf _ _ heq])

/-- The map made of a list with distinct keys has exactly the list's bindings. -/
theorem getElem?_ofList_eq_some {entries : List (κ × υ)}
    (distinct : entries.Pairwise (fun a b => a.1 ≠ b.1)) {k : κ} {v : υ} :
    (Std.ExtTreeMap.ofList entries)[k]? = some v ↔ (k, v) ∈ entries := by
  have hcmp : entries.Pairwise (fun a b => ¬ compare a.1 b.1 = .eq) :=
    distinct.imp fun hne heq => hne (Std.LawfulEqCmp.eq_of_compare heq)
  have hmem : ∀ w, (k, w) ∈ entries → (Std.ExtTreeMap.ofList entries)[k]? = some w :=
    fun w hw => Std.ExtTreeMap.getElem?_ofList_of_mem Std.ReflCmp.compare_self hcmp hw
  refine ⟨fun h => ?_, hmem v⟩
  have hk : k ∈ Std.ExtTreeMap.ofList entries := by
    rw [Std.ExtTreeMap.mem_iff_isSome_getElem?, h]
    rfl
  classical
  rw [Std.ExtTreeMap.mem_ofList, List.contains_iff_mem, List.mem_map] at hk
  obtain ⟨⟨_, w⟩, hw, rfl⟩ := hk
  rw [hmem w hw, Option.some.injEq] at h
  exact h ▸ hw

/-- The map made of a list with ascending keys lists it again. -/
theorem toList_ofList_of_ascending {entries : List (κ × υ)}
    (ascending : entries.Pairwise (fun a b => compare a.1 b.1 = .lt)) :
    (Std.ExtTreeMap.ofList entries).toList = entries := by
  have distinct : entries.Pairwise (fun a b => a.1 ≠ b.1) := by
    refine ascending.imp fun {a b} hlt heq => ?_
    have hself : compare b.1 b.1 = .eq := Std.ReflCmp.compare_self
    rw [heq, hself] at hlt
    cases hlt
  have hsorted : (Std.ExtTreeMap.ofList entries).toList.Pairwise
      (fun a b => compare a.1 b.1 = .lt) := Std.ExtTreeMap.ordered_keys_toList
  refine List.Perm.eq_of_pairwise (fun a b _ _ hab hba => ?_) hsorted ascending ?_
  · have hswap : compare a.1 b.1 = (compare b.1 a.1).swap := Std.OrientedCmp.eq_swap
    rw [hab, hba] at hswap
    cases hswap
  · refine (List.perm_ext_iff_of_nodup ?_ ?_).mpr fun p => ?_
    · exact (pairwise_ne_toList _).imp fun hne heq => hne (congrArg Prod.fst heq)
    · exact distinct.imp fun hne heq => hne (congrArg Prod.fst heq)
    · rw [Std.ExtTreeMap.mem_toList_iff_getElem?_eq_some, getElem?_ofList_eq_some distinct]

/-- Inserting a binding that agrees with what the map holds adds that binding and nothing else. -/
theorem getElem?_insert_eq_some {m : Std.ExtTreeMap κ υ} {k : κ} {v : υ}
    (agree : ∀ w, m[k]? = some w → w = v) {k' : κ} {v' : υ} :
    (m.insert k v)[k']? = some v' ↔ m[k']? = some v' ∨ (k' = k ∧ v' = v) := by
  rw [Std.ExtTreeMap.getElem?_insert]
  by_cases hk : k' = k
  · subst hk
    rw [if_pos Std.ReflCmp.compare_self, Option.some.injEq]
    constructor
    · rintro rfl
      exact .inr ⟨rfl, rfl⟩
    · rintro (h | ⟨-, rfl⟩)
      · exact (agree v' h).symm
      · rfl
  · rw [if_neg fun heq => hk (Std.LawfulEqCmp.eq_of_compare heq).symm]
    simp [hk]

/-- **A loop over a map, seen from one key.** -/
theorem foldl_toList_view {step : σ → κ × υ → σ} (view : σ → κ → ρ) (effect : κ → υ → ρ → ρ)
    (other : ∀ s k v k', k' ≠ k → view (step s (k, v)) k' = view s k')
    (own : ∀ s k v, view (step s (k, v)) k = effect k v (view s k))
    (m : Std.ExtTreeMap κ υ) (s : σ) (k : κ) :
    view (m.toList.foldl step s) k =
      match m[k]? with
      | some v => effect k v (view s k)
      | none => view s k := by
  rcases h : m[k]? with _ | v
  · refine foldl_view_of_notMem other fun e he heq => ?_
    obtain ⟨k', v⟩ := e
    subst heq
    rw [Std.ExtTreeMap.mem_toList_iff_getElem?_eq_some, h] at he
    cases he
  · exact foldl_view_of_mem other own (pairwise_ne_toList m)
      (Std.ExtTreeMap.mem_toList_iff_getElem?_eq_some.mpr h)

/-! ## Merging maps

A merge walks the incoming map and looks at the value the other one has under the same key. Whether
it fails is decided key by key, and so is the result. -/

/-- Merge one binding into `s`: `combine` sees the value `s` has under the key, if any, and the
incoming one. -/
def mergeEntry {ε : Type} (combine : κ → Option υ → υ → Except ε υ) (s : Std.ExtTreeMap κ υ)
    (entry : κ × υ) : Except ε (Std.ExtTreeMap κ υ) := do
  let w ← combine entry.1 s[entry.1]? entry.2
  return s.insert entry.1 w

/-- Merge the bindings of `m` into `s`, one after the other. -/
def mergeInto {ε : Type} (combine : κ → Option υ → υ → Except ε υ) (m s : Std.ExtTreeMap κ υ) :
    Except ε (Std.ExtTreeMap κ υ) :=
  m.toList.foldlM (mergeEntry combine) s

/-- **A merge that never conflicts.** Every key of `m` gets its combined value, and nothing else
changes. -/
theorem mergeInto_eq_ok {ε : Type} {combine : κ → Option υ → υ → Except ε υ} {w : κ → υ → υ}
    {m s : Std.ExtTreeMap κ υ}
    (h : ∀ k v, m[k]? = some v → combine k s[k]? v = .ok (w k v)) :
    ∃ s', mergeInto combine m s = .ok s' ∧
      ∀ k, s'[k]? = match m[k]? with
        | some v => some (w k v)
        | none => s[k]? := by
  -- the keys of the entries still to come have the value they had in `s`
  have hloop : ∀ (entries : List (κ × υ)) (t : Std.ExtTreeMap κ υ),
      entries.Pairwise (fun a b => a.1 ≠ b.1) →
      (∀ e ∈ entries, combine e.1 t[e.1]? e.2 = .ok (w e.1 e.2)) →
      entries.foldlM (mergeEntry combine) t = .ok (entries.foldl (fun t e => t.insert e.1 (w e.1 e.2)) t) := by
    intro entries
    induction entries with
    | nil => intro t _ _; rfl
    | cons e rest ih =>
      intro t hdist hok
      rw [List.pairwise_cons] at hdist
      rw [List.foldlM_cons, List.foldl_cons, mergeEntry, hok e List.mem_cons_self]
      refine ih _ hdist.2 fun e' he' => ?_
      rw [Std.ExtTreeMap.getElem?_insert, if_neg fun heq =>
        hdist.1 e' he' (Std.LawfulEqCmp.eq_of_compare heq)]
      exact hok e' (List.mem_cons_of_mem e he')
  refine ⟨_, hloop m.toList s (pairwise_ne_toList m) fun e he => ?_, fun k => ?_⟩
  · exact h e.1 e.2 (Std.ExtTreeMap.mem_toList_iff_getElem?_eq_some.mp he)
  · refine foldl_toList_view (fun t k => t[k]?) (fun k v _ => some (w k v)) ?_ ?_ m s k
    · intro t k v k' hne
      rw [Std.ExtTreeMap.getElem?_insert, if_neg fun heq =>
        hne (Std.LawfulEqCmp.eq_of_compare heq).symm]
    · intro t k v
      rw [Std.ExtTreeMap.getElem?_insert, if_pos Std.ReflCmp.compare_self]

end Lawful

section Apart

variable [Ord κ] [Std.TransOrd κ]

/-- No key is in both maps. -/
def KeysApart {υ' : Type} (a : Std.ExtTreeMap κ υ) (b : Std.ExtTreeMap κ υ') : Prop :=
  ∀ (k : κ) (v : υ) (v' : υ'), a[k]? = some v → b[k]? ≠ some v'

theorem KeysApart.symm {υ' : Type} {a : Std.ExtTreeMap κ υ} {b : Std.ExtTreeMap κ υ'}
    (h : KeysApart a b) : KeysApart b a :=
  fun k v v' hb ha => h k v' v ha hb

theorem KeysApart.contains_eq_false {υ' : Type} {a : Std.ExtTreeMap κ υ}
    {b : Std.ExtTreeMap κ υ'} (h : KeysApart a b) {k : κ} (hk : k ∈ a) :
    b.contains k = false := by
  obtain ⟨v, hv⟩ := Option.isSome_iff_exists.mp (Std.ExtTreeMap.mem_iff_isSome_getElem?.mp hk)
  rw [Std.ExtTreeMap.contains_eq_isSome_getElem?]
  rcases hb : b[k]? with _ | v'
  · rfl
  · exact absurd hb (h k v v' hv)

/-- The union of maps without a common key has the bindings of both. -/
theorem KeysApart.getElem?_union {a b : Std.ExtTreeMap κ υ} (h : KeysApart a b) {k : κ} {v : υ} :
    (a ∪ b)[k]? = some v ↔ a[k]? = some v ∨ b[k]? = some v := by
  rw [Std.ExtTreeMap.getElem?_union, Option.or_eq_some_iff]
  rcases ha : a[k]? with _ | w
  · simp
  · rcases hb : b[k]? with _ | w'
    · simp
    · exact absurd hb (h k w w' ha)

end Apart

end MapFold
