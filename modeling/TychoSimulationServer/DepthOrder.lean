import Mathlib.Algebra.BigOperators.Group.List.Basic
import Mathlib.Data.List.Forall2
import Mathlib.Tactic.Common

/-!
# Rows read by depth

A list of rows of different lengths is read column by column: first the heads of all rows, then all
second entries, and so on. `byDepth` does that and labels each entry with its column, its `depth`,
and with whether it is the last entry of its row.

* `pairwise_byDepth` — depths never go down;
* `mem_byDepth` — what is read is what stands in the rows;
* `sum_byDepth` — a sum does not depend on the reading order;
* `forall₂_byDepth` — rows related entry by entry are read in the same order.
-/

namespace DepthOrder

variable {α β M : Type}

/-- An entry of a row. -/
structure Cell (α : Type) where
  depth : Nat
  last : Bool
  item : α

/-- A row with its labels, when its head has the given depth. -/
def labelledFrom (depth : Nat) : List α → List (Cell α)
  | [] => []
  | item :: rest => ⟨depth, rest.isEmpty, item⟩ :: labelledFrom (depth + 1) rest

/-- A row with its labels. -/
def labelled (row : List α) : List (Cell α) := labelledFrom 0 row

/-- The number of columns. -/
def width (rows : List (List α)) : Nat := (rows.map List.length).foldl max 0

/-- One column. -/
def column (rows : List (List α)) (depth : Nat) : List (Cell α) :=
  rows.flatMap fun row => (labelled row)[depth]?.toList

/-- The rows, read by depth. -/
def byDepth (rows : List (List α)) : List (Cell α) :=
  (List.range (width rows)).flatMap (column rows)

/-- A running maximum is above its start and above every number it has seen. -/
theorem le_foldl_max {xs : List Nat} {start : Nat} :
    start ≤ xs.foldl max start ∧ ∀ x ∈ xs, x ≤ xs.foldl max start := by
  induction xs generalizing start with
  | nil => simp
  | cons x xs ih =>
    obtain ⟨hstart, hall⟩ := @ih (max start x)
    rw [List.foldl_cons]
    refine ⟨by omega, List.forall_mem_cons.mpr ⟨by omega, hall⟩⟩

/-- No row is longer than the rows are wide. -/
theorem length_le_width {rows : List (List α)} {row : List α} (h : row ∈ rows) :
    row.length ≤ width rows :=
  le_foldl_max.2 _ (List.mem_map_of_mem h)

theorem getElem?_labelledFrom (row : List α) (start depth : Nat) :
    (labelledFrom start row)[depth]? =
      row[depth]?.map fun item => ⟨start + depth, decide (depth + 1 = row.length), item⟩ := by
  induction row generalizing start depth with
  | nil => rfl
  | cons item rest ih =>
    cases depth with
    | zero =>
      have hlast : rest.isEmpty = decide (0 + 1 = (item :: rest).length) := by
        cases rest <;> simp
      simp [labelledFrom, hlast]
    | succ depth =>
      rw [labelledFrom, List.getElem?_cons_succ, List.getElem?_cons_succ, ih]
      have hdepth : start + 1 + depth = start + (depth + 1) := by omega
      simp only [List.length_cons, Nat.add_right_cancel_iff, hdepth]

/-- An entry is labelled with its place in its row. -/
theorem getElem?_labelled (row : List α) (depth : Nat) :
    (labelled row)[depth]? =
      row[depth]?.map fun item => ⟨depth, decide (depth + 1 = row.length), item⟩ := by
  rw [labelled, getElem?_labelledFrom]
  simp only [Nat.zero_add]

theorem length_labelledFrom (row : List α) (start : Nat) :
    (labelledFrom start row).length = row.length := by
  induction row generalizing start with
  | nil => rfl
  | cons item rest ih => rw [labelledFrom, List.length_cons, List.length_cons, ih]

/-! ## Order -/

theorem depth_of_mem_column {rows : List (List α)} {depth : Nat} {cell : Cell α}
    (h : cell ∈ column rows depth) : cell.depth = depth := by
  obtain ⟨row, -, hcell⟩ := List.mem_flatMap.mp h
  rw [Option.mem_toList, getElem?_labelled] at hcell
  obtain ⟨item, -, rfl⟩ := Option.map_eq_some_iff.mp hcell
  rfl

/-- **Depths never go down.** -/
theorem pairwise_byDepth (rows : List (List α)) :
    (byDepth rows).Pairwise fun earlier later => earlier.depth ≤ later.depth := by
  unfold byDepth
  rw [List.pairwise_flatMap]
  refine ⟨fun depth _ => ?_, ?_⟩
  · refine List.pairwise_of_forall_mem_list fun a ha b hb => ?_
    exact Nat.le_of_eq ((depth_of_mem_column ha).trans (depth_of_mem_column hb).symm)
  · refine List.pairwise_lt_range.imp fun {i j} hlt a ha b hb => ?_
    rw [depth_of_mem_column ha, depth_of_mem_column hb]
    exact Nat.le_of_lt hlt

/-! ## Contents

An entry stands in one column only, and a column has one entry of each row that is long enough. So
what is read is the rows, in another order. -/

/-- The cells of a row name the place of their entry. -/
theorem mem_labelled {row : List α} {cell : Cell α} :
    cell ∈ labelled row ↔
      row[cell.depth]? = some cell.item ∧ cell.last = decide (cell.depth + 1 = row.length) := by
  rw [List.mem_iff_getElem?]
  simp only [getElem?_labelled, Option.map_eq_some_iff]
  constructor
  · rintro ⟨depth, item, hitem, rfl⟩
    exact ⟨hitem, rfl⟩
  · rintro ⟨hitem, hlast⟩
    refine ⟨cell.depth, cell.item, hitem, ?_⟩
    rw [← hlast]

/-- **What is read** is what stands in the rows. -/
theorem mem_byDepth {rows : List (List α)} {cell : Cell α} :
    cell ∈ byDepth rows ↔ ∃ row ∈ rows, cell ∈ labelled row := by
  unfold byDepth
  rw [List.mem_flatMap]
  constructor
  · rintro ⟨depth, -, hcell⟩
    obtain ⟨row, hrow, hcell⟩ := List.mem_flatMap.mp hcell
    exact ⟨row, hrow, List.mem_of_getElem? (Option.mem_toList.mp hcell)⟩
  · rintro ⟨row, hrow, hcell⟩
    obtain ⟨depth, hdepth⟩ := List.mem_iff_getElem?.mp hcell
    refine ⟨depth, ?_, List.mem_flatMap.mpr ⟨row, hrow, Option.mem_toList.mpr hdepth⟩⟩
    obtain ⟨hlt, -⟩ := List.getElem?_eq_some_iff.mp hdepth
    rw [labelled, length_labelledFrom] at hlt
    exact List.mem_range.mpr (Nat.lt_of_lt_of_le hlt (length_le_width hrow))

/-- A list is read place by place, also beyond its end. -/
theorem flatMap_range_getElem? (xs : List α) {count : Nat} (h : xs.length ≤ count) :
    (List.range count).flatMap (fun i => xs[i]?.toList) = xs := by
  induction xs generalizing count with
  | nil => simp
  | cons x xs ih =>
    cases count with
    | zero => simp at h
    | succ count =>
      rw [List.range_succ_eq_map, List.flatMap_cons, List.flatMap_map]
      simp only [List.getElem?_cons_succ]
      rw [ih (Nat.le_of_succ_le_succ h)]
      rfl

theorem sum_map_flatMap_append [AddCommMonoid M] (weight : α → M) (keys : List Nat)
    (f g : Nat → List α) :
    ((keys.flatMap fun k => f k ++ g k).map weight).sum =
      ((keys.flatMap f).map weight).sum + ((keys.flatMap g).map weight).sum := by
  induction keys with
  | nil => simp
  | cons k keys ih =>
    simp only [List.flatMap_cons, List.map_append, List.sum_append, ih]
    rw [add_add_add_comm]

/-- **A sum** over the cells does not depend on the order they are read in. -/
theorem sum_byDepth [AddCommMonoid M] (weight : Cell α → M) (rows : List (List α)) :
    ((byDepth rows).map weight).sum =
      (rows.map fun row => ((labelled row).map weight).sum).sum := by
  -- the number of columns read may be larger than needed
  suffices ∀ count, (∀ row ∈ rows, row.length ≤ count) →
      (((List.range count).flatMap (column rows)).map weight).sum =
        (rows.map fun row => ((labelled row).map weight).sum).sum from
    this (width rows) fun row hrow => length_le_width hrow
  intro count hcount
  induction rows with
  | nil =>
    have hnone : (List.range count).flatMap (column ([] : List (List α))) = [] :=
      List.flatMap_eq_nil_iff.mpr fun _ _ => rfl
    rw [hnone]
    rfl
  | cons row rows ih =>
    obtain ⟨hrow, hrows⟩ := List.forall_mem_cons.mp hcount
    have hsplit : (((List.range count).flatMap (column (row :: rows))).map weight).sum =
        (((List.range count).flatMap fun i => (labelled row)[i]?.toList).map weight).sum +
          (((List.range count).flatMap (column rows)).map weight).sum :=
      sum_map_flatMap_append weight _ _ _
    rw [hsplit, ih hrows, flatMap_range_getElem? _ (by rwa [labelled, length_labelledFrom]),
      List.map_cons, List.sum_cons]

theorem map_item_labelledFrom (row : List α) (start : Nat) :
    (labelledFrom start row).map (·.item) = row := by
  induction row generalizing start with
  | nil => rfl
  | cons item rest ih => rw [labelledFrom, List.map_cons, ih]

/-- Reading by depth keeps the number of pieces the entries are cut into. -/
theorem length_flatMap_byDepth (rows : List (List α)) (f : α → List β) :
    ((byDepth rows).flatMap fun cell => f cell.item).length = (rows.flatten.flatMap f).length := by
  rw [List.length_flatMap, List.length_flatMap, List.map_flatten,
    sum_byDepth (fun cell : Cell α => (f cell.item).length) rows]
  induction rows with
  | nil => rfl
  | cons row rows ih =>
    have hrow : (labelled row).map (fun cell : Cell α => (f cell.item).length) =
        row.map fun item => (f item).length := by
      have hitems := congrArg (List.map fun item => (f item).length) (map_item_labelledFrom row 0)
      rwa [List.map_map] at hitems
    rw [List.map_cons, List.sum_cons, List.map_cons, List.flatten_cons, List.sum_append, hrow, ih]

/-! ## Relations -/

/-- Equal labels and related items. -/
structure CellRel (R : α → β → Prop) (x : Cell α) (y : Cell β) : Prop where
  depth : x.depth = y.depth
  last : x.last = y.last
  item : R x.item y.item

theorem forall₂_getElem?_toList {R : α → β → Prop} {xs : List α} {ys : List β}
    (h : List.Forall₂ R xs ys) (i : Nat) : List.Forall₂ R xs[i]?.toList ys[i]?.toList := by
  induction h generalizing i with
  | nil => exact .nil
  | cons hxy _ ih =>
    cases i with
    | zero => exact .cons hxy .nil
    | succ i => exact ih i

theorem forall₂_labelledFrom {R : α → β → Prop} {xs : List α} {ys : List β}
    (h : List.Forall₂ R xs ys) (start : Nat) :
    List.Forall₂ (CellRel R) (labelledFrom start xs) (labelledFrom start ys) := by
  induction h generalizing start with
  | nil => exact .nil
  | cons hxy hrest ih =>
    refine .cons ⟨rfl, ?_, hxy⟩ (ih (start + 1))
    cases hrest with
    | nil => rfl
    | cons => rfl

theorem map_length_eq {R : α → β → Prop} {rows : List (List α)} {rows' : List (List β)}
    (h : List.Forall₂ (List.Forall₂ R) rows rows') :
    rows.map List.length = rows'.map List.length := by
  induction h with
  | nil => rfl
  | cons hrow _ ih => rw [List.map_cons, List.map_cons, hrow.length_eq, ih]

/-- **Related rows** are read in the same order. -/
theorem forall₂_byDepth {R : α → β → Prop} {rows : List (List α)} {rows' : List (List β)}
    (h : List.Forall₂ (List.Forall₂ R) rows rows') :
    List.Forall₂ (CellRel R) (byDepth rows) (byDepth rows') := by
  unfold byDepth width
  rw [map_length_eq h]
  refine List.rel_flatMap (R := Eq) (List.forall₂_same.mpr fun _ _ => rfl) ?_
  rintro depth _ rfl
  exact List.rel_flatMap h fun row row' hrow => forall₂_getElem?_toList (forall₂_labelledFrom hrow 0) _

end DepthOrder
