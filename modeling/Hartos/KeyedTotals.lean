import Hartos.KeyedTable
import Mathlib.Algebra.BigOperators.Group.List.Basic
import Mathlib.Algebra.Order.BigOperators.Group.List
import Mathlib.Algebra.Order.Group.Int
import Mathlib.Algebra.Ring.Int.Defs

/-!
A weight summed along the rows of a keyed table. Writing a row exchanges the weight
of the row it replaces for its own; dropping a key takes its weight away. The rows may
also all be rewritten in place, each under its own key, or dropped.
-/
namespace KeyedTable.Table

universe u v
variable {Key : Type u} {Row : Type v} [DecidableEq Key] {key : Row → Key}

def total (table : Table key) (weight : Row → Int) : Int := (table.rows.map weight).sum

def weightAt (table : Table key) (weight : Row → Int) (wanted : Key) : Int :=
  match table.get? wanted with
  | none => 0
  | some row => weight row

variable (rows : List Row) (table : Table key) (change : Row → Option Row)
  (kept : ∀ row new, change row = some new → key new = key row) (keep : Row → Bool)
  (weight : Row → Int) (wanted : Key) (row : Row)

theorem weightAt_none (absent : table.get? wanted = none) : table.weightAt weight wanted = 0 := by
  simp [weightAt, absent]

theorem weightAt_some (found : table.get? wanted = some row) :
    table.weightAt weight wanted = weight row := by
  simp [weightAt, found]

theorem put_total (rows : List Row) :
    ((put key row rows).map weight).sum = (rows.map weight).sum + weight row -
      (match lookup key (key row) rows with | none => 0 | some old => weight old) := by
  induction rows with
  | nil => simp [put, lookup]
  | cons first rest ih =>
    by_cases hit : key first = key row
    · simp only [put, lookup, hit, ↓reduceIte, List.map_cons, List.sum_cons]
      omega
    · simp only [put, lookup, hit, ↓reduceIte, List.map_cons, List.sum_cons, ih]
      omega

theorem total_set :
    (table.set row).total weight =
      table.total weight + weight row - table.weightAt weight (key row) :=
  put_total weight row table.rows

theorem total_erase (dropped : Key) :
    (table.erase dropped).total weight = table.total weight - table.weightAt weight dropped := by
  obtain ⟨rows, unique⟩ := table
  simp only [total, erase, weightAt, get?]
  induction rows with
  | nil => simp [lookup]
  | cons first rest ih =>
    simp only [List.map_cons, List.nodup_cons] at unique
    by_cases hit : key first = dropped
    · -- The dropped key names no later row.
      have later : rest.filter (fun row => !decide (key row = dropped)) = rest := by
        rw [List.filter_eq_self]
        intro row member
        have other : key row ≠ dropped := fun same =>
          unique.1 (hit ▸ same ▸ List.mem_map_of_mem member)
        simp [other]
      simp [lookup, hit, later]
    · have tail := ih unique.2
      simp only [hit, lookup, List.filter_cons, decide_false, Bool.not_false, ↓reduceIte,
        List.map_cons, List.sum_cons, tail]
      omega

omit [DecidableEq Key] in
theorem total_nonneg (all : ∀ row, 0 ≤ weight row) : 0 ≤ table.total weight := by
  apply List.sum_nonneg
  intro amount member
  obtain ⟨row, -, rfl⟩ := List.mem_map.mp member
  exact all row

theorem weightAt_le_total (all : ∀ row, 0 ≤ weight row) (wanted : Key) :
    table.weightAt weight wanted ≤ table.total weight := by
  have rest := (table.erase wanted).total_nonneg weight all
  rw [total_erase] at rest
  omega

omit [DecidableEq Key] in
theorem total_eq_zero (all : ∀ row ∈ table.rows, weight row = 0) : table.total weight = 0 := by
  apply List.sum_eq_zero
  intro amount member
  obtain ⟨row, here, rfl⟩ := List.mem_map.mp member
  exact all row here

def mapRows (table : Table key) (change : Row → Row) (kept : ∀ row, key (change row) = key row) :
    Table key where
  rows := table.rows.map change
  unique := by
    have same : (table.rows.map change).map key = table.rows.map key := by
      rw [List.map_map]
      exact List.map_congr_left fun row _ => kept row
    rw [same]
    exact table.unique

theorem get?_mapRows (change : Row → Row) (kept : ∀ row, key (change row) = key row)
    (wanted : Key) :
    (table.mapRows change kept).get? wanted = (table.get? wanted).map change := by
  change lookup key wanted (table.rows.map change) = (lookup key wanted table.rows).map change
  induction table.rows with
  | nil => rfl
  | cons first rest ih =>
    rw [List.map_cons, lookup, lookup, kept]
    by_cases here : key first = wanted
    · rw [if_pos here, if_pos here]
      rfl
    · rw [if_neg here, if_neg here]
      exact ih

omit [DecidableEq Key] in
theorem filterMap_keys (kept : ∀ row new, change row = some new → key new = key row) :
    ((rows.filterMap change).map key).Sublist (rows.map key) := by
  induction rows with
  | nil => exact List.Sublist.refl []
  | cons first rest ih =>
    cases changed : change first with
    | none =>
      rw [List.filterMap_cons_none changed]
      exact ih.cons (key first)
    | some new =>
      rw [List.filterMap_cons_some changed, List.map_cons, List.map_cons,
        kept first new changed]
      exact ih.cons_cons (key first)

def filterMapRows (table : Table key) (change : Row → Option Row)
    (kept : ∀ row new, change row = some new → key new = key row) : Table key where
  rows := table.rows.filterMap change
  unique := table.unique.sublist (filterMap_keys table.rows change kept)

theorem get?_filterMapRows :
    (table.filterMapRows change kept).get? wanted = (table.get? wanted).bind change := by
  obtain ⟨rows, unique⟩ := table
  change lookup key wanted (rows.filterMap change) = (lookup key wanted rows).bind change
  induction rows with
  | nil => rfl
  | cons first rest ih =>
    obtain ⟨absent, others⟩ := List.nodup_cons.mp unique
    have tail := ih others
    rw [lookup]
    cases changed : change first with
    | none =>
      rw [List.filterMap_cons_none changed, tail]
      by_cases here : key first = wanted
      · subst here
        rw [if_pos rfl, Option.bind_some, changed, (lookup_none key _ rest).mpr absent]
        rfl
      · rw [if_neg here]
    | some new =>
      rw [List.filterMap_cons_some changed, lookup, kept first new changed, tail]
      by_cases here : key first = wanted
      · rw [if_pos here, if_pos here, Option.bind_some, changed]
      · rw [if_neg here, if_neg here]

def keepRows (table : Table key) (keep : Row → Bool) : Table key where
  rows := table.rows.filter keep
  unique := table.unique.sublist (List.filter_sublist.map key)

theorem get?_keepRows : (table.keepRows keep).get? wanted = (table.get? wanted).filter keep := by
  obtain ⟨rows, unique⟩ := table
  change lookup key wanted (rows.filter keep) = (lookup key wanted rows).filter keep
  induction rows with
  | nil => rfl
  | cons first rest ih =>
    obtain ⟨absent, others⟩ := List.nodup_cons.mp unique
    have tail := ih others
    rw [lookup]
    cases kept : keep first with
    | true =>
      rw [List.filter_cons_of_pos kept, lookup, tail]
      by_cases here : key first = wanted
      · rw [if_pos here, if_pos here, Option.filter_some, if_pos kept]
      · rw [if_neg here, if_neg here]
    | false =>
      rw [List.filter_cons_of_neg (by rw [kept]; exact Bool.false_ne_true), tail]
      by_cases here : key first = wanted
      · subst here
        rw [if_pos rfl, Option.filter_some, kept, (lookup_none key _ rest).mpr absent]
        rfl
      · rw [if_neg here]

omit [DecidableEq Key] in
/-- Rows that are dropped, or rewritten to weigh no more. -/
theorem total_filterMapRows_le (nonneg : ∀ row, 0 ≤ weight row)
    (lighter : ∀ row new, change row = some new → weight new ≤ weight row) :
    (table.filterMapRows change kept).total weight ≤ table.total weight := by
  change ((table.rows.filterMap change).map weight).sum ≤ (table.rows.map weight).sum
  induction table.rows with
  | nil => exact Int.le_refl 0
  | cons first rest ih =>
    rw [List.map_cons, List.sum_cons]
    cases changed : change first with
    | none =>
      rw [List.filterMap_cons_none changed]
      have here := nonneg first
      omega
    | some new =>
      rw [List.filterMap_cons_some changed, List.map_cons, List.sum_cons]
      have here := lighter first new changed
      omega

omit [DecidableEq Key] in
theorem total_keepRows_le (nonneg : ∀ row, 0 ≤ weight row) :
    (table.keepRows keep).total weight ≤ table.total weight := by
  change ((table.rows.filter keep).map weight).sum ≤ (table.rows.map weight).sum
  induction table.rows with
  | nil => exact Int.le_refl 0
  | cons first rest ih =>
    rw [List.map_cons, List.sum_cons, List.filter_cons]
    have here := nonneg first
    split
    · rw [List.map_cons, List.sum_cons]
      omega
    · omega

end KeyedTable.Table
