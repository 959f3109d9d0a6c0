import Hartos.KeyedTable
import Mathlib.Data.List.Perm.Subperm

/-!
Rows in the order of their last use, of which the oldest are dropped. Of one row all that
matters is that whatever stands behind it has been used since: while that is less than the
capacity, the row stays.
-/
namespace RecencyOrder
open KeyedTable
variable {Row Key : Type*} {key : Row → Key}

/-- The row is there, and what stands behind it has a key among `used`. -/
def Behind (key : Row → Key) (rows : List Row) (row : Row) (used : List Key) : Prop :=
  ∃ before after, rows = before ++ row :: after ∧ ∀ later ∈ after, key later ∈ used

variable {rows : List Row} {row : Row} {used : List Key}

theorem Behind.mem (behind : Behind key rows row used) : row ∈ rows := by
  obtain ⟨before, after, rfl, _⟩ := behind
  simp

theorem Behind.mono {used more : List Key} (grows : ∀ wanted ∈ used, wanted ∈ more)
    (behind : Behind key rows row used) : Behind key rows row more := by
  obtain ⟨before, after, split, since⟩ := behind
  exact ⟨before, after, split, fun later member => grows _ (since later member)⟩

theorem Behind.filter (keeps : Row → Bool) (kept : keeps row = true)
    (behind : Behind key rows row used) : Behind key (rows.filter keeps) row used := by
  obtain ⟨before, after, rfl, since⟩ := behind
  have split : (before ++ row :: after).filter keeps =
      before.filter keeps ++ row :: after.filter keeps := by
    rw [List.filter_append, List.filter_cons_of_pos kept]
  exact ⟨before.filter keeps, after.filter keeps, split,
    fun later member => since later (List.mem_of_mem_filter member)⟩

theorem Behind.append {row newest : Row} {used : List Key} (now : key newest ∈ used)
    (behind : Behind key rows row used) : Behind key (rows ++ [newest]) row used := by
  obtain ⟨before, after, rfl, since⟩ := behind
  have split : (before ++ row :: after) ++ [newest] = before ++ row :: (after ++ [newest]) := by
    rw [List.append_assoc, List.cons_append]
  apply Exists.intro before
  apply Exists.intro (after ++ [newest])
  constructor
  · exact split
  · intro later member
    rcases List.mem_append.mp member with earlier | last
    · exact since later earlier
    · exact List.mem_singleton.mp last ▸ now

theorem behind_last (rows : List Row) (row : Row) (used : List Key) :
    Behind key (rows ++ [row]) row used :=
  ⟨rows, [], rfl, fun _ member => by cases member⟩

-- What is dropped down to the capacity stands before a row with less than that behind it.
theorem Behind.drop {capacity : Nat} (unique : (rows.map key).Nodup) (few : used.length < capacity)
    (behind : Behind key rows row used) :
    Behind key (rows.drop (rows.length - capacity)) row used := by
  obtain ⟨before, after, rfl, since⟩ := behind
  have distinct : (after.map key).Nodup := by
    rw [List.map_append, List.map_cons] at unique
    exact (List.nodup_cons.mp (List.nodup_append.mp unique).2.1).2
  have bound : after.length ≤ used.length := by
    rw [← List.length_map key]
    apply List.Subperm.length_le
    apply distinct.subperm
    intro wanted member
    obtain ⟨later, among, rfl⟩ := List.mem_map.mp member
    exact since later among
  have early : (before ++ row :: after).length - capacity ≤ before.length := by
    rw [List.length_append, List.length_cons]
    omega
  exact ⟨before.drop _, after, List.drop_append_of_le_length early, since⟩

variable [DecidableEq Key]

/-- Dropping the oldest rows is the same as removing their keys. -/
theorem filter_take (rows : List Row) (unique : (rows.map key).Nodup) (count : Nat) :
    rows.filter (fun row => decide (key row ∉ (rows.take count).map key)) = rows.drop count := by
  induction rows generalizing count with
  | nil => simp
  | cons first rest ih =>
    cases count with
    | zero => simp
    | succ count =>
      rw [List.map_cons, List.nodup_cons] at unique
      have others : rest.filter
            (fun row => decide (key row ∉ ((first :: rest).take (count + 1)).map key)) =
          rest.filter (fun row => decide (key row ∉ (rest.take count).map key)) := by
        apply List.filter_congr
        intro row member
        have differ : key row ≠ key first := by
          intro same
          exact unique.1 (same ▸ List.mem_map_of_mem member)
        simp [differ]
      rw [List.filter_cons_of_neg (by simp), others, ih unique.2 count, List.drop_succ_cons]

theorem rows_eraseAll (dropped : List Key) (table : Table key) :
    (dropped.foldl Table.erase table).rows =
      table.rows.filter (fun row => decide (key row ∉ dropped)) := by
  induction dropped generalizing table with
  | nil => simp
  | cons first rest ih =>
    rw [List.foldl_cons, ih]
    simp only [Table.erase, List.filter_filter]
    simp [Bool.and_comm]

theorem rows_eraseOldest (table : Table key) (count : Nat) :
    (((table.rows.take count).map key).foldl Table.erase table).rows = table.rows.drop count := by
  rw [rows_eraseAll, filter_take table.rows table.unique count]

end RecencyOrder
