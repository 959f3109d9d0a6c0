import Hartos.KeyedTable
import Mathlib.Order.Basic

/-!
What a table keeps when every write replaces the row of its key. Held against the rows
written so far, a table is newest when each key has the one row with the greatest stamp;
such a table is determined by the rows written, in whatever order and however often.
-/
namespace KeyedTable.Table

universe u v w
variable {Key : Type u} {Row : Type v} {Stamp : Type w} [DecidableEq Key] [Preorder Stamp]
variable {key : Row → Key} {stamp : Row → Stamp} {table other : Table key}
variable {written rewritten : List Row}

structure Newest (stamp : Row → Stamp) (written : List Row) (table : Table key) : Prop where
  kept : ∀ row ∈ table.rows, row ∈ written
  newest : ∀ row ∈ written, ∃ held, table.get? (key row) = some held ∧
    (held = row ∨ stamp row < stamp held)

theorem newest_empty (stamp : Row → Stamp) : Newest stamp [] (empty key) := by
  constructor
  · intro row member
    cases member
  · intro row member
    cases member

section

variable (newest : Newest stamp written table)
include newest

theorem Newest.of_get? (wanted : Key) (row : Row) (found : table.get? wanted = some row) :
    row ∈ written :=
  newest.kept row (table.get?_mem wanted row found)

/-- A write keeps the table newest exactly when what it replaces is that row or an
older one. -/
theorem newest_set_iff (row : Row) :
    Newest stamp (row :: written) (table.set row) ↔
      ∀ held, table.get? (key row) = some held → held = row ∨ stamp held < stamp row := by
  constructor
  · intro after held found
    have sameKey := table.get?_key (key row) held found
    have member := newest.of_get? (key row) held found
    obtain ⟨top, here, order⟩ := after.newest held (List.mem_cons_of_mem row member)
    rw [sameKey, table.get?_set_self, Option.some.injEq] at here
    subst here
    rcases order with same | older
    · exact .inl same.symm
    · exact .inr older
  · intro replaces
    constructor
    · intro last member
      rcases (table.mem_set row last).mp member with same | ⟨stays, -⟩
      · exact same ▸ List.mem_cons_self
      · exact List.mem_cons_of_mem row (newest.kept last stays)
    · intro earlier member
      by_cases sameKey : key row = key earlier
      · refine ⟨row, by rw [← sameKey, table.get?_set_self], ?_⟩
        rcases List.mem_cons.mp member with same | before
        · exact .inl same.symm
        · obtain ⟨held, found, order⟩ := newest.newest earlier before
          have replaced := replaces held (sameKey ▸ found)
          -- What was written before is the row just replaced, or older than it.
          rcases order with rfl | older
          · exact replaced.imp Eq.symm id
          · rcases replaced with rfl | oldest
            · exact .inr older
            · exact .inr (older.trans oldest)
      · rcases List.mem_cons.mp member with same | before
        · exact absurd (same ▸ rfl) sameKey
        · obtain ⟨held, found, order⟩ := newest.newest earlier before
          exact ⟨held, by rw [get?_set, if_neg sameKey, found], order⟩

theorem Newest.answers (others : Newest stamp rewritten other)
    (same : ∀ row, row ∈ written ↔ row ∈ rewritten) (wanted : Key) (row : Row)
    (found : table.get? wanted = some row) : other.get? wanted = some row := by
  have sameKey := table.get?_key wanted row found
  obtain ⟨held, here, order⟩ := others.newest row ((same row).mp (newest.of_get? wanted row found))
  rw [sameKey] at here
  rcases order with rfl | older
  · exact here
  · have heldKey := other.get?_key wanted held here
    have written := (same held).mpr (others.of_get? wanted held here)
    obtain ⟨top, there, last⟩ := newest.newest held written
    rw [heldKey, found, Option.some.injEq] at there
    subst there
    rcases last with rfl | later
    · exact here
    · exact absurd later (lt_asymm older)

-- Two tables that are newest for the same rows answer every lookup alike.
theorem Newest.get?_eq (others : Newest stamp rewritten other)
    (same : ∀ row, row ∈ written ↔ row ∈ rewritten) (wanted : Key) :
    table.get? wanted = other.get? wanted := by
  ext row
  constructor
  · exact newest.answers others same wanted row
  · exact others.answers newest (fun row => (same row).symm) wanted row

end

theorem rows_perm_of_get? (agree : ∀ wanted, table.get? wanted = other.get? wanted) :
    table.rows.Perm other.rows := by
  have nodup (any : Table key) : any.rows.Nodup := List.Nodup.of_map key any.unique
  apply (List.perm_ext_iff_of_nodup (nodup table) (nodup other)).mpr
  intro row
  rw [mem_rows, mem_rows, agree]

end KeyedTable.Table
