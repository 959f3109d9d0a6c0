import Hartos.KeyedTable
import Mathlib.Order.Lattice

/-!
Tables whose rows lapse. A row that has lapsed may still stand in the table, or the
table may be reaped; `live` reads the same either way. `Store` is a server that reaps,
with the commands a lock needs: set if absent, read, renew and delete.
-/
namespace ExpiringKeys
open KeyedTable
variable {Key Row Value Clock : Type*} [DecidableEq Key] [LinearOrder Clock] {key : Row → Key}

def live (expiry : Row → Clock) (table : Table key) (now : Clock) (wanted : Key) : Option Row :=
  match table.get? wanted with
  | none => none
  | some row => if now < expiry row then some row else none

def reap (expiry : Row → Clock) (table : Table key) (now : Clock) : Table key where
  rows := table.rows.filter fun row => decide (now < expiry row)
  unique := (List.filter_sublist.map key).nodup table.unique

variable (expiry : Row → Clock) (table : Table key) {now later : Clock}

theorem live_some (now : Clock) (wanted : Key) (row : Row) :
    live expiry table now wanted = some row ↔ table.get? wanted = some row ∧ now < expiry row := by
  rw [live]
  cases found : table.get? wanted with
  | none => simp only [reduceCtorEq, false_and]
  | some other =>
    dsimp only
    by_cases alive : now < expiry other
    · rw [if_pos alive]
      constructor
      · rintro same
        cases same
        exact ⟨rfl, alive⟩
      · exact And.left
    · rw [if_neg alive]
      constructor
      · intro same
        cases same
      · rintro ⟨same, lives⟩
        cases same
        exact absurd lives alive

theorem live_set (row : Row) (now : Clock) (wanted : Key) :
    live expiry (table.set row) now wanted =
      if key row = wanted then (if now < expiry row then some row else none)
      else live expiry table now wanted := by
  rw [live, Table.get?_set]
  by_cases here : key row = wanted
  · rw [if_pos here, if_pos here]
  · rw [if_neg here, if_neg here, live]

theorem live_erase (dropped : Key) (now : Clock) (wanted : Key) :
    live expiry (table.erase dropped) now wanted =
      if wanted = dropped then none else live expiry table now wanted := by
  rw [live, Table.get?_erase]
  by_cases here : wanted = dropped
  · rw [if_pos here, if_pos here]
  · rw [if_neg here, if_neg here, live]

theorem get?_reap (now : Clock) (wanted : Key) :
    (reap expiry table now).get? wanted = live expiry table now wanted := by
  have listed : ∀ (other : Table key) (row : Row),
      other.get? wanted = some row ↔ row ∈ other.rows ∧ key row = wanted := by
    intro other row
    constructor
    · intro found
      exact ⟨other.get?_mem wanted row found, other.get?_key wanted row found⟩
    · rintro ⟨member, rfl⟩
      exact other.mem_get? row member
  apply Option.ext
  intro row
  rw [live_some, listed, listed, reap, List.mem_filter, decide_eq_true_iff, and_right_comm]

/-- Reaping takes away nothing that a later reading would have seen. -/
theorem live_reap (order : now ≤ later) (wanted : Key) :
    live expiry (reap expiry table now) later wanted = live expiry table later wanted := by
  apply Option.ext
  intro row
  rw [live_some, live_some, get?_reap, live_some, and_assoc]
  apply and_congr_right
  intro _
  constructor
  · exact And.right
  · intro alive
    exact ⟨lt_of_le_of_lt order alive, alive⟩

theorem live_later (order : now ≤ later) (wanted : Key) :
    live expiry table later wanted =
      (live expiry table now wanted).filter fun row => decide (later < expiry row) := by
  apply Option.ext
  intro row
  rw [Option.filter_eq_some_iff, live_some, live_some, decide_eq_true_iff, and_assoc]
  apply and_congr_right
  intro _
  constructor
  · intro alive
    exact ⟨lt_of_le_of_lt order alive, alive⟩
  · exact And.right

structure Item (Key Value Clock : Type*) where
  key : Key
  value : Value
  expiresAt : Clock
  deriving DecidableEq

abbrev Store (Key Value Clock : Type*) := Table (Item.key : Item Key Value Clock → Key)

variable (store : Store Key Value Clock) (wanted : Key)

def setNx (value : Value) (expiresAt : Clock) : Bool × Store Key Value Clock :=
  if (store.get? wanted).isSome then (false, store)
  else (true, store.set ⟨wanted, value, expiresAt⟩)

def fetch : Option Value :=
  (store.get? wanted).map Item.value

def expire (expiresAt : Clock) : Bool × Store Key Value Clock :=
  match store.get? wanted with
  | none => (false, store)
  | some item => (true, store.set { item with expiresAt })

def del : Bool × Store Key Value Clock :=
  ((store.get? wanted).isSome, store.erase wanted)

end ExpiringKeys
