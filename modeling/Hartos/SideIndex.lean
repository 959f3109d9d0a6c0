import Hartos.KeyedTable
import Mathlib.Logic.Function.Basic

/-!
An index beside a table, from a name that rows may share to the key of one row. A new row
takes the place of its name over; a row that is removed takes the place of its name away,
whoever holds it.
-/
namespace SideIndex
open KeyedTable
variable {Row Key Name : Type} {key : Row → Key}

section Listed
variable [DecidableEq Name]

def enlist (key : Row → Key) (name : Row → Option Name) (index : Name → Option Key) (row : Row) :
    Name → Option Key :=
  match name row with
  | none => index
  | some wanted => Function.update index wanted (some (key row))

def unlist (name : Row → Option Name) (index : Name → Option Key) (row : Row) :
    Name → Option Key :=
  match name row with
  | none => index
  | some wanted => Function.update index wanted none

variable (name : Row → Option Name) (index : Name → Option Key) (row : Row) (wanted : Name)

theorem enlist_apply :
    enlist key name index row wanted =
      if name row = some wanted then some (key row) else index wanted := by
  unfold enlist
  cases named : name row with
  | none => simp
  | some own =>
    by_cases same : wanted = own
    · simp [same]
    · simp [same, Ne.symm same]

theorem unlist_apply :
    unlist name index row wanted = if name row = some wanted then none else index wanted := by
  unfold unlist
  cases named : name row with
  | none => simp
  | some own =>
    by_cases same : wanted = own
    · simp [same]
    · simp [same, Ne.symm same]

theorem unlist_all (gone : List Row) (index : Name → Option Key) (wanted : Name) :
    gone.foldl (unlist name) index wanted =
      if some wanted ∈ gone.map name then none else index wanted := by
  induction gone generalizing index with
  | nil => simp
  | cons first rest ih =>
    rw [List.foldl_cons, ih, unlist_apply]
    by_cases here : name first = some wanted
    · simp [here]
    · simp [here, Ne.symm here]

end Listed

variable [DecidableEq Key]

def find (table : Table key) (index : Name → Option Key) (wanted : Name) : Option Row :=
  (index wanted).bind table.get?

def Serves (name : Row → Option Name) (table : Table key) (index : Name → Option Key) : Prop :=
  ∀ row ∈ table.rows, ∀ wanted, name row = some wanted →
    ∃ other, find table index wanted = some other ∧ name other = some wanted

theorem serves_congr {name : Row → Option Name} {table later : Table key}
    {index : Name → Option Key}
    (same : ∀ wanted, (later.get? wanted).map name = (table.get? wanted).map name)
    (serves : Serves name table index) : Serves name later index := by
  intro row member wanted named
  have there : (table.get? (key row)).map name = some (some wanted) := by
    rw [← same, later.mem_get? row member, Option.map_some, named]
  obtain ⟨before, found, sameName⟩ := Option.map_eq_some_iff.mp there
  obtain ⟨other, leads, owns⟩ := serves before (table.get?_mem _ _ found) wanted sameName
  obtain ⟨hash, listed, got⟩ := Option.bind_eq_some_iff.mp leads
  have now : (later.get? hash).map name = some (some wanted) := by
    rw [same, got, Option.map_some, owns]
  obtain ⟨holder, holds, named'⟩ := Option.map_eq_some_iff.mp now
  exact ⟨holder, Option.bind_eq_some_iff.mpr ⟨hash, listed, holds⟩, named'⟩

variable [DecidableEq Name]
variable {name : Row → Option Name}

theorem serves_enlist {table : Table key} {index : Name → Option Key} (row : Row)
    (fresh : table.get? (key row) = none) (serves : Serves name table index) :
    Serves name (table.set row) (enlist key name index row) := by
  intro other member wanted named
  by_cases mine : name row = some wanted
  · have leads : find (table.set row) (enlist key name index row) wanted = some row := by
      rw [find, enlist_apply, if_pos mine, Option.bind_some, Table.get?_set_self]
    exact ⟨row, leads, mine⟩
  · rcases (table.mem_set row other).mp member with now | before
    · exact absurd (now ▸ named) mine
    · obtain ⟨holder, leads, owns⟩ := serves other before.1 wanted named
      obtain ⟨hash, listed, got⟩ := Option.bind_eq_some_iff.mp leads
      have apart : key row ≠ hash := by
        rintro rfl
        rw [fresh] at got
        cases got
      have still : find (table.set row) (enlist key name index row) wanted = some holder := by
        rw [find, enlist_apply, if_neg mine, listed, Option.bind_some, Table.get?_set,
          if_neg apart, got]
      exact ⟨holder, still, owns⟩

/-- Rows are removed unharmed to the rest if no name of theirs is a name of a row that stays. -/
theorem serves_remove {table later : Table key} {index : Name → Option Key} (gone : List Row)
    (kept : ∀ wanted, later.get? wanted =
      if wanted ∈ gone.map key then none else table.get? wanted)
    (among : ∀ row ∈ gone, row ∈ table.rows)
    (parted : ∀ row ∈ later.rows, ∀ wanted, name row = some wanted →
      some wanted ∉ gone.map name) (serves : Serves name table index) :
    Serves name later (gone.foldl (unlist name) index) := by
  intro row member wanted named
  have apart := parted row member wanted named
  have before : row ∈ table.rows := by
    have found := later.mem_get? row member
    rw [kept] at found
    split at found
    next => cases found
    next => exact table.get?_mem _ _ found
  obtain ⟨holder, leads, owns⟩ := serves row before wanted named
  obtain ⟨hash, listed, got⟩ := Option.bind_eq_some_iff.mp leads
  -- The row the name leads to has the name too, so it stays as well.
  have stays : hash ∉ gone.map key := by
    intro member'
    obtain ⟨removed, in', rfl⟩ := List.mem_map.mp member'
    have same : removed = holder := by
      rw [table.mem_get? removed (among removed in')] at got
      exact Option.some.inj got
    exact apart (owns ▸ List.mem_map_of_mem (same ▸ in'))
  have still : find later (gone.foldl (unlist name) index) wanted = some holder := by
    rw [find, unlist_all, if_neg apart, listed, Option.bind_some, kept, if_neg stays, got]
  exact ⟨holder, still, owns⟩

end SideIndex
