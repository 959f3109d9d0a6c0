import Hartos.KeyedGroups

/-!
A secondary index of a row list: under each key the ids of the rows with that
key, in row order, and nothing under a key no row has. `add` and `discard` are
the two updates by hand; each keeps the index the projection of its rows when
the rows change the same way.
-/
namespace BucketIndex
open KeyedTable KeyedGroups

universe u v w
variable {Key : Type u} {Id : Type v} {Row : Type w} [DecidableEq Key]

abbrev Index (Key : Type u) (Id : Type v) [DecidableEq Key] := Dict Key (List Id)

def stored : List Id → Option (List Id)
  | [] => none
  | first :: rest => some (first :: rest)

theorem stored_ne_nil (ids : List Id) (full : ids ≠ []) : stored ids = some ids := by
  cases ids with
  | nil => exact absurd rfl full
  | cons => rfl

namespace Index

def bucket (index : Index Key Id) (key : Key) : List Id := (index.value? key).getD []

variable [DecidableEq Id]

def insert (id : Id) (ids : List Id) : List Id := if id ∈ ids then ids else ids ++ [id]

def add (index : Index Key Id) (key : Key) (id : Id) : Index Key Id :=
  index.setDefault key [] (insert id)

def discard (index : Index Key Id) (key : Key) (id : Id) : Index Key Id :=
  match index.value? key with
  | none => index
  | some ids =>
      match ids.filter (· ≠ id) with
      | [] => index.erase key
      | first :: rest => index.set (key, first :: rest)

theorem value?_discard (index : Index Key Id) (key wanted : Key) (id : Id) :
    (index.discard key id).value? wanted =
      if key = wanted then (index.value? wanted).bind fun ids => stored (ids.filter (· ≠ id))
      else index.value? wanted := by
  cases found : index.value? key with
  | none =>
    by_cases same : key = wanted
    · subst same
      simp [discard, found]
    · simp [discard, found, same]
  | some ids =>
    simp only [discard, found]
    cases left : ids.filter (· ≠ id) with
    | nil =>
      by_cases same : key = wanted
      · subst same
        rw [if_pos rfl, found, Option.bind_some, left]
        simp [Dict.value?, Table.get?_erase, stored]
      · simp [Dict.value?, Table.get?_erase, same, Ne.symm same]
    | cons first rest =>
      by_cases same : key = wanted
      · subst same
        rw [if_pos rfl, found, Option.bind_some, left]
        simp [Dict.value?, stored]
      · simp [Dict.value?, Table.get?_set, same]

end Index

def Projects (key : Row → Key) (id : Row → Id) (index : Index Key Id) (rows : List Row) : Prop :=
  ∀ wanted, index.value? wanted = stored ((group key wanted rows).map id)

variable {key : Row → Key} {id : Row → Id} {index : Index Key Id} {rows : List Row}

theorem projects_empty (key : Row → Key) (id : Row → Id) : Projects key id Dict.empty [] := by
  intro wanted
  rfl

theorem Projects.bucket (projects : Projects key id index rows) (wanted : Key) :
    index.bucket wanted = (group key wanted rows).map id := by
  rw [Index.bucket, projects wanted]
  cases (group key wanted rows).map id <;> rfl

variable [DecidableEq Id]

theorem Projects.add (projects : Projects key id index rows) (row : Row)
    (fresh : id row ∉ rows.map id) :
    Projects key id (index.add (key row) (id row)) (rows ++ [row]) := by
  intro wanted
  rw [Index.add, Dict.value?_setDefault, group_snoc]
  by_cases hit : key row = wanted
  · have filled := projects.bucket wanted
    have absent : id row ∉ (group key wanted rows).map id := by
      intro inside
      obtain ⟨other, member, same⟩ := List.mem_map.mp inside
      exact fresh (same ▸ List.mem_map_of_mem ((mem_group key wanted rows other).mp member).1)
    rw [Index.bucket] at filled
    rw [if_pos hit, if_pos hit, filled, Index.insert, if_neg absent, List.map_append,
      List.map_singleton, stored_ne_nil]
    simp
  · rw [if_neg hit, if_neg hit, List.append_nil, projects wanted]

theorem group_without (key : Row → Key) (id : Row → Id) (wanted : Key) (gone : Id)
    (rows : List Row) :
    (group key wanted (rows.filter fun row => !decide (id row = gone))).map id =
      ((group key wanted rows).map id).filter (· ≠ gone) := by
  rw [group, group, List.filter_map, List.filter_filter, List.filter_filter]
  simp [Bool.and_comm]

theorem Projects.discard (projects : Projects key id index rows) (row : Row)
    (inside : row ∈ rows) (unique : (rows.map id).Nodup) :
    Projects key id (index.discard (key row) (id row))
      (rows.filter fun other => !decide (id other = id row)) := by
  intro wanted
  rw [Index.value?_discard, projects wanted, group_without]
  by_cases hit : key row = wanted
  · have full : (group key wanted rows).map id ≠ [] :=
      List.ne_nil_of_mem (List.mem_map_of_mem ((mem_group key wanted rows row).mpr ⟨inside, hit⟩))
    rw [if_pos hit, stored_ne_nil _ full, Option.bind_some]
  · -- The row is in no other key's bucket, so those are what they were.
    have kept : ((group key wanted rows).map id).filter (· ≠ id row) =
        (group key wanted rows).map id := by
      apply List.filter_eq_self.mpr
      intro other member
      obtain ⟨entry, found, same⟩ := List.mem_map.mp member
      obtain ⟨present, named⟩ := (mem_group key wanted rows entry).mp found
      apply decide_eq_true
      intro equal
      have identical := List.inj_on_of_nodup_map unique present inside (same.trans equal)
      exact hit (identical ▸ named)
    rw [if_neg hit, kept]

end BucketIndex
