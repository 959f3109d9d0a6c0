import Hartos.KeyedTable
import Mathlib.Data.List.Induction
import Mathlib.Data.List.Sort

/-!
Dictionaries of groups. `setDefault` is `d.setdefault(key, start)` followed by a
change of what it returns. A list of entries folded into a dictionary so holds,
under each key, the fold of the entries with that key; the values may be
dictionaries built the same way.
-/
namespace KeyedGroups
open KeyedTable

universe u v w
variable {Key : Type u} {Value : Type v} {Image : Type w} {Entry : Type*} [DecidableEq Key]

abbrev Dict (Key : Type u) (Value : Type v) [DecidableEq Key] :=
  Table (Prod.fst : Key × Value → Key)

namespace Dict

def empty : Dict Key Value := Table.empty Prod.fst

def value? (dict : Dict Key Value) (key : Key) : Option Value := (dict.get? key).map Prod.snd

def values (dict : Dict Key Value) : List Value := dict.rows.map Prod.snd

def setDefault (dict : Dict Key Value) (key : Key) (start : Value) (change : Value → Value) :
    Dict Key Value :=
  dict.set (key, change ((dict.value? key).getD start))

def mapValues (change : Value → Image) (dict : Dict Key Value) : Dict Key Image where
  rows := dict.rows.map fun row => (row.1, change row.2)
  unique := by
    rw [List.map_map]
    exact dict.unique

theorem value?_empty (key : Key) : (empty : Dict Key Value).value? key = none := rfl

variable (change : Value → Image) (dict : Dict Key Value) (key wanted : Key) (value : Value)

theorem value?_set :
    Dict.value? (dict.set (key, value)) wanted =
      if key = wanted then some value else dict.value? wanted := by
  rw [value?, Table.get?_set]
  split <;> rfl

theorem value?_setDefault (start : Value) (change : Value → Value) :
    (dict.setDefault key start change).value? wanted =
      if key = wanted then some (change ((dict.value? wanted).getD start))
      else dict.value? wanted := by
  rw [setDefault, value?_set]
  split
  next same => rw [same]
  next => rfl

theorem lookup_mapValues (wanted : Key) (rows : List (Key × Value)) :
    lookup Prod.fst wanted (rows.map fun row => (row.1, change row.2)) =
      (lookup Prod.fst wanted rows).map fun row => (row.1, change row.2) := by
  induction rows with
  | nil => rfl
  | cons first rest ih =>
    by_cases hit : first.1 = wanted
    · simp [lookup, hit]
    · simp [lookup, hit, ih]

@[simp] theorem value?_mapValues (wanted : Key) :
    (dict.mapValues change).value? wanted = (dict.value? wanted).map change := by
  rw [value?, value?, Table.get?, mapValues, lookup_mapValues, Option.map_map, Option.map_map]
  rfl

theorem mem_values : value ∈ dict.values ↔ ∃ key, dict.value? key = some value := by
  constructor
  · intro member
    obtain ⟨row, inside, rfl⟩ := List.mem_map.mp member
    exact ⟨row.1, by rw [value?, dict.mem_get? row inside]; rfl⟩
  · rintro ⟨key, found⟩
    obtain ⟨row, stored, rfl⟩ := Option.map_eq_some_iff.mp found
    exact List.mem_map_of_mem (dict.get?_mem key row stored)

theorem mem_keys (key : Key) : key ∈ dict.keys ↔ ∃ value, dict.value? key = some value := by
  rw [Table.mem_keys]
  constructor
  · rintro ⟨row, stored⟩
    exact ⟨row.2, by rw [value?, stored]; rfl⟩
  · rintro ⟨value, found⟩
    obtain ⟨row, stored, _⟩ := Option.map_eq_some_iff.mp found
    exact ⟨row, stored⟩

theorem all_values (test : Value → Bool) :
    dict.values.all test = true ↔
      ∀ key value, dict.value? key = some value → test value = true := by
  rw [List.all_eq_true]
  constructor
  · intro all key value found
    exact all value ((dict.mem_values value).mpr ⟨key, found⟩)
  · intro each value member
    obtain ⟨key, found⟩ := (dict.mem_values value).mp member
    exact each key value found

end Dict

def collect (key : Entry → Key) (start : Value) (step : Value → Entry → Value)
    (entries : List Entry) : Dict Key Value :=
  entries.foldl
    (fun dict entry => dict.setDefault (key entry) start fun value => step value entry) Dict.empty

def group (key : Entry → Key) (wanted : Key) (entries : List Entry) : List Entry :=
  entries.filter fun entry => key entry = wanted

variable (key : Entry → Key) (start : Value) (step : Value → Entry → Value) (wanted : Key)
  (entries : List Entry)

theorem mem_group (entry : Entry) :
    entry ∈ group key wanted entries ↔ entry ∈ entries ∧ key entry = wanted := by
  simp [group]

theorem group_snoc (front : List Entry) (entry : Entry) :
    group key wanted (front ++ [entry]) =
      group key wanted front ++ if key entry = wanted then [entry] else [] := by
  by_cases hit : key entry = wanted <;> simp [group, hit]

theorem collect_value :
    (collect key start step entries).value? wanted =
      if group key wanted entries = [] then none
      else some ((group key wanted entries).foldl step start) := by
  induction entries using List.reverseRecOn with
  | nil => rfl
  | append_singleton front entry ih =>
    have last : collect key start step (front ++ [entry]) =
        (collect key start step front).setDefault (key entry) start
          fun value => step value entry := by
      rw [collect, List.foldl_append]
      rfl
    rw [last, Dict.value?_setDefault, ih, group_snoc]
    by_cases hit : key entry = wanted
    · by_cases fresh : group key wanted front = [] <;> simp [hit, fresh]
    · simp [hit]

theorem collect_some (value : Value) :
    (collect key start step entries).value? wanted = some value ↔
      (∃ entry ∈ entries, key entry = wanted) ∧
        value = (group key wanted entries).foldl step start := by
  have present : group key wanted entries ≠ [] ↔ ∃ entry ∈ entries, key entry = wanted := by
    simp [group]
  rw [collect_value, ← present]
  split
  next none => simp [none]
  next some => simp [some, eq_comm]

section Descending
variable {Ordered : Type u} [LinearOrder Ordered]

def descending (keys : List Ordered) : List Ordered := keys.insertionSort fun a b => b ≤ a

variable (keys : List Ordered) (test : Ordered → Bool) (key : Ordered)

theorem mem_descending : key ∈ descending keys ↔ key ∈ keys :=
  (List.perm_insertionSort _ keys).mem_iff

theorem first_greatest (found : (descending keys).find? test = some key) (other : Ordered)
    (member : other ∈ keys) (passes : test other = true) : other ≤ key := by
  obtain ⟨_, front, back, whole, before⟩ := List.find?_eq_some_iff_append.mp found
  have ordered : (front ++ key :: back).Pairwise fun a b => b ≤ a :=
    whole ▸ List.pairwise_insertionSort (fun a b : Ordered => b ≤ a) keys
  have listed : other ∈ front ++ key :: back := whole ▸ (mem_descending keys other).mpr member
  rcases List.mem_append.mp listed with earlier | later
  · have failed := before other earlier
    rw [passes] at failed
    cases failed
  · rcases List.mem_cons.mp later with same | behind
    · exact le_of_eq same
    · exact List.rel_of_pairwise_cons (List.pairwise_append.mp ordered).2.1 behind

theorem find_descending :
    (descending keys).find? test = some key ↔
      (key ∈ keys ∧ test key = true) ∧ ∀ other ∈ keys, test other = true → other ≤ key := by
  constructor
  · intro found
    exact ⟨⟨(mem_descending keys key).mp (List.mem_of_find?_eq_some found),
      List.find?_some found⟩, first_greatest keys test key found⟩
  · rintro ⟨⟨member, passes⟩, greatest⟩
    cases found : (descending keys).find? test with
    | none =>
      have failed := List.find?_eq_none.mp found key ((mem_descending keys key).mpr member)
      exact absurd passes failed
    | some first =>
      have inside := (mem_descending keys first).mp (List.mem_of_find?_eq_some found)
      have below := greatest first inside (List.find?_some found)
      have above := first_greatest keys test first found key member passes
      rw [le_antisymm below above]

theorem find_descending_none :
    (descending keys).find? test = none ↔ ∀ key ∈ keys, test key = false := by
  simp [List.find?_eq_none, mem_descending]

end Descending

end KeyedGroups
