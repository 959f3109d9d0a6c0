import Mathlib.Data.List.Forall2
import Mathlib.Data.List.Nodup
import Mathlib.Data.List.Perm.Basic

/-!
An insertion-ordered table whose rows carry their own key. Writing a row whose
key is present replaces it in place; a new key goes to the end. Key uniqueness
is a field, so a table with two rows of one key cannot be built.
-/
namespace KeyedTable

universe u v
variable {Key : Type u} {Row : Type v} [DecidableEq Key]

structure Table (key : Row → Key) where
  rows : List Row
  unique : (rows.map key).Nodup

def put (key : Row → Key) (row : Row) : List Row → List Row
  | [] => [row]
  | first :: rest =>
      if key first = key row then row :: rest else first :: put key row rest

def lookup (key : Row → Key) (wanted : Key) : List Row → Option Row
  | [] => none
  | first :: rest => if key first = wanted then some first else lookup key wanted rest

variable (key : Row → Key) (wanted : Key) (row : Row) (rows : List Row)

theorem put_keys_present (present : key row ∈ rows.map key) :
    (put key row rows).map key = rows.map key := by
  induction rows with
  | nil => simp at present
  | cons first rest ih =>
    by_cases hit : key first = key row
    · simp [put, hit]
    · have later : key row ∈ rest.map key := by
        rcases List.mem_cons.mp present with same | tail
        · exact absurd same.symm hit
        · exact tail
      simp [put, hit, ih later]

theorem put_absent (absent : key row ∉ rows.map key) : put key row rows = rows ++ [row] := by
  induction rows with
  | nil => rfl
  | cons first rest ih =>
    simp only [List.map_cons, List.mem_cons, not_or] at absent
    rw [put, if_neg (Ne.symm absent.1), ih absent.2, List.cons_append]

theorem put_keys_absent (absent : key row ∉ rows.map key) :
    (put key row rows).map key = rows.map key ++ [key row] := by
  rw [put_absent key row rows absent, List.map_append, List.map_singleton]

theorem put_unique (unique : (rows.map key).Nodup) : ((put key row rows).map key).Nodup := by
  by_cases present : key row ∈ rows.map key
  · rw [put_keys_present key row rows present]
    exact unique
  · rw [put_keys_absent key row rows present]
    refine List.nodup_append.mpr ⟨unique, by simp, ?_⟩
    intro left member right last same
    simp only [List.mem_singleton] at last
    exact present (last ▸ same ▸ member)

theorem put_perm (unique : (rows.map key).Nodup) :
    (put key row rows).Perm (row :: rows.filter fun other => !decide (key other = key row)) := by
  induction rows with
  | nil => exact List.Perm.refl [row]
  | cons first rest ih =>
    obtain ⟨absent, restUnique⟩ := List.nodup_cons.mp unique
    by_cases hit : key first = key row
    · have kept : rest.filter (fun other => !decide (key other = key row)) = rest := by
        apply List.filter_eq_self.mpr
        intro other member
        have different : key other ≠ key row := by
          intro same
          exact absent (hit.trans same.symm ▸ List.mem_map_of_mem member)
        simpa using different
      simp [put, hit, kept]
    · rw [put, if_neg hit, List.filter_cons_of_pos (by simpa using hit)]
      exact (List.Perm.cons first (ih restUnique)).trans (List.Perm.swap row first _)

theorem lookup_put (wanted : Key) :
    lookup key wanted (put key row rows) =
      if key row = wanted then some row else lookup key wanted rows := by
  induction rows with
  | nil => simp [put, lookup]
  | cons first rest ih =>
    by_cases hit : key first = key row
    · by_cases same : key row = wanted <;> simp [put, lookup, hit, same]
    · by_cases here : key first = wanted
      · subst wanted
        simp [put, lookup, hit, Ne.symm hit]
      · simp [put, lookup, hit, here, ih]

theorem lookup_key (row : Row) (found : lookup key wanted rows = some row) :
    key row = wanted ∧ row ∈ rows := by
  induction rows with
  | nil => simp [lookup] at found
  | cons first rest ih =>
    by_cases hit : key first = wanted
    · simp only [lookup, hit, ↓reduceIte, Option.some.injEq] at found
      subst row
      exact ⟨hit, List.mem_cons_self⟩
    · have tail := ih (by simpa [lookup, hit] using found)
      exact ⟨tail.1, List.mem_cons_of_mem first tail.2⟩

theorem lookup_none : lookup key wanted rows = none ↔ wanted ∉ rows.map key := by
  induction rows with
  | nil => simp [lookup]
  | cons first rest ih =>
    by_cases hit : key first = wanted
    · simp [lookup, hit]
    · simp [lookup, hit, ih, Ne.symm hit]

theorem lookup_mem (unique : (rows.map key).Nodup) (row : Row) (member : row ∈ rows) :
    lookup key (key row) rows = some row := by
  induction rows with
  | nil => simp at member
  | cons first rest ih =>
    simp only [List.map_cons, List.nodup_cons] at unique
    rcases List.mem_cons.mp member with same | tail
    · simp [lookup, same]
    · have different : key first ≠ key row := fun same =>
        unique.1 (same ▸ List.mem_map_of_mem tail)
      simp [lookup, different, ih unique.2 tail]

theorem rows_ext (left right : List Row) (unique : (left.map key).Nodup)
    (keys : left.map key = right.map key)
    (agree : ∀ wanted, lookup key wanted left = lookup key wanted right) : left = right := by
  induction left generalizing right with
  | nil => cases right with
    | nil => rfl
    | cons => simp at keys
  | cons first rest ih =>
    cases right with
    | nil => simp at keys
    | cons head tail =>
      simp only [List.map_cons, List.cons.injEq] at keys
      simp only [List.map_cons, List.nodup_cons] at unique
      have same : first = head := by
        simpa [lookup, keys.1] using agree (key first)
      -- A tail never answers for the head's key, so its lookups can be read off the whole list.
      have tails := ih tail unique.2 keys.2 fun wanted => by
        by_cases hit : key first = wanted
        · have absent : wanted ∉ rest.map key := hit ▸ unique.1
          rw [(lookup_none key wanted rest).mpr absent,
            (lookup_none key wanted tail).mpr (keys.2 ▸ absent)]
        · have other : key head ≠ wanted := keys.1 ▸ hit
          simpa [lookup, hit, other] using agree wanted
      rw [same, tails]

namespace Table
variable {key : Row → Key}

def empty (key : Row → Key) : Table key := ⟨[], List.nodup_nil⟩

def get? (table : Table key) (wanted : Key) : Option Row := lookup key wanted table.rows

def keys (table : Table key) : List Key := table.rows.map key

def set (table : Table key) (row : Row) : Table key :=
  ⟨put key row table.rows, put_unique key row table.rows table.unique⟩

def erase (table : Table key) (wanted : Key) : Table key :=
  ⟨table.rows.filter (fun row => !decide (key row = wanted)),
    table.unique.sublist (List.filter_sublist.map key)⟩

instance [DecidableEq Row] : DecidableEq (Table key) := fun left right =>
  decidable_of_iff (left.rows = right.rows) (by cases left; cases right; simp)

variable (dropped : List Key) (table : Table key) (wanted : Key) (row : Row)

theorem get?_set (wanted : Key) :
    (table.set row).get? wanted = if key row = wanted then some row else table.get? wanted :=
  lookup_put key row table.rows wanted

@[simp] theorem get?_set_self : (table.set row).get? (key row) = some row := by
  simp [get?_set]

theorem get?_key (found : table.get? wanted = some row) : key row = wanted :=
  (lookup_key key wanted table.rows row found).1

theorem get?_mem (found : table.get? wanted = some row) : row ∈ table.rows :=
  (lookup_key key wanted table.rows row found).2

theorem mem_get? (member : row ∈ table.rows) : table.get? (key row) = some row :=
  lookup_mem key table.rows table.unique row member

theorem get?_none : table.get? wanted = none ↔ wanted ∉ table.keys :=
  lookup_none key wanted table.rows

theorem mem_keys : wanted ∈ table.keys ↔ ∃ row, table.get? wanted = some row := by
  cases found : table.get? wanted with
  | none => simpa using (get?_none table wanted).mp found
  | some row =>
    have present : wanted ∈ table.keys := by
      by_contra absent
      rw [(get?_none table wanted).mpr absent] at found
      cases found
    simpa using present

theorem keys_set_present (present : key row ∈ table.keys) : (table.set row).keys = table.keys :=
  put_keys_present key row table.rows present

theorem keys_set_absent (absent : key row ∉ table.keys) :
    (table.set row).keys = table.keys ++ [key row] :=
  put_keys_absent key row table.rows absent

theorem rows_set_absent (absent : key row ∉ table.keys) :
    (table.set row).rows = table.rows ++ [row] :=
  put_absent key row table.rows absent

theorem keys_set :
    (table.set row).keys =
      if key row ∈ table.keys then table.keys else table.keys ++ [key row] := by
  split
  next present => exact table.keys_set_present row present
  next absent => exact table.keys_set_absent row absent

theorem get?_erase (dropped wanted : Key) :
    (table.erase dropped).get? wanted = if wanted = dropped then none else table.get? wanted := by
  obtain ⟨rows, unique⟩ := table
  simp only [erase, get?]
  clear unique
  induction rows with
  | nil => simp [lookup]
  | cons first rest ih =>
    by_cases gone : key first = dropped
    · by_cases same : wanted = dropped
      · simpa [gone, same] using ih
      · have other : ¬ dropped = wanted := Ne.symm same
        simpa [gone, same, lookup, other] using ih
    · by_cases here : key first = wanted
      · have kept : wanted ≠ dropped := here ▸ gone
        simp [here, kept, lookup]
      · simpa [List.filter_cons, gone, lookup, here] using ih

theorem mem_rows : row ∈ table.rows ↔ table.get? (key row) = some row :=
  ⟨table.mem_get? row, table.get?_mem (key row) row⟩

theorem mem_set (row other : Row) :
    other ∈ (table.set row).rows ↔
      other = row ∨ (other ∈ table.rows ∧ key other ≠ key row) := by
  rw [mem_rows, mem_rows, get?_set]
  by_cases same : key row = key other
  · simp [same, eq_comm]
  · have different : other ≠ row := fun equal => same (by rw [equal])
    simp [same, different, Ne.symm same]

theorem mem_erase (dropped : Key) (other : Row) :
    other ∈ (table.erase dropped).rows ↔ other ∈ table.rows ∧ key other ≠ dropped := by
  simp [erase]

/-- Tables are determined by their key order and their lookups. -/
theorem ext_get? (left right : Table key) (keys : left.keys = right.keys)
    (agree : ∀ wanted, left.get? wanted = right.get? wanted) : left = right := by
  have rows := rows_ext key left.rows right.rows left.unique keys agree
  cases left
  cases right
  simpa using rows

theorem set_nonempty : (table.set row).rows ≠ [] := by
  intro empty
  have member := get?_mem _ (key row) row (table.get?_set_self row)
  rw [empty] at member
  cases member

theorem erase_nonempty (dropped : Key) (left : (table.erase dropped).rows ≠ []) :
    table.rows ≠ [] := by
  intro empty
  exact left (by simp [erase, empty])

theorem set_undo (old new : Row) (sameKey : key new = key old)
    (found : table.get? (key old) = some old) : (table.set new).set old = table := by
  have present : key old ∈ table.keys := (mem_keys table (key old)).mpr ⟨old, found⟩
  have presentNew : key new ∈ table.keys := sameKey ▸ present
  have keys := table.keys_set_present new presentNew
  apply ext_get?
  · rw [keys_set_present _ old (keys ▸ present), keys]
  · intro wanted
    rw [get?_set, get?_set, sameKey]
    by_cases same : key old = wanted
    · rw [if_pos same, ← same, found]
    · rw [if_neg same, if_neg same]

theorem set_set (first last : Row) (sameKey : key first = key last) :
    (table.set first).set last = table.set last := by
  apply ext_get?
  · by_cases present : key last ∈ table.keys
    · have keys := table.keys_set_present first (sameKey ▸ present)
      rw [keys_set_present _ last (keys ▸ present), keys, keys_set_present _ last present]
    · have keys := table.keys_set_absent first (sameKey ▸ present)
      rw [keys_set_absent _ last present, keys_set_present _ last (by simp [keys, sameKey]), keys,
        sameKey]
  · intro wanted
    simp only [get?_set, sameKey]
    by_cases same : key last = wanted <;> simp [same]

theorem keys_erase (dropped : Key) :
    (table.erase dropped).keys = table.keys.filter (· ≠ dropped) := by
  simp [erase, keys, List.filter_map, Function.comp_def]

theorem set_perm : (table.set row).rows.Perm (row :: (table.erase (key row)).rows) :=
  put_perm key row table.rows table.unique

theorem erase_perm (found : table.get? wanted = some row) :
    table.rows.Perm (row :: (table.erase wanted).rows) := by
  have named := table.get?_key wanted row found
  subst named
  have same : table.set row = table := by
    apply ext_get?
    · exact table.keys_set_present row ((table.mem_keys _).mpr ⟨row, found⟩)
    · intro other
      rw [get?_set]
      split
      next here => rw [← here, found]
      next => rfl
  have split := table.set_perm row
  rwa [same] at split

theorem erase_absent (absent : table.get? wanted = none) : table.erase wanted = table := by
  apply ext_get?
  · rw [keys_erase]
    apply List.filter_eq_self.mpr
    intro other member
    apply decide_eq_true
    rintro rfl
    exact (table.get?_none other).mp absent member
  · intro other
    rw [get?_erase]
    split
    next same => rw [same, absent]
    next => rfl

theorem keys_eraseAll : (dropped.foldl erase table).keys = table.keys.filter (· ∉ dropped) := by
  induction dropped generalizing table with
  | nil => simp
  | cons first rest ih =>
    rw [List.foldl_cons, ih, keys_erase, List.filter_filter]
    simp [Bool.and_comm]

theorem get?_eraseAll :
    (dropped.foldl erase table).get? wanted =
      if wanted ∈ dropped then none else table.get? wanted := by
  induction dropped generalizing table with
  | nil => simp
  | cons first rest ih =>
    rw [List.foldl_cons, ih, get?_erase]
    by_cases here : wanted = first <;> by_cases there : wanted ∈ rest <;> simp [here, there]

def Evolves (related : Row → Row → Prop) (before after : Table key) : Prop :=
  List.Forall₂ (fun old new => key old = key new ∧ related old new) before.rows after.rows

section Evolution
variable {related : Row → Row → Prop} {before middle after : Table key}

omit [DecidableEq Key] in
theorem Evolves.refl (self : ∀ row, related row row) (table : Table key) :
    Evolves related table table :=
  List.forall₂_same.mpr fun row _ => ⟨rfl, self row⟩

omit [DecidableEq Key] in
theorem Evolves.trans {related' whole : Row → Row → Prop}
    (compose : ∀ a b c, related a b → related' b c → whole a c)
    (first : Evolves related before middle) (second : Evolves related' middle after) :
    Evolves whole before after := by
  obtain ⟨left, leftUnique⟩ := before
  obtain ⟨mid, midUnique⟩ := middle
  obtain ⟨right, rightUnique⟩ := after
  simp only [Evolves] at first second ⊢
  clear leftUnique midUnique rightUnique
  induction first generalizing right with
  | nil => cases second; exact List.Forall₂.nil
  | cons head _ ih =>
    cases second with
    | cons next tail =>
      exact List.Forall₂.cons
        ⟨head.1.trans next.1, compose _ _ _ head.2 next.2⟩ (ih _ tail)

omit [DecidableEq Key] in
theorem Evolves.symm {related' : Row → Row → Prop}
    (turn : ∀ old new, related old new → related' new old)
    (evolution : Evolves related before after) : Evolves related' after before :=
  List.Forall₂.flip
    (List.Forall₂.imp (fun _ _ pair => ⟨pair.1.symm, turn _ _ pair.2⟩) evolution)

omit [DecidableEq Key] in
theorem Evolves.mono {weaker : Row → Row → Prop}
    (implies : ∀ old new, related old new → weaker old new)
    (evolution : Evolves related before after) : Evolves weaker before after :=
  List.Forall₂.imp (fun _ _ pair => ⟨pair.1, implies _ _ pair.2⟩) evolution

omit [DecidableEq Key] in
theorem Evolves.view {Image : Type*} (view : Row → Image)
    (same : ∀ old new, related old new → view old = view new)
    (evolution : Evolves related before after) : before.rows.map view = after.rows.map view := by
  obtain ⟨left, leftUnique⟩ := before
  obtain ⟨right, rightUnique⟩ := after
  simp only [Evolves] at evolution ⊢
  clear leftUnique rightUnique
  induction evolution with
  | nil => rfl
  | cons head _ ih => simp [same _ _ head.2, ih]

omit [DecidableEq Key] in
theorem Evolves.keys (evolution : Evolves related before after) : after.keys = before.keys := by
  have pairs : Evolves (fun old new => key old = key new) before after :=
    List.Forall₂.imp (fun _ _ pair => ⟨pair.1, pair.1⟩) evolution
  exact (pairs.view key fun _ _ same => same).symm

theorem Evolves.get? (evolution : Evolves related before after) (wanted : Key) :
    Option.Rel related (before.get? wanted) (after.get? wanted) := by
  obtain ⟨left, leftUnique⟩ := before
  obtain ⟨right, rightUnique⟩ := after
  simp only [Evolves, Table.get?] at evolution ⊢
  clear leftUnique rightUnique
  induction evolution with
  | nil => exact Option.Rel.none
  | @cons old new _ _ head _ ih =>
    by_cases hit : key old = wanted
    · have same : key new = wanted := head.1 ▸ hit
      simpa [lookup, hit, same] using Option.Rel.some head.2
    · have other : ¬ key new = wanted := head.1 ▸ hit
      simpa [lookup, hit, other] using ih

theorem Evolves.get?_some (evolution : Evolves related before after) (wanted : Key) (old : Row)
    (found : before.get? wanted = some old) :
    ∃ new, after.get? wanted = some new ∧ related old new := by
  have pair := evolution.get? wanted
  rw [found] at pair
  cases result : after.get? wanted with
  | none => rw [result] at pair; cases pair
  | some new => rw [result] at pair; cases pair with | some same => exact ⟨new, rfl, same⟩

theorem Evolves.get?_origin (evolution : Evolves related before after) (wanted : Key) (new : Row)
    (found : after.get? wanted = some new) :
    ∃ old, before.get? wanted = some old ∧ related old new := by
  have pair := evolution.get? wanted
  rw [found] at pair
  cases result : before.get? wanted with
  | none => rw [result] at pair; cases pair
  | some old => rw [result] at pair; cases pair with | some same => exact ⟨old, rfl, same⟩

theorem evolves_of_get? (keys : before.keys = after.keys)
    (rows : ∀ wanted old new, before.get? wanted = some old → after.get? wanted = some new →
      related old new) : Evolves related before after := by
  obtain ⟨left, leftUnique⟩ := before
  obtain ⟨right, rightUnique⟩ := after
  simp only [Evolves, Table.get?, Table.keys] at keys rows ⊢
  induction left generalizing right with
  | nil =>
    have none : right = [] := by simpa using keys.symm
    subst none
    exact List.Forall₂.nil
  | cons old left ih =>
    cases right with
    | nil => cases keys
    | cons new right =>
      have heads : key old = key new := (List.cons.inj keys).1
      have tails : left.map key = right.map key := (List.cons.inj keys).2
      have first : related old new :=
        rows (key old) old new (by simp [lookup]) (by simp [lookup, heads])
      refine List.Forall₂.cons ⟨heads, first⟩
        (ih (List.nodup_cons.mp leftUnique).2 right (List.nodup_cons.mp rightUnique).2 tails ?_)
      intro wanted a b foundA foundB
      -- The tail holds no second row of the head's key.
      have other : ¬ key old = wanted := by
        intro same
        have inside := lookup_key key wanted left a foundA
        exact (List.nodup_cons.mp leftUnique).1
          (same ▸ inside.1 ▸ List.mem_map_of_mem inside.2)
      refine rows wanted a b ?_ ?_
      · simpa [lookup, other] using foundA
      · simpa [lookup, ← heads, other] using foundB

theorem evolves_set (table : Table key) (old new : Row)
    (others : ∀ row, key row ≠ key new → related row row)
    (found : table.get? (key new) = some old) (change : related old new) :
    Evolves related table (table.set new) := by
  have present : key new ∈ table.keys := (mem_keys table (key new)).mpr ⟨old, found⟩
  refine evolves_of_get? (table.keys_set_present new present).symm ?_
  intro wanted a b foundA foundB
  rw [get?_set] at foundB
  by_cases same : key new = wanted
  · rw [if_pos same, Option.some.injEq] at foundB
    rw [← same, found, Option.some.injEq] at foundA
    -- The written row itself.
    exact foundA ▸ foundB ▸ change
  · rw [if_neg same, foundA, Option.some.injEq] at foundB
    have named := table.get?_key wanted a foundA
    exact foundB ▸ others a (named ▸ Ne.symm same)

omit [DecidableEq Key] in
theorem Evolves.eq (evolution : Evolves (fun old new => new = old) before after) :
    after = before := by
  have rows := evolution.view id fun _ _ same => same.symm
  cases before
  cases after
  simpa using rows.symm

end Evolution

end Table

end KeyedTable
