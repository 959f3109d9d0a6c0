import Mathlib.Data.List.Basic

/-!
A set of at most `maxsize` keys in insertion order. A key that is there is not moved to the
end when it is looked up again, and the oldest key goes when there is one too many. `evicted`
is written and never read: it lets a statement speak about the keys that went.
-/

structure LruDedup (Key : Type) where
  maxsize : Nat
  cache : List Key
  evicted : List Key
deriving DecidableEq

namespace LruDedup
variable {Key : Type}

def opened (maxsize : Nat) : LruDedup Key := ⟨maxsize, [], []⟩

def Knew (dedup : LruDedup Key) (key : Key) : Prop := key ∈ dedup.cache ∨ key ∈ dedup.evicted

theorem not_knew_opened (maxsize : Nat) (key : Key) : ¬ (opened maxsize).Knew key := by
  simp [Knew, opened]

theorem in_cache {dedup : LruDedup Key} {key : Key} (knew : dedup.Knew key)
    (kept : key ∉ dedup.evicted) : key ∈ dedup.cache := knew.resolve_right kept

variable [DecidableEq Key]

def checkAndAdd (dedup : LruDedup Key) (key : Key) : Bool × LruDedup Key :=
  if key ∈ dedup.cache then (false, dedup)
  else
    let cache := dedup.cache ++ [key]
    if dedup.maxsize < cache.length then
      (true, { dedup with cache := cache.drop 1, evicted := dedup.evicted ++ cache.take 1 })
    else (true, { dedup with cache := cache })

variable (dedup : LruDedup Key) (key other : Key)

theorem checkAndAdd_fst (key : Key) : (dedup.checkAndAdd key).1 = true ↔ key ∉ dedup.cache := by
  unfold checkAndAdd
  by_cases present : key ∈ dedup.cache
  · simp [present]
  · by_cases full : dedup.maxsize < (dedup.cache ++ [key]).length <;>
      simp only [present, if_false, full, if_true, not_false_iff]

theorem checkAndAdd_present (key : Key) (present : key ∈ dedup.cache) :
    dedup.checkAndAdd key = (false, dedup) := if_pos present

theorem evicted_checkAndAdd (went : other ∈ dedup.evicted) :
    other ∈ (dedup.checkAndAdd key).2.evicted := by
  unfold checkAndAdd
  by_cases present : key ∈ dedup.cache
  · simpa [present] using went
  · by_cases full : dedup.maxsize < (dedup.cache ++ [key]).length
    · simp only [present, if_false, full, if_true]
      exact List.mem_append_left _ went
    · simpa only [present, if_false, full] using went

theorem knew_checkAndAdd :
    (dedup.checkAndAdd key).2.Knew other ↔ dedup.Knew other ∨ other = key := by
  unfold checkAndAdd Knew
  by_cases present : key ∈ dedup.cache
  · simp only [present, if_true]
    exact ⟨.inl, fun known => known.elim id fun same => .inl (same ▸ present)⟩
  · by_cases full : dedup.maxsize < (dedup.cache ++ [key]).length
    · simp only [present, if_false, full, if_true]
      have split : other ∈ dedup.cache ++ [key] ↔
          other ∈ (dedup.cache ++ [key]).take 1 ∨ other ∈ (dedup.cache ++ [key]).drop 1 := by
        rw [← List.mem_append, List.take_append_drop]
      simp only [List.mem_append, List.mem_singleton] at split ⊢
      tauto
    · simp only [present, if_false, full, List.mem_append, List.mem_singleton]
      tauto

end LruDedup
