import Mathlib.Data.List.Nodup
import Mathlib.Data.List.Pairwise
import Mathlib.Logic.Function.Basic

/-!
Things that lie in places, each in exactly one and only once. A step moves things among
a few places; the rest of them it does not touch.
-/
namespace Whereabouts

universe u v
variable {Place : Type u} {Thing : Type v}

structure Partition (contents : Place → List Thing) (all : List Thing) : Prop where
  single : ∀ place, (contents place).Nodup
  apart : ∀ one other thing, thing ∈ contents one → thing ∈ contents other → one = other
  covers : ∀ thing, thing ∈ all ↔ ∃ place, thing ∈ contents place

section Moves
variable {before after : Place → List Thing} {all : List Thing}

theorem Partition.nodup_flatMap (partition : Partition before all) (places : List Place)
    (distinct : places.Nodup) : (places.flatMap before).Nodup := by
  rw [List.nodup_flatMap]
  refine ⟨fun place _ => partition.single place, ?_⟩
  apply distinct.pairwise_of_forall_ne
  intro one _ other _ different thing here there
  exact different (partition.apart one other thing here there)

theorem Partition.rearrange (partition : Partition before all) (places : List Place)
    (distinct : places.Nodup) (moved : (places.flatMap after).Perm (places.flatMap before))
    (others : ∀ place, place ∉ places → after place = before place) : Partition after all := by
  have nodup : (places.flatMap after).Nodup :=
    moved.nodup_iff.mpr (partition.nodup_flatMap places distinct)
  obtain ⟨each, disjoint⟩ := List.nodup_flatMap.mp nodup
  -- Where a thing of one of the places was before.
  have origin (place : Place) (inside : place ∈ places) (thing : Thing)
      (here : thing ∈ after place) : ∃ old ∈ places, thing ∈ before old :=
    List.mem_flatMap.mp (moved.mem_iff.mp (List.mem_flatMap.mpr ⟨place, inside, here⟩))
  have inside_of (one other : Place) (thing : Thing) (inside : one ∈ places)
      (here : thing ∈ after one) (there : thing ∈ after other) : other ∈ places := by
    by_contra outside
    rw [others other outside] at there
    obtain ⟨old, among, was⟩ := origin one inside thing here
    exact outside (partition.apart old other thing was there ▸ among)
  refine ⟨fun place => ?_, fun one other thing here there => ?_, fun thing => ?_⟩
  · by_cases inside : place ∈ places
    · exact each place inside
    · rw [others place inside]
      exact partition.single place
  · by_cases inside : one ∈ places
    · have also := inside_of one other thing inside here there
      by_contra different
      have symmetric : Std.Symm (Function.onFun List.Disjoint after) :=
        ⟨fun _ _ => List.disjoint_comm.mp⟩
      exact List.disjoint_left.mp (disjoint.forall inside also different) here there
    · by_cases also : other ∈ places
      · exact absurd (inside_of other one thing also there here) inside
      · rw [others one inside] at here
        rw [others other also] at there
        exact partition.apart one other thing here there
  · rw [partition.covers]
    constructor
    · rintro ⟨place, was⟩
      by_cases inside : place ∈ places
      · obtain ⟨new, _, is⟩ := List.mem_flatMap.mp
          (moved.mem_iff.mpr (List.mem_flatMap.mpr ⟨place, inside, was⟩))
        exact ⟨new, is⟩
      · exact ⟨place, by rw [others place inside]; exact was⟩
    · rintro ⟨place, is⟩
      by_cases inside : place ∈ places
      · obtain ⟨old, _, was⟩ := origin place inside thing is
        exact ⟨old, was⟩
      · exact ⟨place, by rw [← others place inside]; exact is⟩

theorem Partition.shuffle [DecidableEq Place] (partition : Partition before all) (place : Place)
    (things : List Thing) (moved : things.Perm (before place)) :
    Partition (Function.update before place things) all := by
  apply partition.rearrange [place] (List.nodup_singleton place)
  · simpa using moved
  · intro other outside
    exact Function.update_of_ne (fun same => outside (by simp [same])) _ _

theorem Partition.exchange [DecidableEq Place] (partition : Partition before all)
    {one other : Place} (different : one ≠ other) (ones others : List Thing)
    (moved : (ones ++ others).Perm (before one ++ before other)) :
    Partition (Function.update (Function.update before one ones) other others) all := by
  apply partition.rearrange [one, other]
  · simpa using different
  · simpa [Function.update_of_ne different] using moved
  · intro place outside
    simp only [List.mem_cons, List.not_mem_nil, or_false, not_or] at outside
    rw [Function.update_of_ne outside.2, Function.update_of_ne outside.1]

theorem Partition.arrive (partition : Partition before all) (place : Place) (thing : Thing)
    (fresh : thing ∉ all) (joined : (after place).Perm (thing :: before place))
    (others : ∀ other, other ≠ place → after other = before other) :
    Partition after (all ++ [thing]) := by
  have nowhere (other : Place) : thing ∉ before other := fun there =>
    fresh ((partition.covers thing).mpr ⟨other, there⟩)
  have only (other : Place) (different : other ≠ place) (wanted : Thing)
      (here : wanted ∈ after place) (there : wanted ∈ after other) : False := by
    rw [others other different] at there
    rcases List.mem_cons.mp (joined.mem_iff.mp here) with rfl | was
    · exact nowhere other there
    · exact different (partition.apart other place wanted there was)
  refine ⟨fun other => ?_, fun one other wanted here there => ?_, fun wanted => ?_⟩
  · by_cases same : other = place
    · rw [same, joined.nodup_iff]
      exact List.nodup_cons.mpr ⟨nowhere place, partition.single place⟩
    · rw [others other same]
      exact partition.single other
  · by_cases same : one = place
    · by_cases also : other = place
      · rw [same, also]
      · exact (only other also wanted (same ▸ here) there).elim
    · by_cases also : other = place
      · exact (only one same wanted (also ▸ there) here).elim
      · rw [others one same] at here
        rw [others other also] at there
        exact partition.apart one other wanted here there
  · rw [List.mem_append, List.mem_singleton, partition.covers]
    constructor
    · rintro (⟨other, was⟩ | rfl)
      · by_cases same : other = place
        · exact ⟨place, joined.mem_iff.mpr (List.mem_cons_of_mem _ (same ▸ was))⟩
        · exact ⟨other, by rw [others other same]; exact was⟩
      · exact ⟨place, joined.mem_iff.mpr List.mem_cons_self⟩
    · rintro ⟨other, is⟩
      by_cases same : other = place
      · rw [same] at is
        rcases List.mem_cons.mp (joined.mem_iff.mp is) with new | was
        · exact Or.inr new
        · exact Or.inl ⟨place, was⟩
      · rw [others other same] at is
        exact Or.inl ⟨other, is⟩

end Moves

end Whereabouts
