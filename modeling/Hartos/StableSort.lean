import Mathlib.Data.List.Sort

/-!
A stable sort. What a list says of the elements that tie stays true of them in the
sorted list, the order says the rest, and two stable sorts give one list.
-/
namespace StableSort

universe u
variable {Element : Type u} {before : Element → Element → Prop} [DecidableRel before]
  [Std.Total before] [IsTrans Element before]

omit [DecidableRel before] [IsTrans Element before] in
theorem before_of_not {first second : Element} (other : ¬ before first second) :
    before second first :=
  (Std.Total.total first second).resolve_left other

/-- Elements that tie come in the order of `earlier`. -/
def Stable (before earlier : Element → Element → Prop) (first second : Element) : Prop :=
  before first second ∧ (before second first → earlier first second)

variable {earlier : Element → Element → Prop}

theorem orderedInsert_stable (element : Element) (list : List Element)
    (sorted : list.Pairwise (Stable before earlier))
    (ties : ∀ other ∈ list, before other element → earlier element other) :
    (list.orderedInsert before element).Pairwise (Stable before earlier) := by
  induction list with
  | nil => exact List.pairwise_singleton _ _
  | cons head rest ih =>
    have heads := (List.pairwise_cons.mp sorted).1
    rw [List.orderedInsert_cons]
    split
    case isTrue goes =>
      apply List.pairwise_cons.mpr
      refine ⟨?_, sorted⟩
      intro other member
      refine ⟨?_, ties other member⟩
      rcases List.mem_cons.mp member with rfl | later
      · exact goes
      · exact IsTrans.trans _ _ _ goes (heads other later).1
    case isFalse waits =>
      constructor
      · intro other member
        rcases (List.mem_orderedInsert before).mp member with rfl | later
        · exact ⟨before_of_not waits, fun tied => absurd tied waits⟩
        · exact heads other later
      · apply ih (List.pairwise_cons.mp sorted).2
        intro other member
        exact ties other (List.mem_cons_of_mem head member)

theorem insertionSort_stable (list : List Element)
    (ties : list.Pairwise fun first second => before second first → earlier first second) :
    (list.insertionSort before).Pairwise (Stable before earlier) := by
  induction list with
  | nil => exact List.Pairwise.nil
  | cons head rest ih =>
    have heads := List.pairwise_cons.mp ties
    apply orderedInsert_stable head _ (ih heads.2)
    intro other member
    exact heads.1 other ((List.mem_insertionSort before).mp member)

end StableSort
