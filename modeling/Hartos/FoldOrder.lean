import Mathlib.Data.List.Perm.Basic

/-!
Loops that may fail and whose result, seen through a view, does not depend on the order
of what they run over.
-/
namespace FoldOrder

universe u v w
variable {State : Type u} {Item : Type v} {View : Type w}

def Respects (step : State → Item → Option State) (view : State → View) : Prop :=
  ∀ left right item, view left = view right →
    (step left item).map view = (step right item).map view

def Commutes (step : State → Item → Option State) (view : State → View)
    (apart : Item → Item → Prop) : Prop :=
  ∀ state first second, apart first second →
    ((step state first).bind (step · second)).map view =
      ((step state second).bind (step · first)).map view

variable {step : State → Item → Option State} {view : State → View}
variable {apart : Item → Item → Prop}

theorem respects_bind (respects : Respects step view) (left right : Option State) (item : Item)
    (same : left.map view = right.map view) :
    (left.bind (step · item)).map view = (right.bind (step · item)).map view := by
  cases left with
  | none => cases right with
    | none => rfl
    | some => simp at same
  | some state => cases right with
    | none => simp at same
    | some other => exact respects state other item (Option.some.inj same)

theorem respects_foldlM (respects : Respects step view) (items : List Item) (left right : Option State)
    (same : left.map view = right.map view) :
    (left.bind (items.foldlM step)).map view = (right.bind (items.foldlM step)).map view := by
  induction items generalizing left right with
  | nil => simpa [Option.bind_eq_bind] using same
  | cons item rest ih =>
    have next := ih _ _ (respects_bind respects left right item same)
    simpa [List.foldlM_cons, Option.bind_assoc] using next

theorem foldlM_perm (respects : Respects step view) (commutes : Commutes step view apart)
    (symmetric : Std.Symm apart) {left right : List Item} (order : left.Perm right)
    (pairs : left.Pairwise apart) (state : State) :
    (left.foldlM step state).map view = (right.foldlM step state).map view := by
  induction order generalizing state with
  | nil => rfl
  | cons item _ ih =>
    simp only [List.foldlM_cons, Option.bind_eq_bind]
    cases step state item with
    | none => rfl
    | some next => exact ih (List.pairwise_cons.mp pairs).2 next
  | swap first second rest =>
    have head := (List.pairwise_cons.mp pairs).1 first List.mem_cons_self
    have swapped := respects_foldlM respects rest _ _ (commutes state second first head)
    simpa [List.foldlM_cons, Option.bind_assoc] using swapped
  | trans first _ ihFirst ihSecond =>
    have middle := (first.pairwise_iff (fun {left right} => symmetric.symm left right)).mp pairs
    exact (ihFirst pairs state).trans (ihSecond middle state)

end FoldOrder
