import Mathlib.Data.List.Chain
import Mathlib.Data.List.Infix

/-!
Append-only journals of the moves of one machine. An entry names the state the
machine entered and, past the first, the one it left. A journal is a run when the
names line up, every move is one the machine has, and the last entry names the
state the machine is in.
-/
namespace Journal

universe u v
variable {Entry : Type u} {State : Type v}

structure Reading (Entry : Type u) (State : Type v) where
  entered : Entry → State
  left : Entry → Option State
  mayMove : State → State → Prop

variable (reading : Reading Entry State)

def Follows (earlier later : Entry) : Prop :=
  reading.left later = some (reading.entered earlier) ∧
    reading.mayMove (reading.entered earlier) (reading.entered later)

structure IsRun (log : List Entry) (current : State) : Prop where
  chain : log.IsChain (Follows reading)
  last : log.getLast?.map reading.entered = some current

variable {reading} {log : List Entry} {current : State}

theorem isRun_singleton (entry : Entry) (entered : reading.entered entry = current) :
    IsRun reading [entry] current := by
  constructor
  · exact List.isChain_singleton entry
  · simp [entered]

theorem IsRun.record (run : IsRun reading log current) (entry : Entry)
    (left : reading.left entry = some current)
    (allowed : reading.mayMove current (reading.entered entry)) :
    IsRun reading (log ++ [entry]) (reading.entered entry) := by
  constructor
  · rw [List.isChain_append]
    refine ⟨run.chain, List.isChain_singleton entry, ?_⟩
    intro earlier isLast later isHead
    have same : later = entry := by simpa using isHead.symm
    have entered : reading.entered earlier = current := by
      have last := run.last
      rw [Option.mem_def.mp isLast] at last
      exact Option.some.inj last
    rw [same]
    exact ⟨entered ▸ left, entered ▸ allowed⟩
  · simp

theorem IsRun.step (run : IsRun reading log current) (earlier later : Entry)
    (adjacent : [earlier, later] <:+: log) : Follows reading earlier later :=
  List.isChain_pair.mp ( List.IsChain.infix run.chain adjacent)

/-- Whoever the machine never leaves, no step of a run leaves. -/
theorem IsRun.stays (run : IsRun reading log current) (final : State → Prop)
    (stuck : ∀ state next, final state → ¬ reading.mayMove state next) (earlier later : Entry)
    (adjacent : [earlier, later] <:+: log) : ¬ final (reading.entered earlier) :=
  fun isFinal => stuck _ _ isFinal (run.step earlier later adjacent).2

end Journal
