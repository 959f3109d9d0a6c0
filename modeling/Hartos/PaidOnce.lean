import Hartos.MeteredSettlement

/-!
Each metered row is paid once: as long as a run finds every pending row inside its
period, and finds the rows it has paid still pending when it commits.
-/
namespace Hartos.Metering
open KeyedTable StepSystem
variable (meter : Meter) (usage : MeteredUsage)

def Meter.paymentsFor (id : String) : List Payment :=
  meter.payments.filter fun payment => payment.usageId = id

def Meter.reaches (cutoff : Time) : Bool :=
  meter.usage.rows.all fun usage =>
    !(decide (usage.settlementStatus = .pending) && usage.payable) ||
      decide (usage.createdAt ≥ cutoff)

def Meter.unclaimed (run : Settling) : Bool :=
  run.outcomes.all fun visited => decide (visited.2 = .raised) ||
    (meter.usage.get? visited.1.id).any fun usage => decide (usage.settlementStatus = .pending)

def Timely : MeterEvent → Prop
  | .settle _ now periodHours => meter.reaches (now - seconds (3600 * periodHours)) = true
  | .commit session => (meter.runs.get? session).all meter.unclaimed = true
  | _ => True

instance (meter : Meter) : (event : MeterEvent) → Decidable (Timely meter event)
  | .settle _ now periodHours =>
      inferInstanceAs (Decidable (meter.reaches (now - seconds (3600 * periodHours)) = true))
  | .commit session =>
      inferInstanceAs (Decidable ((meter.runs.get? session).all meter.unclaimed = true))
  | .record _ => .isTrue trivial
  | .pay _ _ => .isTrue trivial
  | .abort _ => .isTrue trivial

def Moves (old new : MeteredUsage) : Prop :=
  (∃ status, new = { old with settlementStatus := status }) ∧
    (old.settlementStatus ≠ .pending → new.settlementStatus ≠ .pending)

theorem Moves.refl : Moves usage usage :=
  ⟨⟨usage.settlementStatus, rfl⟩, id⟩

theorem Moves.trans (first middle last : MeteredUsage) (one : Moves first middle)
    (two : Moves middle last) : Moves first last := by
  obtain ⟨⟨status, rfl⟩, stays⟩ := one
  obtain ⟨⟨later, rfl⟩, remains⟩ := two
  exact ⟨⟨later, rfl⟩, fun settled => remains (stays settled)⟩

def Booked (payments : List Payment) (usage : MeteredUsage) : Prop :=
  match usage.settlementStatus with
  | .pending => payments = []
  | .settled => ∃ operatorId, usage.operator? = some operatorId ∧
      payments = [usage.payment operatorId]
  | .writtenOff => usage.operator? = none ∧ payments = []
  | _ => False

structure Ledger (meter : Meter) : Prop where
  booked : ∀ id usage, meter.usage.get? id = some usage → usage.payable = true →
    Booked (meter.paymentsFor id) usage
  rows : ∀ payment ∈ meter.payments, ∃ usage, meter.usage.get? payment.usageId = some usage ∧
    usage.payable = true

def Stored : Prop :=
  ∃ status, meter.usage.get? usage.id = some { usage with settlementStatus := status }

def Fitting : Outcome → Prop
  | .paid operatorId => usage.operator? = some operatorId
  | .writtenOff => usage.operator? = none
  | .raised => True

structure RunSound (meter : Meter) (run : Settling) : Prop where
  remaining : ∀ usage ∈ run.remaining, Stored meter usage ∧ usage.payable = true
  outcomes : ∀ visited ∈ run.outcomes, Stored meter visited.1 ∧ visited.1.payable = true ∧
    Fitting visited.1 visited.2
  distinct : ((run.outcomes.map fun visited => visited.1.id) ++
    run.remaining.map MeteredUsage.id).Nodup
  present : ∀ id ∈ run.present, ∃ usage, meter.usage.get? id = some usage ∧
    (usage.payable = true → usage.settlementStatus = .pending →
      id ∈ run.remaining.map MeteredUsage.id ∨ id ∈ run.outcomes.map fun visited => visited.1.id)

structure Good (meter : Meter) : Prop where
  ledger : Ledger meter
  runs : ∀ run ∈ meter.runs.rows, RunSound meter run
  settled : ∀ id ∈ meter.settled, ∃ usage, meter.usage.get? id = some usage ∧
    (usage.payable = true → usage.settlementStatus ≠ .pending)

section Writes
variable {meter : Meter}
variable (id : String) (status : SettlementStatus)

theorem Stored.moves (usage : MeteredUsage) (stored : Stored meter usage) (after : Meter)
    (evolves : meter.usage.Evolves Moves after.usage) : Stored after usage := by
  obtain ⟨status, found⟩ := stored
  obtain ⟨next, here, ⟨later, rfl⟩, -⟩ := evolves.get?_some usage.id _ found
  exact ⟨later, here⟩

end Writes

section Steps
variable {meter : Meter}

theorem RunSound.moves (run : Settling) (sound : RunSound meter run) (after : Meter)
    (evolves : meter.usage.Evolves Moves after.usage) : RunSound after run where
  remaining := fun usage member =>
    ⟨(sound.remaining usage member).1.moves usage after evolves, (sound.remaining usage member).2⟩
  outcomes := fun visited member =>
    ⟨(sound.outcomes visited member).1.moves visited.1 after evolves,
      (sound.outcomes visited member).2⟩
  distinct := sound.distinct
  present := by
    intro id member
    obtain ⟨usage, found, covered⟩ := sound.present id member
    obtain ⟨next, here, ⟨status, rfl⟩, stays⟩ := evolves.get?_some id usage found
    refine ⟨_, here, fun payable pending => covered payable ?_⟩
    by_contra settled
    exact stays settled pending

theorem RunSound.record (run : Settling) (sound : RunSound meter run) (usage : MeteredUsage)
    (fresh : usage.id ∉ meter.usage.keys) :
    RunSound { meter with usage := meter.usage.set usage } run := by
  have kept (id : String) (old : MeteredUsage) (found : meter.usage.get? id = some old) :
      (meter.usage.set usage).get? id = some old := by
    have other : usage.id ≠ id := fun same =>
      fresh ((Table.mem_keys meter.usage usage.id).mpr ⟨old, same ▸ found⟩)
    rw [Table.get?_set, if_neg other, found]
  have stored (old : MeteredUsage) (before : Stored meter old) :
      Stored { meter with usage := meter.usage.set usage } old := by
    obtain ⟨status, found⟩ := before
    exact ⟨status, kept old.id _ found⟩
  refine ⟨?_, ?_, sound.distinct, ?_⟩
  · intro old member
    exact ⟨stored old (sound.remaining old member).1, (sound.remaining old member).2⟩
  · intro visited member
    exact ⟨stored visited.1 (sound.outcomes visited member).1, (sound.outcomes visited member).2⟩
  · intro id member
    obtain ⟨old, found, covered⟩ := sound.present id member
    exact ⟨old, kept id old found, covered⟩

end Steps

end Hartos.Metering
