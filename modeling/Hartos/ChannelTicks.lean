import Hartos.DeltaChannels

/-!
What becomes of the deltas a channel receives, through any interleaving of receipts and
ticks.
-/
namespace Hartos.Federation
open KeyedTable StepSystem

namespace Pending
variable {Content Result : Type} {channel : Channel Content Result}
variable {state : Pending Content Result}

def Accounted [DecidableEq Content] (state : Pending Content Result) : Prop :=
  ∀ arrival ∈ state.received, state.used.count arrival ≤ 1 ∧
    (arrival ∈ state.deltas.rows ∨ arrival ∈ state.used ∨ arrival ∈ state.replaced)

instance [DecidableEq Content] : DecidablePred (@Accounted Content Result _) := fun state =>
  inferInstanceAs (Decidable (∀ arrival ∈ state.received, state.used.count arrival ≤ 1 ∧
    (arrival ∈ state.deltas.rows ∨ arrival ∈ state.used ∨ arrival ∈ state.replaced)))

def Idle (channel : Channel Content Result) : Stage Content → Prop
  | .copied deltas => channel.aggregate (deltas.map Arrival.content) = none
  | .importing _ => False
  | .clearing _ => False

def Quiet (channel : Channel Content Result) (state : Pending Content Result) : Prop :=
  ∀ tick ∈ state.ticks.rows, Idle channel tick.stage

def Undisturbed (channel : Channel Content Result) (state : Pending Content Result) :
    ChannelEvent Content → Prop
  | .receive _ _ => Quiet channel state
  | .copy _ => Quiet channel state
  | .aggregate _ => True
  | .importResult _ raised => raised = false
  | .clear _ => True

instance : DecidablePred (Idle channel) := fun stage =>
  match stage with
  | .copied deltas =>
      decidable_of_iff ((channel.aggregate (deltas.map Arrival.content)).isNone = true)
        Option.isNone_iff_eq_none
  | .importing _ => .isFalse id
  | .clearing _ => .isFalse id

instance : DecidablePred (@Quiet Content Result channel) := fun state =>
  inferInstanceAs (Decidable (∀ tick ∈ state.ticks.rows, Idle channel tick.stage))

instance (state : Pending Content Result) : DecidablePred (Undisturbed channel state) := fun event =>
  match event with
  | .receive _ _ => inferInstanceAs (Decidable (Quiet channel state))
  | .copy _ => inferInstanceAs (Decidable (Quiet channel state))
  | .aggregate _ => .isTrue trivial
  | .importResult _ raised => inferInstanceAs (Decidable (raised = false))
  | .clear _ => .isTrue trivial

def Holds (channel : Channel Content Result) (state : Pending Content Result) :
    Stage Content → Prop
  | .copied deltas => channel.aggregate (deltas.map Arrival.content) = none ∨
      (deltas = state.deltas.rows ∧ ∀ arrival ∈ state.deltas.rows, arrival ∉ state.used)
  | .importing _ => ∀ arrival ∈ state.deltas.rows, arrival ∈ state.used
  | .clearing _ => ∀ arrival ∈ state.deltas.rows, arrival ∈ state.used

structure Sound (channel : Channel Content Result) (state : Pending Content Result) : Prop where
  known : ∀ arrival, arrival ∈ state.deltas.rows ∨ arrival ∈ state.used → arrival ∈ state.received
  serials : ∀ arrival ∈ state.received, arrival.serial < state.received.length
  once : state.used.Nodup
  accounted : ∀ arrival ∈ state.received,
    arrival ∈ state.deltas.rows ∨ arrival ∈ state.used ∨ arrival ∈ state.replaced
  holds : ∀ tick ∈ state.ticks.rows, Holds channel state tick.stage
  alone : ∀ first ∈ state.ticks.rows, ∀ second ∈ state.ticks.rows,
    Idle channel first.stage ∨ Idle channel second.stage ∨ first = second
  unused : Quiet channel state → ∀ arrival ∈ state.deltas.rows, arrival ∉ state.used

theorem Idle.holds {stage : Stage Content} (idle : Idle channel stage) :
    Holds channel state stage := by
  cases stage with
  | copied deltas => exact .inl idle
  | importing deltas => exact idle.elim
  | clearing deltas => exact idle.elim

theorem stageOf_mem (thread : Nat) (stage : Stage Content)
    (found : state.stageOf thread = some stage) : ⟨thread, stage⟩ ∈ state.ticks.rows := by
  obtain ⟨tick, here, rfl⟩ := Option.map_eq_some_iff.mp found
  have named := state.ticks.get?_key thread tick here
  have member := state.ticks.get?_mem thread tick here
  subst named
  exact member

theorem alone_of_others {ticks : List (Tick Content)} {busy : Tick Content}
    (others : ∀ tick ∈ ticks, tick = busy ∨ Idle channel tick.stage) :
    ∀ first ∈ ticks, ∀ second ∈ ticks,
      Idle channel first.stage ∨ Idle channel second.stage ∨ first = second := by
  intro first isFirst second isSecond
  rcases others first isFirst with rfl | idle
  · rcases others second isSecond with rfl | idle
    · exact .inr (.inr rfl)
    · exact .inr (.inl idle)
  · exact .inl idle

namespace Sound

theorem opened : Sound channel (Pending.opened : Pending Content Result) := by
  constructor <;> simp [Pending.opened, Table.empty]

variable (sound : Sound channel state)

include sound

theorem others_idle {thread : Nat} {stage : Stage Content}
    (found : state.stageOf thread = some stage) (busy : ¬ Idle channel stage)
    (tick : Tick Content) (member : tick ∈ state.ticks.rows) (other : tick.thread ≠ thread) :
    Idle channel tick.stage := by
  rcases sound.alone _ (stageOf_mem thread stage found) tick member with idle | idle | same
  · exact absurd idle busy
  · exact idle
  · exact absurd (same ▸ rfl) other

theorem receive (nodeId : String) (content : Content) (quiet : Quiet channel state) :
    Sound channel (state.receive nodeId content) := by
  unfold Pending.receive
  split
  · exact sound
  have fresh (arrival : Arrival Content) (member : arrival ∈ state.received) :
      arrival ≠ ⟨nodeId, state.received.length, content⟩ := by
    rintro rfl
    exact Nat.lt_irrefl _ (sound.serials _ member)
  constructor
  · intro arrival held
    simp only [Table.mem_set, List.mem_cons] at held ⊢
    rcases held with (new | ⟨kept, -⟩) | used
    · exact .inl new
    · exact .inr (sound.known arrival (.inl kept))
    · exact .inr (sound.known arrival (.inr used))
  · intro arrival member
    rcases List.mem_cons.mp member with rfl | before
    · simp
    · exact Nat.lt_succ_of_lt (sound.serials arrival before)
  · exact sound.once
  · intro arrival member
    simp only [Table.mem_set, List.mem_append, Option.mem_toList]
    rcases List.mem_cons.mp member with new | before
    · exact .inl (.inl new)
    · rcases sound.accounted arrival before with held | used | replaced
      · by_cases same : arrival.nodeId = nodeId
        · have here := (state.deltas.mem_rows arrival).mp held
          exact .inr (.inr (.inl (same ▸ here)))
        · exact .inl (.inr ⟨held, same⟩)
      · exact .inr (.inl used)
      · exact .inr (.inr (.inr replaced))
  · intro tick member
    exact (quiet tick member).holds
  · exact sound.alone
  · intro _ arrival held
    rcases (Table.mem_set _ _ _).mp held with rfl | ⟨kept, -⟩
    · intro used
      exact fresh _ (sound.known _ (.inr used)) rfl
    · exact sound.unused quiet arrival kept

variable (thread : Nat)

theorem copy (quiet : Quiet channel state) : Sound channel (state.copy thread) := by
  unfold Pending.copy
  split
  · exact sound
  split
  · exact sound
  have others (tick : Tick Content)
      (member : tick ∈ (state.ticks.set ⟨thread, .copied state.deltas.rows⟩).rows) :
      tick = ⟨thread, .copied state.deltas.rows⟩ ∨ Idle channel tick.stage :=
    ((Table.mem_set _ _ _).mp member).imp id fun old => quiet tick old.1
  refine ⟨sound.known, sound.serials, sound.once, sound.accounted, ?_, alone_of_others others, ?_⟩
  · intro tick member
    rcases others tick member with rfl | idle
    · exact .inr ⟨rfl, sound.unused quiet⟩
    · exact idle.holds
  · intro _
    exact sound.unused quiet

theorem leave (stage : Stage Content) (found : state.stageOf thread = some stage)
    (idle : Idle channel stage) : Sound channel (state.leave thread) := by
  refine ⟨sound.known, sound.serials, sound.once, sound.accounted, ?_, ?_, ?_⟩
  · intro tick member
    exact sound.holds tick ((Table.mem_erase _ _ _).mp member).1
  · intro first isFirst second isSecond
    exact sound.alone first ((Table.mem_erase _ _ _).mp isFirst).1 second
      ((Table.mem_erase _ _ _).mp isSecond).1
  · intro quiet
    apply sound.unused
    intro tick member
    by_cases same : tick.thread = thread
    · have here := (state.ticks.mem_rows tick).mp member
      rw [same] at here
      simp only [stageOf, here, Option.map_some, Option.some.injEq] at found
      exact found ▸ idle
    · exact quiet tick ((Table.mem_erase _ _ _).mpr ⟨member, same⟩)

theorem entered {thread : Nat} {stage : Stage Content} (found : state.stageOf thread = some stage)
    (busy : ¬ Idle channel stage) (next : Stage Content) (tick : Tick Content)
    (member : tick ∈ (state.ticks.set ⟨thread, next⟩).rows) :
    tick = ⟨thread, next⟩ ∨ Idle channel tick.stage :=
  ((Table.mem_set _ _ _).mp member).imp id fun old =>
    sound.others_idle found busy tick old.1 old.2

theorem aggregate : Sound channel (state.aggregate channel thread) := by
  unfold Pending.aggregate
  split
  next deltas found =>
    split
    next fails => exact sound.leave thread (.copied deltas) found fails
    next result succeeds =>
      have busy : ¬ Idle channel (.copied deltas) := by
        simp [Idle, succeeds]
      rcases sound.holds _ (stageOf_mem thread _ found) with fails | ⟨rfl, unused⟩
      · exact absurd fails busy
      have others := sound.entered found busy
      have nodup : state.deltas.rows.Nodup := List.Nodup.of_map _ state.deltas.unique
      refine ⟨?_, sound.serials, ?_, ?_, ?_, alone_of_others (others _), ?_⟩
      · intro arrival held
        rcases held with held | used
        · exact sound.known arrival (.inl held)
        · exact sound.known arrival (List.mem_append.mp used)
      · exact List.nodup_append.mpr ⟨nodup, sound.once, fun left held right used same =>
          unused left held (same ▸ used)⟩
      · intro arrival member
        exact (sound.accounted arrival member).imp id (Or.imp (List.mem_append_right _) id)
      · intro tick member
        rcases others _ tick member with rfl | idle
        · split
          · exact fun arrival held => List.mem_append_left _ held
          · exact fun arrival held => List.mem_append_left _ held
        · exact idle.holds
      · intro quiet
        have last := quiet _ ((Table.mem_set _ _ _).mpr (.inl rfl))
        revert last
        split <;> exact fun last => last.elim
  · exact sound

theorem importResult : Sound channel (state.importResult thread false) := by
  unfold Pending.importResult
  split
  next deltas found =>
    have busy : ¬ Idle channel (.importing deltas) := id
    have spent := sound.holds _ (stageOf_mem thread _ found)
    have others := sound.entered found busy (.clearing deltas)
    refine ⟨sound.known, sound.serials, sound.once, sound.accounted, ?_, alone_of_others others, ?_⟩
    · intro tick member
      rcases others tick member with rfl | idle
      · exact spent
      · exact idle.holds
    · intro quiet
      exact (quiet _ ((Table.mem_set _ _ _).mpr (.inl rfl))).elim
  · exact sound

theorem clear : Sound channel (state.clear thread) := by
  unfold Pending.clear
  split
  next deltas found =>
    have busy : ¬ Idle channel (.clearing deltas) := id
    have spent : ∀ arrival ∈ state.deltas.rows, arrival ∈ state.used :=
      sound.holds _ (stageOf_mem thread _ found)
    have others (tick : Tick Content) (member : tick ∈ (state.ticks.erase thread).rows) :
        Idle channel tick.stage :=
      have old := (Table.mem_erase _ _ _).mp member
      sound.others_idle found busy tick old.1 old.2
    refine ⟨?_, sound.serials, sound.once, ?_, ?_, ?_, ?_⟩
    · intro arrival held
      rcases held with held | used
      · cases held
      · exact sound.known arrival (.inr used)
    · intro arrival member
      rcases sound.accounted arrival member with held | rest
      · exact .inr (.inl (spent arrival held))
      · exact .inr rest
    · intro tick member
      exact (others tick member).holds
    · intro first isFirst second _
      exact .inl (others first isFirst)
    · intro _ arrival held
      cases held
  · exact sound

theorem step (event : ChannelEvent Content) (calm : Undisturbed channel state event) :
    Sound channel (state.step channel event) := by
  cases event with
  | receive nodeId content => exact sound.receive nodeId content calm
  | copy thread => exact sound.copy thread calm
  | aggregate thread => exact sound.aggregate thread
  | importResult thread raised =>
    cases calm
    exact sound.importResult thread
  | clear thread => exact sound.clear thread

theorem good [DecidableEq Content] : state.Accounted := fun arrival member =>
  ⟨List.nodup_iff_count_le_one.mp sound.once arrival, sound.accounted arrival member⟩

end Sound
end Pending

structure DeltaChannels (Body Result : Type) where
  embedding : Pending (EmbeddingDelta Body) Result
  resonance : Pending ResonanceDelta Resonance

inductive DeltaEvent (Body : Type) where
  | embedding (event : ChannelEvent (EmbeddingDelta Body))
  | resonance (event : ChannelEvent ResonanceDelta)

namespace DeltaChannels
variable {Body Result : Type} [DecidableEq Body]
variable (trimmedMean : List (EmbeddingDelta Body) → List ℚ → Option Result)

def opened : DeltaChannels Body Result := ⟨Pending.opened, Pending.opened⟩

def step (channels : DeltaChannels Body Result) : DeltaEvent Body → DeltaChannels Body Result
  | .embedding event =>
      { channels with embedding := channels.embedding.step (embeddingChannel trimmedMean) event }
  | .resonance event =>
      { channels with resonance := channels.resonance.step resonanceChannel event }

def Undisturbed (channels : DeltaChannels Body Result) : DeltaEvent Body → Prop
  | .embedding event =>
      Pending.Undisturbed (embeddingChannel trimmedMean) channels.embedding event
  | .resonance event => Pending.Undisturbed resonanceChannel channels.resonance event

def Accounted (channels : DeltaChannels Body Result) : Prop :=
  channels.embedding.Accounted ∧ channels.resonance.Accounted

/-- In every interleaving of receipts and ticks in which deltas are received and copied
between ticks only, no received delta is used twice or cleared without being used. -/
theorem deltas_accounted_when_undisturbed (run : List (DeltaEvent Body))
    (calm : Along (step trimmedMean) (Undisturbed trimmedMean) opened run) :
    Always (step trimmedMean) Accounted (opened : DeltaChannels Body Result) run := by
  apply always_of_invariant (step trimmedMean)
    (fun channels => Pending.Sound (embeddingChannel trimmedMean) channels.embedding ∧
      Pending.Sound resonanceChannel channels.resonance) Accounted (Undisturbed trimmedMean) _ _ _ _ _ calm
  · rintro channels event ⟨embedding, resonance⟩ calm
    cases event with
    | embedding event => exact ⟨embedding.step event calm, resonance⟩
    | resonance event => exact ⟨embedding, resonance.step event calm⟩
  · rintro channels ⟨embedding, resonance⟩
    exact ⟨embedding.good, resonance.good⟩
  · exact ⟨Pending.Sound.opened, Pending.Sound.opened⟩

instance (channels : DeltaChannels Body Result) :
    DecidablePred (Undisturbed trimmedMean channels) := fun event =>
  match event with
  | .embedding event => inferInstanceAs (Decidable
      (Pending.Undisturbed (embeddingChannel trimmedMean) channels.embedding event))
  | .resonance event => inferInstanceAs (Decidable
      (Pending.Undisturbed resonanceChannel channels.resonance event))

section Raced

def countOnly (deltas : List (EmbeddingDelta Unit)) (_ : List ℚ) : Option Nat :=
  some deltas.length

def tuned : ResonanceDelta := ⟨some (.number 3), some [1 / 2], none⟩

def embeds (nodeId : String) : DeltaEvent Unit := .embedding (.receive nodeId ⟨none, ()⟩)

theorem deltas_accounted_two_ticks :
    Always (step countOnly) Accounted (opened : DeltaChannels Unit Nat)
      [embeds "n1", .embedding (.copy 1), .resonance (.receive "n1" tuned),
        .embedding (.aggregate 1), .embedding (.clear 1), embeds "n2", .resonance (.copy 1),
        .resonance (.aggregate 1), .resonance (.importResult 1 false), .resonance (.clear 1)] :=
  deltas_accounted_when_undisturbed countOnly _ (by decide +kernel)

/-- The second node's delta arrives between the copy and the clearing and is never used; and
a resonance delta whose import raises is used again by the next tick. -/
theorem delta_lost_or_used_twice :
    ¬ Accounted (final (step countOnly) (opened : DeltaChannels Unit Nat)
      [embeds "n1", .embedding (.copy 1), .embedding (.aggregate 1), embeds "n2",
        .embedding (.clear 1)]) ∧
    ¬ Accounted (final (step countOnly) (opened : DeltaChannels Unit Nat)
      [.resonance (.receive "n1" tuned), .resonance (.copy 1), .resonance (.aggregate 1),
        .resonance (.importResult 1 true), .resonance (.copy 2), .resonance (.aggregate 2)]) := by
  unfold Accounted
  decide +kernel

end Raced
end DeltaChannels
end Hartos.Federation
