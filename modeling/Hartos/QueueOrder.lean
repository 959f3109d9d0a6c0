import Hartos.QueueAccounts

/-!
The order in which a queue hands its messages out, and which one it drops to make room.
Under the priority policy the list is in order of priority and its first entry is the one
that goes first, so the queue drops what it should hand out next.
-/
namespace Hartos.ChannelQueue
open StepSystem

def Precedes (config : QueueConfig) (first second : QueuedMessage) : Prop :=
  if config.policy = .priority then
    second.priority < first.priority ∨
      (second.priority = first.priority ∧ first.call < second.call)
  else first.call < second.call

instance (config : QueueConfig) (first second : QueuedMessage) :
    Decidable (Precedes config first second) :=
  inferInstanceAs (Decidable (ite _ _ _))

def handsOutFirst (config : QueueConfig) (log : QueueLog) (event : QueueEvent) : Prop :=
  let served := serve config log.queue (numbered log.calls event)
  served.1.dequeued.Pairwise (Precedes config) ∧
    ∀ message ∈ served.1.dequeued, ∀ held ∈ served.2.items, Precedes config message held

def dropsOldest (config : QueueConfig) (log : QueueLog) (event : QueueEvent) : Prop :=
  let served := serve config log.queue (numbered log.calls event)
  ∀ dropped ∈ served.1.evicted, ∀ kept ∈ served.2.items,
    dropped.call < kept.call ∧ (config.policy = .priority → dropped.priority ≤ kept.priority)

def roomAmongEquals (config : QueueConfig) (log : QueueLog) : QueueEvent → Prop
  | .enqueue message priority now =>
      let cleaned := (log.queue.cleanExpired config now).2
      config.policy = .priority → cleaned.isDuplicate config message = false →
        isFull config cleaned.items = true → config.dropPolicy ≠ .new →
          ∀ held ∈ cleaned.items, held.priority ≤ priority.getD message.priority ∧
            ∀ other ∈ cleaned.items, held.priority = other.priority
  | _ => True

/-- Under the backlog policy messages are handed out as they came, every call hands out what
goes first, and what is dropped is the oldest. -/
structure OrderKept (config : QueueConfig) (run : List QueueEvent) : Prop where
  arrival : config.policy = .backlog →
    (final (step config) {} run).traffic.dequeued.Pairwise (·.call < ·.call)
  first : Along (step config) (handsOutFirst config) {} run
  oldest : Along (step config) (dropsOldest config) {} run

section Order
variable {config : QueueConfig} {queue : MessageQueue} {message : QueuedMessage}
  {priority : Option Int} {now : Time}

theorem precedes_of_priority (policy : config.policy = .priority)
    (first second : QueuedMessage) : Precedes config first second ↔
      second.priority < first.priority ∨
        (second.priority = first.priority ∧ first.call < second.call) := by
  rw [Precedes, if_pos policy]

theorem precedes_of_arrival (policy : config.policy ≠ .priority)
    (first second : QueuedMessage) : Precedes config first second ↔ first.call < second.call := by
  rw [Precedes, if_neg policy]

-- One more message, later than all, is put where it belongs.
theorem arrange_ordered {items : List QueuedMessage} (ordered : items.Pairwise (Precedes config))
    (later : ∀ held ∈ items, held.call < message.call) :
    (arrange config (items ++ [message])).Pairwise (Precedes config) := by
  by_cases policy : config.policy = .priority
  · rw [arrange, if_pos policy]
    have ties : (items ++ [message]).Pairwise fun first second =>
        first.priority ≤ second.priority → first.call < second.call := by
      apply List.pairwise_append.mpr
      refine ⟨ordered.imp ?_, List.pairwise_singleton _ _, ?_⟩
      · intro first second precedes tied
        rcases (precedes_of_priority policy first second).mp precedes with above | equal
        · omega
        · exact equal.2
      · intro held member other new _
        cases List.mem_singleton.mp new
        exact later held member
    apply (StableSort.insertionSort_stable _ ties).imp
    intro first second both
    apply (precedes_of_priority policy first second).mpr
    rcases Int.lt_or_eq_of_le both.1 with below | equal
    · exact Or.inl below
    · exact Or.inr ⟨equal, both.2 (Int.le_of_eq equal.symm)⟩
  · rw [arrange, if_neg policy]
    apply List.pairwise_append.mpr
    refine ⟨ordered, List.pairwise_singleton _ _, ?_⟩
    intro held member other new
    cases List.mem_singleton.mp new
    exact (precedes_of_arrival policy held message).mpr (later held member)

structure Ordered (config : QueueConfig) (log : QueueLog) : Prop where
  ordered : log.queue.items.Pairwise (Precedes config)
  numbered : ∀ message ∈ log.queue.items, message.call < log.calls
  room : 0 ≤ config.maxSize ∨ log.queue.items = []

theorem accepts_limit (accepts : Accepts config queue message priority now) :
    0 ≤ config.maxSize := by
  have seen := accepts.seen
  rw [MessageQueue.markSeen] at seen
  split at seen
  · have limit := of_decide_eq_true seen
    omega
  · split at seen
    · cases seen
    · omega

variable (log : QueueLog) (event : QueueEvent)

theorem step_ordered (inv : Ordered config log) : Ordered config (step config log event) := by
  by_cases quiet : (serve config log.queue (numbered log.calls event)).1.accepted = []
  · have left := (List.sublist_append_right _ _).trans (serve_sublist _ _ quiet)
    refine ⟨inv.ordered.sublist left, ?_, inv.room.imp_right ?_⟩
    · intro message held
      exact (inv.numbered message (left.subset held)).trans_le (Nat.le_add_right _ _)
    · intro empty
      rw [empty] at left
      exact List.eq_nil_of_sublist_nil left
  · cases event with
    | enqueue message priority now =>
      obtain ⟨kept, split, refused | accepted⟩ := enqueue_split config log.queue
        { message with call := log.calls } priority now
      · exact absurd (if_neg refused.1) quiet
      · have sublist : kept.Sublist log.queue.items :=
          (split ▸ List.sublist_append_right _ kept).trans List.filter_sublist
        have later : ∀ held ∈ kept, held.call < log.calls :=
          fun held member => inv.numbered held (sublist.subset member)
        have items : (step config log (.enqueue message priority now)).queue.items = _ :=
          accepted.2
        refine ⟨?_, ?_, Or.inl (accepts_limit (accepted_cases accepted.1))⟩
        · rw [items]
          exact arrange_ordered (inv.ordered.sublist sublist) later
        · rw [items]
          intro held member
          rcases List.mem_append.mp ((arrange_perm config _).mem_iff.mp member) with old | new
          · exact (later held old).trans (Nat.lt_succ_self _)
          · cases List.mem_singleton.mp new
            exact Nat.lt_succ_self _
    | dequeue | peek | collect | clear | getStats | getDroppedSummary => exact absurd rfl quiet

theorem handsOutFirst_of_ordered (inv : Ordered config log) : handsOutFirst config log event := by
  by_cases quiet : (serve config log.queue (numbered log.calls event)).1.accepted = []
  · have parts := List.pairwise_append.mp (inv.ordered.sublist (serve_sublist _ _ quiet))
    exact ⟨parts.1, parts.2.2⟩
  · cases event with
    | enqueue => exact ⟨List.Pairwise.nil, fun _ member => by cases member⟩
    | dequeue | peek | collect | clear | getStats | getDroppedSummary => exact absurd rfl quiet

theorem markSeen_done (limit : 0 ≤ config.maxSize) (queue : MessageQueue)
    (message : QueuedMessage) : (queue.markSeen config message).1 = true := by
  rw [MessageQueue.markSeen]
  split
  · exact decide_eq_true (by omega)
  · rw [if_neg (by omega)]

theorem enqueue_dropped (config : QueueConfig) (queue : MessageQueue) (message : QueuedMessage)
    (priority : Option Int) (now : Time) :
    (queue.enqueue config message priority now).dropped =
      if (queue.cleanExpired config now).2.isDuplicate config message then []
      else ((queue.cleanExpired config now).2.makeRoom config).2.1 := by
  rw [MessageQueue.enqueue]
  dsimp only
  split
  · rfl
  · split
    · rfl
    · rfl
    · split
      · rfl
      · rfl

section

variable (policy : config.policy = .priority)
include policy

-- Under the priority policy a full queue drops the message that goes next.
theorem makeRoom_priority (queue : MessageQueue) :
    (queue.makeRoom config).2.1 =
      if isFull config queue.items ∧ config.dropPolicy ≠ .new then queue.items.take 1 else [] := by
  rw [MessageQueue.makeRoom, policy, MessageQueue.applyDropPolicy]
  cases isFull config queue.items with
  | false => rfl
  | true =>
    cases drop : config.dropPolicy with
    | new => rfl
    | old | summarize =>
      cases queue.items with
      | nil => rfl
      | cons first rest => rfl

theorem enqueue_full (limit : 0 ≤ config.maxSize) {first : QueuedMessage}
    {rest : List QueuedMessage}
    (fresh : (queue.cleanExpired config now).2.isDuplicate config message = false)
    (full : isFull config (queue.cleanExpired config now).2.items = true)
    (drop : config.dropPolicy ≠ .new)
    (held : (queue.cleanExpired config now).2.items = first :: rest) :
    (queue.enqueue config message priority now).dropped = [first] ∧
      (queue.enqueue config message priority now).queue.items = arrange config
        (rest ++ [{ message with priority := priority.getD message.priority }]) := by
  have dropped : (queue.enqueue config message priority now).dropped = [first] := by
    rw [enqueue_dropped, if_neg (Bool.eq_false_iff.mp fresh), makeRoom_priority policy,
      if_pos ⟨full, drop⟩, held]
    rfl
  refine ⟨dropped, ?_⟩
  obtain ⟨kept, split, refused | accepted⟩ := enqueue_split config queue message priority now
  · exfalso
    apply refused.1
    have made : ((queue.cleanExpired config now).2.makeRoom config).1 = .made := by
      rw [MessageQueue.makeRoom, policy]
      dsimp only
      rw [MessageQueue.applyDropPolicy, if_pos full, held]
      cases kind : config.dropPolicy with
      | new => exact absurd kind drop
      | old => rfl
      | summarize => exact if_neg (Int.not_lt.mpr limit)
    rw [MessageQueue.enqueue, if_neg (Bool.eq_false_iff.mp fresh)]
    dsimp only
    rw [made]
    rw [if_pos (markSeen_done limit _ _)]
  · rw [dropped, held] at split
    rw [accepted.2, show kept = rest from (List.cons.inj split).2]

/-- The message dropped by a full queue is the oldest, and of the lowest priority, exactly
when it was as good as any other. -/
theorem dropsOldest_of_full {first given : QueuedMessage} {rest : List QueuedMessage}
    (ordered : (first :: rest).Pairwise (Precedes config)) (later : first.call < given.call) :
    (∀ kept ∈ arrange config (rest ++ [given]), first.call < kept.call ∧
        (config.policy = .priority → first.priority ≤ kept.priority)) ↔
      ∀ held ∈ first :: rest, held.priority ≤ given.priority ∧
        ∀ other ∈ first :: rest, held.priority = other.priority := by
  have places := (List.pairwise_cons.mp ordered).1
  constructor
  · intro law
    have level : ∀ held ∈ first :: rest, held.priority = first.priority := by
      intro held member
      rcases List.mem_cons.mp member with rfl | member
      · rfl
      · have above := (law held ((arrange_perm config _).mem_iff.mpr
          (List.mem_append_left _ member))).2 policy
        rcases (precedes_of_priority policy first held).mp (places held member) with below | equal
        · omega
        · exact equal.1
    have low := (law given ((arrange_perm config _).mem_iff.mpr
      (List.mem_append_right _ List.mem_cons_self))).2 policy
    intro held member
    exact ⟨Int.le_trans (Int.le_of_eq (level held member)) low,
      fun other another => (level held member).trans (level other another).symm⟩
  · intro equals kept member
    rcases List.mem_append.mp ((arrange_perm config _).mem_iff.mp member) with old | new
    · have same := (equals first List.mem_cons_self).2 kept (List.mem_cons_of_mem first old)
      rcases (precedes_of_priority policy first kept).mp (places kept old) with below | equal
      · omega
      · exact ⟨equal.2, fun _ => Int.le_of_eq same⟩
    · cases List.mem_singleton.mp new
      exact ⟨later, fun _ => (equals first List.mem_cons_self).1⟩

end

-- Under the other policies the items stand as they came, and the new message comes last.
theorem dropsOldest_of_arrival (policy : config.policy ≠ .priority) (log : QueueLog)
    (inv : Ordered config log) (message : QueuedMessage) (priority : Option Int) (now : Time) :
    dropsOldest config log (.enqueue message priority now) := by
  have sublist : (log.queue.cleanExpired config now).2.items.Sublist log.queue.items :=
    List.filter_sublist
  obtain ⟨kept, split, place⟩ := enqueue_split config log.queue
    { message with call := log.calls } priority now
  have ordered := inv.ordered.sublist sublist
  rw [← split] at ordered sublist
  intro dropped gone held member
  refine ⟨?_, fun other => absurd other policy⟩
  have older : ∀ stays ∈ kept, dropped.call < stays.call := by
    intro stays member
    exact (precedes_of_arrival policy dropped stays).mp
      ((List.pairwise_append.mp ordered).2.2 dropped gone stays member)
  have places : (step config log (.enqueue message priority now)).queue.items = kept ∨
      (step config log (.enqueue message priority now)).queue.items =
        arrange config (kept ++ [{ message with
          call := log.calls, priority := priority.getD message.priority }]) :=
    place.imp And.right And.right
  rcases places with same | joined
  · exact older held (same ▸ member)
  · have inside := (arrange_perm config _).mem_iff.mp (joined ▸ member :
      held ∈ arrange config (kept ++ [{ message with
        call := log.calls, priority := priority.getD message.priority }]))
    rcases List.mem_append.mp inside with old | new
    · exact older held old
    · cases List.mem_singleton.mp new
      exact inv.numbered dropped (sublist.subset (List.mem_append_left _ gone))

theorem dropsOldest_of_none {log : QueueLog} {event : QueueEvent}
    (none : (serve config log.queue (numbered log.calls event)).1.evicted = []) :
    dropsOldest config log event := by
  intro dropped member
  rw [none] at member
  cases member

theorem dropsOldest_of_priority (policy : config.policy = .priority) (log : QueueLog)
    (inv : Ordered config log) (message : QueuedMessage) (priority : Option Int) (now : Time) :
    dropsOldest config log (.enqueue message priority now) ↔
      roomAmongEquals config log (.enqueue message priority now) := by
  have sublist : (log.queue.cleanExpired config now).2.items.Sublist log.queue.items :=
    List.filter_sublist
  have gone : (serve config log.queue (numbered log.calls
      (.enqueue message priority now))).1.evicted = _ :=
    enqueue_dropped config log.queue { message with call := log.calls } priority now
  cases fresh : (log.queue.cleanExpired config now).2.isDuplicate config message with
  | true =>
    constructor
    · intro _ _ other
      exact absurd (fresh.symm.trans other) Bool.true_eq_false.mp
    · intro _
      exact dropsOldest_of_none (gone.trans (if_pos fresh))
  | false =>
    have room := gone.trans ((if_neg (Bool.eq_false_iff.mp fresh)).trans
      (makeRoom_priority policy _))
    by_cases makes : isFull config (log.queue.cleanExpired config now).2.items = true ∧
        config.dropPolicy ≠ .new
    · rw [if_pos makes] at room
      cases held : (log.queue.cleanExpired config now).2.items with
      | nil =>
        constructor
        · intro _ _ _ _ _ other member
          rw [held] at member
          cases member
        · intro _
          exact dropsOldest_of_none (room.trans (by rw [held]; rfl))
      | cons first rest =>
        rw [held] at room sublist
        have limit : 0 ≤ config.maxSize := by
          rcases inv.room with limit | empty
          · exact limit
          · rw [empty] at sublist
            cases sublist
        have places := (@enqueue_full config log.queue { message with call := log.calls }
          priority now policy limit first rest fresh makes.1 makes.2 held).2
        have law := @dropsOldest_of_full config policy first { message with
          call := log.calls, priority := priority.getD message.priority } rest
          (inv.ordered.sublist sublist) (inv.numbered first (sublist.subset List.mem_cons_self))
        constructor
        · intro drops _ _ _ _
          rw [held]
          apply law.mp
          intro kept member
          exact drops first (room ▸ List.mem_cons_self) kept (places ▸ member)
        · intro equals dropped member kept stays
          rw [room] at member
          cases List.mem_singleton.mp member
          exact law.mpr (held ▸ equals policy fresh makes.1 makes.2) kept (places ▸ stays)
    · constructor
      · intro _ _ _ full drop
        exact absurd ⟨full, drop⟩ makes
      · intro _
        exact dropsOldest_of_none (room.trans (if_neg makes))

theorem dropsOldest_iff (inv : Ordered config log) :
    dropsOldest config log event ↔ roomAmongEquals config log event := by
  cases event with
  | enqueue message priority now =>
    by_cases policy : config.policy = .priority
    · exact dropsOldest_of_priority policy log inv message priority now
    · exact ⟨fun _ other => absurd other policy,
        fun _ => dropsOldest_of_arrival policy log inv message priority now⟩
  | dequeue | peek | collect | clear | getStats | getDroppedSummary =>
    exact ⟨fun _ => trivial, fun _ _ member => by cases member⟩

theorem start_ordered (config : QueueConfig) : Ordered config {} where
  ordered := List.Pairwise.nil
  numbered := fun _ member => (by cases member)
  room := Or.inr rfl

def Arrived (log : QueueLog) : Prop :=
  (log.traffic.dequeued ++ log.queue.items).Pairwise (·.call < ·.call) ∧
    ∀ message ∈ log.traffic.dequeued ++ log.queue.items, message.call < log.calls

theorem step_arrived (policy : config.policy ≠ .priority) (log : QueueLog) (event : QueueEvent)
    (inv : Arrived log) : Arrived (step config log event) := by
  by_cases quiet : (serve config log.queue (numbered log.calls event)).1.accepted = []
  · have left : ((step config log event).traffic.dequeued ++
        (step config log event).queue.items).Sublist
          (log.traffic.dequeued ++ log.queue.items) := by
      show ((log.traffic.dequeued ++ _) ++ _).Sublist _
      rw [List.append_assoc]
      exact (serve_sublist _ _ quiet).append_left _
    refine ⟨inv.1.sublist left, ?_⟩
    intro message member
    exact (inv.2 message (left.subset member)).trans_le (Nat.le_add_right _ _)
  · cases event with
    | enqueue message priority now =>
      obtain ⟨kept, split, refused | accepted⟩ := enqueue_split config log.queue
        { message with call := log.calls } priority now
      · exact absurd (if_neg refused.1) quiet
      · have sublist : (log.traffic.dequeued ++ kept).Sublist
            (log.traffic.dequeued ++ log.queue.items) :=
          ((split ▸ List.sublist_append_right _ kept).trans List.filter_sublist).append_left _
        have after : (step config log (.enqueue message priority now)).traffic.dequeued ++
            (step config log (.enqueue message priority now)).queue.items =
              (log.traffic.dequeued ++ kept) ++ [{ message with
                call := log.calls, priority := priority.getD message.priority }] := by
          show (log.traffic.dequeued ++ []) ++ (serve config log.queue _).2.items = _
          rw [List.append_nil, List.append_assoc]
          apply congrArg
          exact accepted.2.trans (by rw [arrange, if_neg policy])
        constructor
        · rw [after]
          apply List.pairwise_append.mpr
          refine ⟨inv.1.sublist sublist, List.pairwise_singleton _ _, ?_⟩
          intro held member other new
          cases List.mem_singleton.mp new
          exact inv.2 held (sublist.subset member)
        · rw [after]
          intro held member
          rcases List.mem_append.mp member with old | new
          · exact (inv.2 held (sublist.subset old)).trans (Nat.lt_succ_self _)
          · cases List.mem_singleton.mp new
            exact Nat.lt_succ_self _
    | dequeue | peek | collect | clear | getStats | getDroppedSummary => exact absurd rfl quiet

theorem run_arrival (policy : config.policy ≠ .priority) (run : List QueueEvent) :
    (final (step config) {} run).traffic.dequeued.Pairwise (·.call < ·.call) := by
  have arrived : Arrived (final (step config) {} run) := by
    apply final_of_kept (step config) Arrived (step_arrived policy)
    exact ⟨List.Pairwise.nil, fun _ member => (by cases member)⟩
  exact (List.pairwise_append.mp arrived.1).1

end Order

/-- A queue keeps its order exactly when, under the priority policy, messages make room only
among equals. -/
theorem order_kept_iff (config : QueueConfig) (run : List QueueEvent) :
    OrderKept config run ↔ Along (step config) (roomAmongEquals config) {} run := by
  have kept : ∀ log event, Ordered config log → Ordered config (step config log event) :=
    step_ordered
  have always : Along (step config) (fun _ _ => True) {} run :=
    along_of_forall (step config) (fun _ => True) run (fun _ _ => trivial) {}
  constructor
  · intro order
    apply along_of_invariant (step config) (Ordered config) (dropsOldest config)
      (roomAmongEquals config) (fun log event inv _ => kept log event inv)
      (fun log event inv => (dropsOldest_iff log event inv).mp) run {} (start_ordered config)
    exact order.oldest
  · intro among
    refine ⟨?_, ?_, ?_⟩
    · intro backlog
      exact run_arrival (fun other => by rw [backlog] at other; cases other) run
    · exact along_of_invariant (step config) (Ordered config) (fun _ _ => True)
        (handsOutFirst config) (fun log event inv _ => kept log event inv)
        (fun log event inv _ => handsOutFirst_of_ordered log event inv) run {}
        (start_ordered config) always
    · exact along_of_invariant (step config) (Ordered config) (roomAmongEquals config)
        (dropsOldest config) (fun log event inv _ => kept log event inv)
        (fun log event inv => (dropsOldest_iff log event inv).mpr) run {}
        (start_ordered config) among

/-- A full queue of two drops the urgent message and keeps the other for one that is less
urgent. -/
theorem urgent_message_dropped :
    ¬ OrderKept { policy := .priority, dropPolicy := .old, maxSize := 2 }
      [.enqueue { messageId := "urgent", priority := 5, contentHash := "1" } none 0,
        .enqueue { messageId := "idle", priority := 1, contentHash := "2" } none 0,
        .enqueue { messageId := "usual", priority := 3, contentHash := "3" } none 0] := by
  intro order
  have dropped := order.oldest.2.2.1 { messageId := "urgent", priority := 5, contentHash := "1" }
    (by decide +kernel) { call := 1, messageId := "idle", priority := 1, contentHash := "2" }
    (by decide +kernel)
  exact absurd (dropped.2 rfl) (by decide)

end Hartos.ChannelQueue
