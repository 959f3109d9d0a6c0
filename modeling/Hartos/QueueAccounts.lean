import Hartos.MessageQueue
import Hartos.StepSystem

/-!
Where every message of a queue goes. A call moves messages: it accepts one, hands some out,
drops, lets expire, clears or turns away. What the calls of a run move adds up, and so do
the statistics.
-/
namespace Hartos.ChannelQueue
open StepSystem

structure Traffic where
  accepted : List QueuedMessage := []
  dequeued : List QueuedMessage := []
  evicted : List QueuedMessage := []
  expired : List QueuedMessage := []
  cleared : List QueuedMessage := []
  refused : List QueuedMessage := []
  duplicates : List QueuedMessage := []
  deriving DecidableEq

namespace Traffic

def append (first second : Traffic) : Traffic where
  accepted := first.accepted ++ second.accepted
  dequeued := first.dequeued ++ second.dequeued
  evicted := first.evicted ++ second.evicted
  expired := first.expired ++ second.expired
  cleared := first.cleared ++ second.cleared
  refused := first.refused ++ second.refused
  duplicates := first.duplicates ++ second.duplicates

def left (traffic : Traffic) : List QueuedMessage :=
  traffic.dequeued ++ (traffic.evicted ++ (traffic.expired ++ traffic.cleared))

end Traffic

inductive QueueEvent where
  | enqueue (message : QueuedMessage) (priority : Option Int) (now : Time)
  | dequeue (now : Time)
  | peek (now : Time)
  | collect (maxItems : Option Int) (now : Time)
  | clear
  | getStats
  | getDroppedSummary
  deriving DecidableEq

def serve (config : QueueConfig) (queue : MessageQueue) : QueueEvent → Traffic × MessageQueue
  | .enqueue message priority now =>
      let done := queue.enqueue config message priority now
      let given := { message with priority := priority.getD message.priority }
      ({ accepted := if done.outcome = .accepted then [given] else []
         refused := if done.outcome = .refused then [given] else []
         duplicates := if done.outcome = .duplicate then [message] else []
         expired := done.expired
         evicted := done.dropped },
        done.queue)
  | .dequeue now =>
      let done := queue.dequeue config now
      ({ expired := done.1, dequeued := done.2.1.toList }, done.2.2)
  | .peek now =>
      let done := queue.peek config now
      ({ expired := done.1 }, done.2.2)
  | .collect maxItems now =>
      let done := queue.collect config maxItems now
      ({ expired := done.1, dequeued := done.2.1 }, done.2.2)
  | .clear => ({ cleared := queue.clear.1 }, queue.clear.2)
  | .getStats => ({}, queue.getStats.2)
  | .getDroppedSummary => ({}, queue.getDroppedSummary.2)

/-- A queue, how often `enqueue` was called, and what went where so far. -/
structure QueueLog where
  queue : MessageQueue := {}
  calls : Nat := 0
  traffic : Traffic := {}
  deriving DecidableEq

def numbered (calls : Nat) : QueueEvent → QueueEvent
  | .enqueue message priority now => .enqueue { message with call := calls } priority now
  | event => event

def callsOf : QueueEvent → Nat
  | .enqueue .. => 1
  | _ => 0

def step (config : QueueConfig) (log : QueueLog) (event : QueueEvent) : QueueLog :=
  let served := serve config log.queue (numbered log.calls event)
  { queue := served.2
    calls := log.calls + callsOf event
    traffic := log.traffic.append served.1 }

structure Moved (before : MessageQueue) (traffic : Traffic) (after : MessageQueue) : Prop where
  balance : (before.items ++ traffic.accepted).Perm (traffic.left ++ after.items)
  enqueued : after.stats.totalEnqueued = before.stats.totalEnqueued + traffic.accepted.length
  dequeued : after.stats.totalDequeued = before.stats.totalDequeued + traffic.dequeued.length
  dropped : after.stats.totalDropped =
    before.stats.totalDropped + (traffic.evicted.length + traffic.refused.length)
  expired : after.stats.totalExpired = before.stats.totalExpired + traffic.expired.length
  deduplicated : after.stats.totalDeduplicated =
    before.stats.totalDeduplicated + traffic.duplicates.length

section Left
variable (messages : List QueuedMessage)

@[simp] theorem left_expired : ({ expired := messages } : Traffic).left = messages :=
  List.append_nil messages

@[simp] theorem left_evicted : ({ evicted := messages } : Traffic).left = messages :=
  List.append_nil messages

@[simp] theorem left_dequeued : ({ dequeued := messages } : Traffic).left = messages :=
  List.append_nil messages

@[simp] theorem left_cleared : ({ cleared := messages } : Traffic).left = messages := rfl

end Left

section Moves
variable {config : QueueConfig} {before between after queue : MessageQueue}
  {first second traffic : Traffic} {now : Time} {message : QueuedMessage}

theorem left_append (first second : Traffic) :
    (first.append second).left.Perm (first.left ++ second.left) := by
  apply List.perm_iff_count.mpr
  simp only [Traffic.left, Traffic.append, List.count_append]
  omega

theorem Moved.trans (former : Moved before first between) (latter : Moved between second after) :
    Moved before (first.append second) after where
  balance := by
    have counted := fun message => congrArg₂ (· + ·) (former.balance.count_eq message)
      (latter.balance.count_eq message)
    apply List.perm_iff_count.mpr
    intro message
    have joined := (left_append first second).count_eq message
    have sums := counted message
    simp only [List.count_append, Traffic.append] at joined sums ⊢
    omega
  enqueued := by
    rw [latter.enqueued, former.enqueued, Traffic.append, List.length_append, Nat.add_assoc]
  dequeued := by
    rw [latter.dequeued, former.dequeued, Traffic.append, List.length_append, Nat.add_assoc]
  dropped := by
    rw [latter.dropped, former.dropped, Traffic.append, List.length_append, List.length_append]
    omega
  expired := by
    rw [latter.expired, former.expired, Traffic.append, List.length_append, Nat.add_assoc]
  deduplicated := by
    rw [latter.deduplicated, former.deduplicated, Traffic.append, List.length_append, Nat.add_assoc]

theorem arrange_perm (config : QueueConfig) (items : List QueuedMessage) :
    (arrange config items).Perm items := by
  rw [arrange]
  split
  · exact List.perm_insertionSort _ items
  · exact List.Perm.refl items

theorem cleanExpired_moved (config : QueueConfig) (queue : MessageQueue) (now : Time) :
    Moved queue { expired := (queue.cleanExpired config now).1 }
      (queue.cleanExpired config now).2 where
  balance := by
    rw [List.append_nil, left_expired]
    exact (List.filter_append_perm (isFresh config now) queue.items).symm.trans
      List.perm_append_comm
  enqueued := rfl
  dequeued := rfl
  dropped := rfl
  expired := rfl
  deduplicated := rfl

theorem popped_moved (queue : MessageQueue) (dropped : QueuedMessage) (rest : List QueuedMessage)
    (summaries : List String) (held : queue.items = dropped :: rest) :
    Moved queue { evicted := [dropped] }
      { queue with
        items := rest
        stats :=
          { queue.stats with
            totalDropped := queue.stats.totalDropped + 1, droppedSummaries := summaries } } where
  balance := by rw [held, List.append_nil]; exact List.Perm.refl _
  enqueued := rfl
  dequeued := rfl
  dropped := rfl
  expired := rfl
  deduplicated := rfl

theorem emptied_moved (queue : MessageQueue) : Moved queue { evicted := queue.items }
      { queue with
        items := []
        stats :=
          { queue.stats with
            totalDropped := queue.stats.totalDropped + queue.items.length } } where
  balance := by rw [left_evicted]
  enqueued := rfl
  dequeued := rfl
  dropped := rfl
  expired := rfl
  deduplicated := rfl

theorem still (queue : MessageQueue) : Moved queue {} queue where
  balance := by rw [List.append_nil]; exact List.Perm.refl _
  enqueued := rfl
  dequeued := rfl
  dropped := rfl
  expired := rfl
  deduplicated := rfl

section

variable (config : QueueConfig) (queue : MessageQueue)

theorem applyDropPolicy_moved : Moved queue { evicted := (queue.applyDropPolicy config).2.1 }
      (queue.applyDropPolicy config).2.2 := by
  rw [MessageQueue.applyDropPolicy]
  split
  · split
    · exact still queue
    · exact still queue
    case h_3 dropped rest _ held => exact popped_moved queue dropped rest _ held
    case h_4 dropped rest _ held => exact popped_moved queue dropped rest _ held
  · exact still queue

theorem makeRoom_moved :
    Moved queue { evicted := (queue.makeRoom config).2.1 } (queue.makeRoom config).2.2 := by
  cases policy : config.policy with
  | latest =>
    rw [MessageQueue.makeRoom, policy]
    exact emptied_moved queue
  | drop =>
    rw [MessageQueue.makeRoom, policy]
    exact still queue
  | backlog | priority | collect =>
    rw [MessageQueue.makeRoom, policy]
    exact applyDropPolicy_moved config queue

theorem markSeen_items (message : QueuedMessage) :
    (queue.markSeen config message).2.items = queue.items ∧
      (queue.markSeen config message).2.stats = queue.stats := by
  rw [MessageQueue.markSeen]
  split
  · exact ⟨rfl, rfl⟩
  · split
    · exact ⟨rfl, rfl⟩
    · exact ⟨rfl, rfl⟩

end

theorem append_moved (config : QueueConfig) (now : Time) (queue : MessageQueue)
    (message : QueuedMessage) :
    Moved queue { accepted := [message] } (queue.append config now message) where
  balance := (arrange_perm config _).symm
  enqueued := rfl
  dequeued := rfl
  dropped := rfl
  expired := rfl
  deduplicated := rfl

theorem refused_moved (queue : MessageQueue) (message : QueuedMessage) :
    Moved queue { refused := [message] }
      { queue with
        stats := { queue.stats with totalDropped := queue.stats.totalDropped + 1 } } where
  balance := by rw [List.append_nil]; exact List.Perm.refl _
  enqueued := rfl
  dequeued := rfl
  dropped := rfl
  expired := rfl
  deduplicated := rfl

theorem duplicate_moved (queue : MessageQueue) (message : QueuedMessage) :
    Moved queue { duplicates := [message] }
      { queue with
        stats :=
          { queue.stats with totalDeduplicated := queue.stats.totalDeduplicated + 1 } } where
  balance := by rw [List.append_nil]; exact List.Perm.refl _
  enqueued := rfl
  dequeued := rfl
  dropped := rfl
  expired := rfl
  deduplicated := rfl

theorem markSeen_moved (config : QueueConfig) (queue : MessageQueue) (message : QueuedMessage) :
    Moved queue {} (queue.markSeen config message).2 := by
  have same := markSeen_items config queue message
  constructor
  · rw [same.1, List.append_nil]
    exact List.Perm.refl _
  all_goals rw [same.2]; rfl

theorem enqueue_moved (config : QueueConfig) (queue : MessageQueue) (message : QueuedMessage)
    (priority : Option Int) (now : Time) :
    Moved queue (serve config queue (.enqueue message priority now)).1
      (serve config queue (.enqueue message priority now)).2 := by
  have cleaned := cleanExpired_moved config queue now
  have roomed := cleaned.trans (makeRoom_moved config (queue.cleanExpired config now).2)
  have marked := fun given => roomed.trans (markSeen_moved config
    ((queue.cleanExpired config now).2.makeRoom config).2.2 given)
  cases fresh : (queue.cleanExpired config now).2.isDuplicate config message with
  | true =>
    simpa [serve, MessageQueue.enqueue, fresh, Traffic.append] using
      cleaned.trans (duplicate_moved _ message)
  | false =>
    cases room : ((queue.cleanExpired config now).2.makeRoom config).1 with
    | refused =>
      simpa [serve, MessageQueue.enqueue, fresh, room, Traffic.append] using
        roomed.trans
          (refused_moved _ { message with priority := priority.getD message.priority })
    | raised =>
      simpa [serve, MessageQueue.enqueue, fresh, room, Traffic.append] using roomed
    | made =>
      cases seen : (((queue.cleanExpired config now).2.makeRoom config).2.2.markSeen config
          { message with priority := priority.getD message.priority }).1 with
      | false =>
          simpa [serve, MessageQueue.enqueue, fresh, room, seen, Traffic.append] using
            marked { message with priority := priority.getD message.priority }
      | true =>
          simpa [serve, MessageQueue.enqueue, fresh, room, seen, Traffic.append] using
            (marked _).trans (append_moved config now _
              { message with priority := priority.getD message.priority })

theorem handed_moved (queue : MessageQueue) (handed rest : List QueuedMessage)
    (held : queue.items = handed ++ rest) :
    Moved queue { dequeued := handed }
      { queue with
        items := rest
        stats :=
          { queue.stats with
            totalDequeued := queue.stats.totalDequeued + handed.length
            currentSize := rest.length } } where
  balance := by rw [held, List.append_nil, left_dequeued]
  enqueued := rfl
  dequeued := rfl
  dropped := rfl
  expired := rfl
  deduplicated := rfl

theorem dequeue_moved (config : QueueConfig) (queue : MessageQueue) (now : Time) :
    Moved queue (serve config queue (.dequeue now)).1 (serve config queue (.dequeue now)).2 := by
  have cleaned := cleanExpired_moved config queue now
  cases held : (queue.cleanExpired config now).2.items with
  | nil => simpa [serve, MessageQueue.dequeue, held] using cleaned
  | cons message rest =>
    simpa [serve, MessageQueue.dequeue, held, Traffic.append] using
      cleaned.trans (handed_moved _ [message] rest held)

theorem collect_moved (config : QueueConfig) (queue : MessageQueue) (maxItems : Option Int)
    (now : Time) :
    Moved queue (serve config queue (.collect maxItems now)).1
      (serve config queue (.collect maxItems now)).2 := by
  have cleaned := cleanExpired_moved config queue now
  have handed := fun bound => handed_moved (queue.cleanExpired config now).2 _ _
    (List.take_append_drop bound (queue.cleanExpired config now).2.items).symm
  simpa [serve, MessageQueue.collect, Traffic.append] using cleaned.trans (handed _)

theorem clear_moved (queue : MessageQueue) :
    Moved queue { cleared := queue.clear.1 } queue.clear.2 where
  balance := by rw [left_cleared]; exact List.Perm.refl _
  enqueued := rfl
  dequeued := rfl
  dropped := rfl
  expired := rfl
  deduplicated := rfl

theorem getDroppedSummary_moved (queue : MessageQueue) :
    Moved queue {} queue.getDroppedSummary.2 := by
  rw [MessageQueue.getDroppedSummary]
  split
  · exact still queue
  · constructor
    · exact (still queue).balance
    all_goals rfl

theorem serve_moved (config : QueueConfig) (queue : MessageQueue) (event : QueueEvent) :
    Moved queue (serve config queue event).1 (serve config queue event).2 := by
  cases event with
  | enqueue message priority now => exact enqueue_moved config queue message priority now
  | dequeue now => exact dequeue_moved config queue now
  | peek now => exact cleanExpired_moved config queue now
  | collect maxItems now => exact collect_moved config queue maxItems now
  | clear => exact clear_moved queue
  | getStats =>
    constructor
    · exact (still queue).balance
    all_goals rfl
  | getDroppedSummary => exact getDroppedSummary_moved queue

end Moves

section Runs
variable {config : QueueConfig}

structure Accepts (config : QueueConfig) (queue : MessageQueue) (message : QueuedMessage)
    (priority : Option Int) (now : Time) : Prop where
  fresh : (queue.cleanExpired config now).2.isDuplicate config message = false
  made : ((queue.cleanExpired config now).2.makeRoom config).1 = .made
  seen : (((queue.cleanExpired config now).2.makeRoom config).2.2.markSeen config
    { message with priority := priority.getD message.priority }).1 = true
  dropped : (queue.enqueue config message priority now).dropped =
    ((queue.cleanExpired config now).2.makeRoom config).2.1
  items : (queue.enqueue config message priority now).queue.items =
    arrange config (((queue.cleanExpired config now).2.makeRoom config).2.2.items ++
      [{ message with priority := priority.getD message.priority }])

variable {queue : MessageQueue}

theorem accepted_cases {message : QueuedMessage} {priority : Option Int} {now : Time}
    (accepted : (queue.enqueue config message priority now).outcome = .accepted) :
    Accepts config queue message priority now := by
  cases fresh : (queue.cleanExpired config now).2.isDuplicate config message with
  | true => simp [MessageQueue.enqueue, fresh] at accepted
  | false =>
    cases room : ((queue.cleanExpired config now).2.makeRoom config).1 with
    | refused | raised => simp [MessageQueue.enqueue, fresh, room] at accepted
    | made =>
      cases seen : (((queue.cleanExpired config now).2.makeRoom config).2.2.markSeen config
          { message with priority := priority.getD message.priority }).1 with
      | false => simp [MessageQueue.enqueue, fresh, room, seen] at accepted
      | true =>
          refine ⟨fresh, room, seen, ?_, ?_⟩
          · simp [MessageQueue.enqueue, fresh, room, seen]
          · simp [MessageQueue.enqueue, fresh, room, seen, MessageQueue.append,
              (markSeen_items config _ _).1]

section

variable (positive : 1 ≤ config.maxSize) (within : (queue.items.length : Int) ≤ config.maxSize)
include positive within

theorem makeRoom_short (made : (queue.makeRoom config).1 = .made) :
    ((queue.makeRoom config).2.2.items.length : Int) + 1 ≤ config.maxSize := by
  have dropped (rest : List QueuedMessage) (first : QueuedMessage)
      (held : queue.items = first :: rest) : (rest.length : Int) + 1 ≤ config.maxSize := by
    rw [held, List.length_cons] at within
    omega
  have policy : (queue.applyDropPolicy config).1 = .made →
      ((queue.applyDropPolicy config).2.2.items.length : Int) + 1 ≤ config.maxSize := by
    rw [MessageQueue.applyDropPolicy]
    split
    · split
      case h_1 => intro refused; cases refused
      case h_2 held _ => intro _; rw [held]; exact positive
      case h_3 first rest _ held => intro _; exact dropped rest first held
      case h_4 first rest _ held => intro _; exact dropped rest first held
    case isFalse full =>
      intro _
      rw [isFull, decide_eq_true_eq] at full
      show (queue.items.length : Int) + 1 ≤ config.maxSize
      omega
  rw [MessageQueue.makeRoom] at made ⊢
  cases kind : config.policy with
  | latest => exact positive
  | drop =>
    rw [kind] at made
    cases full : isFull config queue.items with
    | true => rw [full] at made; cases made
    | false =>
      rw [isFull, decide_eq_false_iff_not] at full
      show (queue.items.length : Int) + 1 ≤ config.maxSize
      omega
  | backlog | priority | collect =>
    rw [kind] at made
    exact policy made

theorem enqueue_short (message : QueuedMessage) (priority : Option Int) (now : Time)
    (accepted : (queue.enqueue config message priority now).outcome = .accepted) :
    ((queue.enqueue config message priority now).queue.items.length : Int) ≤ config.maxSize := by
  have cleaned : ((queue.cleanExpired config now).2.items.length : Int) ≤ config.maxSize :=
    Int.le_trans (Int.ofNat_le.mpr (List.length_filter_le _ queue.items)) within
  have possible := accepted_cases accepted
  rw [possible.items, (arrange_perm config _).length_eq, List.length_append]
  exact makeRoom_short positive cleaned possible.made

theorem serve_bounded (event : QueueEvent) :
    ((serve config queue event).2.items.length : Int) ≤ config.maxSize := by
  have lengths := (serve_moved config queue event).balance.length_eq
  rw [List.length_append, List.length_append] at lengths
  by_cases none : (serve config queue event).1.accepted = []
  · rw [none, List.length_nil] at lengths
    omega
  · cases event with
    | enqueue message priority now =>
      apply enqueue_short positive within message priority now
      by_contra other
      exact none (if_neg other)
    | dequeue | peek | collect | clear | getStats | getDroppedSummary => exact absurd rfl none

end

section

variable (config : QueueConfig) (queue : MessageQueue)

theorem applyDropPolicy_split :
    (queue.applyDropPolicy config).2.1 ++ (queue.applyDropPolicy config).2.2.items =
      queue.items := by
  rw [MessageQueue.applyDropPolicy]
  split
  · split
    · rfl
    · rfl
    case h_3 held => exact held.symm
    case h_4 held => exact held.symm
  · rfl

theorem makeRoom_split :
    (queue.makeRoom config).2.1 ++ (queue.makeRoom config).2.2.items = queue.items := by
  rw [MessageQueue.makeRoom]
  cases config.policy with
  | latest => exact List.append_nil queue.items
  | drop => rfl
  | backlog | priority | collect => exact applyDropPolicy_split config queue

/-- What `enqueue` drops comes first, and only an accepted message joins what stays. -/
theorem enqueue_split (message : QueuedMessage) (priority : Option Int) (now : Time) :
    ∃ kept, (queue.enqueue config message priority now).dropped ++ kept =
        (queue.cleanExpired config now).2.items ∧
      (((queue.enqueue config message priority now).outcome ≠ .accepted ∧
          (queue.enqueue config message priority now).queue.items = kept) ∨
        ((queue.enqueue config message priority now).outcome = .accepted ∧
          (queue.enqueue config message priority now).queue.items = arrange config
            (kept ++ [{ message with priority := priority.getD message.priority }]))) := by
  have room := makeRoom_split config (queue.cleanExpired config now).2
  by_cases accepted : (queue.enqueue config message priority now).outcome = .accepted
  · have possible := accepted_cases accepted
    exact ⟨_, possible.dropped ▸ room, Or.inr ⟨accepted, possible.items⟩⟩
  · refine ⟨(queue.enqueue config message priority now).queue.items, ?_, Or.inl ⟨accepted, rfl⟩⟩
    rw [MessageQueue.enqueue] at accepted ⊢
    split
    · rfl
    case isFalse fresh =>
      rw [if_neg fresh] at accepted
      dsimp only at accepted ⊢
      split
      · exact room
      · exact room
      case h_3 made =>
        rw [made] at accepted
        split
        case isTrue seen => exact absurd (by rw [if_pos seen]) accepted
        case isFalse seen =>
          rw [(markSeen_items config _ _).1]
          exact room

end

/-- What a call hands out stands before what it leaves, unless it accepts a message. -/
theorem serve_sublist (queue : MessageQueue) (event : QueueEvent)
    (quiet : (serve config queue event).1.accepted = []) :
    ((serve config queue event).1.dequeued ++ (serve config queue event).2.items).Sublist
      queue.items := by
  have cleaned (now : Time) : (queue.cleanExpired config now).2.items.Sublist queue.items :=
    List.filter_sublist
  cases event with
  | enqueue message priority now =>
    obtain ⟨kept, split, refused | accepted⟩ :=
      enqueue_split config queue message priority now
    · show (queue.enqueue config message priority now).queue.items.Sublist queue.items
      rw [refused.2]
      exact (split ▸ List.sublist_append_right _ kept).trans (cleaned now)
    · rw [serve, if_pos accepted.1] at quiet
      cases quiet
  | dequeue now =>
    rw [serve, MessageQueue.dequeue]
    cases held : (queue.cleanExpired config now).2.items with
    | nil =>
      rw [held]
      exact List.nil_sublist _
    | cons message rest =>
      have whole := cleaned now
      rw [held] at whole
      exact whole
  | peek now => exact cleaned now
  | collect maxItems now =>
    show (List.take _ _ ++ List.drop _ _).Sublist queue.items
    rw [List.take_append_drop]
    exact cleaned now
  | clear => exact List.nil_sublist _
  | getStats => exact List.Sublist.refl _
  | getDroppedSummary =>
    rw [serve, MessageQueue.getDroppedSummary]
    split
    · exact List.Sublist.refl _
    · exact List.Sublist.refl _

theorem run_moved (config : QueueConfig) (run : List QueueEvent) (log : QueueLog)
    (moved : Moved {} log.traffic log.queue) :
    Moved {} (final (step config) log run).traffic (final (step config) log run).queue := by
  apply final_of_kept (step config) (fun log => Moved {} log.traffic log.queue)
  · intro log event moved
    exact moved.trans (serve_moved config log.queue _)
  · exact moved

theorem accepted_call {event : QueueEvent} {calls : Nat} {message : QueuedMessage}
    (accepted : message ∈ (serve config queue (numbered calls event)).1.accepted) :
    message.call = calls ∧ callsOf event = 1 ∧
      (serve config queue (numbered calls event)).1.accepted = [message] := by
  cases event with
  | enqueue =>
    rw [numbered, serve] at accepted ⊢
    split at accepted
    case isTrue outcome =>
      rw [if_pos outcome]
      cases List.mem_singleton.mp accepted
      exact ⟨rfl, rfl, rfl⟩
    · cases accepted
  | dequeue | peek | collect | clear | getStats | getDroppedSummary => cases accepted

def Numbered (log : QueueLog) : Prop :=
  log.traffic.accepted.Pairwise (·.call < ·.call) ∧
    ∀ message ∈ log.traffic.accepted, message.call < log.calls

theorem step_numbered (log : QueueLog) (event : QueueEvent) (inv : Numbered log) :
    Numbered (step config log event) := by
  have later : ∀ message ∈ (serve config log.queue (numbered log.calls event)).1.accepted,
      message.call = log.calls ∧ callsOf event = 1 := by
    intro message accepted
    exact ⟨(accepted_call accepted).1, (accepted_call accepted).2.1⟩
  constructor
  · apply List.pairwise_append.mpr
    refine ⟨inv.1, ?_, ?_⟩
    · cases accepted : (serve config log.queue (numbered log.calls event)).1.accepted with
      | nil => exact List.Pairwise.nil
      | cons message rest =>
        have alone := (accepted_call (accepted ▸ List.mem_cons_self :
          message ∈ (serve config log.queue (numbered log.calls event)).1.accepted)).2.2
        rw [accepted] at alone
        rw [alone]
        exact List.pairwise_singleton _ _
    · intro first old second new
      rw [(later second new).1]
      exact inv.2 first old
  · intro message accepted
    rcases List.mem_append.mp accepted with old | new
    · exact (inv.2 message old).trans_le (Nat.le_add_right _ _)
    · rw [(later message new).1]
      show log.calls < log.calls + callsOf event
      rw [(later message new).2]
      exact Nat.lt_succ_self _

structure Accounted (config : QueueConfig) (log : QueueLog) : Prop where
  bounded : (log.queue.items.length : Int) ≤ config.maxSize
  distinct : (log.traffic.accepted.map QueuedMessage.call).Nodup
  balance : log.traffic.accepted.Perm (log.traffic.left ++ log.queue.items)
  once : ((log.traffic.left ++ log.queue.items).map QueuedMessage.call).Nodup
  sizes : log.traffic.accepted.length =
    log.traffic.dequeued.length + log.traffic.evicted.length + log.traffic.expired.length +
      log.traffic.cleared.length + log.queue.items.length
  stats : log.queue.getStats.1 =
    { totalEnqueued := log.traffic.accepted.length
      totalDequeued := log.traffic.dequeued.length
      totalDropped := log.traffic.evicted.length + log.traffic.refused.length
      totalExpired := log.traffic.expired.length
      totalDeduplicated := log.traffic.duplicates.length
      currentSize := log.queue.items.length
      droppedSummaries := log.queue.stats.droppedSummaries }

theorem queue_accounts (positive : 1 ≤ config.maxSize) (run : List QueueEvent) :
    Accounted config (final (step config) {} run) := by
  have moved := run_moved config run {} (still {})
  have numbers : Numbered (final (step config) {} run) := by
    apply final_of_kept (step config) Numbered step_numbered
    exact ⟨List.Pairwise.nil, fun _ member => by cases member⟩
  have bounded : ((final (step config) {} run).queue.items.length : Int) ≤ config.maxSize := by
    apply final_of_kept (step config) (fun log => (log.queue.items.length : Int) ≤ config.maxSize)
    · intro log event within
      exact serve_bounded positive within _
    · exact Int.le_trans (Int.le_add_one (Int.le_refl 0)) positive
  have distinct : ((final (step config) {} run).traffic.accepted.map QueuedMessage.call).Nodup := by
    apply (List.pairwise_map.mpr numbers.1).imp
    exact fun smaller => Nat.ne_of_lt smaller
  refine ⟨bounded, distinct, moved.balance, ?_, ?_, ?_⟩
  · exact (moved.balance.map QueuedMessage.call).nodup_iff.mp distinct
  · have lengths := moved.balance.length_eq
    simp only [Traffic.left, List.length_append, List.length_nil] at lengths
    omega
  · rw [MessageQueue.getStats, QueueStats.mk.injEq]
    refine ⟨?_, ?_, ?_, ?_, ?_, rfl, rfl⟩
    · exact moved.enqueued.trans (Nat.zero_add _)
    · exact moved.dequeued.trans (Nat.zero_add _)
    · exact moved.dropped.trans (Nat.zero_add _)
    · exact moved.expired.trans (Nat.zero_add _)
    · exact moved.deduplicated.trans (Nat.zero_add _)

end Runs

/-- Two messages for a queue of one, the second of which makes room. -/
theorem replaced_message_accounts :
    Accounted { maxSize := 1 }
      (final (step { maxSize := 1 }) {}
        [.enqueue { messageId := "a", contentHash := "1" } none 0,
          .enqueue { messageId := "b", contentHash := "2" } none 0, .dequeue 0]) :=
  queue_accounts (by decide) _

end Hartos.ChannelQueue
