import Mathlib.Data.Prod.Lex
import Mathlib.Data.Finset.Max
import Mathlib.Data.List.Sort

/-!
Slot admission for the one local model server. A call takes a number, then the lock once to be
admitted or queued, and once more when its wait ends without a grant; a release and a change of
the slot count promote queued requests in a critical section of their own.
-/
namespace Hartos.LlamaScheduler

inductive Kind
  | user
  | daemon
  deriving DecidableEq

def Kind.pri : Kind → Nat
  | user => 0
  | daemon => 1

inductive Phase
  | unborn
  | entered
  | checking
  | waiting
  | deciding
  | returned
  | released
  | refused
  deriving DecidableEq

/-- `event` is set on promotion; `cancelEv` is the turn's event as the wait found it, and
`deadline` the end of its timeout. -/
structure Req where
  rid : String
  kind : Kind
  timeout : Option Int
  admitted : Bool
  canceled : Bool
  event : Bool
  cancelEv : Option Nat
  deadline : Option Int
  phase : Phase
  deriving DecidableEq

def Req.unborn : Req := ⟨"", .daemon, none, false, false, false, none, none, .unborn⟩

/-- The heap holds `(pri, seq)` in its order; `ringing` are the turn events that are set. -/
structure Scheduler where
  n : Nat
  next : Nat
  req : Nat → Req
  inflight : Finset Nat
  wait : List (Nat ×ₗ Nat)
  cancelEvents : String → Option Nat
  ringing : Finset Nat
  now : Int

def Scheduler.init (n : Nat) : Scheduler :=
  ⟨n, 1, fun _ => Req.unborn, ∅, [], fun _ => none, ∅, 0⟩

def resolveSlots (env n : Option Int) : Nat :=
  match n with
  | some n => if n ≠ 0 then (max 1 n).toNat else (env.map fun n => (max 1 n).toNat).getD 2
  | none => (env.map fun n => (max 1 n).toNat).getD 2

def seqOf (entry : Nat ×ₗ Nat) : Nat := (ofLex entry).2

namespace Scheduler
variable (s : Scheduler) (seq : Nat)

def setReq (change : Req → Req) : Scheduler :=
  { s with req := Function.update s.req seq (change (s.req seq)) }

def admitLocked : Scheduler :=
  { s.setReq seq fun req => { req with admitted := true } with inflight := insert seq s.inflight }

def evictLocked : Scheduler :=
  { s.setReq seq fun req => { req with admitted := false } with inflight := s.inflight.erase seq }

def daemons : Finset Nat := s.inflight.filter fun seq => (s.req seq).kind = .daemon

def pickDaemonLocked : Option Nat :=
  if running : s.daemons.Nonempty then some (s.daemons.min' running) else none

def victimFor : Option Nat := if (s.req seq).kind = .user then s.pickDaemonLocked else none

def pushWait : Scheduler :=
  { s with wait := s.wait.orderedInsert (· ≤ ·) (toLex ((s.req seq).kind.pri, seq)) }

def promoteFrom : List (Nat ×ₗ Nat) → Scheduler → Scheduler
  | [], s => s
  | entry :: rest, s =>
      let seq := seqOf entry
      if s.inflight.card < s.n then
        let popped := { s with wait := rest }
        if (s.req seq).canceled || (s.req seq).admitted then promoteFrom rest popped
        else promoteFrom rest
          ((popped.admitLocked seq).setReq seq fun req => { req with event := true })
      else s

def promoteLocked : Scheduler := promoteFrom s.wait s

def enter : Scheduler :=
  if s.inflight.card < s.n then s.admitLocked seq
  else
    match s.victimFor seq with
    | some victim => (s.evictLocked victim).admitLocked seq
    | none => s.pushWait seq

def decideLocked : Scheduler :=
  s.setReq seq fun req =>
    if req.admitted then { req with phase := .returned }
    else { req with canceled := true, phase := .refused }

def release : Scheduler :=
  promoteLocked { s.setReq seq fun req => { req with phase := .released } with
    inflight := s.inflight.erase seq }

def setSlots (env n : Option Int) : Scheduler :=
  promoteLocked { s with n := resolveSlots env n }

def call (rid : String) (kind : Kind) (timeout : Option Int) : Scheduler :=
  { s with
    next := s.next + 1
    req := Function.update s.req s.next
      ⟨rid, kind, timeout, false, false, false, none, none, .entered⟩ }

def check : Scheduler :=
  s.setReq seq fun req =>
    if req.admitted then { req with phase := .returned }
    else { req with
      cancelEv := if req.rid = "" then none else s.cancelEvents req.rid
      deadline := req.timeout.map (s.now + ·)
      phase := .waiting }

def wake : Scheduler :=
  s.setReq seq fun req => { req with phase := if req.admitted then .returned else .deciding }

end Scheduler

def Req.Ended (req : Req) (now : Int) (ringing : Finset Nat) : Prop :=
  (∃ deadline ∈ req.deadline, deadline ≤ now) ∨ ∃ event ∈ req.cancelEv, event ∈ ringing

instance (req : Req) (now : Int) (ringing : Finset Nat) : Decidable (req.Ended now ringing) :=
  inferInstanceAs (Decidable (_ ∨ _))

/-- `fail` is a wait that raises: the request is returned as it is. A token may be released again. -/
inductive Event
  | call (rid : String) (kind : Kind) (timeout : Option Int)
  | enter (seq : Nat)
  | check (seq : Nat)
  | wake (seq : Nat)
  | giveUp (seq : Nat)
  | fail (seq : Nat)
  | decide (seq : Nat)
  | release (seq : Nat)
  | setSlots (env n : Option Int)
  | bindCancel (rid : String) (event : Nat)
  | unbindCancel (rid : String)
  | cancelTurn (event : Nat)
  | tick (amount : Nat)

def step (s : Scheduler) : Event → Scheduler
  | .call rid kind timeout => s.call rid kind timeout
  | .enter seq =>
      if (s.req seq).phase = .entered then
        (s.setReq seq fun req => { req with phase := .checking }).enter seq
      else s
  | .check seq => if (s.req seq).phase = .checking then s.check seq else s
  | .wake seq =>
      if (s.req seq).phase = .waiting ∧ (s.req seq).event = true then s.wake seq else s
  | .giveUp seq =>
      if (s.req seq).phase = .waiting ∧ (s.req seq).Ended s.now s.ringing then
        s.setReq seq fun req => { req with phase := .deciding }
      else s
  | .fail seq =>
      if (s.req seq).phase = .waiting then
        s.setReq seq fun req => { req with phase := .returned }
      else s
  | .decide seq => if (s.req seq).phase = .deciding then s.decideLocked seq else s
  | .release seq =>
      if (s.req seq).phase = .returned ∨ (s.req seq).phase = .released then s.release seq else s
  | .setSlots env n => s.setSlots env n
  | .bindCancel rid event =>
      if rid = "" then s else { s with cancelEvents := Function.update s.cancelEvents rid (some event) }
  | .unbindCancel rid => { s with cancelEvents := Function.update s.cancelEvents rid none }
  | .cancelTurn event => { s with ringing := insert event s.ringing }
  | .tick amount => { s with now := s.now + amount }

end Hartos.LlamaScheduler
