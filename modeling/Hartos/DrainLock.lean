import Mathlib.Data.Finset.Basic
import Mathlib.Logic.Function.Basic
import Mathlib.Data.Finset.Insert

/-!
The drain lock of a user's instruction queue: a lock among the threads of a process, and a file
with the holder's pid and time among processes. A process opens the file anew for each look and
each write, and may stop between any two steps.
-/
namespace Hartos.DrainLock

structure Thread where
  pid : Nat
  tid : Nat
  deriving DecidableEq

inductive Content
  | empty
  | record (pid : Nat) (time : Int)
  | torn
  deriving DecidableEq

/-- The next step of a thread in `acquire_drain_lock` or `release_drain_lock`. -/
inductive Pc
  | idle
  | asked
  | found
  | opened (inode : Nat)
  | judging (lockPid : Nat) (lockTime : Int)
  | aging (lockTime : Int)
  | taking
  | stamping (inode : Nat)
  | flushing (inode : Nat) (stamp : Int)
  | refusing
  | holding (since : Int)
  | releasing (since : Int)
  | removing (since : Int)
  | unlocking
  deriving DecidableEq

/-- `owner` is the process that last opened the file for writing; `lock` is `_drain_lock`. -/
structure State where
  path : Option Nat
  content : Nat → Content
  owner : Nat → Nat
  inodes : Nat
  alive : Nat → Bool
  lock : Nat → Bool
  threads : Finset Thread
  pc : Thread → Pc
  now : Int

def State.init : State :=
  ⟨none, fun _ => .empty, fun _ => 0, 0, fun _ => false, fun _ => false, ∅, fun _ => .idle, 0⟩

namespace State

def goto (s : State) (t : Thread) (pc : Pc) : State := { s with pc := Function.update s.pc t pc }

def openWrite (s : State) (t : Thread) : State :=
  match s.path with
  | some inode =>
      { s with
        content := Function.update s.content inode .empty
        owner := Function.update s.owner inode t.pid
        pc := Function.update s.pc t (.stamping inode) }
  | none =>
      { s with
        path := some s.inodes
        content := Function.update s.content s.inodes .empty
        owner := Function.update s.owner s.inodes t.pid
        inodes := s.inodes + 1
        pc := Function.update s.pc t (.stamping s.inodes) }

def overwrite (old : Content) (torn : Bool) (pid : Nat) (stamp : Int) : Content :=
  if old ≠ .empty ∧ torn = true then .torn else .record pid stamp

def unlock (s : State) (t : Thread) : State :=
  { s.goto t .idle with lock := Function.update s.lock t.pid false }

end State

inductive Event
  | start (pid : Nat)
  | crash (pid : Nat)
  | acquire (t : Thread)
  | advance (t : Thread) (torn : Bool)
  | release (t : Thread)
  | tick (amount : Nat)

section Steps
variable (signals : Nat → Nat → Bool)

/-- `signals` tells which process may send a signal to which; `torn`, whether a record written
over another one leaves some of it behind. -/
def advance (s : State) (t : Thread) (torn : Bool) : State :=
  match s.pc t with
  | .idle => s
  | .asked => s.goto t (if s.path.isSome then .found else .taking)
  | .found =>
      match s.path with
      | some inode => s.goto t (.opened inode)
      | none => s.goto t .taking
  | .opened inode =>
      match s.content inode with
      | .record lockPid lockTime => s.goto t (.judging lockPid lockTime)
      | _ => s.goto t .taking
  | .judging lockPid lockTime =>
      if lockPid ≠ t.pid then
        if s.alive lockPid && signals t.pid lockPid then s.goto t (.aging lockTime)
        else s.goto t .taking
      else s.goto t .taking
  | .aging lockTime => s.goto t (if s.now - lockTime < 600 then .refusing else .taking)
  | .taking => s.openWrite t
  | .stamping inode => s.goto t (.flushing inode s.now)
  | .flushing inode stamp =>
      { s.goto t (.holding stamp) with
        content := Function.update s.content inode
          (State.overwrite (s.content inode) torn t.pid stamp) }
  | .refusing => s.unlock t
  | .holding _ => s
  | .releasing since => s.goto t (if s.path.isSome then .removing since else .unlocking)
  | .removing _ => { s.goto t .unlocking with path := none }
  | .unlocking => s.unlock t

/-- A thread calls `release_drain_lock` when `acquire_drain_lock` gave it the lock. -/
def step (s : State) : Event → State
  | .start pid =>
      if s.alive pid = true then s
      else { s with
        alive := Function.update s.alive pid true
        lock := Function.update s.lock pid false
        pc := fun t => if t.pid = pid then .idle else s.pc t }
  | .crash pid => { s with alive := Function.update s.alive pid false }
  | .acquire t =>
      if s.alive t.pid = true ∧ s.pc t = .idle ∧ s.lock t.pid = false then
        { s.goto t .asked with
          lock := Function.update s.lock t.pid true
          threads := insert t s.threads }
      else s
  | .advance t torn => if s.alive t.pid = true then advance signals s t torn else s
  | .release t =>
      match s.pc t with
      | .holding since => if s.alive t.pid = true then s.goto t (.releasing since) else s
      | _ => s
  | .tick amount => { s with now := s.now + amount }

end Steps

end Hartos.DrainLock
