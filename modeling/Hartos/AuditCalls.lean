import Hartos.AuditTampering
import Hartos.StepSystem
import Mathlib.Data.List.Infix

/-!
Calls of `log_event` step by step. The lock of the log is held through a call; the row of a
borrowed session becomes visible when its transaction commits. Reads see what is committed and
what their own session wrote.
-/
namespace Hartos.AuditLog

structure Request where
  eventType : String
  actorId : String
  targetId : Option String
  action : String
  detailJson : Option String
  createdAt : String
  deriving DecidableEq

structure Call (Session : Type) where
  request : Request
  session : Option Session
  prevHash : String
  entryHash : String
  attempts : Nat
  base : Nat
  deriving DecidableEq

def Call.entry {Session : Type} (call : Call Session) (id : Nat) : Entry where
  id := id
  eventType := call.request.eventType
  actorId := call.request.actorId
  targetId := call.request.targetId
  action := call.request.action
  detailJson := call.request.detailJson
  prevHash := call.prevHash
  entryHash := call.entryHash
  createdAt := call.request.createdAt

structure Work (Session : Type) where
  rows : List Entry
  logged : List (Call Session)
  usable : Bool
  base : Nat

def Work.fresh {Session : Type} : Work Session := ⟨[], [], true, 0⟩

/-- `owed` are the calls whose caller's work is committed. -/
structure State (Session : Type) where
  committed : List Entry
  memory : List Entry
  call : Option (Call Session)
  work : Session → Work Session
  owed : List (Call Session)

inductive Event (Session : Type)
  | logEvent (request : Request) (session : Option Session) (readable : Bool)
  | insert (id : Nat)
  | insertFails (error : String)
  | remember
  | commit (session : Session)
  | rollback (session : Session)

def State.init {Session : Type} (table : List Entry) : State Session :=
  ⟨table, [], none, fun _ => Work.fresh, []⟩

def merge (table rows : List Entry) : List Entry :=
  rows.foldl (fun table entry => insertById entry table) table

def isBusy (error : String) : Bool :=
  decide ("database is locked".toList <:+: error.toLower.toList)

def Call.retried {Session : Type} (call : Call Session) (error : String) : Call Session :=
  { call with attempts := if isBusy error ∧ 1 < call.attempts then call.attempts - 1 else 0 }

section Calls
variable {Session : Type} (useDb : Bool) (s : State Session)

def State.view : Option Session → List Entry
  | none => s.committed
  | some session => merge s.committed (s.work session).rows

def State.getLastHash (session : Option Session) (readable : Bool) : String :=
  if useDb ∧ readable then lastHash "genesis" (s.view session) else lastHash "genesis" s.memory

def State.getEntries (readable : Bool) : List Entry :=
  if useDb ∧ readable then s.committed else s.memory

def attemptsOf (session : Option Session) : Nat :=
  if useDb then if session.isNone then 3 else 1 else 0

variable [DecidableEq Session]

def State.put (session : Session) (work : Work Session) : State Session :=
  { s with work := Function.update s.work session work }

def State.free (session : Session) : Bool :=
  decide (s.call.bind Call.session ≠ some session)

variable (sha256 : String → String)

def State.begin (request : Request) (session : Option Session) (readable : Bool) : State Session :=
  let prevHash := s.getLastHash useDb session readable
  { s with
    call := some
      { request := request
        session := session
        prevHash := prevHash
        entryHash := computeHash sha256 prevHash request.eventType request.actorId request.action
          request.createdAt request.detailJson
        attempts := attemptsOf useDb session
        base := s.committed.length } }

def State.add (call : Call Session) (id : Nat) : State Session :=
  match call.session with
  | none =>
      { s with
        committed := insertById (call.entry id) s.committed
        call := none
        owed := s.owed ++ [call] }
  | some session =>
      let work := s.work session
      if work.usable then
        { s with call := none }.put session
          { rows := work.rows ++ [call.entry id]
            logged := work.logged ++ [call]
            usable := true
            base := if work.rows = [] then call.base else work.base }
      else s

def State.insertable (call : Call Session) (id : Nat) : Bool :=
  decide (call.attempts ≠ 0) &&
    (s.view call.session).all fun row => row.id < id ∧ row.entryHash ≠ call.entryHash

def State.refuse (call : Call Session) (error : String) : State Session :=
  let left := { s with call := some (call.retried error) }
  match call.session with
  | none => left
  | some session => left.put session { s.work session with rows := [], usable := false }

def State.keepInMemory (call : Call Session) : State Session :=
  let kept := { s with
    memory := s.memory ++ [call.entry (s.memory.length + 1)]
    call := none }
  match call.session with
  | none => { kept with owed := s.owed ++ [call] }
  | some session =>
      kept.put session { s.work session with logged := (s.work session).logged ++ [call] }

def step : Event Session → State Session
  | .logEvent request session readable =>
      if s.call.isSome then s else s.begin useDb sha256 request session readable
  | .insert id =>
      match s.call with
      | none => s
      | some call => if s.insertable call id then s.add call id else s
  | .insertFails error =>
      match s.call with
      | none => s
      | some call => if call.attempts = 0 then s else s.refuse call error
  | .remember =>
      match s.call with
      | none => s
      | some call => if call.attempts = 0 then s.keepInMemory call else s
  | .commit session =>
      if s.free session ∧ (s.work session).usable then
        { s with
          committed := merge s.committed (s.work session).rows
          owed := s.owed ++ (s.work session).logged }.put session Work.fresh
      else s
  | .rollback session => if s.free session then s.put session Work.fresh else s

end Calls

end Hartos.AuditLog
