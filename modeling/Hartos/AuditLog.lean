import Mathlib.Data.List.Basic

/-!
The hash chain of the audit log. An entry's hash covers its predecessor's and its own fields,
joined by a bar that the fields may contain.
-/
namespace Hartos.AuditLog

/-- A row of `audit_log_entries`; `createdAt` is the ISO text of the stored time. -/
structure Entry where
  id : Nat
  eventType : String
  actorId : String
  targetId : Option String
  action : String
  detailJson : Option String
  prevHash : String
  entryHash : String
  createdAt : String
  deriving DecidableEq

def payload (prevHash eventType actorId action timestamp : String) (detailJson : Option String) :
    String :=
  prevHash ++ "|" ++ eventType ++ "|" ++ actorId ++ "|" ++ action ++ "|" ++ timestamp ++ "|" ++
    detailJson.getD ""

def Entry.text (entry : Entry) (prevHash : String) : String :=
  payload prevHash entry.eventType entry.actorId entry.action entry.createdAt entry.detailJson

section Verification
variable (sha256 : String → String)

def computeHash (prevHash eventType actorId action timestamp : String)
    (detailJson : Option String) : String :=
  sha256 (payload prevHash eventType actorId action timestamp detailJson)

def Entry.expected (entry : Entry) (prevHash : String) : String :=
  computeHash sha256 prevHash entry.eventType entry.actorId entry.action entry.createdAt
    entry.detailJson

/-- The first entry that does not have the hash expected of it, with that hash. The stored
`prevHash` is not looked at. -/
def chainBreak (prevHash : String) : List Entry → Option (Entry × String)
  | [] => none
  | entry :: rest =>
      if entry.entryHash ≠ entry.expected sha256 prevHash then
        some (entry, entry.expected sha256 prevHash)
      else chainBreak entry.entryHash rest

def verifyChain (table : List Entry) (limit : Nat) : Bool × String :=
  let entries := table.take limit
  if entries = [] then (true, "Empty log")
  else
    match chainBreak sha256 "genesis" entries with
    | some (entry, expected) =>
        (false, "Chain broken at entry " ++ toString entry.id ++ ": expected " ++
          expected.take 16 ++ "..., got " ++ entry.entryHash.take 16 ++ "...")
    | none => (true, "Chain valid (" ++ toString entries.length ++ " entries)")

end Verification

def insertById (entry : Entry) : List Entry → List Entry
  | [] => [entry]
  | other :: rest =>
      if entry.id < other.id then entry :: other :: rest else other :: insertById entry rest

def Ordered (table : List Entry) : Prop := table.Pairwise fun first second => first.id < second.id

end Hartos.AuditLog
