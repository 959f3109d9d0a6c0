import Hartos.LifecycleHooks
import Mathlib.Data.List.Infix

/-!
The gate of a verified completion: the receipt a verdict cites, in the list it lies in, and the
dispatch that it is credited to.
-/
namespace Hartos.VerifiedCompletion
open Lifecycle (ActionState validateStateTransition)

def after (text : String) (letters : List Char) : Option (List Char) :=
  if text.toList.isPrefixOf letters then some (letters.drop text.length) else none

def withoutRetry (letters : List Char) : List Char :=
  match after "[retry:" letters with
  | none => letters
  | some tag =>
      match tag.dropWhile (· ≠ ']') with
      | [] => letters
      | _ :: rest => rest.dropWhile isSpace

def withoutProperly (letters : List Char) : List Char :=
  match after "Properly" letters with
  | some (space :: rest) => if isSpace space then rest.dropWhile isSpace else letters
  | _ => letters

section Markers
variable (decimal : Char → Option Nat)

/-- A number and a colon, `decimal` the values of the decimal digits. -/
def numbered (letters : List Char) : Option Nat :=
  let digits := letters.takeWhile fun letter => (decimal letter).isSome
  if digits = [] then none
  else
    match letters.drop digits.length with
    | ':' :: _ => some (digits.foldl (fun total letter => 10 * total + (decimal letter).getD 0) 0)
    | _ => none

def dispatchActionId (content : String) : Option Nat :=
  let letters := content.toList.dropWhile isSpace
  ((after "Execute Action " (withoutProperly (withoutRetry letters))).bind (numbered decimal)) <|>
    ((after "Perform this action -> Action #" letters).bind (numbered decimal))

end Markers

structure ToolCall where
  id : String
  function : String
  deriving DecidableEq

structure ToolResult where
  content : Option String
  toolCallId : String
  deriving DecidableEq

structure Message where
  role : String
  name : String
  content : Option String
  fromShared : Bool
  toolCalls : List ToolCall
  toolCallId : String
  toolResponses : List ToolResult
  deriving DecidableEq

inductive Source
  | groupLog
  | buffer (agent peer : String)
  deriving DecidableEq

structure Evidence where
  kind : String
  source : Source
  messageIndex : Option Int
  deriving DecidableEq

structure Participant where
  name : String
  buffers : Option (List (String × List Message))
  deriving DecidableEq

structure GroupChat where
  messages : List Message
  agents : List Participant
  deriving DecidableEq

structure Session where
  groupChat : Option GroupChat
  actionText : Nat → String
  namedTools : Nat → List String
  actionState : Nat → ActionState
  flowHasAction : Int → Bool
  recordsEvidence : Nat → Evidence → Bool
  setsState : Nat → Bool

def GroupChat.list (chat : GroupChat) : Source → Option (List Message)
  | .groupLog => some chat.messages
  | .buffer agent peer =>
      ((chat.agents.find? fun participant => participant.name = agent).bind
        Participant.buffers).bind fun buffers =>
          (buffers.find? fun buffer => buffer.1 = peer).map Prod.snd

def resolveReceipt (session : Session) (evidence : Evidence) :
    Option (List Message × Nat × Message) :=
  match evidence.messageIndex, session.groupChat with
  | some (.ofNat index), some chat =>
      (chat.list evidence.source).bind fun messages =>
        messages[index]?.map fun message => (messages, index, message)
  | _, _ => none

def bookkeepingTools : List String :=
  ["save_data_in_memory", "get_saved_metadata", "get_data_by_key", "save_to_long_term_memory",
    "search_long_term_memory", "get_user_id", "get_prompt_id", "get_chat_history", "request_tools"]

def historicalToolPlaceholder : String := "Placeholder response for historical tool call"

def toolErrorReplyPrefixes : List String := ["Error:", "Tool execution failed:"]

def toolFailureResults : List String :=
  ["Not able to perform this action now please try later",
    "I'm unable to perform this action since the Hevolve A I Companion App is not running in "
      ++ "your computer, Open the companion app & try again"]

def contains (text part : String) : Bool := decide (part.toList <:+: text.toList)

def toolReplyFailed (content : String) : Bool :=
  let body := content.toList.dropWhile isSpace
  (toolErrorReplyPrefixes.any fun opening => opening.toList.isPrefixOf body) ||
    toolFailureResults.any fun failure => contains content failure

def blank (content : String) : Bool := content.toList.all isSpace

variable (messages : List Message) (message : Message)

def toolCallNames (id : String) : Option String :=
  ((messages.flatMap Message.toolCalls).filter fun call =>
    call.id = id ∧ call.id ≠ "" ∧ call.function ≠ "").getLast?.map ToolCall.function

def Message.results : List ToolResult :=
  if message.toolResponses = [] then [⟨message.content, message.toolCallId⟩]
  else message.toolResponses

def ToolResult.body (result : ToolResult) : String :=
  (result.content <|> message.content).getD ""

def ToolResult.tool (result : ToolResult) : Option String :=
  toolCallNames messages (if result.toolCallId ≠ "" then result.toolCallId else message.toolCallId)

def ToolResult.works (actionText : String) (named : List String) (result : ToolResult) : Bool :=
  let body := result.body message
  let tool := result.tool messages message
  !(blank body || toolReplyFailed body || contains body historicalToolPlaceholder) &&
    !(tool.any fun name => name ∈ bookkeepingTools && !contains actionText name) &&
    (named.isEmpty || tool.any fun name => name ∈ named)

section Gate
variable (decimal : Char → Option Nat) (isWrittenAnswer : Message → Bool)

def dispatches (message : Message) : Option Nat :=
  if message.fromShared then none else message.content.bind (dispatchActionId decimal)

def latestDispatchBefore (messages : List Message) (index : Nat) : Option Nat :=
  (messages.take index).reverse.findSome? (dispatches decimal)

variable (session : Session) (actionId : Nat) (evidence : Evidence)

def receiptIsRealWork (messages : List Message) (message : Message) : Bool :=
  message.results.any fun result =>
    result.works messages message (session.actionText actionId) (session.namedTools actionId)

def hasConversationEvidence : Bool :=
  if evidence.kind ≠ "tool_receipt" ∧ evidence.kind ≠ "user_visible_result" then false
  else
    match resolveReceipt session evidence with
    | none => false
    | some (messages, index, message) =>
        if blank (message.content.getD "") then false
        else if latestDispatchBefore decimal messages (index + 1) ≠ some actionId then false
        else if evidence.kind = "tool_receipt" then
          decide (message.role = "tool") && receiptIsRealWork session actionId messages message
        else if session.namedTools actionId ≠ [] then false
        else decide (evidence.source = .groupLog) && isWrittenAnswer message

/-- `claimed` is the action that the verdict names, when it names a number. -/
def commitVerifiedActionCompletion (claimed : Option Int) : Bool :=
  if claimed.any fun other => other ≠ (actionId : Int) && session.flowHasAction other then false
  else if session.actionState actionId ≠ .statusVerificationRequested then false
  else if !hasConversationEvidence decimal isWrittenAnswer session actionId evidence then false
  else if !validateStateTransition (session.actionState actionId) .completed then false
  else session.recordsEvidence actionId evidence && session.setsState actionId

def InWindow (messages : List Message) (index actionId : Nat) : Prop :=
  ∃ earlier dispatch rest, messages = earlier ++ dispatch :: rest ∧
    dispatches decimal dispatch = some actionId ∧ earlier.length < index ∧
    ∀ message ∈ rest, dispatches decimal message = none

def Settled (messages : List Message) (index : Nat) : Prop :=
  ∀ message ∈ messages.drop index, dispatches decimal message = none

/-- Neither failed nor a placeholder, nor of a bookkeeping tool that the action does not name, and
of a tool that it names if it names any. -/
structure Qualifies (session : Session) (actionId : Nat) (messages : List Message)
    (message : Message) (result : ToolResult) : Prop where
  answered : blank (result.body message) = false
  succeeded : toolReplyFailed (result.body message) = false
  real : contains (result.body message) historicalToolPlaceholder = false
  own : ∀ tool, result.tool messages message = some tool → tool ∈ bookkeepingTools →
    contains (session.actionText actionId) tool = true
  fits : session.namedTools actionId ≠ [] →
    ∃ tool ∈ session.namedTools actionId, result.tool messages message = some tool

def IsWork (messages : List Message) (message : Message) : Prop :=
  (message.role = "tool" ∧
      ∃ result ∈ message.results, Qualifies session actionId messages message result) ∨
    (session.namedTools actionId = [] ∧ isWrittenAnswer message = true)

def Grounded : Prop :=
  ∃ messages index message, resolveReceipt session evidence = some (messages, index, message) ∧
    InWindow decimal messages index actionId ∧
    IsWork isWrittenAnswer session actionId messages message

def Current : Prop :=
  ∀ messages index message, resolveReceipt session evidence = some (messages, index, message) →
    Settled decimal messages index

section Proofs
variable {decimal isWrittenAnswer}
variable {session : Session} {actionId index : Nat} {messages : List Message} {message : Message}

theorem latest_split (latest : latestDispatchBefore decimal messages (index + 1) = some actionId) :
    ∃ earlier dispatch rest, messages.take (index + 1) = earlier ++ dispatch :: rest ∧
      dispatches decimal dispatch = some actionId ∧
      ∀ message ∈ rest, dispatches decimal message = none := by
  obtain ⟨before, dispatch, rest, split, found, silent⟩ := List.findSome?_eq_some_iff.mp latest
  have forward := congrArg List.reverse split
  rw [List.reverse_reverse, List.reverse_append, List.reverse_cons, List.append_assoc] at forward
  refine ⟨rest.reverse, dispatch, before.reverse, forward, found, ?_⟩
  intro message member
  exact silent message (List.mem_reverse.mp member)

-- The receipt is in the window of the last dispatch when no dispatch follows.
theorem inWindow_iff (latest : latestDispatchBefore decimal messages (index + 1) = some actionId) :
    InWindow decimal messages index actionId ↔ Settled decimal messages index := by
  constructor
  · rintro ⟨earlier, dispatch, rest, rfl, -, before, silent⟩ message member
    obtain ⟨more, same⟩ := Nat.exists_eq_add_of_lt before
    rw [same, Nat.add_assoc, List.drop_append, List.drop_eq_nil_of_le (Nat.le_add_right _ _),
      List.nil_append, Nat.add_sub_cancel_left, List.drop_succ_cons] at member
    exact silent message (List.mem_of_mem_drop member)
  · intro settled
    obtain ⟨earlier, dispatch, rest, split, found, silent⟩ := latest_split latest
    have whole : messages = earlier ++ dispatch :: (rest ++ messages.drop (index + 1)) := by
      rw [← List.cons_append, ← List.append_assoc, ← split, List.take_append_drop]
    refine ⟨earlier, dispatch, _, whole, found, ?_, ?_⟩
    · by_contra late
      have length := congrArg List.length split
      rw [List.length_take, List.length_append, List.length_cons] at length
      have last : earlier.length = index := by omega
      have member : dispatch ∈ messages.drop index := by
        rw [whole, ← last, List.drop_left]
        exact List.mem_cons_self
      exact absurd (found.symm.trans (settled dispatch member)) (by simp)
    · intro message member
      rcases List.mem_append.mp member with between | later
      · exact silent message between
      · apply settled
        rw [← List.drop_drop] at later
        exact List.mem_of_mem_drop later

theorem qualifies_of_works {result : ToolResult} (works : result.works messages message
    (session.actionText actionId) (session.namedTools actionId) = true) :
    Qualifies session actionId messages message result := by
  simp only [ToolResult.works, Bool.and_eq_true, Bool.not_eq_true', Bool.or_eq_false_iff,
    Bool.or_eq_true, List.isEmpty_iff] at works
  obtain ⟨⟨⟨⟨answered, succeeded⟩, real⟩, own⟩, fits⟩ := works
  refine ⟨answered, succeeded, real, ?_, ?_⟩
  · intro tool named listed
    simpa [named, listed] using own
  · intro some
    rcases fits with none | among
    · exact absurd none some
    · obtain ⟨tool, named, listed⟩ := (Option.any_eq_true _ _).mp among
      exact ⟨tool, of_decide_eq_true listed, named⟩

variable {evidence : Evidence}

theorem isWork_of_evidence
    (grounded : hasConversationEvidence decimal isWrittenAnswer session actionId evidence = true) :
    ∃ messages index message, resolveReceipt session evidence = some (messages, index, message) ∧
      latestDispatchBefore decimal messages (index + 1) = some actionId ∧
      IsWork isWrittenAnswer session actionId messages message := by
  cases resolved : resolveReceipt session evidence with
  | none => simp [hasConversationEvidence, resolved] at grounded
  | some receipt =>
    obtain ⟨messages, index, message⟩ := receipt
    simp only [hasConversationEvidence, resolved] at grounded
    split_ifs at grounded with kind blank other receipt named
    · rw [Bool.and_eq_true, decide_eq_true_eq] at grounded
      obtain ⟨result, member, works⟩ := List.any_eq_true.mp grounded.2
      exact ⟨messages, index, message, rfl, not_not.mp other,
        Or.inl ⟨grounded.1, result, member, qualifies_of_works works⟩⟩
    · rw [Bool.and_eq_true] at grounded
      exact ⟨messages, index, message, rfl, not_not.mp other,
        Or.inr ⟨not_not.mp named, grounded.2⟩⟩

theorem evidence_of_commit {claimed : Option Int}
    (committed : commitVerifiedActionCompletion decimal isWrittenAnswer session actionId evidence
      claimed = true) :
    hasConversationEvidence decimal isWrittenAnswer session actionId evidence = true := by
  unfold commitVerifiedActionCompletion at committed
  split_ifs at committed with other state refused
  simpa using refused

end Proofs

/-- A committed completion rests on work done since the latest dispatch exactly when no dispatch
stands at or after the message that the verdict cites. -/
theorem grounded_iff_current (session : Session) (actionId : Nat) (evidence : Evidence)
    (claimed : Option Int) (committed : commitVerifiedActionCompletion decimal isWrittenAnswer
      session actionId evidence claimed = true) :
    Grounded decimal isWrittenAnswer session actionId evidence ↔
      Current decimal session evidence := by
  obtain ⟨messages, index, message, resolved, latest, work⟩ :=
    isWork_of_evidence (evidence_of_commit committed)
  constructor
  · rintro ⟨messages', index', message', resolved', window, -⟩ messages'' index'' message'' cited
    obtain ⟨rfl, rfl, rfl⟩ : messages' = messages ∧ index' = index ∧ message' = message := by
      simpa using resolved'.symm.trans resolved
    obtain ⟨rfl, rfl, rfl⟩ : messages'' = messages' ∧ index'' = index' ∧ message'' = message' := by
      simpa using cited.symm.trans resolved
    exact (inWindow_iff latest).mp window
  · intro current
    exact ⟨messages, index, message, resolved,
      (inWindow_iff latest).mpr (current messages index message resolved), work⟩

end Gate

/-! A tool's result, credited to its own dispatch and, an attempt later, to the next. -/

section Samples

def asciiDigit (letter : Char) : Option Nat :=
  if letter.isDigit then some (letter.toNat - '0'.toNat) else none

def textMessage (role content : String) : Message := ⟨role, "", some content, false, [], "", []⟩

def dispatchMessage : Message := textMessage "user" "Execute Action 2:"

def callMessage : Message := ⟨"assistant", "Assistant", some "", false, [⟨"c1", "read_file"⟩], "", []⟩

def resultMessage : Message := ⟨"tool", "Helper", some "ok", false, [], "c1", []⟩

def sampleSession (messages : List Message) : Session where
  groupChat := some ⟨messages, []⟩
  actionText _ := "read_file"
  namedTools _ := ["read_file"]
  actionState _ := .statusVerificationRequested
  flowHasAction _ := true
  recordsEvidence _ _ := true
  setsState _ := true

def sampleEvidence : Evidence := ⟨"tool_receipt", .groupLog, some 2⟩

def attempt : List Message := [dispatchMessage, callMessage, resultMessage]

-- The result is accepted before the second dispatch and after it.
theorem sample_committed : ∀ messages ∈ [attempt, attempt ++ [dispatchMessage]],
    commitVerifiedActionCompletion asciiDigit (fun _ => false) (sampleSession messages) 2
      sampleEvidence none = true := by
  decide +kernel

theorem attempt_current (messages : List Message) (index : Nat) (message : Message)
    (cited : resolveReceipt (sampleSession attempt) sampleEvidence =
      some (messages, index, message)) : Settled asciiDigit messages index := by
  obtain ⟨rfl, rfl, -⟩ : attempt = messages ∧ 2 = index ∧ resultMessage = message := by
    simpa [resolveReceipt, sampleSession, sampleEvidence, GroupChat.list, attempt] using cited
  intro message member
  have only : message = resultMessage := by simpa [attempt] using member
  rw [only]
  decide +kernel

theorem attempt_grounded : Grounded asciiDigit (fun _ => false) (sampleSession attempt) 2
    sampleEvidence := by
  apply (grounded_iff_current asciiDigit (fun _ => false) (sampleSession attempt) 2 sampleEvidence
    none (sample_committed attempt (by simp))).mpr
  exact attempt_current

/-- The result of the first attempt completes the second. -/
theorem earlier_attempt_accepted : ¬ ∀ (decimal : Char → Option Nat)
    (isWrittenAnswer : Message → Bool) (session : Session) (actionId : Nat) (evidence : Evidence)
    (claimed : Option Int),
    commitVerifiedActionCompletion decimal isWrittenAnswer session actionId evidence claimed =
      true → Grounded decimal isWrittenAnswer session actionId evidence := by
  intro grounded
  obtain ⟨messages, index, message, cited, window, -⟩ := grounded asciiDigit (fun _ => false)
    (sampleSession (attempt ++ [dispatchMessage])) 2 sampleEvidence none
    (sample_committed _ (by simp))
  obtain ⟨rfl, rfl, -⟩ : attempt ++ [dispatchMessage] = messages ∧ 2 = index ∧
      resultMessage = message := by
    simpa [resolveReceipt, sampleSession, sampleEvidence, GroupChat.list, attempt] using cited
  have settled := (inWindow_iff (by decide +kernel)).mp window
  have dispatched : dispatches asciiDigit dispatchMessage = some 2 := by decide +kernel
  exact absurd (dispatched.symm.trans (settled dispatchMessage (by simp [attempt]))) (by decide)

end Samples

end Hartos.VerifiedCompletion
