import IntellApi.Basic
import IntellApi.Lts
import IntellApi.Sql

/-!
# Chat turns

A turn stores the user's message, reads the newest messages of the chat back and
hands them to the agent, which answers the last of them. A row gets the time at
which its statement begins and is seen by others once the statement is done.
-/

namespace IntellApi.Chatbot

structure Chat where
  roomId : Uuid
  userId : Uuid
  deriving DecidableEq, Repr

/-- `SYSTEM_SENDER_ID` or the id of a user. -/
inductive Sender
  | system
  | user (id : Uuid)
  deriving DecidableEq, Repr

structure Message where
  id : Uuid
  chatId : Uuid
  createdAt : Int
  content : String
  senderId : Sender
  deriving DecidableEq, Repr

structure ChatMessageDto where
  chatId : Uuid
  senderId : Uuid
  textContent : String
  deriving DecidableEq, Repr

/-! ## History -/

/-- `createdAt: 'DESC', id: 'DESC'` -/
def newestFirst (a b : Message) : Prop := b.createdAt < a.createdAt ∨ a.createdAt = b.createdAt ∧ b.id ≤ a.id

instance : DecidableRel newestFirst := fun a b =>
  inferInstanceAs (Decidable (b.createdAt < a.createdAt ∨ a.createdAt = b.createdAt ∧ b.id ≤ a.id))

def getMessagesWithCount (messages : List Message) (chatId : Uuid) (count : Nat) : List Message :=
  Sql.lastRows newestFirst count (messages.filter (·.chatId = chatId))

/-- What `trim` takes off. -/
def isTrimmed (c : Char) : Bool :=
  let n := c.toNat
  (0x09 ≤ n && n ≤ 0x0d) || n = 0x20 || n = 0xa0 || n = 0x1680 || (0x2000 ≤ n && n ≤ 0x200a) || n = 0x2028 ||
    n = 0x2029 || n = 0x202f || n = 0x205f || n = 0x3000 || n = 0xfeff

/-- The arguments of `invokeWithHistory` and `invokeWithHistoryStream`. -/
structure Invocation where
  messages : List Message
  userId : Uuid
  preferredLanguage : Option String
  chatId : Uuid
  deriving DecidableEq, Repr

/-- The content the agent gives back, `none` when it throws. The model is asked
only when there is a message to answer. -/
def Invocation.content (invocation : Invocation) (reply : Option String) : Option String :=
  match invocation.messages.getLast? with
  | some currentMessage =>
    if currentMessage.content.toList.all isTrimmed then some "No message to respond to." else reply
  | none => some "No message to respond to."

/-- `sendMessage` answers for an agent that throws, `sendMessageStream` passes the error on. -/
def botMessageContent (streaming : Bool) : Option String → Option String
  | some content => some content
  | none => if streaming then none else some "Sorry, something went wrong on my end. Please try again."

/-! ## Sends -/

inductive GatewayResponse
  | error (roomId : Uuid) (data : String)
  | newSystemMessage (roomId : Uuid) (data : Message)
  deriving DecidableEq, Repr

/-- Where a send waits, or how it has ended. -/
inductive Stage
  | saving (message : Message)
  | gettingLanguage (message : Message)
  | loadingHistory (message : Message) (preferredLanguage : Option String)
  | invoking (message : Message) (invocation : Invocation)
  | savingBot (botMessage : Message)
  | returned (response : Option GatewayResponse)
  | threw (message : String)
  deriving DecidableEq, Repr

structure Send where
  streaming : Bool
  dto : ChatMessageDto
  stage : Stage
  deriving DecidableEq, Repr

structure State where
  clock : Int
  messages : List Message
  sends : List Send

/-- A call has the id of the row its next insertion makes. -/
inductive Action
  | tick (us : Nat)
  | sendMessage (streaming : Bool) (dto : ChatMessageDto) (id : Uuid) (ok : Bool)
  | saved (k : Nat) (ok : Bool)
  | gotLanguage (k : Nat) (language : Option String)
  | loaded (k : Nat) (ok : Bool)
  | answered (k : Nat) (reply : Option String) (id : Uuid)
  | botSaved (k : Nat) (ok : Bool)

namespace State

def setSend (s : State) (k : Nat) (send : Send) : State := { s with sends := s.sends.set k send }

/-- The row of a statement that is done. An id is taken once. -/
def store (s : State) (message : Message) : Option State :=
  if s.messages.any (·.id = message.id) then none else some { s with messages := message :: s.messages }

end State

section
variable (chats : Uuid → Option Chat) (chatContextLength : Nat)

/-- The stage a send is in after it has looked for its chat. -/
def findChat (clock : Int) (dto : ChatMessageDto) (id : Uuid) : Stage :=
  match chats dto.chatId with
  | none => .returned none
  | some chat =>
    if chat.userId ≠ dto.senderId then .returned (some (.error chat.roomId SysMsg.forbidden))
    else .saving ⟨id, dto.chatId, clock, dto.textContent, .user dto.senderId⟩

def step (s : State) : Action → Option State
  | .tick us => some { s with clock := s.clock + us }
  | .sendMessage streaming dto id ok =>
    some { s with sends := s.sends ++
      [⟨streaming, dto, if ok then findChat chats s.clock dto id else .threw "select"⟩] }
  | .saved k ok =>
    match s.sends[k]? with
    | some ⟨streaming, dto, .saving message⟩ =>
      if ok then (s.store message).map fun s => s.setSend k ⟨streaming, dto, .gettingLanguage message⟩
      else some (s.setSend k ⟨streaming, dto, .threw "insert"⟩)
    | _ => none
  | .gotLanguage k language =>
    match s.sends[k]? with
    | some ⟨streaming, dto, .gettingLanguage message⟩ =>
      some (s.setSend k ⟨streaming, dto, .loadingHistory message (language.filter (· ≠ ""))⟩)
    | _ => none
  | .loaded k ok =>
    match s.sends[k]? with
    | some ⟨streaming, dto, .loadingHistory message preferredLanguage⟩ =>
      if ok then
        let messagesInContext := getMessagesWithCount s.messages dto.chatId chatContextLength
        some (s.setSend k ⟨streaming, dto,
          .invoking message ⟨messagesInContext, dto.senderId, preferredLanguage, dto.chatId⟩⟩)
      else some (s.setSend k ⟨streaming, dto, .threw "select"⟩)
    | _ => none
  | .answered k reply id =>
    match s.sends[k]? with
    | some ⟨streaming, dto, .invoking _ invocation⟩ =>
      match botMessageContent streaming (invocation.content reply) with
      | some content =>
        some (s.setSend k ⟨streaming, dto, .savingBot ⟨id, dto.chatId, s.clock, content, .system⟩⟩)
      | none => some (s.setSend k ⟨streaming, dto, .threw "agent"⟩)
    | _ => none
  | .botSaved k ok =>
    match s.sends[k]? with
    | some ⟨streaming, dto, .savingBot botMessage⟩ =>
      if ok then
        let response := (chats dto.chatId).map fun chat => GatewayResponse.newSystemMessage chat.roomId botMessage
        (s.store botMessage).map fun s => s.setSend k ⟨streaming, dto, .returned response⟩
      else some (s.setSend k ⟨streaming, dto, .threw "insert"⟩)
    | _ => none

def machine (clock : Int) (history : List Message) : Lts.Machine State Action :=
  ⟨⟨clock, history, []⟩, step chats chatContextLength⟩

end

end IntellApi.Chatbot
