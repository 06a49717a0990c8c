import IntellApi.Chatbot
import IntellApi.UsageEvents

/-!
# The chat gateway

Sockets join the rooms of the chats of a user they name. A send streams the
answer to the socket it came from, token by token, and what is stored in the end
goes to the room of the chat. The calls are suspended at each query and at each
chunk. `sent` is everything emitted, in order, with the call that emitted it.
-/

namespace IntellApi.ChatGateway

open Lts Chatbot

structure ChatRow extends Chat where
  id : Uuid
  deriving DecidableEq, Repr

inductive CardType
  | summary
  | insight
  | anomaly
  | recommendation
  deriving DecidableEq, Repr

inductive CardSeverity
  | low
  | medium
  | high
  | critical
  deriving DecidableEq, Repr

structure AgentCard where
  cardType : CardType
  title : String
  content : String
  severity : Option CardSeverity
  deriving DecidableEq, Repr

inductive ChatSocketEvent
  | error (data : String)
  | joined (chats : List ChatRow)
  | chatAction (description : String)
  | tokenChunk (chatId : Uuid) (content : String)
  | streamEnd (chatId : Uuid) (botMessageId : Option Uuid)
  | cards (chatId : Uuid) (cards : List AgentCard)
  | newSystemMessage (data : Message)
  deriving DecidableEq, Repr

inductive Source
  | join (j : Nat)
  /-- to the socket of the send -/
  | send (k : Nat)
  /-- to the room of its chat -/
  | room (k : Nat)
  deriving DecidableEq, Repr

structure Emitted where
  socket : Nat
  source : Source
  event : ChatSocketEvent
  deriving DecidableEq, Repr

/-! ## Calls -/

inductive Join
  | findingUser
  | findingChats
  | joining (rooms : List Uuid) (chats : List ChatRow)
  | joined
  | threw (error : ServiceError)
  deriving DecidableEq, Repr

structure JoinCall where
  socket : Nat
  userId : Uuid
  stage : Join
  deriving DecidableEq, Repr

inductive Stage
  | findingChat
  | saving (chat : ChatRow) (message : Message)
  | gettingLanguage (chat : ChatRow)
  | loadingHistory (chat : ChatRow) (preferredLanguage : Option String)
  | streaming (chat : ChatRow) (invocation : Invocation) (s : Streaming)
  | savingBot (chat : ChatRow) (botMessage : Message)
  | returned (botMessage : Message)
  | refused
  | threw (message : String)
  deriving DecidableEq, Repr

structure Send where
  socket : Nat
  dto : ChatMessageDto
  stage : Stage
  /-- cards are under way -/
  carding : Bool
  deriving DecidableEq, Repr

/-- `startChat`, once the chat is created. -/
inductive Start
  | savingMessage (message : Message)
  | done
  | threw (message : String)
  deriving DecidableEq, Repr

structure State where
  clock : Int
  chats : List ChatRow
  /-- how many chats were created -/
  created : Uuid
  messages : List Message
  /-- each socket with a room it is in -/
  rooms : List (Nat × Uuid)
  starts : List Start
  joins : List JoinCall
  sends : List Send
  sent : List Emitted

inductive Action
  | tick (us : Nat)
  | startChat (userId : Uuid) (startingMessage : String) (id : Uuid)
  | startingSaved (i : Nat) (ok : Bool)
  | deleteSingleChat (chatId userId : Uuid)
  | joinActiveChatRooms (socket : Nat) (userId : Uuid)
  | userFound (j : Nat) (error : Option ServiceError)
  | chatsFound (j : Nat) (error : Option String)
  | roomJoined (j : Nat)
  | disconnect (socket : Nat)
  | sendMessageStream (socket : Nat) (dto : ChatMessageDto)
  | chatFound (k : Nat) (id : Uuid) (error : Option String)
  | saved (k : Nat) (error : Option String)
  | gotLanguage (k : Nat) (language : Option String)
  /-- `agentError`: the agent cannot be built -/
  | loaded (k : Nat) (id : Uuid) (error agentError : Option String)
  | chunk (k : Nat) (chunk : Chunk)
  | streamEnded (k : Nat) (thrown : Bool) (id : Uuid)
  | botSaved (k : Nat) (error : Option String)
  | cardsGenerated (k : Nat) (cardsEnabled : Option Bool) (cards : Option (List AgentCard))

namespace State

def emit (s : State) (socket : Nat) (source : Source) (events : List ChatSocketEvent) : State :=
  { s with sent := s.sent ++ events.map fun event => ⟨socket, source, event⟩ }

def members (s : State) (room : Uuid) : List Nat := (s.rooms.filter (·.2 = room)).map (·.1)

def emitToRoom (s : State) (room : Uuid) (k : Nat) (event : ChatSocketEvent) : State :=
  { s with sent := s.sent ++ (s.members room).map fun socket => ⟨socket, .room k, event⟩ }

def setJoin (s : State) (j : Nat) (call : JoinCall) : State := { s with joins := s.joins.set j call }

def setSend (s : State) (k : Nat) (send : Send) : State := { s with sends := s.sends.set k send }

/-- The row of a statement that is done. An id is taken once, and the chat must be there. -/
def store (s : State) (message : Message) : Option State :=
  if s.messages.any (·.id = message.id) ∨ ¬s.chats.any (·.id = message.chatId) then none
  else some { s with messages := message :: s.messages }

end State

section
variable (chatbotName : String) (chatContextLength : Nat)

def typing : ChatSocketEvent := .chatAction (chatbotName ++ " is typing")

/-- The tokens a step of the stream has added. -/
def newTokens (chatId : Uuid) (s s' : Streaming) : List ChatSocketEvent :=
  (s'.tokens.drop s.tokens.length).map (.tokenChunk chatId)

def botMessage (s : State) (dto : ChatMessageDto) (id : Uuid) (content : String) : Message :=
  ⟨id, dto.chatId, s.clock, content, .system⟩

/-! ## Rooms -/

/-- All rooms joined: the socket is told. -/
def finishJoin (s : State) (j : Nat) (call : JoinCall) (rooms : List Uuid) (chats : List ChatRow) : State :=
  if rooms.isEmpty then (s.setJoin j { call with stage := .joined }).emit call.socket (.join j) [.joined chats]
  else s.setJoin j { call with stage := .joining rooms chats }

def joinStep (s : State) (j : Nat) (call : JoinCall) : Action → Option State
  | .userFound _ error =>
    match call.stage with
    | .findingUser => some (s.setJoin j { call with
        stage := match error with
          | some error => .threw error
          | none => .findingChats })
    | _ => none
  | .chatsFound _ error =>
    match call.stage with
    | .findingChats =>
      match error with
      | some message => some (s.setJoin j { call with stage := .threw (.error message) })
      | none =>
        let chats := s.chats.filter (·.userId = call.userId)
        some (finishJoin s j call (chats.map (·.roomId)) chats)
    | _ => none
  | .roomJoined _ =>
    match call.stage with
    | .joining (room :: rooms) chats =>
      some (finishJoin { s with rooms := s.rooms.insert (call.socket, room) } j call rooms chats)
    | _ => none
  | _ => none

/-! ## Sends -/

/-- What a send does next: a row is stored, its socket and then the room of the chat are told. -/
structure Effect where
  stored : Option Message := none
  stage : Stage
  carding : Bool := false
  events : List ChatSocketEvent := []
  toRoom : Option (Uuid × ChatSocketEvent) := none

def perform (s : State) (k : Nat) (send : Send) (effect : Effect) : Option State :=
  (match effect.stored with
    | some message => s.store message
    | none => some s).map fun s : State =>
    let told := (s.setSend k { send with stage := effect.stage, carding := effect.carding }).emit send.socket (.send k)
      effect.events
    match effect.toRoom with
    | some (room, event) => told.emitToRoom room k event
    | none => told

/-- The `finally` block. -/
def streamEnd (dto : ChatMessageDto) (botMessageId : Option Uuid) : List ChatSocketEvent :=
  [.streamEnd dto.chatId botMessageId]

def answered (dto : ChatMessageDto) (chat : ChatRow) (botMessage : Message) : Effect where
  stored := some botMessage
  stage := .returned botMessage
  carding := botMessage.content ≠ ""
  events := streamEnd dto (some botMessage.id)
  toRoom := some (chat.roomId, .newSystemMessage botMessage)

def cardsEvents (dto : ChatMessageDto) (cardsEnabled : Option Bool) (cards : Option (List AgentCard)) :
    List ChatSocketEvent :=
  match cardsEnabled, cards with
  | some false, _ | _, none | _, some [] => []
  | _, some cards => [.cards dto.chatId cards]

def sendStep (s : State) (dto : ChatMessageDto) : Stage → Action → Option Effect
  | .findingChat, .chatFound _ _ (some message) => some { stage := .threw message }
  | .findingChat, .chatFound _ id none =>
    match s.chats.find? (·.id = dto.chatId) with
    | none => some { stage := .refused, events := [.error SysMsg.notFound] }
    | some chat =>
      -- the room is told, which the sender need not be in
      if chat.userId ≠ dto.senderId then
        some { stage := .refused, toRoom := some (chat.roomId, .error SysMsg.forbidden) }
      else some { stage := .saving chat ⟨id, dto.chatId, s.clock, dto.textContent, .user dto.senderId⟩ }
  | .saving _ _, .saved _ (some message) => some { stage := .threw message }
  | .saving chat message, .saved _ none =>
    some { stored := some message, stage := .gettingLanguage chat, events := [typing chatbotName] }
  | .gettingLanguage chat, .gotLanguage _ language =>
    some { stage := .loadingHistory chat (language.filter (· ≠ "")) }
  | .loadingHistory _ _, .loaded _ _ (some message) _ => some { stage := .threw message }
  | .loadingHistory chat preferredLanguage, .loaded _ id none agentError =>
    let invocation : Invocation :=
      ⟨getMessagesWithCount s.messages chat.id chatContextLength, dto.senderId, preferredLanguage, dto.chatId⟩
    if invocation.asks then
      match agentError with
      | some message => some { stage := .threw message, events := streamEnd dto none }
      | none => some { stage := .streaming chat invocation ⟨"", [], none, []⟩ }
    else
      let all := invokeWithHistoryStream invocation [] false
      some {
        stage := .savingBot chat (botMessage s dto id all.fullContent)
        events := all.tokens.map (.tokenChunk dto.chatId) }
  | .streaming chat invocation st, .chunk _ chunk =>
    let st' := st.next invocation chunk
    some { stage := .streaming chat invocation st', events := newTokens dto.chatId st st' }
  | .streaming chat invocation st, .streamEnded _ thrown id =>
    let st' := st.finish invocation thrown
    some {
      stage := .savingBot chat (botMessage s dto id st'.fullContent)
      events := newTokens dto.chatId st st' }
  | .savingBot _ _, .botSaved _ (some message) => some { stage := .threw message, events := streamEnd dto none }
  | .savingBot chat botMessage, .botSaved _ none => some (answered dto chat botMessage)
  | _, _ => none

def step (s : State) (a : Action) : Option State :=
  match a with
  | .tick us => some { s with clock := s.clock + us }
  | .startChat userId startingMessage id =>
    some { s with
      chats := s.chats ++ [⟨⟨s.created, userId⟩, s.created⟩]
      created := s.created + 1
      starts := s.starts ++ [.savingMessage ⟨id, s.created, s.clock, startingMessage, .user userId⟩] }
  | .startingSaved i ok =>
    match s.starts[i]? with
    | some (.savingMessage message) =>
      if ok then (s.store message).map fun s => { s with starts := s.starts.set i .done }
      else some { s with starts := s.starts.set i (.threw "insert") }
    | _ => none
  -- the messages stay behind without a chat, where no query finds them
  | .deleteSingleChat chatId userId =>
    if s.chats.any fun chat => chat.id = chatId ∧ chat.userId = userId then
      some { s with
        chats := s.chats.filter (·.id ≠ chatId)
        messages := s.messages.filter (·.chatId ≠ chatId) }
    else none
  | .joinActiveChatRooms socket userId => some { s with joins := s.joins ++ [⟨socket, userId, .findingUser⟩] }
  | .disconnect socket => some { s with rooms := s.rooms.filter (·.1 ≠ socket) }
  | .sendMessageStream socket dto => some { s with sends := s.sends ++ [⟨socket, dto, .findingChat, false⟩] }
  | .userFound j _ | .chatsFound j _ | .roomJoined j => s.joins[j]?.bind fun call => joinStep s j call a
  | .chatFound k _ _ | .saved k _ | .gotLanguage k _ | .loaded k _ _ _ | .chunk k _ | .streamEnded k _ _
  | .botSaved k _ =>
    s.sends[k]?.bind fun send =>
      (sendStep chatbotName chatContextLength s send.dto send.stage a).bind (perform s k send)
  | .cardsGenerated k cardsEnabled cards =>
    s.sends[k]?.bind fun send =>
      if send.carding then
        perform s k send { stage := send.stage, events := cardsEvents send.dto cardsEnabled cards }
      else none

def init : State := ⟨0, [], 0, [], [], [], [], [], []⟩

def machine : Machine State Action := ⟨init, step chatbotName chatContextLength⟩

end

end IntellApi.ChatGateway
