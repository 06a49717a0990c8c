import IntellApi.ChatGateway
import IntellApi.Calls
import Mathlib.Data.List.Induction
import Mathlib.Data.List.Nodup

/-!
# What a send puts on the wire

Whatever else goes on, a socket gets of its send one answer in tokens, closed
once, and the tokens are the message that is stored. This message then goes
once to every socket in the room, which are sockets that named the owner.
-/

namespace IntellApi.ChatGateway

open Lts Chatbot

variable {chatbotName : String} {chatContextLength : Nat} {s s' t : State} {k l : Nat} {send : Send} {effect : Effect}
  {a : Action}

/-! ## Emitting -/

/-- The events of some of what is sent. -/
def pick (p : Emitted → Bool) (sent : List Emitted) : List ChatSocketEvent := (sent.filter p).map (·.event)

theorem pick_append (p : Emitted → Bool) (sent sent' : List Emitted) :
    pick p (sent ++ sent') = pick p sent ++ pick p sent' := by
  unfold pick
  rw [List.filter_append, List.map_append]

theorem pick_nil_of {p : Emitted → Bool} {sent : List Emitted} (h : ∀ e ∈ sent, p e = false) : pick p sent = [] := by
  unfold pick
  rw [List.filter_eq_nil_iff.mpr fun e he => by simp [h e he], List.map_nil]

theorem pick_all {p : Emitted → Bool} {sent : List Emitted} (h : ∀ e ∈ sent, p e = true) :
    pick p sent = sent.map (·.event) := by
  unfold pick
  rw [List.filter_eq_self.mpr h]

/-- What the socket of a send got of it. -/
def State.direct (s : State) (k : Nat) : List ChatSocketEvent := pick (·.source = .send k) s.sent

def toSocket (k : Nat) (send : Send) (event : ChatSocketEvent) : Emitted := ⟨send.socket, .send k, event⟩

def Effect.roomed (effect : Effect) (s : State) (k : Nat) : List Emitted :=
  match effect.toRoom with
  | some (room, event) => (s.members room).map fun socket => ⟨socket, .room k, event⟩
  | none => []

theorem store_eq {message : Message} (h : s.store message = some t) :
    t = { s with messages := message :: s.messages } := by
  unfold State.store at h
  split at h
  · cases h
  · exact (Option.some.inj h).symm

theorem perform_eq (h : perform s k send effect = some t) : t = { s with
    messages := effect.stored.toList ++ s.messages
    sends := s.sends.set k { send with stage := effect.stage, carding := effect.carding }
    sent := s.sent ++ effect.events.map (toSocket k send) ++ effect.roomed s k } := by
  obtain ⟨u, hu, rfl⟩ := Option.map_eq_some_iff.mp h
  have hstored : u = { s with messages := effect.stored.toList ++ s.messages } := by
    cases hs : effect.stored with
    | none =>
      rw [hs] at hu
      exact (Option.some.inj hu).symm
    | some message =>
      rw [hs] at hu
      exact store_eq hu
  subst hstored
  unfold Effect.roomed
  cases effect.toRoom with
  | none =>
    rw [List.append_nil]
    rfl
  | some told => rfl

theorem direct_perform (h : perform s k send effect = some t) (l : Nat) :
    t.direct l = s.direct l ++ if k = l then effect.events else [] := by
  have hroom : pick (·.source = .send l) (effect.roomed s k) = [] := by
    refine pick_nil_of ?_
    unfold Effect.roomed
    cases effect.toRoom with
    | none => exact fun e he => absurd he List.not_mem_nil
    | some told =>
      intro e he
      obtain ⟨socket, -, rfl⟩ := List.mem_map.mp he
      rfl
  have hself : pick (·.source = .send l) (effect.events.map (toSocket k send)) =
      if k = l then effect.events else [] := by
    split
    · rename_i hl
      subst hl
      rw [pick_all, List.map_map]
      · exact List.map_id _
      · intro e he
        obtain ⟨event, -, rfl⟩ := List.mem_map.mp he
        exact decide_eq_true rfl
    · rename_i hl
      refine pick_nil_of ?_
      intro e he
      obtain ⟨event, -, rfl⟩ := List.mem_map.mp he
      simpa [toSocket] using hl
  rw [perform_eq h]
  unfold State.direct
  rw [pick_append, pick_append, hroom, hself, List.append_nil]

/-! ## The stream -/

theorem join_append (tokens tokens' : List String) :
    String.join (tokens ++ tokens') = String.join tokens ++ String.join tokens' := by
  induction tokens' using List.reverseRecOn with
  | nil => simp [String.join]
  | append_singleton tokens' token ih =>
    rw [← List.append_assoc]
    simp only [String.join, List.foldl_append, List.foldl_cons, List.foldl_nil] at ih ⊢
    rw [ih, String.append_assoc]

/-- A streaming has sent what it has gathered. -/
def Gathered (st : Streaming) : Prop := st.fullContent = String.join st.tokens

/-- `st'` has some tokens more than `st`. -/
def Extends (st st' : Streaming) : Prop := ∃ tokens, st'.tokens = st.tokens ++ tokens

theorem onToken_spec {st : Streaming} (hg : Gathered st) (token : String) :
    Gathered (st.onToken token) ∧ Extends st (st.onToken token) := by
  refine ⟨?_, [token], rfl⟩
  unfold Gathered Streaming.onToken
  rw [join_append, hg]
  simp [String.join]

theorem next_spec {st : Streaming} (hg : Gathered st) (invocation : Invocation) (chunk : Chunk) :
    Gathered (st.next invocation chunk) ∧ Extends st (st.next invocation chunk) := by
  have hself : Gathered st ∧ Extends st st := ⟨hg, [], (List.append_nil _).symm⟩
  unfold Streaming.next
  split
  · split
    · exact hself
    · exact hself
  · cases chunk.usageMetadata <;> cases chunk.content with
    | none => exact hself
    | some content =>
      dsimp only
      split
      · exact hself
      · exact onToken_spec hg content

theorem finish_spec {st : Streaming} (hg : Gathered st) (invocation : Invocation) (thrown : Bool) :
    Gathered (st.finish invocation thrown) ∧ Extends st (st.finish invocation thrown) := by
  have hself : Gathered st ∧ Extends st st := ⟨hg, [], (List.append_nil _).symm⟩
  unfold Streaming.finish
  split
  · split
    · exact onToken_spec hg _
    · exact hself
  · split
    · exact hself
    · exact hself

def chunks (dto : ChatMessageDto) (tokens : List String) : List ChatSocketEvent := tokens.map (.tokenChunk dto.chatId)

theorem chunks_newTokens {dto : ChatMessageDto} {st st' : Streaming} (h : Extends st st') :
    chunks dto st.tokens ++ newTokens dto.chatId st st' = chunks dto st'.tokens := by
  obtain ⟨tokens, he⟩ := h
  unfold chunks newTokens
  rw [he, List.drop_left, List.map_append]

/-! ## One send -/

/-- What the socket of a send has got of it at each stage. -/
def Wire (chatbotName : String) (dto : ChatMessageDto) (carding : Bool) : Stage → List ChatSocketEvent → Prop
  | .findingChat, events | .saving _ _, events => events = []
  | .gettingLanguage _, events | .loadingHistory _ _, events => events = [typing chatbotName]
  | .streaming _ _ st, events => Gathered st ∧ events = typing chatbotName :: chunks dto st.tokens
  | .savingBot _ botMessage, events => ∃ tokens, String.join tokens = botMessage.content ∧
      events = typing chatbotName :: chunks dto tokens
  | .returned botMessage, events => ∃ tokens, String.join tokens = botMessage.content ∧ ∃ carded,
      events = typing chatbotName :: chunks dto tokens ++ streamEnd dto (some botMessage.id) ++ carded ∧
        (carded = [] ∨ carding = false ∧ ∃ cards, carded = [.cards dto.chatId cards])
  | .refused, events => events = [] ∨ events = [.error SysMsg.notFound]
  | .threw _, events => events = [] ∨ events = [typing chatbotName] ∨
      ∃ tokens, events = typing chatbotName :: chunks dto tokens ++ streamEnd dto none

theorem wire_step {dto : ChatMessageDto} {carding : Bool} {stage : Stage} {events : List ChatSocketEvent}
    (h : sendStep chatbotName chatContextLength s dto stage a = some effect)
    (hw : Wire chatbotName dto carding stage events) :
    Wire chatbotName dto effect.carding effect.stage (events ++ effect.events) := by
  unfold sendStep at h
  split at h
  · cases h
    exact .inl (by rw [hw]; rfl)
  · split at h
    · cases h
      exact .inr (by rw [hw]; rfl)
    · split at h
      · cases h
        exact .inl (by rw [hw]; rfl)
      · cases h
        rw [hw]
        rfl
  · cases h
    exact .inl (by rw [hw]; rfl)
  · cases h
    rw [hw]
    rfl
  · cases h
    rw [hw]
    rfl
  · cases h
    exact .inr (.inl (by rw [hw]; rfl))
  · dsimp only at h
    split at h
    · split at h
      · cases h
        exact .inr (.inr ⟨[], by rw [hw]; rfl⟩)
      · cases h
        exact ⟨rfl, by rw [hw]; rfl⟩
    · rename_i hasks
      cases h
      refine ⟨_, ?_, by rw [hw]; rfl⟩
      rw [invokeWithHistoryStream, if_pos (by simpa using hasks)]
      simp [String.join, botMessage]
  · cases h
    obtain ⟨hg, he⟩ := hw
    obtain ⟨hg', hx⟩ := next_spec hg _ _
    refine ⟨hg', ?_⟩
    rw [he, List.cons_append, chunks_newTokens hx]
  · cases h
    obtain ⟨hg, he⟩ := hw
    obtain ⟨hg', hx⟩ := finish_spec hg _ _
    exact ⟨_, hg'.symm, by rw [he, List.cons_append, chunks_newTokens hx]⟩
  · cases h
    obtain ⟨tokens, -, he⟩ := hw
    exact .inr (.inr ⟨tokens, by rw [he]⟩)
  · cases h
    obtain ⟨tokens, hj, he⟩ := hw
    exact ⟨tokens, hj, [], by rw [he, List.append_nil]; rfl, .inl rfl⟩
  · cases h

/-! ## Steps -/

theorem finishJoin_spec {j : Nat} {call : JoinCall} {rooms : List Uuid} {chats : List ChatRow} :
    (finishJoin s j call rooms chats).sends = s.sends ∧
      ∃ told, (finishJoin s j call rooms chats).sent = s.sent ++ told ∧ ∀ e ∈ told, e.source = .join j := by
  unfold finishJoin
  split
  · refine ⟨rfl, _, rfl, ?_⟩
    intro e he
    obtain ⟨event, -, rfl⟩ := List.mem_map.mp he
    rfl
  · exact ⟨rfl, [], (List.append_nil _).symm, fun e he => absurd he List.not_mem_nil⟩

theorem joinStep_spec {j : Nat} {call : JoinCall} (h : joinStep s j call a = some t) :
    t.sends = s.sends ∧ ∃ told, t.sent = s.sent ++ told ∧ ∀ e ∈ told, e.source = .join j := by
  have hnone : ∃ told : List Emitted, s.sent = s.sent ++ told ∧ ∀ e ∈ told, e.source = .join j :=
    ⟨[], (List.append_nil _).symm, fun e he => absurd he List.not_mem_nil⟩
  unfold joinStep at h
  split at h
  · split at h
    · cases h
      exact ⟨rfl, hnone⟩
    · cases h
  · split at h
    · split at h
      · cases h
        exact ⟨rfl, hnone⟩
      · cases h
        exact finishJoin_spec
    · cases h
  · split at h
    · cases h
      exact finishJoin_spec
    · cases h
  · cases h

/-- Either no send goes on, or one comes in, or one takes its next step. -/
theorem step_cases (h : step chatbotName chatContextLength s a = some t) :
    (t.sends = s.sends ∧ ∃ told, t.sent = s.sent ++ told ∧ ∀ e ∈ told, ∃ j, e.source = .join j) ∨
      (∃ socket dto, t.sends = s.sends ++ [⟨socket, dto, .findingChat, false⟩] ∧ t.sent = s.sent) ∨
      ∃ k send effect, s.sends[k]? = some send ∧ perform s k send effect = some t ∧
        (sendStep chatbotName chatContextLength s send.dto send.stage a = some effect ∨
          send.carding = true ∧ ∃ cardsEnabled cards,
            effect = { stage := send.stage, events := cardsEvents send.dto cardsEnabled cards }) := by
  have hnone : ∃ told : List Emitted, s.sent = s.sent ++ told ∧ ∀ e ∈ told, ∃ j, e.source = .join j :=
    ⟨[], (List.append_nil _).symm, fun e he => absurd he List.not_mem_nil⟩
  cases a with
  | tick | startChat | joinActiveChatRooms | disconnect =>
    cases h
    exact .inl ⟨rfl, hnone⟩
  | startingSaved i ok =>
    simp only [step] at h
    split at h
    · split at h
      · obtain ⟨u, hu, rfl⟩ := Option.map_eq_some_iff.mp h
        rw [store_eq hu]
        exact .inl ⟨rfl, hnone⟩
      · cases h
        exact .inl ⟨rfl, hnone⟩
    · cases h
  | deleteSingleChat chatId userId =>
    simp only [step] at h
    split at h
    · cases h
      exact .inl ⟨rfl, hnone⟩
    · cases h
  | userFound j | chatsFound j | roomJoined j =>
    obtain ⟨call, -, h⟩ := Option.bind_eq_some_iff.mp h
    obtain ⟨hs, told, he, hj⟩ := joinStep_spec h
    exact .inl ⟨hs, told, he, fun e he => ⟨j, hj e he⟩⟩
  | sendMessageStream socket dto =>
    cases h
    exact .inr (.inl ⟨socket, dto, rfl, rfl⟩)
  | chatFound k | saved k | gotLanguage k | loaded k | chunk k | streamEnded k | botSaved k =>
    obtain ⟨send, hk, h⟩ := Option.bind_eq_some_iff.mp h
    obtain ⟨effect, he, hp⟩ := Option.bind_eq_some_iff.mp h
    exact .inr (.inr ⟨k, send, effect, hk, hp, .inl he⟩)
  | cardsGenerated k cardsEnabled cards =>
    obtain ⟨send, hk, h⟩ := Option.bind_eq_some_iff.mp h
    split at h
    · rename_i hc
      exact .inr (.inr ⟨k, send, _, hk, h, .inr ⟨hc, cardsEnabled, cards, rfl⟩⟩)
    · cases h

/-- Only the last step of a send stores an answer and tells the room of it. -/
theorem sendStep_cases {dto : ChatMessageDto} {stage : Stage}
    (h : sendStep chatbotName chatContextLength s dto stage a = some effect) :
    (∃ chat botMessage, stage = .savingBot chat botMessage ∧ effect = answered dto chat botMessage) ∨
      effect.carding = false ∧ (∀ botMessage, effect.stage ≠ .returned botMessage) ∧
        (effect.toRoom = none ∨ effect.stage = .refused) := by
  unfold sendStep at h
  split at h <;> (try dsimp only at h) <;> (try split at h) <;> (try split at h) <;> cases h <;>
    first
      | exact .inr ⟨rfl, fun _ he => (by cases he), .inl rfl⟩
      | exact .inr ⟨rfl, fun _ he => (by cases he), .inr rfl⟩
      | exact .inl ⟨_, _, rfl, rfl⟩

theorem carding_step {dto : ChatMessageDto} {stage : Stage}
    (h : sendStep chatbotName chatContextLength s dto stage a = some effect) (hc : effect.carding = true) :
    ∃ botMessage, effect.stage = .returned botMessage := by
  obtain ⟨chat, botMessage, -, rfl⟩ | ⟨hf, -, -⟩ := sendStep_cases h
  · exact ⟨botMessage, rfl⟩
  · cases hc.symm.trans hf

theorem cardsEvents_cases (dto : ChatMessageDto) (cardsEnabled : Option Bool) (cards : Option (List AgentCard)) :
    cardsEvents dto cardsEnabled cards = [] ∨
      ∃ shown, cardsEvents dto cardsEnabled cards = [.cards dto.chatId shown] := by
  unfold cardsEvents
  split
  · exact .inl rfl
  · exact .inl rfl
  · exact .inl rfl
  · exact .inr ⟨_, rfl⟩

/-! ## Runs -/

/-- Each send has told its socket what its stage says. -/
structure Sound (chatbotName : String) (s : State) : Prop where
  wire : ∀ (k : Nat) (send : Send), s.sends[k]? = some send →
    Wire chatbotName send.dto send.carding send.stage (s.direct k)
  carding : ∀ (k : Nat) (send : Send), s.sends[k]? = some send → send.carding = true →
    ∃ botMessage, send.stage = .returned botMessage
  fresh : ∀ k, s.sends.length ≤ k → s.direct k = []

theorem sound_init : Sound chatbotName init :=
  ⟨fun _ _ hk => absurd hk (by simp [init]), fun _ _ hk => absurd hk (by simp [init]), fun _ _ => rfl⟩

theorem direct_of_sent {told : List Emitted} (h : t.sent = s.sent ++ told) (hj : ∀ e ∈ told, ∃ j, e.source = .join j)
    (k : Nat) : t.direct k = s.direct k := by
  have hnil : pick (·.source = .send k) told = [] := by
    refine pick_nil_of ?_
    intro e he
    obtain ⟨j, hs⟩ := hj e he
    simp [hs]
  unfold State.direct
  rw [h, pick_append, hnil, List.append_nil]

theorem sound_perform (hs : Sound chatbotName s) (hk : s.sends[k]? = some send) (hp : perform s k send effect = some t)
    (hw : Wire chatbotName send.dto effect.carding effect.stage (s.direct k ++ effect.events))
    (hc : effect.carding = true → ∃ botMessage, effect.stage = .returned botMessage) : Sound chatbotName t := by
  have hsends : t.sends = s.sends.set k { send with stage := effect.stage, carding := effect.carding } := by
    rw [perform_eq hp]
  constructor
  · intro l call hl
    rw [hsends] at hl
    rw [direct_perform hp]
    obtain ⟨rfl, rfl⟩ | ⟨hne, hl⟩ := Calls.set_cases hl
    · rw [if_pos rfl]
      exact hw
    · rw [if_neg (Ne.symm hne), List.append_nil]
      exact hs.wire l call hl
  · intro l call hl
    rw [hsends] at hl
    obtain ⟨-, rfl⟩ | ⟨-, hl⟩ := Calls.set_cases hl
    · exact hc
    · exact hs.carding l call hl
  · intro l hl
    rw [hsends, List.length_set] at hl
    have hlt := (List.getElem?_eq_some_iff.mp hk).1
    rw [direct_perform hp, if_neg (hlt.trans_le hl).ne, List.append_nil]
    exact hs.fresh l hl

theorem sound_step (h : step chatbotName chatContextLength s a = some t) (hs : Sound chatbotName s) :
    Sound chatbotName t := by
  obtain ⟨hsends, told, he, hj⟩ | ⟨socket, dto, hsends, he⟩ | ⟨k, send, effect, hk, hp, hsend | ⟨hc, _, cards, rfl⟩⟩ :=
    step_cases h
  · constructor
    · intro k send hk
      rw [direct_of_sent he hj]
      exact hs.wire k send (hsends ▸ hk)
    · exact fun k send hk => hs.carding k send (hsends ▸ hk)
    · intro k hk
      rw [direct_of_sent he hj]
      exact hs.fresh k (hsends ▸ hk)
  · have hdirect : ∀ k, t.direct k = s.direct k := by
      intro k
      unfold State.direct
      rw [he]
    constructor
    · intro k send hk
      rw [hdirect]
      rw [hsends] at hk
      obtain hk | ⟨rfl, rfl⟩ := Calls.snoc_cases hk
      · exact hs.wire k send hk
      · exact hs.fresh _ le_rfl
    · intro k send hk
      rw [hsends] at hk
      obtain hk | ⟨-, rfl⟩ := Calls.snoc_cases hk
      · exact hs.carding k send hk
      · exact fun hc => by cases hc
    · intro k hk
      rw [hdirect]
      refine hs.fresh k ?_
      rw [hsends, List.length_append] at hk
      exact (Nat.le_add_right ..).trans hk
  · exact sound_perform hs hk hp (wire_step hsend (hs.wire k send hk)) (carding_step hsend)
  · obtain ⟨botMessage, hst⟩ := hs.carding k send hk hc
    have hw := hs.wire k send hk
    rw [hst, hc] at hw
    obtain ⟨tokens, hj, carded, he, hcarded | ⟨hcd, -⟩⟩ := hw
    · refine sound_perform hs hk hp ?_ fun hf => by cases hf
      rw [hst]
      refine ⟨tokens, hj, cardsEvents send.dto _ cards, by rw [he, hcarded, List.append_nil], ?_⟩
      exact (cardsEvents_cases ..).imp_right fun hx => ⟨rfl, hx⟩
    · cases hcd

theorem Path.sound (h : (machine chatbotName chatContextLength).Reach Free s) : Sound chatbotName s :=
  h.inv sound_init fun _ _ _ hs _ hst => sound_step hst hs

/-! ## The stored answer -/

theorem joinStep_rows {j : Nat} {call : JoinCall} (h : joinStep s j call a = some t) :
    t.chats = s.chats ∧ t.created = s.created ∧ t.messages = s.messages := by
  have hfin : ∀ (s : State) rooms chats, (finishJoin s j call rooms chats).chats = s.chats ∧
      (finishJoin s j call rooms chats).created = s.created ∧
      (finishJoin s j call rooms chats).messages = s.messages := by
    intro s rooms chats
    unfold finishJoin
    split <;> exact ⟨rfl, rfl, rfl⟩
  unfold joinStep at h
  split at h
  · split at h
    · cases h
      exact ⟨rfl, rfl, rfl⟩
    · cases h
  · split at h
    · split at h
      · cases h
        exact ⟨rfl, rfl, rfl⟩
      · cases h
        exact hfin ..
    · cases h
  · split at h
    · cases h
      exact hfin ..
    · cases h
  · cases h

/-- What a step does to the chats and their messages. -/
theorem step_rows (h : step chatbotName chatContextLength s a = some t) :
    (t.chats = s.chats ∧ t.created = s.created ∧ ∀ message ∈ s.messages, message ∈ t.messages) ∨
      (∃ userId, t.chats = s.chats ++ [⟨⟨s.created, userId⟩, s.created⟩] ∧ t.created = s.created + 1 ∧
        t.messages = s.messages) ∨
      ∃ chatId, t.chats = s.chats.filter (·.id ≠ chatId) ∧ t.created = s.created ∧
        t.messages = s.messages.filter (·.chatId ≠ chatId) := by
  cases a with
  | tick | joinActiveChatRooms | disconnect | sendMessageStream =>
    cases h
    exact .inl ⟨rfl, rfl, fun _ hm => hm⟩
  | startChat userId =>
    cases h
    exact .inr (.inl ⟨userId, rfl, rfl, rfl⟩)
  | startingSaved i ok =>
    simp only [step] at h
    split at h
    · split at h
      · obtain ⟨u, hu, rfl⟩ := Option.map_eq_some_iff.mp h
        rw [store_eq hu]
        exact .inl ⟨rfl, rfl, fun _ hm => List.mem_cons_of_mem _ hm⟩
      · cases h
        exact .inl ⟨rfl, rfl, fun _ hm => hm⟩
    · cases h
  | deleteSingleChat chatId userId =>
    simp only [step] at h
    split at h
    · cases h
      exact .inr (.inr ⟨chatId, rfl, rfl, rfl⟩)
    · cases h
  | userFound j | chatsFound j | roomJoined j =>
    obtain ⟨call, -, h⟩ := Option.bind_eq_some_iff.mp h
    obtain ⟨hc, hn, hm⟩ := joinStep_rows h
    exact .inl ⟨hc, hn, fun _ h => hm ▸ h⟩
  | chatFound k | saved k | gotLanguage k | loaded k | chunk k | streamEnded k | botSaved k =>
    obtain ⟨send, -, h⟩ := Option.bind_eq_some_iff.mp h
    obtain ⟨effect, -, hp⟩ := Option.bind_eq_some_iff.mp h
    rw [perform_eq hp]
    exact .inl ⟨rfl, rfl, fun _ hm => List.mem_append_right _ hm⟩
  | cardsGenerated k cardsEnabled cards =>
    obtain ⟨send, -, h⟩ := Option.bind_eq_some_iff.mp h
    split at h
    · rw [perform_eq h]
      exact .inl ⟨rfl, rfl, fun _ hm => List.mem_append_right _ hm⟩
    · cases h

/-- A message that is in its chat while the chat is there. -/
def InChat (s : State) (message : Message) : Prop :=
  message.chatId < s.created ∧ ((∃ chat ∈ s.chats, chat.id = message.chatId) → message ∈ s.messages)

theorem InChat.step {message : Message} (h : ChatGateway.step chatbotName chatContextLength s a = some t)
    (hm : InChat s message) : InChat t message := by
  obtain ⟨hlt, hin⟩ := hm
  obtain ⟨hc, hn, hmem⟩ | ⟨userId, hc, hn, hmem⟩ | ⟨chatId, hc, hn, hmem⟩ := step_rows h
  · exact ⟨hn ▸ hlt, fun hx => hmem _ (hin (hc ▸ hx))⟩
  · refine ⟨hn ▸ Nat.lt_succ_of_lt hlt, ?_⟩
    rintro ⟨chat, hchat, hid⟩
    rw [hc] at hchat
    rw [hmem]
    rcases List.mem_append.mp hchat with hchat | hchat
    · exact hin ⟨chat, hchat, hid⟩
    · cases List.mem_singleton.mp hchat
      exact absurd hid hlt.ne'
  · refine ⟨hn ▸ hlt, ?_⟩
    rintro ⟨chat, hchat, hid⟩
    rw [hc, List.mem_filter] at hchat
    rw [hmem, List.mem_filter, ← hid]
    exact ⟨hin ⟨chat, hchat.1, hid⟩, hchat.2⟩

theorem stored_some {message : Message} (h : s.store message = some t) :
    ∃ chat ∈ s.chats, chat.id = message.chatId := by
  unfold State.store at h
  split at h
  · cases h
  · rename_i hn
    obtain ⟨-, hany⟩ := not_or.mp hn
    obtain ⟨chat, hchat, hid⟩ := List.any_eq_true.mp (not_not.mp hany)
    exact ⟨chat, hchat, of_decide_eq_true hid⟩

/-- The answer of a send is in its chat. -/
structure Stored (s : State) : Prop where
  chats : ∀ chat ∈ s.chats, chat.id < s.created
  returned : ∀ send ∈ s.sends, ∀ botMessage, send.stage = .returned botMessage → InChat s botMessage

theorem stored_step (h : step chatbotName chatContextLength s a = some t) (hs : Stored s) : Stored t := by
  constructor
  · obtain ⟨hc, hn, -⟩ | ⟨userId, hc, hn, -⟩ | ⟨chatId, hc, hn, -⟩ := step_rows h
    · rw [hc, hn]
      exact hs.chats
    · rw [hc, hn]
      intro chat hchat
      rcases List.mem_append.mp hchat with hchat | hchat
      · exact Nat.lt_succ_of_lt (hs.chats chat hchat)
      · rw [List.mem_singleton.mp hchat]
        exact Nat.lt_succ_self _
    · rw [hc, hn]
      exact fun chat hchat => hs.chats chat (List.mem_of_mem_filter hchat)
  · intro call hcall botMessage hst
    obtain ⟨hsends, -⟩ | ⟨socket, dto, hsends, -⟩ | ⟨k, send, effect, hk, hp, hsend⟩ := step_cases h
    · exact (hs.returned call (hsends ▸ hcall) botMessage hst).step h
    · rw [hsends] at hcall
      rcases List.mem_append.mp hcall with hcall | hcall
      · exact (hs.returned call hcall botMessage hst).step h
      · rw [List.mem_singleton.mp hcall] at hst
        cases hst
    · have he := perform_eq hp
      rw [show t.sends = s.sends.set k _ by rw [he]] at hcall
      rcases List.mem_or_eq_of_mem_set hcall with hcall | rfl
      · exact (hs.returned call hcall botMessage hst).step h
      · obtain hsend | ⟨-, _, cards, rfl⟩ := hsend
        · obtain ⟨chat, m, hsaving, rfl⟩ | ⟨-, hn, -⟩ := sendStep_cases hsend
          · cases hst
            obtain ⟨u, hu, -⟩ := Option.map_eq_some_iff.mp hp
            obtain ⟨chat, hchat, hid⟩ := stored_some hu
            rw [he]
            exact ⟨hid ▸ hs.chats chat hchat, fun _ => List.mem_cons_self⟩
          · exact absurd hst (hn _)
        · exact (hs.returned send (List.mem_of_getElem? hk) botMessage hst).step h

theorem Path.stored (h : (machine chatbotName chatContextLength).Reach Free s) : Stored s :=
  h.inv ⟨fun _ hc => absurd hc List.not_mem_nil, fun _ hs => absurd hs List.not_mem_nil⟩
    fun _ _ _ hs _ hst => stored_step hst hs

/-- Nothing of a send goes to another socket. -/
def Own (s : State) : Prop :=
  ∀ e ∈ s.sent, ∀ k, e.source = .send k → ∃ send, s.sends[k]? = some send ∧ e.socket = send.socket

theorem own_perform (hs : Own s) (hk : s.sends[k]? = some send) (hp : perform s k send effect = some t) : Own t := by
  rw [perform_eq hp]
  have hold : ∀ {l : Nat} {call : Send}, s.sends[l]? = some call →
      ∃ call', (s.sends.set k { send with stage := effect.stage, carding := effect.carding })[l]? = some call' ∧
        call'.socket = call.socket := by
    intro l call hl
    obtain hl | ⟨he, hl⟩ := Calls.getElem?_set_some
      (b := { send with stage := effect.stage, carding := effect.carding }) hk hl
    · exact ⟨call, hl, rfl⟩
    · exact ⟨_, hl, by rw [he]⟩
  intro e he l hl
  rcases List.mem_append.mp he with he | he
  · rcases List.mem_append.mp he with he | he
    · obtain ⟨call, hcall, hsock⟩ := hs e he l hl
      obtain ⟨call', hcall', hsock'⟩ := hold hcall
      exact ⟨call', hcall', hsock.trans hsock'.symm⟩
    · obtain ⟨event, -, rfl⟩ := List.mem_map.mp he
      cases hl
      obtain ⟨call', hcall', hsock'⟩ := hold hk
      exact ⟨call', hcall', hsock'.symm⟩
  · unfold Effect.roomed at he
    split at he
    · obtain ⟨socket, -, rfl⟩ := List.mem_map.mp he
      cases hl
    · exact absurd he List.not_mem_nil

theorem own_step (h : step chatbotName chatContextLength s a = some t) (hs : Own s) : Own t := by
  obtain ⟨hsends, told, he, hj⟩ | ⟨socket, dto, hsends, he⟩ | ⟨k, send, effect, hk, hp, -⟩ := step_cases h
  · intro e hmem k hsrc
    rw [he] at hmem
    rw [hsends]
    rcases List.mem_append.mp hmem with hmem | hmem
    · exact hs e hmem k hsrc
    · obtain ⟨j, hjoin⟩ := hj e hmem
      cases hsrc.symm.trans hjoin
  · intro e hmem k hsrc
    obtain ⟨send, hk, hsock⟩ := hs e (he ▸ hmem) k hsrc
    rw [hsends]
    exact ⟨send, Calls.snoc_of_some hk, hsock⟩
  · exact own_perform hs hk hp

theorem Path.own (h : (machine chatbotName chatContextLength).Reach Free s) : Own s :=
  h.inv (fun _ he => absurd he List.not_mem_nil) fun _ _ _ hs _ hst => own_step hst hs

/-- Of each send its socket and no other gets, in every interleaving, what its stage says: once it has
returned, one answer in tokens, closed once, whose text is that of the message stored. -/
theorem stream_wire (hr : (machine chatbotName chatContextLength).Reach Free s) (hk : s.sends[k]? = some send) :
    Wire chatbotName send.dto send.carding send.stage (s.direct k) ∧
      (∀ e ∈ s.sent, e.source = .send k → e.socket = send.socket) ∧
      ∀ botMessage, send.stage = .returned botMessage →
        (∃ chat ∈ s.chats, chat.id = botMessage.chatId) → botMessage ∈ s.messages := by
  refine ⟨(Path.sound hr).wire k send hk, ?_, ?_⟩
  · intro e he hsrc
    obtain ⟨call, hcall, hsock⟩ := Path.own hr e he k hsrc
    cases hk.symm.trans hcall
    exact hsock
  · intro botMessage hst
    exact ((Path.stored hr).returned send (List.mem_of_getElem? hk) botMessage hst).2

def oneAnswer : List Action :=
  [.startChat 1 "Hi" 10, .startingSaved 0 true, .sendMessageStream 5 ⟨0, 1, "How much?"⟩, .chatFound 0 11 none,
    .saved 0 none, .gotLanguage 0 none, .loaded 0 12 none none, .chunk 0 ⟨some "model_request", some "4 kW", none⟩,
    .streamEnded 0 false 13, .botSaved 0 none]

theorem stream_wire_oneAnswer : ∃ s send botMessage tokens carded, (machine "Bot" 10).run init oneAnswer = some s ∧
    s.sends[0]? = some send ∧ String.join tokens = botMessage.content ∧ botMessage ∈ s.messages ∧
    s.direct 0 = typing "Bot" :: chunks send.dto tokens ++ streamEnd send.dto (some botMessage.id) ++ carded := by
  obtain ⟨s, send, botMessage, hs, hk, hst, hchat⟩ : ∃ s send botMessage,
      (machine "Bot" 10).run init oneAnswer = some s ∧ s.sends[0]? = some send ∧
      send.stage = .returned botMessage ∧ ∃ chat ∈ s.chats, chat.id = botMessage.chatId :=
    ⟨_, _, _, rfl, rfl, rfl, _, List.mem_cons_self, rfl⟩
  obtain ⟨hw, -, hstored⟩ := stream_wire (Machine.path_of_run hs) hk
  rw [hst] at hw
  obtain ⟨tokens, hj, carded, he, -⟩ := hw
  exact ⟨s, send, botMessage, tokens, carded, hs, hk, hj, hstored botMessage hst hchat, he⟩

end IntellApi.ChatGateway
