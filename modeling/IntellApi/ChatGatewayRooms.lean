import IntellApi.ChatGatewaySound
import Mathlib.Data.List.Lattice

/-!
# Who gets the answer

A room is joined by naming its owner. The answer of a send goes once to each
socket that is in the room when the answer is stored, and never to another.
-/

namespace IntellApi.ChatGateway

open Lts Chatbot

variable {chatbotName : String} {chatContextLength : Nat} {s t u : State} {k : Nat} {send : Send} {effect : Effect}
  {a : Action} {owner : Uuid → Uuid}

/-! ## Owners -/

/-- The chat a send has found. -/
def Stage.chat : Stage → Option ChatRow
  | .saving chat _ | .gettingLanguage chat | .loadingHistory chat _ | .streaming chat _ _
  | .savingBot chat _ => some chat
  | _ => none

def Join.rooms : Join → List Uuid
  | .joining rooms _ => rooms
  | _ => []

/-- Each room there was has one owner: who is in it has named the owner, and who sends to it does. -/
structure Owned (owner : Uuid → Uuid) (s : State) : Prop where
  chats : ∀ chat ∈ s.chats, chat.roomId < s.created ∧ owner chat.roomId = chat.userId
  sends : ∀ send ∈ s.sends, ∀ chat, send.stage.chat = some chat →
    chat.roomId < s.created ∧ owner chat.roomId = send.dto.senderId
  joins : ∀ call ∈ s.joins, ∀ room ∈ call.stage.rooms, room < s.created ∧ owner room = call.userId
  rooms : ∀ socket room, (socket, room) ∈ s.rooms →
    room < s.created ∧ ∃ call ∈ s.joins, call.socket = socket ∧ call.userId = owner room
  nodup : s.rooms.Nodup

theorem owned_init (owner : Uuid → Uuid) : Owned owner init :=
  ⟨fun _ h => absurd h List.not_mem_nil, fun _ h => absurd h List.not_mem_nil, fun _ h => absurd h List.not_mem_nil,
    fun _ _ h => absurd h List.not_mem_nil, .nil⟩

theorem sendStep_chat {dto : ChatMessageDto} {stage : Stage} {chat : ChatRow}
    (h : sendStep chatbotName chatContextLength s dto stage a = some effect) (hc : effect.stage.chat = some chat) :
    stage.chat = some chat ∨ chat ∈ s.chats ∧ chat.userId = dto.senderId := by
  unfold sendStep at h
  split at h
  · cases h
    cases hc
  · split at h
    · cases h
      cases hc
    · split at h
      · cases h
        cases hc
      · rename_i hf hu
        cases h
        cases hc
        exact .inr ⟨List.mem_of_find?_eq_some hf, not_not.mp hu⟩
  · cases h
    cases hc
  · cases h
    exact .inl hc
  · cases h
    exact .inl hc
  · cases h
    cases hc
  · dsimp only at h
    split at h
    · split at h
      · cases h
        cases hc
      · cases h
        exact .inl hc
    · cases h
      exact .inl hc
  · cases h
    exact .inl hc
  · cases h
    exact .inl hc
  · cases h
    cases hc
  · cases h
    cases hc
  · cases h

/-- A join after its step, and what it has done to the rooms. -/
structure Joined (s t : State) (j : Nat) (call : JoinCall) (stage : Join) : Prop where
  joins : t.joins = s.joins.set j { call with stage }
  sends : t.sends = s.sends
  chats : t.chats = s.chats
  created : t.created = s.created
  waiting : ∀ room ∈ stage.rooms, room ∈ call.stage.rooms ∨
    ∃ chat ∈ s.chats, chat.userId = call.userId ∧ chat.roomId = room
  rooms : t.rooms = s.rooms ∨ ∃ room ∈ call.stage.rooms, t.rooms = s.rooms.insert (call.socket, room)

theorem finishJoin_joined (s : State) (j : Nat) (call : JoinCall) (rooms : List Uuid) (chats : List ChatRow) :
    ∃ stage : Join, (∀ room ∈ stage.rooms, room ∈ rooms) ∧
      (finishJoin s j call rooms chats).joins = s.joins.set j { call with stage } ∧
      (finishJoin s j call rooms chats).sends = s.sends ∧ (finishJoin s j call rooms chats).chats = s.chats ∧
      (finishJoin s j call rooms chats).created = s.created ∧ (finishJoin s j call rooms chats).rooms = s.rooms := by
  unfold finishJoin
  split
  · exact ⟨.joined, fun _ h => absurd h List.not_mem_nil, rfl, rfl, rfl, rfl, rfl⟩
  · exact ⟨.joining rooms chats, fun _ h => h, rfl, rfl, rfl, rfl, rfl⟩

theorem joinStep_joined {j : Nat} {call : JoinCall} (h : joinStep s j call a = some t) :
    ∃ stage, Joined s t j call stage := by
  unfold joinStep at h
  split at h
  · split at h
    · rename_i error _ _
      cases h
      refine ⟨_, rfl, rfl, rfl, rfl, ?_, .inl rfl⟩
      intro room hroom
      cases error <;> exact absurd hroom List.not_mem_nil
    · cases h
  · split at h
    · split at h
      · cases h
        exact ⟨_, rfl, rfl, rfl, rfl, fun _ hroom => absurd hroom List.not_mem_nil, .inl rfl⟩
      · cases h
        obtain ⟨stage, hsub, hj, hs, hc, hn, hr⟩ := finishJoin_joined s j call _ _
        refine ⟨stage, hj, hs, hc, hn, ?_, .inl hr⟩
        intro room hroom
        obtain ⟨chat, hchat, hid⟩ := List.mem_map.mp (hsub room hroom)
        obtain ⟨hmem, hu⟩ := List.mem_filter.mp hchat
        exact .inr ⟨chat, hmem, of_decide_eq_true hu, hid⟩
    · cases h
  · split at h
    · rename_i room rooms chats hst
      cases h
      obtain ⟨stage, hsub, hj, hs, hc, hn, hr⟩ :=
        finishJoin_joined { s with rooms := s.rooms.insert (call.socket, room) } j call rooms chats
      refine ⟨stage, hj, hs, hc, hn, ?_, .inr ⟨room, ?_, hr⟩⟩
      · intro r hroom
        rw [hst]
        exact .inl (List.mem_cons_of_mem _ (hsub r hroom))
      · rw [hst]
        exact List.mem_cons_self
    · cases h
  · cases h

theorem Owned.joined {j : Nat} {call : JoinCall} {stage : Join} (h : Owned owner s) (hj : s.joins[j]? = some call)
    (ht : Joined s t j call stage) : Owned owner t := by
  have hcall := h.joins call (List.mem_of_getElem? hj)
  have hnamed : ∀ socket user, (∃ c ∈ s.joins, c.socket = socket ∧ c.userId = user) →
      ∃ c ∈ t.joins, c.socket = socket ∧ c.userId = user := by
    rintro socket user ⟨c, hc, hsocket, huser⟩
    rw [ht.joins]
    rcases Calls.mem_set_of_mem (b := { call with stage }) hj hc with rfl | hc
    · exact ⟨_, List.mem_of_getElem? (Calls.getElem?_set_own hj), hsocket, huser⟩
    · exact ⟨c, hc, hsocket, huser⟩
  constructor
  · rw [ht.chats, ht.created]
    exact h.chats
  · rw [ht.sends, ht.created]
    exact h.sends
  · rw [ht.joins, ht.created]
    intro c hc room hroom
    rcases List.mem_or_eq_of_mem_set hc with hc | rfl
    · exact h.joins c hc room hroom
    · rcases ht.waiting room hroom with hroom | ⟨chat, hchat, hu, rfl⟩
      · exact hcall room hroom
      · exact hu ▸ h.chats chat hchat
  · intro socket room hmem
    rw [ht.created]
    rcases ht.rooms with hr | ⟨r, hr, he⟩
    · obtain ⟨hlt, hc⟩ := h.rooms socket room (hr ▸ hmem)
      exact ⟨hlt, hnamed _ _ hc⟩
    · rw [he] at hmem
      rcases List.mem_insert_iff.mp hmem with heq | hmem
      · cases heq
        obtain ⟨hlt, ho⟩ := hcall room hr
        exact ⟨hlt, hnamed _ _ ⟨call, List.mem_of_getElem? hj, rfl, ho.symm⟩⟩
      · obtain ⟨hlt, hc⟩ := h.rooms socket room hmem
        exact ⟨hlt, hnamed _ _ hc⟩
  · rcases ht.rooms with hr | ⟨r, -, he⟩
    · rw [hr]
      exact h.nodup
    · rw [he]
      exact h.nodup.insert

theorem Owned.performed (h : Owned owner s) (hk : s.sends[k]? = some send) (hp : perform s k send effect = some t)
    (hc : ∀ chat, effect.stage.chat = some chat →
      send.stage.chat = some chat ∨ chat ∈ s.chats ∧ chat.userId = send.dto.senderId) : Owned owner t := by
  rw [perform_eq hp]
  refine ⟨h.chats, ?_, h.joins, h.rooms, h.nodup⟩
  intro call hcall chat hst
  rcases List.mem_or_eq_of_mem_set hcall with hcall | rfl
  · exact h.sends call hcall chat hst
  · rcases hc chat hst with hst | ⟨hchat, hu⟩
    · exact h.sends send (List.mem_of_getElem? hk) chat hst
    · exact hu ▸ h.chats chat hchat

/-- The owner of a room that does not exist yet may be chosen. -/
theorem Owned.update (h : Owned owner s) (user : Uuid) : Owned (Function.update owner s.created user) s := by
  have hold : ∀ {room : Uuid}, room < s.created → Function.update owner s.created user room = owner room :=
    fun hlt => Function.update_of_ne hlt.ne ..
  constructor
  · intro chat hchat
    obtain ⟨hlt, ho⟩ := h.chats chat hchat
    exact ⟨hlt, (hold hlt).trans ho⟩
  · intro send hs chat hst
    obtain ⟨hlt, ho⟩ := h.sends send hs chat hst
    exact ⟨hlt, (hold hlt).trans ho⟩
  · intro call hcall room hroom
    obtain ⟨hlt, ho⟩ := h.joins call hcall room hroom
    exact ⟨hlt, (hold hlt).trans ho⟩
  · intro socket room hmem
    obtain ⟨hlt, hc⟩ := h.rooms socket room hmem
    rw [hold hlt]
    exact ⟨hlt, hc⟩
  · exact h.nodup

theorem owned_step (h : step chatbotName chatContextLength s a = some t) (hs : Owned owner s) :
    ∃ owner', Owned owner' t := by
  cases a with
  | tick =>
    cases h
    exact ⟨owner, hs.chats, hs.sends, hs.joins, hs.rooms, hs.nodup⟩
  | startChat userId =>
    cases h
    have hu := hs.update userId
    refine ⟨Function.update owner s.created userId, ?_, ?_, ?_, ?_, hs.nodup⟩
    · intro chat hchat
      rcases List.mem_append.mp hchat with hchat | hchat
      · obtain ⟨hlt, ho⟩ := hu.chats chat hchat
        exact ⟨Nat.lt_succ_of_lt hlt, ho⟩
      · rw [List.mem_singleton.mp hchat]
        exact ⟨Nat.lt_succ_self _, Function.update_self ..⟩
    · intro send hsend chat hst
      obtain ⟨hlt, ho⟩ := hu.sends send hsend chat hst
      exact ⟨Nat.lt_succ_of_lt hlt, ho⟩
    · intro call hcall room hroom
      obtain ⟨hlt, ho⟩ := hu.joins call hcall room hroom
      exact ⟨Nat.lt_succ_of_lt hlt, ho⟩
    · intro socket room hmem
      obtain ⟨hlt, hc⟩ := hu.rooms socket room hmem
      exact ⟨Nat.lt_succ_of_lt hlt, hc⟩
  | startingSaved i ok =>
    simp only [step] at h
    split at h
    · split at h
      · obtain ⟨v, hv, rfl⟩ := Option.map_eq_some_iff.mp h
        rw [store_eq hv]
        exact ⟨owner, hs.chats, hs.sends, hs.joins, hs.rooms, hs.nodup⟩
      · cases h
        exact ⟨owner, hs.chats, hs.sends, hs.joins, hs.rooms, hs.nodup⟩
    · cases h
  | deleteSingleChat chatId userId =>
    simp only [step] at h
    split at h
    · cases h
      exact ⟨owner, fun chat hchat => hs.chats chat (List.mem_of_mem_filter hchat), hs.sends, hs.joins, hs.rooms,
        hs.nodup⟩
    · cases h
  | joinActiveChatRooms socket userId =>
    cases h
    refine ⟨owner, hs.chats, hs.sends, ?_, ?_, hs.nodup⟩
    · intro call hcall room hroom
      rcases List.mem_append.mp hcall with hcall | hcall
      · exact hs.joins call hcall room hroom
      · rw [List.mem_singleton.mp hcall] at hroom
        exact absurd hroom List.not_mem_nil
    · intro socket room hmem
      obtain ⟨hlt, call, hcall, hc⟩ := hs.rooms socket room hmem
      exact ⟨hlt, call, List.mem_append_left _ hcall, hc⟩
  | disconnect socket =>
    cases h
    exact ⟨owner, hs.chats, hs.sends, hs.joins,
      fun socket room hmem => hs.rooms socket room (List.mem_of_mem_filter hmem), hs.nodup.filter _⟩
  | userFound j | chatsFound j | roomJoined j =>
    obtain ⟨call, hj, h⟩ := Option.bind_eq_some_iff.mp h
    obtain ⟨stage, ht⟩ := joinStep_joined h
    exact ⟨owner, hs.joined hj ht⟩
  | sendMessageStream socket dto =>
    cases h
    refine ⟨owner, hs.chats, ?_, hs.joins, hs.rooms, hs.nodup⟩
    intro send hsend chat hst
    rcases List.mem_append.mp hsend with hsend | hsend
    · exact hs.sends send hsend chat hst
    · rw [List.mem_singleton.mp hsend] at hst
      cases hst
  | chatFound k | saved k | gotLanguage k | loaded k | chunk k | streamEnded k | botSaved k =>
    obtain ⟨send, hk, h⟩ := Option.bind_eq_some_iff.mp h
    obtain ⟨effect, he, hp⟩ := Option.bind_eq_some_iff.mp h
    exact ⟨owner, hs.performed hk hp fun chat hst => sendStep_chat he hst⟩
  | cardsGenerated k cardsEnabled cards =>
    obtain ⟨send, hk, h⟩ := Option.bind_eq_some_iff.mp h
    split at h
    · exact ⟨owner, hs.performed hk h fun chat hst => .inl hst⟩
    · cases h

theorem Path.owned (h : (machine chatbotName chatContextLength).Reach Free s) : ∃ owner, Owned owner s := by
  refine h.inv (I := fun s => ∃ owner, Owned owner s) ⟨id, owned_init id⟩ ?_
  rintro s a t ⟨owner, hs⟩ - hst
  exact owned_step hst hs

/-! ## The room of a send -/

/-- What a socket got of a send by the room. -/
def inRoom (k socket : Nat) (e : Emitted) : Bool := e.source = .room k ∧ e.socket = socket

/-- Only a send that is at its end has told the room anything. -/
def Silent (s : State) : Prop :=
  ∀ e ∈ s.sent, ∀ k, e.source = .room k →
    ∃ send, s.sends[k]? = some send ∧ (send.stage = .refused ∨ ∃ botMessage, send.stage = .returned botMessage)

theorem sendStep_over {dto : ChatMessageDto} {stage : Stage}
    (hover : stage = .refused ∨ ∃ botMessage, stage = .returned botMessage) :
    sendStep chatbotName chatContextLength s dto stage a = none := by
  obtain rfl | ⟨botMessage, rfl⟩ := hover <;> rfl

theorem silent_perform (hs : Silent s) (hk : s.sends[k]? = some send) (hp : perform s k send effect = some t)
    (hover : send.stage = .refused ∨ (∃ botMessage, send.stage = .returned botMessage) → effect.stage = send.stage)
    (hroom : effect.toRoom = none ∨ effect.stage = .refused ∨ ∃ botMessage, effect.stage = .returned botMessage) :
    Silent t := by
  rw [perform_eq hp]
  intro e he l hl
  rcases List.mem_append.mp he with he | he
  · rcases List.mem_append.mp he with he | he
    · obtain ⟨call, hcall, hst⟩ := hs e he l hl
      obtain hset | ⟨rfl, hset⟩ := Calls.getElem?_set_some
        (b := { send with stage := effect.stage, carding := effect.carding }) hk hcall
      · exact ⟨call, hset, hst⟩
      · refine ⟨_, hset, ?_⟩
        rw [hover hst]
        exact hst
    · obtain ⟨event, -, rfl⟩ := List.mem_map.mp he
      cases hl
  · unfold Effect.roomed at he
    split at he
    · rename_i hto
      obtain ⟨socket, -, rfl⟩ := List.mem_map.mp he
      cases hl
      exact ⟨_, Calls.getElem?_set_own hk, hroom.resolve_left (by simp [hto])⟩
    · exact absurd he List.not_mem_nil

theorem silent_step (h : step chatbotName chatContextLength s a = some t) (hs : Silent s) : Silent t := by
  obtain ⟨hsends, told, he, hj⟩ | ⟨socket, dto, hsends, he⟩ | ⟨k, send, effect, hk, hp, hsend | ⟨-, _, cards, rfl⟩⟩ :=
    step_cases h
  · intro e hmem k hsrc
    rw [he] at hmem
    rw [hsends]
    rcases List.mem_append.mp hmem with hmem | hmem
    · exact hs e hmem k hsrc
    · obtain ⟨j, hjoin⟩ := hj e hmem
      cases hsrc.symm.trans hjoin
  · intro e hmem k hsrc
    obtain ⟨send, hk, hst⟩ := hs e (he ▸ hmem) k hsrc
    rw [hsends]
    exact ⟨send, Calls.snoc_of_some hk, hst⟩
  · refine silent_perform hs hk hp ?_ ?_
    · intro hover
      rw [sendStep_over hover] at hsend
      cases hsend
    · obtain ⟨chat, botMessage, -, rfl⟩ | ⟨-, -, hto⟩ := sendStep_cases hsend
      · exact .inr (.inr ⟨botMessage, rfl⟩)
      · exact hto.imp_right .inl
  · exact silent_perform hs hk hp (fun _ => rfl) (.inl rfl)

theorem Path.silent (h : (machine chatbotName chatContextLength).Reach Free s) : Silent s :=
  h.inv (fun _ he => absurd he List.not_mem_nil) fun _ _ _ hs _ hst => silent_step hst hs

theorem pick_members {rooms : List (Nat × Uuid)} (hn : rooms.Nodup) (room : Uuid) (k socket : Nat)
    (event : ChatSocketEvent) :
    pick (inRoom k socket) (((rooms.filter (·.2 = room)).map (·.1)).map fun member => ⟨member, .room k, event⟩) =
      if (socket, room) ∈ rooms then [event] else [] := by
  induction rooms with
  | nil => rfl
  | cons place rooms ih =>
    obtain ⟨hnew, hn⟩ := List.nodup_cons.mp hn
    specialize ih hn
    by_cases hp : place = (socket, room)
    · subst hp
      rw [if_neg hnew] at ih
      rw [List.filter_cons_of_pos (by simp), List.map_cons, List.map_cons, if_pos List.mem_cons_self,
        ← List.singleton_append, pick_append, ih, pick_all (by simp [inRoom])]
      rfl
    · have hmem : (socket, room) ∈ place :: rooms ↔ (socket, room) ∈ rooms := by
        rw [List.mem_cons, or_iff_right (Ne.symm hp)]
      rw [if_congr hmem rfl rfl, ← ih]
      by_cases hr : place.2 = room
      · have hs : place.1 ≠ socket := fun he => hp (Prod.ext he hr)
        rw [List.filter_cons_of_pos (by simpa using hr), List.map_cons, List.map_cons, ← List.singleton_append,
          pick_append, pick_nil_of (by simp [inRoom, hs]), List.nil_append]
      · rw [List.filter_cons_of_neg (by simpa using hr)]

/-- A send that has returned tells the room nothing more. -/
theorem room_step {socket : Nat} {botMessage : Message} (h : step chatbotName chatContextLength s a = some t)
    (hk : s.sends[k]? = some send) (hst : send.stage = .returned botMessage) :
    (∃ send', t.sends[k]? = some send' ∧ send'.stage = .returned botMessage) ∧
      pick (inRoom k socket) t.sent = pick (inRoom k socket) s.sent := by
  obtain ⟨hsends, told, he, hj⟩ | ⟨_, dto, hsends, he⟩ | ⟨l, call, effect, hl, hp, hstep⟩ := step_cases h
  · have htold : pick (inRoom k socket) told = [] := by
      refine pick_nil_of ?_
      intro e hmem
      obtain ⟨j, hjoin⟩ := hj e hmem
      simp [inRoom, hjoin]
    rw [he, pick_append, htold, List.append_nil]
    exact ⟨⟨send, hsends ▸ hk, hst⟩, rfl⟩
  · rw [hsends, he]
    exact ⟨⟨send, Calls.snoc_of_some hk, hst⟩, rfl⟩
  · have hself : pick (inRoom k socket) (effect.events.map (toSocket l call)) = [] := by
      refine pick_nil_of ?_
      intro e he
      obtain ⟨event, -, rfl⟩ := List.mem_map.mp he
      simp [inRoom, toSocket]
    have hroomed : effect.toRoom = none ∨ l ≠ k := by
      by_cases hlk : l = k
      · subst hlk
        cases hk.symm.trans hl
        obtain hsend | ⟨-, _, cards, rfl⟩ := hstep
        · rw [sendStep_over (.inr ⟨botMessage, hst⟩)] at hsend
          cases hsend
        · exact .inl rfl
      · exact .inr hlk
    have hroom : pick (inRoom k socket) (effect.roomed s l) = [] := by
      refine pick_nil_of ?_
      unfold Effect.roomed
      intro e he
      split at he
      · rename_i hto
        obtain ⟨member, -, rfl⟩ := List.mem_map.mp he
        have hlk : l ≠ k := hroomed.resolve_left (by simp [hto])
        simp [inRoom, hlk]
      · exact absurd he List.not_mem_nil
    rw [perform_eq hp]
    refine ⟨?_, by rw [pick_append, pick_append, hself, hroom, List.append_nil, List.append_nil]⟩
    obtain hset | ⟨rfl, hset⟩ := Calls.getElem?_set_some
      (b := { call with stage := effect.stage, carding := effect.carding }) hl hk
    · exact ⟨send, hset, hst⟩
    · refine ⟨_, hset, ?_⟩
      obtain hsend | ⟨-, _, cards, rfl⟩ := hstep
      · rw [sendStep_over (.inr ⟨botMessage, hst⟩)] at hsend
        cases hsend
      · exact hst

/-- A stored answer goes once to each socket that is in the room of the chat just then, and to no
other at any time; and only who has named the sender as the user of a join is in this room. -/
theorem answer_delivered {chat : ChatRow} {botMessage : Message}
    (hr : (machine chatbotName chatContextLength).Reach Free s) (hk : s.sends[k]? = some send)
    (hst : send.stage = .savingBot chat botMessage)
    (hstep : step chatbotName chatContextLength s (.botSaved k none) = some t)
    (hp : (machine chatbotName chatContextLength).Path Free t u) (socket : Nat) :
    pick (inRoom k socket) u.sent = (if (socket, chat.roomId) ∈ s.rooms then [.newSystemMessage botMessage] else []) ∧
      ((socket, chat.roomId) ∈ s.rooms → ∃ call ∈ s.joins, call.socket = socket ∧ call.userId = send.dto.senderId) := by
  obtain ⟨owner, ho⟩ := Path.owned hr
  constructor
  · have hperform : perform s k send (answered send.dto chat botMessage) = some t := by
      simpa [step, hk, hst, sendStep] using hstep
    have ht : t.sends[k]? = some { send with stage := .returned botMessage, carding := botMessage.content ≠ "" } := by
      rw [perform_eq hperform]
      exact Calls.getElem?_set_own hk
    have hbefore : pick (inRoom k socket) s.sent = [] := by
      refine pick_nil_of ?_
      intro e he
      by_contra hin
      obtain ⟨hsrc, -⟩ := of_decide_eq_true (Bool.not_eq_false _ ▸ hin)
      obtain ⟨call, hcall, hover⟩ := Path.silent hr e he k hsrc
      cases hk.symm.trans hcall
      rw [hst] at hover
      obtain hf | ⟨_, hf⟩ := hover <;> cases hf
    have hown : pick (inRoom k socket) (((answered send.dto chat botMessage).events).map (toSocket k send)) = [] :=
      pick_nil_of (by simp [answered, streamEnd, inRoom, toSocket])
    have hnow : pick (inRoom k socket) t.sent =
        if (socket, chat.roomId) ∈ s.rooms then [.newSystemMessage botMessage] else [] := by
      rw [perform_eq hperform, pick_append, pick_append, hbefore, hown, List.nil_append, List.nil_append]
      exact pick_members ho.nodup ..
    have hlater : (∃ send', u.sends[k]? = some send' ∧ send'.stage = .returned botMessage) ∧
        pick (inRoom k socket) u.sent = pick (inRoom k socket) t.sent := by
      refine hp.keep (I := fun v => (∃ send', v.sends[k]? = some send' ∧ send'.stage = .returned botMessage) ∧
        pick (inRoom k socket) v.sent = pick (inRoom k socket) t.sent) ?_ ⟨⟨_, ht, rfl⟩, rfl⟩
      rintro v a w ⟨⟨send', hv, hret⟩, hsame⟩ - hvw
      obtain ⟨hw, he⟩ := room_step hvw hv hret
      exact ⟨hw, he.trans hsame⟩
    exact hlater.2.trans hnow
  · intro hin
    obtain ⟨-, call, hcall, hsocket, huser⟩ := ho.rooms socket chat.roomId hin
    obtain ⟨-, hsender⟩ := ho.sends send (List.mem_of_getElem? hk) chat (by rw [hst]; rfl)
    exact ⟨call, hcall, hsocket, huser.trans hsender⟩

/-- One socket of the owner is in the room, the sending one is not. -/
def twoSockets : List Action :=
  oneAnswer.take 2 ++ [.joinActiveChatRooms 4 1, .userFound 0 none, .chatsFound 0 none, .roomJoined 0] ++
    (oneAnswer.drop 2).dropLast

theorem answer_delivered_twoSockets : ∃ s t botMessage, (machine "Bot" 10).run init twoSockets = some s ∧
    step "Bot" 10 s (.botSaved 0 none) = some t ∧ pick (inRoom 0 4) t.sent = [.newSystemMessage botMessage] ∧
      pick (inRoom 0 5) t.sent = [] := by
  obtain ⟨s, t, send, chat, botMessage, hs, hk, hst, hstep, h4, h5⟩ : ∃ s t send chat botMessage,
      (machine "Bot" 10).run init twoSockets = some s ∧ s.sends[0]? = some send ∧
      send.stage = .savingBot chat botMessage ∧ step "Bot" 10 s (.botSaved 0 none) = some t ∧
      (4, chat.roomId) ∈ s.rooms ∧ (5, chat.roomId) ∉ s.rooms := by
    refine ⟨_, _, _, _, _, rfl, rfl, rfl, rfl, ?_, ?_⟩ <;> decide
  have hd := answer_delivered (Machine.path_of_run hs) hk hst hstep .refl
  refine ⟨s, t, botMessage, hs, hstep, ?_, ?_⟩
  · rw [(hd 4).1, if_pos h4]
  · rw [(hd 5).1, if_neg h5]

end IntellApi.ChatGateway
