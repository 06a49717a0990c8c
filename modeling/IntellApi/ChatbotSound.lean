import IntellApi.Calls
import IntellApi.Chatbot

/-!
# Whose message is answered

The history is read by chat, so its last message is the newest of all sends of
the chat. It is the send's own as long as nothing newer is stored between the
two statements (`Undisturbed`), and any other row that is stored in between can
be the one the agent is asked to answer.
-/

namespace IntellApi.Chatbot

open Lts

variable {chats : Uuid → Option Chat} {chatContextLength : Nat} {clock : Int} {history : List Message}
  {s s' : State} {a : Action}

/-! ## History -/

def Older (a b : Message) : Prop := a.createdAt < b.createdAt ∨ a.createdAt = b.createdAt ∧ a.id < b.id

instance (a b : Message) : Decidable (Older a b) := inferInstanceAs (Decidable (_ ∨ _))

/-- Every other message of the chat is older. -/
def Latest (messages : List Message) (own : Message) : Prop :=
  ∀ m ∈ messages, m.chatId = own.chatId → m ≠ own → Older m own

instance (messages : List Message) (own : Message) : Decidable (Latest messages own) :=
  inferInstanceAs (Decidable (∀ m ∈ messages, m.chatId = own.chatId → m ≠ own → Older m own))

section
variable {a b c own : Message} {messages : List Message} {chatId : Uuid} {count : Nat}

theorem older_iff : Older a b ↔ ¬ newestFirst a b := by
  unfold Older newestFirst Uuid
  omega

instance : Std.Total newestFirst := ⟨fun a b => by unfold newestFirst Uuid; omega⟩

instance : IsTrans Message newestFirst := ⟨fun a b c hab hbc => by unfold newestFirst Uuid at *; omega⟩

theorem id_eq_of_newestFirst (hab : newestFirst a b) (hba : newestFirst b a) : a.id = b.id := by
  unfold newestFirst Uuid at *
  omega

theorem Latest.cons (h : Latest messages own) (hm : a.chatId = own.chatId → Older a own) :
    Latest (a :: messages) own := by
  intro m hmem hchat hne
  rcases List.mem_cons.mp hmem with rfl | hmem
  · exact hm hchat
  · exact h m hmem hchat hne

theorem mem_history : a ∈ messages.filter (·.chatId = chatId) ↔ a ∈ messages ∧ a.chatId = chatId := by
  simp

theorem getLast?_history (hn : 0 < count) (ho : own ∈ messages) (h : Latest messages own) :
    (getMessagesWithCount messages own.chatId count).getLast? = some own := by
  refine Sql.getLast?_lastRows_eq hn (mem_history.mpr ⟨ho, rfl⟩) fun m hm hne => ?_
  obtain ⟨hm, hchat⟩ := mem_history.mp hm
  exact older_iff.mp (h m hm hchat hne)

theorem getLast?_history_ne (hn : 0 < count) (ha : a ∈ messages) (hchat : a.chatId = own.chatId)
    (hid : a.id ≠ own.id)
    (h : ¬ Older a own) : (getMessagesWithCount messages own.chatId count).getLast? ≠ some own := by
  intro hlast
  have hr : newestFirst a own := not_not.mp fun hr => h (older_iff.mpr hr)
  rcases Sql.rel_of_getLast?_lastRows hn hlast (mem_history.mpr ⟨ha, hchat⟩) with he | hr'
  · exact hid (congrArg Message.id he)
  · exact hid (id_eq_of_newestFirst hr hr')

end

/-! ## Condition -/

/-- The message of a send that has stored it and not read the history yet. -/
def Stage.stored : Stage → Option Message
  | .gettingLanguage message | .loadingHistory message _ => some message
  | .saving _ | .invoking _ _ | .savingBot _ | .returned _ | .threw _ => none

/-- The message a send is about to store. -/
def Stage.storing : Stage → Option Message
  | .saving message | .savingBot message => some message
  | .gettingLanguage _ | .loadingHistory _ _ | .invoking _ _ | .returned _ | .threw _ => none

/-- No send of the chat has stored an older message and not read the history yet. -/
def Spares (s : State) (message : Message) : Prop :=
  ∀ send ∈ s.sends, ∀ own ∈ send.stage.stored, message.chatId = own.chatId → Older message own

def Undisturbed (s : State) : Action → Prop
  | .saved k true =>
    ∀ send ∈ s.sends[k]?, ∀ message ∈ send.stage.storing, Latest s.messages message ∧ Spares s message
  | .botSaved k true => ∀ send ∈ s.sends[k]?, ∀ message ∈ send.stage.storing, Spares s message
  | _ => True

instance (s : State) (message : Message) : Decidable (Spares s message) :=
  inferInstanceAs
    (Decidable (∀ send ∈ s.sends, ∀ own ∈ send.stage.stored, message.chatId = own.chatId → Older message own))

instance (s : State) : (a : Action) → Decidable (Undisturbed s a)
  | .saved k true => inferInstanceAs (Decidable (∀ send ∈ s.sends[k]?, ∀ message ∈ send.stage.storing,
      Latest s.messages message ∧ Spares s message))
  | .botSaved k true =>
    inferInstanceAs (Decidable (∀ send ∈ s.sends[k]?, ∀ message ∈ send.stage.storing, Spares s message))
  | .saved _ false | .botSaved _ false | .tick _ | .sendMessage _ _ _ _ | .gotLanguage _ _ | .loaded _ _
  | .answered _ _ _ => instDecidableTrue

/-! ## What a step does -/

/-- A stage with no history to read or to answer. -/
def Stage.Settled : Stage → Prop
  | .savingBot _ | .returned _ | .threw _ => True
  | .saving _ | .gettingLanguage _ | .loadingHistory _ _ | .invoking _ _ => False

section
variable (chats chatContextLength)

inductive Change (s : State) : Action → State → Prop
  | tick (us : Nat) : Change s (.tick us) { s with clock := s.clock + us }
  | sent (streaming : Bool) (dto : ChatMessageDto) (id : Uuid) (ok : Bool) : Change s (.sendMessage streaming dto id ok)
    { s with sends := s.sends ++ [⟨streaming, dto, if ok then findChat chats s.clock dto id else .threw "select"⟩] }
  | saved (k : Nat) (send : Send) (own : Message) (t : State) : s.sends[k]? = some send → send.stage = .saving own →
    s.store own = some t → Change s (.saved k true) (t.setSend k { send with stage := .gettingLanguage own })
  | gotLanguage (k : Nat) (language : Option String) (send : Send) (own : Message) : s.sends[k]? = some send →
    send.stage = .gettingLanguage own → Change s (.gotLanguage k language)
      (s.setSend k { send with stage := .loadingHistory own (language.filter (· ≠ "")) })
  | loaded (k : Nat) (send : Send) (own : Message) (preferredLanguage : Option String) (invocation : Invocation) :
    s.sends[k]? = some send → send.stage = .loadingHistory own preferredLanguage →
    invocation.messages = getMessagesWithCount s.messages send.dto.chatId chatContextLength →
    Change s (.loaded k true) (s.setSend k { send with stage := .invoking own invocation })
  | botSaved (k : Nat) (send : Send) (botMessage : Message) (t : State) (stage : Stage) : s.sends[k]? = some send →
    send.stage = .savingBot botMessage → s.store botMessage = some t → stage.Settled →
    Change s (.botSaved k true) (t.setSend k { send with stage := stage })
  | settled (a : Action) (k : Nat) (send : Send) (stage : Stage) : s.sends[k]? = some send → stage.Settled →
    Change s a (s.setSend k { send with stage := stage })

end

theorem change_of_step (h : step chats chatContextLength s a = some s') : Change chats chatContextLength s a s' := by
  cases a with
  | tick us =>
    cases h
    exact .tick us
  | sendMessage streaming dto id ok =>
    cases h
    exact .sent streaming dto id ok
  | saved k ok =>
    simp only [step] at h
    split at h
    · rename_i streaming dto own hk
      cases ok with
      | true =>
        obtain ⟨t, ht, rfl⟩ := Option.map_eq_some_iff.mp h
        exact .saved k _ own t hk rfl ht
      | false =>
        cases h
        exact .settled _ k _ (.threw "insert") hk trivial
    · cases h
  | gotLanguage k language =>
    simp only [step] at h
    split at h <;> cases h
    rename_i streaming dto own hk
    exact .gotLanguage k language _ own hk rfl
  | loaded k ok =>
    simp only [step] at h
    split at h
    · rename_i streaming dto own preferredLanguage hk
      cases ok with
      | true =>
        cases h
        exact .loaded k _ own preferredLanguage _ hk rfl rfl
      | false =>
        cases h
        exact .settled _ k _ (.threw "select") hk trivial
    · cases h
  | answered k reply id =>
    simp only [step] at h
    split at h
    · rename_i streaming dto own invocation hk
      split at h <;> cases h
      · rename_i content hc
        exact .settled _ k _ (.savingBot ⟨id, dto.chatId, s.clock, content, .system⟩) hk trivial
      · exact .settled _ k _ (.threw "agent") hk trivial
    · cases h
  | botSaved k ok =>
    simp only [step] at h
    split at h
    · rename_i streaming dto botMessage hk
      cases ok with
      | true =>
        obtain ⟨t, ht, rfl⟩ := Option.map_eq_some_iff.mp h
        exact .botSaved k _ botMessage t _ hk rfl ht trivial
      | false =>
        cases h
        exact .settled _ k _ (.threw "insert") hk trivial
    · cases h

theorem store_eq {message : Message} (h : s.store message = some s') :
    (∀ m ∈ s.messages, m.id ≠ message.id) ∧ s' = { s with messages := message :: s.messages } := by
  unfold State.store at h
  split at h <;> cases h
  rename_i hany
  exact ⟨by simpa using hany, rfl⟩

/-! ## Runs -/

/-- What a send has stored is there, in its chat. -/
def Send.Sound (messages : List Message) (send : Send) : Prop :=
  match send.stage with
  | .saving own => own.chatId = send.dto.chatId
  | .gettingLanguage own | .loadingHistory own _ => own.chatId = send.dto.chatId ∧ own ∈ messages
  | .invoking _ _ | .savingBot _ | .returned _ | .threw _ => True

/-- What a send has stored is the latest of its chat, until the agent is asked to answer it. -/
def Send.Own (messages : List Message) (send : Send) : Prop :=
  match send.stage with
  | .gettingLanguage own | .loadingHistory own _ => Latest messages own
  | .invoking own invocation => invocation.messages.getLast? = some own
  | .saving _ | .savingBot _ | .returned _ | .threw _ => True

def AllSound (s : State) : Prop := ∀ send ∈ s.sends, send.Sound s.messages

def AllOwn (s : State) : Prop := ∀ send ∈ s.sends, send.Own s.messages

theorem forall_mem_setSend {P : Send → Prop} {k : Nat} {send : Send} (h : ∀ x ∈ s.sends, P x) (hs : P send) :
    ∀ x ∈ (s.setSend k send).sends, P x := by
  intro x hx
  rcases List.mem_or_eq_of_mem_set hx with hx | rfl
  · exact h x hx
  · exact hs

theorem forall_mem_snoc {P : Send → Prop} {send : Send} (h : ∀ x ∈ s.sends, P x) (hs : P send) :
    ∀ x ∈ s.sends ++ [send], P x := by
  intro x hx
  rcases List.mem_append.mp hx with hx | hx
  · exact h x hx
  · rw [List.mem_singleton.mp hx]
    exact hs

section
variable {messages : List Message} {send : Send} {stage : Stage} {message : Message}

theorem sound_of_settled (h : stage.Settled) : Send.Sound messages { send with stage := stage } := by
  cases stage with
  | saving | gettingLanguage | loadingHistory | invoking => cases h
  | savingBot | returned | threw => trivial

theorem own_of_settled (h : stage.Settled) : Send.Own messages { send with stage := stage } := by
  cases stage with
  | saving | gettingLanguage | loadingHistory | invoking => cases h
  | savingBot | returned | threw => trivial

theorem Send.Sound.cons (h : send.Sound messages) : send.Sound (message :: messages) := by
  unfold Send.Sound at h ⊢
  cases hst : send.stage with
  | gettingLanguage own | loadingHistory own preferredLanguage =>
    rw [hst] at h
    exact ⟨h.1, List.mem_cons_of_mem message h.2⟩
  | saving own =>
    rw [hst] at h
    exact h
  | invoking | savingBot | returned | threw => trivial

theorem Send.Own.cons (h : send.Own messages)
    (hm : ∀ own ∈ send.stage.stored, message.chatId = own.chatId → Older message own) :
    send.Own (message :: messages) := by
  unfold Send.Own at h ⊢
  cases hst : send.stage with
  | gettingLanguage own | loadingHistory own preferredLanguage =>
    rw [hst] at h hm
    exact Latest.cons h (hm own rfl)
  | invoking own invocation =>
    rw [hst] at h
    exact h
  | saving | savingBot | returned | threw => trivial

theorem stage_sent (dto : ChatMessageDto) (id : Uuid) (ok : Bool) :
    let stage := if ok then findChat chats clock dto id else .threw "select"
    stage.Settled ∨ ∃ own, stage = .saving own ∧ own.chatId = dto.chatId := by
  cases ok with
  | false => exact .inl trivial
  | true =>
    simp only [if_true, findChat]
    split
    · exact .inl trivial
    · split
      · exact .inl trivial
      · exact .inr ⟨_, rfl, rfl⟩

end

theorem allSound_step (h : AllSound s) (hs : Change chats chatContextLength s a s') : AllSound s' := by
  cases hs with
  | tick us => exact h
  | sent streaming dto id ok =>
    refine forall_mem_snoc h ?_
    rcases @stage_sent chats s.clock dto id ok with hst | ⟨own, hst, hchat⟩
    · exact @sound_of_settled _ ⟨streaming, dto, .returned none⟩ _ hst
    · rw [hst]
      exact hchat
  | saved k send own t hk hst ht =>
    have hsend := h send (List.mem_of_getElem? hk)
    rw [Send.Sound, hst] at hsend
    obtain ⟨-, rfl⟩ := store_eq ht
    exact forall_mem_setSend (fun x hx => (h x hx).cons) ⟨hsend, List.mem_cons_self⟩
  | gotLanguage k language send own hk hst =>
    have hsend := h send (List.mem_of_getElem? hk)
    rw [Send.Sound, hst] at hsend
    exact forall_mem_setSend h hsend
  | loaded k send own preferredLanguage invocation hk hst hi => exact forall_mem_setSend h trivial
  | botSaved k send botMessage t stage hk hst ht hsettled =>
    obtain ⟨-, rfl⟩ := store_eq ht
    exact forall_mem_setSend (fun x hx => (h x hx).cons) (sound_of_settled hsettled)
  | settled _ k send stage hk hsettled => exact forall_mem_setSend h (sound_of_settled hsettled)

theorem allOwn_step (hn : 0 < chatContextLength) (hw : AllSound s) (h : AllOwn s) (ho : Undisturbed s a)
    (hs : Change chats chatContextLength s a s') : AllOwn s' := by
  cases hs with
  | tick us => exact h
  | sent streaming dto id ok =>
    refine forall_mem_snoc h ?_
    rcases @stage_sent chats s.clock dto id ok with hst | ⟨own, hst, hchat⟩
    · exact @own_of_settled _ ⟨streaming, dto, .returned none⟩ _ hst
    · rw [hst]
      trivial
  | saved k send own t hk hst ht =>
    obtain ⟨hlatest, hspares⟩ := ho send hk own (by rw [hst]; rfl)
    obtain ⟨-, rfl⟩ := store_eq ht
    refine forall_mem_setSend (fun x hx => (h x hx).cons (hspares x hx)) ?_
    intro m hm hchat hne
    exact hlatest m ((List.mem_cons.mp hm).resolve_left hne) hchat hne
  | gotLanguage k language send own hk hst =>
    have hsend := h send (List.mem_of_getElem? hk)
    rw [Send.Own, hst] at hsend
    exact forall_mem_setSend h hsend
  | loaded k send own preferredLanguage invocation hk hst hi =>
    have hsend := h send (List.mem_of_getElem? hk)
    have hmem := hw send (List.mem_of_getElem? hk)
    rw [Send.Own, hst] at hsend
    rw [Send.Sound, hst] at hmem
    refine forall_mem_setSend h ?_
    show invocation.messages.getLast? = some own
    rw [hi, ← hmem.1]
    exact getLast?_history hn hmem.2 hsend
  | botSaved k send botMessage t stage hk hst ht hsettled =>
    have hspares := ho send hk botMessage (by rw [hst]; rfl)
    obtain ⟨-, rfl⟩ := store_eq ht
    exact forall_mem_setSend (fun x hx => (h x hx).cons (hspares x hx)) (own_of_settled hsettled)
  | settled _ k send stage hk hsettled => exact forall_mem_setSend h (own_of_settled hsettled)

/-- As long as nothing newer is stored before a send has read the history, it
asks the agent to answer the message it has stored. -/
theorem invoked_with_own (hn : 0 < chatContextLength)
    (h : (machine chats chatContextLength clock history).Reach Undisturbed s) {send : Send} (hk : send ∈ s.sends)
    {own : Message} {invocation : Invocation} (hi : send.stage = .invoking own invocation) :
    invocation.messages.getLast? = some own := by
  have hs : AllSound s ∧ AllOwn s := by
    refine h.inv (I := fun s => AllSound s ∧ AllOwn s) ⟨fun _ hx => (by cases hx), fun _ hx => (by cases hx)⟩ ?_
    intro s a t hi ho hs
    have hc := change_of_step hs
    exact ⟨allSound_step hi.1 hc, allOwn_step hn hi.1 hi.2 ho hc⟩
  have hsend := hs.2 send hk
  rw [Send.Own, hi] at hsend
  exact hsend

def chatOf (chatId : Uuid) : Option Chat := if chatId = 7 then some ⟨3, 1⟩ else none

def ask (textContent : String) (id : Uuid) : Action := .sendMessage true ⟨7, 1, textContent⟩ id true

/-- The second message is stored before the first send has read the history. -/
theorem answers_second_message : ¬ ∀ chats chatContextLength clock history s send own invocation,
    0 < chatContextLength →
    (machine chats chatContextLength clock history).Reach Free s → send ∈ s.sends →
    send.stage = .invoking own invocation → invocation.messages.getLast? = some own := by
  intro h
  have h0 : ((machine chatOf 10 0 []).run ⟨0, [], []⟩
      [ask "Is the battery full?" 0, .saved 0 true, .tick 5, ask "And the load?" 1, .saved 1 true,
        .gotLanguage 0 none, .loaded 0 true]).map (fun s => s.sends[0]?.map (·.stage)) =
      some (some (.invoking ⟨0, 7, 0, "Is the battery full?", .user 1⟩
        ⟨[⟨0, 7, 0, "Is the battery full?", .user 1⟩, ⟨1, 7, 5, "And the load?", .user 1⟩], 1, none, 7⟩)) := by
    decide +kernel
  obtain ⟨s, hs, h0⟩ := Option.map_eq_some_iff.mp h0
  obtain ⟨send, hk, hst⟩ := Option.map_eq_some_iff.mp h0
  have hn := h chatOf 10 0 [] s send _ _ (by decide) (Machine.path_of_run hs) (List.mem_of_getElem? hk) hst
  simp at hn

theorem invoked_with_own_second : ∃ s send invocation, ((machine chatOf 10 0 []).only Undisturbed).run ⟨0, [], []⟩
      [ask "Is the battery full?" 0, .saved 0 true, .gotLanguage 0 none, .loaded 0 true, .tick 5,
        ask "And the load?" 1, .saved 1 true, .answered 0 (some "Yes.") 2, .gotLanguage 1 none, .loaded 1 true,
        .botSaved 0 true] = some s ∧ send ∈ s.sends ∧
    send.stage = .invoking ⟨1, 7, 5, "And the load?", .user 1⟩ invocation ∧
    invocation.messages.getLast? = some ⟨1, 7, 5, "And the load?", .user 1⟩ := by
  have h0 : (((machine chatOf 10 0 []).only Undisturbed).run ⟨0, [], []⟩
      [ask "Is the battery full?" 0, .saved 0 true, .gotLanguage 0 none, .loaded 0 true, .tick 5,
        ask "And the load?" 1, .saved 1 true, .answered 0 (some "Yes.") 2, .gotLanguage 1 none, .loaded 1 true,
        .botSaved 0 true]).map (fun s => s.sends[1]?.map (·.stage)) =
      some (some (.invoking ⟨1, 7, 5, "And the load?", .user 1⟩
        ⟨[⟨0, 7, 0, "Is the battery full?", .user 1⟩, ⟨1, 7, 5, "And the load?", .user 1⟩], 1, none, 7⟩)) := by
    decide +kernel
  obtain ⟨s, hs, h0⟩ := Option.map_eq_some_iff.mp h0
  obtain ⟨send, hk, hst⟩ := Option.map_eq_some_iff.mp h0
  exact ⟨s, send, _, hs, List.mem_of_getElem? hk, hst,
    invoked_with_own (by decide) (Machine.path_of_run_only hs) (List.mem_of_getElem? hk) hst⟩

/-! ## Disturbed sends -/

section
variable {k : Nat} {send : Send} {own m : Message}

/-- A send whose message is not the latest of its chat. -/
def Overtaken (s : State) : Prop :=
  ∃ (k : Nat) (send : Send) (own m : Message),
    s.sends[k]? = some send ∧ send.stage.stored = some own ∧ own.chatId = send.dto.chatId ∧
    m ∈ s.messages ∧ m.chatId = own.chatId ∧ m.id ≠ own.id ∧ ¬ Older m own

/-- The agent is asked to answer another message. -/
def AnswersOther (s : State) : Prop :=
  ∃ send ∈ s.sends, ∃ own invocation,
    send.stage = .invoking own invocation ∧ invocation.messages.getLast? ≠ some own

theorem mem_setSend (hk : s.sends[k]? = some send) (x : Send) : (s.setSend k x).sends[k]? = some x :=
  Calls.getElem?_set_own hk

theorem overtaken_of_not_spares (hw : AllSound s) (hk : s.sends[k]? = some send) (hst : send.stage.stored = none)
    (ho : ¬ Spares s m) (ht : s.store m = some s') (x : Send) : Overtaken (s'.setSend k x) := by
  obtain ⟨late, hlate⟩ := not_forall.mp ho
  obtain ⟨hmem, hlate⟩ := Classical.not_imp.mp hlate
  obtain ⟨own, hown⟩ := not_forall.mp hlate
  obtain ⟨hown, hold⟩ := Classical.not_imp.mp hown
  obtain ⟨hchat, hold⟩ := Classical.not_imp.mp hold
  obtain ⟨hid, rfl⟩ := store_eq ht
  obtain ⟨j, hj⟩ := List.mem_iff_getElem?.mp hmem
  have hne : j ≠ k := by
    rintro rfl
    rw [hk] at hj
    cases hj
    rw [hst] at hown
    cases hown
  have hsound : own.chatId = late.dto.chatId ∧ own ∈ s.messages := by
    have hl := hw late hmem
    unfold Send.Sound at hl
    cases hls : late.stage with
    | gettingLanguage own' | loadingHistory own' preferredLanguage =>
      rw [hls] at hl hown
      cases hown
      exact hl
    | saving | invoking | savingBot | returned | threw =>
      rw [hls] at hown
      cases hown
  refine ⟨j, late, own, m, ?_, hown, hsound.1, List.mem_cons_self, hchat, fun he => hid own hsound.2 he.symm, hold⟩
  exact (List.getElem?_set_ne (Ne.symm hne)).trans hj

theorem overtaken_of_disturbed (hw : AllSound s) (ho : ¬ Undisturbed s a)
    (hs : step chats chatContextLength s a = some s') :
    Overtaken s' := by
  unfold Undisturbed at ho
  split at ho
  · rename_i k
    simp only [step] at hs
    split at hs
    · rename_i streaming dto own hk
      obtain ⟨t, ht, rfl⟩ := Option.map_eq_some_iff.mp hs
      simp only [hk, Option.mem_def, Option.some.injEq, forall_eq', Stage.storing] at ho
      by_cases hsp : Spares s own
      · obtain ⟨m, hm⟩ := not_forall.mp fun hl => ho ⟨hl, hsp⟩
        obtain ⟨hm, hold⟩ := Classical.not_imp.mp hm
        obtain ⟨hchat, hold⟩ := Classical.not_imp.mp hold
        have hdto := hw _ (List.mem_of_getElem? hk)
        obtain ⟨hid, rfl⟩ := store_eq ht
        refine ⟨k, _, own, m, mem_setSend hk _, rfl, hdto, List.mem_cons_of_mem own hm, hchat, hid m hm, ?_⟩
        exact fun hold' => hold fun _ => hold'
      · exact overtaken_of_not_spares hw hk rfl hsp ht _
    · cases hs
  · rename_i k
    simp only [step] at hs
    split at hs
    · rename_i streaming dto botMessage hk
      obtain ⟨t, ht, rfl⟩ := Option.map_eq_some_iff.mp hs
      simp only [hk, Option.mem_def, Option.some.injEq, forall_eq', Stage.storing] at ho
      exact overtaken_of_not_spares hw hk rfl ho ht _
    · cases hs
  · exact absurd trivial ho

theorem answersOther_of_loading (chats : Uuid → Option Chat) {streaming : Bool} {dto : ChatMessageDto}
    {preferredLanguage : Option String}
    (hn : 0 < chatContextLength) (hk : s.sends[k]? = some ⟨streaming, dto, .loadingHistory own preferredLanguage⟩)
    (hdto : own.chatId = dto.chatId) (hm : m ∈ s.messages) (hchat : m.chatId = own.chatId) (hid : m.id ≠ own.id)
    (ho : ¬ Older m own) :
    ∃ t, step chats chatContextLength s (.loaded k true) = some t ∧ AnswersOther t := by
  let invocation : Invocation :=
    ⟨getMessagesWithCount s.messages dto.chatId chatContextLength, dto.senderId, preferredLanguage, dto.chatId⟩
  have hs : step chats chatContextLength s (.loaded k true) =
      some (s.setSend k ⟨streaming, dto, .invoking own invocation⟩) := by
    simp only [step, hk]
    rfl
  refine ⟨_, hs, _, List.mem_of_getElem? (mem_setSend hk _), own, invocation, rfl, ?_⟩
  show (getMessagesWithCount s.messages dto.chatId chatContextLength).getLast? ≠ some own
  rw [← hdto]
  exact getLast?_history_ne hn hm hchat hid ho

/-- After any other step some send can go on to ask for an answer to another message. -/
theorem answersOther_of_disturbed (hn : 0 < chatContextLength) (hw : AllSound s) (ho : ¬ Undisturbed s a)
    (hs : step chats chatContextLength s a = some s') :
    ∃ t, (machine chats chatContextLength clock history).Path Free s' t ∧ AnswersOther t := by
  obtain ⟨k, ⟨streaming, dto, stage⟩, own, m, hk, hst, hdto, hm, hchat, hid, hold⟩ :=
    overtaken_of_disturbed hw ho hs
  cases stage with
  | saving | invoking | savingBot | returned | threw => cases hst
  | loadingHistory own' preferredLanguage =>
    cases hst
    obtain ⟨t, ht, hother⟩ := answersOther_of_loading chats hn hk hdto hm hchat hid hold
    exact ⟨t, .cons (a := .loaded k true) trivial ht .refl, hother⟩
  | gettingLanguage own' =>
    cases hst
    have hgot : step chats chatContextLength s' (.gotLanguage k none) =
        some (s'.setSend k ⟨streaming, dto, .loadingHistory own none⟩) := by
      simp only [step, hk]
      rfl
    obtain ⟨t, ht, hother⟩ := answersOther_of_loading chats hn
      (mem_setSend hk ⟨streaming, dto, .loadingHistory own none⟩) hdto hm hchat hid hold
    have hpath : (machine chats chatContextLength clock history).Path Free
        (s'.setSend k ⟨streaming, dto, .loadingHistory own none⟩) t := .cons (a := .loaded k true) trivial ht .refl
    exact ⟨t, .cons (a := .gotLanguage k none) trivial hgot hpath, hother⟩

end

end IntellApi.Chatbot
