import IntellApi.AlertDispatch

/-!
# The fallback chain as a whole

`deliverWithFallback` run to its end over any list of channel names, unknown and
repeated ones included. Its status is read off the last error message, so a
chain whose last channel fails with an empty message is not a failed one.
-/

namespace IntellApi.FallbackService

open AlertDispatch (ChannelSettings DeliveryStatus)

/-! ## The function -/

/-- What `channelServices[channel]` is. A send answers with the message of an
error, if there is one; it may answer differently at each position of the list. -/
inductive Service
  | undefined
  | withoutSend
  | sending (answers : Nat → Option String)

def Service.send : Service → Nat → Option String
  | .undefined, _ => some "Cannot read properties of undefined (reading 'send')"
  | .withoutSend, _ => some "service.send is not a function"
  | .sending answers, position => answers position

structure DeliveryResult where
  status : DeliveryStatus
  channelUsed : Option String
  audit : List String
  deriving DecidableEq, Repr

def skipped (settings : ChannelSettings) (channel : String) : Bool :=
  (channel = "whatsapp" && !settings.whatsappAlerts) || (channel = "email" && !settings.emailAlerts) ||
    (channel = "sms" && !settings.smsNotification)

section
variable (channelServices : String → Service) (settings : ChannelSettings)

/-- The loop from a position on, with the positions it tries. -/
def deliverFrom (audit : List String) (lastError : Option String) : Nat → List String → DeliveryResult × List Nat
  | _, [] =>
    -- an empty message counts as no error
    (⟨if lastError.any (· ≠ "") then .failed else .partialSuccess, none, audit⟩, [])
  | position, channel :: channels =>
    if skipped settings channel then
      deliverFrom (audit ++ [channel ++ ": skipped (user disabled)"]) lastError (position + 1) channels
    else
      match (channelServices channel).send position with
      | none => (⟨.delivered, some channel, audit ++ [channel ++ ": delivered"]⟩, [position])
      | some error =>
        let rest := deliverFrom (audit ++ [channel ++ ": failed - " ++ error]) (some error) (position + 1) channels
        (rest.1, position :: rest.2)

def deliverWithFallback (channels : List String) : DeliveryResult × List Nat :=
  deliverFrom channelServices settings [] none 0 channels

/-! ## What it is for -/

/-- A list up to its first element with a property, that one included. -/
def upToFirst {α : Type*} (p : α → Bool) : List α → List α
  | [] => []
  | a :: as => if p a then [a] else a :: upToFirst p as

def enabled (x : String × Nat) : Bool := !skipped settings x.1

def error (x : String × Nat) : Option String := (channelServices x.1).send x.2

def succeeds (x : String × Nat) : Bool := (error channelServices x).isNone

def auditEntry (x : String × Nat) : String :=
  x.1 ++ if enabled settings x then
    match error channelServices x with
    | none => ": delivered"
    | some error => ": failed - " ++ error
  else ": skipped (user disabled)"

/-- Over the positions of a list: the enabled ones are tried in order up to the
first success, which decides the result; without one the delivery has failed
exactly if a channel was tried; every position that was come to has its entry. -/
structure Meets (positions : List (String × Nat)) (r : DeliveryResult × List Nat) : Prop where
  attempts : r.2 = (upToFirst (succeeds channelServices) (positions.filter (enabled settings))).map (·.2)
  delivered : ∀ x, (positions.filter (enabled settings)).find? (succeeds channelServices) = some x →
    r.1.status = .delivered ∧ r.1.channelUsed = some x.1
  failed : (positions.filter (enabled settings)).find? (succeeds channelServices) = none →
    r.1.channelUsed = none ∧ r.1.status ≠ .delivered ∧ (r.1.status = .failed ↔ r.2 ≠ [])
  audit : r.1.audit = (upToFirst (fun x => enabled settings x && succeeds channelServices x) positions).map
    (auditEntry channelServices settings)

end

/-! ## The loop -/

section
variable {channelServices : String → Service} {settings : ChannelSettings} {audit : List String}
  {lastError : Option String} {position : Nat} {channel : String} {channels : List String}

theorem deliverFrom_skipped (h : skipped settings channel = true) :
    deliverFrom channelServices settings audit lastError position (channel :: channels) =
      deliverFrom channelServices settings (audit ++ [auditEntry channelServices settings (channel, position)])
        lastError (position + 1) channels := by
  simp [deliverFrom, auditEntry, enabled, h]

theorem deliverFrom_delivered (h : skipped settings channel = false)
    (he : error channelServices (channel, position) = none) :
    deliverFrom channelServices settings audit lastError position (channel :: channels) =
      (⟨.delivered, some channel, audit ++ [auditEntry channelServices settings (channel, position)]⟩, [position]) := by
  simp only [error] at he
  simp [deliverFrom, auditEntry, enabled, error, h, he]

theorem deliverFrom_failed {message : String} (h : skipped settings channel = false)
    (he : error channelServices (channel, position) = some message) :
    deliverFrom channelServices settings audit lastError position (channel :: channels) =
      ((deliverFrom channelServices settings (audit ++ [auditEntry channelServices settings (channel, position)])
        (some message) (position + 1) channels).1,
      position :: (deliverFrom channelServices settings (audit ++ [auditEntry channelServices settings (channel, position)])
        (some message) (position + 1) channels).2) := by
  simp only [error] at he
  simp [deliverFrom, auditEntry, enabled, error, h, he, String.append_assoc]

/-- The message the status is read off: that of the last enabled channel, if there is one. -/
def lastMessage (channelServices : String → Service) (lastError : Option String) (xs : List (String × Nat)) :
    Option String :=
  (xs.getLast?.map (error channelServices)).getD lastError

/-- What the loop comes to, by the enabled positions that are left. -/
structure Comes (channelServices : String → Service) (settings : ChannelSettings) (audit : List String)
    (lastError : Option String) (positions : List (String × Nat)) (r : DeliveryResult × List Nat) : Prop where
  attempts : r.2 = (upToFirst (succeeds channelServices) (positions.filter (enabled settings))).map (·.2)
  delivered : ∀ x, (positions.filter (enabled settings)).find? (succeeds channelServices) = some x →
    r.1.status = .delivered ∧ r.1.channelUsed = some x.1
  failed : (positions.filter (enabled settings)).find? (succeeds channelServices) = none →
    r.1.channelUsed = none ∧ r.1.status =
      if (lastMessage channelServices lastError (positions.filter (enabled settings))).any (· ≠ "") then .failed
      else .partialSuccess
  audit : r.1.audit = audit ++ (upToFirst (fun x => enabled settings x && succeeds channelServices x) positions).map
    (auditEntry channelServices settings)

theorem comes_nil : Comes channelServices settings audit lastError []
    (deliverFrom channelServices settings audit lastError position []) where
  attempts := rfl
  delivered _ h := by cases h
  failed _ := ⟨rfl, rfl⟩
  audit := (List.append_nil audit).symm

theorem Comes.skip {x : String × Nat} {xs : List (String × Nat)} {r : DeliveryResult × List Nat}
    (h : Comes channelServices settings (audit ++ [auditEntry channelServices settings x]) lastError xs r)
    (hx : enabled settings x = false) : Comes channelServices settings audit lastError (x :: xs) r where
  attempts := by
    rw [List.filter_cons_of_neg (by simp [hx])]
    exact h.attempts
  delivered := by
    rw [List.filter_cons_of_neg (by simp [hx])]
    exact h.delivered
  failed := by
    rw [List.filter_cons_of_neg (by simp [hx])]
    exact h.failed
  audit := by
    rw [h.audit]
    simp [upToFirst, hx]

theorem Comes.fail {x : String × Nat} {xs : List (String × Nat)} {r : DeliveryResult × List Nat} {message : String}
    (h : Comes channelServices settings (audit ++ [auditEntry channelServices settings x]) (some message) xs r)
    (hx : enabled settings x = true) (he : error channelServices x = some message) :
    Comes channelServices settings audit lastError (x :: xs) (r.1, x.2 :: r.2) where
  attempts := by
    rw [List.filter_cons_of_pos (by simp [hx])]
    simp [upToFirst, succeeds, he, h.attempts]
  delivered := by
    rw [List.filter_cons_of_pos (by simp [hx]), List.find?_cons_of_neg (by simp [succeeds, he])]
    exact h.delivered
  failed := by
    rw [List.filter_cons_of_pos (by simp [hx]), List.find?_cons_of_neg (by simp [succeeds, he])]
    have hl : lastMessage channelServices lastError (x :: xs.filter (enabled settings)) =
        lastMessage channelServices (some message) (xs.filter (enabled settings)) := by
      unfold lastMessage
      rw [List.getLast?_cons]
      cases (xs.filter (enabled settings)).getLast? with
      | none => exact he
      | some y => rfl
    rw [hl]
    exact h.failed
  audit := by
    rw [h.audit]
    simp [upToFirst, succeeds, hx, he]

theorem comes_delivered {x : String × Nat} {xs : List (String × Nat)} (hx : enabled settings x = true)
    (he : error channelServices x = none) : Comes channelServices settings audit lastError (x :: xs)
      (⟨.delivered, some x.1, audit ++ [auditEntry channelServices settings x]⟩, [x.2]) where
  attempts := by
    rw [List.filter_cons_of_pos (by simp [hx])]
    simp [upToFirst, succeeds, he]
  delivered y hy := by
    rw [List.filter_cons_of_pos (by simp [hx]), List.find?_cons_of_pos (by simp [succeeds, he])] at hy
    cases hy
    exact ⟨rfl, rfl⟩
  failed hn := by
    rw [List.filter_cons_of_pos (by simp [hx]), List.find?_cons_of_pos (by simp [succeeds, he])] at hn
    cases hn
  audit := by simp [upToFirst, succeeds, hx, he]

theorem comes_deliverFrom : Comes channelServices settings audit lastError (channels.zipIdx position)
    (deliverFrom channelServices settings audit lastError position channels) := by
  induction channels generalizing audit lastError position with
  | nil => exact comes_nil
  | cons channel channels ih =>
    rw [List.zipIdx_cons]
    cases hs : skipped settings channel with
    | true =>
      rw [deliverFrom_skipped hs]
      exact ih.skip (by simp [enabled, hs])
    | false =>
      have hx : enabled settings (channel, position) = true := by simp [enabled, hs]
      cases he : error channelServices (channel, position) with
      | none =>
        rw [deliverFrom_delivered hs he]
        exact comes_delivered hx he
      | some message =>
        rw [deliverFrom_failed hs he]
        exact ih.fail hx he

/-! ## Results -/

/-- No enabled channel fails with an empty message as the last one, unless another succeeds. -/
def Telling (channelServices : String → Service) (settings : ChannelSettings) (channels : List String) : Prop :=
  (∃ x ∈ channels.zipIdx, enabled settings x = true ∧ error channelServices x = none) ∨
    ∀ x, (channels.zipIdx.filter (enabled settings)).getLast? = some x → error channelServices x ≠ some ""

theorem upToFirst_eq_nil {α : Type*} {p : α → Bool} {as : List α} : upToFirst p as = [] ↔ as = [] := by
  cases as with
  | nil => simp [upToFirst]
  | cons a as =>
    unfold upToFirst
    split <;> simp

/-- Without a success the status is `failed` exactly if the last message is not empty. -/
theorem status_eq_failed {xs : List (String × Nat)} {r : DeliveryResult × List Nat}
    (hc : Comes channelServices settings [] none xs r)
    (hn : (xs.filter (enabled settings)).find? (succeeds channelServices) = none) :
    r.1.status = .failed ↔ ∃ x message, (xs.filter (enabled settings)).getLast? = some x ∧
      error channelServices x = some message ∧ message ≠ "" := by
  rw [(hc.failed hn).2]
  unfold lastMessage
  cases hl : (xs.filter (enabled settings)).getLast? with
  | none => simp
  | some x =>
    cases he : error channelServices x with
    | none => simp [he]
    | some message =>
      by_cases hm : message = ""
      · simp [he, hm]
      · simp [he, hm]

/-- The fallback chain meets its specification unless its last enabled channel fails
with an empty message and no other one succeeds. -/
theorem meets_iff (channelServices : String → Service) (settings : ChannelSettings) (channels : List String) :
    Meets channelServices settings channels.zipIdx (deliverWithFallback channelServices settings channels) ↔
      Telling channelServices settings channels := by
  have hc : Comes channelServices settings [] none channels.zipIdx
      (deliverWithFallback channelServices settings channels) := comes_deliverFrom
  have hattempts : (deliverWithFallback channelServices settings channels).2 = [] ↔
      channels.zipIdx.filter (enabled settings) = [] := by
    rw [hc.attempts, List.map_eq_nil_iff, upToFirst_eq_nil]
  constructor
  · intro h
    cases hn : (channels.zipIdx.filter (enabled settings)).find? (succeeds channelServices) with
    | some x =>
      have hm := List.mem_filter.mp (List.mem_of_find?_eq_some hn)
      have hs := List.find?_some hn
      exact .inl ⟨x, hm.1, hm.2, Option.isNone_iff_eq_none.mp hs⟩
    | none =>
      refine .inr fun x hx he => ?_
      have hf := (h.failed hn).2.2.mpr fun hnil => ?_
      · obtain ⟨y, message, hy, hmessage, hne⟩ := (status_eq_failed hc hn).mp hf
        cases hx.symm.trans hy
        cases he.symm.trans hmessage
        exact hne rfl
      · rw [hattempts.mp hnil] at hx
        cases hx
  · intro h
    refine ⟨hc.attempts, hc.delivered, fun hn => ⟨(hc.failed hn).1, ?_, ?_⟩, hc.audit.trans (List.nil_append _)⟩
    · rw [(hc.failed hn).2]
      split <;> simp
    · rw [status_eq_failed hc hn, ne_eq, hattempts]
      have hnone := List.find?_eq_none.mp hn
      constructor
      · intro hx hnil
        obtain ⟨x, message, hx, -⟩ := hx
        rw [hnil] at hx
        cases hx
      · intro hne
        obtain ⟨x, hx⟩ : ∃ x, (channels.zipIdx.filter (enabled settings)).getLast? = some x :=
          ⟨_, List.getLast?_eq_some_getLast hne⟩
        have hm := List.mem_of_getLast? hx
        cases he : error channelServices x with
        | none => exact absurd (by simp [succeeds, he]) (hnone x hm)
        | some message =>
          refine ⟨x, message, hx, he, fun hmessage => ?_⟩
          subst hmessage
          rcases h with ⟨y, hy, hen, hnil⟩ | h
          · exact absurd (by simp [succeeds, hnil]) (hnone y (List.mem_filter.mpr ⟨hy, hen⟩))
          · exact h x hx he

/-- WhatsApp, the only enabled channel, fails and its error has no message. -/
theorem empty_message_not_failed : ¬ ∀ channelServices settings channels,
    Meets channelServices settings channels.zipIdx (deliverWithFallback channelServices settings channels) := by
  intro h
  have hm := h (fun _ => .sending fun _ => some "") ⟨true, false, false⟩ ["whatsapp", "email"]
  have hf := (hm.failed (by decide)).2.2.mpr (by decide)
  revert hf
  decide

end

/-! ## The chain of a dispatched alert -/

/-- A suspended delivery run to its end, `n` sends at most. -/
def finish (settings : ChannelSettings) (answers : String → Option String) :
    Nat → AlertDispatch.Delivery → Option AlertDispatch.DeliveryResult
  | _, .finished result => some result
  | 0, .trying _ _ _ _ => none
  | n + 1, .trying channel channels audit _ =>
    finish settings answers n (AlertDispatch.afterSend settings channel channels audit (answers channel.name))

def ofDispatch (r : AlertDispatch.DeliveryResult) : DeliveryResult :=
  ⟨r.status, r.channelUsed.map (·.name), r.audit⟩

theorem skipped_name (settings : ChannelSettings) (channel : AlertDispatch.Channel) :
    skipped settings channel.name = settings.disabled channel := by
  cases channel <;> simp [skipped, AlertDispatch.Channel.name, ChannelSettings.disabled]

/-- The delivery of a dispatched alert, suspended at every send, comes to the same result. -/
theorem finish_deliverWithFallback (settings : ChannelSettings) (answers : String → Option String)
    {channels : List AlertDispatch.Channel} {audit : List String} {lastError : Option String} {position n : Nat}
    (hn : channels.length ≤ n) :
    (finish settings answers n (AlertDispatch.deliverWithFallback settings audit lastError channels)).map ofDispatch =
      some (deliverFrom (fun name => .sending fun _ => answers name) settings audit lastError position
        (channels.map (·.name))).1 := by
  induction channels generalizing audit lastError position n with
  | nil => simp [AlertDispatch.deliverWithFallback, finish, deliverFrom, ofDispatch]
  | cons channel channels ih =>
    rw [List.map_cons]
    unfold AlertDispatch.deliverWithFallback
    by_cases hd : settings.disabled channel = true
    · rw [if_pos hd, deliverFrom, if_pos ((skipped_name settings channel).trans hd)]
      exact ih (Nat.le_of_succ_le hn)
    · obtain ⟨m, rfl⟩ : ∃ m, n = m + 1 := ⟨n - 1, by simp at hn; omega⟩
      rw [if_neg hd, deliverFrom, if_neg (fun h => hd ((skipped_name settings channel).symm.trans h)), finish]
      simp only [Service.send]
      cases ha : answers channel.name with
      | none => simp [AlertDispatch.afterSend, finish, ofDispatch]
      | some message => exact ih (Nat.le_of_succ_le_succ hn)

end IntellApi.FallbackService
