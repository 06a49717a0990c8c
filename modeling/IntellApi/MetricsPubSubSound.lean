import IntellApi.Calls
import IntellApi.MetricsPubSub
import Mathlib.Data.List.Count
import Mathlib.Data.List.Nodup

/-!
# Every message once

A set that is not empty stands for a topic Redis is subscribed to, with no
command outstanding (`Live`). An empty one is that of a call that waits for its
`SUBSCRIBE`, or is left behind by one that was refused. Calls that find an empty
set are what goes wrong; without them, a returned subscription gets every
message that is published from then on once.
-/

namespace IntellApi.MetricsPubSub

open Function Lts

variable {κ μ : Type}

/-! ## Callbacks and the subscriptions of Redis -/

/-- `message` is given to the callback, or is on its way to it, once. -/
def Once [DecidableEq κ] (s : State κ μ) (topic : Topic) (callback : κ) (m : Nat) : Prop :=
  s.received.count (topic, callback, m) + s.wire.count (topic, m) = 1

/-- Whoever has subscribed and not unsubscribed gets what was published in between. -/
def Delivers [DecidableEq κ] (glob : String → String → Bool) (s : State κ μ) : Prop :=
  ∀ topic callback n, s.since topic callback = some n →
    ∀ m channel message, n ≤ m → s.published[m]? = some (channel, message) → topic.accepts glob channel = true →
      Once s topic callback m

def Call.waitsFor (topic : Topic) : Call κ → Bool
  | .subscribing topic' _ _ => topic' = topic
  | _ => false

def Waiting (s : State κ μ) (topic : Topic) : Prop := ∃ call ∈ s.calls, call.waitsFor topic = true

instance (s : State κ μ) (topic : Topic) : Decidable (Waiting s topic) := by
  unfold Waiting
  infer_instance

def Settled (s : State κ μ) (topic : Topic) : Prop := (s.subscriptions topic).all (!·.isEmpty) = true

instance (s : State κ μ) (topic : Topic) : Decidable (Settled s topic) := by
  unfold Settled
  infer_instance

/-- No `subscribe` finds an empty set, and nobody calls `unsubscribe` while a
call waits for its `SUBSCRIBE`. -/
def Alone (s : State κ μ) : Action κ μ → Prop
  | .subscribe channel _ => Settled s (.channel channel)
  | .psubscribe pattern _ => Settled s (.pattern pattern)
  | .unsubscribe channel _ => ¬ Waiting s (.channel channel)
  | .punsubscribe pattern _ => ¬ Waiting s (.pattern pattern)
  | _ => True

instance (s : State κ μ) (a : Action κ μ) : Decidable (Alone s a) := by
  unfold Alone
  split <;> infer_instance

/-! ## The invariant -/

/-- Call `c` waits for the answer to its `SUBSCRIBE`, or goes on after it soon. -/
def Waits (calls : List (Call κ)) (c : Nat) (topic : Topic) (answer : Option Bool) : Prop :=
  ∃ callback, calls[c]? = some (.subscribing topic callback answer)

/-- Redis is subscribed, and nothing about the topic is outstanding. -/
def Live (s : State κ μ) (topic : Topic) : Prop := topic ∈ s.redis ∧ ∀ command ∈ s.commands, command.topic ≠ topic

/-- The command of call `c` is the last one about the topic. -/
def Queued (s : State κ μ) (topic : Topic) (c : Nat) : Prop :=
  ∃ before after, s.commands = before ++ ⟨.subscribe, topic, c⟩ :: after ∧ ∀ command ∈ after, command.topic ≠ topic

def Progress (s : State κ μ) (topic : Topic) (c : Nat) : Option Bool → Prop
  | none => Queued s topic c
  | some true => Live s topic
  | some false => True

structure Inv [DecidableEq κ] (glob : String → String → Bool) (s : State κ μ) : Prop where
  redis : s.redis.Nodup
  commands : (s.commands.map (·.call)).Nodup
  bound : ∀ command ∈ s.commands, command.call < s.calls.length
  noError : .typeError ∉ s.calls
  waiting : ∀ c topic answer, Waits s.calls c topic answer → s.subscriptions topic = some [] ∧ Progress s topic c answer
  alone : ∀ c c' topic answer answer', Waits s.calls c topic answer → Waits s.calls c' topic answer' → c = c'
  live : ∀ topic callbacks, s.subscriptions topic = some callbacks → callbacks ≠ [] → Live s topic
  nodup : ∀ topic callbacks, s.subscriptions topic = some callbacks → callbacks.Nodup
  since : ∀ topic callback n, s.since topic callback = some n →
    ∃ callbacks, s.subscriptions topic = some callbacks ∧ callback ∈ callbacks
  wire : ∀ topic m, (topic, m) ∈ s.wire → m < s.published.length
  received : ∀ topic callback m, (topic, callback, m) ∈ s.received → m < s.published.length
  delivers : Delivers glob s

theorem settled_iff {s : State κ μ} {topic : Topic} : Settled s topic ↔ s.subscriptions topic ≠ some [] := by
  unfold Settled
  cases s.subscriptions topic with
  | none => simp
  | some callbacks => cases callbacks <;> simp

theorem not_waits {s : State κ μ} {topic : Topic} (h : ¬ Waiting s topic) (c : Nat) (answer : Option Bool) : ¬ Waits s.calls c topic answer :=
  fun ⟨_, hc⟩ => h ⟨_, List.mem_of_getElem? hc, decide_eq_true rfl⟩

theorem waits_snoc {topic : Topic} {calls : List (Call κ)} {call : Call κ} {c : Nat} {answer : Option Bool}
    (h : Waits (calls ++ [call]) c topic answer) :
    Waits calls c topic answer ∨ c = calls.length ∧ ∃ callback, call = .subscribing topic callback answer := by
  obtain ⟨callback, hc⟩ := h
  rcases Calls.snoc_cases hc with hc | ⟨hlast, he⟩
  · exact .inl ⟨callback, hc⟩
  · exact .inr ⟨hlast, callback, he.symm⟩

theorem waits_set {topic : Topic} {calls : List (Call κ)} {call : Call κ} {c d : Nat} {answer : Option Bool}
    (hc : ∀ callback, call ≠ .subscribing topic callback answer) (h : Waits (calls.set d call) c topic answer) :
    c ≠ d ∧ Waits calls c topic answer := by
  obtain ⟨callback, hg⟩ := h
  rcases Calls.set_cases hg with ⟨-, he⟩ | ⟨hne, hg⟩
  · exact absurd he.symm (hc callback)
  · exact ⟨hne, callback, hg⟩

theorem waits_answered {topic : Topic} {calls : List (Call κ)} {c d : Nat} {ok : Bool} {answer : Option Bool}
    (h : Waits (calls.modify d (·.answered ok)) c topic answer) :
    ∃ old, Waits calls c topic old ∧ (old = answer ∧ (c = d → answer ≠ none) ∨ c = d ∧ old = none ∧ answer = some ok) := by
  obtain ⟨callback, hg⟩ := h
  rw [List.getElem?_modify] at hg
  obtain ⟨call, hc, hg⟩ := Option.map_eq_some_iff.mp hg
  by_cases he : d = c
  · rw [if_pos he] at hg
    cases call with
    | subscribing topic' callback' old =>
      cases old <;> cases hg
      · exact ⟨none, ⟨callback, hc⟩, .inr ⟨he.symm, rfl, rfl⟩⟩
      · exact ⟨some _, ⟨callback, hc⟩, .inl ⟨rfl, fun _ => nofun⟩⟩
    | unsubscribing old => cases old <;> cases hg
    | returned | rejected | typeError => cases hg
  · rw [if_neg he] at hg
    subst hg
    exact ⟨answer, ⟨callback, hc⟩, .inl ⟨rfl, fun hcd => absurd hcd.symm he⟩⟩

theorem mem_perform {command : Command} {redis : List Topic} {topic : Topic} (hne : command.topic ≠ topic)
    (hm : topic ∈ redis) : topic ∈ command.perform redis := by
  unfold Command.perform
  cases command.name with
  | subscribe =>
    simp only
    split
    · exact hm
    · exact List.mem_append_left _ hm
  | unsubscribe => exact List.mem_filter.mpr ⟨hm, decide_eq_true (Ne.symm hne)⟩

theorem nodup_perform {command : Command} {redis : List Topic} (h : redis.Nodup) : (command.perform redis).Nodup := by
  unfold Command.perform
  cases command.name with
  | subscribe =>
    simp only
    split
    · exact h
    · rename_i hn
      exact List.nodup_append.mpr ⟨h, List.nodup_singleton _, fun a ha b hb he => hn (by
        rw [← List.mem_singleton.mp hb, ← he]
        exact ha)⟩
  | unsubscribe => exact h.filter _

section
variable [DecidableEq κ] {glob : String → String → Bool} {s s' : State κ μ} {topic : Topic} {callback : κ}

theorem Inv.not_waiting (h : Inv glob s) (hs : s.subscriptions topic ≠ some []) {c : Nat} {answer : Option Bool} :
    ¬ Waits s.calls c topic answer := fun hw => hs (h.waiting c topic answer hw).1

theorem Inv.no_since (h : Inv glob s) (hs : s.subscriptions topic = none ∨ s.subscriptions topic = some []) :
    s.since topic callback = none := by
  cases hn : s.since topic callback with
  | none => rfl
  | some n =>
    obtain ⟨callbacks, hc, hm⟩ := h.since topic callback n hn
    rcases hs with hs | hs <;> rw [hs] at hc <;> cases hc
    cases hm

theorem delivers_since (h : Delivers glob s) (hs : s'.received = s.received) (hw : s'.wire = s.wire)
    (hp : s'.published = s.published)
    (hn : ∀ topic callback n, s'.since topic callback = some n →
      s.since topic callback = some n ∨ n = s.published.length) : Delivers glob s' := by
  intro topic callback n hsn m channel message hnm hm hacc
  rw [hp] at hm
  rw [Once, hs, hw]
  rcases hn topic callback n hsn with hold | rfl
  · exact h topic callback n hold m channel message hnm hm hacc
  · rw [List.getElem?_eq_none hnm] at hm
    cases hm

/-! ## Parts of steps -/

theorem Inv.setCalls (h : Inv glob s) {calls : List (Call κ)} (hlen : s.calls.length ≤ calls.length)
    (he : .typeError ∉ calls) (hw : ∀ c topic answer, Waits calls c topic answer → Waits s.calls c topic answer) :
    Inv glob { s with calls } :=
  { h with
    bound := fun command hm => Nat.lt_of_lt_of_le (h.bound command hm) hlen
    noError := he
    waiting := fun c topic answer hc => h.waiting c topic answer (hw c topic answer hc)
    alone := fun c c' topic answer answer' hc hc' =>
      h.alone c c' topic answer answer' (hw c topic answer hc) (hw c' topic answer' hc') }

theorem Inv.call (h : Inv glob s) : Inv glob (s.call .returned) := by
  refine h.setCalls (by simp) (fun hm => ?_) fun c topic answer hc => ?_
  · rcases List.mem_append.mp hm with hm | hm
    · exact h.noError hm
    · cases List.mem_singleton.mp hm
  · exact (waits_snoc hc).resolve_right fun ⟨_, _, he⟩ => nomatch he

theorem Inv.setCall (h : Inv glob s) (c : Nat) {call : Call κ} (hc : call = .returned ∨ call = .rejected) :
    Inv glob { s with calls := s.calls.set c call } := by
  refine h.setCalls (by simp) (fun hm => ?_) fun c' topic answer hw => (waits_set ?_ hw).2
  · rcases List.mem_or_eq_of_mem_set hm with hm | rfl
    · exact h.noError hm
    · rcases hc with hc | hc <;> cases hc
  · intro callback he
    subst he
    rcases hc with hc | hc <;> cases hc

/-- The set of a topic nobody waits on is replaced, and serves the same subscriptions. -/
theorem Inv.setCallbacks (h : Inv glob s) (hw : ∀ c answer, ¬ Waits s.calls c topic answer) {new : Option (List κ)}
    (hl : ∀ callbacks, new = some callbacks → callbacks ≠ [] → Live s topic)
    (hn : ∀ callbacks, new = some callbacks → callbacks.Nodup)
    (hs : ∀ callback n, s.since topic callback = some n → ∃ callbacks, new = some callbacks ∧ callback ∈ callbacks) :
    Inv glob (s.setCallbacks topic new) := by
  have cases_topic : ∀ {topic' value}, update s.subscriptions topic new topic' = value →
      topic' = topic ∧ new = value ∨ topic' ≠ topic ∧ s.subscriptions topic' = value := by
    intro topic' value he
    by_cases ht : topic' = topic
    · subst ht
      rw [update_self] at he
      exact .inl ⟨rfl, he⟩
    · rw [update_of_ne ht] at he
      exact .inr ⟨ht, he⟩
  refine { h with waiting := ?_, live := ?_, nodup := ?_, since := ?_ }
  · intro c topic' answer hc
    have hne : topic' ≠ topic := fun he => hw c answer (he ▸ hc)
    obtain ⟨hs', hp⟩ := h.waiting c topic' answer hc
    exact ⟨(update_of_ne hne _ _).trans hs', hp⟩
  · intro topic' callbacks he hne
    rcases cases_topic he with ⟨rfl, hv⟩ | ⟨-, hv⟩
    · exact hl callbacks hv hne
    · exact h.live topic' callbacks hv hne
  · intro topic' callbacks he
    rcases cases_topic he with ⟨-, hv⟩ | ⟨-, hv⟩
    · exact hn callbacks hv
    · exact h.nodup topic' callbacks hv
  · intro topic' callback n hsn
    by_cases ht : topic' = topic
    · subst ht
      obtain ⟨callbacks, he, hm⟩ := hs callback n hsn
      exact ⟨callbacks, (update_self ..).trans he, hm⟩
    · obtain ⟨callbacks, he, hm⟩ := h.since topic' callback n hsn
      exact ⟨callbacks, (update_of_ne ht _ _).trans he, hm⟩

theorem Inv.setSince (h : Inv glob s) {n : Option Nat}
    (hn : ∀ k, n = some k → (s.since topic callback = some k ∨ k = s.published.length) ∧
      ∃ callbacks, s.subscriptions topic = some callbacks ∧ callback ∈ callbacks) :
    Inv glob (s.setSince topic callback n) := by
  have cases_since : ∀ {topic' callback' k}, (s.setSince topic callback n).since topic' callback' = some k →
      s.since topic' callback' = some k ∨ topic' = topic ∧ callback' = callback ∧ n = some k := by
    intro topic' callback' k hk
    rw [State.setSince] at hk
    by_cases ht : topic' = topic
    · subst ht
      simp only [update_self] at hk
      by_cases hc : callback' = callback
      · subst hc
        rw [update_self] at hk
        exact .inr ⟨rfl, rfl, hk⟩
      · rw [update_of_ne hc] at hk
        exact .inl hk
    · simp only [update_of_ne ht] at hk
      exact .inl hk
  refine { h with since := fun topic' callback' k hk => ?_, delivers := ?_ }
  · rcases cases_since hk with hold | ⟨rfl, rfl, hnew⟩
    · exact h.since topic' callback' k hold
    · exact (hn k hnew).2
  · refine delivers_since h.delivers rfl rfl rfl fun topic' callback' k hk => ?_
    rcases cases_since hk with hold | ⟨rfl, rfl, hnew⟩
    · exact .inl hold
    · exact (hn k hnew).1

theorem Inv.add (h : Inv glob s) {callbacks : List κ} (hs : s.subscriptions topic = some callbacks)
    (hw : ∀ c answer, ¬ Waits s.calls c topic answer) (hl : Live s topic) : Inv glob (s.add topic callback callbacks) := by
  have hn := h.nodup topic callbacks hs
  refine Inv.setSince (s := s.setCallbacks topic _) (h.setCallbacks hw (fun _ _ _ => hl) ?_ ?_) fun k hk => ⟨?_, _, update_self .., ?_⟩
  · intro _ he
    cases he
    split
    · exact hn
    · rename_i hm
      exact List.nodup_append.mpr ⟨hn, List.nodup_singleton _, fun a ha b hb he => hm (by
        rw [← List.mem_singleton.mp hb, ← he]
        exact ha)⟩
  · intro callback' n hsn
    obtain ⟨_, hc, hm⟩ := h.since topic callback' n hsn
    rw [hs, Option.some.injEq] at hc
    subst hc
    refine ⟨_, rfl, ?_⟩
    split
    · exact hm
    · exact List.mem_append_left _ hm
  · change (s.since topic callback).or (some s.published.length) = some k at hk
    cases hsn : s.since topic callback with
    | none =>
      rw [hsn, Option.none_or, Option.some.injEq] at hk
      exact .inr hk.symm
    | some n =>
      rw [hsn, Option.some_or] at hk
      exact .inl (hsn.trans hk)
  · split
    · assumption
    · exact List.mem_append_right _ (List.mem_singleton_self callback)

theorem Inv.command (h : Inv glob s) {name : CommandName} {call : Call κ}
    (hs : ∀ callbacks, s.subscriptions topic = some callbacks → callbacks = [])
    (hw : ∀ c answer, ¬ Waits s.calls c topic answer)
    (hc : call = .unsubscribing none ∨
      name = .subscribe ∧ s.subscriptions topic = some [] ∧ ∃ callback, call = .subscribing topic callback none) :
    Inv glob (s.command name topic call) := by
  have hlive : ∀ {topic'}, topic' ≠ topic → Live s topic' → Live (s.command name topic call) topic' := by
    intro topic' hne hx
    obtain ⟨hr, hcm⟩ := hx
    refine ⟨hr, fun command hm => (List.mem_append.mp hm).elim (hcm command) fun hm => ?_⟩
    rw [List.mem_singleton.mp hm]
    exact Ne.symm hne
  have hnew : ∀ {c topic' answer}, Waits (s.command name topic call).calls c topic' answer →
      Waits s.calls c topic' answer ∧ topic' ≠ topic ∨
        c = s.calls.length ∧ topic' = topic ∧ answer = none ∧ name = .subscribe ∧ s.subscriptions topic = some [] := by
    intro c topic' answer hwt
    rcases waits_snoc hwt with hold | ⟨hlen, callback, hcall⟩
    · exact .inl ⟨hold, fun he => hw c answer (he ▸ hold)⟩
    · rcases hc with hc | ⟨hn, hs', callback', hc⟩ <;> rw [hcall] at hc <;> cases hc
      exact .inr ⟨hlen, rfl, rfl, hn, hs'⟩
  refine { h with commands := ?_, bound := ?_, noError := ?_, waiting := ?_, alone := ?_, live := ?_ }
  · rw [State.command, List.map_append, List.nodup_append]
    refine ⟨h.commands, List.nodup_singleton _, ?_⟩
    intro c hm c' hm' he
    subst he
    obtain ⟨command, hm, hcc⟩ := List.mem_map.mp hm
    rw [List.map_singleton, List.mem_singleton] at hm'
    exact absurd (hcc.trans hm') (Nat.ne_of_lt (h.bound command hm))
  · intro command hm
    rw [State.command, List.length_append, List.length_singleton]
    rcases List.mem_append.mp hm with hm | hm
    · exact Nat.lt_succ_of_lt (h.bound command hm)
    · rw [List.mem_singleton.mp hm]
      exact Nat.lt_succ_self _
  · intro hm
    rcases List.mem_append.mp hm with hm | hm
    · exact h.noError hm
    · rcases hc with hc | ⟨-, -, _, hc⟩ <;> rw [hc] at hm <;> cases List.mem_singleton.mp hm
  · intro c topic' answer hwt
    rcases hnew hwt with ⟨hold, hne⟩ | ⟨rfl, rfl, rfl, rfl, hs'⟩
    · obtain ⟨hs', hp⟩ := h.waiting c topic' answer hold
      refine ⟨hs', ?_⟩
      match answer, hp with
      | none, ⟨before, after, he, ha⟩ =>
        refine ⟨before, after ++ [⟨name, topic, s.calls.length⟩], ?_, fun command hm => ?_⟩
        · rw [State.command, he, List.append_assoc, List.cons_append]
        · rcases List.mem_append.mp hm with hm | hm
          · exact ha command hm
          · rw [List.mem_singleton.mp hm]
            exact Ne.symm hne
      | some true, hp => exact hlive hne hp
      | some false, _ => trivial
    · exact ⟨hs', s.commands, [], rfl, nofun⟩
  · intro c c' topic' answer answer' hwt hwt'
    rcases hnew hwt with ⟨hold, hne⟩ | ⟨hlen, rfl, -⟩ <;> rcases hnew hwt' with ⟨hold', hne'⟩ | ⟨hlen', he, -⟩
    · exact h.alone c c' topic' answer answer' hold hold'
    · exact absurd he hne
    · exact absurd rfl hne'
    · exact hlen.trans hlen'.symm
  · intro topic' callbacks hs' hne
    exact hlive (fun he => hne (hs callbacks (he ▸ hs'))) (h.live topic' callbacks hs' hne)

/-! ## Every step -/

omit [DecidableEq κ] in
theorem setCallbacks_self (s : State κ μ) (topic : Topic) (new : Option (List κ)) :
    (s.setCallbacks topic new).subscriptions topic = new := update_self ..

theorem Inv.subscribeTo (h : Inv glob s) (hs : Settled s topic) : Inv glob (s.subscribeTo topic callback) := by
  have hne := settled_iff.mp hs
  have hw : ∀ c answer, ¬ Waits s.calls c topic answer := fun c answer => h.not_waiting hne
  unfold State.subscribeTo
  split
  · rename_i hnone
    refine Inv.command (s := s.setCallbacks topic (some []))
      (h.setCallbacks hw ?_ ?_ ?_) ?_ hw (.inr ⟨rfl, update_self .., callback, rfl⟩)
    · intro _ he hc
      cases he
      exact absurd rfl hc
    · intro _ he
      cases he
      exact List.nodup_nil
    · intro callback' n hsn
      rw [h.no_since (.inl hnone)] at hsn
      cases hsn
    · intro callbacks hc
      rw [setCallbacks_self, Option.some.injEq] at hc
      exact hc.symm
  · rename_i callbacks hsome
    have hc : callbacks ≠ [] := fun he => hne (he ▸ hsome)
    exact (h.add hsome hw (h.live topic callbacks hsome hc)).call

theorem Inv.unsubscribeFrom (h : Inv glob s) (hw : ¬ Waiting s topic) : Inv glob (s.unsubscribeFrom topic callback) := by
  have hw := not_waits hw
  unfold State.unsubscribeFrom
  split
  · exact h.call
  · rename_i callbacks hsome
    have hf : Inv glob (s.setSince topic callback none) := h.setSince nofun
    have hkeep : ∀ callback' n, (s.setSince topic callback none).since topic callback' = some n →
        callback' ∈ callbacks.filter (· ≠ callback) := by
      intro callback' n hsn
      rw [State.setSince] at hsn
      simp only [update_self] at hsn
      have hne : callback' ≠ callback := by
        intro he
        subst he
        rw [update_self] at hsn
        cases hsn
      rw [update_of_ne hne] at hsn
      obtain ⟨_, hc, hm⟩ := h.since topic callback' n hsn
      rw [hsome, Option.some.injEq] at hc
      subst hc
      exact List.mem_filter.mpr ⟨hm, decide_eq_true hne⟩
    simp only
    split
    · rename_i hrest
      refine Inv.command (s := (s.setSince topic callback none).setCallbacks topic none)
        (hf.setCallbacks hw nofun nofun fun callback' n hsn => ?_) (fun _ hc => ?_) hw (.inl rfl)
      · have hm := hkeep callback' n hsn
        rw [hrest] at hm
        cases hm
      · rw [setCallbacks_self] at hc
        cases hc
    · rename_i hrest
      refine Inv.call (hf.setCallbacks hw ?_ ?_ fun callback' n hsn => ⟨_, rfl, hkeep callback' n hsn⟩)
      · intro _ he _
        cases he
        refine h.live topic callbacks hsome fun he => hrest ?_
        rw [he]
        rfl
      · intro _ he
        cases he
        exact (h.nodup topic callbacks hsome).filter _

theorem Inv.reply (h : Inv glob s) {command : Command} {commands : List Command} (hc : s.commands = command :: commands)
    (ok : Bool) : Inv glob { s with
      commands
      redis := if ok then command.perform s.redis else s.redis
      calls := s.calls.modify command.call (·.answered ok) } := by
  have hsub : ∀ {cmd}, cmd ∈ commands → cmd ∈ s.commands := fun hm => hc ▸ List.mem_cons_of_mem command hm
  have hfresh : command.call ∉ commands.map (·.call) := by
    have hn := h.commands
    rw [hc, List.map_cons, List.nodup_cons] at hn
    exact hn.1
  have hlive : ∀ {topic}, Live s topic → topic ∈ (if ok then command.perform s.redis else s.redis) ∧
      ∀ cmd ∈ commands, cmd.topic ≠ topic := by
    intro topic hx
    obtain ⟨hr, hcm⟩ := hx
    refine ⟨?_, fun cmd hm => hcm cmd (hsub hm)⟩
    split
    · exact mem_perform (hcm command (hc ▸ List.mem_cons_self)) hr
    · exact hr
  refine { h with redis := ?_, commands := ?_, bound := ?_, noError := ?_, waiting := ?_, alone := ?_, live := ?_ }
  · show (if ok then command.perform s.redis else s.redis).Nodup
    split
    · exact nodup_perform h.redis
    · exact h.redis
  · have hn := h.commands
    rw [hc, List.map_cons, List.nodup_cons] at hn
    exact hn.2
  · intro cmd hm
    rw [List.length_modify]
    exact h.bound cmd (hsub hm)
  · intro hm
    obtain ⟨c, hg⟩ := List.mem_iff_getElem?.mp hm
    rw [List.getElem?_modify] at hg
    obtain ⟨call, hcall, hg⟩ := Option.map_eq_some_iff.mp hg
    have hn := h.noError
    split at hg
    · cases call with
      | subscribing topic callback answer => cases answer <;> cases hg
      | unsubscribing answer => cases answer <;> cases hg
      | returned | rejected => cases hg
      | typeError => exact hn (List.mem_of_getElem? hcall)
    · subst hg
      exact hn (List.mem_of_getElem? hcall)
  · intro c topic answer hw
    obtain ⟨old, hold, hans⟩ := waits_answered hw
    obtain ⟨hs, hp⟩ := h.waiting c topic old hold
    refine ⟨hs, ?_⟩
    rcases hans with ⟨rfl, hans⟩ | ⟨rfl, rfl, rfl⟩
    · match old, hp with
      | none, ⟨before, after, he, ha⟩ =>
        cases before with
        | nil =>
          rw [List.nil_append, hc, List.cons.injEq] at he
          rw [he.1] at hans
          exact absurd rfl (hans rfl)
        | cons first before =>
          rw [List.cons_append, hc, List.cons.injEq] at he
          exact ⟨before, after, he.2, ha⟩
      | some true, hp => exact hlive hp
      | some false, _ => trivial
    · obtain ⟨before, after, he, ha⟩ := hp
      cases before with
      | nil =>
        rw [List.nil_append, hc, List.cons.injEq] at he
        obtain ⟨he, rfl⟩ := he
        cases ok with
        | false => trivial
        | true =>
          refine ⟨?_, ha⟩
          rw [if_pos rfl, Command.perform, he]
          simp only
          split
          · assumption
          · exact List.mem_append_right _ (List.mem_singleton_self topic)
      | cons first before =>
        rw [List.cons_append, hc, List.cons.injEq] at he
        refine absurd ?_ hfresh
        rw [he.2]
        exact List.mem_map.mpr ⟨_, List.mem_append_right _ List.mem_cons_self, rfl⟩
  · intro c c' topic answer answer' hw hw'
    obtain ⟨old, hold, -⟩ := waits_answered hw
    obtain ⟨old', hold', -⟩ := waits_answered hw'
    exact h.alone c c' topic old old' hold hold'
  · intro topic callbacks hs hne
    exact hlive (h.live topic callbacks hs hne)

theorem Inv.resume (h : Inv glob s) {c : Nat} (hr : s.resume c = some s') : Inv glob s' := by
  unfold State.resume at hr
  split at hr
  · rename_i topic callback hc
    obtain ⟨hs, hl⟩ := h.waiting c topic (some true) ⟨callback, hc⟩
    split at hr
    · rename_i callbacks hcb
      cases hr
      refine Inv.add (s := { s with calls := s.calls.set c .returned }) (h.setCall c (.inl rfl)) hcb (fun d answer hw => ?_) hl
      obtain ⟨hne, hw⟩ := waits_set nofun hw
      exact hne (h.alone d c topic answer (some true) hw ⟨callback, hc⟩)
    · rename_i hnone
      rw [hs] at hnone
      cases hnone
  · cases hr
    exact h.setCall c (.inl rfl)
  · cases hr
    exact h.setCall c (.inr rfl)
  · cases hr
    exact h.setCall c (.inr rfl)
  · cases hr

theorem count_map_pair (topics : List Topic) (topic : Topic) (m n : Nat) :
    (topics.map (·, n)).count (topic, m) = if m = n then topics.count topic else 0 := by
  split
  · rename_i h
    subst h
    exact List.count_map_of_injective topics (·, m) (fun _ _ he => congrArg Prod.fst he) topic
  · rename_i h
    refine List.count_eq_zero.mpr fun hm => h ?_
    obtain ⟨_, -, he⟩ := List.mem_map.mp hm
    exact (congrArg Prod.snd he).symm

theorem Inv.publish (h : Inv glob s) (channel : String) (message : μ) : Inv glob (s.publish glob channel message) := by
  have hlen : (s.publish glob channel message).published.length = s.published.length + 1 := by
    simp [State.publish]
  refine { h with wire := ?_, received := ?_, delivers := ?_ }
  · intro topic m hm
    rw [hlen]
    rcases List.mem_append.mp hm with hm | hm
    · exact Nat.lt_succ_of_lt (h.wire topic m hm)
    · obtain ⟨_, -, he⟩ := List.mem_map.mp hm
      cases he
      exact Nat.lt_succ_self _
  · intro topic callback m hm
    rw [hlen]
    exact Nat.lt_succ_of_lt (h.received topic callback m hm)
  · intro topic callback n hsn m channel' message' hnm hm hacc
    simp only [Once, State.publish, List.count_append, count_map_pair]
    by_cases hlt : m < s.published.length
    · rw [if_neg (Nat.ne_of_lt hlt), Nat.add_zero]
      refine h.delivers topic callback n hsn m channel' message' hnm ?_ hacc
      rw [State.publish, List.getElem?_append_left hlt] at hm
      exact hm
    · obtain ⟨hle, -⟩ := List.getElem?_eq_some_iff.mp hm
      obtain rfl : m = s.published.length := by omega
      rw [State.publish, List.getElem?_concat_length, Option.some.injEq] at hm
      cases hm
      obtain ⟨callbacks, hs, hmem⟩ := h.since topic callback n hsn
      have hl := h.live topic callbacks hs (List.ne_nil_of_mem hmem)
      have h0 : s.received.count (topic, callback, s.published.length) = 0 :=
        List.count_eq_zero.mpr fun hr => Nat.lt_irrefl _ (h.received _ _ _ hr)
      have h1 : s.wire.count (topic, s.published.length) = 0 :=
        List.count_eq_zero.mpr fun hr => Nat.lt_irrefl _ (h.wire _ _ hr)
      rw [h0, h1, if_pos rfl, Nat.zero_add, Nat.zero_add]
      exact List.count_eq_one_of_mem (h.redis.filter _) (List.mem_filter.mpr ⟨hl.1, hacc⟩)

theorem count_map_callback (callbacks : List κ) (topic topic' : Topic) (callback : κ) (m m' : Nat) :
    (callbacks.map (topic', ·, m')).count (topic, callback, m) =
      if topic = topic' ∧ m = m' then callbacks.count callback else 0 := by
  split
  · rename_i h
    obtain ⟨rfl, rfl⟩ := h
    exact List.count_map_of_injective callbacks (topic, ·, m) (fun _ _ he => (Prod.mk.inj (Prod.mk.inj he).2).1) callback
  · rename_i h
    refine List.count_eq_zero.mpr fun hm => h ?_
    obtain ⟨_, -, he⟩ := List.mem_map.mp hm
    exact ⟨(congrArg (·.1) he).symm, (congrArg (·.2.2) he).symm⟩

theorem Inv.deliver (h : Inv glob s) {m : Nat} {wire : List (Topic × Nat)} (hw : s.wire = (topic, m) :: wire) :
    Inv glob ({ s with wire }.onMessage topic m) := by
  have hm : m < s.published.length := h.wire topic m (hw ▸ List.mem_cons_self)
  have hwire : ∀ topic' m', (topic', m') ∈ wire → m' < s.published.length :=
    fun topic' m' hm' => h.wire topic' m' (hw ▸ List.mem_cons_of_mem _ hm')
  unfold State.onMessage
  split
  · rename_i callbacks hs
    refine { h with wire := hwire, received := ?_, delivers := ?_ }
    · intro topic' callback m' hr
      rcases List.mem_append.mp hr with hr | hr
      · exact h.received topic' callback m' hr
      · obtain ⟨_, -, he⟩ := List.mem_map.mp hr
        cases he
        exact hm
    · intro topic' callback n hsn m' channel message hnm hm' hacc
      have ho := h.delivers topic' callback n hsn m' channel message hnm hm' hacc
      obtain ⟨callbacks', hs', hmem⟩ := h.since topic' callback n hsn
      rw [Once, hw, List.count_cons] at ho
      show (s.received ++ callbacks.map (topic, ·, m)).count (topic', callback, m') + wire.count (topic', m') = 1
      rw [List.count_append, count_map_callback]
      by_cases he : topic' = topic ∧ m' = m
      · obtain ⟨rfl, rfl⟩ := he
        rw [hs, Option.some.injEq] at hs'
        subst hs'
        rw [if_pos ⟨rfl, rfl⟩, List.count_eq_one_of_mem (h.nodup _ _ hs) hmem]
        simp only [beq_self_eq_true, if_true] at ho
        omega
      · have hne : ((topic, m) == (topic', m')) = false := by
          rw [beq_eq_false_iff_ne]
          intro he
          cases he
          exact he ⟨rfl, rfl⟩
        rw [hne] at ho
        rw [if_neg he, Nat.add_zero]
        exact ho
  · rename_i hs
    refine { h with wire := hwire, delivers := ?_ }
    intro topic' callback n hsn m' channel message hnm hm' hacc
    have ho := h.delivers topic' callback n hsn m' channel message hnm hm' hacc
    have hne : ((topic, m) == (topic', m')) = false := by
      rw [beq_eq_false_iff_ne]
      intro he
      cases he
      rw [h.no_since (.inl hs)] at hsn
      cases hsn
    rw [Once, hw, List.count_cons, hne] at ho
    exact ho

theorem inv_init : Inv glob (init : State κ μ) where
  redis := List.nodup_nil
  commands := List.nodup_nil
  bound _ hm := nomatch hm
  noError hm := nomatch hm
  waiting _ _ _ hw := nomatch hw
  alone _ _ _ _ _ hw := nomatch hw
  live _ _ hs := nomatch hs
  nodup _ _ hs := nomatch hs
  since _ _ _ hs := nomatch hs
  wire _ _ hm := nomatch hm
  received _ _ _ hm := nomatch hm
  delivers _ _ _ hs := nomatch hs

theorem inv_step {a : Action κ μ} (h : Inv glob s) (ho : Alone s a) (hs : step glob s a = some s') : Inv glob s' := by
  cases a with
  | subscribe | psubscribe => cases hs; exact h.subscribeTo ho
  | unsubscribe | punsubscribe => cases hs; exact h.unsubscribeFrom ho
  | publish channel message => cases hs; exact h.publish channel message
  | reply ok =>
    simp only [step] at hs
    split at hs
    · cases hs
    · rename_i command commands hc
      cases hs
      exact h.reply hc ok
  | resume c => exact h.resume hs
  | deliver =>
    simp only [step] at hs
    split at hs
    · cases hs
    · rename_i topic m wire hw
      cases hs
      exact h.deliver hw

/-- As long as nobody calls into a subscription that is being made or was
refused, no call fails on a missing set, and whoever has subscribed gets every
message from then on once. -/
theorem subscribers_served (h : (machine glob).Reach Alone s) : .typeError ∉ s.calls ∧ Delivers glob s := by
  have hi : Inv glob s := h.inv inv_init fun _ _ _ hi ho hs => inv_step hi ho hs
  exact ⟨hi.noError, hi.delivers⟩

end

/-! ## Runs -/

/-- Redis patterns as far as the runs need them. -/
def inverterGlob (pattern channel : String) : Bool := pattern = "inverter:*" && channel = "inverter:1"

/-- The second subscriber of a channel comes and goes while the first one waits for Redis. -/
def comesAndGoes : List (Action Nat Nat) :=
  [.subscribe "inverter:1" 0, .subscribe "inverter:1" 1, .unsubscribe "inverter:1" 1, .reply true, .resume 0]

/-- The second subscriber's call returns before Redis has carried the first one's command out. -/
def returnsEarly : List (Action Nat Nat) := [.subscribe "inverter:1" 0, .subscribe "inverter:1" 1, .publish "inverter:1" 7]

theorem subscribers_race :
    (¬ ∀ s : State Nat Nat, (machine inverterGlob).Reach Free s → .typeError ∉ s.calls) ∧
    ¬ ∀ s : State Nat Nat, (machine inverterGlob).Reach Free s → Delivers inverterGlob s := by
  constructor
  · intro h
    have h0 : ((machine inverterGlob).run init comesAndGoes).map (·.calls) =
        some [.typeError, .returned, .unsubscribing none] := by decide
    obtain ⟨s, hs, hc⟩ := Option.map_eq_some_iff.mp h0
    apply h s (Machine.path_of_run hs)
    rw [hc]
    exact List.mem_cons_self
  · intro h
    have h0 : ((machine inverterGlob).run init returnsEarly).map (fun s =>
        (s.since (.channel "inverter:1") 1, s.published, s.received.isEmpty && s.wire.isEmpty)) =
        some (some 0, [("inverter:1", 7)], true) := by decide
    obtain ⟨s, hs, h0⟩ := Option.map_eq_some_iff.mp h0
    simp only [Prod.mk.injEq, Bool.and_eq_true, List.isEmpty_iff] at h0
    obtain ⟨hsn, hp, hr, hw⟩ := h0
    have ho := h s (Machine.path_of_run hs) (.channel "inverter:1") 1 0 hsn 0 "inverter:1" 7 (Nat.le_refl 0)
      (by rw [hp]; rfl) (by decide)
    rw [Once, hr, hw] at ho
    cases ho

/-- A channel and a pattern subscriber; the second message finds the channel's subscriber gone. -/
def oneLeaves : List (Action Nat Nat) :=
  [.subscribe "inverter:1" 0, .psubscribe "inverter:*" 1, .reply true, .reply true, .resume 0, .resume 1,
    .publish "inverter:1" 7, .deliver, .unsubscribe "inverter:1" 0, .reply true, .publish "inverter:1" 8, .deliver]

theorem subscribers_served_oneLeaves : ∃ s : State Nat Nat, ((machine inverterGlob).only Alone).run init oneLeaves = some s ∧
    s.wire = [(.pattern "inverter:*", 1)] ∧ Once s (.pattern "inverter:*") 1 0 := by
  have h0 : (((machine inverterGlob).only Alone).run init oneLeaves).map (fun s =>
      (s.since (.pattern "inverter:*") 1, s.published, s.wire)) =
      some (some 0, [("inverter:1", 7), ("inverter:1", 8)], [(.pattern "inverter:*", 1)]) := by decide
  obtain ⟨s, hs, h0⟩ := Option.map_eq_some_iff.mp h0
  simp only [Prod.mk.injEq] at h0
  obtain ⟨hsn, hp, hw⟩ := h0
  exact ⟨s, hs, hw, (subscribers_served (Machine.path_of_run_only hs)).2 _ 1 0 hsn 0 "inverter:1" 7 (Nat.le_refl 0)
    (by rw [hp]; rfl) (by decide)⟩

end IntellApi.MetricsPubSub
