import IntellApi.Chatbot

/-!
# Token usage of a turn

A model step is a run of chunks of the model's node; the steps of a turn have
other chunks between them. The stream variant logs the usage a step has
reported last when the next other chunk or the end of the stream is met. A
stream that throws leaves the loop without either, so the usage of the step
under way is not logged (`usage_accounted_iff`). An aggregate of the events is
compared with the single event of the variant that does not stream.
-/

namespace IntellApi.Chatbot

structure UsageMetadata where
  inputTokens : Nat
  outputTokens : Nat
  totalTokens : Nat
  deriving DecidableEq, Repr

def UsageMetadata.spent (usage : UsageMetadata) : Bool := usage.totalTokens > 0

def UsageMetadata.add (acc u : UsageMetadata) : UsageMetadata :=
  ⟨acc.inputTokens + u.inputTokens, acc.outputTokens + u.outputTokens, acc.totalTokens + u.totalTokens⟩

def UsageMetadata.zero : UsageMetadata := ⟨0, 0, 0⟩

inductive AiUsageEventType
  | chatMessage
  | titleGeneration
  | cardGeneration
  deriving DecidableEq, Repr

structure AiUsageEvent where
  userId : Uuid
  chatId : Uuid
  eventType : AiUsageEventType
  inputTokens : Nat
  outputTokens : Nat
  totalTokens : Nat
  deriving DecidableEq, Repr

/-- The row of an event. Nobody waits for it to be stored. -/
def logUsage (userId : Uuid) (eventType : AiUsageEventType) (usage : UsageMetadata) (chatId : Uuid) : AiUsageEvent :=
  ⟨userId, chatId, eventType, usage.inputTokens, usage.outputTokens, usage.totalTokens⟩

def Invocation.event (invocation : Invocation) (usage : UsageMetadata) : AiUsageEvent :=
  logUsage invocation.userId .chatMessage usage invocation.chatId

def Invocation.asks (invocation : Invocation) : Bool :=
  invocation.messages.getLast?.any fun currentMessage => !currentMessage.content.toList.all isTrimmed

/-! ## Without a stream -/

structure ResponseMessage where
  isAIMessage : Bool
  content : String
  usageMetadata : Option UsageMetadata
  deriving DecidableEq, Repr

def totalUsage (msgs : List ResponseMessage) : UsageMetadata :=
  (msgs.filter (·.isAIMessage)).foldl (fun acc msg => (msg.usageMetadata.map acc.add).getD acc) .zero

/-- The content, `none` when the agent throws, and the events. -/
def invokeWithHistory (invocation : Invocation) (response : Option (List ResponseMessage)) :
    Option String × List AiUsageEvent :=
  if !invocation.asks then (some "No message to respond to.", [])
  else
    match response with
    | none => (none, [])
    | some msgs =>
      (msgs.getLast?.map (·.content),
        if (totalUsage msgs).spent then [invocation.event (totalUsage msgs)] else [])

/-! ## The stream -/

/-- `content` is what the message has of text. -/
structure Chunk where
  langgraphNode : Option String
  content : Option String
  usageMetadata : Option UsageMetadata
  deriving DecidableEq, Repr

def Chunk.isModelNode (chunk : Chunk) : Bool := chunk.langgraphNode = some "model_request"

structure Streaming where
  fullContent : String
  tokens : List String
  currentNodeUsage : Option UsageMetadata
  events : List AiUsageEvent
  deriving DecidableEq, Repr

namespace Streaming

def onToken (s : Streaming) (token : String) : Streaming :=
  { s with fullContent := s.fullContent ++ token, tokens := s.tokens ++ [token] }

def pending (s : Streaming) : Option UsageMetadata := s.currentNodeUsage.filter (·.spent)

def next (invocation : Invocation) (s : Streaming) (chunk : Chunk) : Streaming :=
  if !chunk.isModelNode then
    match s.pending with
    | some usage => { s with events := s.events ++ [invocation.event usage], currentNodeUsage := none }
    | none => s
  else
    let s :=
      match chunk.content with
      | some content => if content.toList.all isTrimmed then s else s.onToken content
      | none => s
    match chunk.usageMetadata with
    | some usage => { s with currentNodeUsage := some usage }
    | none => s

/-- After the loop: `thrown` when it is left by an error. -/
def finish (invocation : Invocation) (s : Streaming) (thrown : Bool) : Streaming :=
  if thrown then
    if s.fullContent = "" then s.onToken "Sorry, something went wrong on my end. Please try again." else s
  else
    match s.pending with
    | some usage => { s with events := s.events ++ [invocation.event usage] }
    | none => s

end Streaming

/-- The chunks the stream gives before it ends or throws. -/
def invokeWithHistoryStream (invocation : Invocation) (stream : List Chunk) (thrown : Bool) : Streaming :=
  if !invocation.asks then ⟨"No message to respond to.", ["No message to respond to."], none, []⟩
  else (stream.foldl (Streaming.next invocation) ⟨"", [], none, []⟩).finish invocation thrown

/-! ## The answer of a turn -/

section
variable (invocation : Invocation)

theorem content_eq (reply : Option String) :
    invocation.content reply = if invocation.asks then reply else some "No message to respond to." := by
  unfold Invocation.content Invocation.asks
  cases invocation.messages.getLast? with
  | none => rfl
  | some currentMessage => cases h : currentMessage.content.toList.all isTrimmed <;> simp [h]

theorem invokeWithHistory_content (response : Option (List ResponseMessage)) :
    (invokeWithHistory invocation response).1 =
    invocation.content (response.bind fun msgs => msgs.getLast?.map (·.content)) := by
  rw [content_eq]
  unfold invokeWithHistory
  cases invocation.asks with
  | false => rfl
  | true => cases response <;> rfl

theorem stream_content (stream : List Chunk) (thrown : Bool) :
    some (invokeWithHistoryStream invocation stream thrown).fullContent = invocation.content
      (some ((stream.foldl (Streaming.next invocation) ⟨"", [], none, []⟩).finish invocation thrown).fullContent) := by
  rw [content_eq, invokeWithHistoryStream]
  cases invocation.asks <;> rfl

end

/-! ## Model steps -/

def closed (step : List Chunk) : List (List Chunk) := if step.isEmpty then [] else [step]

/-- The model steps that another chunk has ended, and the chunks of the one under way. -/
def split (step : List Chunk) : List Chunk → List (List Chunk) × List Chunk
  | [] => ([], step)
  | chunk :: stream =>
    if chunk.isModelNode then split (step ++ [chunk]) stream
    else (closed step ++ (split [] stream).1, (split [] stream).2)

def modelSteps (stream : List Chunk) : List (List Chunk) := (split [] stream).1 ++ closed (split [] stream).2

def usages (step : List Chunk) : List UsageMetadata := step.filterMap (·.usageMetadata)

/-- The last usage of the step that is not zero. -/
def lastSpent (step : List Chunk) : Option UsageMetadata := ((usages step).filter (·.spent)).getLast?

/-- What the loop has at hand when the step ends. -/
def latest (step : List Chunk) : Option UsageMetadata := (usages step).getLast?.filter (·.spent)

/-- A step that has reported usage does not end on a report of zero. -/
def EndsOnUsage (step : List Chunk) : Prop :=
  ∀ usage ∈ usages step, usage.spent = true → ∀ last ∈ (usages step).getLast?, last.spent = true

theorem split_model {step : List Chunk} (hstep : ∀ chunk ∈ step, chunk.isModelNode = true) (before rest : List Chunk) :
    split before (step ++ rest) = split (before ++ step) rest := by
  induction step generalizing before with
  | nil => simp
  | cons chunk step ih =>
    rw [List.forall_mem_cons] at hstep
    rw [List.cons_append, split, if_pos hstep.1, ih hstep.2, List.append_assoc, List.singleton_append]

theorem split_others {gap : List Chunk} (hgap : ∀ chunk ∈ gap, chunk.isModelNode = false) (rest : List Chunk) :
    split [] (gap ++ rest) = split [] rest := by
  induction gap with
  | nil => rfl
  | cons chunk gap ih =>
    rw [List.forall_mem_cons] at hgap
    rw [List.cons_append, split, if_neg (by simp [hgap.1]), ih hgap.2]
    simp [closed]

/-- Steps with other chunks after each of them are found again. -/
theorem modelSteps_turn {turn : List (List Chunk × List Chunk)} {underWay : List Chunk}
    (hstep : ∀ p ∈ turn, p.1 ≠ [] ∧ ∀ chunk ∈ p.1, chunk.isModelNode = true)
    (hgap : ∀ p ∈ turn, p.2 ≠ [] ∧ ∀ chunk ∈ p.2, chunk.isModelNode = false)
    (hopen : ∀ chunk ∈ underWay, chunk.isModelNode = true) :
    modelSteps (turn.flatMap (fun p => p.1 ++ p.2) ++ underWay) = turn.map (·.1) ++ closed underWay := by
  have hsplit : split [] (turn.flatMap (fun p => p.1 ++ p.2) ++ underWay) = (turn.map (·.1), underWay) := by
    induction turn with
    | nil => simpa [split] using split_model hopen [] []
    | cons p turn ih =>
      rw [List.forall_mem_cons] at hstep hgap
      obtain ⟨⟨hne, hmodel⟩, hstep⟩ := hstep
      obtain ⟨⟨hne', hothers⟩, hgap⟩ := hgap
      obtain ⟨chunk, gap, hp⟩ := List.exists_cons_of_ne_nil hne'
      rw [hp, List.forall_mem_cons] at hothers
      rw [List.flatMap_cons, hp, List.append_assoc, List.append_assoc, split_model hmodel, List.cons_append,
        List.nil_append, split, if_neg (by simp [hothers.1]), split_others hothers.2, ih hstep hgap]
      simp [closed, hne]
  rw [modelSteps, hsplit]

/-! ## What the loop logs -/

theorem latest_append (step : List Chunk) (chunk : Chunk) : latest (step ++ [chunk]) =
    match chunk.usageMetadata with
    | some usage => (some usage).filter (·.spent)
    | none => latest step := by
  unfold latest usages
  rw [List.filterMap_append]
  cases h : chunk.usageMetadata <;> simp [h]

theorem filterMap_closed {β : Type} {f : List Chunk → Option β} (hf : f [] = none) (step : List Chunk) :
    (closed step).filterMap f = (f step).toList := by
  cases step with
  | nil => rw [hf]; rfl
  | cons chunk step => cases h : f (chunk :: step) <;> simp [closed, h]

section
variable {invocation : Invocation} {s : Streaming} {step : List Chunk} {chunk : Chunk}

theorem next_model (hm : chunk.isModelNode = true) (h : s.pending = latest step) :
    (s.next invocation chunk).events = s.events ∧ (s.next invocation chunk).pending = latest (step ++ [chunk]) := by
  rw [latest_append]
  unfold Streaming.next
  rw [if_neg (by simp [hm])]
  cases chunk.usageMetadata with
  | none =>
    cases chunk.content with
    | none => exact ⟨rfl, h⟩
    | some content =>
      simp only
      split
      · exact ⟨rfl, h⟩
      · exact ⟨rfl, h⟩
  | some usage =>
    cases chunk.content with
    | none => exact ⟨rfl, rfl⟩
    | some content =>
      simp only
      split
      · exact ⟨rfl, rfl⟩
      · exact ⟨rfl, rfl⟩

theorem next_other (hm : chunk.isModelNode = false) :
    (s.next invocation chunk).events = s.events ++ s.pending.toList.map invocation.event ∧
      (s.next invocation chunk).pending = none := by
  unfold Streaming.next
  rw [if_pos (by simp [hm])]
  cases hp : s.pending with
  | none => exact ⟨by simp, hp⟩
  | some usage => exact ⟨rfl, rfl⟩

/-- The events of the steps that have ended; the usage of the one under way is waiting. -/
theorem foldl_next (stream : List Chunk) : ∀ (step : List Chunk) (s : Streaming), s.pending = latest step →
    (stream.foldl (Streaming.next invocation) s).events =
      s.events ++ ((split step stream).1.filterMap latest).map invocation.event ∧
    (stream.foldl (Streaming.next invocation) s).pending = latest (split step stream).2 := by
  induction stream with
  | nil => intro step s h; simpa [split] using h
  | cons chunk stream ih =>
    intro step s h
    rw [List.foldl_cons, split]
    cases hm : chunk.isModelNode with
    | true =>
      obtain ⟨he, hp⟩ := @next_model invocation _ _ _ hm h
      rw [if_pos rfl, ← he]
      exact ih _ _ hp
    | false =>
      obtain ⟨he, hp⟩ := @next_other invocation s _ hm
      obtain ⟨hes, hps⟩ := ih [] _ hp
      rw [if_neg (by simp), List.filterMap_append, filterMap_closed rfl, ← h]
      refine ⟨?_, hps⟩
      rw [hes, he, List.map_append, List.append_assoc]

end

/-- The steps, each with whether the loop gets to log it. -/
def logged (stream : List Chunk) (thrown : Bool) : List (List Chunk × Bool) :=
  (split [] stream).1.map (·, true) ++ [((split [] stream).2, !thrown)]

def atHand (step : List Chunk × Bool) : Option UsageMetadata := if step.2 then latest step.1 else none

theorem stream_events {invocation : Invocation} (h : invocation.asks = true) (stream : List Chunk) (thrown : Bool) :
    (invokeWithHistoryStream invocation stream thrown).events =
      ((logged stream thrown).filterMap atHand).map invocation.event := by
  obtain ⟨he, hp⟩ := @foldl_next invocation stream [] ⟨"", [], none, []⟩ rfl
  rw [invokeWithHistoryStream, h, if_neg (by simp), logged, List.filterMap_append, List.filterMap_map]
  have hsteps : (split [] stream).1.filterMap (atHand ∘ (·, true)) = (split [] stream).1.filterMap latest := rfl
  rw [hsteps, List.map_append, Streaming.finish]
  cases thrown with
  | true =>
    rw [if_pos rfl]
    split
    · simpa [Streaming.onToken, atHand] using he
    · simpa [atHand] using he
  | false =>
    rw [if_neg (by simp), hp]
    cases hl : latest (split [] stream).2 with
    | none => simpa [atHand, hl] using he
    | some usage => simp [atHand, hl, he]

theorem filterMap_lastSpent (stream : List Chunk) (thrown : Bool) :
    (logged stream thrown).filterMap (fun p => lastSpent p.1) = (modelSteps stream).filterMap lastSpent := by
  rw [logged, modelSteps, List.filterMap_append, List.filterMap_append, List.filterMap_map, filterMap_closed rfl]
  have hsteps : (split [] stream).1.filterMap ((fun p => lastSpent p.1) ∘ (·, true)) =
    (split [] stream).1.filterMap lastSpent := rfl
  rw [hsteps]
  cases h : lastSpent (split [] stream).2 <;> simp [h]

/-! ## When nothing is lost -/

theorem length_filterMap_le {α β : Type} {g f : α → Option β} (h : ∀ a b, g a = some b → f a = some b) (l : List α) :
    (l.filterMap g).length ≤ (l.filterMap f).length := by
  induction l with
  | nil => simp
  | cons a l ih =>
    cases hg : g a with
    | some b => simpa [hg, h a b hg] using ih
    | none =>
      rw [List.filterMap_cons_none hg]
      cases hf : f a with
      | none => simpa [hf] using ih
      | some b => simpa [hf] using Nat.le_succ_of_le ih

theorem filterMap_eq_iff {α β : Type} {g f : α → Option β} (h : ∀ a b, g a = some b → f a = some b) (l : List α) :
    l.filterMap g = l.filterMap f ↔ ∀ a ∈ l, g a = f a := by
  refine ⟨?_, List.filterMap_congr⟩
  induction l with
  | nil => simp
  | cons a l ih =>
    intro he
    rw [List.forall_mem_cons]
    cases hg : g a with
    | some b =>
      rw [List.filterMap_cons_some hg, List.filterMap_cons_some (h a b hg), List.cons.injEq] at he
      exact ⟨(h a b hg).symm, ih he.2⟩
    | none =>
      rw [List.filterMap_cons_none hg] at he
      cases hf : f a with
      | none =>
        rw [List.filterMap_cons_none hf] at he
        exact ⟨rfl, ih he⟩
      | some b =>
        rw [List.filterMap_cons_some hf] at he
        have := length_filterMap_le h l
        rw [he, List.length_cons] at this
        omega

theorem latest_lastSpent {step : List Chunk} {usage : UsageMetadata} (h : latest step = some usage) :
    lastSpent step = some usage := by
  unfold latest lastSpent at *
  rw [Option.filter_eq_some_iff] at h
  obtain ⟨before, hu⟩ := List.getLast?_eq_some_iff.mp h.1
  rw [hu]
  simp [h.2]

theorem lastSpent_eq_none {step : List Chunk} : lastSpent step = none ↔ ∀ usage ∈ usages step, usage.spent = false := by
  simp [lastSpent]

theorem latest_eq_lastSpent {step : List Chunk} : latest step = lastSpent step ↔ EndsOnUsage step := by
  constructor
  · intro h usage hu hs last hl
    by_contra hn
    -- what is at hand is nothing, what was reported last of more is something
    have hnone : latest step = none := by
      rw [latest, Option.mem_def.mp hl]
      simpa using hn
    rw [hnone, eq_comm, lastSpent_eq_none] at h
    rw [h usage hu] at hs
    cases hs
  · intro h
    cases hl : lastSpent step with
    | none =>
      cases hlatest : latest step with
      | none => rfl
      | some usage => rw [latest_lastSpent hlatest] at hl; cases hl
    | some usage =>
      have hu := List.mem_filter.mp (List.mem_of_getLast? hl)
      cases hlast : (usages step).getLast? with
      | none => rw [List.getLast?_eq_none_iff.mp hlast] at hu; cases hu.1
      | some last =>
        have hlatest : latest step = some last := by
          rw [latest, hlast, Option.filter_some, if_pos (h usage hu.1 hu.2 last hlast)]
        rw [latest_lastSpent hlatest] at hl
        exact hlatest.trans hl

/-- Every step of the stream is logged with what it has used. -/
structure AllLogged (stream : List Chunk) (thrown : Bool) : Prop where
  ends : ∀ step ∈ modelSteps stream, EndsOnUsage step
  underWay : thrown = true → ∀ usage ∈ usages (split [] stream).2, usage.spent = false

theorem atHand_iff {stream : List Chunk} {thrown : Bool} :
    (∀ p ∈ logged stream thrown, atHand p = lastSpent p.1) ↔ AllLogged stream thrown := by
  have hclosed : (∀ step ∈ closed (split [] stream).2, EndsOnUsage step) ↔ EndsOnUsage (split [] stream).2 := by
    unfold closed
    split
    · rename_i h
      rw [List.isEmpty_iff.mp h]
      simp [EndsOnUsage, usages]
    · simp
  have hlogged : (∀ p ∈ logged stream thrown, atHand p = lastSpent p.1) ↔
      (∀ step ∈ (split [] stream).1, EndsOnUsage step) ∧
        atHand ((split [] stream).2, !thrown) = lastSpent (split [] stream).2 := by
    simp only [logged, List.forall_mem_append, List.forall_mem_map, List.forall_mem_singleton, ← latest_eq_lastSpent]
    exact Iff.rfl
  have hall : AllLogged stream thrown ↔ ((∀ step ∈ (split [] stream).1, EndsOnUsage step) ∧
      EndsOnUsage (split [] stream).2) ∧ (thrown = true → ∀ usage ∈ usages (split [] stream).2, usage.spent = false) := by
    rw [← hclosed, ← List.forall_mem_append]
    exact ⟨fun h => ⟨h.ends, h.underWay⟩, fun h => ⟨h.1, h.2⟩⟩
  rw [hlogged, hall, and_assoc]
  refine and_congr_right fun _ => ?_
  cases thrown with
  | true =>
    have hnone : atHand ((split [] stream).2, !true) = lastSpent (split [] stream).2 ↔
        ∀ usage ∈ usages (split [] stream).2, usage.spent = false := eq_comm.trans lastSpent_eq_none
    rw [hnone]
    refine ⟨fun h => ⟨fun usage hu hs => ?_, fun _ => h⟩, fun h => h.2 rfl⟩
    rw [h usage hu] at hs
    cases hs
  | false =>
    have hlatest : atHand ((split [] stream).2, !false) = lastSpent (split [] stream).2 ↔
        EndsOnUsage (split [] stream).2 := latest_eq_lastSpent
    rw [hlatest]
    simp

def Cumulative (step : List Chunk) : Prop := (usages step).Pairwise fun u v => u.totalTokens ≤ v.totalTokens

theorem endsOnUsage_of_cumulative {step : List Chunk} (h : Cumulative step) : EndsOnUsage step := by
  intro usage hu hs last hl
  obtain ⟨before, hb⟩ := List.getLast?_eq_some_iff.mp hl
  rw [Cumulative, hb, List.pairwise_append] at h
  rw [hb] at hu
  rcases List.mem_append.mp hu with hu | hu
  · have := h.2.2 usage hu last (List.mem_singleton.mpr rfl)
    simp only [UsageMetadata.spent, decide_eq_true_eq] at hs ⊢
    omega
  · rw [List.mem_singleton.mp hu] at hs
    exact hs

/-- Usage that only grows within a step is lost by an error alone. -/
theorem allLogged_iff_of_cumulative {stream : List Chunk} {thrown : Bool}
    (h : ∀ step ∈ modelSteps stream, Cumulative step) :
    AllLogged stream thrown ↔ (thrown = true → ∀ usage ∈ usages (split [] stream).2, usage.spent = false) :=
  ⟨fun ha => ha.underWay, fun hu => ⟨fun step hs => endsOnUsage_of_cumulative (h step hs), hu⟩⟩

/-! ## Sums -/

def AiUsageEvent.usage (event : AiUsageEvent) : UsageMetadata :=
  ⟨event.inputTokens, event.outputTokens, event.totalTokens⟩

def eventTotal (events : List AiUsageEvent) : UsageMetadata := (events.map (·.usage)).foldl .add .zero

theorem eventTotal_map (invocation : Invocation) (us : List UsageMetadata) :
    eventTotal (us.map invocation.event) = us.foldl .add .zero := by
  rw [eventTotal, List.map_map]
  exact congrArg (List.foldl _ _) (List.map_id us)

theorem zero_add (u : UsageMetadata) : UsageMetadata.zero.add u = u := by
  simp [UsageMetadata.zero, UsageMetadata.add]

theorem le_foldl_add (us : List UsageMetadata) (acc : UsageMetadata) :
    acc.totalTokens ≤ (us.foldl .add acc).totalTokens := by
  induction us generalizing acc with
  | nil => exact Nat.le_refl _
  | cons u us ih => exact Nat.le_trans (Nat.le_add_right _ _) (ih (acc.add u))

theorem totalUsage_eq (msgs : List ResponseMessage) :
    totalUsage msgs = (((msgs.filter (·.isAIMessage)).map (·.usageMetadata)).filterMap id).foldl .add .zero := by
  rw [totalUsage, List.filterMap_map]
  generalize UsageMetadata.zero = acc
  induction msgs.filter (·.isAIMessage) generalizing acc with
  | nil => rfl
  | cons msg msgs ih => cases h : msg.usageMetadata <;> simp [h, ih]

/-- The event of the variant that does not stream is the sum of the usages of its steps. -/
theorem invokeWithHistory_total {invocation : Invocation} (ha : invocation.asks = true) {msgs : List ResponseMessage}
    {steps : List (List Chunk)} (h : (msgs.filter (·.isAIMessage)).map (·.usageMetadata) = steps.map lastSpent) :
    eventTotal (invokeWithHistory invocation (some msgs)).2 = (steps.filterMap lastSpent).foldl .add .zero := by
  have htotal : totalUsage msgs = (steps.filterMap lastSpent).foldl .add .zero := by
    rw [totalUsage_eq, h, List.filterMap_map]; rfl
  rw [invokeWithHistory, ha, if_neg (by simp)]
  simp only
  split
  · rw [← List.map_singleton (f := invocation.event), eventTotal_map, htotal]
    exact zero_add _
  · rename_i hs
    -- every summand is positive, so there is none
    cases hus : steps.filterMap lastSpent with
    | nil => rfl
    | cons u us =>
      obtain ⟨step, -, hu⟩ := List.mem_filterMap.mp (hus ▸ List.mem_cons_self : u ∈ steps.filterMap lastSpent)
      have hspent : u.spent = true := (List.mem_filter.mp (List.mem_of_getLast? hu)).2
      rw [htotal, hus, List.foldl_cons, zero_add] at hs
      have := le_foldl_add us u
      simp only [UsageMetadata.spent, decide_eq_true_eq] at hs hspent
      omega

/-! ## The account -/

/-- No stream is opened when there is nothing to answer. -/
def Invocation.seen (invocation : Invocation) (stream : List Chunk) : List Chunk :=
  if invocation.asks then stream else []

theorem event_injective (invocation : Invocation) : Function.Injective invocation.event := by
  intro u v h
  cases u; cases v
  simpa [Invocation.event, logUsage] using h

/-- One event for each model step, with the last usage it reported, and the sum that the other variant logs: when no
step ends on zero and no usage is at hand when the stream throws. -/
theorem usage_accounted_iff (invocation : Invocation) (stream : List Chunk) (thrown : Bool) :
    ((invokeWithHistoryStream invocation stream thrown).events =
        ((modelSteps (invocation.seen stream)).filterMap lastSpent).map invocation.event ∧
      ∀ msgs : List ResponseMessage,
        (msgs.filter (·.isAIMessage)).map (·.usageMetadata) = (modelSteps (invocation.seen stream)).map lastSpent →
        eventTotal (invokeWithHistoryStream invocation stream thrown).events =
          eventTotal (invokeWithHistory invocation (some msgs)).2) ↔
    AllLogged (invocation.seen stream) thrown := by
  unfold Invocation.seen
  cases ha : invocation.asks with
  | false =>
    have hevents : (invokeWithHistoryStream invocation stream thrown).events = [] := by
      rw [invokeWithHistoryStream, ha]; rfl
    rw [hevents, if_neg (by simp)]
    refine iff_of_true ⟨rfl, fun msgs _ => ?_⟩ ⟨fun step hs => ?_, fun _ usage hu => ?_⟩
    · rw [invokeWithHistory, ha]; rfl
    · cases hs
    · cases hu
  | true =>
    rw [if_pos rfl, stream_events ha, ← filterMap_lastSpent stream thrown, (event_injective invocation).list_map.eq_iff,
      filterMap_eq_iff, atHand_iff]
    · refine ⟨fun h => h.1, fun h => ⟨h, fun msgs hmsgs => ?_⟩⟩
      rw [invokeWithHistory_total ha hmsgs, eventTotal_map, List.filterMap_congr (atHand_iff.mpr h),
        filterMap_lastSpent]
    · intro p usage hp
      unfold atHand at hp
      split at hp
      · exact latest_lastSpent hp
      · cases hp

def question : Invocation := ⟨[⟨1, 1, 0, "How much?", .user 7⟩], 7, none, 1⟩

/-- The answer has begun and its usage been reported when the stream breaks. -/
theorem usage_of_broken_step : ¬ ∀ (invocation : Invocation) (stream : List Chunk) (thrown : Bool),
    (invokeWithHistoryStream invocation stream thrown).events =
        ((modelSteps (invocation.seen stream)).filterMap lastSpent).map invocation.event ∧
      ∀ msgs : List ResponseMessage,
        (msgs.filter (·.isAIMessage)).map (·.usageMetadata) = (modelSteps (invocation.seen stream)).map lastSpent →
        eventTotal (invokeWithHistoryStream invocation stream thrown).events =
          eventTotal (invokeWithHistory invocation (some msgs)).2 := by
  intro h
  have := (h question [⟨some "model_request", some "About", some ⟨10, 5, 15⟩⟩] true).1
  revert this
  decide +kernel

end IntellApi.Chatbot
