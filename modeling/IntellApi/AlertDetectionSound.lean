import IntellApi.AlertDetection
import IntellApi.Calls
import IntellApi.Cooldown
import IntellApi.Holders

/-!
# Duplicate suppression under interleaving

`isDuplicate` looks at the newest row and the insert follows some awaits later.
Two evaluations that both look before either inserts save twins
(`suppression_race`). As long as no evaluation looks while another one of the
same user and type is between its look and its insert (`Exclusive`), the alert
log is spaced (`suppression_exclusive`).
-/

namespace IntellApi.AlertDetection

open Alerts Cooldown Holders Lts Function

def cooldownMs (settings : Option UserSettings) : Int := cooldown settings * 60 * 1000

/-! ## The log -/

def entry (a : Alert) : Entry (Uuid × AlertType) :=
  ⟨(a.userId, a.type), severityRank a.severity, getTime a.createdAt⟩

theorem getTime_mono {a b : Int} (h : a ≤ b) : getTime a ≤ getTime b := by
  unfold getTime; omega

structure Ordered (rows : List Alert) (clock : Int) : Prop where
  past : ∀ a ∈ rows, a.createdAt < clock
  sorted : rows.Pairwise fun b a => a.createdAt < b.createdAt

theorem Ordered.latestAlert {rows : List Alert} {clock : Int} (h : Ordered rows clock) (userId : Uuid)
    (type : AlertType) :
    (latestAlert rows userId type).map entry = ((rows.map entry).filter (·.key = (userId, type))).head? := by
  rw [Alerts.latestAlert, Sql.newest_head (h.sorted.filter _), List.filter_map, List.head?_map]
  simp [Function.comp_def, entry]

theorem isDuplicate_false {rows : List Alert} {now : Int} {input : DuplicateCheckInput} {minutes : Int} {a : Alert}
    (h : (isDuplicate rows now input minutes).isDuplicate = false)
    (ha : latestAlert rows input.userId input.type = some a) (hp : getTime a.createdAt ≤ now) :
    severityRank a.severity < severityRank input.severity ∨
      minutes * 60 * 1000 ≤ now - getTime a.createdAt := by
  simp only [isDuplicate, ha] at h
  split at h
  · rename_i hu; exact .inl (by simpa [isSeverityUpgrade] using hu)
  · right
    split at h
    · cases h
    · rename_i hc
      by_cases hm : minutes > 0
      · simp only [hm, true_and, not_lt] at hc; exact hc
      · omega

/-! ## Evaluations between look and insert -/

def Evaluation.slot : Evaluation → Option (Uuid × AlertType)
  | .saving userId _ c _ _ => some (userId, c.alertType)
  | _ => none

def Evaluation.context : Evaluation → Option (Uuid × Option UserSettings)
  | .checking userId settings _ | .saving userId settings _ _ _ | .enqueuing userId settings _ _ =>
    some (userId, settings)
  | _ => none

/-- No evaluation looks while another one of the same user and type is between
its look and its insert. -/
def Exclusive (s : State) : Action → Prop
  | .isDuplicate p _ =>
    match s.evaluations[p]? with
    | some (.checking userId _ (c :: _)) => ∀ e ∈ s.evaluations, e.slot ≠ some (userId, c.alertType)
    | _ => True
  | _ => True

instance (s : State) (a : Action) : Decidable (Exclusive s a) := by
  unfold Exclusive
  split
  · split <;> infer_instance
  · infer_instance

/-- Of two rows of one user and type less than the cooldown apart, the later
one has the higher severity. -/
def WellSpaced (userSettings : Uuid → Option UserSettings) (s : State) : Prop :=
  ∀ x ∈ s.alerts, ∀ y ∈ s.alerts, x ≠ y → x.2.userId = y.2.userId → x.2.type = y.2.type →
    x.2.createdAt ≤ y.2.createdAt →
    getTime y.2.createdAt - getTime x.2.createdAt < cooldownMs (userSettings x.2.userId) →
    severityRank x.2.severity < severityRank y.2.severity

section
variable (userSettings : Uuid → Option UserSettings)

def window (k : Uuid × AlertType) : Int := cooldownMs (userSettings k.1)

def State.log (s : State) : List (Entry (Uuid × AlertType)) := s.rows.map entry

def slots (s : State) (p : Nat) : Option (Uuid × AlertType) := s.evaluations[p]?.bind Evaluation.slot

structure Inv (s : State) : Prop where
  ordered : Ordered s.rows s.clock
  spaced : s.log.Pairwise (Spaced (window userSettings))
  settings : ∀ e ∈ s.evaluations, ∀ c, e.context = some c → c.2 = userSettings c.1
  passed : ∀ e ∈ s.evaluations, ∀ userId settings c now todo, e = .saving userId settings c now todo →
    Passed (window userSettings) s.log (userId, c.alertType) (severityRank c.severity) s.now
  sole : Sole (slots s)

variable {userSettings} {s : State}

theorem inv_init : Inv userSettings init where
  ordered := ⟨fun a ha => (List.not_mem_nil ha).elim, List.Pairwise.nil⟩
  spaced := .nil
  settings e he := by cases he
  passed e he := by cases he
  sole p q k hp := by simp [slots, init] at hp

theorem slots_set {p : Nat} {e e' : Evaluation} (hp : s.evaluations[p]? = some e) :
    slots (s.set p e') = update (slots s) p e'.slot :=
  Calls.bind_set Evaluation.slot hp

theorem Inv.set (h : Inv userSettings s) {p : Nat} {e e' : Evaluation} (hp : s.evaluations[p]? = some e)
    (hc : ∀ c, e'.context = some c → c.2 = userSettings c.1)
    (hs : ∀ userId settings c now todo, e' = .saving userId settings c now todo →
      Passed (window userSettings) s.log (userId, c.alertType) (severityRank c.severity) s.now)
    (hk : ∀ k, e'.slot = some k → ∀ e ∈ s.evaluations, e.slot ≠ some k) : Inv userSettings (s.set p e') where
  ordered := h.ordered
  spaced := h.spaced
  settings x hx := by
    rcases List.mem_or_eq_of_mem_set hx with hx | rfl
    · exact h.settings x hx
    · exact hc
  passed x hx := by
    rcases List.mem_or_eq_of_mem_set hx with hx | rfl
    · exact h.passed x hx
    · exact hs
  sole := by
    rw [slots_set hp]
    cases hk' : e'.slot with
    | none => exact h.sole.erase p
    | some k =>
      refine h.sole.put p fun q hq => ?_
      obtain ⟨x, hx, hxs⟩ := Option.bind_eq_some_iff.mp hq
      exact hk k hk' x (List.mem_of_getElem? hx) hxs

theorem Inv.set_free (h : Inv userSettings s) {p : Nat} {e e' : Evaluation} (hp : s.evaluations[p]? = some e)
    (hc : ∀ c, e'.context = some c → c.2 = userSettings c.1) (hf : e'.slot = none) :
    Inv userSettings (s.set p e') := by
  refine h.set hp hc (fun userId settings c now todo he => ?_) fun k hk => ?_
  · subst he; cases hf
  · rw [hf] at hk; cases hk

theorem Inv.append (h : Inv userSettings s) {e : Evaluation} (hc : e.context = none) (hf : e.slot = none) :
    Inv userSettings { s with evaluations := s.evaluations ++ [e] } where
  ordered := h.ordered
  spaced := h.spaced
  settings x hx := by
    rcases List.mem_append.mp hx with hx | hx
    · exact h.settings x hx
    · rw [List.mem_singleton.mp hx, hc]; intro c hc'; cases hc'
  passed x hx := by
    rcases List.mem_append.mp hx with hx | hx
    · exact h.passed x hx
    · rw [List.mem_singleton.mp hx]; intro userId settings c now todo he; subst he; cases hf
  sole := by
    have hsame : slots { s with evaluations := s.evaluations ++ [e] } = slots s := Calls.bind_snoc Evaluation.slot hf
    rw [hsame]
    exact h.sole

/-! ## What a step does -/

section
variable (inverters : Uuid → Option Inverter) (userSettings : Uuid → Option UserSettings)

/-- The row that `save` inserts for the alert, while the clock moves on. -/
def State.insert (s : State) (userId : Uuid) (settings : Option UserSettings) (c : Candidate) (now : Int) : State :=
  { s with
    alerts := (s.alerts.length, newAlert userId settings c now s.clock) :: s.alerts
    clock := s.clock + 1 }

inductive Change (s : State) : Action → State → Prop
  | tick (us : Nat) : Change s (.tick us) { s with clock := s.clock + us }
  | resolved (alertId : Nat) : Change s (.markAsResolved alertId)
    { s with alerts := s.alerts.map fun r => if r.1 = alertId then (r.1, resolve r.2) else r }
  | malformed : Change s (.handleMetricMessage .malformed) s
  | null : Change s (.handleMetricMessage .null) { s with evaluations := s.evaluations ++ [.unhandledRejection] }
  | started (metric : NormalisedMetric) : Change s (.handleMetricMessage (.metric metric))
    { s with evaluations := s.evaluations ++ [.findingInverter metric] }
  | found (p : Nat) (metric : NormalisedMetric) (inverter : Inverter) :
    s.evaluations[p]? = some (.findingInverter metric) → inverters metric.inverterId = some inverter →
    Change s (.findInverter p true) (s.set p (.loadingSettings inverter metric))
  | rejected (p : Nat) (metric : NormalisedMetric) : s.evaluations[p]? = some (.findingInverter metric) →
    Change s (.findInverter p false) (s.set p .unhandledRejection)
  | loaded (p : Nat) (inverter : Inverter) (metric : NormalisedMetric) :
    s.evaluations[p]? = some (.loadingSettings inverter metric) →
    Change s (.loadSettings p true) (s.set p (.checking inverter.userId (userSettings inverter.userId)
      (evaluateInverter inverter (userSettings inverter.userId) metric)))
  | duplicate (p : Nat) (userId : Uuid) (settings : Option UserSettings) (c : Candidate) (todo : List Candidate) :
    s.evaluations[p]? = some (.checking userId settings (c :: todo)) →
    Change s (.isDuplicate p true) (s.set p (.checking userId settings todo))
  | looked (p : Nat) (userId : Uuid) (settings : Option UserSettings) (c : Candidate) (todo : List Candidate) :
    s.evaluations[p]? = some (.checking userId settings (c :: todo)) →
    (Alerts.isDuplicate s.rows s.now ⟨userId, c.alertType, c.severity⟩ (cooldown settings)).isDuplicate = false →
    Change s (.isDuplicate p true) (s.set p (.saving userId settings c s.now todo))
  | saved (p : Nat) (userId : Uuid) (settings : Option UserSettings) (c : Candidate) (now : Int)
    (todo : List Candidate) (job : AlertJob) : s.evaluations[p]? = some (.saving userId settings c now todo) →
    job = .dispatch s.alerts.length ∨ (∃ date, job = .deferredDelivery s.alerts.length date (date - now)) →
    Change s (.save p true) ((s.insert userId settings c now).set p (.enqueuing userId settings job todo))
  | unscheduled (p : Nat) (userId : Uuid) (settings : Option UserSettings) (c : Candidate) (now : Int)
    (todo : List Candidate) : s.evaluations[p]? = some (.saving userId settings c now todo) →
    deferDelivery settings now c.severity = true → quietHoursEndDate settings now = none →
    Change s (.save p true) ((s.insert userId settings c now).set p .done)
  | added (p : Nat) (userId : Uuid) (settings : Option UserSettings) (job : AlertJob) (todo : List Candidate) :
    s.evaluations[p]? = some (.enqueuing userId settings job todo) →
    Change s (.add p true) (State.set { s with jobs := job :: s.jobs } p (.checking userId settings todo))
  | addFailed (p : Nat) (userId : Uuid) (settings : Option UserSettings) (job : AlertJob) (todo : List Candidate) :
    s.evaluations[p]? = some (.enqueuing userId settings job todo) → Change s (.add p false) (s.set p .done)
  | ended (a : Action) (p : Nat) (e : Evaluation) : s.evaluations[p]? = some e →
    (∀ userId settings job todo, e ≠ .enqueuing userId settings job todo) → Change s a (s.set p .done)

end

theorem change_of_step {inverters : Uuid → Option Inverter} {a : Action} {s' : State}
    (h : step inverters userSettings s a = some s') : Change inverters userSettings s a s' := by
  cases a with
  | tick us =>
    cases h
    exact .tick us
  | markAsResolved alertId =>
    cases h
    exact .resolved alertId
  | handleMetricMessage message =>
    cases message with
    | malformed =>
      cases h
      exact .malformed
    | null =>
      cases h
      exact .null
    | metric metric =>
      cases h
      exact .started metric
  | findInverter p ok =>
    simp only [step] at h
    split at h
    · rename_i metric hp
      cases ok with
      | true =>
        simp only [if_true] at h
        split at h
        · rename_i inverter hi
          split at h <;> cases h
          · exact .found p metric inverter hp hi
          · exact .ended _ p _ hp fun _ _ _ _ he => by cases he
        · cases h
          exact .ended _ p _ hp fun _ _ _ _ he => by cases he
      | false =>
        cases h
        exact .rejected p metric hp
    · cases h
  | loadSettings p ok =>
    simp only [step] at h
    split at h
    · rename_i inverter metric hp
      cases ok with
      | true =>
        cases h
        exact .loaded p inverter metric hp
      | false =>
        cases h
        exact .ended _ p _ hp fun _ _ _ _ he => by cases he
    · cases h
  | isDuplicate p ok =>
    simp only [step] at h
    split at h
    · rename_i hp
      cases h
      exact .ended _ p _ hp fun _ _ _ _ he => by cases he
    · rename_i userId settings c todo hp
      cases ok with
      | true =>
        simp only [if_true] at h
        split at h <;> cases h
        · exact .duplicate p userId settings c todo hp
        · rename_i hd
          exact .looked p userId settings c todo hp (Bool.not_eq_true _ ▸ hd)
      | false =>
        cases h
        exact .ended _ p _ hp fun _ _ _ _ he => by cases he
    · cases h
  | save p ok =>
    simp only [step] at h
    split at h
    · rename_i userId settings c now todo hp
      cases ok with
      | true =>
        simp only [if_true] at h
        split at h
        · rename_i hdefer
          split at h <;> cases h
          · rename_i date hdate
            exact .saved p userId settings c now todo _ hp (.inr ⟨date, rfl⟩)
          · rename_i hdate
            exact .unscheduled p userId settings c now todo hp hdefer hdate
        · cases h
          exact .saved p userId settings c now todo _ hp (.inl rfl)
      | false =>
        cases h
        exact .ended _ p _ hp fun _ _ _ _ he => by cases he
    · cases h
  | add p ok =>
    simp only [step] at h
    split at h
    · rename_i userId settings job todo hp
      cases ok with
      | true =>
        cases h
        exact .added p userId settings job todo hp
      | false =>
        cases h
        exact .addFailed p userId settings job todo hp
    · cases h

/-! ## What becomes of one evaluation -/

section
variable (inverters : Uuid → Option Inverter) (userSettings : Uuid → Option UserSettings)

inductive Moves : Evaluation → Evaluation → Prop
  | found (metric : NormalisedMetric) (inverter : Inverter) : inverters metric.inverterId = some inverter →
    Moves (.findingInverter metric) (.loadingSettings inverter metric)
  | rejected (metric : NormalisedMetric) : Moves (.findingInverter metric) .unhandledRejection
  | loaded (inverter : Inverter) (metric : NormalisedMetric) : Moves (.loadingSettings inverter metric)
    (.checking inverter.userId (userSettings inverter.userId)
      (evaluateInverter inverter (userSettings inverter.userId) metric))
  | duplicate (userId : Uuid) (settings : Option UserSettings) (c : Candidate) (todo : List Candidate) :
    Moves (.checking userId settings (c :: todo)) (.checking userId settings todo)
  | looked (userId : Uuid) (settings : Option UserSettings) (c : Candidate) (now : Int) (todo : List Candidate) :
    Moves (.checking userId settings (c :: todo)) (.saving userId settings c now todo)
  | saved (userId : Uuid) (settings : Option UserSettings) (c : Candidate) (now : Int) (todo : List Candidate)
    (job : AlertJob) : Moves (.saving userId settings c now todo) (.enqueuing userId settings job todo)
  | added (userId : Uuid) (settings : Option UserSettings) (job : AlertJob) (todo : List Candidate) :
    Moves (.enqueuing userId settings job todo) (.checking userId settings todo)
  | ended (e : Evaluation) : Moves e .done

end

/-- Evaluation `p` has been started, and `P` says where it is. -/
def At (P : Evaluation → Prop) (s : State) (p : Nat) : Prop := ∃ e, s.evaluations[p]? = some e ∧ P e

section
variable {inverters : Uuid → Option Inverter} {a : Action} {s' : State} {P : Evaluation → Prop} {p q : Nat}
  {e e' : Evaluation}

theorem At.snoc (h : At P s p) (e : Evaluation) : At P { s with evaluations := s.evaluations ++ [e] } p := by
  obtain ⟨x, hx, hP⟩ := h
  exact ⟨x, Calls.snoc_of_some hx, hP⟩

theorem At.set (h : At P s p) (hq : s.evaluations[q]? = some e) (hk : P e → P e') : At P (s.set q e') p := by
  obtain ⟨x, hx, hP⟩ := h
  rcases Calls.getElem?_set_some (b := e') hq hx with hx | ⟨rfl, hx⟩
  · exact ⟨x, hx, hP⟩
  · exact ⟨e', hx, hk hP⟩

theorem At.change (hP : ∀ e e', P e → Moves inverters userSettings e e' → P e') (h : At P s p)
    (hc : Change inverters userSettings s a s') : At P s' p := by
  cases hc with
  | tick | resolved | malformed => exact h
  | null => exact h.snoc _
  | started metric => exact h.snoc _
  | found q metric inverter hq hi => exact h.set hq fun he => hP _ _ he (.found metric inverter hi)
  | rejected q metric hq => exact h.set hq fun he => hP _ _ he (.rejected metric)
  | loaded q inverter metric hq => exact h.set hq fun he => hP _ _ he (.loaded inverter metric)
  | duplicate q userId settings c todo hq => exact h.set hq fun he => hP _ _ he (.duplicate userId settings c todo)
  | looked q userId settings c todo hq => exact h.set hq fun he => hP _ _ he (.looked userId settings c _ todo)
  | saved q userId settings c now todo job hq =>
    exact At.set (s := s.insert userId settings c now) h hq fun he => hP _ _ he (.saved userId settings c now todo job)
  | unscheduled q userId settings c now todo hq =>
    exact At.set (s := s.insert userId settings c now) h hq fun he => hP _ _ he (.ended _)
  | added q userId settings job todo hq =>
    exact At.set (s := { s with jobs := job :: s.jobs }) h hq fun he => hP _ _ he (.added userId settings job todo)
  | addFailed q userId settings job todo hq => exact h.set hq fun he => hP _ _ he (.ended _)
  | ended _ q e hq => exact h.set hq fun he => hP _ _ he (.ended e)

end

/-! ## Steps -/

theorem Ordered.congr {rows rows' : List Alert} {clock : Int} (h : Ordered rows clock)
    (he : rows'.map (·.createdAt) = rows.map (·.createdAt)) : Ordered rows' clock where
  past a ha := by
    have : a.createdAt ∈ rows.map (·.createdAt) := he ▸ List.mem_map_of_mem ha
    obtain ⟨b, hb, e⟩ := List.mem_map.mp this
    exact e ▸ h.past b hb
  sorted := by
    have : (rows.map (·.createdAt)).Pairwise fun b a => a < b := List.pairwise_map.mpr h.sorted
    rw [← he] at this
    exact List.pairwise_map.mp this

theorem rows_resolve {β : Type*} (g : Alert → β) (hg : ∀ a, g (resolve a) = g a) (alertId : Nat) :
    ((s.alerts.map fun r => if r.1 = alertId then (r.1, resolve r.2) else r).map (·.2)).map g = s.rows.map g := by
  simp only [State.rows, List.map_map]
  refine List.map_congr_left fun r _ => ?_
  by_cases h : r.1 = alertId <;> simp [h, hg]

theorem Inv.markAsResolved (h : Inv userSettings s) (alertId : Nat) :
    Inv userSettings { s with alerts := s.alerts.map fun r => if r.1 = alertId then (r.1, resolve r.2) else r } := by
  have hl : State.log { s with alerts := s.alerts.map fun r => if r.1 = alertId then (r.1, resolve r.2) else r } =
      s.log := rows_resolve entry (fun _ => rfl) alertId
  exact ⟨h.ordered.congr (rows_resolve _ (fun _ => rfl) alertId), by rw [hl]; exact h.spaced, h.settings,
    by rw [hl]; exact h.passed, h.sole⟩

theorem Inv.tick (h : Inv userSettings s) (us : Nat) : Inv userSettings { s with clock := s.clock + us } where
  ordered := ⟨fun a ha => by have := h.ordered.past a ha; dsimp only; omega, h.ordered.sorted⟩
  spaced := h.spaced
  settings := h.settings
  passed e he userId settings c now todo hs :=
    (h.passed e he userId settings c now todo hs).mono (getTime_mono (by dsimp only; omega))
  sole := h.sole

/-- A negative answer of `isDuplicate` is good for the whole log. -/
theorem Inv.look (h : Inv userSettings s) {userId : Uuid} {settings : Option UserSettings} {c : Candidate}
    (hs : settings = userSettings userId)
    (hd : (isDuplicate s.rows s.now ⟨userId, c.alertType, c.severity⟩ (cooldown settings)).isDuplicate = false) :
    Passed (window userSettings) s.log (userId, c.alertType) (severityRank c.severity) s.now := by
  refine Passed.of_newest h.spaced fun e he => ?_
  rw [State.log, ← h.ordered.latestAlert, Option.map_eq_some_iff] at he
  obtain ⟨a, ha, rfl⟩ := he
  have hp : getTime a.createdAt ≤ s.now := by
    have := h.ordered.past a (List.mem_of_mem_filter (Sql.newest_mem ha))
    exact getTime_mono (by omega)
  subst hs
  exact ⟨hp, isDuplicate_false hd ha hp⟩

theorem Inv.save (h : Inv userSettings s) {p : Nat} {userId : Uuid} {settings : Option UserSettings}
    {c : Candidate} {now : Int} {todo : List Candidate} {e' : Evaluation}
    (hp : s.evaluations[p]? = some (.saving userId settings c now todo))
    (hc : ∀ k, e'.context = some k → k = (userId, settings)) (hf : e'.slot = none) :
    Inv userSettings (State.set { s with
      alerts := (s.alerts.length, newAlert userId settings c now s.clock) :: s.alerts, clock := s.clock + 1 } p e') := by
  have hm := List.mem_of_getElem? hp
  have hpass := h.passed _ hm _ _ _ _ _ rfl
  have hsp : slots s p = some (userId, c.alertType) := by simp [slots, hp, Evaluation.slot]
  refine ⟨⟨?_, ?_⟩, ?_, ?_, ?_, ?_⟩
  · intro a ha
    rcases List.mem_cons.mp ha with rfl | ha
    · exact Int.lt_succ s.clock
    · have := h.ordered.past a ha; simp only [State.set]; omega
  · exact List.pairwise_cons.mpr ⟨fun a ha => h.ordered.past a ha, h.ordered.sorted⟩
  · exact hpass.spaced h.spaced
  · intro x hx k hk
    rcases List.mem_or_eq_of_mem_set hx with hx | rfl
    · exact h.settings x hx k hk
    · rw [hc k hk]; exact h.settings _ hm _ rfl
  · intro x hx userId' settings' c' now' todo' hs
    obtain ⟨q, hq⟩ := List.mem_iff_getElem?.mp hx
    rcases Calls.set_cases hq with ⟨-, rfl⟩ | ⟨hne, hq⟩
    · subst hs; cases hf
    · subst hs
      -- another evaluation waits for another user or type
      have hk : (userId, c.alertType) ≠ (userId', c'.alertType) := fun e =>
        hne (h.sole q p _ (by simp [slots, hq, Evaluation.slot, e]) hsp)
      exact ((h.passed _ (List.mem_of_getElem? hq) _ _ _ _ _ rfl).cons_other hk).mono
        (getTime_mono (by simp only [State.set]; omega))
  · have := h.sole.erase p
    rw [← hf, ← slots_set hp] at this
    exact this

theorem inv_step {inverters : Uuid → Option Inverter} {a : Action} {s' : State} (h : Inv userSettings s)
    (ho : Exclusive s a) (hs : step inverters userSettings s a = some s') : Inv userSettings s' := by
  cases change_of_step hs with
  | tick us => exact h.tick us
  | resolved alertId => exact h.markAsResolved alertId
  | malformed => exact h
  | null => exact h.append rfl rfl
  | started metric => exact h.append rfl rfl
  | found p metric inverter hp hi => exact h.set_free hp (fun _ hc => by cases hc) rfl
  | rejected p metric hp => exact h.set_free hp (fun _ hc => by cases hc) rfl
  | loaded p inverter metric hp => exact h.set_free hp (by simp [Evaluation.context]) rfl
  | duplicate p userId settings c todo hp =>
    have hset := h.settings _ (List.mem_of_getElem? hp) _ rfl
    exact h.set_free hp (by simpa [Evaluation.context] using hset) rfl
  | looked p userId settings c todo hp hd =>
    have hset := h.settings _ (List.mem_of_getElem? hp) _ rfl
    refine h.set hp (by simpa [Evaluation.context] using hset) ?_ ?_
    · intro _ _ _ _ _ he
      cases he
      exact h.look hset hd
    · intro k he
      cases he
      simpa only [Exclusive, hp] using ho
  | saved p userId settings c now todo job hp hj => exact h.save hp (by simp [Evaluation.context]) rfl
  | unscheduled p userId settings c now todo hp hdefer hdate => exact h.save hp (by simp [Evaluation.context]) rfl
  | added p userId settings job todo hp =>
    have hset := h.settings _ (List.mem_of_getElem? hp) _ rfl
    have hinv : Inv userSettings (s.set p (.checking userId settings todo)) :=
      h.set_free hp (by simpa [Evaluation.context] using hset) rfl
    exact ⟨hinv.ordered, hinv.spaced, hinv.settings, hinv.passed, hinv.sole⟩
  | addFailed p userId settings job todo hp => exact h.set_free hp (by simp [Evaluation.context]) rfl
  | ended _ p e hp he => exact h.set_free hp (by simp [Evaluation.context]) rfl

theorem Inv.wellSpaced (h : Inv userSettings s) : WellSpaced userSettings s := by
  intro x hx y hy hne hu ht hle hlt
  have hsp : s.alerts.Pairwise fun b a => Spaced (window userSettings) (entry b.2) (entry a.2) := by
    have := h.spaced
    rwa [State.log, State.rows, List.map_map, List.pairwise_map] at this
  have hord : s.alerts.Pairwise fun b a => a.2.createdAt < b.2.createdAt := List.pairwise_map.mp h.ordered.sorted
  rcases rel_or_rel (hord.and hsp) hx hy hne with ⟨hlt', -⟩ | ⟨-, hsp⟩
  · omega
  · exact (hsp (by simp [entry, hu, ht])).2 hlt

/-- No evaluation looking while another one of the same user and type is about
to insert, the rows of one user and type less than the cooldown apart have
rising severities. -/
theorem suppression_exclusive {inverters : Uuid → Option Inverter}
    (h : (machine inverters userSettings).Reach Exclusive s) : WellSpaced userSettings s :=
  (h.inv (I := Inv userSettings) inv_init fun _ _ _ hi ho hs => inv_step hi ho hs).wellSpaced

end

/-! ## Runs -/

def oneInverter (id : Uuid) : Option Inverter :=
  if id = 1 then some ⟨1, 5, .victron, true, false, 10, 0⟩ else none

def lowBattery (soc : ℚ) : Message := .metric ⟨1, .null, .number 1, .number (.num soc)⟩

/-- Two messages of one inverter, each evaluation looking before the other one inserts. -/
def lookLookSaveSave : List Action :=
  [.handleMetricMessage (lowBattery 5), .handleMetricMessage (lowBattery 5), .findInverter 0 true,
    .findInverter 1 true, .loadSettings 0 true, .loadSettings 1 true, .isDuplicate 0 true, .isDuplicate 1 true,
    .save 0 true, .save 1 true]

theorem suppression_race :
    ¬ ∀ s, (machine oneInverter fun _ => none).Reach Free s → WellSpaced (fun _ => none) s := by
  intro h
  have h0 : ((machine oneInverter fun _ => none).run init lookLookSaveSave).map (·.alerts) =
      some [(1, ⟨5, .batteryPercentage, .critical, some .unresolved, 0, true, 1⟩),
        (0, ⟨5, .batteryPercentage, .critical, some .unresolved, 0, true, 0⟩)] := by decide +kernel
  obtain ⟨s, hs, ha⟩ := Option.map_eq_some_iff.mp h0
  have := h s (Machine.path_of_run hs) (0, ⟨5, .batteryPercentage, .critical, some .unresolved, 0, true, 0⟩)
    (by simp [ha]) (1, ⟨5, .batteryPercentage, .critical, some .unresolved, 0, true, 1⟩) (by simp [ha])
    (by simp) rfl rfl (by decide) (by decide)
  exact absurd this (lt_irrefl _)

def warningThenCritical : List Action :=
  [.handleMetricMessage (lowBattery 16), .findInverter 0 true, .loadSettings 0 true, .isDuplicate 0 true,
    .save 0 true, .add 0 true, .tick 60000000, .handleMetricMessage (lowBattery 5), .findInverter 1 true,
    .loadSettings 1 true, .isDuplicate 1 true, .save 1 true]

theorem suppression_upgrade :
    ∃ s, ((machine oneInverter fun _ => none).only Exclusive).run init warningThenCritical = some s ∧
      s.rows.map (·.severity) = [.critical, .warning] ∧ WellSpaced (fun _ => none) s := by
  have h0 : (((machine oneInverter fun _ => none).only Exclusive).run init warningThenCritical).map
      (fun s => s.rows.map (·.severity)) = some [.critical, .warning] := by decide +kernel
  obtain ⟨s, hs, ha⟩ := Option.map_eq_some_iff.mp h0
  exact ⟨s, hs, ha, suppression_exclusive (Machine.path_of_run_only hs)⟩

end IntellApi.AlertDetection
