import IntellApi.AlertDetection
import IntellApi.Cooldown

/-!
# The newest alert and the whole log

`isDuplicate` looks at the newest alert of a user and type only. It speaks for
the whole log as long as the newest one is not resolved before the others are:
in such a run an alert that is let through outranks every unresolved one.
-/

namespace IntellApi.AlertLog

open Alerts AlertDetection Lts
open AlertDetection (resolve)

/-! ## The log -/

/-- A row's id is its place in the order of the inserts; the newest row is first. -/
structure State where
  clock : Int
  alerts : List (Nat × Alert)

inductive Action
  | tick (us : Nat)
  | save (input : DuplicateCheckInput) (cooldownMinutes : Int) (deliverable : Bool)
  | markAsResolved (alertId : Nat)

namespace State

def now (s : State) : Int := getTime s.clock

def rows (s : State) : List Alert := s.alerts.map (·.2)

def isDuplicate (s : State) (input : DuplicateCheckInput) (cooldownMinutes : Int) : Bool :=
  (Alerts.isDuplicate s.rows s.now input cooldownMinutes).isDuplicate

end State

def savedAlert (s : State) (input : DuplicateCheckInput) (deliverable : Bool) : Alert :=
  { userId := input.userId, type := input.type, severity := input.severity, resolutionStatus := some .unresolved
    triggeredAt := s.now, deliverable, createdAt := s.clock }

def step (s : State) : Action → Option State
  | .tick us => some { s with clock := s.clock + us }
  | .save input cooldownMinutes deliverable =>
    if s.isDuplicate input cooldownMinutes then none
    else some { clock := s.clock + 1, alerts := (s.alerts.length, savedAlert s input deliverable) :: s.alerts }
  | .markAsResolved alertId =>
    some { s with alerts := s.alerts.map fun r => if r.1 = alertId then (r.1, resolve r.2) else r }

def machine : Machine State Action := ⟨⟨0, []⟩, step⟩

/-! ## The rule -/

def SameKind (a b : Alert) : Prop := a.userId = b.userId ∧ a.type = b.type

def Resolved (a : Alert) : Prop := a.resolutionStatus = some .resolved

instance (a b : Alert) : Decidable (SameKind a b) := inferInstanceAs (Decidable (_ ∧ _))

instance (a : Alert) : Decidable (Resolved a) := inferInstanceAs (Decidable (_ = _))

/-- What is let through outranks every unresolved alert of its user and type. -/
def Suppressing (s : State) : Prop :=
  ∀ input cooldownMinutes, s.isDuplicate input cooldownMinutes = false →
    ∀ a ∈ s.rows, a.userId = input.userId → a.type = input.type → ¬ Resolved a →
      severityRank a.severity < severityRank input.severity

def Newest (s : State) (a : Alert) : Prop := ∀ b ∈ s.rows, SameKind b a → b.createdAt ≤ a.createdAt

/-- An alert that is resolved is not the newest of its user and type, or all
the others are resolved. -/
def NewestLast (s : State) : Action → Prop
  | .markAsResolved alertId =>
    ∀ r ∈ s.alerts, r.1 = alertId → Newest s r.2 →
      ∀ r' ∈ s.alerts, SameKind r'.2 r.2 → r'.1 ≠ alertId → Resolved r'.2
  | _ => True

instance (s : State) (a : Alert) : Decidable (Newest s a) :=
  inferInstanceAs (Decidable (∀ b ∈ s.rows, SameKind b a → b.createdAt ≤ a.createdAt))

instance (s : State) : (a : Action) → Decidable (NewestLast s a)
  | .markAsResolved alertId =>
    inferInstanceAs (Decidable (∀ r ∈ s.alerts, r.1 = alertId → Newest s r.2 →
      ∀ r' ∈ s.alerts, SameKind r'.2 r.2 → r'.1 ≠ alertId → Resolved r'.2))
  | .tick _ | .save _ _ _ => instDecidableTrue

/-! ## The invariant -/

/-- A later row is newer, and outranks an earlier one that is not resolved yet. -/
def Rises (y x : Nat × Alert) : Prop :=
  x.2.createdAt < y.2.createdAt ∧
    (SameKind x.2 y.2 → ¬ Resolved x.2 → severityRank x.2.severity < severityRank y.2.severity)

structure Sound (s : State) : Prop where
  past : ∀ r ∈ s.alerts, r.2.createdAt < s.clock
  rises : s.alerts.Pairwise Rises
  settled : ∀ r ∈ s.alerts, Newest s r.2 → Resolved r.2 → ∀ r' ∈ s.alerts, SameKind r'.2 r.2 → Resolved r'.2

variable {s s' : State} {a : Action} {input : DuplicateCheckInput} {minutes : Int}

theorem mem_rows {r : Nat × Alert} (h : r ∈ s.alerts) : r.2 ∈ s.rows := List.mem_map_of_mem h

/-- The newest alert is not resolved, or everything is. -/
theorem cases_of_not_duplicate (h : s.isDuplicate input minutes = false) {x : Alert} (hx : x ∈ s.rows)
    (hu : x.userId = input.userId) (ht : x.type = input.type) :
    ∃ b ∈ s.rows, b.userId = input.userId ∧ b.type = input.type ∧ Newest s b ∧
      (severityRank b.severity < severityRank input.severity ∨ Resolved b) := by
  have hmem : x ∈ s.rows.filter fun a => a.userId = input.userId ∧ a.type = input.type := by
    simp [hx, hu, ht]
  obtain ⟨b, hbm, hb, hle⟩ := Sql.exists_newest (·.createdAt) hmem
  obtain ⟨hbr, hbk⟩ := List.mem_filter.mp hbm
  simp only [decide_eq_true_eq] at hbk
  refine ⟨b, hbr, hbk.1, hbk.2, fun c hc hk => ?_, ?_⟩
  · refine hle c ?_
    simp [hc, hk.1.trans hbk.1, hk.2.trans hbk.2]
  · have hl : latestAlert s.rows input.userId input.type = some b := hb
    simp only [State.isDuplicate, Alerts.isDuplicate, hl] at h
    split at h
    · rename_i hup
      exact .inl (of_decide_eq_true hup)
    · split at h
      · cases h
      · split at h
        · cases h
        · rename_i hr
          exact .inr (not_not.mp hr)

theorem Sound.suppressing (h : Sound s) : Suppressing s := by
  intro input minutes hd x hx hu ht hn
  obtain ⟨b, hb, hbu, hbt, hnew, hcase⟩ := cases_of_not_duplicate hd hx hu ht
  obtain ⟨rx, hrx, rfl⟩ := List.mem_map.mp hx
  obtain ⟨rb, hrb, rfl⟩ := List.mem_map.mp hb
  have hkind : SameKind rx.2 rb.2 := ⟨hu.trans hbu.symm, ht.trans hbt.symm⟩
  rcases hcase with hlt | hres
  · by_cases he : rx = rb
    · rw [he]
      exact hlt
    · rcases Cooldown.rel_or_rel h.rises hrb hrx (Ne.symm he) with hr | hr
      · have := hr.2 hkind hn
        omega
      · have h1 := hr.1
        have h2 := hnew _ hx hkind
        omega
  · exact absurd (h.settled rb hrb hnew hres rx hrx hkind) hn

/-! ## Steps -/

theorem sound_init : Sound machine.init where
  past r hr := by cases hr
  rises := .nil
  settled r hr := by cases hr

theorem Sound.save (h : Sound s) (hd : s.isDuplicate input minutes = false) (deliverable : Bool) :
    Sound ⟨s.clock + 1, (s.alerts.length, savedAlert s input deliverable) :: s.alerts⟩ where
  past r hr := by
    rcases List.mem_cons.mp hr with rfl | hr
    · exact Int.lt_succ _
    · exact Int.lt_trans (h.past r hr) (Int.lt_succ _)
  rises := by
    refine List.pairwise_cons.mpr ⟨fun r hr => ⟨h.past r hr, fun hk hn => ?_⟩, h.rises⟩
    exact h.suppressing input minutes hd r.2 (mem_rows hr) hk.1 hk.2 hn
  settled r hr hnew hres := by
    rcases List.mem_cons.mp hr with rfl | hr
    · exact absurd hres (by simp [Resolved, savedAlert])
    · intro r' hr' hk
      rcases List.mem_cons.mp hr' with rfl | hr'
      · -- the new alert would be newer
        have := hnew _ List.mem_cons_self hk
        have hpast := h.past r hr
        simp only [savedAlert] at this
        omega
      · exact h.settled r hr (fun b hb => hnew b (List.mem_cons_of_mem _ hb)) hres r' hr' hk

def resolveRow (alertId : Nat) (r : Nat × Alert) : Nat × Alert := if r.1 = alertId then (r.1, resolve r.2) else r

section
variable (alertId : Nat) (r : Nat × Alert)

@[simp] theorem resolveRow_createdAt : (resolveRow alertId r).2.createdAt = r.2.createdAt := by
  unfold resolveRow
  split <;> rfl

@[simp] theorem resolveRow_severity : (resolveRow alertId r).2.severity = r.2.severity := by
  unfold resolveRow
  split <;> rfl

@[simp] theorem sameKind_resolveRow (r' : Nat × Alert) :
    SameKind (resolveRow alertId r).2 (resolveRow alertId r').2 ↔ SameKind r.2 r'.2 := by
  unfold resolveRow
  split <;> split <;> exact Iff.rfl

theorem resolved_resolveRow : Resolved (resolveRow alertId r).2 ↔ r.1 = alertId ∨ Resolved r.2 := by
  unfold resolveRow
  by_cases h : r.1 = alertId <;> simp [h, Resolved, resolve]

end

theorem newest_resolveRow {alertId : Nat} {r : Nat × Alert} :
    Newest { s with alerts := s.alerts.map (resolveRow alertId) } (resolveRow alertId r).2 ↔ Newest s r.2 := by
  constructor
  · intro h b hb hk
    obtain ⟨x, hx, rfl⟩ := List.mem_map.mp hb
    have := h (resolveRow alertId x).2 (mem_rows (List.mem_map_of_mem hx)) ((sameKind_resolveRow ..).mpr hk)
    simpa using this
  · intro h b hb hk
    obtain ⟨y, hy, rfl⟩ := List.mem_map.mp hb
    obtain ⟨x, hx, rfl⟩ := List.mem_map.mp hy
    have := h x.2 (mem_rows hx) ((sameKind_resolveRow ..).mp hk)
    simpa using this

theorem rises_resolveRow (h : s.alerts.Pairwise Rises) (alertId : Nat) :
    (s.alerts.map (resolveRow alertId)).Pairwise Rises := by
  refine List.pairwise_map.mpr (h.imp fun {y x} hyx => ⟨by simpa using hyx.1, fun hk hn => ?_⟩)
  have hn' : ¬ Resolved x.2 := fun hx => hn ((resolved_resolveRow ..).mpr (.inr hx))
  simpa using hyx.2 ((sameKind_resolveRow ..).mp hk) hn'

theorem Sound.resolve (h : Sound s) {alertId : Nat} (ho : NewestLast s (.markAsResolved alertId)) :
    Sound { s with alerts := s.alerts.map (resolveRow alertId) } where
  past r' hr' := by
    obtain ⟨r, hr, rfl⟩ := List.mem_map.mp hr'
    simpa using h.past r hr
  rises := rises_resolveRow h.rises alertId
  settled r' hr' hnew hres x' hx' hk := by
    obtain ⟨r, hr, rfl⟩ := List.mem_map.mp hr'
    obtain ⟨x, hx, rfl⟩ := List.mem_map.mp hx'
    have hnew := newest_resolveRow.mp hnew
    have hk := (sameKind_resolveRow ..).mp hk
    rw [resolved_resolveRow] at hres ⊢
    rcases hres with hid | hres
    · by_cases hxid : x.1 = alertId
      · exact .inl hxid
      · exact .inr (ho r hr hid hnew x hx hk hxid)
    · exact .inr (h.settled r hr hnew hres x hx hk)

theorem sound_step (h : Sound s) (ho : NewestLast s a) (hs : step s a = some s') : Sound s' := by
  cases a with
  | tick us =>
    cases hs
    exact ⟨fun r hr => Int.lt_of_lt_of_le (h.past r hr) (by simp), h.rises, h.settled⟩
  | save input minutes deliverable =>
    simp only [step] at hs
    split at hs <;> cases hs
    rename_i hd
    exact h.save (Bool.not_eq_true _ ▸ hd) deliverable
  | markAsResolved alertId =>
    cases hs
    exact h.resolve ho

/-! ## Results -/

/-- As long as the newest alert of a user and type is resolved last, an alert
that is let through outranks every one that is not resolved. -/
theorem suppressing_of_newestLast (h : machine.Reach NewestLast s) : Suppressing s := by
  have hsound : Sound s := h.inv sound_init fun s a s' hi ho hs => sound_step hi ho hs
  exact hsound.suppressing

theorem latestAlert_of_newest (h : s.alerts.Pairwise Rises) {r : Nat × Alert} (hr : r ∈ s.alerts)
    (hnew : Newest s r.2) : latestAlert s.rows r.2.userId r.2.type = some r.2 := by
  have hmem : r.2 ∈ s.rows.filter fun a => a.userId = r.2.userId ∧ a.type = r.2.type := by
    simp [mem_rows hr]
  obtain ⟨b, hbm, hb, hle⟩ := Sql.exists_newest (·.createdAt) hmem
  obtain ⟨hbr, hbk⟩ := List.mem_filter.mp hbm
  have hle := hle r.2 hmem
  have hge := hnew b hbr (of_decide_eq_true hbk)
  obtain ⟨rb, hrb, rfl⟩ := List.mem_map.mp hbr
  by_cases he : rb = r
  · subst he
    exact hb
  · -- two rows differ in the time of their insert
    rcases Cooldown.rel_or_rel h hrb hr he with hr | hr
    · have := hr.1
      omega
    · have := hr.1
      omega

/-- Resolving the newest alert before another one lets that one's twin through. -/
theorem not_suppressing_of_resolve (h : Sound s) {alertId : Nat} (ho : ¬ NewestLast s (.markAsResolved alertId))
    (hs : step s (.markAsResolved alertId) = some s') : ¬ Suppressing s' := by
  simp only [NewestLast, not_forall] at ho
  obtain ⟨r, hr, hid, hnew, x, hx, hk, hxid, hn⟩ := ho
  cases hs
  intro hsup
  have hlatest := latestAlert_of_newest (rises_resolveRow h.rises alertId) (List.mem_map_of_mem hr)
    (newest_resolveRow.mpr hnew)
  have hres : (resolveRow alertId r).2.resolutionStatus = some .resolved := (resolved_resolveRow ..).mpr (.inl hid)
  have hrow : resolveRow alertId x = x := if_neg hxid
  have hxmem : x ∈ s.alerts.map (resolveRow alertId) := by
    rw [← hrow]
    exact List.mem_map_of_mem hx
  have hkind := (sameKind_resolveRow alertId x r).mpr hk
  rw [hrow] at hkind
  have hpass : State.isDuplicate { s with alerts := s.alerts.map (resolveRow alertId) }
      ⟨(resolveRow alertId r).2.userId, (resolveRow alertId r).2.type, x.2.severity⟩ 0 = false := by
    unfold State.isDuplicate Alerts.isDuplicate
    simp only [hlatest, hres]
    split
    · rfl
    · simp
  exact absurd (hsup _ 0 hpass x.2 (mem_rows hxmem) hkind.1 hkind.2 hn) (Nat.lt_irrefl _)

/-- A warning, a critical alert 20 minutes later. -/
def escalated : List Action :=
  [.save ⟨1, .batteryPercentage, .warning⟩ 15 true, .tick 1200000000, .save ⟨1, .batteryPercentage, .critical⟩ 15 true]

/-- The warning is still open, and another one is let through. -/
theorem twin_of_open_warning : ¬ ∀ s, machine.Reach Free s → Suppressing s := by
  intro h
  have h0 : (machine.run machine.init (escalated ++ [.markAsResolved 1, .tick 1200000000])).map
      (fun s => (s.isDuplicate ⟨1, .batteryPercentage, .warning⟩ 15, s.rows.any fun a =>
        a.userId = 1 ∧ a.type = .batteryPercentage ∧ a.severity = .warning ∧ ¬ Resolved a)) = some (false, true) := by
    decide +kernel
  obtain ⟨s, hs, h0⟩ := Option.map_eq_some_iff.mp h0
  simp only [Prod.mk.injEq, List.any_eq_true, decide_eq_true_eq] at h0
  obtain ⟨hpass, a, ha, hu, ht, hw, hn⟩ := h0
  have hlt := h s (Machine.path_of_run hs) ⟨1, .batteryPercentage, .warning⟩ 15 hpass a ha hu ht hn
  rw [hw] at hlt
  exact absurd hlt (Nat.lt_irrefl _)

theorem suppressing_after_resolving_in_order : ∃ s, (machine.only NewestLast).run machine.init
      (escalated ++ [.markAsResolved 0, .markAsResolved 1, .tick 1200000000]) = some s ∧
    s.isDuplicate ⟨1, .batteryPercentage, .warning⟩ 15 = false ∧ Suppressing s := by
  have h0 : ((machine.only NewestLast).run machine.init
      (escalated ++ [.markAsResolved 0, .markAsResolved 1, .tick 1200000000])).map
      (·.isDuplicate ⟨1, .batteryPercentage, .warning⟩ 15) = some false := by decide +kernel
  obtain ⟨s, hs, h0⟩ := Option.map_eq_some_iff.mp h0
  exact ⟨s, hs, h0, suppressing_of_newestLast (Machine.path_of_run_only hs)⟩

end IntellApi.AlertLog
