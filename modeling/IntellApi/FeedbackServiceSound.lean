import IntellApi.Calls
import IntellApi.FeedbackService

/-!
# Resolved items

An item that is resolved has a time and an admin, any other has neither
(`Sound`). The payload keeps this for the status it was made for: an update that
writes over a status other than the one it read may leave a time behind or take
it away, and so does a `null` in place of the status.
-/

namespace IntellApi.FeedbackService

open Function Lts

variable {s s' : State} {a : Action}

/-! ## Resolved rows -/

def Resolved (row : Feedback) : Prop := row.status = .resolved ↔ row.resolvedAt ≠ none ∧ row.resolvedByAdminId ≠ none

/-- What the request sets goes with what the row has become since `feedback` was read. -/
def Agrees (row feedback : Feedback) : DtoField FeedbackStatus → Prop
  | .undefined => True
  | .null => feedback.status = .resolved → row.status ≠ .resolved
  | .value .resolved => feedback.status = .resolved → row.status = .resolved
  | .value _ => feedback.status ≠ .resolved → row.status ≠ .resolved

def Call.InTime (rows : Uuid → Option Feedback) : Call → Prop
  | .updating id feedback dto _ _ => ∀ row ∈ rows id, Agrees row feedback dto.status
  | _ => True

def InTime (s : State) : Action → Prop
  | .updated c true => ∀ call ∈ s.calls[c]?, call.InTime s.rows
  | _ => True

instance (row feedback : Feedback) : (status : DtoField FeedbackStatus) → Decidable (Agrees row feedback status)
  | .undefined => instDecidableTrue
  | .null => inferInstanceAs (Decidable (_ → _))
  | .value .resolved => inferInstanceAs (Decidable (_ → _))
  | .value .open => inferInstanceAs (Decidable (_ → _))
  | .value .inProgress => inferInstanceAs (Decidable (_ → _))

instance (rows : Uuid → Option Feedback) : (call : Call) → Decidable (call.InTime rows)
  | .updating id feedback dto _ _ => inferInstanceAs (Decidable (∀ row ∈ rows id, Agrees row feedback dto.status))
  | .creating _ _ _ | .returned _ | .threw _ => instDecidableTrue

instance (s : State) : (a : Action) → Decidable (InTime s a)
  | .updated c true => inferInstanceAs (Decidable (∀ call ∈ s.calls[c]?, call.InTime s.rows))
  | .updated _ false | .tick _ | .create _ _ _ | .created _ _ _ | .update _ _ _ _ => instDecidableTrue

/-! ## Rows -/

structure Sound (row : Feedback) : Prop where
  resolved : row.status = .resolved → row.resolvedAt ≠ none ∧ row.resolvedByAdminId ≠ none
  unresolved : row.status ≠ .resolved → row.resolvedAt = none ∧ row.resolvedByAdminId = none

theorem Sound.iff {row : Feedback} (h : Sound row) : Resolved row := by
  refine ⟨h.resolved, fun hx => ?_⟩
  by_contra hn
  exact hx.1 (h.unresolved hn).1

section
variable {row feedback : Feedback} {dto : UpdateFeedbackDto} {adminId : Uuid} {now : Int}

theorem sound_newFeedback (dto : CreateFeedbackDto) (currentUser : AuthenticatedUser) (user : User) :
    Sound (newFeedback dto currentUser user) :=
  ⟨fun h => (by cases h), fun _ => ⟨rfl, rfl⟩⟩

theorem resolvedAt_apply : ((updatePayload feedback dto adminId now).apply row).resolvedAt =
    if transitioningFromResolved dto feedback then none
    else if transitioningToResolved dto feedback then some now else row.resolvedAt := by
  simp only [UpdatePayload.apply, updatePayload]
  split
  · rfl
  · split <;> rfl

theorem resolvedByAdminId_apply : ((updatePayload feedback dto adminId now).apply row).resolvedByAdminId =
    if transitioningFromResolved dto feedback then none
    else if transitioningToResolved dto feedback then some adminId else row.resolvedByAdminId := by
  simp only [UpdatePayload.apply, updatePayload]
  split
  · rfl
  · split <;> rfl

theorem status_apply :
    ((updatePayload feedback dto adminId now).apply row).status = dto.status.truthy.getD row.status := rfl

theorem fromResolved_iff : transitioningFromResolved dto feedback = true ↔
    (dto.status = .null ∨ dto.status = .value .open ∨ dto.status = .value .inProgress) ∧
      feedback.status = .resolved := by
  simp only [transitioningFromResolved, Bool.and_eq_true, decide_eq_true_eq]
  cases dto.status with
  | undefined => simp
  | null => simp
  | value d => cases d <;> simp

theorem toResolved_iff : transitioningToResolved dto feedback = true ↔
    dto.status = .value .resolved ∧ feedback.status ≠ .resolved := by
  simp only [transitioningToResolved, Bool.and_eq_true, decide_eq_true_eq]

/-- A payload without a resolution goes with a status that is as resolved as the row. -/
theorem status_kept (ha : Agrees row feedback dto.status) (hf : ¬ transitioningFromResolved dto feedback = true)
    (ht : ¬ transitioningToResolved dto feedback = true) :
    dto.status.truthy.getD row.status = .resolved ↔ row.status = .resolved := by
  rw [fromResolved_iff] at hf
  rw [toResolved_iff] at ht
  cases hd : dto.status with
  | undefined | null => exact Iff.rfl
  | value d =>
    rw [hd] at ha hf ht
    show d = .resolved ↔ row.status = .resolved
    cases d with
    | resolved =>
      have hfr : feedback.status = .resolved := by
        by_contra hn
        exact ht ⟨rfl, hn⟩
      exact iff_of_true rfl (ha hfr)
    | «open» => exact iff_of_false (fun he => by cases he) (ha fun he => hf ⟨.inr (.inl rfl), he⟩)
    | inProgress => exact iff_of_false (fun he => by cases he) (ha fun he => hf ⟨.inr (.inr rfl), he⟩)

theorem Sound.apply (h : Sound row) (ha : Agrees row feedback dto.status) :
    Sound ((updatePayload feedback dto adminId now).apply row) := by
  by_cases hf : transitioningFromResolved dto feedback = true
  · have hs : dto.status.truthy.getD row.status ≠ .resolved := by
      obtain ⟨hd | hd | hd, hfr⟩ := fromResolved_iff.mp hf
      · rw [hd] at ha ⊢
        exact ha hfr
      · rw [hd]
        exact fun he => by cases he
      · rw [hd]
        exact fun he => by cases he
    refine ⟨fun hr => absurd hr hs, fun _ => ?_⟩
    rw [resolvedAt_apply, resolvedByAdminId_apply, if_pos hf, if_pos hf]
    exact ⟨rfl, rfl⟩
  by_cases ht : transitioningToResolved dto feedback = true
  · refine ⟨fun _ => ?_, fun hr => absurd ?_ hr⟩
    · rw [resolvedAt_apply, resolvedByAdminId_apply, if_neg hf, if_neg hf, if_pos ht, if_pos ht]
      exact ⟨Option.some_ne_none _, Option.some_ne_none _⟩
    · rw [status_apply, (toResolved_iff.mp ht).1]
      rfl
  · have hs := status_kept ha hf ht
    constructor
    · rw [resolvedAt_apply, resolvedByAdminId_apply, if_neg hf, if_neg hf, if_neg ht, if_neg ht]
      exact fun hr => h.resolved (hs.mp hr)
    · rw [resolvedAt_apply, resolvedByAdminId_apply, if_neg hf, if_neg hf, if_neg ht, if_neg ht]
      exact fun hr => h.unresolved fun he => hr (hs.mpr he)

theorem not_resolved_apply (h : Sound row) (ha : ¬ Agrees row feedback dto.status) :
    ¬ Resolved ((updatePayload feedback dto adminId now).apply row) := by
  unfold Resolved
  rw [status_apply]
  cases hd : dto.status with
  | undefined =>
    rw [hd] at ha
    exact absurd trivial ha
  | null =>
    rw [hd] at ha
    simp only [Agrees, Classical.not_imp, ne_eq, not_not] at ha
    rw [resolvedAt_apply, if_pos (fromResolved_iff.mpr ⟨.inl hd, ha.1⟩)]
    exact fun hx => (hx.mp ha.2).1 rfl
  | value d =>
    rw [hd] at ha
    by_cases he : d = .resolved
    · subst he
      simp only [Agrees, Classical.not_imp] at ha
      have hnf : ¬ transitioningFromResolved dto feedback = true := by
        rw [fromResolved_iff, hd]
        simp
      have hnt : ¬ transitioningToResolved dto feedback = true := fun ht => (toResolved_iff.mp ht).2 ha.1
      rw [resolvedAt_apply, if_neg hnf, if_neg hnt]
      exact fun hx => (hx.mp rfl).1 (h.unresolved ha.2).1
    · have ha : feedback.status ≠ .resolved ∧ row.status = .resolved := by
        cases d with
        | resolved => exact absurd rfl he
        | «open» | inProgress => simpa [Agrees] using ha
      have hnt : ¬ transitioningToResolved dto feedback = true := by
        rw [toResolved_iff, hd]
        exact fun hx => he (DtoField.value.inj hx.1)
      have hnf : ¬ transitioningFromResolved dto feedback = true := fun hf => ha.1 (fromResolved_iff.mp hf).2
      rw [resolvedAt_apply, resolvedByAdminId_apply, if_neg hnf, if_neg hnf, if_neg hnt, if_neg hnt]
      exact fun hx => he (hx.mpr (h.resolved ha.2))

end

/-! ## Runs -/

def AllSound (s : State) : Prop := ∀ id row, s.rows id = some row → Sound row

theorem AllSound.update (h : AllSound s) {id : Uuid} {row : Feedback} (hr : Sound row) :
    AllSound { s with rows := Function.update s.rows id (some row) } := by
  intro id' row' hrow
  by_cases he : id' = id
  · subst he
    cases (update_self id' (some row) s.rows).symm.trans hrow
    exact hr
  · exact h id' row' ((update_of_ne he (some row) s.rows).symm.trans hrow)

theorem allSound_step (h : AllSound s) (ho : InTime s a) (hs : step s a = some s') : AllSound s' := by
  cases a with
  | tick ms =>
    cases hs
    exact h
  | create dto currentUser user =>
    simp only [step] at hs
    split at hs <;> cases hs
    · exact h
    · exact h
  | created c newId ok =>
    simp only [step] at hs
    split at hs
    · rename_i dto currentUser user hc
      split at hs
      · split at hs <;> cases hs
        exact h.update (sound_newFeedback dto currentUser user)
      · cases hs
        exact h
    · cases hs
  | update id dto adminId ok =>
    simp only [step] at hs
    split at hs
    · split at hs <;> cases hs
      · exact h
      · exact h
    · cases hs
      exact h
  | updated c ok =>
    simp only [step] at hs
    split at hs
    · rename_i id feedback dto adminId now hc
      cases ok with
      | false =>
        cases hs
        exact h
      | true =>
        simp only [if_true] at hs
        split at hs <;> cases hs
        · rename_i row hrow
          exact h.update ((h id row hrow).apply (ho _ hc row hrow))
        · exact h
    · cases hs

/-- As long as no update decides by a resolution that has changed since, and none
takes an item up again with a `null`, items and their resolutions agree. -/
theorem resolution_consistent (h : machine.Reach InTime s) (id : Uuid) (row : Feedback) (hr : s.rows id = some row) :
    row.status = .resolved ↔ row.resolvedAt ≠ none ∧ row.resolvedByAdminId ≠ none := by
  have h0 : AllSound init := fun _ _ he => by cases he
  have hs : AllSound s := h.inv h0 fun _ _ _ hi ho hs => allSound_step hi ho hs
  exact (hs id row hr).iff

/-- Any other update breaks it. -/
theorem inconsistent_of_not_inTime (h : AllSound s) (ho : ¬ InTime s a) (hs : step s a = some s') :
    ∃ id row, s'.rows id = some row ∧ ¬ Resolved row := by
  have hlate : ∃ c, a = .updated c true ∧ ∃ call ∈ s.calls[c]?, ¬ call.InTime s.rows := by
    unfold InTime at ho
    split at ho
    · obtain ⟨call, hcall⟩ := not_forall.mp ho
      exact ⟨_, rfl, call, Classical.not_imp.mp hcall⟩
    · exact absurd trivial ho
  obtain ⟨c, rfl, call, hc, hn⟩ := hlate
  cases call with
  | creating | returned | threw => exact absurd trivial hn
  | updating id feedback dto adminId now =>
    obtain ⟨row, hrow⟩ := not_forall.mp hn
    obtain ⟨hrow, hn⟩ := Classical.not_imp.mp hrow
    have hc : s.calls[c]? = some (.updating id feedback dto adminId now) := hc
    have hrow : s.rows id = some row := hrow
    simp only [step, hc, hrow, if_true] at hs
    cases hs
    exact ⟨id, _, update_self _ _ _, not_resolved_apply (h id row hrow) hn⟩

def item : List Action :=
  [.create ⟨"billing", .low, "?"⟩ ⟨1, "a@b.c"⟩ (some ⟨"A", "B"⟩), .created 0 7 true]

def setStatus (status : FeedbackStatus) : Action := .update 7 ⟨.value status, .undefined, .undefined⟩ 2 true

/-- Both updates read the open item. -/
theorem overlapping_updates : ¬ ∀ s id row, machine.Reach Free s → s.rows id = some row →
    (row.status = .resolved ↔ row.resolvedAt ≠ none ∧ row.resolvedByAdminId ≠ none) := by
  intro h
  have h0 : (machine.run init (item ++ [setStatus .resolved, setStatus .inProgress, .updated 1 true, .updated 2 true])).map
      (fun s => (s.rows 7).map fun row => (row.status, row.resolvedAt, row.resolvedByAdminId)) =
      some (some (.inProgress, some 0, some 2)) := by decide
  obtain ⟨s, hs, h0⟩ := Option.map_eq_some_iff.mp h0
  obtain ⟨row, hrow, h0⟩ := Option.map_eq_some_iff.mp h0
  simp only [Prod.mk.injEq] at h0
  obtain ⟨hst, hat, hby⟩ := h0
  have hx := (h s 7 row (Machine.path_of_run hs) hrow).mpr ⟨by rw [hat]; simp, by rw [hby]; simp⟩
  rw [hst] at hx
  cases hx

theorem resolution_consistent_again : ∃ s row, (machine.only InTime).run init
      (item ++ [setStatus .resolved, .updated 1 true, setStatus .inProgress, setStatus .open, .updated 3 true,
        .updated 2 true]) = some s ∧ s.rows 7 = some row ∧
    (row.status = .resolved ↔ row.resolvedAt ≠ none ∧ row.resolvedByAdminId ≠ none) := by
  have h0 : ((machine.only InTime).run init
      (item ++ [setStatus .resolved, .updated 1 true, setStatus .inProgress, setStatus .open, .updated 3 true,
        .updated 2 true])).map (fun s => (s.rows 7).isSome) = some true := by decide
  obtain ⟨s, hs, h0⟩ := Option.map_eq_some_iff.mp h0
  obtain ⟨row, hrow⟩ := Option.isSome_iff_exists.mp h0
  exact ⟨s, row, hs, hrow, resolution_consistent (Machine.path_of_run_only hs) 7 row hrow⟩

end IntellApi.FeedbackService
