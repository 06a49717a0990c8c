import IntellApi.Calls
import IntellApi.UploadedReports
import Mathlib.Data.List.Basic

/-!
# The file behind a shared link

A file is pending between its upload and its upsert, and nobody but its call
knows it then; a file that was replaced in the row never comes back. So the
removal of old files never meets the file of the row. The `catch` block does: it
takes the new file away also when the row points to it already.
-/

namespace IntellApi.UploadedReports

open Lts JobQueue

variable {tza : Int} {s s' : State} {a : Action} {c f : Nat} {call new : Upload}

/-! ## The file of the row -/

def Upload.Ended : Upload → Prop
  | .returned _ | .threw _ => True
  | _ => False

instance (call : Upload) : Decidable call.Ended := by
  unfold Upload.Ended
  split <;> infer_instance

/-- Between calls, and before the first deletion of an expired upload, the row has its file. -/
def Backed (s : State) : Prop :=
  (∀ call ∈ s.calls, call.Ended) → s.deletions = [] → ∀ row, s.row = some row → row.cloudinaryPublicId ∈ s.files

/-- The file that the `catch` block is about to delete. -/
def Upload.newFile : Upload → Option Nat
  | .removingNewFile publicId _ => some publicId
  | _ => none

/-- The `catch` block deletes no file the row points to. -/
def Kept (s : State) : Action → Prop
  | .newFileRemoved c true => ∀ call ∈ s.calls[c]?, ∀ publicId ∈ call.newFile, ∀ row ∈ s.row, row.cloudinaryPublicId ≠ publicId
  | _ => True

instance (s : State) (a : Action) : Decidable (Kept s a) := by
  unfold Kept
  split <;> infer_instance

/-! ## The files a call knows -/

/-- The file is uploaded and not in the row yet. -/
def Upload.pending : Upload → Option Nat
  | .upserting full => some full.cloudinaryPublicId
  | _ => none

def Upload.replaced : Upload → Option Nat
  | .removingOldJob _ existing _ => existing.map (·.cloudinaryPublicId)
  | .removingOldFile publicId _ => some publicId
  | _ => none

/-- The file that the `catch` block would delete. -/
def Upload.own : Upload → Option Nat
  | .upserting full => some full.cloudinaryPublicId
  | .removingOldJob _ _ uploaded | .removingOldFile _ uploaded | .addingJob uploaded _ | .storingJobId _ uploaded =>
    some uploaded.cloudinaryPublicId
  | .removingNewFile publicId _ => some publicId
  | _ => none

def Upload.Knows (call : Upload) (f : Nat) : Prop := call.replaced = some f ∨ call.own = some f

theorem own_of_pending (h : call.pending = some f) : call.own = some f := by
  cases call with
  | upserting full => exact h
  | _ => cases h

def rowFile (s : State) : Option Nat := s.row.map (·.cloudinaryPublicId)

structure Inv (s : State) : Prop where
  bound : ∀ (c : Nat) (call : Upload) (f : Nat), s.calls[c]? = some call → call.Knows f → f < s.uploads
  rowBound : ∀ f, rowFile s = some f → f < s.uploads
  row : ∀ f, rowFile s = some f → f ∈ s.files
  pending : ∀ (c : Nat) (call : Upload) (f : Nat), s.calls[c]? = some call → call.pending = some f →
    f ∈ s.files ∧ rowFile s ≠ some f
  alone : ∀ (c d : Nat) (call call' : Upload) (f : Nat), s.calls[c]? = some call → s.calls[d]? = some call' →
    call.pending = some f → call'.Knows f → c = d
  replaced : ∀ (c : Nat) (call : Upload) (f : Nat), s.calls[c]? = some call → call.replaced = some f →
    rowFile s ≠ some f

theorem Inv.congr (h : Inv s) (hr : s'.row = s.row) (hf : s'.files = s.files) (hu : s'.uploads = s.uploads)
    (hc : s'.calls = s.calls) : Inv s' := by
  obtain ⟨row, files, uploads, jobs, calls, deletions, accesses⟩ := s'
  simp only at hr hf hu hc
  subst hr hf hu hc
  exact ⟨h.bound, h.rowBound, h.row, h.pending, h.alone, h.replaced⟩

theorem Inv.narrow (h : Inv s) (hc : s.calls[c]? = some call) (hk : ∀ f, new.Knows f → call.Knows f)
    (hp : new.pending = none) (hr : ∀ f, new.replaced = some f → call.replaced = some f) : Inv (s.setCall c new) := by
  refine ⟨?_, h.rowBound, h.row, ?_, ?_, ?_⟩
  · intro d call' f hd hkn
    rcases Calls.set_cases hd with ⟨-, rfl⟩ | ⟨-, hd⟩
    · exact h.bound c call f hc (hk f hkn)
    · exact h.bound d call' f hd hkn
  · intro d call' f hd hpd
    rcases Calls.set_cases hd with ⟨-, rfl⟩ | ⟨-, hd⟩
    · rw [hp] at hpd
      cases hpd
    · exact h.pending d call' f hd hpd
  · intro d e call₁ call₂ f hd he hpd hkn
    rcases Calls.set_cases hd with ⟨-, rfl⟩ | ⟨-, hd'⟩
    · rw [hp] at hpd
      cases hpd
    · rcases Calls.set_cases he with ⟨rfl, rfl⟩ | ⟨-, he'⟩
      · exact h.alone d e call₁ call f hd' hc hpd (hk f hkn)
      · exact h.alone d e call₁ call₂ f hd' he' hpd hkn
  · intro d call' f hd hrd
    rcases Calls.set_cases hd with ⟨-, rfl⟩ | ⟨-, hd⟩
    · exact h.replaced c call f hc (hr f hrd)
    · exact h.replaced d call' f hd hrd

/-- A file that is neither pending nor the row's is deleted, or is not. -/
theorem Inv.delete (h : Inv s) (hr : rowFile s ≠ some f)
    (hp : ∀ (c : Nat) (call : Upload), s.calls[c]? = some call → call.pending ≠ some f) (ok : Bool) :
    Inv { s with files := deleteByPublicId s.files f ok } := by
  have hkeep : ∀ {g}, g ∈ s.files → g ≠ f → g ∈ deleteByPublicId s.files f ok := by
    intro g hg hne
    unfold deleteByPublicId
    split
    · exact List.mem_filter.mpr ⟨hg, decide_eq_true hne⟩
    · exact hg
  refine { h with row := fun g hg => hkeep (h.row g hg) ?_, pending := fun c call g hc hg => ?_ }
  · intro he
    subst he
    exact hr hg
  · obtain ⟨hm, hn⟩ := h.pending c call g hc hg
    refine ⟨hkeep hm ?_, hn⟩
    intro he
    subst he
    exact hp c call hc hg

theorem Inv.not_pending (h : Inv s) (hc : s.calls[c]? = some call) (hk : call.Knows f) (hp : call.pending = none)
    (d : Nat) (call' : Upload) (hd : s.calls[d]? = some call') : call'.pending ≠ some f := by
  intro hpd
  obtain rfl := h.alone d c call' call f hd hc hpd hk
  rw [hc, Option.some.injEq] at hd
  rw [hd, hpd] at hp
  cases hp

theorem Inv.setRow (h : Inv s) {g : UploadedReport → UploadedReport}
    (hg : ∀ row, (g row).cloudinaryPublicId = row.cloudinaryPublicId) : Inv { s with row := s.row.map g } := by
  have he : rowFile { s with row := s.row.map g } = rowFile s := by
    simp only [rowFile, Option.map_map]
    exact congrArg (Option.map · s.row) (funext hg)
  exact ⟨h.bound, fun f hf => h.rowBound f (he ▸ hf), fun f hf => h.row f (he ▸ hf),
    fun c call f hc hp => ⟨(h.pending c call f hc hp).1, he ▸ (h.pending c call f hc hp).2⟩, h.alone,
    fun c call f hc hr => he ▸ h.replaced c call f hc hr⟩

theorem Inv.begin (h : Inv s) : Inv { s with calls := s.calls ++ [.uploading] } := by
  have hold : ∀ {d : Nat} {call : Upload} {f : Nat}, (s.calls ++ [Upload.uploading])[d]? = some call →
      call.Knows f ∨ call.pending = some f → s.calls[d]? = some call := by
    intro d call f hd hk
    rcases Calls.snoc_cases hd with hd | ⟨-, rfl⟩
    · exact hd
    · rcases hk with (hk | hk) | hk <;> cases hk
  exact ⟨fun c call f hc hk => h.bound c call f (hold hc (.inl hk)) hk, h.rowBound, h.row,
    fun c call f hc hp => h.pending c call f (hold hc (.inr hp)) hp,
    fun c d call call' f hc hd hp hk => h.alone c d call call' f (hold hc (.inr hp)) (hold hd (.inl hk)) hp hk,
    fun c call f hc hr => h.replaced c call f (hold hc (.inl (.inl hr))) hr⟩

/-- A new file, that nobody knows but the call. -/
theorem Inv.upload (h : Inv s) {full : FullUploadedReport}
    (hf : full.cloudinaryPublicId = s.uploads) :
    Inv { s.setCall c (.upserting full) with files := s.files ++ [s.uploads], uploads := s.uploads + 1 } := by
  have hpend : ∀ {g : Nat}, (Upload.upserting full).pending = some g → g = s.uploads := by
    intro g hg
    rw [Upload.pending, Option.some.injEq, hf] at hg
    exact hg.symm
  have hown : ∀ {g : Nat}, (Upload.upserting full).Knows g → g = s.uploads := by
    intro g hx
    rcases hx with hg | hg
    · cases hg
    · exact hpend hg
  refine ⟨?_, fun f hr => Nat.lt_succ_of_lt (h.rowBound f hr), fun f hr => List.mem_append_left _ (h.row f hr), ?_, ?_, ?_⟩
  · intro d call f hd hk
    rcases Calls.set_cases hd with ⟨-, rfl⟩ | ⟨-, hd⟩
    · rw [hown hk]
      exact Nat.lt_succ_self _
    · exact Nat.lt_succ_of_lt (h.bound d call f hd hk)
  · intro d call f hd hp
    rcases Calls.set_cases hd with ⟨-, rfl⟩ | ⟨-, hd⟩
    · rw [hpend hp]
      exact ⟨List.mem_append_right _ (List.mem_singleton_self _), fun hr => Nat.lt_irrefl _ (h.rowBound _ hr)⟩
    · obtain ⟨hm, hn⟩ := h.pending d call f hd hp
      exact ⟨List.mem_append_left _ hm, hn⟩
  · intro d e call₁ call₂ f hd he hp hk
    rcases Calls.set_cases hd with ⟨hdc, rfl⟩ | ⟨hdc, hd'⟩
    · rcases Calls.set_cases he with ⟨hec, -⟩ | ⟨-, he'⟩
      · rw [hdc, hec]
      · rw [hpend hp] at hk
        exact absurd (h.bound e call₂ _ he' hk) (Nat.lt_irrefl _)
    · rcases Calls.set_cases he with ⟨-, rfl⟩ | ⟨-, he'⟩
      · rw [hown hk] at hp
        exact absurd (h.bound d call₁ _ hd' (.inr (own_of_pending hp))) (Nat.lt_irrefl _)
      · exact h.alone d e call₁ call₂ f hd' he' hp hk
  · intro d call f hd hr
    rcases Calls.set_cases hd with ⟨-, rfl⟩ | ⟨-, hd⟩
    · cases hr
    · exact h.replaced d call f hd hr

/-- The row gets the pending file of a call; the file it had is replaced for good. -/
theorem Inv.upsert (h : Inv s) {full : FullUploadedReport} {uploaded : UploadedReport}
    (hc : s.calls[c]? = some (.upserting full)) (hu : uploaded.cloudinaryPublicId = full.cloudinaryPublicId)
    (hk : ∀ f, new.Knows f → rowFile s = some f ∨ f = full.cloudinaryPublicId) (hp : new.pending = none)
    (hr : ∀ f, new.replaced = some f → rowFile s = some f) :
    Inv { s.setCall c new with row := some uploaded } := by
  obtain ⟨hfile, hrow⟩ := h.pending c _ _ hc rfl
  have hbound := h.bound c _ _ hc (.inr rfl)
  have hnew : ∀ {f}, rowFile { s.setCall c new with row := some uploaded } = some f ↔ f = full.cloudinaryPublicId := by
    intro f
    rw [rowFile, Option.map_some, Option.some.injEq, hu]
    exact eq_comm
  refine ⟨?_, fun f hf => ?_, fun f hf => ?_, ?_, ?_, ?_⟩
  · intro d call f hd hkn
    rcases Calls.set_cases hd with ⟨-, rfl⟩ | ⟨-, hd⟩
    · rcases hk f hkn with hf | rfl
      · exact h.rowBound f hf
      · exact hbound
    · exact h.bound d call f hd hkn
  · rw [hnew.mp hf]
    exact hbound
  · rw [hnew.mp hf]
    exact hfile
  · intro d call f hd hpd
    rcases Calls.set_cases hd with ⟨-, rfl⟩ | ⟨hdc, hd⟩
    · rw [hp] at hpd
      cases hpd
    · refine ⟨(h.pending d call f hd hpd).1, fun hf => hdc ?_⟩
      obtain rfl := hnew.mp hf
      exact h.alone d c call _ _ hd hc hpd (.inr rfl)
  · intro d e call₁ call₂ f hd he hpd hkn
    rcases Calls.set_cases hd with ⟨-, rfl⟩ | ⟨hdc, hd'⟩
    · rw [hp] at hpd
      cases hpd
    · rcases Calls.set_cases he with ⟨-, rfl⟩ | ⟨-, he'⟩
      · rcases hk f hkn with hf | rfl
        · exact absurd hf (h.pending d call₁ f hd' hpd).2
        · exact absurd (h.alone d c call₁ _ _ hd' hc hpd (.inr rfl)) hdc
      · exact h.alone d e call₁ call₂ f hd' he' hpd hkn
  · intro d call f hd hrd hf
    obtain rfl := hnew.mp hf
    rcases Calls.set_cases hd with ⟨-, rfl⟩ | ⟨hdc, hd⟩
    · exact hrow (hr _ hrd)
    · exact hdc (h.alone c d _ call _ hc hd rfl (.inl hrd)).symm

/-! ## Steps -/

/-- A call after its upsert: it may delete the file it has replaced, or its own. -/
structure After (existing : Option UploadedReport) (uploaded : UploadedReport) (call : Upload) : Prop where
  pending : call.pending = none
  replaced : ∀ f, call.replaced = some f → existing.map (·.cloudinaryPublicId) = some f
  own : ∀ f, call.own = some f → f = uploaded.cloudinaryPublicId

theorem after_expiryJob (existing : Option UploadedReport) (uploaded : UploadedReport) :
    After existing uploaded (expiryJob uploaded) := by
  unfold expiryJob
  split
  · exact ⟨rfl, fun f hf => (Option.some_ne_none f hf.symm).elim, fun f hf => (Option.some.inj hf).symm⟩
  · exact ⟨rfl, fun f hf => (Option.some_ne_none f hf.symm).elim, fun f hf => (Option.some_ne_none f hf.symm).elim⟩

theorem after_oldFile (existing : Option UploadedReport) (uploaded : UploadedReport) :
    After existing uploaded (oldFile existing uploaded) := by
  unfold oldFile
  split
  · split
    · exact ⟨rfl, fun f hf => hf, fun f hf => (Option.some.inj hf).symm⟩
    · exact after_expiryJob _ _
  · exact after_expiryJob _ _

theorem after_oldJob (existing : Option UploadedReport) (uploaded : UploadedReport) :
    After existing uploaded (oldJob existing uploaded) := by
  unfold oldJob
  split
  · exact ⟨rfl, fun f hf => hf, fun f hf => (Option.some.inj hf).symm⟩
  · exact after_oldFile _ _

theorem Inv.after (h : Inv s) {existing : Option UploadedReport} {uploaded : UploadedReport}
    (hc : s.calls[c]? = some call) (hn : After existing uploaded new)
    (hr : ∀ f, new.replaced = some f → call.replaced = some f) (ho : call.own = some uploaded.cloudinaryPublicId) :
    Inv (s.setCall c new) := by
  refine h.narrow hc (fun f hf => ?_) hn.pending hr
  rcases hf with hf | hf
  · exact .inl (hr f hf)
  · rw [hn.own f hf]
    exact .inr ho

theorem Inv.fail (h : Inv s) (hc : s.calls[c]? = some call) (ho : call.own = some f) (error : ServiceError) :
    Inv (s.fail c f error) := by
  refine h.narrow hc (fun g hg => ?_) rfl nofun
  rcases hg with hg | hg
  · cases hg
  · rw [← (Option.some.inj hg : f = g)]
    exact .inr ho

theorem Inv.finished (h : Inv s) (hc : s.calls[c]? = some call) (hn : new.Ended) : Inv (s.setCall c new) := by
  cases new with
  | returned | threw => exact h.narrow hc (fun f hf => by rcases hf with hf | hf <;> cases hf) rfl nofun
  | _ => cases hn

theorem settle_deletions (s : State) (d publicId : Nat) (caller : Caller) (error : Option ServiceError) :
    (s.settle d publicId caller error).deletions.length = s.deletions.length := by
  unfold State.settle
  cases caller <;> exact List.length_set

theorem step_deletions (hs : step tza s a = some s') : s.deletions.length ≤ s'.deletions.length := by
  cases a with
  | uploadReportToCloudinary => cases hs; exact Nat.le_refl _
  | uploaded | oldJobRemoved | oldFileRemoved | newFileRemoved =>
    simp only [step] at hs
    split at hs <;> cases hs <;> exact Nat.le_refl _
  | upserted c upsert =>
    simp only [step] at hs
    split at hs
    · cases upsert <;> cases hs <;> exact Nat.le_refl _
    · cases hs
  | jobAdded | jobIdStored | counted =>
    simp only [step] at hs
    split at hs
    · cases hs
      split <;> exact Nat.le_refl _
    · cases hs
  | accessShareableLink shareToken now =>
    simp only [step] at hs
    split at hs
    · cases hs
      split
      · simp
      · exact Nat.le_refl _
    · cases hs
      exact Nat.le_refl _
  | jobStarted j now =>
    simp only [step] at hs
    split at hs
    · split at hs
      · cases hs
        simp
      · cases hs
    · cases hs
  | checked d ok =>
    simp only [step] at hs
    split at hs
    · split at hs
      · cases hs
        split
        · exact Nat.le_of_eq List.length_set.symm
        · exact Nat.le_of_eq (settle_deletions ..).symm
      · cases hs
        exact Nat.le_of_eq (settle_deletions ..).symm
    · cases hs
  | destroyed d ok =>
    simp only [step] at hs
    split at hs
    · cases hs
      split
      · exact Nat.le_of_eq List.length_set.symm
      · exact Nat.le_of_eq (settle_deletions ..).symm
    · cases hs
  | rowDeleted d ok =>
    simp only [step] at hs
    split at hs
    · cases hs
      split
      · exact Nat.le_of_eq (settle_deletions ..).symm
      · exact Nat.le_of_eq (settle_deletions ..).symm
    · cases hs

theorem inv_step (h : Inv s) (hd : s.deletions = []) (ho : Kept s a) (hs : step tza s a = some s')
    (hd' : s'.deletions = []) : Inv s' := by
  cases a with
  | uploadReportToCloudinary => cases hs; exact h.begin
  | uploaded c url now =>
    simp only [step] at hs
    split at hs
    · cases hs
      exact h.upload rfl
    · rename_i hc
      cases hs
      exact h.finished hc trivial
    · cases hs
  | upserted c upsert =>
    simp only [step] at hs
    split at hs
    · rename_i full hc
      cases upsert with
      | committed =>
        cases hs
        have ha := after_oldJob s.row (upsertUploadedReport s.row full)
        refine h.upsert hc rfl (fun f hf => ?_) ha.pending ha.replaced
        exact hf.imp (ha.replaced f) (ha.own f)
      | rolledBack =>
        cases hs
        exact h.fail hc rfl _
      | answerLost =>
        cases hs
        refine h.upsert hc rfl (fun f hf => .inr ?_) rfl nofun
        rcases hf with hf | hf
        · cases hf
        · exact (Option.some.inj hf).symm
    · cases hs
  | oldJobRemoved c ok =>
    simp only [step] at hs
    split at hs
    · rename_i jobId existing uploaded hc
      cases hs
      have ha := after_oldFile existing uploaded
      exact (h.after hc ha ha.replaced rfl).congr rfl rfl rfl rfl
    · cases hs
  | oldFileRemoved c ok =>
    simp only [step] at hs
    split at hs
    · rename_i publicId uploaded hc
      cases hs
      have hi := h.delete (h.replaced c _ _ hc rfl) (h.not_pending hc (.inl rfl) rfl) ok
      exact Inv.after (s := { s with files := deleteByPublicId s.files publicId ok }) hi hc (after_expiryJob none uploaded)
        (fun f hf => nomatch (after_expiryJob none uploaded).replaced f hf) rfl
    · cases hs
  | jobAdded c ok now =>
    simp only [step] at hs
    split at hs
    · rename_i uploaded expiresAt hc
      cases hs
      split
      · have hi : Inv (s.setCall c
            (if now < expiresAt then .storingJobId s.jobs.length uploaded else .returned uploaded)) := by
          split
          · exact h.narrow hc (fun f hf => hf) rfl nofun
          · exact h.finished hc trivial
        exact hi.congr rfl rfl rfl rfl
      · exact h.fail hc rfl _
    · cases hs
  | jobIdStored c ok =>
    simp only [step] at hs
    split at hs
    · rename_i jobId uploaded hc
      cases hs
      split
      · refine Inv.setRow (s := s.setCall c (.returned uploaded)) (h.finished hc trivial) fun row => ?_
        split <;> rfl
      · exact h.fail hc rfl _
    · cases hs
  | newFileRemoved c ok =>
    simp only [step] at hs
    split at hs
    · rename_i publicId error hc
      cases hs
      cases ok with
      | false => exact h.finished hc trivial
      | true =>
        have hrow : rowFile s ≠ some publicId := by
          intro hr
          obtain ⟨row, hrow, hf⟩ := Option.map_eq_some_iff.mp hr
          exact ho _ hc publicId rfl row hrow hf
        have hi := h.delete hrow (h.not_pending hc (.inr rfl) rfl) true
        exact Inv.finished (s := { s with files := deleteByPublicId s.files publicId true }) hi hc trivial
    · cases hs
  | accessShareableLink shareToken now =>
    simp only [step] at hs
    split at hs
    · rw [Option.some.injEq] at hs
      split at hs
      · subst hs
        exact absurd (List.append_eq_nil_iff.mp hd').2 (List.cons_ne_nil _ _)
      · subst hs
        exact h.congr rfl rfl rfl rfl
    · cases hs
      exact h.congr rfl rfl rfl rfl
  | counted b ok =>
    simp only [step] at hs
    split at hs
    · rename_i url _
      cases hs
      split
      · have hi : Inv { s with accesses := s.accesses.set b (.returned url) } := h.congr rfl rfl rfl rfl
        exact hi.setRow fun row => by split <;> rfl
      · exact h.congr rfl rfl rfl rfl
    · cases hs
  | jobStarted j now =>
    simp only [step] at hs
    split at hs
    · split at hs
      · cases hs
        exact absurd (List.append_eq_nil_iff.mp hd').2 (List.cons_ne_nil _ _)
      · cases hs
    · cases hs
  | checked d ok | destroyed d ok | rowDeleted d ok =>
    simp only [step, hd] at hs
    cases hs

theorem inv_init : Inv init where
  bound _ _ _ hc := nomatch hc
  rowBound _ hr := nomatch hr
  row _ hr := nomatch hr
  pending _ _ _ hc := nomatch hc
  alone _ _ _ _ _ hc := nomatch hc
  replaced _ _ _ hc := nomatch hc

/-- As long as no `catch` block deletes the file the row points to, the row has its file. -/
theorem link_backed (h : (machine tza).Reach Kept s) : Backed s := by
  have hi : s.deletions = [] → Inv s := Machine.Path.inv (I := fun s => s.deletions = [] → Inv s) (fun _ => inv_init)
    (fun s a s' hi ho hs hd' => by
      have hd : s.deletions = [] := List.length_eq_zero_iff.mp
        (Nat.le_zero.mp (List.length_eq_zero_iff.mpr hd' ▸ step_deletions hs))
      exact inv_step (hi hd) hd ho hs hd') h
  intro _ hd row hrow
  apply (hi hd).row _
  rw [rowFile, hrow, Option.map_some]

/-- The condition leaves out nothing else: any other `catch` block takes the row's file. -/
theorem dangles_of_not_kept (hs : step tza s a = some s') (ho : ¬ Kept s a) :
    ∃ row, s'.row = some row ∧ row.cloudinaryPublicId ∉ s'.files := by
  unfold Kept at ho
  split at ho
  · rename_i c
    simp only [step] at hs
    split at hs
    · rename_i publicId error hc
      cases hs
      simp only [hc, Option.mem_def, Option.some.injEq, forall_eq', Upload.newFile, not_forall, not_not] at ho
      obtain ⟨row, hrow, hf⟩ := ho
      refine ⟨row, hrow, fun hm => ?_⟩
      exact of_decide_eq_true (List.mem_filter.mp hm).2 hf
    · cases hs
  · exact absurd trivial ho

/-! ## Two runs -/

/-- The new delete job is not added: the upload is undone, the row is not. -/
def addFails : List Action :=
  [.uploadReportToCloudinary, .uploaded 0 (some "https://files/0.pdf") 0, .upserted 0 .committed, .jobAdded 0 false 0,
    .newFileRemoved 0 true]

theorem failed_add_dangles : ¬ ∀ s : State, (machine 0).Reach Free s → Backed s := by
  intro h
  have h0 : ((machine 0).run init addFails).map (fun s =>
      (rowFile s, s.files, decide (∀ call ∈ s.calls, call.Ended), s.deletions)) = some (some 0, [], true, []) := by decide
  obtain ⟨s, hs, h0⟩ := Option.map_eq_some_iff.mp h0
  simp only [Prod.mk.injEq] at h0
  obtain ⟨hrow, hfiles, hend, hd⟩ := h0
  obtain ⟨row, hrow, -⟩ := Option.map_eq_some_iff.mp hrow
  have hm := h s (Machine.path_of_run hs) (of_decide_eq_true hend) hd row hrow
  rw [hfiles] at hm
  cases hm

/-- The second of two uploads replaces the first, and a third one fails at the upsert. -/
def threeUploads : List Action :=
  [.uploadReportToCloudinary, .uploaded 0 (some "https://files/0.pdf") 0, .upserted 0 .committed, .jobAdded 0 true 0,
    .jobIdStored 0 true, .uploadReportToCloudinary, .uploaded 1 (some "https://files/1.pdf") 5, .upserted 1 .committed,
    .uploadReportToCloudinary, .oldJobRemoved 1 false, .oldFileRemoved 1 true, .uploaded 2 (some "https://files/2.pdf") 6,
    .upserted 2 .rolledBack, .newFileRemoved 2 true, .jobAdded 1 true 7, .jobIdStored 1 true]

theorem link_backed_threeUploads : ∃ s : State, ((machine 0).only Kept).run init threeUploads = some s ∧
    ∃ row, s.row = some row ∧ row.cloudinaryPublicId = 1 ∧ row.cloudinaryPublicId ∈ s.files := by
  have h0 : (((machine 0).only Kept).run init threeUploads).map (fun s =>
      (rowFile s, s.deletions, decide (∀ call ∈ s.calls, call.Ended))) = some (some 1, [], true) := by decide
  obtain ⟨s, hs, h0⟩ := Option.map_eq_some_iff.mp h0
  simp only [Prod.mk.injEq] at h0
  obtain ⟨hrow, hd, hend⟩ := h0
  obtain ⟨row, hrow, hid⟩ := Option.map_eq_some_iff.mp hrow
  exact ⟨s, hs, row, hrow, hid, link_backed (Machine.path_of_run_only hs) (of_decide_eq_true hend) hd row hrow⟩

end IntellApi.UploadedReports
