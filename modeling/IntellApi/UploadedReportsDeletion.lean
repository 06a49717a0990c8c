import IntellApi.UploadedReports
import Mathlib.Data.List.Basic

/-!
# Which upload a deletion takes away

A deletion keeps the public id it was called with, and each of its statements
names that id. So an upload that has replaced it in the meantime, also between
the check and the statements, loses neither its file nor the row.
-/

namespace IntellApi.UploadedReports

open Lts JobQueue

variable {tza : Int} {s₀ s s' : State} {a : Action} {d f p : Nat}

/-! ## What is removed -/

def Action.deletion? : Action → Option Nat
  | .checked d _ | .destroyed d _ | .rowDeleted d _ => some d
  | _ => none

/-- The public id whose deletion goes on with this step. -/
def State.deleting (s : State) (a : Action) : Option Nat := a.deletion?.bind fun d => (s.deletions[d]?).map (·.publicId)

/-- The file that an upload removes itself, a replaced one or its own. -/
def State.cleaning (s : State) : Action → Option Nat
  | .oldFileRemoved c _ | .newFileRemoved c _ =>
    match s.calls[c]? with
    | some (.removingOldFile publicId _) | some (.removingNewFile publicId _) => some publicId
    | _ => none
  | _ => none

/-- All that belongs to other public ids than `p` is still there. -/
structure Spared (p : Nat) (s s' : State) : Prop where
  files : ∀ f ∈ s.files, f ≠ p → f ∈ s'.files
  row : ∀ row, s.row = some row → row.cloudinaryPublicId ≠ p → s'.row = some row

theorem Spared.of_eq (hf : s'.files = s.files) (hr : s'.row = s.row) : Spared p s s' where
  files f hm _ := by rw [hf]; exact hm
  row row h _ := by rw [hr]; exact h

theorem settle_files (s : State) (d publicId : Nat) (caller : Caller) (error : Option ServiceError) :
    (s.settle d publicId caller error).files = s.files := by
  unfold State.settle
  cases caller <;> rfl

theorem settle_row (s : State) (d publicId : Nat) (caller : Caller) (error : Option ServiceError) :
    (s.settle d publicId caller error).row = s.row := by
  unfold State.settle
  cases caller <;> rfl

theorem settle_jobs (s : State) (d publicId : Nat) (caller : Caller) (error : Option ServiceError) :
    (s.settle d publicId caller error).jobs.map (·.data) = s.jobs.map (·.data) := by
  unfold State.settle
  cases caller with
  | access => rfl
  | job j =>
    show (if error.isSome then JobQueue.fail s.jobs j else finish s.jobs j).map (·.data) = _
    split
    · exact fail_data ..
    · exact finish_data ..

theorem settle_publicId (s : State) (d publicId : Nat) (caller : Caller) (error : Option ServiceError) :
    ∃ stage, (s.settle d publicId caller error).deletions = s.deletions.set d ⟨publicId, caller, stage⟩ := by
  unfold State.settle
  cases caller <;> exact ⟨_, rfl⟩

theorem mem_deleteByPublicId {files : List Nat} {ok : Bool} (h : f ∈ files) (hf : f ≠ p) :
    f ∈ deleteByPublicId files p ok := by
  unfold deleteByPublicId
  split
  · exact List.mem_filter.mpr ⟨h, by simpa using hf⟩
  · exact h

/-! ## Steps -/

/-- A step of a deletion removes what has its public id, and goes on with that id. -/
structure Goes (d : Nat) (deletion : Deletion) (s s' : State) : Prop where
  spared : Spared deletion.publicId s s'
  jobs : s'.jobs.map (·.data) = s.jobs.map (·.data)
  deletions : ∃ stage, s'.deletions = s.deletions.set d { deletion with stage }

theorem goes_settle (s : State) (d publicId : Nat) (caller : Caller) (stage : DeletionStage) (error : Option ServiceError) :
    Goes d ⟨publicId, caller, stage⟩ s (s.settle d publicId caller error) :=
  ⟨.of_eq (settle_files ..) (settle_row ..), settle_jobs .., settle_publicId ..⟩

theorem deletion_step {deletion : Deletion} (ha : a.deletion? = some d) (hd : s.deletions[d]? = some deletion)
    (hs : step tza s a = some s') : Goes d deletion s s' := by
  cases a with
  | checked e ok =>
    obtain rfl : e = d := Option.some.inj ha
    simp only [step, hd] at hs
    split at hs
    · rename_i publicId caller he
      cases he
      split at hs
      · rw [Option.some.injEq] at hs
        subst hs
        split
        · exact ⟨.of_eq rfl rfl, rfl, _, rfl⟩
        · exact goes_settle ..
      · cases hs
        exact goes_settle ..
    · cases hs
  | destroyed e ok =>
    obtain rfl : e = d := Option.some.inj ha
    simp only [step, hd] at hs
    split at hs
    · rename_i publicId caller he
      cases he
      rw [Option.some.injEq] at hs
      subst hs
      split
      · refine ⟨⟨fun f hm hf => ?_, fun row h _ => h⟩, rfl, _, rfl⟩
        show f ∈ deleteByPublicId s.files publicId true
        exact mem_deleteByPublicId hm hf
      · exact goes_settle ..
    · cases hs
  | rowDeleted e ok =>
    obtain rfl : e = d := Option.some.inj ha
    simp only [step, hd] at hs
    split at hs
    · rename_i publicId caller he
      cases he
      rw [Option.some.injEq] at hs
      subst hs
      split
      · refine ⟨⟨fun f hm _ => ?_, fun row h hne => ?_⟩, settle_jobs s e publicId caller none, settle_publicId ..⟩
        · rw [← settle_files s e publicId caller none] at hm
          exact hm
        · simp only [h]
          rw [Option.filter_some, if_pos (by simpa using hne)]
      · exact goes_settle ..
    · cases hs
  | _ => cases ha

/-- Any other step keeps the row and the deletions, and the files but one that an upload removes. -/
structure Remains (a : Action) (s s' : State) : Prop where
  files : ∀ f ∈ s.files, s.cleaning a ≠ some f → f ∈ s'.files
  row : s.row.isSome = true → s'.row.isSome = true
  jobs : ∃ new, s'.jobs.map (·.data) = s.jobs.map (·.data) ++ new
  deletions : ∃ new, s'.deletions = s.deletions ++ new ∧
    ∀ deletion ∈ new, ∀ j, deletion.caller = .job j → (s.jobs[j]?).map (·.data.publicId) = some deletion.publicId

theorem Remains.calm (hf : ∀ f ∈ s.files, s.cleaning a ≠ some f → f ∈ s'.files)
    (hr : s.row.isSome = true → s'.row.isSome = true) (hj : ∃ new, s'.jobs.map (·.data) = s.jobs.map (·.data) ++ new)
    (hd : s'.deletions = s.deletions) : Remains a s s' :=
  ⟨hf, hr, hj, [], by rw [hd, List.append_nil], nofun⟩

theorem jobs_same (h : s'.jobs.map (·.data) = s.jobs.map (·.data)) :
    ∃ new, s'.jobs.map (·.data) = s.jobs.map (·.data) ++ new := ⟨[], by rw [h, List.append_nil]⟩

theorem other_step (ha : a.deletion? = none) (hs : step tza s a = some s') : Remains a s s' := by
  cases a with
  | uploadReportToCloudinary =>
    cases hs
    exact .calm (fun f h _ => h) id (jobs_same rfl) rfl
  | uploaded c url now =>
    simp only [step] at hs
    split at hs
    · cases hs
      exact .calm (fun f h _ => List.mem_append_left _ h) id (jobs_same rfl) rfl
    · cases hs
      exact .calm (fun f h _ => h) id (jobs_same rfl) rfl
    · cases hs
  | upserted c upsert =>
    simp only [step] at hs
    split at hs
    · cases upsert with
      | committed | answerLost =>
        cases hs
        exact .calm (fun f h _ => h) (fun _ => rfl) (jobs_same rfl) rfl
      | rolledBack =>
        cases hs
        exact .calm (fun f h _ => h) id (jobs_same rfl) rfl
    · cases hs
  | oldJobRemoved c ok =>
    simp only [step] at hs
    split at hs
    · cases hs
      refine .calm (fun f h _ => h) id (jobs_same ?_) rfl
      cases ok with
      | false => rfl
      | true => exact finish_data ..
    · cases hs
  | oldFileRemoved c ok =>
    simp only [step] at hs
    split at hs
    · rename_i publicId uploaded hc
      cases hs
      refine .calm (fun f h hf => mem_deleteByPublicId h fun he => hf ?_) id (jobs_same rfl) rfl
      simp only [State.cleaning, hc, he]
    · cases hs
  | jobAdded c ok now =>
    simp only [step] at hs
    split at hs
    · rw [Option.some.injEq] at hs
      subst hs
      split
      · exact .calm (fun f h _ => h) id ⟨_, List.map_append⟩ rfl
      · exact .calm (fun f h _ => h) id (jobs_same rfl) rfl
    · cases hs
  | jobIdStored c ok =>
    simp only [step] at hs
    split at hs
    · rw [Option.some.injEq] at hs
      subst hs
      split
      · exact .calm (fun f h _ => h) (fun h => by simpa using h) (jobs_same rfl) rfl
      · exact .calm (fun f h _ => h) id (jobs_same rfl) rfl
    · cases hs
  | newFileRemoved c ok =>
    simp only [step] at hs
    split at hs
    · rename_i publicId error hc
      cases hs
      refine .calm (fun f h hf => mem_deleteByPublicId h fun he => hf ?_) id (jobs_same rfl) rfl
      simp only [State.cleaning, hc, he]
    · cases hs
  | accessShareableLink shareToken now =>
    simp only [step] at hs
    split at hs
    · rw [Option.some.injEq] at hs
      subst hs
      split
      · refine ⟨fun f h _ => h, id, jobs_same rfl, _, rfl, fun deletion hm j hj => ?_⟩
        rw [List.mem_singleton.mp hm] at hj
        cases hj
      · exact .calm (fun f h _ => h) id (jobs_same rfl) rfl
    · cases hs
      exact .calm (fun f h _ => h) id (jobs_same rfl) rfl
  | counted b ok =>
    simp only [step] at hs
    split at hs
    · rw [Option.some.injEq] at hs
      subst hs
      split
      · exact .calm (fun f h _ => h) (fun h => by simpa using h) (jobs_same rfl) rfl
      · exact .calm (fun f h _ => h) id (jobs_same rfl) rfl
    · cases hs
  | jobStarted j now =>
    simp only [step] at hs
    split at hs
    · rename_i job hjob
      split at hs
      · cases hs
        refine ⟨fun f h _ => h, id, jobs_same rfl, _, rfl, fun deletion hm k hk => ?_⟩
        rw [List.mem_singleton.mp hm] at hk ⊢
        cases hk
        rw [hjob, Option.map_some]
      · cases hs
    · cases hs
  | checked | destroyed | rowDeleted => cases ha

/-! ## Runs -/

theorem goes_on (ha : a.deletion? = some d) (hs : step tza s a = some s') :
    ∃ deletion, s.deletions[d]? = some deletion ∧ Goes d deletion s s' := by
  cases hd : s.deletions[d]? with
  | some deletion => exact ⟨deletion, rfl, deletion_step ha hd hs⟩
  | none =>
    cases a with
    | checked | destroyed | rowDeleted =>
      obtain rfl := Option.some.inj ha
      simp only [step, hd] at hs
      cases hs
    | _ => cases ha

/-- A deletion keeps its public id and its caller. -/
theorem keeps_deletion {deletion : Deletion} (hd : s.deletions[d]? = some deletion) (hs : step tza s a = some s') :
    ∃ stage, s'.deletions[d]? = some { deletion with stage } := by
  cases ha : a.deletion? with
  | none =>
    obtain ⟨new, hn, -⟩ := (other_step ha hs).deletions
    refine ⟨deletion.stage, ?_⟩
    rw [hn, List.getElem?_append_left (List.getElem?_eq_some_iff.mp hd).1]
    exact hd
  | some e =>
    obtain ⟨deletion', hd', hg⟩ := goes_on ha hs
    obtain ⟨stage, hset⟩ := hg.deletions
    by_cases he : e = d
    · subst he
      rw [hd, Option.some.injEq] at hd'
      subst hd'
      exact ⟨stage, by rw [hset]; exact List.getElem?_set_self (List.getElem?_eq_some_iff.mp hd).1⟩
    · exact ⟨deletion.stage, by rw [hset, List.getElem?_set_ne he]; exact hd⟩

theorem path_keeps_deletion {deletion : Deletion} (h : (machine tza).Path Free s s') (hd : s.deletions[d]? = some deletion) :
    ∃ stage, s'.deletions[d]? = some { deletion with stage } :=
  h.keep (I := fun s => ∃ stage, s.deletions[d]? = some { deletion with stage })
    (fun _ _ _ hi _ hs => by
      obtain ⟨_, hd⟩ := hi
      obtain ⟨stage, hd⟩ := keeps_deletion hd hs
      exact ⟨stage, hd⟩) ⟨deletion.stage, hd⟩

/-- A deletion that a job has called is of the job's own public id. -/
def JobsOwn (s : State) : Prop :=
  ∀ (d : Nat) (deletion : Deletion) (j : Nat), s.deletions[d]? = some deletion → deletion.caller = .job j →
    (s.jobs[j]?).map (·.data.publicId) = some deletion.publicId

theorem jobs_publicId (j : Nat) : (s.jobs[j]?).map (·.data.publicId) = ((s.jobs.map (·.data))[j]?).map (·.publicId) := by
  rw [List.getElem?_map, Option.map_map]
  rfl

theorem jobsOwn_step (h : JobsOwn s) (hs : step tza s a = some s') : JobsOwn s' := by
  intro d deletion j hd hj
  cases ha : a.deletion? with
  | none =>
    have hr := other_step ha hs
    obtain ⟨jobs, hjobs⟩ := hr.jobs
    obtain ⟨new, hn, hnew⟩ := hr.deletions
    have hold : (s.jobs[j]?).map (·.data.publicId) = some deletion.publicId := by
      rw [hn] at hd
      rcases List.mem_append.mp (List.mem_of_getElem? hd) with hm | hm
      · obtain ⟨e, he⟩ := List.mem_iff_getElem?.mp hm
        exact h e deletion j he hj
      · exact hnew deletion hm j hj
    rw [jobs_publicId] at hold ⊢
    obtain ⟨data, hdata, hp⟩ := Option.map_eq_some_iff.mp hold
    rw [hjobs, List.getElem?_append_left (List.getElem?_eq_some_iff.mp hdata).1, hdata, Option.map_some, hp]
  | some e =>
    obtain ⟨deletion', hd', hg⟩ := goes_on ha hs
    obtain ⟨stage, hset⟩ := hg.deletions
    rw [jobs_publicId, hg.jobs, ← jobs_publicId]
    rw [hset] at hd
    rcases List.mem_or_eq_of_mem_set (List.mem_of_getElem? hd) with hm | rfl
    · obtain ⟨k, hk⟩ := List.mem_iff_getElem?.mp hm
      exact h k deletion j hk hj
    · exact h e deletion' j hd' hj

theorem jobsOwn_reach (h : (machine tza).Reach Free s) : JobsOwn s :=
  h.inv (I := JobsOwn) (by intro _ _ _ hd; cases hd) fun _ _ _ hi _ hs => jobsOwn_step hi hs

/-- No deletion of `f` goes on, and no upload removes it. -/
def Apart (f : Nat) (s : State) (a : Action) : Prop := s.deleting a ≠ some f ∧ s.cleaning a ≠ some f

/-- The deletion that goes on is of an upload that was replaced in the row. -/
def Replaced (s : State) (a : Action) : Prop := ∀ p ∈ s.deleting a, ∀ row ∈ s.row, row.cloudinaryPublicId ≠ p

theorem apart_step (ho : Apart f s a) (hs : step tza s a = some s') (hf : f ∈ s.files) : f ∈ s'.files := by
  cases ha : a.deletion? with
  | none => exact (other_step ha hs).files f hf ho.2
  | some d =>
    obtain ⟨deletion, hd, hg⟩ := goes_on ha hs
    refine hg.spared.files f hf fun he => ho.1 ?_
    rw [State.deleting, ha, Option.bind_some, hd, Option.map_some, he]

theorem replaced_step (ho : Replaced s a) (hs : step tza s a = some s') (hr : s.row.isSome = true) : s'.row.isSome = true := by
  cases ha : a.deletion? with
  | none => exact (other_step ha hs).row hr
  | some d =>
    obtain ⟨deletion, hd, hg⟩ := goes_on ha hs
    obtain ⟨row, hrow⟩ := Option.isSome_iff_exists.mp hr
    have hp : s.deleting a = some deletion.publicId := by
      rw [State.deleting, ha, Option.bind_some, hd, Option.map_some]
    rw [hg.spared.row row hrow (ho _ hp row hrow)]
    rfl

/-- However uploads, delete jobs and accesses are interleaved, a deletion of
`p` leaves the files and rows of all other public ids alone, from its beginning
to its end. So a file is safe from the deletions of other uploads, and the row
from those of uploads it has replaced. -/
theorem newer_upload_survives (h : (machine tza).Reach Free s₀) (hp : (machine tza).Path Free s₀ s) :
    (∀ d deletion, s₀.deletions[d]? = some deletion →
      (∀ j, deletion.caller = .job j → (s₀.jobs[j]?).map (·.data.publicId) = some deletion.publicId) ∧
      ∀ a s', a.deletion? = some d → step tza s a = some s' → Spared deletion.publicId s s') ∧
    (∀ f s', f ∈ s.files → (machine tza).Path (Apart f) s s' → f ∈ s'.files) ∧
    ∀ s', s.row.isSome = true → (machine tza).Path Replaced s s' → s'.row.isSome = true := by
  refine ⟨fun d deletion hd => ⟨fun j hj => jobsOwn_reach h d deletion j hd hj, fun a s' ha hs => ?_⟩, ?_, ?_⟩
  · obtain ⟨stage, hd'⟩ := path_keeps_deletion hp hd
    exact (deletion_step ha hd' hs).spared
  · intro f s' hf hpath
    exact hpath.keep (I := fun s => f ∈ s.files) (fun _ _ _ hi ho hs => apart_step ho hs hi) hf
  · intro s' hr hpath
    exact hpath.keep (I := fun s => s.row.isSome = true) (fun _ _ _ hi ho hs => replaced_step ho hs hi) hr

/-! ## A run -/

def week : Int := 604800000

/-- The delete job of the first upload has made its check. -/
def checkFirst : List Action :=
  [.uploadReportToCloudinary, .uploaded 0 (some "https://files/0.pdf") 0, .upserted 0 .committed, .jobAdded 0 true 0,
    .jobIdStored 0 true, .jobStarted 0 week, .checked 0 true]

/-- Before its statements, the report is uploaded again. -/
def uploadAgain : List Action :=
  [.uploadReportToCloudinary, .uploaded 1 (some "https://files/1.pdf") week, .upserted 1 .committed]

theorem newer_upload_survives_recheck : ∃ s₀ s s', (machine 0).run init checkFirst = some s₀ ∧
    (machine 0).run s₀ uploadAgain = some s ∧ step 0 s (.destroyed 0 true) = some s' ∧
    s.row.map (·.cloudinaryPublicId) = some 1 ∧ s.files = [0, 1] ∧ s'.files = [1] ∧ Spared 0 s s' := by
  have h0 : ((machine 0).run init checkFirst).bind (fun s₀ => ((machine 0).run s₀ uploadAgain).bind fun s =>
      (step 0 s (.destroyed 0 true)).map fun s' =>
        (s₀.deletions, s.row.map (·.cloudinaryPublicId), s.files, s'.files)) =
      some ([⟨0, .job 0, .destroying⟩], some 1, [0, 1], [1]) := by decide
  obtain ⟨s₀, hs₀, h0⟩ := Option.bind_eq_some_iff.mp h0
  obtain ⟨s, hs, h0⟩ := Option.bind_eq_some_iff.mp h0
  obtain ⟨s', hs', h0⟩ := Option.map_eq_some_iff.mp h0
  simp only [Prod.mk.injEq] at h0
  obtain ⟨hd, hrow, hf, hf'⟩ := h0
  have hd : s₀.deletions[0]? = some ⟨0, .job 0, .destroying⟩ := by rw [hd]; rfl
  have h := newer_upload_survives (Machine.path_of_run hs₀) (Machine.path_of_run hs)
  exact ⟨s₀, s, s', hs₀, hs, hs', hrow, hf, hf', (h.1 0 _ hd).2 _ s' rfl hs'⟩

end IntellApi.UploadedReports
