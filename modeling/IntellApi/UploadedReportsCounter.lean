import IntellApi.Calls
import IntellApi.UploadedReportsDeletion

/-!
# The download counter

A call writes one more than it has read. The counter is the number of calls
that returned the link as long as each of them finds what it has read when it
writes; two calls that read the same number are counted once.
-/

namespace IntellApi.UploadedReports

open Lts

variable {tza : Int} {s s' : State} {a : Action} {shareToken count : Nat}

/-! ## Counted downloads -/

def Access.isReturned : Access → Bool
  | .returned _ => true
  | _ => false

def State.downloads (s : State) : Nat := s.accesses.countP Access.isReturned

/-- The steps of `accessShareableLink` with this token. -/
def OfLink (shareToken : Nat) : Action → Prop
  | .accessShareableLink token _ => token = shareToken
  | .counted _ _ | .checked _ _ | .destroyed _ _ | .rowDeleted _ _ => True
  | _ => False

/-- The row has the count that the call has read. -/
def Access.Finds (row : Option UploadedReport) : Access → Prop
  | .counting _ downloadCount _ => ∀ r ∈ row, r.downloadCount = downloadCount
  | _ => True

/-- A call that writes finds the count it has read. -/
def Fresh (s : State) : Action → Prop
  | .counted c true => ∀ access ∈ s.accesses[c]?, access.Finds s.row
  | _ => True

instance (row : Option UploadedReport) : (access : Access) → Decidable (access.Finds row)
  | .counting _ downloadCount _ => inferInstanceAs (Decidable (∀ r ∈ row, r.downloadCount = downloadCount))
  | .deleting | .returned _ | .threw _ => instDecidableTrue

instance (s : State) : (a : Action) → Decidable (Fresh s a)
  | .counted c true => inferInstanceAs (Decidable (∀ access ∈ s.accesses[c]?, access.Finds s.row))
  | .counted _ false | .accessShareableLink _ _ | .checked _ _ | .destroyed _ _ | .rowDeleted _ _
  | .uploadReportToCloudinary | .uploaded _ _ _ | .upserted _ _ | .oldJobRemoved _ _ | .oldFileRemoved _ _
  | .jobAdded _ _ _ | .jobIdStored _ _ | .newFileRemoved _ _ | .jobStarted _ _ => instDecidableTrue

instance (shareToken : Nat) : (a : Action) → Decidable (OfLink shareToken a)
  | .accessShareableLink token _ => inferInstanceAs (Decidable (token = shareToken))
  | .counted _ _ | .checked _ _ | .destroyed _ _ | .rowDeleted _ _ => instDecidableTrue
  | .uploadReportToCloudinary | .uploaded _ _ _ | .upserted _ _ | .oldJobRemoved _ _ | .oldFileRemoved _ _
  | .jobAdded _ _ _ | .jobIdStored _ _ | .newFileRemoved _ _ | .jobStarted _ _ => instDecidableFalse

/-! ## What a step does -/

/-- A call that waits for `deleteRemoteReport`, or has been told off by it. -/
def Access.Deletes : Access → Prop
  | .deleting | .threw _ => True
  | .counting _ _ _ | .returned _ => False

inductive LinkChange (shareToken : Nat) (s : State) : Action → State → Prop
  | missed (now : Int) (error : ServiceError) :
    LinkChange shareToken s (.accessShareableLink shareToken now) { s with accesses := s.accesses ++ [.threw error] }
  | expired (now : Int) (publicId : Nat) :
    LinkChange shareToken s (.accessShareableLink shareToken now) { s with
      accesses := s.accesses ++ [.deleting]
      deletions := s.deletions ++ [⟨publicId, .access s.accesses.length, .checking⟩] }
  | read (now : Int) (row : UploadedReport) : s.row = some row → row.shareToken = shareToken →
    LinkChange shareToken s (.accessShareableLink shareToken now) { s with
      accesses := s.accesses ++ [.counting shareToken row.downloadCount row.cloudinaryUrl] }
  | counted (c token downloadCount : Nat) (url : String) :
    s.accesses[c]? = some (.counting token downloadCount url) →
    LinkChange shareToken s (.counted c true) { s with
      accesses := s.accesses.set c (.returned url)
      row := s.row.map fun row => if row.shareToken = token then { row with downloadCount := downloadCount + 1 } else row }
  | notCounted (c token downloadCount : Nat) (url : String) :
    s.accesses[c]? = some (.counting token downloadCount url) →
    LinkChange shareToken s (.counted c false) { s with accesses := s.accesses.set c (.threw (.error "update")) }
  | goesOn (a : Action) (files : List Nat) (d : Nat) (old new : Deletion) : s.deletions[d]? = some old →
    new.caller = old.caller →
    LinkChange shareToken s a { s.setDeletion d new with files }
  | settled (a : Action) (d : Nat) (old : Deletion) (error : Option ServiceError) : s.deletions[d]? = some old →
    LinkChange shareToken s a (s.settle d old.publicId old.caller error)
  | deleted (a : Action) (d : Nat) (old : Deletion) : s.deletions[d]? = some old →
    LinkChange shareToken s a { s.settle d old.publicId old.caller none with
      row := s.row.filter (·.cloudinaryPublicId ≠ old.publicId) }

theorem linkChange_of_step (ho : OfLink shareToken a) (h : step tza s a = some s') :
    LinkChange shareToken s a s' := by
  cases a with
  | accessShareableLink token now =>
    cases ho
    simp only [step] at h
    split at h
    · rename_i row hrow
      rw [Option.filter_eq_some_iff, decide_eq_true_eq] at hrow
      split at h <;> cases h
      · exact .expired now row.cloudinaryPublicId
      · exact .read now row hrow.1 hrow.2
    · cases h
      exact .missed now _
  | counted c ok =>
    simp only [step] at h
    split at h
    · rename_i token downloadCount url hc
      cases ok with
      | true =>
        cases h
        exact .counted c token downloadCount url hc
      | false =>
        cases h
        exact .notCounted c token downloadCount url hc
    · cases h
  | checked d ok =>
    simp only [step] at h
    split at h
    · rename_i publicId caller hd
      split at h
      · rename_i row hrow
        split at h <;> cases h
        · exact .goesOn _ s.files d _ _ hd rfl
        · exact .settled _ d _ _ hd
      · cases h
        exact .settled _ d _ _ hd
    · cases h
  | destroyed d ok =>
    simp only [step] at h
    split at h
    · rename_i publicId caller hd
      cases ok with
      | true =>
        cases h
        exact .goesOn _ _ d _ _ hd rfl
      | false =>
        cases h
        exact .settled _ d _ _ hd
    · cases h
  | rowDeleted d ok =>
    simp only [step] at h
    split at h
    · rename_i publicId caller hd
      cases ok with
      | true =>
        cases h
        exact .deleted _ d _ hd
      | false =>
        cases h
        exact .settled _ d _ _ hd
    · cases h
  | uploadReportToCloudinary | uploaded | upserted | oldJobRemoved | oldFileRemoved | jobAdded | jobIdStored
  | newFileRemoved | jobStarted => cases ho

/-! ## The count -/

structure Counts (shareToken count : Nat) (s : State) : Prop where
  row : ∀ row, s.row = some row → row.shareToken = shareToken ∧ row.downloadCount = count + s.downloads
  token : ∀ token downloadCount url, .counting token downloadCount url ∈ s.accesses → token = shareToken
  callers : ∀ deletion ∈ s.deletions, ∃ c access,
    deletion.caller = .access c ∧ s.accesses[c]? = some access ∧ access.Deletes

theorem Counts.append (h : Counts shareToken count s) {access : Access} (hr : access.isReturned = false)
    (ht : ∀ token downloadCount url, access = .counting token downloadCount url → token = shareToken) :
    Counts shareToken count { s with accesses := s.accesses ++ [access] } where
  row row hrow := by
    have hd : State.downloads { s with accesses := s.accesses ++ [access] } = s.downloads := by
      simp [State.downloads, hr]
    rw [hd]
    exact h.row row hrow
  token token downloadCount url hm := by
    rcases List.mem_append.mp hm with hm | hm
    · exact h.token token downloadCount url hm
    · exact ht token downloadCount url (List.mem_singleton.mp hm).symm
  callers deletion hm := by
    obtain ⟨c, access', hc, ha, hd⟩ := h.callers deletion hm
    exact ⟨c, access', hc, Calls.snoc_of_some ha, hd⟩

/-- A call moves on; `row` is what becomes of the row. -/
theorem Counts.set (h : Counts shareToken count s) {c : Nat} {old new : Access} {row' : Option UploadedReport}
    (hc : s.accesses[c]? = some old) (hd : old.Deletes → new.Deletes)
    (ht : ∀ token downloadCount url, new = .counting token downloadCount url → token = shareToken)
    (hrow : ∀ row, row' = some row → row.shareToken = shareToken ∧
      row.downloadCount + (if old.isReturned then 1 else 0) = count + s.downloads + if new.isReturned then 1 else 0) :
    Counts shareToken count { s with accesses := s.accesses.set c new, row := row' } where
  row row hr := by
    have hset := Calls.countP_set (b := new) Access.isReturned hc
    have hrow := hrow row hr
    refine ⟨hrow.1, ?_⟩
    show row.downloadCount = count + (s.accesses.set c new).countP Access.isReturned
    have hs : s.downloads = s.accesses.countP Access.isReturned := rfl
    omega
  token token downloadCount url hm := by
    rcases List.mem_or_eq_of_mem_set hm with hm | he
    · exact h.token token downloadCount url hm
    · exact ht token downloadCount url he.symm
  callers deletion hm := by
    obtain ⟨c', access, hc', ha, hda⟩ := h.callers deletion hm
    by_cases he : c' = c
    · subst he
      rw [hc] at ha
      cases ha
      exact ⟨c', new, hc', Calls.getElem?_set_own hc, hd hda⟩
    · exact ⟨c', access, hc', (List.getElem?_set_ne (Ne.symm he)).trans ha, hda⟩

theorem Counts.setDeletion (h : Counts shareToken count s) {d : Nat} {old new : Deletion}
    (hd : s.deletions[d]? = some old) (hn : new.caller = old.caller) :
    Counts shareToken count (s.setDeletion d new) where
  row := h.row
  token := h.token
  callers deletion hm := by
    rcases List.mem_or_eq_of_mem_set hm with hm | he
    · exact h.callers deletion hm
    · rw [he, hn]
      exact h.callers old (List.mem_of_getElem? hd)

theorem Deletes.not_returned {access : Access} (h : access.Deletes) : access.isReturned = false := by
  cases access with
  | returned => cases h
  | counting | deleting | threw => rfl

theorem Counts.settle (h : Counts shareToken count s) {d : Nat} {old : Deletion} (hd : s.deletions[d]? = some old)
    (error : Option ServiceError) : Counts shareToken count (s.settle d old.publicId old.caller error) := by
  obtain ⟨c, access, hc, ha, hda⟩ := h.callers old (List.mem_of_getElem? hd)
  have hset : ∀ stage, Counts shareToken count (s.setDeletion d ⟨old.publicId, old.caller, stage⟩) :=
    fun stage => h.setDeletion hd rfl
  unfold State.settle
  rw [hc]
  refine (hc ▸ hset _).set ha (fun _ => trivial) (fun _ _ _ he => by cases he) fun row hrow => ?_
  rw [Deletes.not_returned hda]
  exact h.row row hrow

theorem Counts.withoutRow (h : Counts shareToken count s) {row : Option UploadedReport}
    (hr : ∀ r, row = some r → s.row = some r) : Counts shareToken count { s with row } :=
  { h with row := fun r hrow => h.row r (hr r hrow) }

theorem counts_step (h : Counts shareToken count s) (hf : Fresh s a) (hc : LinkChange shareToken s a s') :
    Counts shareToken count s' := by
  cases hc with
  | missed now error => exact h.append rfl (fun _ _ _ he => by cases he)
  | expired now publicId =>
    have happ : Counts shareToken count { s with accesses := s.accesses ++ [.deleting] } :=
      h.append rfl (fun _ _ _ he => by cases he)
    refine { happ with callers := fun deletion hm => ?_ }
    rcases List.mem_append.mp hm with hm | hm
    · exact happ.callers deletion hm
    · rw [List.mem_singleton.mp hm]
      exact ⟨s.accesses.length, .deleting, rfl, List.getElem?_concat_length, trivial⟩
  | read now row hrow ht => exact h.append rfl (fun _ _ _ he => by cases he; rfl)
  | counted c token downloadCount url hc =>
    refine h.set hc (fun hd => hd.elim) (fun _ _ _ he => by cases he) fun row' hrow' => ?_
    obtain ⟨row, hrow, rfl⟩ := Option.map_eq_some_iff.mp hrow'
    have hr := h.row row hrow
    have ht := h.token token downloadCount url (List.mem_of_getElem? hc)
    have hn : row.downloadCount = downloadCount := hf _ hc row hrow
    rw [if_pos (hr.1.trans ht.symm)]
    refine ⟨hr.1, ?_⟩
    show downloadCount + 1 + 0 = count + s.downloads + 1
    rw [← hn, hr.2]
  | notCounted c token downloadCount url hc =>
    exact h.set hc (fun hd => hd.elim) (fun _ _ _ he => by cases he) fun row hrow => h.row row hrow
  | goesOn a files d old new hd hn => exact { h.setDeletion hd hn with }
  | settled a d old error hd => exact h.settle hd error
  | deleted a d old hd =>
    refine (h.settle hd none).withoutRow fun r hr => ?_
    rw [Option.filter_eq_some_iff] at hr
    rw [settle_row]
    exact hr.1

/-! ## Results -/

/-- The steps of the calls, each of which finds what it has read. -/
def Counted (shareToken : Nat) (s : State) (a : Action) : Prop := OfLink shareToken a ∧ Fresh s a

theorem downloads_counted {s₀ : State} {row₀ : UploadedReport} (hrow : s₀.row = some row₀) (ha : s₀.accesses = [])
    (hd : s₀.deletions = []) (h : (machine tza).Path (Counted row₀.shareToken) s₀ s) {row : UploadedReport}
    (hr : s.row = some row) : row.downloadCount = row₀.downloadCount + s.downloads := by
  have h0 : Counts row₀.shareToken row₀.downloadCount s₀ := by
    refine ⟨fun row hrow' => ?_, fun _ _ _ hm => ?_, fun _ hm => ?_⟩
    · cases hrow.symm.trans hrow'
      rw [State.downloads, ha]
      exact ⟨rfl, rfl⟩
    · rw [ha] at hm
      cases hm
    · rw [hd] at hm
      cases hm
  have hs := h.keep (I := Counts row₀.shareToken row₀.downloadCount)
    (fun s a s' hi ho hs => counts_step hi ho.2 (linkChange_of_step ho.1 hs)) h0
  exact (hs.row row hr).2

/-- A call that finds another count than it has read makes the count wrong. -/
theorem downloads_wrong_of_not_fresh (h : Counts shareToken count s) (hf : ¬ Fresh s a)
    (hs : step tza s a = some s') : ∃ row, s'.row = some row ∧ row.downloadCount ≠ count + s'.downloads := by
  have hstale : ∃ c, a = .counted c true ∧ ∃ access ∈ s.accesses[c]?, ¬ access.Finds s.row := by
    unfold Fresh at hf
    split at hf
    · push Not at hf
      exact ⟨_, rfl, hf⟩
    · exact absurd trivial hf
  obtain ⟨c, rfl, access, hmem, hn⟩ := hstale
  cases access with
  | deleting | returned | threw => exact absurd trivial hn
  | counting token downloadCount url =>
    have hc : s.accesses[c]? = some (.counting token downloadCount url) := hmem
    simp only [step, hc, if_true] at hs
    cases hs
    simp only [Access.Finds] at hn
    push Not at hn
    obtain ⟨row, hrow, hne⟩ := hn
    have hr := h.row row hrow
    have ht := h.token token downloadCount url (List.mem_of_getElem? hc)
    have hset := Calls.countP_set (b := .returned url) Access.isReturned hc
    refine ⟨{ row with downloadCount := downloadCount + 1 }, ?_, ?_⟩
    · show s.row.map _ = _
      rw [hrow, Option.map_some, if_pos (hr.1.trans ht.symm)]
    · show downloadCount + 1 ≠ count + (s.accesses.set c (.returned url)).countP Access.isReturned
      have hd : s.downloads = s.accesses.countP Access.isReturned := rfl
      simp only [Access.isReturned, Bool.false_eq_true, if_false, if_true, Nat.add_zero] at hset
      have hsum := hr.2
      omega

def stored : State := { init with row := some ⟨0, "file", 5, none, none, 3⟩ }

/-- Both calls read before one of them writes. -/
def readTwice : List Action :=
  [.accessShareableLink 5 0, .accessShareableLink 5 0, .counted 0 true, .counted 1 true]

theorem readTwice_counted_once : ¬ ∀ (s₀ s : State) (row₀ row : UploadedReport), s₀.row = some row₀ → s₀.accesses = [] →
    s₀.deletions = [] → (machine 0).Path (fun _ => OfLink row₀.shareToken) s₀ s → s.row = some row →
    row.downloadCount = row₀.downloadCount + s.downloads := by
  intro h
  have h0 : (((machine 0).only fun _ => OfLink 5).run stored readTwice).map (fun s => (s.row, s.downloads)) =
      some (some ⟨0, "file", 5, none, none, 4⟩, 2) := by decide
  obtain ⟨s, hs, h0⟩ := Option.map_eq_some_iff.mp h0
  simp only [Prod.mk.injEq] at h0
  obtain ⟨hrow, hd⟩ := h0
  have hn := h stored s _ _ rfl rfl rfl (Machine.path_of_run_only hs) hrow
  rw [hd] at hn
  cases hn

instance (shareToken : Nat) (s : State) (a : Action) : Decidable (Counted shareToken s a) :=
  inferInstanceAs (Decidable (_ ∧ _))

theorem downloads_counted_twice : ∃ s, ((machine 0).only (Counted 5)).run stored
      [.accessShareableLink 5 0, .counted 0 true, .accessShareableLink 5 0, .counted 1 true] = some s ∧
    ∀ row, s.row = some row → row.downloadCount = 3 + s.downloads := by
  have h0 : (((machine 0).only (Counted 5)).run stored
      [.accessShareableLink 5 0, .counted 0 true, .accessShareableLink 5 0, .counted 1 true]).isSome = true := by decide
  obtain ⟨s, hs⟩ := Option.isSome_iff_exists.mp h0
  refine ⟨s, hs, fun row hr => ?_⟩
  exact @downloads_counted 0 s stored ⟨0, "file", 5, none, none, 3⟩ rfl rfl rfl (Machine.path_of_run_only hs) row hr

end IntellApi.UploadedReports
