import IntellApi.Basic
import IntellApi.Calendar
import IntellApi.JobQueue
import IntellApi.Lts

/-!
# The uploaded copy of a report

One report: its row, its files at the file host, and the jobs that delete them.
An upload begins when the report is found ready and its PDF is made; then it is
suspended at each effect, and any of these may fail. The upsert locks the row
from its `SELECT` on, so it is one step, and an insert that meets another one's
is one of its failures. Files, jobs and tokens are numbered as they are made:
no two are the same. The `ok` of a step says whether its effect took place.
-/

namespace IntellApi.UploadedReports

open Calendar JobQueue

structure UploadedReport where
  cloudinaryPublicId : Nat
  cloudinaryUrl : String
  shareToken : Nat
  shareableLinkExpiresAt : Option Int
  deleteJobId : Option Nat
  downloadCount : Nat
  deriving DecidableEq, Repr

/-- What an upload puts into the row. -/
structure FullUploadedReport where
  cloudinaryPublicId : Nat
  cloudinaryUrl : String
  shareToken : Nat
  shareableLinkExpiresAt : Int
  deriving DecidableEq, Repr

structure DeleteUploadedReportJobData where
  publicId : Nat
  dueAt : Int
  deriving DecidableEq, Repr

/-! ## Calls -/

/-- Where a call of `uploadReportToCloudinary` waits, or how it has ended. -/
inductive Upload
  | uploading
  | upserting (full : FullUploadedReport)
  | removingOldJob (jobId : Nat) (existing : Option UploadedReport) (uploaded : UploadedReport)
  | removingOldFile (publicId : Nat) (uploaded : UploadedReport)
  | addingJob (uploaded : UploadedReport) (expiresAt : Int)
  | storingJobId (jobId : Nat) (uploaded : UploadedReport)
  /-- the `catch` block -/
  | removingNewFile (publicId : Nat) (error : ServiceError)
  | returned (uploaded : UploadedReport)
  | threw (error : ServiceError)
  deriving DecidableEq, Repr

/-- Who calls `deleteRemoteReport`. -/
inductive Caller
  | job (j : Nat)
  | access (a : Nat)
  deriving DecidableEq, Repr

inductive DeletionStage
  | checking
  | destroying
  | deletingRow
  | returned
  | threw (error : ServiceError)
  deriving DecidableEq, Repr

structure Deletion where
  publicId : Nat
  caller : Caller
  stage : DeletionStage
  deriving DecidableEq, Repr

/-- Where a call of `accessShareableLink` waits, or how it has ended. -/
inductive Access
  | counting (shareToken : Nat) (downloadCount : Nat) (cloudinaryUrl : String)
  | deleting
  | returned (cloudinaryUrl : String)
  | threw (error : ServiceError)
  deriving DecidableEq, Repr

structure State where
  row : Option UploadedReport
  files : List Nat
  uploads : Nat
  jobs : List (Job DeleteUploadedReportJobData)
  calls : List Upload
  deletions : List Deletion
  accesses : List Access
  deriving DecidableEq, Repr

/-- How the upsert ends; a commit may go through and still throw. -/
inductive Upsert
  | committed
  | rolledBack
  | answerLost
  deriving DecidableEq, Repr

inductive Action
  | uploadReportToCloudinary
  | uploaded (c : Nat) (url : Option String) (now : Int)
  | upserted (c : Nat) (upsert : Upsert)
  | oldJobRemoved (c : Nat) (ok : Bool)
  | oldFileRemoved (c : Nat) (ok : Bool)
  | jobAdded (c : Nat) (ok : Bool) (now : Int)
  | jobIdStored (c : Nat) (ok : Bool)
  | newFileRemoved (c : Nat) (ok : Bool)
  | accessShareableLink (shareToken : Nat) (now : Int)
  | counted (a : Nat) (ok : Bool)
  | jobStarted (j : Nat) (now : Int)
  | checked (d : Nat) (ok : Bool)
  | destroyed (d : Nat) (ok : Bool)
  | rowDeleted (d : Nat) (ok : Bool)
  deriving DecidableEq, Repr

def init : State := ⟨none, [], 0, [], [], [], []⟩

/-! ## `uploadReportToCloudinary` -/

/-- The row after the upsert; an update leaves `deleteJobId` and `downloadCount` alone. -/
def upsertUploadedReport (existing : Option UploadedReport) (full : FullUploadedReport) : UploadedReport where
  cloudinaryPublicId := full.cloudinaryPublicId
  cloudinaryUrl := full.cloudinaryUrl
  shareToken := full.shareToken
  shareableLinkExpiresAt := some full.shareableLinkExpiresAt
  deleteJobId := existing.bind (·.deleteJobId)
  downloadCount := (existing.map (·.downloadCount)).getD 0

def deleteByPublicId (files : List Nat) (publicId : Nat) (ok : Bool) : List Nat :=
  if ok then files.filter (· ≠ publicId) else files

def caught (error : ServiceError) : ServiceError :=
  match error with
  | .serviceUnavailable _ => error
  | _ => .internalServerError SysMsg.errorUploadingFile

def expiryJob (uploaded : UploadedReport) : Upload :=
  match uploaded.shareableLinkExpiresAt with
  | some expiresAt => .addingJob uploaded expiresAt
  | none => .returned uploaded

def oldFile (existing : Option UploadedReport) (uploaded : UploadedReport) : Upload :=
  match existing with
  | some existing =>
    if existing.cloudinaryPublicId ≠ uploaded.cloudinaryPublicId then .removingOldFile existing.cloudinaryPublicId uploaded
    else expiryJob uploaded
  | none => expiryJob uploaded

def oldJob (existing : Option UploadedReport) (uploaded : UploadedReport) : Upload :=
  match (existing.bind (·.deleteJobId)).or uploaded.deleteJobId with
  | some jobId => .removingOldJob jobId existing uploaded
  | none => oldFile existing uploaded

/-- A delete job has three attempts. -/
def deleteJob (uploaded : UploadedReport) (dueAt : Int) : Job DeleteUploadedReportJobData :=
  ⟨⟨uploaded.cloudinaryPublicId, dueAt⟩, 3, 0, true⟩

namespace State

def setCall (s : State) (c : Nat) (call : Upload) : State := { s with calls := s.calls.set c call }

/-- The `catch` block of a call whose file is uploaded. -/
def fail (s : State) (c publicId : Nat) (error : ServiceError) : State :=
  s.setCall c (.removingNewFile publicId (caught error))

def setDeletion (s : State) (d : Nat) (deletion : Deletion) : State :=
  { s with deletions := s.deletions.set d deletion }

/-- `deleteRemoteReport` ends, and so does the attempt of the job, or the access, that called it. -/
def settle (s : State) (d publicId : Nat) (caller : Caller) (error : Option ServiceError) : State :=
  let stage := match error with
    | some error => .threw error
    | none => .returned
  match caller with
  | .job j =>
    { s.setDeletion d ⟨publicId, caller, stage⟩ with
      jobs := if error.isSome then JobQueue.fail s.jobs j else finish s.jobs j }
  | .access a =>
    { s.setDeletion d ⟨publicId, caller, stage⟩ with
      accesses := s.accesses.set a (.threw (error.getD (.gone SysMsg.shareableLinkExpired))) }

end State

/-! ## Steps -/

section
variable (tza : Int)

def step (s : State) : Action → Option State
  | .uploadReportToCloudinary => some { s with calls := s.calls ++ [.uploading] }
  | .uploaded c url now =>
    match s.calls[c]?, url with
    | some .uploading, some url =>
      some { s.setCall c (.upserting ⟨s.uploads, url, c, setDate tza now (getDate tza now + 7)⟩) with
        files := s.files ++ [s.uploads]
        uploads := s.uploads + 1 }
    | some .uploading, none => some (s.setCall c (.threw (.serviceUnavailable SysMsg.errorUploadingFile)))
    | _, _ => none
  | .upserted c upsert =>
    match s.calls[c]? with
    | some (.upserting full) =>
      let uploaded := upsertUploadedReport s.row full
      let failed := s.fail c full.cloudinaryPublicId (.serviceUnavailable SysMsg.errorGeneratingShareable)
      match upsert with
      | .committed => some { s.setCall c (oldJob s.row uploaded) with row := some uploaded }
      | .rolledBack => some failed
      | .answerLost => some { failed with row := some uploaded }
    | _ => none
  | .oldJobRemoved c ok =>
    match s.calls[c]? with
    | some (.removingOldJob jobId existing uploaded) =>
      -- a failure is only logged
      some { s.setCall c (oldFile existing uploaded) with jobs := if ok then finish s.jobs jobId else s.jobs }
    | _ => none
  | .oldFileRemoved c ok =>
    match s.calls[c]? with
    | some (.removingOldFile publicId uploaded) =>
      some { s.setCall c (expiryJob uploaded) with files := deleteByPublicId s.files publicId ok }
    | _ => none
  | .jobAdded c ok now =>
    match s.calls[c]? with
    | some (.addingJob uploaded expiresAt) =>
      some (if ok then
        { s.setCall c (if now < expiresAt then .storingJobId s.jobs.length uploaded else .returned uploaded) with
          jobs := s.jobs ++ [deleteJob uploaded expiresAt] }
      else s.fail c uploaded.cloudinaryPublicId (.error "add"))
    | _ => none
  | .jobIdStored c ok =>
    match s.calls[c]? with
    | some (.storingJobId jobId uploaded) =>
      some (if ok then
        { s.setCall c (.returned uploaded) with
          row := s.row.map fun row =>
            if row.shareToken = uploaded.shareToken then { row with deleteJobId := some jobId } else row }
      else s.fail c uploaded.cloudinaryPublicId (.error "update"))
    | _ => none
  | .newFileRemoved c ok =>
    match s.calls[c]? with
    | some (.removingNewFile publicId error) =>
      some { s.setCall c (.threw error) with files := deleteByPublicId s.files publicId ok }
    | _ => none
  | .accessShareableLink shareToken now =>
    match s.row.filter (·.shareToken = shareToken) with
    | some row =>
      some (if row.shareableLinkExpiresAt.any (· < now) then
        { s with
          accesses := s.accesses ++ [.deleting]
          deletions := s.deletions ++ [⟨row.cloudinaryPublicId, .access s.accesses.length, .checking⟩] }
      else { s with accesses := s.accesses ++ [.counting shareToken row.downloadCount row.cloudinaryUrl] })
    | none => some { s with accesses := s.accesses ++ [.threw (.notFound SysMsg.notFound)] }
  | .counted a ok =>
    match s.accesses[a]? with
    | some (.counting shareToken downloadCount url) =>
      some (if ok then
        { s with
          accesses := s.accesses.set a (.returned url)
          row := s.row.map fun row =>
            if row.shareToken = shareToken then { row with downloadCount := downloadCount + 1 } else row }
      else { s with accesses := s.accesses.set a (.threw (.error "update")) })
    | _ => none
  | .jobStarted j now =>
    match s.jobs[j]? with
    | some job =>
      if job.queued ∧ job.data.dueAt ≤ now then
        some { s with deletions := s.deletions ++ [⟨job.data.publicId, .job j, .checking⟩] }
      else none
    | none => none
  | .checked d ok =>
    match s.deletions[d]? with
    | some ⟨publicId, caller, .checking⟩ =>
      match if ok then s.row else none with
      | some row =>
        some (if row.cloudinaryPublicId = publicId then s.setDeletion d ⟨publicId, caller, .destroying⟩
          else s.settle d publicId caller (some (.forbidden SysMsg.forbidden)))
      | none => some (s.settle d publicId caller (some (.notFound SysMsg.notFound)))
    | _ => none
  | .destroyed d ok =>
    match s.deletions[d]? with
    | some ⟨publicId, caller, .destroying⟩ =>
      some (if ok then
        { s.setDeletion d ⟨publicId, caller, .deletingRow⟩ with files := deleteByPublicId s.files publicId true }
      else s.settle d publicId caller (some (.serviceUnavailable SysMsg.internalServerError)))
    | _ => none
  | .rowDeleted d ok =>
    match s.deletions[d]? with
    | some ⟨publicId, caller, .deletingRow⟩ =>
      some (if ok then
        { s.settle d publicId caller none with row := s.row.filter (·.cloudinaryPublicId ≠ publicId) }
      else s.settle d publicId caller (some (.error "delete")))
    | _ => none

def machine : Lts.Machine State Action := ⟨init, step tza⟩

end

end IntellApi.UploadedReports
