import IntellApi.Basic
import IntellApi.Lts
import IntellApi.RowLocks

/-!
# Profile images

One user: the row of `profile-images`, which the unique `user_id` allows only
once, and the files at the file host. An upload puts its file there first, then
replaces the row in a transaction, and removes the file that is then left over:
the old one, or after an error its own. It is suspended at each effect, and any
of these may fail. Public ids are numbered as the host makes them.
-/

namespace IntellApi.ProfileImages

open Lts RowLocks

/-- The uploaded file, as the request brings it. -/
structure FileDto where
  originalname : String
  size : Nat
  mimetype : String
  deriving DecidableEq, Repr

structure FileMeta where
  filename : String
  fileExtname : String
  filesizeBytes : String
  mimeType : String
  deriving DecidableEq, Repr

/-- What the host answers, but for the public id. -/
structure UploadApiResponse where
  format : String
  secureUrl : String
  resourceType : String
  version : Nat
  createdAt : String
  etag : String
  versionId : String
  assetFolder : String
  deriving DecidableEq, Repr

structure Metadata where
  uploadedAt : String
  etag : String
  versionId : String
  assetFolder : String
  deriving DecidableEq, Repr

structure ProfileImage where
  file : FileMeta
  cloudinaryPublicId : Nat
  cloudinaryUrl : String
  thumbnailUrl : String
  format : String
  resourceType : String
  version : Nat
  metadata : Metadata
  deriving DecidableEq, Repr

structure CloudinaryConfig where
  cloudName : String
  resourceUrl : String

/-! ## Calls -/

/-- Where a call of `uploadProfileImage` waits, or how it has ended. -/
inductive Upload
  | uploading (file : FileMeta)
  | findingUser (img : ProfileImage)
  | locking (img : ProfileImage)
  | inserting (img : ProfileImage) (existing : Option ProfileImage)
  | findingSaved (img : ProfileImage) (existing : Option ProfileImage)
  | committing (img saved : ProfileImage) (existing : Option ProfileImage)
  /-- the `catch` block of `upsertUserPorfileImg` -/
  | rollingBack (img : ProfileImage)
  | removingOldFile (publicId : Nat) (saved : ProfileImage)
  /-- the `catch` block of `uploadProfileImage` -/
  | removingNewFile (publicId : Nat) (error : ServiceError)
  | returned (saved : ProfileImage)
  | threw (error : ServiceError)
  deriving DecidableEq, Repr

structure State where
  user : Bool
  /-- locked by calls, which are known by their positions -/
  row : Row Nat ProfileImage
  files : List Nat
  uploads : Nat
  calls : List Upload
  deriving DecidableEq, Repr

inductive Action
  | uploadProfileImage (file : FileDto) (error : Option String)
  | uploaded (c : Nat) (res : UploadApiResponse) (answer : Answer)
  | userFound (c : Nat) (error : Option String)
  | locked (c : Nat) (error : Option String)
  | inserted (c : Nat) (error : Option String)
  | savedFound (c : Nat) (error : Option String)
  | committed (c : Nat) (answer : Answer)
  | rolledBack (c : Nat) (error : Option String)
  | oldFileRemoved (c : Nat) (answer : Answer)
  | newFileRemoved (c : Nat) (answer : Answer)
  /-- `UsersService.remove`; the row goes with its user -/
  | userRemoved
  deriving DecidableEq, Repr

def init : State := ⟨true, .empty, [], 0, []⟩

/-! ## `uploadProfileImage` -/

/-- `path.extname`: the name's last part from its last dot on, unless it begins there or is `..`. -/
def extname (name : String) : String :=
  let base := (name.toList.reverse.dropWhile (· = '/')).takeWhile (· ≠ '/')
  let suffix := base.takeWhile (· ≠ '.')
  if suffix.length + 1 < base.length ∧ base ≠ ['.', '.'] then String.ofList ('.' :: suffix.reverse) else ""

section
variable (toLowerCase : String → String) (cfg : CloudinaryConfig)

def fileMeta (file : FileDto) : FileMeta where
  filename := toLowerCase file.originalname
  fileExtname := toLowerCase (extname file.originalname)
  filesizeBytes := toString file.size
  mimeType := file.mimetype

def generateThumbnailUrl (publicId : Nat) (res : UploadApiResponse) : String :=
  cfg.resourceUrl ++ "/" ++ cfg.cloudName ++ "/image/upload/v" ++ toString res.version ++ "/c_thumb,w_200,h_200/"
    ++ toString publicId ++ "." ++ res.format

/-- `generateAdditionalProperties` beside the file's own. -/
def fullImg (file : FileMeta) (publicId : Nat) (res : UploadApiResponse) : ProfileImage where
  file := file
  cloudinaryPublicId := publicId
  cloudinaryUrl := res.secureUrl
  thumbnailUrl := generateThumbnailUrl cfg publicId res
  format := res.format
  resourceType := res.resourceType
  version := res.version
  metadata := ⟨res.createdAt, res.etag, res.versionId, res.assetFolder⟩

def caught (error : ServiceError) : ServiceError :=
  match error with
  | .serviceUnavailable _ => error
  | _ => .internalServerError SysMsg.errorUploadingFile

def deleteByPublicId (files : List Nat) (publicId : Nat) (answer : Answer) : List Nat :=
  if answer.applied then files.filter (· ≠ publicId) else files

/-- The end of `upsertUserPorfileImg`: the replaced file is removed, unless it is the new one. -/
def oldFile (img saved : ProfileImage) (existing : Option ProfileImage) : Upload :=
  match existing with
  | some existing =>
    if existing.cloudinaryPublicId ≠ img.cloudinaryPublicId then .removingOldFile existing.cloudinaryPublicId saved
    else .returned saved
  | none => .returned saved

namespace State

def setCall (s : State) (c : Nat) (call : Upload) : State := { s with calls := s.calls.set c call }

/-- The `catch` block of a call whose file is uploaded. -/
def fail (s : State) (c : Nat) (img : ProfileImage) (error : ServiceError) : State :=
  s.setCall c (.removingNewFile img.cloudinaryPublicId (caught error))

end State

/-! ## Steps -/

def step (s : State) : Action → Option State
  | .uploadProfileImage file error =>
    let call := match error with
      | some message => .threw (.error message)
      | none => if s.user then .uploading (fileMeta toLowerCase file) else .threw (.notFound SysMsg.notFound)
    some { s with calls := s.calls ++ [call] }
  | .uploaded c res answer =>
    match s.calls[c]? with
    | some (.uploading file) =>
      let files := if answer.applied then s.files ++ [s.uploads] else s.files
      let call := match answer with
        | .done => .findingUser (fullImg cfg file s.uploads res)
        | _ => .threw (.serviceUnavailable SysMsg.errorUploadingFile)
      some { s.setCall c call with files, uploads := s.uploads + 1 }
    | _ => none
  -- `startTransaction` follows at once and fails like the query
  | .userFound c error =>
    match s.calls[c]? with
    | some (.findingUser img) =>
      match error with
      | some message => some (s.fail c img (.error message))
      | none =>
        if s.user then some (s.setCall c (.locking img))
        else some (s.fail c img (.unauthorized SysMsg.unauthorized))
    | _ => none
  -- no row, no lock: a row that another transaction has only inserted is not seen
  | .locked c error =>
    match s.calls[c]? with
    | some (.locking img) =>
      match error, s.row.committed with
      | some _, _ => some (s.setCall c (.rollingBack img))
      | none, none => some (s.setCall c (.inserting img none))
      | none, some existing =>
        if s.row.free c then some { s.setCall c (.inserting img (some existing)) with row := s.row.acquire c } else none
    | _ => none
  -- waits for the transaction that holds the row or is about to insert it
  | .inserted c error =>
    match s.calls[c]? with
    | some (.inserting img existing) =>
      if s.row.free c then
        if error.isSome ∨ ¬s.user then some (s.setCall c (.rollingBack img))
        else some { s.setCall c (.findingSaved img existing) with row := s.row.write c img }
      else none
    | _ => none
  | .savedFound c error =>
    match s.calls[c]? with
    | some (.findingSaved img existing) =>
      match error, s.row.seen c with
      | none, some saved => some (s.setCall c (.committing img saved existing))
      | _, _ => some (s.setCall c (.rollingBack img))
    | _ => none
  | .committed c answer =>
    match s.calls[c]? with
    | some (.committing img saved existing) =>
      let call := match answer with
        | .done => oldFile img saved existing
        | _ => .rollingBack img
      some { s.setCall c call with row := if answer.applied then s.row.commit c else s.row }
    | _ => none
  | .rolledBack c error =>
    match s.calls[c]? with
    | some (.rollingBack img) =>
      let thrown := match error with
        | some message => .error message
        | none => .serviceUnavailable SysMsg.errorUploadingFile
      some { s.fail c img thrown with row := s.row.rollback c }
    | _ => none
  | .oldFileRemoved c answer =>
    match s.calls[c]? with
    | some (.removingOldFile publicId saved) =>
      some { s.setCall c (.returned saved) with files := deleteByPublicId s.files publicId answer }
    | _ => none
  | .newFileRemoved c answer =>
    match s.calls[c]? with
    | some (.removingNewFile publicId error) =>
      some { s.setCall c (.threw error) with files := deleteByPublicId s.files publicId answer }
    | _ => none
  | .userRemoved => if s.row.lock.isNone then some { s with user := false, row := .empty } else none

def machine : Machine State Action := ⟨init, step toLowerCase cfg⟩

end

end IntellApi.ProfileImages
