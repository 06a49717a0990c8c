import IntellApi.Basic
import IntellApi.Lts

/-!
# Feedback and its resolution

An update reads the row, decides from it whether the item is being resolved or
taken up again, and writes in a second statement. A field of the request may be
left out or be `null`: an optional field is not validated when it is `null`.
-/

namespace IntellApi.FeedbackService

open Function

inductive FeedbackStatus
  | «open»
  | inProgress
  | resolved
  deriving DecidableEq, Repr

inductive FeedbackPriority
  | low
  | medium
  | high
  deriving DecidableEq, Repr

structure Feedback where
  userId : Uuid
  email : String
  name : String
  category : String
  priority : FeedbackPriority
  message : String
  status : FeedbackStatus
  adminNote : Option String
  resolvedAt : Option Int
  resolvedByAdminId : Option Uuid
  deriving DecidableEq, Repr

/-- An optional field of a request. -/
inductive DtoField (α : Type)
  | undefined
  | null
  | value (a : α)
  deriving DecidableEq, Repr

/-- `field && { … }` for a field whose values are not empty. -/
def DtoField.truthy {α : Type} : DtoField α → Option α
  | .value a => some a
  | .undefined | .null => none

/-- `field !== undefined && { … }` -/
def DtoField.given {α : Type} : DtoField α → Option (Option α)
  | .value a => some (some a)
  | .null => some none
  | .undefined => none

structure CreateFeedbackDto where
  category : String
  priority : FeedbackPriority
  message : String

structure UpdateFeedbackDto where
  status : DtoField FeedbackStatus
  priority : DtoField FeedbackPriority
  adminNote : DtoField String

structure User where
  firstName : String
  lastName : String

structure AuthenticatedUser where
  sub : Uuid
  email : String

def newFeedback (dto : CreateFeedbackDto) (currentUser : AuthenticatedUser) (user : User) : Feedback where
  userId := currentUser.sub
  email := currentUser.email
  name := user.firstName ++ " " ++ user.lastName
  category := dto.category
  priority := dto.priority
  message := dto.message
  status := .open
  adminNote := none
  resolvedAt := none
  resolvedByAdminId := none

/-! ## The payload -/

def transitioningToResolved (dto : UpdateFeedbackDto) (feedback : Feedback) : Bool :=
  dto.status = .value .resolved && feedback.status ≠ .resolved

def transitioningFromResolved (dto : UpdateFeedbackDto) (feedback : Feedback) : Bool :=
  dto.status ≠ .undefined && dto.status ≠ .value .resolved && feedback.status = .resolved

/-- The columns the statement sets. -/
structure UpdatePayload where
  status : Option FeedbackStatus
  priority : Option FeedbackPriority
  adminNote : Option (Option String)
  resolution : Option (Option Int × Option Uuid)

def updatePayload (feedback : Feedback) (dto : UpdateFeedbackDto) (adminId : Uuid) (now : Int) : UpdatePayload where
  status := dto.status.truthy
  priority := dto.priority.truthy
  adminNote := dto.adminNote.given
  resolution :=
    if transitioningFromResolved dto feedback then some (none, none)
    else if transitioningToResolved dto feedback then some (some now, some adminId)
    else none

def UpdatePayload.apply (payload : UpdatePayload) (row : Feedback) : Feedback :=
  { row with
    status := payload.status.getD row.status
    priority := payload.priority.getD row.priority
    adminNote := payload.adminNote.getD row.adminNote
    resolvedAt := (payload.resolution.map (·.1)).getD row.resolvedAt
    resolvedByAdminId := (payload.resolution.map (·.2)).getD row.resolvedByAdminId }

/-! ## Calls -/

/-- Where a call of `create` or `update` waits, or how it has ended. A call that
updates keeps what it has read, and the time. -/
inductive Call
  | creating (dto : CreateFeedbackDto) (currentUser : AuthenticatedUser) (user : User)
  | updating (id : Uuid) (feedback : Feedback) (dto : UpdateFeedbackDto) (adminId : Uuid) (now : Int)
  | returned (feedback : Feedback)
  | threw (error : ServiceError)

structure State where
  clock : Int
  rows : Uuid → Option Feedback
  calls : List Call

inductive Action
  | tick (ms : Nat)
  | create (dto : CreateFeedbackDto) (currentUser : AuthenticatedUser) (user : Option User)
  | created (c : Nat) (newId : Uuid) (ok : Bool)
  | update (id : Uuid) (dto : UpdateFeedbackDto) (adminId : Uuid) (ok : Bool)
  | updated (c : Nat) (ok : Bool)

def init : State := ⟨0, fun _ => none, []⟩

namespace State

def call (s : State) (call : Call) : State := { s with calls := s.calls ++ [call] }

def setCall (s : State) (c : Nat) (call : Call) : State := { s with calls := s.calls.set c call }

end State

def step (s : State) : Action → Option State
  | .tick ms => some { s with clock := s.clock + ms }
  | .create dto currentUser user =>
    match user with
    | some user => some (s.call (.creating dto currentUser user))
    | none => some (s.call (.threw (.unauthorized SysMsg.unauthorized)))
  | .created c newId ok =>
    match s.calls[c]? with
    | some (.creating dto currentUser user) =>
      if ok then
        if (s.rows newId).isSome then none
        else
          let feedback := newFeedback dto currentUser user
          some ({ s with rows := update s.rows newId (some feedback) }.setCall c (.returned feedback))
      else some (s.setCall c (.threw (.error "insert")))
    | _ => none
  | .update id dto adminId ok =>
    if ok then
      match s.rows id with
      | some feedback => some (s.call (.updating id feedback dto adminId s.clock))
      | none => some (s.call (.threw (.notFound SysMsg.notFound)))
    else some (s.call (.threw (.error "select")))
  | .updated c ok =>
    match s.calls[c]? with
    | some (.updating id feedback dto adminId now) =>
      if ok then
        match s.rows id with
        | some row =>
          let updated := (updatePayload feedback dto adminId now).apply row
          some ({ s with rows := update s.rows id (some updated) }.setCall c (.returned updated))
        | none => some (s.setCall c (.threw (.notFound SysMsg.notFound)))
      else some (s.setCall c (.threw (.error "update")))
    | _ => none

def machine : Lts.Machine State Action := ⟨init, step⟩

end IntellApi.FeedbackService
