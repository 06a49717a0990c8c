import Mathlib.Logic.Function.Basic

/-!
# Identifiers and instants

Instants are integers: milliseconds since the epoch in the program,
microseconds in the columns of the database.
-/

namespace IntellApi

/-- A database id. Rows and jobs get ids nobody used before. -/
abbrev Uuid := Nat

def dayMs : Int := 24 * 60 * 60 * 1000

/-- A text that is empty counts as absent. -/
def given (text : Option String) : Option String := text.filter (· ≠ "")

inductive ServiceError
  | error (message : String)
  | badRequest (message : String)
  | unauthorized (message : String)
  | forbidden (message : String)
  | notFound (message : String)
  | conflict (message : String)
  | unprocessable (message : String)
  | gone (message : String)
  | internalServerError (message : String)
  | serviceUnavailable (message : String)
  deriving DecidableEq, Repr

namespace SysMsg

def conflict : String := "The request conflicts with the current resource state"
def invalidCredentials : String := "The provided email or password is incorrect"
def invalidOtp : String := "The verification code is invalid or has expired"
def otpAttemptsExceeded : String := "Too many verification attempts. Try again later"
def unverifiedUser : String := "The user email is not verified"
def invalidToken : String := "The token is invalid"
def unauthorized : String := "Authentication is required or has failed"
def forbidden : String := "You do not have permission to access this resource"
def notFound : String := "The requested resource was not found"
def internalServerError : String := "An unexpected server error occurred"
def noFuelTypeEntry : String := "No fuel price entry found for selected type"
def inverterMembershipNotFound : String :=
  "The requested inverter membership does not exist or has been deactivated"
def alertNotFound : String := "Alert not found"
def inviteTokenExpired : String := "This invite link has expired. Please request a new one."
def inviteAlreadyAccepted : String := "This invite has already been accepted."
def errorUploadingFile : String := "Error occurred uploading file."
def errorGeneratingShareable : String := "Failed to generate shareable link"
def shareableLinkExpired : String := "This shareable link has expired. Please generate a new one."

end SysMsg

/-- What a call answers. A write may be done although its answer is an error. -/
inductive Answer
  | done
  | failed (message : String)
  | unanswered (message : String)
  deriving DecidableEq, Repr

def Answer.error : Answer → Option String
  | .done => none
  | .failed message | .unanswered message => some message

/-- A write with this answer has been done. -/
def Answer.applied : Answer → Bool
  | .failed _ => false
  | _ => true

/-- The caller goes on, or has an error thrown at it. -/
def Answer.orThrow {α : Type} (answer : Answer) (next : α) (throw : ServiceError → α) : α :=
  match answer.error with
  | none => next
  | some message => throw (.error message)

theorem Answer.orThrow_of {α : Type} {P : α → Prop} {answer : Answer} {next : α} {throw : ServiceError → α}
    (hn : P next) (ht : ∀ error, P (throw error)) : P (answer.orThrow next throw) := by
  unfold Answer.orThrow
  split
  · exact hn
  · exact ht _

theorem bind_eq_ok {ε α β : Type} {x : Except ε α} {f : α → Except ε β} {b : β} :
    (x >>= f) = .ok b ↔ ∃ a, x = .ok a ∧ f a = .ok b := by
  cases x with
  | error e => exact ⟨fun h => (nomatch h), fun ⟨_, h, _⟩ => (nomatch h)⟩
  | ok a => exact ⟨fun h => ⟨a, rfl, h⟩, fun ⟨_, h, h'⟩ => by cases h; exact h'⟩

end IntellApi
