import IntellApi.Basic
import IntellApi.Lts

/-!
# Email verification

The requests of one user, the keys `otp` and `otp_attempts` of the user's
address in Redis, and the subscriptions that are active. A request is suspended
at each call, which may fail; its steps carry the answer. Comparing a code with
the stored hash touches nothing else and belongs to the step that reads the
hash. A key may expire at any time.
-/

namespace IntellApi.EmailVerification

structure User where
  emailVerified : Bool
  onboardingStep : Option Int
  deriving DecidableEq, Repr

/-- Where a `verifyEmail` request is suspended. `attempts` is the count it read. -/
inductive Phase
  | findingByEmail (otp : String)
  | readingAttempts (otp : String)
  | readingCode (otp : String) (attempts : Nat)
  | counting (attempts : Nat)
  | verifying
  | findingUser
  | findingSubscription
  | creatingSubscription
  | deletingCode
  | deletingAttempts
  | creatingSession
  | issuingTokens
  | sendingWelcome
  | done
  | alreadyVerified
  | throwing (error : ServiceError)
  deriving DecidableEq, Repr

/-- `wrong` is a ghost: the codes compared with the stored one in vain since the
count of attempts last expired. -/
structure State where
  user : Option User
  activeSubscriptions : Nat
  code : Option String
  attempts : Option Nat
  requests : List Phase
  wrong : Nat
  deriving DecidableEq, Repr

inductive Action
  | register
  | sendVerificationEmail (otpHash : String)
  | codeExpires
  | attemptsExpire
  | verifyEmail (otp : String)
  | execute (p : Nat) (answer : Answer)

def init : State :=
  { user := none, activeSubscriptions := 0, code := none, attempts := none, requests := [], wrong := 0 }

def State.move (s : State) (p : Nat) (phase : Phase) : State := { s with requests := s.requests.set p phase }

def State.setEmailVerified (s : State) (emailVerified : Bool) : State :=
  { s with user := s.user.map fun _ => { emailVerified, onboardingStep := some (if emailVerified then 2 else 1) } }

section
variable (compare : String → String → Bool)

def requestStep (s : State) (p : Nat) (answer : Answer) : Phase → Option State
  | .findingByEmail otp =>
    match answer.error, s.user with
    | some message, _ => some (s.move p (.throwing (.error message)))
    | none, none => some (s.move p (.throwing (.unauthorized SysMsg.invalidOtp)))
    | none, some user => some (s.move p (if user.emailVerified then .alreadyVerified else .readingAttempts otp))
  | .readingAttempts otp =>
    let attempts := s.attempts.getD 0
    some (s.move p (answer.orThrow
      (if attempts ≥ 5 then .throwing (.unauthorized SysMsg.otpAttemptsExceeded) else .readingCode otp attempts)
      .throwing))
  | .readingCode otp attempts =>
    match answer.error, s.code with
    | some message, _ => some (s.move p (.throwing (.error message)))
    | none, none => some (s.move p (.counting attempts))
    | none, some storedHash =>
      if compare otp storedHash then some (s.move p .verifying)
      else some ({ s with wrong := s.wrong + 1 }.move p (.counting attempts))
  | .counting attempts =>
    some ({ s with attempts := if answer.applied then some (attempts + 1) else s.attempts }.move p
      (answer.orThrow (.throwing (.unauthorized SysMsg.invalidOtp)) .throwing))
  | .verifying =>
    some ((if answer.applied then s.setEmailVerified true else s).move p (answer.orThrow .findingUser .throwing))
  | .findingUser =>
    match answer.error, s.user with
    | some message, _ => some (s.move p (.throwing (.error message)))
    | none, none => some (s.move p (.throwing (.notFound SysMsg.notFound)))
    | none, some _ => some (s.move p .findingSubscription)
  | .findingSubscription =>
    some (s.move p (answer.orThrow
      (if 0 < s.activeSubscriptions then .throwing (.conflict SysMsg.conflict) else .creatingSubscription) .throwing))
  | .creatingSubscription =>
    some ({ s with activeSubscriptions := s.activeSubscriptions + if answer.applied then 1 else 0 }.move p
      (answer.orThrow .deletingCode .throwing))
  | .deletingCode =>
    some ({ s with code := if answer.applied then none else s.code }.move p (answer.orThrow .deletingAttempts .throwing))
  | .deletingAttempts =>
    some ({ s with attempts := if answer.applied then none else s.attempts }.move p
      (answer.orThrow .creatingSession .throwing))
  | .creatingSession => some (s.move p (answer.orThrow .issuingTokens .throwing))
  | .issuingTokens => some (s.move p (answer.orThrow .sendingWelcome .throwing))
  | .sendingWelcome => some (s.move p (answer.orThrow .done .throwing))
  | .done | .alreadyVerified | .throwing _ => none

def step (s : State) : Action → Option State
  | .register => if s.user = none then some { s with user := some ⟨false, some 1⟩ } else none
  | .sendVerificationEmail otpHash => if s.user = none then none else some { s with code := some otpHash }
  | .codeExpires => some { s with code := none }
  | .attemptsExpire => some { s with attempts := none, wrong := 0 }
  | .verifyEmail otp => some { s with requests := s.requests ++ [.findingByEmail otp] }
  | .execute p answer => s.requests[p]?.bind (requestStep compare s p answer)

def machine : Lts.Machine State Action := ⟨init, step compare⟩

end

end IntellApi.EmailVerification
