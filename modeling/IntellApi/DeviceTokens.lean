import IntellApi.Paging
import IntellApi.Sessions

/-!
# Device tokens and pushes

A push goes to the tokens on the first page of a user's sessions. The page is
not cut to active sessions, a logout leaves the token on the row, and a column
that is not set reads as null, which the filter lets through. So a push reaches
exactly the live devices when there is nothing else to reach
(`push_reaches_live_iff`).
-/

namespace IntellApi.DeviceTokens

open Paging Sessions

inductive DeviceToken
  | undefined
  | null
  | fid (token : String)
  deriving DecidableEq, Repr

def column (sess : Session) : DeviceToken :=
  match sess.deviceToken with
  | some token => .fid token
  | none => .null

def sessionsOf (rows : List Session) (userId : Uuid) : List Session := rows.filter (·.userId = userId)

section
variable (order : Order Session) (rows : List Session)

def getUserDeviceTokens (userId : Uuid) : List DeviceToken :=
  ((order.page (sessionsOf rows userId) 1 100).map column).filter (· ≠ .undefined)

def getActiveSessionsFids (userId : Uuid) : List DeviceToken := getUserDeviceTokens order rows userId

inductive ProcessingStatus
  | pending
  | processing
  | failed
  | successful
  deriving DecidableEq, Repr

structure SendPushJobData where
  notificationId : Uuid
  userId : Uuid
  title : String
  body : String
  data : Option (List (String × String))
  deriving DecidableEq, Repr

structure FidMulticastMessage where
  fids : List DeviceToken
  title : String
  body : String
  data : List (String × String)
  deriving DecidableEq, Repr

/-- The message handed to the push service, the status the notification gets, and what is thrown. -/
structure Push where
  message : Option FidMulticastMessage
  pushDeliveryStatus : ProcessingStatus
  thrown : Option String
  deriving DecidableEq, Repr

/-- `sendEachForMulticast` answers with the number of failures. -/
def handleSendPush (sendEachForMulticast : FidMulticastMessage → Except String Nat) (job : SendPushJobData) : Push :=
  let fids := getActiveSessionsFids order rows job.userId
  if fids.isEmpty then ⟨none, .failed, none⟩
  else
    let message := ⟨fids, job.title, job.body, job.data.getD []⟩
    match sendEachForMulticast message with
    | .ok failureCount => ⟨some message, if failureCount = fids.length then .failed else .successful, none⟩
    | .error error => ⟨some message, .failed, some error⟩

end

def Push.fids (push : Push) : List DeviceToken := (push.message.map (·.fids)).getD []

theorem handleSendPush_fids (order : Order Session) (rows : List Session)
    (sendEachForMulticast : FidMulticastMessage → Except String Nat) (job : SendPushJobData) :
    (handleSendPush order rows sendEachForMulticast job).fids = getUserDeviceTokens order rows job.userId := by
  unfold handleSendPush getActiveSessionsFids
  cases hf : getUserDeviceTokens order rows job.userId with
  | nil => rfl
  | cons fid fids =>
    simp only [List.isEmpty_cons, Bool.false_eq_true, if_false]
    split <;> rfl

/-! ## Live devices -/

def Live (rows : List Session) (userId : Uuid) (token : DeviceToken) : Prop :=
  ∃ sess ∈ sessionsOf rows userId, sess.isActive = true ∧ ∃ fid, sess.deviceToken = some fid ∧ token = .fid fid

/-- Every session has the token of an active one, and for each token fewer than a hundred sessions carry another. -/
structure OnlyLive (rows : List Session) (userId : Uuid) : Prop where
  live : ∀ sess ∈ sessionsOf rows userId, Live rows userId (column sess)
  fits : ∀ sess ∈ sessionsOf rows userId, (sessionsOf rows userId).countP (·.deviceToken ≠ sess.deviceToken) < 100

section
variable {order : Order Session} {rows : List Session} {userId : Uuid} {token : DeviceToken}

theorem mem_tokens : token ∈ getUserDeviceTokens order rows userId ↔
    ∃ sess ∈ order.page (sessionsOf rows userId) 1 100, column sess = token := by
  unfold getUserDeviceTokens
  rw [List.mem_filter, List.mem_map]
  constructor
  · exact fun h => h.1
  · rintro ⟨sess, hs, rfl⟩
    refine ⟨⟨sess, hs, rfl⟩, ?_⟩
    unfold column
    split <;> simp

theorem column_eq_iff {sess sess' : Session} : column sess = column sess' ↔ sess.deviceToken = sess'.deviceToken := by
  unfold column
  cases sess.deviceToken <;> cases sess'.deviceToken <;> simp

theorem column_fid {sess : Session} {fid : String} (h : sess.deviceToken = some fid) : column sess = .fid fid := by
  unfold column
  rw [h]

/-- The page has a session's token whatever the order, when fewer than a hundred sessions carry another. -/
theorem shows_iff {sess : Session} (hs : sess ∈ sessionsOf rows userId) :
    (∀ order : Order Session, column sess ∈ getUserDeviceTokens order rows userId) ↔
      (sessionsOf rows userId).countP (·.deviceToken ≠ sess.deviceToken) < 100 := by
  have h := @page_one_shows_iff Session (sessionsOf rows userId) (fun s => s.deviceToken = sess.deviceToken) 100
  simp only [mem_tokens, column_eq_iff, decide_eq_true_eq] at h ⊢
  rw [h]
  simp only [decide_not]
  exact ⟨fun h => h.2, fun h => ⟨⟨sess, hs, rfl⟩, h⟩⟩

theorem tokens_live_iff :
    (∀ order : Order Session, ∀ token ∈ getUserDeviceTokens order rows userId, Live rows userId token) ↔
    ∀ sess ∈ sessionsOf rows userId, Live rows userId (column sess) := by
  have hl : 0 < 100 := by decide
  rw [← page_one_all_iff hl]
  constructor
  · exact fun h order sess hs => h order _ (mem_tokens.mpr ⟨sess, hs, rfl⟩)
  · intro h order token ht
    obtain ⟨sess, hs, rfl⟩ := mem_tokens.mp ht
    exact h order sess hs

end

/-- A user's pushes go to the tokens of his active sessions and nowhere else if and only if he has no others. -/
theorem push_reaches_live_iff (rows : List Session) (sendEachForMulticast : FidMulticastMessage → Except String Nat)
    (job : SendPushJobData) :
    (∀ order : Order Session, ∀ token,
      (token ∈ getUserDeviceTokens order rows job.userId ↔ Live rows job.userId token) ∧
      (token ∈ (handleSendPush order rows sendEachForMulticast job).fids ↔ Live rows job.userId token)) ↔
    OnlyLive rows job.userId := by
  simp only [handleSendPush_fids, and_self]
  constructor
  · intro h
    have hlive := tokens_live_iff.mp fun order token => (h order token).mp
    exact ⟨hlive, fun sess hs => (shows_iff hs).mp fun order => (h order _).mpr (hlive sess hs)⟩
  · intro h order token
    refine ⟨tokens_live_iff.mpr h.live order token, ?_⟩
    rintro ⟨sess, hs, -, fid, ht, rfl⟩
    rw [← column_fid ht]
    exact (shows_iff hs).mpr (h.fits sess hs) order

def signedIn : Session := { createSession 0 7 with deviceToken := some "fid" }

def signedOut : Session := deactivateSession 5 { createSession 0 7 with deviceToken := some "old" }

/-- A push still goes to the device that has signed out. -/
theorem push_to_signed_out : ¬ ∀ (rows : List Session)
    (sendEachForMulticast : FidMulticastMessage → Except String Nat) (job : SendPushJobData) (order : Order Session)
    (token : DeviceToken), (token ∈ getUserDeviceTokens order rows job.userId ↔ Live rows job.userId token) ∧
      (token ∈ (handleSendPush order rows sendEachForMulticast job).fids ↔ Live rows job.userId token) := by
  intro h
  have hlive := (h [signedIn, signedOut] (fun _ => .ok 0) ⟨1, 7, "", "", none⟩ asStored (.fid "old")).2.mp (by decide)
  obtain ⟨sess, hs, ha, fid, ht, htok⟩ := hlive
  rcases List.mem_pair.mp (List.mem_filter.mp hs).1 with rfl | rfl
  · have : fid = "fid" := (Option.some.inj ht).symm
    subst this
    exact absurd htok (by decide)
  · cases ha

end IntellApi.DeviceTokens
