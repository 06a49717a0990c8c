import IntellApi.Inverters
import IntellApi.TeamAccessSound

/-!
# The mails of invites

The invite requests, each run to its end, with the mail jobs they queue. Up to
the mails they are runs of the machine (`inviteMember_run`). A first invite and a
refresh queue one mail with the token of the row; a re-invite of a deactivated
row draws a token and mails nothing (`invite_mailed_iff`).
-/

namespace IntellApi.TeamAccess

open Lts

structure User where
  id : Uuid
  email : Email
  firstName : String
  lastName : String
  deriving DecidableEq, Repr

structure NamedInverter extends Inverter where
  model : String
  deriving DecidableEq, Repr

/-- The data of a mail job; `recipient` is its `to`. -/
inductive TeamInviteJob
  | teamInviteNewUser (recipient : Email) (inviterName inverterName : String) (role : InverterRole) (inviteToken : Uuid)
  | teamInviteExistingUser (recipient : Email) (firstName inviterName inverterName : String) (role : InverterRole)
      (inviteToken : Uuid)
  deriving DecidableEq, Repr

def TeamInviteJob.recipient : TeamInviteJob → Email
  | .teamInviteNewUser recipient _ _ _ _ | .teamInviteExistingUser recipient _ _ _ _ _ => recipient

def TeamInviteJob.inviteToken : TeamInviteJob → Uuid
  | .teamInviteNewUser _ _ _ _ inviteToken | .teamInviteExistingUser _ _ _ _ _ inviteToken => inviteToken

structure Service where
  team : State
  users : List User
  inverters : List NamedInverter
  emailQueue : List TeamInviteJob
  deriving DecidableEq, Repr

def findOne {α : Type} (id : α → Uuid) (rows : List α) (key : Uuid) : Except ServiceError α :=
  match rows.find? (id · = key) with
  | some row => return row
  | none => throw (.notFound SysMsg.notFound)

def duplicateInviteMessage : String := "Pending invite or membership exists for this user"
def failedToLoadMessage : String := "Failed to load upserted user"
def noInviteMessage : String := "No invite exists with this id or user already accepted"
def duplicateKeyMessage : String := "duplicate key value"

namespace Service

def findByEmail (s : Service) (email : Email) : Option User := s.users.find? (·.email = email)

def inviterName (inviter : User) : String := inviter.firstName ++ " " ++ inviter.lastName

def inverterName (inverter : NamedInverter) : String := Inverters.brandText inverter.brand ++ " " ++ inverter.model

def sendInviteEmail (s : Service) (member : InverterMember) (inviterName inverterName : String)
    (existingUser : Option User) : Service :=
  { s with emailQueue := s.emailQueue ++ [match existingUser with
    | some user =>
      .teamInviteExistingUser member.email user.firstName inviterName inverterName member.role member.inviteToken
    | none => .teamInviteNewUser member.email inviterName inverterName member.role member.inviteToken] }

/-- What a request answers, and what it leaves behind. -/
abbrev Outcome := Except ServiceError Nat × Service

def invite (s : Service) (inverter : NamedInverter) (dto : InviteMemberDto) (inviter : User)
    (existingUser : Option User) (inviteToken : Uuid) : Outcome :=
  let member := TeamAccess.invite s.team.clock dto inverter.id inviter.id (existingUser.map (·.id)) inviteToken
  match s.team.insert member with
  | some team =>
    (.ok s.team.members.length,
      { s with team }.sendInviteEmail member (inviterName inviter) (inverterName inverter) existingUser)
  | none => (.error (.error duplicateKeyMessage), s)

def atomicReInviteExistingRecord (s : Service) (id : Nat) (role : InverterRole) (inviteToken inviterId : Uuid)
    (expiry : Int) : Outcome :=
  let reload (team : State) : Outcome :=
    (if team.members[id]?.any (·.status = .invited) then .ok id
      else .error (.internalServerError failedToLoadMessage), { s with team })
  match s.team.members[id]?.bind (TeamAccess.atomicReInviteExistingRecord role inviteToken inviterId expiry) with
  | some member =>
    match s.team.write id member with
    | some team => reload team
    | none => (.error (.error duplicateKeyMessage), s)
  | none => reload s.team

/-- `existing` is the row that `findByInverterIdAndEmail` gives. -/
def inviteMember (s : Service) (dto : InviteMemberDto) (inverterId invitedById : Uuid) (existing : Option Nat)
    (inviteToken : Uuid) : Outcome :=
  match existing with
  | some id =>
    if s.team.members[id]?.any (·.status = .deactivated) then
      s.atomicReInviteExistingRecord id dto.role inviteToken invitedById (s.team.clock + inviteTtlMs)
    else (.error (.conflict duplicateInviteMessage), s)
  | none =>
    match findOne (·.id) s.inverters inverterId with
    | .error e => (.error e, s)
    | .ok inverter =>
      match findOne (·.id) s.users invitedById with
      | .error e => (.error e, s)
      | .ok inviter => s.invite inverter dto inviter (s.findByEmail dto.email) inviteToken

def refreshUserInvite (s : Service) (inviteId : Nat) (inverterId userId newToken : Uuid) : Outcome :=
  match findOne (·.id) s.users userId, findOne (·.id) s.inverters inverterId with
  | .error e, _ | .ok _, .error e => (.error e, s)
  | .ok caller, .ok inverter =>
    match s.team.members[inviteId]?.bind
      (TeamAccess.refreshUserInvite inverterId newToken (s.team.clock + inviteTtlMs)) with
    | none => (.error (.notFound noInviteMessage), s)
    | some updated =>
      match s.team.write inviteId updated with
      | none => (.error (.error duplicateKeyMessage), s)
      | some team =>
        match updated.userId.mapM (findOne (·.id) s.users) with
        -- the row has its new token by now
        | .error e => (.error e, { s with team })
        | .ok existingUser =>
          (.ok inviteId,
            { s with team }.sendInviteEmail updated (inviterName caller) (inverterName inverter) existingUser)

/-! ## What is mailed -/

/-- One mail more, to the address, with the token that the row has. -/
def MailedOnce (s s' : Service) (email : Email) (id : Nat) : Prop :=
  ∃ job member, s'.emailQueue = s.emailQueue ++ [job] ∧ s'.team.members[id]? = some member ∧
    job.recipient = email ∧ job.inviteToken = member.inviteToken

section
variable {s s' : Service} {dto : InviteMemberDto} {inverterId invitedById inviteToken : Uuid} {existing : Option Nat}
  {id : Nat}

theorem inviteMember_cases {result : Except ServiceError Nat}
    (h : s.inviteMember dto inverterId invitedById existing inviteToken = (result, s')) :
    (∃ e, result = .error e ∧ s' = s) ∨
    (∃ row, existing = some row ∧ s.team.members[row]?.any (·.status = .deactivated) = true ∧
      s.atomicReInviteExistingRecord row dto.role inviteToken invitedById (s.team.clock + inviteTtlMs) =
        (result, s')) ∨
    (existing = none ∧ ∃ inverter inviter, findOne (·.id) s.inverters inverterId = .ok inverter ∧
      findOne (·.id) s.users invitedById = .ok inviter ∧
      s.invite inverter dto inviter (s.findByEmail dto.email) inviteToken = (result, s')) := by
  unfold inviteMember at h
  cases existing with
  | some row =>
    simp only at h
    split at h
    · rename_i hd
      exact .inr (.inl ⟨row, rfl, hd, h⟩)
    · cases h
      exact .inl ⟨_, rfl, rfl⟩
  | none =>
    simp only at h
    split at h
    · cases h
      exact .inl ⟨_, rfl, rfl⟩
    · rename_i inverter hinverter
      split at h
      · cases h
        exact .inl ⟨_, rfl, rfl⟩
      · rename_i inviter hinviter
        exact .inr (.inr ⟨rfl, inverter, inviter, hinverter, hinviter, h⟩)

theorem refreshUserInvite_ok {inviteId : Nat} {userId newToken : Uuid}
    (h : s.refreshUserInvite inviteId inverterId userId newToken = (.ok id, s')) :
    ∃ updated team inviterName inverterName existingUser,
      s.team.members[id]?.bind (TeamAccess.refreshUserInvite inverterId newToken (s.team.clock + inviteTtlMs)) =
        some updated ∧
      s.team.write id updated = some team ∧ id = inviteId ∧
      s' = { s with team }.sendInviteEmail updated inviterName inverterName existingUser := by
  unfold refreshUserInvite at h
  split at h
  · cases h
  · cases h
  · split at h
    · cases h
    · rename_i updated hupdated
      split at h
      · cases h
      · rename_i team hwrite
        split at h
        · cases h
        · cases h
          exact ⟨updated, team, _, _, _, hupdated, hwrite, rfl, rfl⟩

theorem sendInviteEmail_mailed (s : Service) (team : State) {member : InverterMember}
    (inviterName inverterName : String) (existingUser : Option User) (hm : team.members[id]? = some member) :
    s.MailedOnce ({ s with team }.sendInviteEmail member inviterName inverterName existingUser) member.email id := by
  cases existingUser with
  | none => exact ⟨_, member, rfl, hm, rfl, rfl⟩
  | some user => exact ⟨_, member, rfl, hm, rfl, rfl⟩

theorem invite_mailed {inverter : NamedInverter} {inviter : User} {existingUser : Option User}
    (h : s.invite inverter dto inviter existingUser inviteToken = (.ok id, s')) : s.MailedOnce s' dto.email id := by
  unfold invite at h
  simp only at h
  split at h
  · rename_i team hinsert
    cases h
    refine sendInviteEmail_mailed s team _ _ existingUser ?_
    rw [insert_some hinsert]
    simp
  · cases h

theorem reInvite_quiet {role : InverterRole} {inviterId : Uuid} {expiry : Int} :
    (s.atomicReInviteExistingRecord id role inviteToken inviterId expiry).2.emailQueue = s.emailQueue := by
  unfold atomicReInviteExistingRecord
  split
  · split <;> rfl
  · rfl

theorem refresh_mailed {inviteId : Nat} {userId newToken : Uuid}
    (h : s.refreshUserInvite inviteId inverterId userId newToken = (.ok id, s')) :
    ∃ member, s'.team.members[id]? = some member ∧ member.inviteToken = newToken ∧ s.MailedOnce s' member.email id := by
  obtain ⟨updated, team, inviterName, inverterName, existingUser, hupdated, hwrite, -, rfl⟩ := refreshUserInvite_ok h
  obtain ⟨member, hm, hu⟩ := Option.bind_eq_some_iff.mp hupdated
  have hrow : team.members[id]? = some updated := by
    rw [write_some hwrite]
    exact List.getElem?_set_self (List.getElem?_eq_some_iff.mp hm).1
  refine ⟨updated, hrow, ?_, sendInviteEmail_mailed s team _ _ existingUser hrow⟩
  unfold TeamAccess.refreshUserInvite at hu
  split at hu
  · cases hu; rfl
  · cases hu

theorem existing_eq_none (hf : s.team.finds inverterId dto.email existing = true) :
    existing = none ↔ ∀ member ∈ s.team.members, ¬ (member.inverterId = inverterId ∧ member.email = dto.email) := by
  cases existing with
  | none => exact iff_of_true rfl fun member hm => of_decide_eq_true (List.all_eq_true.mp hf member hm)
  | some id =>
    refine iff_of_false nofun fun hno => ?_
    cases hm : s.team.members[id]? with
    | none => simp [State.finds, hm] at hf
    | some member =>
      exact hno member (List.mem_of_getElem? hm) (by simpa [State.finds, hm] using hf)

theorem inviteMember_mailed_iff (h : s.inviteMember dto inverterId invitedById existing inviteToken = (.ok id, s')) :
    s.MailedOnce s' dto.email id ↔ existing = none := by
  obtain ⟨e, he, -⟩ | ⟨row, rfl, -, h⟩ | ⟨rfl, inverter, inviter, -, -, h⟩ := inviteMember_cases h
  · cases he
  · refine iff_of_false ?_ nofun
    rintro ⟨job, member, hq, -⟩
    have hsame : s'.emailQueue = s.emailQueue := by
      have hs' := congrArg (fun result => result.2.emailQueue) h
      rw [← hs']
      exact reInvite_quiet
    rw [hsame] at hq
    simp at hq
  · exact iff_of_true (invite_mailed h) rfl

/-! ## Runs of the machine -/

theorem findOne_eq {α : Type} {key : α → Uuid} {rows : List α} {k : Uuid} {a : α} (h : findOne key rows k = .ok a) :
    key a = k := by
  unfold findOne at h
  split at h
  · rename_i row hrow
    cases h
    simpa using List.find?_some hrow
  · cases h

theorem requests_ask (team : State) (next : Request) : (team.ask next).requests[team.requests.length]? = some next := by
  simp [State.ask]

theorem insert_ask (team : State) (next : Request) (member : InverterMember) :
    (team.ask next).insert member = (team.insert member).map (·.ask next) := by
  unfold State.insert State.ask State.taken
  split <;> rfl

theorem write_ask (team : State) (next : Request) (row : Nat) (member : InverterMember) :
    (team.ask next).write row member = (team.write row member).map (·.ask next) := by
  unfold State.write State.ask State.taken
  split <;> rfl

theorem requests_respond {team : State} {r : Nat} (hr : r < team.requests.length) (next : Request) :
    (team.respond r next).requests[r]? = some next := by
  simp [State.respond, hr]

/-- The request that a run leaves as the last one. -/
def Ends (team t : State) (members : List InverterMember) (request : Request) : Prop :=
  t.members = members ∧ t.requests[team.requests.length]? = some request

theorem invite_run {inverter : NamedInverter} {inviter : User} {existingUser : Option User}
    (hf : s.team.finds inverter.id dto.email none = true)
    (h : s.invite inverter dto inviter existingUser inviteToken = (.ok id, s')) :
    ∃ t, machine.run s.team [.inviteMember dto inverter.id inviter.id none,
        .request s.team.requests.length inviteToken (existingUser.map (·.id))] = some t ∧
      Ends s.team t s'.team.members (.invited id) := by
  unfold invite at h
  simp only at h
  split at h
  · rename_i team hinsert
    cases h
    have hteam := insert_some hinsert
    refine ⟨(team.ask (.inviting dto inverter.id inviter.id)).respond s.team.requests.length
      (.invited s.team.members.length), ?_, rfl, requests_respond ?_ _⟩
    · simp only [Machine.run, machine, step, hf, if_true, Option.bind_some, requests_ask, requestStep, insert_ask]
      simp only [State.ask] at hinsert ⊢
      simp [hinsert]
    · simp [State.ask, hteam]
  · cases h

/-- The row is found deactivated, so the update matches it and it is read back invited. -/
theorem reInvite_eq (s : Service) (row : Nat) (role : InverterRole) (inviteToken inviterId : Uuid) (expiry : Int)
    (hd : s.team.members[row]?.any (·.status = .deactivated) = true) :
    ∃ member, s.team.members[row]?.bind (TeamAccess.atomicReInviteExistingRecord role inviteToken inviterId expiry) =
        some member ∧
      (∀ team, s.team.write row member = some team → team.members[row]?.any (·.status = .invited) = true) ∧
      s.atomicReInviteExistingRecord row role inviteToken inviterId expiry =
        match s.team.write row member with
        | some team => (.ok row, { s with team })
        | none => (.error (.error duplicateKeyMessage), s) := by
  have hlt : row < s.team.members.length := by
    by_contra hn
    simp [List.getElem?_eq_none (Nat.le_of_not_lt hn)] at hd
  have hmember : ∃ member, s.team.members[row]?.bind
      (TeamAccess.atomicReInviteExistingRecord role inviteToken inviterId expiry) = some member ∧
        member.status = .invited := by
    rw [List.getElem?_eq_getElem hlt] at hd ⊢
    have hold : s.team.members[row].status = .deactivated := by simpa using hd
    simp [TeamAccess.atomicReInviteExistingRecord, hold]
  obtain ⟨member, hm, hi⟩ := hmember
  have hback : ∀ team, s.team.write row member = some team → team.members[row]?.any (·.status = .invited) = true := by
    intro team hwrite
    rw [write_some hwrite, List.getElem?_set_self hlt]
    simp [hi]
  refine ⟨member, hm, hback, ?_⟩
  unfold atomicReInviteExistingRecord
  simp only [hm]
  cases hwrite : s.team.write row member with
  | none => rfl
  | some team => simp only [hback team hwrite, if_true]

theorem inviteMember_error {e : ServiceError}
    (h : s.inviteMember dto inverterId invitedById existing inviteToken = (.error e, s')) : s' = s := by
  obtain ⟨e, -, rfl⟩ | ⟨row, -, hd, h⟩ | ⟨-, inverter, inviter, -, -, h⟩ := inviteMember_cases h
  · rfl
  · obtain ⟨member, -, -, heq⟩ := reInvite_eq s row dto.role inviteToken invitedById (s.team.clock + inviteTtlMs) hd
    rw [heq] at h
    split at h
    · cases h
    · cases h; rfl
  · unfold invite at h
    simp only at h
    split at h
    · cases h
    · cases h; rfl

theorem reInvite_run {row : Nat} (hf : s.team.finds inverterId dto.email (some row) = true)
    (hd : s.team.members[row]?.any (·.status = .deactivated) = true)
    (h : s.atomicReInviteExistingRecord row dto.role inviteToken invitedById (s.team.clock + inviteTtlMs) =
      (.ok id, s')) :
    ∃ t, machine.run s.team [.inviteMember dto inverterId invitedById (some row),
        .request s.team.requests.length inviteToken none, .request s.team.requests.length inviteToken none] = some t ∧
      Ends s.team t s'.team.members (.invited id) := by
  obtain ⟨member, hm, hback, heq⟩ := reInvite_eq s row dto.role inviteToken invitedById (s.team.clock + inviteTtlMs) hd
  rw [heq] at h
  cases hwrite : s.team.write row member with
  | none => rw [hwrite] at h; cases h
  | some team =>
    rw [hwrite, Prod.mk.injEq, Except.ok.injEq] at h
    obtain ⟨hid, rfl⟩ := h
    subst hid
    let asked := s.team.ask (.reInviting row dto.role invitedById)
    let updated := (team.ask (.reInviting row dto.role invitedById)).respond s.team.requests.length (.reloading row)
    have hrequests : team.requests = s.team.requests := by rw [write_some hwrite]
    have hupdate : requestStep asked s.team.requests.length inviteToken none (.reInviting row dto.role invitedById) =
        some updated := by
      have hbind : asked.members[row]?.bind (TeamAccess.atomicReInviteExistingRecord dto.role inviteToken invitedById
        (asked.clock + inviteTtlMs)) = some member := hm
      have hrow : asked.write row member = some (team.ask (.reInviting row dto.role invitedById)) := by
        rw [write_ask, hwrite]; rfl
      simp only [requestStep, hbind, hrow]
      rfl
    have hreloading : updated.requests[s.team.requests.length]? = some (.reloading row) :=
      requests_respond (by simp [State.ask, hrequests]) _
    have hreload : requestStep updated s.team.requests.length inviteToken none (.reloading row) =
        some (updated.respond s.team.requests.length (.invited row)) := by
      have hinvited : updated.members[row]?.any (·.status = .invited) = true := hback team hwrite
      simp only [requestStep, hinvited, if_true]
    refine ⟨updated.respond s.team.requests.length (.invited row), ?_, rfl, requests_respond ?_ _⟩
    · have hasked : asked.requests[s.team.requests.length]? = some (.reInviting row dto.role invitedById) :=
        requests_ask s.team _
      have hask : step s.team (.inviteMember dto inverterId invitedById (some row)) = some asked := by
        simp only [step, hf, hd, if_true]; rfl
      change (step s.team (.inviteMember dto inverterId invitedById (some row))).bind _ = _
      rw [hask]
      simp only [Machine.run, machine, Option.bind_some, step, hasked, hupdate, hreloading, hreload]
    · simp [updated, State.ask, State.respond, hrequests]

theorem refreshUserInvite_run {inviteId : Nat} {userId newToken : Uuid}
    (h : s.refreshUserInvite inviteId inverterId userId newToken = (.ok id, s')) :
    ∃ t, machine.run s.team [.refreshUserInvite inviteId inverterId newToken] = some t ∧
      Ends s.team t s'.team.members (.invited id) := by
  obtain ⟨updated, team, inviterName, inverterName, existingUser, hupdated, hwrite, rfl, rfl⟩ := refreshUserInvite_ok h
  have hteam := write_some hwrite
  refine ⟨(team.ask .failed).respond s.team.requests.length (.invited id), ?_, rfl, requests_respond ?_ _⟩
  · have hbind : ((s.team.ask .failed).members[id]?.bind
        (TeamAccess.refreshUserInvite inverterId newToken (s.team.clock + inviteTtlMs))).bind
        ((s.team.ask .failed).write id) = some (team.ask .failed) := by
      have : (s.team.ask .failed).members = s.team.members := rfl
      rw [this, hupdated, Option.bind_some, write_ask, hwrite]
      rfl
    simp only [Machine.run, machine, step, State.commit, hbind, Option.bind_some]
  · simp [State.ask, hteam]

/-- A call that succeeds is a run of the machine that ends with its rows and its answer. -/
theorem inviteMember_run (hf : s.team.finds inverterId dto.email existing = true)
    (h : s.inviteMember dto inverterId invitedById existing inviteToken = (.ok id, s')) :
    ∃ as t, machine.run s.team as = some t ∧ Ends s.team t s'.team.members (.invited id) := by
  obtain ⟨e, he, -⟩ | ⟨row, rfl, hd, h⟩ | ⟨rfl, inverter, inviter, hinverter, -, h⟩ := inviteMember_cases h
  · cases he
  · obtain ⟨t, ht⟩ := reInvite_run hf hd h
    exact ⟨_, t, ht⟩
  · rw [← findOne_eq hinverter] at hf
    obtain ⟨t, ht⟩ := invite_run hf h
    exact ⟨_, t, ht⟩

end

end Service

/-- A successful invite is mailed once, with the token of its row, if and only if it is the first for its inverter and
address. -/
theorem invite_mailed_iff (s s' : Service) (dto : InviteMemberDto) (inverterId invitedById inviteToken : Uuid)
    (existing : Option Nat) (id : Nat) (hf : s.team.finds inverterId dto.email existing = true)
    (h : s.inviteMember dto inverterId invitedById existing inviteToken = (.ok id, s')) :
    s.MailedOnce s' dto.email id ↔
      ∀ member ∈ s.team.members, ¬ (member.inverterId = inverterId ∧ member.email = dto.email) :=
  (Service.inviteMember_mailed_iff h).trans (Service.existing_eq_none hf)

def owner : User := ⟨1, "o@b.c", "Ada", "Obi"⟩

def roof : NamedInverter := { id := 3, userId := 1, brand := .victron, isActive := true, isOffline := false,
                              ratedCapacityKwh := 5, panelCapacityKw := 0, model := "MultiPlus" }

def unasked : Service := ⟨⟨0, [], []⟩, [owner], [roof], []⟩

theorem invite_mailed_first : unasked.MailedOnce (unasked.inviteMember ⟨"a@b.c", .viewer⟩ 3 1 none 8).2 "a@b.c" 0 ↔
    ∀ member ∈ unasked.team.members, ¬ (member.inverterId = 3 ∧ member.email = "a@b.c") :=
  invite_mailed_iff unasked _ ⟨"a@b.c", .viewer⟩ 3 1 8 none 0 rfl rfl

def removed : Service := ⟨⟨0, [⟨3, none, "a@b.c", .viewer, .deactivated, none, 0, none⟩], []⟩, [owner], [roof], []⟩

/-- A member who was removed and is invited again gets no mail. -/
theorem re_invite_not_mailed : ¬ ∀ (s s' : Service) (dto : InviteMemberDto) (inverterId invitedById inviteToken : Uuid)
    (existing : Option Nat) (id : Nat), s.team.finds inverterId dto.email existing = true →
    s.inviteMember dto inverterId invitedById existing inviteToken = (.ok id, s') → s.MailedOnce s' dto.email id := by
  intro h
  obtain ⟨job, member, hq, -⟩ := h removed _ ⟨"a@b.c", .viewer⟩ 3 1 8 (some 0) 0 rfl rfl
  cases hq

end IntellApi.TeamAccess
