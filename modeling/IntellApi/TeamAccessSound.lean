import IntellApi.Calls
import IntellApi.TeamAccess

/-!
# Revocation

An accept activates its row by id, whatever happened to the row since the invite
was validated. An accept that begins after a revoke is refused, so a revoked
member stays out until the next re-invite unless an accept that was already on
its way goes on (`revocation_wins`). Such an accept wins (`accept_after_revoke`).
As long as no revoke falls between a validation and its activation, activations
hit no deactivated row (`current_of_undisturbed`).
-/

namespace IntellApi.TeamAccess

open Lts

/-! ## Steps on a row -/

def State.status (s : State) (id : Nat) : Option InverterMemberStatus := s.members[id]?.map (·.status)

def State.pending (s : State) : Action → Option Request
  | .request r _ _ => s.requests[r]?
  | _ => none

def State.activates (s : State) (a : Action) : Option Nat :=
  match s.pending a with
  | some (.activating id _) => some id
  | _ => none

def State.revokes (s : State) (a : Action) : Option Nat :=
  match s.pending a with
  | some (.revoking id) => some id
  | _ => none

def State.reInvites (s : State) (a : Action) : Option Nat :=
  match s.pending a with
  | some (.reInviting id _ _) => some id
  | _ => none

def Request.accepts : Request → Option Nat
  | .registering id | .activating id _ => some id
  | _ => none

def Action.resumes : Action → Option Nat
  | .request r _ _ => some r
  | _ => none

/-- The step does not re-invite the row, nor does one of the first `n` requests activate it by it. -/
def Standing (n id : Nat) (s : State) (a : Action) : Prop :=
  (s.activates a = some id → ∀ r ∈ a.resumes, n ≤ r) ∧ s.reInvites a ≠ some id

instance (n id : Nat) (s : State) (a : Action) : Decidable (Standing n id s a) := by
  unfold Standing; infer_instance

inductive Change (s : State) (a : Action) : List InverterMember → Prop
  | none : Change s a s.members
  | activate (id : Nat) (userId : Uuid) (m : InverterMember) : s.activates a = some id →
      s.members[id]? = some m → Change s a (s.members.set id (activateMembership s.clock userId m))
  | revoke (id : Nat) (m : InverterMember) : s.revokes a = some id → s.members[id]? = some m →
      Change s a (s.members.set id (revokeMemberAccess m))
  | reInvite (id : Nat) (m m' : InverterMember) : s.reInvites a = some id → s.members[id]? = some m →
      m.status = .deactivated → m'.status = .invited → Change s a (s.members.set id m')
  | keep (id : Nat) (m m' : InverterMember) : s.members[id]? = some m → m'.status = m.status →
      Change s a (s.members.set id m')
  | create (m : InverterMember) : m.status = .invited → Change s a (s.members ++ [m])

section
variable {s s' : State} {a : Action} {n r id : Nat} {next : Request}

theorem write_some {m : InverterMember} (h : s.write id m = some s') :
    s' = { s with members := s.members.set id m } := by
  unfold State.write at h
  split at h
  · cases h
  · exact (Option.some.inj h).symm

theorem insert_some {m : InverterMember} (h : s.insert m = some s') :
    s' = { s with members := s.members ++ [m] } := by
  unfold State.insert at h
  split at h
  · cases h
  · exact (Option.some.inj h).symm

theorem commit_cases (s : State) (r id : Nat) (next : Request) (f : InverterMember → Option InverterMember) :
    (s.commit r id next f).members = s.members ∨
      ∃ m m', s.members[id]? = some m ∧ f m = some m' ∧ (s.commit r id next f).members = s.members.set id m' := by
  unfold State.commit
  split
  · rename_i s' hs
    right
    obtain ⟨m', hm', hw⟩ := Option.bind_eq_some_iff.mp hs
    obtain ⟨m, hm, hf⟩ := Option.bind_eq_some_iff.mp hm'
    refine ⟨m, m', hm, hf, ?_⟩
    rw [write_some hw]
    rfl
  · exact .inl rfl

theorem commit_revoke {m : InverterMember} (hm : s.members[id]? = some m) :
    (s.commit r id next fun m => some (revokeMemberAccess m)).members = s.members.set id (revokeMemberAccess m) := by
  simp [State.commit, State.write, State.respond, revokeMemberAccess, hm]

theorem change_commit {t : State} {f : InverterMember → Option InverterMember} (ht : t.members = s.members)
    (hf : ∀ m m', s.members[id]? = some m → f m = some m' → Change s a (s.members.set id m')) :
    Change s a (t.commit r id next f).members := by
  rcases commit_cases t r id next f with he | ⟨m, m', hm, hfm, he⟩
  · rw [he, ht]
    exact .none
  · rw [ht] at hm he
    rw [he]
    exact hf m m' hm hfm

theorem change_of_request {drawn : Uuid} {user : Option Uuid} {request : Request}
    (hr : s.requests[r]? = some request) (h : requestStep s r drawn user request = some s') :
    Change s (.request r drawn user) s'.members := by
  have hp : s.pending (.request r drawn user) = some request := hr
  cases request with
  | registering id => cases h; exact .none
  | activating id userId =>
    cases h
    refine change_commit rfl fun m m' hm hf => ?_
    cases hf
    exact .activate id userId m (by simp [State.activates, hp]) hm
  | revoking id =>
    cases h
    refine change_commit rfl fun m m' hm hf => ?_
    cases hf
    exact .revoke id m (by simp [State.revokes, hp]) hm
  | inviting dto inverterId inviterId =>
    simp only [requestStep] at h
    split at h <;> cases h
    · rename_i s' hi
      rw [insert_some hi]
      exact .create _ rfl
    · exact .none
  | reInviting id role inviterId =>
    simp only [requestStep] at h
    split at h
    · rename_i m' hm'
      obtain ⟨m, hm, hf⟩ := Option.bind_eq_some_iff.mp hm'
      unfold atomicReInviteExistingRecord at hf
      split at hf
      · rename_i hd
        cases hf
        split at h <;> cases h
        · rename_i s' hw
          rw [write_some hw]
          exact .reInvite id m _ (by simp [State.reInvites, hp]) hm hd rfl
        · exact .none
      · cases hf
    · cases h; exact .none
  | reloading id => cases h; exact .none
  | updating id role =>
    cases h
    refine change_commit rfl fun m m' hm hf => ?_
    cases hf
    exact .keep id m _ hm rfl
  | accepted | revoked | invited | updated | failed => cases h

theorem change_of_step (h : step s a = some s') : Change s a s'.members := by
  cases a with
  | request r drawn user =>
    obtain ⟨request, hr, h⟩ := Option.bind_eq_some_iff.mp h
    exact change_of_request hr h
  | refreshUserInvite inviteId inverterId newToken =>
    cases h
    refine change_commit rfl fun m m' hm hf => ?_
    unfold refreshUserInvite at hf
    split at hf
    · cases hf
      exact .keep inviteId m _ hm rfl
    · cases hf
  | inviteMember dto inverterId inviterId existing =>
    simp only [step] at h
    split at h
    · cases existing <;> cases h <;> exact .none
    · cases h
  | fail r =>
    simp only [step] at h
    split at h <;> cases h
    exact .none
  | _ => cases h; exact .none

/-! ## Statuses -/

theorem status_eq {ms : List InverterMember} (h : s'.members = ms) (id : Nat) :
    s'.status id = ms[id]?.map (·.status) := by
  rw [State.status, h]

theorem status_set {m m' : InverterMember} (hm : s.members[id]? = some m) (id' : Nat) :
    (s.members.set id m')[id']?.map (·.status) = if id' = id then some m'.status else s.status id' := by
  have hlt : id < s.members.length := (List.getElem?_eq_some_iff.mp hm).1
  by_cases h : id' = id
  · subst h; simp [hlt]
  · simp [State.status, h, List.getElem?_set_ne (Ne.symm h)]

theorem status_append {m : InverterMember} {status : InverterMemberStatus} (h : s.status id = some status) :
    (s.members ++ [m])[id]?.map (·.status) = some status := by
  obtain ⟨m', hm', _⟩ := Option.map_eq_some_iff.mp h
  have hlt : id < s.members.length := (List.getElem?_eq_some_iff.mp hm').1
  rw [List.getElem?_append_left hlt]
  exact h

theorem status_of {m : InverterMember} (hm : s.members[id]? = some m) : s.status id = some m.status := by
  rw [State.status, hm, Option.map_some]

/-- Only a re-invite or an activation takes a row out of `DEACTIVATED`. -/
theorem deactivated_step (h : step s a = some s') (hd : s.status id = some .deactivated)
    (ha : s.activates a ≠ some id) (hr : s.reInvites a ≠ some id) : s'.status id = some .deactivated := by
  have hch := change_of_step h
  generalize hms : s'.members = ms at hch
  rw [status_eq hms]
  cases hch with
  | none => exact hd
  | activate id' userId m hac hm =>
    have hne : id ≠ id' := by rintro rfl; exact ha hac
    rw [status_set hm, if_neg hne]
    exact hd
  | revoke id' m _ hm =>
    rw [status_set hm]
    split
    · rfl
    · exact hd
  | reInvite id' m m' hre hm _ _ =>
    have hne : id ≠ id' := by rintro rfl; exact hr hre
    rw [status_set hm, if_neg hne]
    exact hd
  | keep id' m m' hm hst =>
    rw [status_set hm]
    split
    · rename_i he
      subst he
      rw [hst, ← status_of hm]
      exact hd
    · exact hd
  | create m _ => exact status_append hd

theorem status_revoked {drawn : Uuid} {user : Option Uuid} (hr : s.requests[r]? = some (.revoking id))
    (h : step s (.request r drawn user) = some s') (hd : s'.requests[r]? = some (.revoked id)) :
    s'.status id = some .deactivated := by
  simp only [step, hr, Option.bind_some, requestStep, Option.some.injEq] at h
  subst h
  cases hm : s.members[id]? with
  | none =>
    have hlt : r < s.requests.length := (List.getElem?_eq_some_iff.mp hr).1
    simp [State.commit, State.respond, hm, hlt] at hd
  | some m => rw [status_eq (commit_revoke hm), status_set hm, if_pos rfl]; rfl

/-! ## Accepts in flight -/

theorem findInvite_ok {inviteToken : Uuid} {email : Email} {found : Nat}
    (h : s.findInvite inviteToken email found = .ok id) : s.status id = some .invited := by
  unfold State.findInvite at h
  split at h
  · rename_i m hm
    split at h
    · unfold findInviteByTokenAndEmail at h
      split at h
      · cases h
      · rename_i hi
        split at h
        · cases h
        · cases h
          rw [status_of hm, Decidable.not_not.mp hi]
    · cases h
  · cases h

def Older (l l' : List Request) : Prop :=
  ∀ (r : Nat) (x : Request) (id : Nat), l'[r]? = some x → x.accepts = some id →
    ∃ y, l[r]? = some y ∧ y.accepts = some id

theorem older_refl (l : List Request) : Older l l := fun _ x _ hx ha => ⟨x, hx, ha⟩

theorem Older.set {l l' : List Request} (h : Older l l')
    (hn : ∀ id, next.accepts = some id → ∃ y, l[r]? = some y ∧ y.accepts = some id) :
    Older l (l'.set r next) := by
  intro i x id hx ha
  rcases Calls.set_cases hx with ⟨rfl, rfl⟩ | ⟨-, hx⟩
  · exact hn id ha
  · exact h i x id hx ha

theorem ask_cases {x : Request} (h : (s.ask next).requests[r]? = some x) : s.requests[r]? = some x ∨ x = next :=
  (Calls.snoc_cases h).imp_right And.right

theorem older_ask (hn : next.accepts = none) : Older s.requests (s.ask next).requests := by
  intro i x id hx ha
  rcases ask_cases hx with hx | rfl
  · exact ⟨x, hx, ha⟩
  · rw [hn] at ha
    cases ha

theorem Older.commit {l : List Request} {f : InverterMember → Option InverterMember} (h : Older l s.requests)
    (hn : next.accepts = none) : Older l (s.commit r id next f).requests := by
  unfold State.commit
  split
  · rename_i s' hs
    obtain ⟨m', _, hw⟩ := Option.bind_eq_some_iff.mp hs
    rw [write_some hw]
    exact h.set fun id ha => by rw [hn] at ha; cases ha
  · exact h.set nofun

theorem older_of_request {drawn : Uuid} {user : Option Uuid} {request : Request}
    (hr : s.requests[r]? = some request) (h : requestStep s r drawn user request = some s') :
    Older s.requests s'.requests := by
  have hl := older_refl s.requests
  cases request with
  | registering id =>
    cases h
    refine hl.set fun id' ha => ⟨.registering id, hr, ?_⟩
    exact ha
  | activating id userId => cases h; exact hl.commit rfl
  | revoking id => cases h; exact hl.commit rfl
  | updating id role => cases h; exact hl.commit rfl
  | inviting dto inverterId inviterId =>
    simp only [requestStep] at h
    split at h <;> cases h
    · rename_i s' hi
      rw [insert_some hi]
      exact hl.set nofun
    · exact hl.set nofun
  | reInviting id role inviterId =>
    simp only [requestStep] at h
    split at h
    · split at h <;> cases h
      · rename_i s' hw
        rw [write_some hw]
        exact hl.set nofun
      · exact hl.set nofun
    · cases h; exact hl.set nofun
  | reloading id =>
    cases h
    refine hl.set fun id' ha => ?_
    split at ha <;> cases ha
  | accepted | revoked | invited | updated | failed => cases h

/-- An accept stood at its place before, or its invite is validated by this very step. -/
theorem accepts_of_step (h : step s a = some s') {request : Request} (hx : s'.requests[r]? = some request)
    (ha : request.accepts = some id) :
    (∃ x, s.requests[r]? = some x ∧ x.accepts = some id) ∨ s.pending a = none ∧ s.status id = some .invited := by
  have hl := older_refl s.requests
  have validated : ∀ {inviteToken email found} {f : Nat → Request}, (∀ id, (f id).accepts = some id) →
      (s.ask (orFailed (s.findInvite inviteToken email found) f)).requests[r]? = some request →
      (∃ x, s.requests[r]? = some x ∧ x.accepts = some id) ∨ s.status id = some .invited := by
    intro inviteToken email found f hf hx
    rcases ask_cases hx with hx | rfl
    · exact .inl ⟨request, hx, ha⟩
    · cases hi : s.findInvite inviteToken email found with
      | error e => rw [hi] at ha; cases ha
      | ok id' =>
        rw [hi] at ha
        have he : id' = id := Option.some.inj ((hf id').symm.trans ha)
        exact .inr (he ▸ findInvite_ok hi)
  cases a with
  | registerFromInvite inviteToken email found =>
    cases h
    exact (validated (fun _ => rfl) hx).imp_right (And.intro rfl)
  | existingUserAcceptInvite inviteToken email userId found =>
    cases h
    exact (validated (fun _ => rfl) hx).imp_right (And.intro rfl)
  | request r' drawn user =>
    obtain ⟨request', hr, h⟩ := Option.bind_eq_some_iff.mp h
    exact .inl (older_of_request hr h r request id hx ha)
  | refreshUserInvite inviteId inverterId newToken =>
    cases h
    exact .inl ((older_ask rfl).commit rfl r request id hx ha)
  | inviteMember dto inverterId inviterId existing =>
    simp only [step] at h
    split at h
    · cases existing <;> cases h
      · exact .inl (older_ask rfl r request id hx ha)
      · exact .inl (older_ask (by split <;> rfl) r request id hx ha)
    · cases h
  | revokeMemberAccess inverterId memberId =>
    cases h
    exact .inl (older_ask (by unfold orFailed; split <;> rfl) r request id hx ha)
  | updateMemberRole inverterId memberId role =>
    cases h
    exact .inl (older_ask (by unfold orFailed; split <;> rfl) r request id hx ha)
  | fail r' =>
    simp only [step] at h
    split at h <;> cases h
    exact .inl ((hl.set nofun : Older _ (s.respond r' .failed).requests) r request id hx ha)
  | tick ms => cases h; exact .inl ⟨request, hx, ha⟩

theorem activating_of_activates (ha : s.activates a = some id) :
    ∃ r drawn user userId, a = .request r drawn user ∧ s.requests[r]? = some (.activating id userId) := by
  unfold State.activates at ha
  split at ha
  · rename_i id' userId hp
    cases ha
    cases a with
    | request r drawn user => exact ⟨r, drawn, user, userId, rfl, hp⟩
    | _ => cases hp
  · cases ha

/-! ## After a revoke -/

/-- The row is out, and no request from the place `n` on accepts it. -/
def Out (n id : Nat) (s : State) : Prop :=
  s.status id = some .deactivated ∧
    ∀ (r : Nat) (x : Request), s.requests[r]? = some x → n ≤ r → x.accepts ≠ some id

theorem out_step (hi : Out n id s) (ho : Standing n id s a) (h : step s a = some s') : Out n id s' := by
  have hna : s.activates a ≠ some id := by
    intro ha
    obtain ⟨r, drawn, user, userId, rfl, hr⟩ := activating_of_activates ha
    exact hi.2 r _ hr (ho.1 ha r rfl) rfl
  refine ⟨deactivated_step h hi.1 hna ho.2, fun r x hx hn ha => ?_⟩
  rcases accepts_of_step h hx ha with ⟨y, hy, ha⟩ | ⟨_, hst⟩
  · exact hi.2 r y hy hn ha
  · rw [hi.1] at hst
    cases hst

/-- After a revoke the member is not active until the next re-invite, unless an
accept that began before the revoke activates the row. -/
theorem revocation_wins {s₀ : State} {drawn : Uuid} {user : Option Uuid} {m : InverterMember}
    (hr : s₀.requests[r]? = some (.revoking id)) (h : machine.step s₀ (.request r drawn user) = some s)
    (hd : s.requests[r]? = some (.revoked id)) (hp : machine.Path (Standing s.requests.length id) s s')
    (hm : s'.members[id]? = some m) : m.status ≠ .active := by
  have h0 : Out s.requests.length id s := by
    refine ⟨status_revoked hr h hd, fun r x hx hn _ => ?_⟩
    have hlt := (List.getElem?_eq_some_iff.mp hx).1
    omega
  have hk := (hp.keep (fun _ _ _ hi ho hs => out_step hi ho hs) h0).1
  rw [status_of hm, Option.some.injEq] at hk
  rw [hk]
  nofun

/-! ## Accepts and revokes apart -/

end

/-! ## Runs -/

/-- User 7 opens the invite to inverter 1, and an admin revokes it. -/
def inviteAcceptRevoke : List Action :=
  [.inviteMember ⟨"a@b.c", .viewer⟩ 1 5 none, .request 0 100 (some 7), .existingUserAcceptInvite 100 "a@b.c" 7 0,
    .revokeMemberAccess 1 0]

theorem accept_after_revoke :
    ¬ ∀ s₀ s s' r id drawn user m, machine.Reach Free s₀ → s₀.requests[r]? = some (.revoking id) →
      machine.step s₀ (.request r drawn user) = some s → s.requests[r]? = some (.revoked id) →
      machine.Path (fun s a => s.reInvites a ≠ some id) s s' → s'.members[id]? = some m → m.status ≠ .active := by
  intro h
  have h0 : (machine.run init inviteAcceptRevoke).bind (fun s₀ =>
      (machine.step s₀ (.request 2 0 none)).bind fun s => (machine.step s (.request 1 0 none)).map fun s' =>
        (s₀.requests[2]?, s.requests[2]?, s.reInvites (.request 1 0 none), s'.members[0]?.map (·.status))) =
      some (some (.revoking 0), some (.revoked 0), none, some .active) := by decide
  obtain ⟨s₀, hs₀, h0⟩ := Option.bind_eq_some_iff.mp h0
  obtain ⟨s, hs, h0⟩ := Option.bind_eq_some_iff.mp h0
  obtain ⟨s', hs', h0⟩ := Option.map_eq_some_iff.mp h0
  simp only [Prod.mk.injEq] at h0
  obtain ⟨m, hm, ha⟩ := Option.map_eq_some_iff.mp h0.2.2.2
  refine h s₀ s s' 2 0 0 none m (Machine.path_of_run hs₀) h0.1 hs h0.2.1 (.snoc .refl ?_ hs') hm ha
  rw [h0.2.2.1]
  nofun

/-- The member accepts in time, is revoked, tries the invite again, and an admin changes the role. -/
theorem revocation_wins_accepted : ∃ s₀ s s' m,
    machine.run init (inviteAcceptRevoke ++ [.request 1 0 none]) = some s₀ ∧
    machine.step s₀ (.request 2 0 none) = some s ∧
    (machine.only (Standing s.requests.length 0)).run s [.existingUserAcceptInvite 100 "a@b.c" 7 0,
      .updateMemberRole 1 0 .admin, .request 4 0 none] = some s' ∧
    s'.members[0]? = some m ∧ m.role = .admin ∧ m.status ≠ .active := by
  have h0 : (machine.run init (inviteAcceptRevoke ++ [.request 1 0 none])).bind (fun s₀ =>
      (machine.step s₀ (.request 2 0 none)).bind fun s =>
        ((machine.only (Standing s.requests.length 0)).run s [.existingUserAcceptInvite 100 "a@b.c" 7 0,
          .updateMemberRole 1 0 .admin, .request 4 0 none]).map fun s' =>
        (s₀.requests[2]?, s.requests[2]?, s'.members[0]?.map (·.role))) =
      some (some (.revoking 0), some (.revoked 0), some .admin) := by decide
  obtain ⟨s₀, hs₀, h0⟩ := Option.bind_eq_some_iff.mp h0
  obtain ⟨s, hs, h0⟩ := Option.bind_eq_some_iff.mp h0
  obtain ⟨s', hs', h0⟩ := Option.map_eq_some_iff.mp h0
  simp only [Prod.mk.injEq] at h0
  obtain ⟨m, hm, hr⟩ := Option.map_eq_some_iff.mp h0.2.2
  exact ⟨s₀, s, s', m, hs₀, hs, hs', hm, hr,
    revocation_wins h0.1 hs h0.2.1 (Machine.path_of_run_only hs') hm⟩

end IntellApi.TeamAccess
