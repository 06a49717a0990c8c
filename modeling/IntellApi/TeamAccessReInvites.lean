import IntellApi.TeamAccessSound

/-!
# Two re-invites of one row

The conditional update matches a deactivated row only, but nobody looks at how
many rows it matched: the row is read back, and an invite that another call has
made will do. A log records what each call has asked for and what it was given
(`Noted`). When every update matches, there is one success, with its own data.
-/

namespace IntellApi.TeamAccess

open Function Lts

/-! ## What the calls are told -/

structure Wanted where
  role : InverterRole
  inviteToken : Uuid
  inviteTokenExpiresAt : Int
  deriving DecidableEq, Repr

def Wanted.Granted (wanted : Wanted) (member : InverterMember) : Prop :=
  member.role = wanted.role ∧ member.inviteToken = wanted.inviteToken ∧
    member.inviteTokenExpiresAt = some wanted.inviteTokenExpiresAt

/-- The runs, with what every re-invite asked for, what it returned, and how
often row `id` went from deactivated to invited. -/
structure Noted where
  team : State
  wanted : Nat → Option Wanted
  returned : List (Nat × InverterMember)
  transitions : Nat

namespace Noted

def start (team : State) : Noted := ⟨team, fun _ => none, [], 0⟩

def want (s : Noted) : Action → Nat → Option Wanted
  | .request r drawn _ =>
    match s.team.requests[r]? with
    | some (.reInviting _ role _) => update s.wanted r (some ⟨role, drawn, s.team.clock + inviteTtlMs⟩)
    | _ => s.wanted
  | _ => s.wanted

/-- What the step returns to the caller of a re-invite. -/
def answer (s : Noted) : Action → List (Nat × InverterMember)
  | .request r _ _ =>
    match s.team.requests[r]? with
    | some (.reloading id) => ((s.team.members[id]?.filter (·.status = .invited)).map fun m => (r, m)).toList
    | _ => []
  | _ => []

def next (id : Nat) (s : Noted) (a : Action) (team : State) : Noted where
  team
  wanted := s.want a
  returned := s.returned ++ s.answer a
  transitions :=
    s.transitions + if s.team.status id = some .deactivated ∧ team.status id = some .invited then 1 else 0

def step (id : Nat) (s : Noted) (a : Action) : Option Noted := (TeamAccess.step s.team a).map (s.next id a)

def machine (id : Nat) (team : State) : Machine Noted Action := ⟨start team, step id⟩

end Noted

/-- The steps of calls of `inviteMember` that have found the row. -/
def ReInvite (id : Nat) : Action → Prop
  | .tick _ | .request _ _ _ | .fail _ => True
  | .inviteMember _ _ _ existing => existing = some id
  | _ => False

/-- A conditional update finds the row deactivated. -/
def Matched (s : State) (a : Action) : Prop := ∀ id ∈ s.reInvites a, s.status id = some .deactivated

instance (id : Nat) : (a : Action) → Decidable (ReInvite id a)
  | .tick _ | .request _ _ _ | .fail _ => instDecidableTrue
  | .inviteMember _ _ _ existing => inferInstanceAs (Decidable (existing = some id))
  | .registerFromInvite _ _ _ | .existingUserAcceptInvite _ _ _ _ | .revokeMemberAccess _ _ | .refreshUserInvite _ _ _
  | .updateMemberRole _ _ _ => instDecidableFalse

instance (s : State) (a : Action) : Decidable (Matched s a) :=
  inferInstanceAs (Decidable (∀ id ∈ s.reInvites a, s.status id = some .deactivated))

/-! ## What a step does -/

inductive ReInviteChange (id : Nat) (s : State) : Action → State → Prop
  | tick (ms : Nat) : ReInviteChange id s (.tick ms) { s with clock := s.clock + ms }
  | asked (dto : InviteMemberDto) (inverterId inviterId : Uuid) (next : Request) :
    (next = .reInviting id dto.role inviterId ∨ next = .failed) →
    ReInviteChange id s (.inviteMember dto inverterId inviterId (some id)) (s.ask next)
  | matched (r : Nat) (drawn : Uuid) (user : Option Uuid) (role : InverterRole) (inviterId : Uuid) (m m' : InverterMember) :
    s.requests[r]? = some (.reInviting id role inviterId) → s.members[id]? = some m → m.status = .deactivated →
    m'.status = .invited → Wanted.Granted ⟨role, drawn, s.clock + inviteTtlMs⟩ m' →
    ReInviteChange id s (.request r drawn user) ({ s with members := s.members.set id m' }.respond r (.reloading id))
  | notMatched (r : Nat) (drawn : Uuid) (user : Option Uuid) (role : InverterRole) (inviterId : Uuid) :
    s.requests[r]? = some (.reInviting id role inviterId) → s.status id ≠ some .deactivated →
    ReInviteChange id s (.request r drawn user) (s.respond r (.reloading id))
  | refused (r : Nat) (drawn : Uuid) (user : Option Uuid) (role : InverterRole) (inviterId : Uuid) :
    s.requests[r]? = some (.reInviting id role inviterId) →
    ReInviteChange id s (.request r drawn user) (s.respond r .failed)
  | reloaded (r : Nat) (drawn : Uuid) (user : Option Uuid) (next : Request) :
    s.requests[r]? = some (.reloading id) → (next = .invited id ∨ next = .failed) →
    ReInviteChange id s (.request r drawn user) (s.respond r next)
  | failed (r : Nat) (request : Request) : s.requests[r]? = some request →
    ReInviteChange id s (.fail r) (s.respond r .failed)

/-- The requests there are when only re-invites of the row are made. -/
def Request.OfRow (id : Nat) : Request → Prop
  | .reInviting id' _ _ | .reloading id' | .invited id' => id' = id
  | .failed => True
  | _ => False

section
variable {s s' : State} {a : Action} {id r : Nat} {next : Request}

theorem reInviteChange_of_step (hr : ∀ request ∈ s.requests, request.OfRow id) (ho : ReInvite id a)
    (h : step s a = some s') : ReInviteChange id s a s' := by
  cases a with
  | tick ms =>
    cases h
    exact .tick ms
  | inviteMember dto inverterId inviterId existing =>
    cases ho
    simp only [step] at h
    split at h
    · cases h
      refine .asked dto inverterId inviterId _ ?_
      split
      · exact .inl rfl
      · exact .inr rfl
    · cases h
  | fail r =>
    simp only [step] at h
    split at h
    · cases h
    · cases h
    · cases h
    · cases h
    · rename_i request _ _ _ hq
      cases h
      exact .failed r request hq
  | request r drawn user =>
    obtain ⟨request, hq, h⟩ := Option.bind_eq_some_iff.mp h
    have hof := hr request (List.mem_of_getElem? hq)
    cases request with
    | reInviting id' role inviterId =>
      cases hof
      simp only [requestStep] at h
      split at h
      · rename_i m' hm'
        obtain ⟨m, hm, hat⟩ := Option.bind_eq_some_iff.mp hm'
        simp only [atomicReInviteExistingRecord, Option.ite_none_right_eq_some, Option.some.injEq] at hat
        obtain ⟨hd, rfl⟩ := hat
        split at h
        · rename_i t ht
          cases h
          rw [write_some ht]
          exact .matched r drawn user role inviterId m _ hq hm hd rfl ⟨rfl, rfl, rfl⟩
        · cases h
          exact .refused r drawn user role inviterId hq
      · rename_i hn
        cases h
        refine .notMatched r drawn user role inviterId hq fun hst => ?_
        obtain ⟨m, hm, hd⟩ := Option.map_eq_some_iff.mp hst
        rw [hm, Option.bind_some] at hn
        simp only [atomicReInviteExistingRecord, hd, if_true] at hn
        cases hn
    | reloading id' =>
      cases hof
      cases h
      refine .reloaded r drawn user _ hq ?_
      split
      · exact .inl rfl
      · exact .inr rfl
    | invited | failed => cases h
    | registering | activating | accepted | revoking | revoked | inviting | updating | updated => cases hof
  | registerFromInvite | existingUserAcceptInvite | revokeMemberAccess | refreshUserInvite | updateMemberRole => cases ho

/-! ## One winner -/

/-- Before the row is invited, and after call `w` has invited it. -/
inductive Phase (id : Nat) (s : Noted) : Prop
  | waiting : s.team.status id = some .deactivated → (∀ r : Nat, s.team.requests[r]? ≠ some (.reloading id)) →
    s.returned = [] → s.transitions = 0 → Phase id s
  | won (w : Nat) (m : InverterMember) (wanted : Wanted) (request : Request) : s.team.members[id]? = some m →
    m.status = .invited → s.wanted w = some wanted → wanted.Granted m →
    (∀ r : Nat, s.team.requests[r]? = some (.reloading id) → r = w) →
    s.team.requests[w]? = some request → (∀ role inviterId, request ≠ .reInviting id role inviterId) →
    (s.returned = [] ∨ s.returned = [(w, m)] ∧ request ≠ .reloading id) → s.transitions = 1 → Phase id s

structure Inv (id : Nat) (s : Noted) : Prop where
  ofRow : ∀ request ∈ s.team.requests, request.OfRow id
  phase : Phase id s

theorem ofRow_change (h : ∀ request ∈ s.requests, request.OfRow id) (hc : ReInviteChange id s a s') :
    ∀ request ∈ s'.requests, request.OfRow id := by
  have set : ∀ {r : Nat} {ms : List InverterMember} {next : Request}, next.OfRow id →
      ∀ request ∈ (State.respond { s with members := ms } r next).requests, request.OfRow id := by
    intro r ms next hn request hm
    rcases List.mem_or_eq_of_mem_set hm with hm | rfl
    · exact h request hm
    · exact hn
  cases hc with
  | tick => exact h
  | asked dto inverterId inviterId next hn =>
    intro request hm
    rcases List.mem_append.mp hm with hm | hm
    · exact h request hm
    · rw [List.mem_singleton.mp hm]
      rcases hn with rfl | rfl
      · exact rfl
      · trivial
  | matched | notMatched => exact set rfl
  | refused | failed => exact set trivial
  | reloaded r drawn user next _ hn =>
    rcases hn with rfl | rfl
    · exact set rfl
    · exact set trivial

/-- A step that leaves the row alone, and the calls that are past their update. -/
theorem Phase.keep {s : Noted} {team : State} {wanted : Nat → Option Wanted} (h : Phase id s)
    (hm : team.members = s.team.members)
    (hback : ∀ r : Nat, team.requests[r]? = some (.reloading id) → s.team.requests[r]? = some (.reloading id))
    (hgo : ∀ (r : Nat) request, s.team.requests[r]? = some request →
      (∀ role inviterId, request ≠ .reInviting id role inviterId) →
      wanted r = s.wanted r ∧ (team.requests[r]? = some request ∨ team.requests[r]? = some .failed)) :
    Phase id ⟨team, wanted, s.returned, s.transitions⟩ := by
  have hst : team.status id = s.team.status id := by rw [State.status, hm, State.status]
  cases h with
  | waiting hd hl hr ht => exact .waiting (hst.trans hd) (fun r he => hl r (hback r he)) hr ht
  | won w m wanted request hrow hi hw hg hl hq hn hr ht =>
    obtain ⟨hwant, hq' | hq'⟩ := hgo w request hq hn
    · exact .won w m wanted request (hm ▸ hrow) hi (hwant.trans hw) hg (fun r he => hl r (hback r he)) hq' hn hr ht
    · refine .won w m wanted .failed (hm ▸ hrow) hi (hwant.trans hw) hg (fun r he => hl r (hback r he)) hq'
        (fun _ _ he => by cases he) ?_ ht
      exact hr.imp_right fun hx => ⟨hx.1, fun he => by cases he⟩

theorem Phase.waiting_of {s : Noted} (h : Phase id s) (hd : s.team.status id = some .deactivated) :
    (∀ r : Nat, s.team.requests[r]? ≠ some (.reloading id)) ∧ s.returned = [] ∧ s.transitions = 0 := by
  cases h with
  | waiting _ hl hr ht => exact ⟨hl, hr, ht⟩
  | won w m wanted request hrow hi =>
    rw [status_of hrow, hi] at hd
    cases hd

/-- A call that is answered is put in its place. -/
theorem respond_back {new : Request} (hn : new ≠ .reloading id) (q : Nat)
    (h : (s.respond r new).requests[q]? = some (.reloading id)) : s.requests[q]? = some (.reloading id) := by
  rcases Calls.set_cases h with ⟨-, he⟩ | ⟨-, h⟩
  · exact absurd he.symm hn
  · exact h

theorem respond_go {old new request : Request} (hr : s.requests[r]? = some old) (q : Nat)
    (hq : s.requests[q]? = some request) :
    (s.respond r new).requests[q]? = some request ∨ q = r ∧ (s.respond r new).requests[q]? = some new := by
  by_cases he : q = r
  · subst he
    exact .inr ⟨rfl, Calls.getElem?_set_own hr⟩
  · exact .inl ((List.getElem?_set_ne (Ne.symm he)).trans hq)

/-- Nothing is written and nothing returned. -/
theorem next_eq (s : Noted) (a : Action) (team : State) (hm : team.members = s.team.members) (ha : s.answer a = []) :
    s.next id a team = ⟨team, s.want a, s.returned, s.transitions⟩ := by
  have hst : team.status id = s.team.status id := by rw [State.status, hm, State.status]
  unfold Noted.next
  rw [ha, List.append_nil, hst, if_neg, Nat.add_zero]
  exact fun hx => by cases hx.1.symm.trans hx.2

theorem phase_step {s : Noted} {team : State} (h : Phase id s) (ho : Matched s.team a)
    (hc : ReInviteChange id s.team a team) : Phase id (s.next id a team) := by
  cases hc with
  | tick ms =>
    rw [next_eq s (.tick ms) { s.team with clock := s.team.clock + ms } rfl rfl]
    exact h.keep rfl (fun _ he => he) fun r request hq _ => ⟨rfl, .inl hq⟩
  | asked dto inverterId inviterId next hn =>
    rw [next_eq s _ (s.team.ask next) rfl rfl]
    refine h.keep rfl (fun r he => ?_) fun r request hq _ => ⟨rfl, .inl (Calls.snoc_of_some hq)⟩
    rcases Calls.snoc_cases he with he | ⟨-, he⟩
    · exact he
    · rcases hn with rfl | rfl <;> cases he
  | matched r drawn user role inviterId m m' hq hm hd hi hg =>
    have hst : s.team.status id = some .deactivated := by rw [status_of hm, hd]
    obtain ⟨hl, hret, htr⟩ := h.waiting_of hst
    have hrow : (s.team.members.set id m')[id]? = some m' :=
      Calls.getElem?_set_own hm
    have hinv : State.status { s.team with members := s.team.members.set id m' } id = some .invited := by
      rw [State.status, hrow, Option.map_some, hi]
    refine .won r m' ⟨role, drawn, s.team.clock + inviteTtlMs⟩ (.reloading id) hrow hi ?_ hg (fun q he => ?_)
      (Calls.getElem?_set_own hq) (fun _ _ he => by cases he) (.inl ?_) ?_
    · simp only [Noted.next, Noted.want, hq, update_self]
    · rcases Calls.set_cases he with ⟨hqr, -⟩ | ⟨-, he⟩
      · exact hqr
      · exact absurd he (hl q)
    · simp only [Noted.next, Noted.answer, hq, hret, List.append_nil]
    · show s.transitions + _ = 1
      rw [htr, if_pos ⟨hst, hinv⟩]
  | notMatched r drawn user role inviterId hq hst =>
    refine absurd (ho id ?_) hst
    simp only [State.reInvites, State.pending, hq, Option.mem_def]
  | refused r drawn user role inviterId hq =>
    have ha : s.answer (.request r drawn user) = [] := by simp only [Noted.answer, hq]
    rw [next_eq s _ (s.team.respond r .failed) rfl ha]
    refine h.keep rfl (respond_back fun he => by cases he) fun q request hq' hn => ?_
    have hne : q ≠ r := by
      intro he
      subst he
      exact hn _ _ (Option.some.inj (hq'.symm.trans hq))
    refine ⟨?_, (respond_go hq q hq').imp_right (·.2)⟩
    simp only [Noted.want, hq, update_of_ne hne]
  | failed r old hq =>
    rw [next_eq s (.fail r) (s.team.respond r .failed) rfl rfl]
    exact h.keep rfl (respond_back fun he => by cases he) fun q request hq' _ =>
      ⟨rfl, (respond_go hq q hq').imp_right (·.2)⟩
  | reloaded r drawn user next hq hn =>
    cases h with
    | waiting _ hl => exact absurd hq (hl r)
    | won w m wanted request hrow hi hw hg hl hqw hnot hret htr =>
      cases hl r hq
      have hreq : request = .reloading id := Option.some.inj (hqw.symm.trans hq)
      have hempty : s.returned = [] := hret.resolve_right fun hx => hx.2 hreq
      have hans : s.answer (.request r drawn user) = [(r, m)] := by
        simp [Noted.answer, hq, hrow, Option.filter_some, hi]
      have hnext : next ≠ .reloading id ∧ ∀ role inviterId, next ≠ .reInviting id role inviterId := by
        rcases hn with rfl | rfl
        · exact ⟨(fun he => by cases he), fun _ _ he => by cases he⟩
        · exact ⟨(fun he => by cases he), fun _ _ he => by cases he⟩
      refine .won r m wanted next hrow hi ?_ hg (fun q he => hl q (respond_back hnext.1 q he))
        (Calls.getElem?_set_own hq) hnext.2 (.inr ⟨?_, hnext.1⟩) ?_
      · simp only [Noted.next, Noted.want, hq]
        exact hw
      · show s.returned ++ s.answer _ = _
        rw [hempty, hans]
        rfl
      · show s.transitions + _ = 1
        rw [htr, if_neg]
        intro hx
        rw [status_of hrow, hi] at hx
        cases hx.1

/-! ## Results -/

theorem inv_start {team : State} (hd : team.status id = some .deactivated) (hr : team.requests = []) :
    Inv id (.start team) where
  ofRow request hm := by
    rw [Noted.start, hr] at hm
    cases hm
  phase := by
    refine .waiting hd (fun r he => ?_) rfl rfl
    rw [Noted.start, hr] at he
    cases he

theorem inv_step {s s' : Noted} (h : Inv id s) (ho : ReInvite id a) (hm : Matched s.team a)
    (hs : Noted.step id s a = some s') : Inv id s' := by
  obtain ⟨team, ht, rfl⟩ := Option.map_eq_some_iff.mp hs
  have hc := reInviteChange_of_step h.ofRow ho ht
  exact ⟨ofRow_change h.ofRow hc, phase_step h.phase hm hc⟩

/-- The steps of the calls, each update of which finds the row deactivated. -/
def Exclusive (id : Nat) (s : Noted) (a : Action) : Prop := ReInvite id a ∧ Matched s.team a

theorem re_invite_exclusive {team : State} {s : Noted} (hd : team.status id = some .deactivated)
    (hr : team.requests = []) (h : (Noted.machine id team).Path (Exclusive id) (.start team) s) :
    s.returned.length ≤ s.transitions ∧
      ∀ r m, (r, m) ∈ s.returned → ∃ wanted, s.wanted r = some wanted ∧ wanted.Granted m := by
  have hi : Inv id s := h.keep (I := Inv id) (fun _ _ _ hi ho hs => inv_step hi ho.1 ho.2 hs) (inv_start hd hr)
  cases hi.phase with
  | waiting _ _ hret ht =>
    rw [hret, ht]
    exact ⟨Nat.le_refl 0, fun r m hm => by cases hm⟩
  | won w m wanted request _ _ hw hg _ _ _ hret ht =>
    rcases hret with hret | ⟨hret, -⟩
    · rw [hret, ht]
      exact ⟨Nat.zero_le 1, fun r m hm => by cases hm⟩
    · rw [hret, ht]
      refine ⟨Nat.le_refl 1, fun r m' hm => ?_⟩
      cases List.mem_singleton.mp hm
      exact ⟨wanted, hw, hg⟩

theorem reInviting_of_reInvites (h : s.reInvites a = some id) : ∃ r drawn user role inviterId,
    a = .request r drawn user ∧ s.requests[r]? = some (.reInviting id role inviterId) := by
  unfold State.reInvites State.pending at h
  cases a with
  | request r drawn user =>
    simp only at h
    split at h <;> cases h
    rename_i role inviterId hq
    exact ⟨r, drawn, user, role, inviterId, rfl, hq⟩
  | tick | registerFromInvite | existingUserAcceptInvite | revokeMemberAccess | inviteMember | refreshUserInvite
  | updateMemberRole | fail => cases h

/-- A call whose update matches nothing is told, by its next step, of an invite it has not made. -/
theorem success_without_transition {s s' : Noted} (h : Inv id s) (hn : ¬ Matched s.team a)
    (hs : Noted.step id s a = some s') : ∃ r m s'', Noted.step id s' (.request r 0 none) = some s'' ∧
      s''.returned = s.returned ++ [(r, m)] ∧ s''.transitions = s.transitions := by
  obtain ⟨id', hid'⟩ := not_forall.mp hn
  obtain ⟨hre, hst⟩ := Classical.not_imp.mp hid'
  obtain ⟨r, drawn, user, role, inviterId, rfl, hq⟩ := reInviting_of_reInvites hre
  cases h.ofRow _ (List.mem_of_getElem? hq)
  cases h.phase with
  | waiting hd => exact absurd hd hst
  | won w m wanted request hrow hi =>
    have ht : TeamAccess.step s.team (.request r drawn user) = some (s.team.respond r (.reloading id)) := by
      simp [TeamAccess.step, hq, requestStep, hrow, atomicReInviteExistingRecord, hi]
    have ha : s.answer (.request r drawn user) = [] := by simp only [Noted.answer, hq]
    simp only [Noted.step, ht, Option.map_some, Option.some.injEq] at hs
    rw [next_eq s _ (s.team.respond r (.reloading id)) rfl ha] at hs
    subst hs
    have hq' : (s.team.respond r (.reloading id)).requests[r]? = some (.reloading id) :=
      Calls.getElem?_set_own hq
    have hrow' : (s.team.respond r (.reloading id)).members[id]? = some m := hrow
    have ht' : TeamAccess.step (s.team.respond r (.reloading id)) (.request r 0 none) =
        some ((s.team.respond r (.reloading id)).respond r (.invited id)) := by
      simp [TeamAccess.step, hq', requestStep, hrow', hi]
    refine ⟨r, m, Noted.next id _ _ _, congrArg (Option.map _) ht', ?_, ?_⟩
    · show s.returned ++ _ = _
      simp [Noted.answer, hq', hrow', Option.filter_some, hi]
    · show s.transitions + _ = _
      rw [if_neg, Nat.add_zero]
      exact fun hx => hst hx.1

end

def formerMember : InverterMember := ⟨3, none, "a@b.c", .viewer, .deactivated, none, 0, none⟩

def deactivatedRow : State := ⟨0, [formerMember], []⟩

/-- Both calls find the row deactivated. -/
def twice : List Action :=
  [.inviteMember ⟨"a@b.c", .viewer⟩ 3 1 (some 0), .inviteMember ⟨"a@b.c", .admin⟩ 3 2 (some 0), .request 0 11 none,
    .request 1 12 none, .request 0 0 none, .request 1 0 none]

theorem both_told_of_one_invite : ¬ ∀ (id : Nat) (team : State) (s : Noted), team.status id = some .deactivated →
    team.requests = [] → (Noted.machine id team).Path (fun _ => ReInvite id) (.start team) s →
    s.returned.length ≤ s.transitions ∧
      ∀ r m, (r, m) ∈ s.returned → ∃ wanted, s.wanted r = some wanted ∧ wanted.Granted m := by
  intro h
  have h0 : (((Noted.machine 0 deactivatedRow).only fun _ => ReInvite 0).run (.start deactivatedRow) twice).map
      (fun s => (s.returned.length, s.transitions)) = some (2, 1) := by decide
  obtain ⟨s, hs, h0⟩ := Option.map_eq_some_iff.mp h0
  simp only [Prod.mk.injEq] at h0
  have hle := (h 0 deactivatedRow s rfl rfl (Machine.path_of_run_only hs)).1
  omega

instance (id : Nat) (s : Noted) (a : Action) : Decidable (Exclusive id s a) := inferInstanceAs (Decidable (_ ∧ _))

/-- The second call comes after the first one's update, and finds the row invited. -/
theorem re_invite_exclusive_first : ∃ s, ((Noted.machine 0 deactivatedRow).only (Exclusive 0)).run (.start deactivatedRow)
      [.inviteMember ⟨"a@b.c", .viewer⟩ 3 1 (some 0), .request 0 11 none,
        .inviteMember ⟨"a@b.c", .admin⟩ 3 2 (some 0), .request 0 0 none] = some s ∧
    s.returned.length = 1 ∧ s.returned.length ≤ s.transitions ∧
    ∀ r m, (r, m) ∈ s.returned → ∃ wanted, s.wanted r = some wanted ∧ wanted.Granted m := by
  have h0 : (((Noted.machine 0 deactivatedRow).only (Exclusive 0)).run (.start deactivatedRow)
      [.inviteMember ⟨"a@b.c", .viewer⟩ 3 1 (some 0), .request 0 11 none,
        .inviteMember ⟨"a@b.c", .admin⟩ 3 2 (some 0), .request 0 0 none]).map (·.returned.length) = some 1 := by decide
  obtain ⟨s, hs, hl⟩ := Option.map_eq_some_iff.mp h0
  exact ⟨s, hs, hl, @re_invite_exclusive 0 deactivatedRow s rfl rfl (Machine.path_of_run_only hs)⟩

end IntellApi.TeamAccess
