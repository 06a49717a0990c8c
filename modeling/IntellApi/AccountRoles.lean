import IntellApi.AccountsSound

/-!
# Users and admins

No account goes from the users and installers to the admins or back, although
each guard looks at the role before the write: what a guard has seen of this
is still so when the write is done.
-/

namespace IntellApi.Accounts

open Lts

variable {fold : Email → Email} {s t : State} {a : Action} {u v : User}

/-! ## What the requests bring -/

/-- The roles the bodies of the requests may name. -/
def Creation.validated : Creation → Bool
  | .user dto => dto.role ≠ some .admin ∧ dto.role ≠ some .superAdmin
  | .teamInvitedUser dto => dto.role = none
  | .admin dto => dto.role = .admin ∨ dto.role = .superAdmin

/-- `promoteUser` has no caller. -/
def Change.validated : Change → Bool
  | .promoteUser _ => false
  | .adminUpdateAdminRole role => role = .admin ∨ role = .superAdmin
  | _ => true

def Action.validated : Action → Bool
  | .create creation => creation.validated
  | .change _ made => made.validated
  | _ => true

def Validated : State → Action → Prop := fun _ a => a.validated = true

instance (s : State) (a : Action) : Decidable (Validated s a) := inferInstanceAs (Decidable (_ = _))

/-! ## Guards -/

open Change (isAdmin)

/-- What the guard of a change has seen of the row. -/
def Change.allows : Change → User → Prop
  | .adminUpdateAdminRole _, user | .adminUpdateAdminStatus _, user => isAdmin user = true
  | .createProfile, user => isAdmin user = false
  | _, _ => True

theorem allows_of_check {change : Change} {check : Option User → Except ServiceError Unit} {user : Option User}
    (hc : change.check = some check) (h : check user = .ok ()) :
    (∀ u, change.allows u) ∨ ∃ u, user = some u ∧ change.allows u := by
  cases change with
  | adminUpdateAdminRole | adminUpdateAdminStatus =>
    cases hc
    cases user with
    | none => cases h
    | some u =>
      refine .inr ⟨u, rfl, ?_⟩
      by_contra hn
      simp only [Option.any_some] at h
      rw [if_neg (show ¬isAdmin u = true from hn)] at h
      cases h
  | createProfile =>
    cases hc
    cases user with
    | none => cases h
    | some u =>
      refine .inr ⟨u, rfl, ?_⟩
      dsimp only at h
      split at h
      · rename_i hr
        rcases hr with hr | hr <;> simp [Change.allows, isAdmin, hr]
      · cases h
  | _ => exact .inl fun _ => trivial

theorem allows_of_no_check {change : Change} (h : change.check = none) (u : User) : change.allows u := by
  cases change with
  | updatePersonalSettings | setEmailVerified | connectUserInverter => trivial
  | _ => cases h

/-- A change its guard has let through keeps the class of the account. -/
theorem class_apply {change : Change} (h : change.apply u = some v) (hv : change.validated = true)
    (ha : change.allows u) (hs : isAdmin u = u.adminStatus.isSome) :
    isAdmin v = isAdmin u ∧ v.adminStatus.isSome = u.adminStatus.isSome := by
  cases change with
  | promoteUser => cases hv
  | remove => cases h
  | adminUpdateAdminRole role =>
    cases h
    exact ⟨hv.trans ha.symm, rfl⟩
  | adminUpdateAdminStatus status =>
    cases h
    exact ⟨rfl, (hs.symm.trans ha).symm⟩
  | createProfile =>
    cases h
    exact ⟨ha.symm, rfl⟩
  | _ =>
    cases h
    exact ⟨rfl, rfl⟩

/-! ## Runs -/

def CallClassed (s : State) : Call → Prop
  | .findingByEmail creation | .hashing creation => creation.validated = true
  | .inserting payload => isAdmin ⟨payload, 0⟩ = payload.adminStatus.isSome
  | .findingUser _ change => change.validated = true
  | .updating id change => change.validated = true ∧
      ((∀ u, change.allows u) ∨ id < s.accounts ∧ ∀ u ∈ s.users, u.id = id → change.allows u)
  | _ => True

structure Classed (fold : Email → Email) (s : State) : Prop where
  sound : Sound fold s
  status : ∀ u ∈ s.users, isAdmin u = u.adminStatus.isSome
  calls : ∀ call ∈ s.calls, CallClassed s call

theorem classed_init : Classed fold init :=
  ⟨sound_init, fun _ h => absurd h List.not_mem_nil, fun _ h => absurd h List.not_mem_nil⟩

theorem Edit.class (h : Edit fold s a u v) (hs : Classed fold s) (hu : u ∈ s.users) :
    isAdmin v = isAdmin u ∧ v.adminStatus.isSome = u.adminStatus.isSome := by
  cases h with
  | same => exact ⟨rfl, rfl⟩
  | linked => exact ⟨rfl, rfl⟩
  | changed _ hc h =>
    obtain ⟨hv, hallow⟩ := hs.calls _ (List.mem_of_getElem? hc)
    exact class_apply h hv (hallow.elim (fun h => h u) fun h => h.2 u hu rfl) (hs.status u hu)

/-- What a change allows depends on the class of the account alone. -/
theorem allows_congr {change : Change} (h : isAdmin v = isAdmin u) (ha : change.allows u) : change.allows v := by
  cases change with
  | adminUpdateAdminRole | adminUpdateAdminStatus | createProfile => exact h.trans ha
  | _ => trivial

theorem payload_classed {creation : Creation} (h : creation.validated = true) (hash : String) (id : Uuid) :
    isAdmin ⟨creation.hashed hash, id⟩ = (creation.hashed hash).adminStatus.isSome := by
  cases creation with
  | user dto =>
    simp only [Creation.validated, decide_eq_true_eq] at h
    obtain ⟨hadmin, hsuper⟩ := h
    have hrole : ∀ role, role ≠ .user → dto.role.getD .user = role → dto.role = some role := by
      intro role hne he
      cases hr : dto.role with
      | none =>
        rw [hr] at he
        exact absurd he.symm hne
      | some role' =>
        rw [hr] at he
        exact congrArg some he
    refine Bool.eq_false_iff.mpr fun hin => ?_
    rcases of_decide_eq_true hin with he | he
    · exact hadmin (hrole _ (by decide) he)
    · exact hsuper (hrole _ (by decide) he)
  | teamInvitedUser dto =>
    have hr : dto.role = none := of_decide_eq_true h
    simp [isAdmin, Creation.hashed, createTeamInvitedUser, hr]
  | admin dto => exact h

theorem CallClassed.step {call : Call} (h : step fold s a = some t) (hs : Classed fold s) (hc : CallClassed s call) :
    CallClassed t call := by
  cases call with
  | updating id change =>
    refine ⟨hc.1, hc.2.imp_right ?_⟩
    rintro ⟨hlt, hallow⟩
    refine ⟨hlt.trans_le (step_accounts h), ?_⟩
    intro v hv hid
    rcases step_row h hv with ⟨u, hu, he⟩ | hn
    · exact allows_congr (he.class hs hu).1 (hallow u hu (he.kept.id.symm.trans hid))
    · exact absurd (hid.symm.trans hn.id) hlt.ne
  | _ => exact hc

theorem classed_call {call : Call} (hs : Classed fold s) (hv : Validated s a) (ho : Origin fold s t a call)
    (hst : step fold s a = some t) : CallClassed t call := by
  cases call with
  | findingByEmail creation =>
    subst ho
    exact hv
  | hashing creation => exact hs.calls _ ho
  | inserting payload =>
    obtain ⟨creation, hash, hc, rfl⟩ := ho
    exact payload_classed (hc.elim (hs.calls _) (hs.calls _)) hash 0
  | findingUser id change =>
    subst ho
    exact hv
  | updating id change =>
    obtain ⟨rfl, hnone⟩ | ⟨hc, hcheck⟩ := ho
    · exact ⟨hv, .inl (allows_of_no_check hnone)⟩
    · suffices hbefore : CallClassed s (.updating id change) from hbefore.step hst hs
      refine ⟨hs.calls _ hc, ?_⟩
      cases hsome : change.check with
      | none => exact .inl (allows_of_no_check hsome)
      | some check =>
        refine (allows_of_check hsome (hcheck check hsome)).imp_right ?_
        rintro ⟨u, hf, ha⟩
        obtain ⟨hu, rfl⟩ := findById_some hf
        refine ⟨hs.sound.fresh u hu, ?_⟩
        intro w hw hid
        rw [hs.sound.unique hw hu (.inl hid)]
        exact ha
  | _ => trivial

theorem classed_step (h : step fold s a = some t) (hv : Validated s a) (hs : Classed fold s) : Classed fold t := by
  refine ⟨sound_step h hs.sound, ?_, ?_⟩
  · intro v hmem
    rcases step_row h hmem with ⟨u, hu, he⟩ | hn
    · obtain ⟨hrole, hstatus⟩ := he.class hs hu
      rw [hrole, hstatus]
      exact hs.status u hu
    · obtain ⟨payload, hc, rfl⟩ | ⟨dto, -, rfl⟩ := hn.origin
      · exact hs.calls _ hc
      · rfl
  · intro call hc
    rcases step_call h hc with hc | ho
    · exact (hs.calls call hc).step h hs
    · exact classed_call hs hv ho h

theorem Path.classed (h : (machine fold).Reach Validated s) : Classed fold s :=
  h.inv classed_init fun _ _ _ hs hv hst => classed_step hst hv hs

/-- The admins are the accounts that were created as such: no other account becomes one, none of them
ceases to be one, and an admin status is theirs alone. -/
theorem roles_separate (hr : (machine fold).Reach Validated s) :
    (∀ u ∈ s.users, isAdmin u = u.adminStatus.isSome) ∧
      ∀ t, (machine fold).Path Validated s t → ∀ u ∈ s.users, ∀ v ∈ t.users, v.id = u.id → isAdmin v = isAdmin u := by
  have hs := Path.classed hr
  refine ⟨hs.status, ?_⟩
  intro t hp u hu
  have hkeep : Classed fold t ∧ u.id < t.accounts ∧ ∀ v ∈ t.users, v.id = u.id → isAdmin v = isAdmin u := by
    refine hp.keep (I := fun t => Classed fold t ∧ u.id < t.accounts ∧
      ∀ v ∈ t.users, v.id = u.id → isAdmin v = isAdmin u) ?_ ⟨hs, hs.sound.fresh u hu, ?_⟩
    · rintro t a t' ⟨hs, hlt, hrole⟩ hv hst
      refine ⟨classed_step hst hv hs, hlt.trans_le (step_accounts hst), ?_⟩
      intro w hw hid
      rcases step_row hst hw with ⟨v, hv, he⟩ | hn
      · exact (he.class hs hv).1.trans (hrole v hv (he.kept.id.symm.trans hid))
      · exact absurd (hid.symm.trans hn.id) hlt.ne
    · intro v hv hid
      rw [hs.sound.unique hv hu (.inl hid)]
  exact hkeep.2.2

/-- A user who becomes an installer while an admin is created. -/
def promoting : List Action :=
  registering ++ [.change 0 .createProfile, .found 1 0 none,
    .create (.admin ⟨"Joe", "Bello", "joe@intell.africa", .admin⟩), .found 2 0 none, .written 2 .done, .written 1 .done]

theorem roles_separate_promoting : ∃ s, (machine id).run init promoting = some s ∧
    s.users.map (·.role) = [.installer, .admin] ∧ s.users.map isAdmin = [false, true] := by
  obtain ⟨s, hs, hp, hroles, hstatus⟩ : ∃ s, (machine id).run init promoting = some s ∧
      ((machine id).only Validated).run init promoting = some s ∧ s.users.map (·.role) = [.installer, .admin] ∧
      s.users.map (·.adminStatus.isSome) = [false, true] := ⟨_, rfl, by decide, rfl, rfl⟩
  refine ⟨s, hs, hroles, ?_⟩
  rw [← hstatus]
  exact List.map_congr_left (roles_separate (Machine.path_of_run_only hp)).1

end IntellApi.Accounts
