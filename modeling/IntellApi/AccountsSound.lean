import IntellApi.Accounts
import IntellApi.Calls
import Mathlib.Data.List.Pairwise

/-!
# What becomes of an account

No interleaving loses an account's email, verification or link, or its password
without a reset. Where Google's accounts have an email each of their own, a
link is for good, and every sign-in ends at the one account of this email.
-/

namespace IntellApi.Accounts

open Lts

variable {fold : Email → Email} {mail : String → Email} {ok : State → Action → Prop} {s t : State} {a : Action}
  {u v : User}

/-! ## Writes -/

@[simp] theorem sameEmail_iff {email : Email} : sameEmail fold email u = true ↔ fold u.email = fold email :=
  decide_eq_true_iff

theorem findById_some {id : Uuid} (h : s.findById id = some u) : u ∈ s.users ∧ u.id = id := by
  have hid := List.find?_some h
  exact ⟨List.mem_of_find?_eq_some h, of_decide_eq_true hid⟩

theorem insert_some {users users' : List User} {id : Uuid} {payload : CreatePayload}
    (h : insert fold users id payload = some users') :
    (∀ u ∈ users, fold u.email ≠ fold payload.email) ∧ users' = users ++ [⟨payload, id⟩] := by
  unfold insert at h
  split at h
  · cases h
  · rename_i hany
    refine ⟨?_, (Option.some.inj h).symm⟩
    intro u hu he
    exact hany (List.any_eq_true.mpr ⟨u, hu, sameEmail_iff.mpr he⟩)

theorem link_of (dto : GoogleOAuthDto) (u : User) :
    fold u.email = fold dto.email ∧ link fold dto u = { u with googleId := some dto.googleId, emailVerified := true } ∨
      fold u.email ≠ fold dto.email ∧ link fold dto u = u := by
  unfold link
  by_cases h : fold u.email = fold dto.email
  · exact .inl ⟨h, if_pos (sameEmail_iff.mpr h)⟩
  · exact .inr ⟨h, if_neg fun hs => h (sameEmail_iff.mp hs)⟩

theorem upsertByGoogle_cases (users : List User) (id : Uuid) (dto : GoogleOAuthDto) :
    (∃ u ∈ users, fold u.email = fold dto.email ∧
        upsertByGoogle fold users id dto = (users.map (link fold dto), u.id)) ∨
      (∀ u ∈ users, fold u.email ≠ fold dto.email) ∧
        upsertByGoogle fold users id dto = (users ++ [⟨googlePayload dto, id⟩], id) := by
  unfold upsertByGoogle findByEmail
  cases hf : users.find? (sameEmail fold dto.email) with
  | some u =>
    exact .inl ⟨u, List.mem_of_find?_eq_some hf, sameEmail_iff.mp (List.find?_some hf), rfl⟩
  | none =>
    refine .inr ⟨?_, rfl⟩
    intro u hu he
    exact List.find?_eq_none.mp hf u hu (sameEmail_iff.mpr he)

theorem mem_applyChange {users : List User} {id : Uuid} {change : Change} :
    v ∈ applyChange users id change ↔ ∃ u ∈ users, u.id = id ∧ change.apply u = some v ∨ u.id ≠ id ∧ u = v := by
  unfold applyChange applyAt
  rw [List.mem_filterMap]
  refine exists_congr fun u => and_congr_right fun _ => ?_
  by_cases hid : u.id = id
  · simp [hid]
  · simp [hid]

/-! ## Rows -/

/-- What every write keeps of a row. -/
structure Kept (u v : User) : Prop where
  id : v.id = u.id
  email : v.email = u.email
  isInvitedUser : v.isInvitedUser = u.isInvitedUser
  emailVerified : u.emailVerified = true → v.emailVerified = true
  onboardingComplete : u.onboardingComplete = true → v.onboardingComplete = true
  googleId : u.googleId.isSome = true → v.googleId.isSome = true

theorem Kept.refl (u : User) : Kept u u := ⟨rfl, rfl, rfl, fun h => h, fun h => h, fun h => h⟩

theorem Kept.trans {w : User} (h : Kept u v) (h' : Kept v w) : Kept u w where
  id := h'.id.trans h.id
  email := h'.email.trans h.email
  isInvitedUser := h'.isInvitedUser.trans h.isInvitedUser
  emailVerified hu := h'.emailVerified (h.emailVerified hu)
  onboardingComplete hu := h'.onboardingComplete (h.onboardingComplete hu)
  googleId hu := h'.googleId (h.googleId hu)

theorem kept_link (dto : GoogleOAuthDto) (u : User) : Kept u (link fold dto u) := by
  obtain ⟨-, he⟩ | ⟨-, he⟩ := @link_of fold dto u
  · rw [he]
    exact ⟨rfl, rfl, rfl, fun _ => rfl, fun h => h, fun _ => rfl⟩
  · rw [he]
    exact .refl u

theorem kept_apply {change : Change} (h : change.apply u = some v) : Kept u v := by
  cases change with
  | remove => cases h
  | setEmailVerified =>
    cases h
    exact ⟨rfl, rfl, rfl, fun _ => rfl, fun h => h, fun h => h⟩
  | connectUserInverter =>
    cases h
    exact ⟨rfl, rfl, rfl, fun h => h, fun _ => rfl, fun h => h⟩
  | _ =>
    cases h
    exact ⟨rfl, rfl, rfl, fun h => h, fun h => h, fun h => h⟩

theorem kept_applyAt {id : Uuid} {change : Change} (h : applyAt id change u = some v) : Kept u v := by
  unfold applyAt at h
  split at h
  · exact kept_apply h
  · cases h
    exact .refl u

/-- The link of a row is changed by no change of this row. -/
theorem googleId_apply {change : Change} (h : change.apply u = some v) : v.googleId = u.googleId := by
  cases change with
  | remove => cases h
  | _ =>
    cases h
    rfl

/-! ## Steps -/

/-- What a step makes of a row that stays. -/
inductive Edit (fold : Email → Email) (s : State) (a : Action) (u : User) : User → Prop
  | same : Edit fold s a u u
  | linked {c : Nat} {answer : Answer} {dto : GoogleOAuthDto} (ha : a = .written c answer)
      (hc : s.calls[c]? = some (.upserting dto)) (he : fold u.email = fold dto.email) :
      Edit fold s a u { u with googleId := some dto.googleId, emailVerified := true }
  | changed {v : User} {c : Nat} {answer : Answer} {change : Change} (ha : a = .written c answer)
      (hc : s.calls[c]? = some (.updating u.id change)) (h : change.apply u = some v) : Edit fold s a u v

/-- What a row is that a step puts in. -/
structure New (fold : Email → Email) (s t : State) (v : User) : Prop where
  id : v.id = s.accounts
  accounts : t.accounts = s.accounts + 1
  email : ∀ u ∈ s.users, fold u.email ≠ fold v.email
  origin : (∃ payload, .inserting payload ∈ s.calls ∧ v = ⟨payload, s.accounts⟩) ∨
    ∃ dto, .upserting dto ∈ s.calls ∧ v = ⟨googlePayload dto, s.accounts⟩

theorem step_table (h : step fold s a = some t) :
    (t.users = s.users ∧ t.accounts = s.accounts) ∨
      (∃ c answer payload, a = .written c answer ∧ s.calls[c]? = some (.inserting payload) ∧
        insert fold s.users s.accounts payload = some t.users ∧ t.accounts = s.accounts + 1) ∨
      (∃ c answer dto, a = .written c answer ∧ s.calls[c]? = some (.upserting dto) ∧
        t.users = (upsertByGoogle fold s.users s.accounts dto).1 ∧ t.accounts = s.accounts + 1) ∨
      ∃ c answer id change, a = .written c answer ∧ s.calls[c]? = some (.updating id change) ∧
        t.users = applyChange s.users id change ∧ t.accounts = s.accounts := by
  cases a with
  | create | googleMobileLogin | googleLogin | change =>
    cases h
    exact .inl ⟨rfl, rfl⟩
  | found c choice error =>
    simp only [step] at h
    split at h
    · obtain ⟨next, -, rfl⟩ := Option.map_eq_some_iff.mp h
      exact .inl ⟨rfl, rfl⟩
    · cases h
  | hashed c hash =>
    simp only [step] at h
    split at h
    · cases h
      exact .inl ⟨rfl, rfl⟩
    · cases h
  | written c answer =>
    simp only [step] at h
    split at h
    · rename_i call hc
      unfold write at h
      split at h
      · rename_i payload
        split at h
        · split at h
          · cases h
            exact .inl ⟨rfl, rfl⟩
          · rename_i users hi
            cases h
            exact .inr (.inl ⟨c, answer, payload, rfl, hc, hi, rfl⟩)
        · cases h
          exact .inl ⟨rfl, rfl⟩
      · rename_i dto
        cases h
        split
        · exact .inr (.inr (.inl ⟨c, answer, dto, rfl, hc, rfl, rfl⟩))
        · exact .inl ⟨rfl, rfl⟩
      · rename_i id change
        cases h
        split
        · exact .inr (.inr (.inr ⟨c, answer, id, change, rfl, hc, rfl, rfl⟩))
        · exact .inl ⟨rfl, rfl⟩
      · cases h
    · cases h

theorem step_accounts (h : step fold s a = some t) : s.accounts ≤ t.accounts := by
  obtain ⟨-, hn⟩ | ⟨_, _, _, -, -, -, hn⟩ | ⟨_, _, _, -, -, -, hn⟩ | ⟨_, _, _, _, -, -, -, hn⟩ := step_table h
  · exact hn.ge
  · exact hn ▸ Nat.le_succ _
  · exact hn ▸ Nat.le_succ _
  · exact hn.ge

/-- Each row after a step is edited or new. -/
theorem step_row (h : step fold s a = some t) (hv : v ∈ t.users) :
    (∃ u ∈ s.users, Edit fold s a u v) ∨ New fold s t v := by
  obtain ⟨hu, -⟩ | ⟨c, answer, payload, ha, hc, hi, hn⟩ | ⟨c, answer, dto, ha, hc, hu, hn⟩ |
    ⟨c, answer, id, change, ha, hc, hu, -⟩ := step_table h
  · rw [hu] at hv
    exact .inl ⟨v, hv, .same⟩
  · obtain ⟨hne, he⟩ := insert_some hi
    rw [he] at hv
    rcases List.mem_append.mp hv with hv | hv
    · exact .inl ⟨v, hv, .same⟩
    · cases List.mem_singleton.mp hv
      exact .inr ⟨rfl, hn, hne, .inl ⟨payload, List.mem_of_getElem? hc, rfl⟩⟩
  · obtain ⟨_, _, _, he⟩ | ⟨hne, he⟩ := @upsertByGoogle_cases fold s.users s.accounts dto
    · rw [hu, he] at hv
      obtain ⟨u, hu, rfl⟩ := List.mem_map.mp hv
      obtain ⟨hs, hl⟩ | ⟨-, hl⟩ := @link_of fold dto u
      · rw [hl]
        exact .inl ⟨u, hu, .linked ha hc hs⟩
      · rw [hl]
        exact .inl ⟨u, hu, .same⟩
    · rw [hu, he] at hv
      rcases List.mem_append.mp hv with hv | hv
      · exact .inl ⟨v, hv, .same⟩
      · cases List.mem_singleton.mp hv
        exact .inr ⟨rfl, hn, hne, .inr ⟨dto, List.mem_of_getElem? hc, rfl⟩⟩
  · rw [hu] at hv
    obtain ⟨u, hmem, ⟨rfl, happly⟩ | ⟨-, rfl⟩⟩ := mem_applyChange.mp hv
    · exact .inl ⟨u, hmem, .changed ha hc happly⟩
    · exact .inl ⟨u, hmem, .same⟩

theorem Edit.kept (h : Edit fold s a u v) : Kept u v := by
  cases h with
  | same => exact .refl u
  | linked => exact ⟨rfl, rfl, rfl, fun _ => rfl, fun h => h, fun _ => rfl⟩
  | changed _ _ h => exact kept_apply h

/-! ## Runs -/

def Distinct (fold : Email → Email) (u v : User) : Prop := u.id ≠ v.id ∧ fold u.email ≠ fold v.email

instance : Std.Symm (Distinct fold) := ⟨fun _ _ h => ⟨h.1.symm, h.2.symm⟩⟩

theorem Distinct.kept {u' v' : User} (h : Distinct fold u v) (hu : Kept u u') (hv : Kept v v') :
    Distinct fold u' v' := by
  unfold Distinct
  rw [hu.id, hv.id, hu.email, hv.email]
  exact h

/-- Ids are not used twice, nor are emails. -/
structure Sound (fold : Email → Email) (s : State) : Prop where
  fresh : ∀ u ∈ s.users, u.id < s.accounts
  distinct : s.users.Pairwise (Distinct fold)

theorem Sound.unique (h : Sound fold s) (hu : u ∈ s.users) (hv : v ∈ s.users)
    (he : u.id = v.id ∨ fold u.email = fold v.email) : u = v := by
  by_contra hne
  have hd := h.distinct.forall hu hv hne
  exact he.elim hd.1 hd.2

theorem sound_init : Sound fold init := ⟨fun _ hu => absurd hu List.not_mem_nil, .nil⟩

theorem Sound.append (h : Sound fold s) (hid : v.id = s.accounts) (he : ∀ u ∈ s.users, fold u.email ≠ fold v.email) :
    (s.users ++ [v]).Pairwise (Distinct fold) := by
  refine List.pairwise_append.mpr ⟨h.distinct, List.pairwise_singleton .., ?_⟩
  intro u hu w hw
  rw [List.mem_singleton.mp hw]
  exact ⟨hid ▸ (h.fresh u hu).ne, he u hu⟩

theorem sound_step (h : step fold s a = some t) (hs : Sound fold s) : Sound fold t := by
  constructor
  · intro v hv
    rcases step_row h hv with ⟨u, hu, he⟩ | hn
    · rw [he.kept.id]
      exact (hs.fresh u hu).trans_le (step_accounts h)
    · rw [hn.id, hn.accounts]
      exact Nat.lt_succ_self _
  · obtain ⟨hu, -⟩ | ⟨_, _, _, -, -, hi, -⟩ | ⟨_, _, dto, -, -, hu, -⟩ | ⟨_, _, _, _, -, -, hu, -⟩ := step_table h
    · rw [hu]
      exact hs.distinct
    · obtain ⟨hne, he⟩ := insert_some hi
      rw [he]
      exact hs.append rfl hne
    · rw [hu]
      obtain ⟨_, _, _, he⟩ | ⟨hne, he⟩ := @upsertByGoogle_cases fold s.users s.accounts dto
      · rw [he]
        exact hs.distinct.map _ fun u v hd => hd.kept (kept_link dto u) (kept_link dto v)
      · rw [he]
        exact hs.append rfl hne
    · rw [hu]
      refine hs.distinct.filterMap _ fun u v hd u' hu' v' hv' => hd.kept ?_ ?_
      · exact kept_applyAt hu'
      · exact kept_applyAt hv'

theorem Path.sound (h : (machine fold).Reach ok s) : Sound fold s :=
  h.inv sound_init fun _ _ _ hs _ hst => sound_step hst hs

/-- A row a path began with is still the row of its id, and what each step keeps of it is kept. -/
theorem row_of_path {R : User → User → Prop} (hrefl : ∀ u, R u u) (htrans : ∀ u v w, R u v → R v w → R u w)
    (hR : ∀ s a t, ok s a → step fold s a = some t → ∀ u ∈ s.users, ∀ v, Edit fold s a u v → R u v)
    (hs : Sound fold s) (hp : (machine fold).Path ok s t) (hv : v ∈ t.users) :
    s.accounts ≤ v.id ∨ ∃ u ∈ s.users, u.id = v.id ∧ R u v := by
  have key : Sound fold t ∧ s.accounts ≤ t.accounts ∧
      ∀ v ∈ t.users, s.accounts ≤ v.id ∨ ∃ u ∈ s.users, u.id = v.id ∧ R u v := by
    clear hv
    induction hp with
    | refl => exact ⟨hs, le_rfl, fun v hv => .inr ⟨v, hv, rfl, hrefl v⟩⟩
    | @snoc t t' a _ ho hst ih =>
      obtain ⟨hst', hle, ih⟩ := ih
      refine ⟨sound_step hst hst', ?_, ?_⟩
      · exact hle.trans (step_accounts hst)
      · intro w hw
        rcases step_row hst hw with ⟨v, hv, he⟩ | hn
        · rw [he.kept.id]
          rcases ih v hv with hnew | ⟨u, hu, hid, huv⟩
          · exact .inl hnew
          · exact .inr ⟨u, hu, hid, htrans _ _ _ huv (hR _ _ _ ho hst v hv w he)⟩
        · rw [hn.id]
          exact .inl hle
  exact key.2.2 v hv

/-! ## Accounts -/

def resets (id : Uuid) (s : State) : Action → Bool
  | .written c _ =>
    match s.calls[c]? with
    | some (.updating user (.updatePasswordHash _)) => user = id
    | _ => false
  | _ => false

/-- No step resets the password of the account. -/
def NoReset (id : Uuid) : State → Action → Prop := fun s a => resets id s a = false

instance (id : Uuid) (s : State) (a : Action) : Decidable (NoReset id s a) := inferInstanceAs (Decidable (_ = _))

theorem Edit.passwordHash (h : Edit fold s a u v) (hn : NoReset u.id s a) : v.passwordHash = u.passwordHash := by
  cases h with
  | same => rfl
  | linked => rfl
  | @changed _ c answer change ha hc h =>
    cases change with
    | remove => cases h
    | updatePasswordHash hash =>
      subst ha
      simp [NoReset, resets, hc] at hn
    | _ =>
      cases h
      rfl

/-- Over any run an account keeps its email, a verified email, a finished
onboarding and being linked; and its password, unless it is reset. -/
theorem account_kept (hr : (machine fold).Reach Free s) (hp : (machine fold).Path Free s t) (hu : u ∈ s.users)
    (hv : v ∈ t.users) (hid : v.id = u.id) :
    Kept u v ∧ ((machine fold).Path (NoReset u.id) s t → v.passwordHash = u.passwordHash) := by
  have hs := Path.sound hr
  have hnew : ¬s.accounts ≤ v.id := by
    rw [hid]
    exact (hs.fresh u hu).not_ge
  constructor
  · obtain hge | ⟨w, hw, hwid, hk⟩ := row_of_path Kept.refl (fun _ _ _ => Kept.trans)
      (fun _ _ _ _ _ _ _ _ he => Edit.kept he) hs hp hv
    · exact absurd hge hnew
    · rw [hs.unique hu hw (.inl (hid.symm.trans hwid.symm))]
      exact hk
  · intro hp
    obtain hge | ⟨w, hw, hwid, -, hk⟩ := row_of_path
      (R := fun x y => y.id = x.id ∧ (x.id = u.id → y.passwordHash = x.passwordHash)) (fun _ => ⟨rfl, fun _ => rfl⟩)
      (fun _ _ _ h h' => ⟨h'.1.trans h.1, fun he => (h'.2 (h.1.trans he)).trans (h.2 he)⟩)
      (fun _ _ _ hn _ x _ _ he => ⟨he.kept.id, fun hx => he.passwordHash (hx ▸ hn)⟩) hs hp hv
    · exact absurd hge hnew
    · have hwu := hs.unique hu hw (.inl (hid.symm.trans hwid.symm))
      rw [hwu]
      exact hk (congrArg User.id hwu.symm)

def ada : CreateUserDto := ⟨"ada@intell.africa", "secret", "Ada", "Obi", none⟩

def adaTicket : Option (Option TokenPayload) :=
  some (some ⟨"ada", some "ada@intell.africa", true, some "Ada", some "Obi", none⟩)

def adaRow : User := ⟨create ada "hash", 0⟩

def registering : List Action := [.create (.user ada), .found 0 0 none, .hashed 0 (.ok "hash"), .written 0 .done]

def linking (c : Nat) : List Action :=
  [.googleMobileLogin adaTicket, .found c 0 none, .found c 0 none, .written c .done, .found c 0 none]

theorem account_kept_ada : ∃ s t, (machine id).run init registering = some s ∧ (machine id).run s (linking 1) = some t ∧
    ∀ v ∈ t.users, v.id = 0 → v.googleId = some "ada" ∧ v.passwordHash = some "hash" := by
  have hs : (machine id).run init registering = some ⟨[adaRow], 1, [.created adaRow]⟩ := by decide
  obtain ⟨t, ht, hgoogle⟩ : ∃ t, (machine id).run ⟨[adaRow], 1, [.created adaRow]⟩ (linking 1) = some t ∧
      ∀ v ∈ t.users, v.googleId = some "ada" := ⟨_, rfl, by decide⟩
  have hp : ((machine id).only (NoReset 0)).run ⟨[adaRow], 1, [.created adaRow]⟩ (linking 1) = some t := by
    rw [← ht]
    decide
  refine ⟨_, t, hs, ht, ?_⟩
  intro v hv hid
  have hk := account_kept (Machine.path_of_run hs) (Machine.path_of_run ht) List.mem_cons_self hv hid
  exact ⟨hgoogle v hv, hk.2 (Machine.path_of_run_only hp)⟩

/-! ## Sign-ins -/

/-- The Google account of a sign-in. -/
def Action.google : Action → Option GoogleOAuthDto
  | .googleMobileLogin ticket => (verifyIdToken ticket).toOption
  | .googleLogin profile => (validate profile).toOption
  | _ => none

/-- Each Google account signs in with an email of its own. -/
def Stable (fold : Email → Email) (mail : String → Email) : State → Action → Prop := fun _ a =>
  ∀ dto ∈ a.google, fold dto.email = mail dto.googleId

instance (s : State) (a : Action) : Decidable (Stable fold mail s a) :=
  inferInstanceAs (Decidable (∀ dto ∈ a.google, fold dto.email = mail dto.googleId))

/-- Where a call that waits comes from. -/
def Origin (fold : Email → Email) (s t : State) (a : Action) : Call → Prop
  | .findingByEmail creation => a = .create creation
  | .hashing creation => .findingByEmail creation ∈ s.calls
  | .inserting payload => ∃ creation hash, (.findingByEmail creation ∈ s.calls ∨ .hashing creation ∈ s.calls) ∧
      payload = creation.hashed hash
  | .findingUser id change => a = .change id change
  | .updating id change => a = .change id change ∧ change.check = none ∨
      .findingUser id change ∈ s.calls ∧ ∀ check ∈ change.check, check (s.findById id) = .ok ()
  | .findingByGoogleId dto => a.google = some dto
  | .findingGoogleEmail dto => .findingByGoogleId dto ∈ s.calls
  | .upserting dto => .findingGoogleEmail dto ∈ s.calls
  | .loading dto id => .upserting dto ∈ s.calls ∧ upsertByGoogle fold s.users s.accounts dto = (t.users, id)
  | .signedIn dto user => user ∈ s.users ∧
      (.findingByGoogleId dto ∈ s.calls ∧ user.googleId = some dto.googleId ∨ .loading dto user.id ∈ s.calls)
  | _ => True

theorem origin_signIn {dto : Except ServiceError GoogleOAuthDto} (h : a.google = dto.toOption) :
    Origin fold s t a (signIn dto) := by
  cases dto with
  | ok dto => exact h
  | error error => trivial

theorem origin_done (change : Change) (user : Option User) : Origin fold s t a (change.done user) := by
  unfold Change.done
  split <;> trivial

theorem origin_look {choice : Nat} {call next : Call} (h : look fold s choice call = some next) (hc : call ∈ s.calls) :
    Origin fold s t a next := by
  unfold look at h
  split at h
  · cases h
    split
    · trivial
    · rename_i creation _
      cases creation with
      | admin dto => exact ⟨.admin dto, "", .inl hc, rfl⟩
      | _ => exact hc
  · rename_i dto
    split at h
    · cases h
      exact hc
    · rename_i user users hf
      obtain ⟨w, hw, rfl⟩ := Option.map_eq_some_iff.mp h
      have hmem : w ∈ s.users.filter fun user => user.googleId = some dto.googleId := hf ▸ List.mem_of_getElem? hw
      obtain ⟨hu, hg⟩ := List.mem_filter.mp hmem
      exact ⟨hu, .inl ⟨hc, of_decide_eq_true hg⟩⟩
  · cases h
    split
    · split
      · exact hc
      · trivial
    · exact hc
  · cases h
    split
    · rename_i dto id _ user hf
      obtain ⟨hu, hid⟩ := findById_some hf
      exact ⟨hu, .inr (hid ▸ hc)⟩
    · trivial
  · cases h
    split
    · rename_i hcheck
      exact .inr ⟨hc, fun _ hf => by cases hcheck.symm.trans hf⟩
    · rename_i hcheck
      split
      · rename_i hok
        exact .inr ⟨hc, fun _ hf => by cases hcheck.symm.trans hf; exact hok⟩
      · trivial
  · cases h

theorem origin_write {c : Nat} {answer : Answer} {call : Call} (h : write fold s c answer call = some t)
    (hc : call ∈ s.calls) : ∃ next, t.calls = s.calls.set c next ∧ Origin fold s t a next := by
  unfold write at h
  split at h
  · split at h
    · split at h
      · cases h
        exact ⟨_, rfl, trivial⟩
      · cases h
        exact ⟨_, rfl, Answer.orThrow_of trivial fun _ => trivial⟩
    · cases h
      exact ⟨_, rfl, Answer.orThrow_of trivial fun _ => trivial⟩
  · rename_i dto
    cases h
    cases answer with
    | done => exact ⟨.loading dto _, rfl, hc, rfl⟩
    | failed message => exact ⟨_, rfl, trivial⟩
    | unanswered message => exact ⟨_, rfl, trivial⟩
  · rename_i id change
    cases h
    refine ⟨answer.orThrow (change.done (s.findById id)) .threw, by split <;> rfl, ?_⟩
    exact Answer.orThrow_of (P := Origin fold s _ a) (origin_done ..) fun _ => trivial
  · cases h

theorem step_call {call : Call} (h : step fold s a = some t) (hc : call ∈ t.calls) :
    call ∈ s.calls ∨ Origin fold s t a call := by
  cases a with
  | create creation =>
    cases h
    refine (List.mem_append.mp hc).imp_right fun hc => ?_
    rw [List.mem_singleton.mp hc]
    rfl
  | googleMobileLogin ticket =>
    cases h
    refine (List.mem_append.mp hc).imp_right fun hc => ?_
    rw [List.mem_singleton.mp hc]
    exact origin_signIn rfl
  | googleLogin profile =>
    cases h
    refine (List.mem_append.mp hc).imp_right fun hc => ?_
    rw [List.mem_singleton.mp hc]
    exact origin_signIn rfl
  | change id change =>
    cases h
    refine (List.mem_append.mp hc).imp_right fun hc => ?_
    rw [List.mem_singleton.mp hc]
    split
    · rfl
    · rename_i hcheck
      exact .inl ⟨rfl, Option.not_isSome_iff_eq_none.mp hcheck⟩
  | found c choice error =>
    simp only [step] at h
    split at h
    · rename_i old hold
      obtain ⟨next, hn, rfl⟩ := Option.map_eq_some_iff.mp h
      refine (List.mem_or_eq_of_mem_set hc).imp_right fun he => ?_
      rw [he]
      cases error with
      | some message => trivial
      | none => exact origin_look hn (List.mem_of_getElem? hold)
    · cases h
  | hashed c hash =>
    simp only [step] at h
    split at h
    · rename_i creation hold
      cases h
      refine (List.mem_or_eq_of_mem_set hc).imp_right fun he => ?_
      rw [he]
      cases hash with
      | ok hash => exact ⟨creation, hash, .inr (List.mem_of_getElem? hold), rfl⟩
      | error message => trivial
    · cases h
  | written c answer =>
    simp only [step] at h
    split at h
    · rename_i old hold
      obtain ⟨next, ht, ho⟩ := origin_write h (List.mem_of_getElem? hold)
      rw [ht] at hc
      refine (List.mem_or_eq_of_mem_set hc).imp_right fun he => ?_
      rw [he]
      exact ho
    · cases h

theorem upserted_row {users users' : List User} {n id : Uuid} {dto : GoogleOAuthDto}
    (h : upsertByGoogle fold users n dto = (users', id)) :
    ∃ u ∈ users', u.id = id ∧ u.googleId = some dto.googleId ∧ fold u.email = fold dto.email := by
  obtain ⟨u, hu, he, hup⟩ | ⟨-, hup⟩ := @upsertByGoogle_cases fold users n dto
  · cases hup.symm.trans h
    obtain ⟨-, hl⟩ | ⟨hne, -⟩ := @link_of fold dto u
    · exact ⟨link fold dto u, List.mem_map_of_mem hu, by rw [hl], by rw [hl], by rw [hl]; exact he⟩
    · exact absurd he hne
  · cases hup.symm.trans h
    exact ⟨_, List.mem_append_right _ List.mem_cons_self, rfl, rfl, rfl⟩

/-- The account of this id is gone or has the link of the sign-in. -/
def Owned (s : State) (dto : GoogleOAuthDto) (id : Uuid) : Prop :=
  id < s.accounts ∧ ∀ u ∈ s.users, u.id = id → u.googleId = some dto.googleId

def CallLinked (fold : Email → Email) (mail : String → Email) (s : State) : Call → Prop
  | .inserting payload => payload.googleId = none
  | .findingByGoogleId dto | .findingGoogleEmail dto | .upserting dto => fold dto.email = mail dto.googleId
  | .loading dto id => fold dto.email = mail dto.googleId ∧ Owned s dto id
  | .signedIn dto user => user.googleId = some dto.googleId ∧ fold user.email = fold dto.email ∧
      user.emailVerified = true ∧ Owned s dto user.id
  | _ => True

structure Linked (fold : Email → Email) (mail : String → Email) (s : State) : Prop where
  sound : Sound fold s
  users : ∀ u ∈ s.users, ∀ g, u.googleId = some g → fold u.email = mail g ∧ u.emailVerified = true
  calls : ∀ call ∈ s.calls, CallLinked fold mail s call

theorem linked_init : Linked fold mail init :=
  ⟨sound_init, fun _ hu => absurd hu List.not_mem_nil, fun _ hc => absurd hc List.not_mem_nil⟩

/-- With an email each of their own, no Google account takes the place of another. -/
theorem Edit.link (hm : mail.Injective) (h : Edit fold s a u v) (hl : Linked fold mail s) (hu : u ∈ s.users)
    {g : String} (hg : u.googleId = some g) : v.googleId = some g := by
  cases h with
  | same => exact hg
  | changed _ _ h => rw [googleId_apply h, hg]
  | @linked c answer dto _ hc he =>
    have hdto : fold dto.email = mail dto.googleId := hl.calls _ (List.mem_of_getElem? hc)
    have : mail g = mail dto.googleId := (hl.users u hu g hg).1.symm.trans (he.trans hdto)
    rw [hm this]

theorem linked_users_step (h : step fold s a = some t) (hl : Linked fold mail s) (hv : v ∈ t.users) {g : String}
    (hg : v.googleId = some g) : fold v.email = mail g ∧ v.emailVerified = true := by
  rcases step_row h hv with ⟨u, hu, he⟩ | hn
  · cases he with
    | same => exact hl.users v hu g hg
    | @linked c answer dto _ hc he =>
      cases hg
      exact ⟨he.trans (hl.calls _ (List.mem_of_getElem? hc)), rfl⟩
    | changed _ _ ha =>
      have hk := kept_apply ha
      obtain ⟨he, hver⟩ := hl.users u hu g (googleId_apply ha ▸ hg)
      exact ⟨hk.email ▸ he, hk.emailVerified hver⟩
  · obtain ⟨payload, hc, rfl⟩ | ⟨dto, hc, rfl⟩ := hn.origin
    · have hnone : payload.googleId = none := hl.calls _ hc
      cases hnone.symm.trans hg
    · cases hg
      exact ⟨hl.calls _ hc, rfl⟩

theorem Owned.step {dto : GoogleOAuthDto} {id : Uuid} (hm : mail.Injective) (h : step fold s a = some t)
    (hl : Linked fold mail s) (ho : Owned s dto id) : Owned t dto id := by
  refine ⟨ho.1.trans_le (step_accounts h), ?_⟩
  intro v hv hid
  rcases step_row h hv with ⟨u, hu, he⟩ | hn
  · exact he.link hm hl hu (ho.2 u hu (he.kept.id.symm.trans hid))
  · exact absurd (hid.symm.trans hn.id) ho.1.ne

theorem Owned.of_mem {dto : GoogleOAuthDto} (hs : Sound fold s) (hu : u ∈ s.users)
    (hg : u.googleId = some dto.googleId) : Owned s dto u.id := by
  refine ⟨hs.fresh u hu, ?_⟩
  intro v hv hid
  rw [hs.unique hv hu (.inl hid), hg]

theorem CallLinked.step {call : Call} (hm : mail.Injective) (h : step fold s a = some t) (hl : Linked fold mail s)
    (hc : CallLinked fold mail s call) : CallLinked fold mail t call := by
  cases call with
  | loading dto id => exact ⟨hc.1, hc.2.step hm h hl⟩
  | signedIn dto user => exact ⟨hc.1, hc.2.1, hc.2.2.1, hc.2.2.2.step hm h hl⟩
  | _ => exact hc

theorem linked_step (hm : mail.Injective) (h : step fold s a = some t) (hstable : Stable fold mail s a)
    (hl : Linked fold mail s) : Linked fold mail t := by
  have hs := sound_step h hl.sound
  refine ⟨hs, fun u hu g hg => linked_users_step h hl hu hg, ?_⟩
  intro call hc
  rcases step_call h hc with hc | ho
  · exact (hl.calls call hc).step hm h hl
  · cases call with
    | inserting payload =>
      obtain ⟨creation, hash, -, rfl⟩ := ho
      cases creation <;> rfl
    | findingByGoogleId dto => exact hstable dto ho
    | findingGoogleEmail dto => exact hl.calls _ ho
    | upserting dto => exact hl.calls _ ho
    | loading dto id =>
      obtain ⟨hold, hup⟩ := ho
      obtain ⟨u, hu, rfl, hg, -⟩ := upserted_row hup
      exact ⟨hl.calls _ hold, .of_mem hs hu hg⟩
    | signedIn dto user =>
      obtain ⟨hu, hor⟩ := ho
      have hdto : fold dto.email = mail dto.googleId := hor.elim (fun h => hl.calls _ h.1) (fun h => (hl.calls _ h).1)
      have hg : user.googleId = some dto.googleId := hor.elim (·.2) (fun h => (hl.calls _ h).2.2 user hu rfl)
      obtain ⟨he, hv⟩ := hl.users user hu _ hg
      exact ⟨hg, he.trans hdto.symm, hv, (Owned.of_mem hl.sound hu hg).step hm h hl⟩
    | _ => trivial

theorem Path.linked (hm : mail.Injective) (h : (machine fold).Reach (Stable fold mail) s) : Linked fold mail s :=
  h.inv linked_init fun _ _ _ hl ho hst => linked_step hm hst ho hl

/-- While no two Google accounts share an email and none changes its own: each has one
account here, which it keeps, and a sign-in ends at this account, verified. -/
theorem google_accounts (hm : mail.Injective) (hr : (machine fold).Reach (Stable fold mail) s) :
    (∀ u ∈ s.users, ∀ v ∈ s.users, ∀ g, u.googleId = some g → v.googleId = some g → u = v) ∧
      (∀ u ∈ s.users, ∀ g, u.googleId = some g → fold u.email = mail g ∧
        ∀ t, (machine fold).Path (Stable fold mail) s t → ∀ v ∈ t.users, v.id = u.id → v.googleId = some g) ∧
      ∀ dto user, .signedIn dto user ∈ s.calls → user.googleId = some dto.googleId ∧
        fold user.email = fold dto.email ∧ user.emailVerified = true ∧
        ∀ v ∈ s.users, v.id = user.id → v.googleId = some dto.googleId := by
  have hl := Path.linked hm hr
  refine ⟨?_, ?_, ?_⟩
  · intro u hu v hv g hug hvg
    exact hl.sound.unique hu hv (.inr ((hl.users u hu g hug).1.trans (hl.users v hv g hvg).1.symm))
  · intro u hu g hg
    refine ⟨(hl.users u hu g hg).1, ?_⟩
    intro t hp
    have howned : Linked fold mail t ∧ Owned t ⟨u.email, u.firstName, u.lastName, g⟩ u.id := by
      refine hp.keep (I := fun s => Linked fold mail s ∧ Owned s ⟨u.email, u.firstName, u.lastName, g⟩ u.id) ?_
        ⟨hl, .of_mem hl.sound hu hg⟩
      rintro s a t ⟨hl, ho⟩ hstable hst
      exact ⟨linked_step hm hst hstable hl, ho.step hm hst hl⟩
    exact howned.2.2
  · intro dto user hc
    obtain ⟨hg, he, hv, ho⟩ := hl.calls _ hc
    exact ⟨hg, he, hv, ho.2⟩

def intellMail (googleId : String) : Email := googleId ++ "@intell.africa"

theorem intellMail_injective : intellMail.Injective := by
  intro g h he
  have := congrArg String.toList he
  exact String.toList_inj.mp (by simpa [intellMail] using this)

theorem google_accounts_ada : ∃ s user, (machine id).run init (linking 0) = some s ∧
    .signedIn ⟨"ada@intell.africa", "Ada", "Obi", "ada"⟩ user ∈ s.calls ∧ user.emailVerified = true := by
  obtain ⟨s, hs, hp, user, hc⟩ : ∃ s, (machine id).run init (linking 0) = some s ∧
      ((machine id).only (Stable id intellMail)).run init (linking 0) = some s ∧
      ∃ user, .signedIn ⟨"ada@intell.africa", "Ada", "Obi", "ada"⟩ user ∈ s.calls :=
    ⟨_, rfl, by decide, _, List.mem_cons_self⟩
  have hr : (machine id).Reach (Stable id intellMail) s := Machine.path_of_run_only hp
  exact ⟨s, user, hs, hc, ((google_accounts intellMail_injective hr).2.2 _ _ hc).2.2.1⟩

end IntellApi.Accounts
