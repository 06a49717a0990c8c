import IntellApi.Calls
import IntellApi.Installers

/-!
# Suspended installers have no assignments

Whoever suspends a profile or assigns it holds the lock of its row. A
suspension has therefore nobody to race with but single revocations, and when
it writes the status every assignment of the profile that is still active has
its revocation written (`Swept`); an assignment is inserted while the row says
active and nobody can change that (`Assignable`).
-/

namespace IntellApi.Installers

open RowLocks Lts

/-! ## What a request relies on -/

def Consistent (a : InverterAssignment) : Prop := a.status = .revoked ↔ a.revokedAt ≠ none

/-- `r` has locked the profile row and not written it. -/
def Claimed (s : State) (r id : Nat) : Prop := (s.profiles.row id).lock = some (r, none)

def Assignable (s : State) (r id : Nat) : Prop :=
  Claimed s r id ∧ ∃ p, (s.profiles.row id).committed = some p ∧ p.status = .active

/-- The active assignments of the profile are still to do, or `r` has written their revocation. -/
def Swept (s : State) (r id : Nat) (todo : List Nat) : Prop :=
  ∀ i a, (s.assignments.row i).committed = some a → a.isActiveOf id = true →
    i ∈ todo ∨ ∃ v, (s.assignments.row i).lock = some (r, some v) ∧ v.status = .revoked

def Vacant (s : State) (inverterId : Uuid) (id : Nat) : Prop :=
  ∀ i a, (s.assignments.row i).committed = some a → a.isActiveOn inverterId id = false

def Bare (s : State) (r : Nat) : Prop := ∀ i, (s.assignments.row i).holder ≠ some r

def Idle (s : State) (r : Nat) : Prop := Bare s r ∧ ∀ id, (s.profiles.row id).holder ≠ some r

def OnlyRevokes (s : State) (r : Nat) : Prop :=
  ∀ i v, (s.assignments.row i).lock = some (r, some v) → v.status = .revoked

def Holds (s : State) (r : Nat) : Request → Prop
  | .lockingToSuspend _ | .lockingToAssign _ _ => Idle s r
  | .revokingAll id => Claimed s r id ∧ Bare s r
  | .revokingRows id _ todo => Claimed s r id ∧ OnlyRevokes s r ∧ Swept s r id todo
  | .settingSuspended id => Claimed s r id ∧ OnlyRevokes s r ∧ Swept s r id []
  | .findingProfile _ status | .settingStatus _ status => status ≠ .suspended ∧ Bare s r
  | .findingExisting dto _ => Assignable s r dto.installerProfileId ∧ Bare s r
  | .savingAssignment dto _ =>
    Assignable s r dto.installerProfileId ∧ Bare s r ∧ Vacant s dto.inverterId dto.installerProfileId
  | _ => True

/-- The row `i` that `r` has inserted may become the one active row of its key. -/
structure Insertable (s : State) (r i : Nat) (v : InverterAssignment) : Prop where
  assignable : Assignable s r v.installerProfileId
  vacant : Vacant s v.inverterId v.installerProfileId
  only : ∀ j w, (s.assignments.row j).lock = some (r, some w) → w.status = .active → j = i

/-- A suspended profile has no active assignment. -/
def Closed (s : State) : Prop :=
  ∀ id p, (s.profiles.row id).committed = some p → p.status = .suspended →
    ∀ i a, (s.assignments.row i).committed = some a → a.isActiveOf id = false

def Single (s : State) : Prop :=
  ∀ i j a b, (s.assignments.row i).committed = some a → (s.assignments.row j).committed = some b →
    a.isActiveOn b.inverterId b.installerProfileId = true → b.status = .active → i = j

/-- What holds of the versions `r` has written. -/
structure Written (s : State) (r : Nat) : Prop where
  consistent : ∀ i v, (s.assignments.row i).lock = some (r, some v) → Consistent v
  inserted : ∀ i v, (s.assignments.row i).lock = some (r, some v) → v.status = .active → Insertable s r i v
  suspended : ∀ id p, (s.profiles.row id).lock = some (r, some p) → p.status = .suspended → Swept s r id []

structure Inv (s : State) : Prop where
  bound : ∀ r, s.requests.length ≤ r → Idle s r
  holds : ∀ r q, s.requests[r]? = some q → Holds s r q
  written : ∀ r, Written s r
  consistent : ∀ i a, (s.assignments.row i).committed = some a → Consistent a
  closed : Closed s
  single : Single s

section
variable {s s' : State} {r r₀ id i : Nat} {q : Request} {todo : List Nat}

theorem isActiveOf_iff {a : InverterAssignment} :
    a.isActiveOf id = true ↔ a.installerProfileId = id ∧ a.status = .active := by
  simp [InverterAssignment.isActiveOf]

theorem isActiveOn_iff {a : InverterAssignment} {inverterId : Uuid} :
    a.isActiveOn inverterId id = true ↔ a.inverterId = inverterId ∧ a.installerProfileId = id ∧ a.status = .active := by
  simp [InverterAssignment.isActiveOn, isActiveOf_iff]

/-! ## Steps of the others -/

section
variable (hp : Frame r₀ s.profiles s'.profiles) (ha : Step r₀ s.assignments s'.assignments) (hne : r ≠ r₀)

include hp hne in
theorem Claimed.other (h : Claimed s r id) : Claimed s' r id := by
  rw [Claimed, hp.others id r hne (Row.holder_of_lock h)]
  exact h

include hp hne in
theorem Assignable.other (h : Assignable s r id) : Assignable s' r id := by
  refine ⟨h.1.other hp hne, ?_⟩
  rw [hp.others id r hne (Row.holder_of_lock h.1)]
  exact h.2

include ha hne in
theorem Bare.other (h : Bare s r) : Bare s' r := fun i hi => (ha.holder i r hi).elim hne (h i)

include hp ha hne in
theorem Idle.other (h : Idle s r) : Idle s' r :=
  ⟨h.1.other ha hne, fun id hid => (hp.holder id r hid).elim hne (h.2 id)⟩

include ha hne in
/-- A row others hold afterwards is one they held before, as it was. -/
theorem row_other {d : Option InverterAssignment} (h : (s'.assignments.row i).lock = some (r, d)) :
    s'.assignments.row i = s.assignments.row i :=
  ha.others i r hne ((ha.holder i r (Row.holder_of_lock h)).resolve_left hne)

include ha in
/-- An active assignment that is newly committed is of a profile `r₀` has claimed. -/
theorem newly_active (hw : Written s r₀) {a : InverterAssignment} (h : (s'.assignments.row i).committed = some a)
    (hact : a.status = .active) :
    (s.assignments.row i).committed = some a ∨
      (s.assignments.row i).lock = some (r₀, some a) ∧ Insertable s r₀ i a :=
  (ha.committed i a h).imp_right fun hl => ⟨hl, hw.inserted i a hl hact⟩

include ha hne in
theorem Vacant.other (hw : Written s r₀) (hc : (s.profiles.row id).holder = some r) {inverterId : Uuid}
    (h : Vacant s inverterId id) : Vacant s' inverterId id := by
  intro i a hi
  by_contra hact
  rw [Bool.not_eq_false] at hact
  have hk := isActiveOn_iff.mp hact
  rcases newly_active ha hw hi hk.2.2 with hi | ⟨-, hins⟩
  · rw [h i a hi] at hact
    cases hact
  · have hr := Row.holder_of_lock hins.assignable.1
    rw [hk.2.1, hc, Option.some.injEq] at hr
    exact hne hr

include ha hne in
theorem Swept.other (hw : Written s r₀) (hc : (s.profiles.row id).holder = some r) (h : Swept s r id todo) :
    Swept s' r id todo := by
  intro i a hi hact
  have hk := isActiveOf_iff.mp hact
  rcases newly_active ha hw hi hk.2 with hi | ⟨-, hins⟩
  · refine (h i a hi hact).imp_right fun ⟨v, hv, hst⟩ => ⟨v, ?_, hst⟩
    rw [ha.others i r hne (Row.holder_of_lock hv)]
    exact hv
  · have hr := Row.holder_of_lock hins.assignable.1
    rw [hk.1, hc, Option.some.injEq] at hr
    exact absurd hr hne

include ha hne in
theorem OnlyRevokes.other (h : OnlyRevokes s r) : OnlyRevokes s' r := by
  intro i v hv
  rw [row_other ha hne hv] at hv
  exact h i v hv

include hp ha hne in
theorem Holds.other (hw : Written s r₀) (h : Holds s r q) : Holds s' r q := by
  cases q with
  | lockingToSuspend | lockingToAssign => exact Idle.other hp ha hne h
  | revokingAll => exact ⟨h.1.other hp hne, h.2.other ha hne⟩
  | revokingRows =>
    exact ⟨h.1.other hp hne, h.2.1.other ha hne, h.2.2.other ha hne hw (Row.holder_of_lock h.1)⟩
  | settingSuspended =>
    exact ⟨h.1.other hp hne, h.2.1.other ha hne, h.2.2.other ha hne hw (Row.holder_of_lock h.1)⟩
  | findingProfile | settingStatus => exact ⟨h.1, h.2.other ha hne⟩
  | findingExisting => exact ⟨h.1.other hp hne, h.2.other ha hne⟩
  | savingAssignment =>
    exact ⟨h.1.other hp hne, h.2.1.other ha hne, h.2.2.other ha hne hw (Row.holder_of_lock h.1.1)⟩
  | gettingAssignment | revokingAssignment | committing | rollingBack | done | failed => trivial

include hp ha hne in
theorem Written.other (hw₀ : Written s r₀) (hw : Written s r) : Written s' r where
  consistent i v hv := by
    rw [row_other ha hne hv] at hv
    exact hw.consistent i v hv
  inserted i v hv hact := by
    rw [row_other ha hne hv] at hv
    have h := hw.inserted i v hv hact
    refine ⟨h.assignable.other hp hne, h.vacant.other ha hne hw₀ (Row.holder_of_lock h.assignable.1), fun j w hj => ?_⟩
    rw [row_other ha hne hj] at hj
    exact h.only j w hj
  suspended id p hl hs := by
    have hid := (hp.holder id r (Row.holder_of_lock hl)).resolve_left hne
    rw [hp.others id r hne hid] at hl
    exact (hw.suspended id p hl hs).other ha hne hw₀ hid

end

/-! ## A step of one request -/

theorem Inv.advance (hi : Inv s) (hp : Step r s.profiles s'.profiles) (ha : Step r s.assignments s'.assignments)
    (hlt : r < s.requests.length) (hq : s'.requests = s.requests.set r q) (hown : Holds s' r q)
    (hw : Written s' r) (hcl : Closed s') (hsi : Single s') : Inv s' where
  bound r' hr' := by
    rw [hq, List.length_set] at hr'
    exact (hi.bound r' hr').other hp.toFrame ha (by omega)
  holds r' q' hr' := by
    rw [hq] at hr'
    rcases Calls.set_cases hr' with ⟨rfl, rfl⟩ | ⟨hne, hr'⟩
    · exact hown
    · exact (hi.holds r' q' hr').other hp.toFrame ha hne (hi.written r)
  written r' := by
    by_cases hne : r' = r
    · exact hne ▸ hw
    · exact Written.other hp.toFrame ha hne (hi.written r) (hi.written r')
  consistent i a h := (ha.committed i a h).elim (hi.consistent i a) ((hi.written r).consistent i a)
  closed := hcl
  single := hsi

theorem Closed.mono (h : Closed s)
    (hp : ∀ id p, (s'.profiles.row id).committed = some p → (s.profiles.row id).committed = some p)
    (ha : ∀ i a, (s'.assignments.row i).committed = some a → (s.assignments.row i).committed = some a) : Closed s' :=
  fun id p hid hs i a hi => h id p (hp id p hid) hs i a (ha i a hi)

theorem Single.mono (h : Single s)
    (ha : ∀ i a, (s'.assignments.row i).committed = some a → (s.assignments.row i).committed = some a) : Single s' :=
  fun i j a b hi hj => h i j a b (ha i a hi) (ha j b hj)

theorem Inv.advance_quiet (hi : Inv s) (hp : Step r s.profiles s'.profiles)
    (ha : Step r s.assignments s'.assignments)
    (hpc : ∀ id p, (s'.profiles.row id).committed = some p → (s.profiles.row id).committed = some p)
    (hac : ∀ i a, (s'.assignments.row i).committed = some a → (s.assignments.row i).committed = some a)
    (hlt : r < s.requests.length) (hq : s'.requests = s.requests.set r q) (hown : Holds s' r q)
    (hw : Written s' r) : Inv s' :=
  hi.advance hp ha hlt hq hown hw (hi.closed.mono hpc hac) (hi.single.mono hac)

theorem Inv.goOn (hi : Inv s) (hlt : r < s.requests.length) (hown : Holds (s.goOn r q) r q) : Inv (s.goOn r q) := by
  refine hi.advance_quiet (Step.refl r _) (Step.refl r _) (fun _ _ h => h) (fun _ _ h => h) hlt rfl hown ?_
  have hw := hi.written r
  exact ⟨hw.consistent, fun i v hv hact => ⟨(hw.inserted i v hv hact).assignable, (hw.inserted i v hv hact).vacant,
    (hw.inserted i v hv hact).only⟩, hw.suspended⟩

theorem row_lt_of_seen {τ ρ : Type} [DecidableEq τ] {T : Table τ ρ} {t : τ} {v : ρ} (h : (T.row i).seen t = some v) :
    i < T.rows.length := by
  refine Table.row_lt fun he => ?_
  rw [he] at h
  cases h

theorem row_lockProfile (hidle : Idle s r) (hf : (s.profiles.row id).free r = true)
    (hid : id < s.profiles.rows.length) (j : Nat) : (s.lockProfile r id).profiles.row j =
      if j = id then ⟨(s.profiles.row id).committed, some (r, none)⟩ else s.profiles.row j := by
  have hl : (s.profiles.row id).lock = none := by
    cases hl : (s.profiles.row id).lock with
    | none => rfl
    | some l =>
      have hh : (s.profiles.row id).holder = some l.1 := Row.holder_of_lock hl
      rw [Row.holder_of_free hf hh] at hh
      exact absurd hh (hidle.2 id)
  have ha : (s.profiles.row id).acquire r = ⟨(s.profiles.row id).committed, some (r, none)⟩ := by
    rw [Row.acquire, hl]
  rw [State.lockProfile, Table.row_put hid, ha]

theorem Inv.lockProfile (hi : Inv s) (hlt : r < s.requests.length) (hidle : Idle s r)
    (hf : (s.profiles.row id).free r = true) (hid : id < s.profiles.rows.length)
    (hown : Holds ((s.lockProfile r id).goOn r q) r q) : Inv ((s.lockProfile r id).goOn r q) := by
  have hrow := row_lockProfile hidle hf hid
  have hself := hrow id
  rw [if_pos rfl, State.lockProfile, Table.row_put hid, if_pos rfl] at hself
  refine hi.advance_quiet (Step.put hf hid (by rw [hself]) (by rw [hself]; rfl)) (Step.refl r _) ?_
    (fun _ _ h => h) hlt rfl hown ?_
  · intro j p hj
    have hj : ((s.lockProfile r id).profiles.row j).committed = some p := hj
    rw [hrow] at hj
    split at hj
    · rename_i he
      exact he ▸ hj
    · exact hj
  · refine ⟨(hi.written r).consistent, fun i v hv => ?_, fun j p hl => ?_⟩
    · exact absurd (Row.holder_of_lock hv) (hidle.1 i)
    · have hl : ((s.lockProfile r id).profiles.row j).lock = some (r, some p) := hl
      rw [hrow] at hl
      split at hl
      · cases hl
      · exact absurd (Row.holder_of_lock hl) (hidle.2 j)

theorem Inv.writeProfile (hi : Inv s) (hlt : r < s.requests.length) (hf : (s.profiles.row id).free r = true)
    (hid : id < s.profiles.rows.length) (hr : OnlyRevokes s r) {p : InstallerProfile}
    (hp : p.status = .suspended → Swept s r id []) : Inv ((s.writeProfile r id p).goOn r .committing) := by
  have hrow : ∀ j, (s.writeProfile r id p).profiles.row j =
      if j = id then (s.profiles.row id).write r p else s.profiles.row j := Table.row_put hid
  refine hi.advance_quiet (Step.put hf hid rfl rfl) (Step.refl r _) ?_ (fun _ _ h => h) hlt rfl trivial ?_
  · intro j p' hj
    have hj : ((s.writeProfile r id p).profiles.row j).committed = some p' := hj
    rw [hrow] at hj
    split at hj
    · rename_i he
      exact he ▸ hj
    · exact hj
  · refine ⟨(hi.written r).consistent, fun i v hv hact => ?_, fun j p' hl hs => ?_⟩
    · rw [hr i v hv] at hact
      cases hact
    · have hl : ((s.writeProfile r id p).profiles.row j).lock = some (r, some p') := hl
      rw [hrow] at hl
      split at hl
      · rename_i he
        cases hl
        exact he ▸ hp hs
      · exact (hi.written r).suspended j p' hl hs

/-! ## Writes to an assignment -/

section
variable {v : InverterAssignment} (hlen : i < s.assignments.rows.length)

include hlen in
theorem row_writeAssignment (j : Nat) : (s.writeAssignment r i v).assignments.row j =
    if j = i then (s.assignments.row i).write r v else s.assignments.row j := Table.row_put hlen j

include hlen in
theorem committed_writeAssignment (j : Nat) :
    ((s.writeAssignment r i v).assignments.row j).committed = (s.assignments.row j).committed := by
  rw [row_writeAssignment hlen]
  split
  · rename_i he
    rw [he]
    rfl
  · rfl

include hlen in
theorem Swept.write (hv : v.status = .revoked) (h : Swept s r id (i :: todo)) :
    Swept (s.writeAssignment r i v) r id todo := by
  intro j a hj hact
  rw [committed_writeAssignment hlen] at hj
  rw [row_writeAssignment hlen]
  by_cases hji : j = i
  · rw [if_pos hji]
    exact .inr ⟨v, rfl, hv⟩
  · rw [if_neg hji]
    exact (h j a hj hact).imp_left fun hm => (List.mem_cons.mp hm).resolve_left hji

theorem Swept.cons (h : Swept s r id todo) : Swept s r id (i :: todo) :=
  fun j a hj hact => (h j a hj hact).imp_left (List.mem_cons_of_mem i)

include hlen in
theorem OnlyRevokes.write (hv : v.status = .revoked) (h : OnlyRevokes s r) :
    OnlyRevokes (s.writeAssignment r i v) r := by
  intro j w hj
  rw [row_writeAssignment hlen] at hj
  split at hj
  · cases hj
    exact hv
  · exact h j w hj

include hlen in
theorem Inv.writeAssignment (hi : Inv s) (hlt : r < s.requests.length) (hf : (s.assignments.row i).free r = true)
    (hv : v.status = .revoked) (hc : Consistent v) (hown : Holds ((s.writeAssignment r i v).goOn r q) r q) :
    Inv ((s.writeAssignment r i v).goOn r q) := by
  have hrow := row_writeAssignment (r := r) (v := v) hlen
  have hcm := committed_writeAssignment (r := r) (v := v) hlen
  have hw := hi.written r
  refine hi.advance_quiet (Step.refl r _) (Step.put hf hlen rfl rfl) (fun _ _ h => h)
    (fun j a hj => (hcm j).symm.trans hj) hlt rfl hown ⟨fun j w hj => ?_, fun j w hj hact => ?_, fun id p hl hs => ?_⟩
  · have hj : ((s.writeAssignment r i v).assignments.row j).lock = some (r, some w) := hj
    rw [hrow] at hj
    split at hj
    · cases hj
      exact hc
    · exact hw.consistent j w hj
  · have old : ∀ k x, ((s.writeAssignment r i v).assignments.row k).lock = some (r, some x) → x.status = .active →
        (s.assignments.row k).lock = some (r, some x) := by
      intro k x hk hx
      rw [hrow] at hk
      split at hk
      · cases hk
        rw [hv] at hx
        cases hx
      · exact hk
    have h := hw.inserted j w (old j w hj hact) hact
    exact ⟨h.assignable, fun k a hk => h.vacant k a ((hcm k).symm.trans hk), fun k x hk hx => h.only k x (old k x hk hx) hx⟩
  · exact (hw.suspended id p hl hs).cons.write hlen hv

end

theorem Inv.insertAssignment (hi : Inv s) (hlt : r < s.requests.length) (hb : Bare s r) {v : InverterAssignment}
    (hc : Consistent v) (hasg : Assignable s r v.installerProfileId)
    (hvac : Vacant s v.inverterId v.installerProfileId) : Inv ((s.insertAssignment r v).goOn r .committing) := by
  have hrow : ∀ j, (s.insertAssignment r v).assignments.row j =
      if j = s.assignments.rows.length then ⟨none, some (r, some v)⟩ else s.assignments.row j :=
    Table.row_snoc s.assignments.rows
  have own : ∀ j d, ((s.insertAssignment r v).assignments.row j).lock = some (r, d) →
      j = s.assignments.rows.length ∧ d = some v := by
    intro j d hj
    rw [hrow] at hj
    split at hj
    · rename_i he
      cases hj
      exact ⟨he, rfl⟩
    · exact absurd (Row.holder_of_lock hj) (hb j)
  have com : ∀ j a, ((s.insertAssignment r v).assignments.row j).committed = some a →
      (s.assignments.row j).committed = some a := by
    intro j a hj
    rw [hrow] at hj
    split at hj
    · cases hj
    · exact hj
  refine hi.advance_quiet (Step.refl r _) Step.insert (fun _ _ h => h) com hlt rfl trivial
    ⟨fun j w hj => ?_, fun j w hj _ => ?_, fun id p hl hs => ?_⟩
  · cases (own j _ hj).2
    exact hc
  · obtain ⟨rfl, hw⟩ := own j _ hj
    cases hw
    exact ⟨hasg, fun k a hk => hvac k a (com k a hk), fun k x hk _ => (own k _ hk).1⟩
  · intro j a hj hact
    refine ((hi.written r).suspended id p hl hs j a (com j a hj) hact).imp_right fun ⟨w, hw, hst⟩ => ?_
    exact absurd (Row.holder_of_lock hw) (hb j)

/-! ## Ends of transactions -/

theorem Idle.commit (s : State) (r : Nat) : Idle (s.commit r) r := by
  refine ⟨fun i hi => ?_, fun id hid => ?_⟩
  · rw [State.commit, Table.row_commit] at hi
    exact Row.commit_holder _ r hi
  · rw [State.commit, Table.row_commit] at hid
    exact Row.commit_holder _ r hid

theorem Idle.rollback (s : State) (r : Nat) : Idle (s.rollback r) r := by
  refine ⟨fun i hi => ?_, fun id hid => ?_⟩
  · rw [State.rollback, Table.row_rollback] at hi
    exact Row.rollback_holder _ r hi
  · rw [State.rollback, Table.row_rollback] at hid
    exact Row.rollback_holder _ r hid

theorem Idle.written (h : Idle s r) : Written s r where
  consistent i _ hv := absurd (Row.holder_of_lock hv) (h.1 i)
  inserted i _ hv := absurd (Row.holder_of_lock hv) (h.1 i)
  suspended id _ hl := absurd (Row.holder_of_lock hl) (h.2 id)

theorem closed_commit (hi : Inv s) : Closed (s.commit r) := by
  have hp : Step r s.profiles (s.profiles.commit r) := Step.commit
  have ha : Step r s.assignments (s.assignments.commit r) := Step.commit
  have hw := hi.written r
  intro id p hid hs i a hia
  by_contra hact
  rw [Bool.not_eq_false] at hact
  obtain ⟨rfl, hst⟩ := isActiveOf_iff.mp hact
  -- the status was there, or `r` writes it; the assignment was there, or `r` inserts it
  rcases hp.committed _ p hid with hold | hnew <;> rcases newly_active ha hw hia hst with holda | ⟨-, hins⟩
  · rw [hi.closed _ p hold hs i a holda] at hact
    cases hact
  · obtain ⟨p', hp', hst'⟩ := hins.assignable.2
    rw [hold, Option.some.injEq] at hp'
    rw [← hp', hs] at hst'
    cases hst'
  · rcases hw.suspended _ p hnew hs i a holda hact with hm | ⟨v, hv, hrv⟩
    · cases hm
    · have hrow : ((s.assignments.commit r).row i).committed = some v := by
        rw [Table.row_commit, Row.commit_held (Row.holder_of_lock hv), hv]
        rfl
      rw [State.commit, hrow, Option.some.injEq] at hia
      rw [← hia, hrv] at hst
      cases hst
  · have hc := hins.assignable.1
    rw [Claimed, hnew] at hc
    cases hc

theorem single_commit (hi : Inv s) : Single (s.commit r) := by
  have ha : Step r s.assignments (s.assignments.commit r) := Step.commit
  have hw := hi.written r
  intro i j a b hia hjb hab hb
  obtain ⟨he, hid, hact⟩ := isActiveOn_iff.mp hab
  rcases newly_active ha hw hia hact with hold | ⟨hl, hins⟩ <;>
    rcases newly_active ha hw hjb hb with holdb | ⟨hlb, hinsb⟩
  · exact hi.single i j a b hold holdb hab hb
  · rw [hinsb.vacant i a hold] at hab
    cases hab
  · have hba := hins.vacant j b holdb
    rw [isActiveOn_iff.mpr ⟨he.symm, hid.symm, hb⟩] at hba
    cases hba
  · exact hinsb.only i a hl hact

theorem Idle.goOn (h : Idle s r) : Written (s.goOn r q) r := Idle.written (s := s.goOn r q) h

theorem Inv.commit (hi : Inv s) (hlt : r < s.requests.length) : Inv ((s.commit r).goOn r .done) :=
  hi.advance Step.commit Step.commit hlt rfl trivial (Idle.commit s r).goOn (closed_commit hi) (single_commit hi)

theorem Inv.rollback (hi : Inv s) (hlt : r < s.requests.length) : Inv ((s.rollback r).goOn r .failed) := by
  refine hi.advance_quiet Step.rollback Step.rollback (fun id p hid => ?_) (fun i a hia => ?_) hlt rfl trivial
    (Idle.rollback s r).goOn
  · rw [State.goOn, State.rollback, Table.row_rollback, Row.rollback_committed] at hid
    exact hid
  · rw [State.goOn, State.rollback, Table.row_rollback, Row.rollback_committed] at hia
    exact hia

/-! ## Every step -/

theorem Inv.updateProfile (hi : Inv s) (hlt : r < s.requests.length) (hr : OnlyRevokes s r) {status : InstallerStatus}
    (hp : status = .suspended → Swept s r id []) (h : s.updateProfile r id status = some s') : Inv s' := by
  unfold State.updateProfile at h
  split at h
  · rename_i hf
    split at h <;> cases h
    · rename_i p hseen
      exact hi.writeProfile hlt hf (row_lt_of_seen hseen) hr hp
    · exact hi.goOn hlt trivial
  · cases h

theorem Bare.onlyRevokes (h : Bare s r) : OnlyRevokes s r := fun i _ hv => absurd (Row.holder_of_lock hv) (h i)

theorem consistent_revoke (now : Int) (a : InverterAssignment) : Consistent (revoke now a) :=
  ⟨fun _ => nofun, fun _ => rfl⟩

theorem consistent_new (dto : CreateAssignmentDto) (userId : Uuid) (now : Int) :
    Consistent (newAssignment dto userId now) := ⟨nofun, fun h => absurd rfl h⟩

/-- The bulk revocation finds all active assignments, unless somebody else holds the lock of the profile. -/
theorem swept_select (hb : Bare s r) : Swept s r id (s.assignments.select r (·.isActiveOf id)) := by
  intro i a hi hact
  refine .inl (Table.mem_select.mpr ⟨a, ?_, hact⟩)
  rw [Row.seen_committed (hb i)]
  exact hi

theorem vacant_select (hb : Bare s r) {inverterId : Uuid}
    (h : s.assignments.select r (·.isActiveOn inverterId id) = []) : Vacant s inverterId id := by
  intro i a hi
  by_contra hact
  rw [Bool.not_eq_false] at hact
  have hm : i ∈ s.assignments.select r (·.isActiveOn inverterId id) :=
    Table.mem_select.mpr ⟨a, by rw [Row.seen_committed (hb i)]; exact hi, hact⟩
  rw [h] at hm
  cases hm

theorem Swept.skip (h : Swept s r id (i :: todo)) (hr : OnlyRevokes s r) (hf : (s.assignments.row i).free r = true)
    (hn : ∀ a, (s.assignments.row i).seen r = some a → a.isActiveOf id = false) : Swept s r id todo := by
  intro j a hj hact
  rcases h j a hj hact with hm | hv
  · rcases List.mem_cons.mp hm with rfl | hm
    · -- an active row that is seen otherwise has been revoked by `r` itself
      cases hl : (s.assignments.row j).lock with
      | none =>
        rw [hn a (by rw [Row.seen, hl]; exact hj)] at hact
        cases hact
      | some l =>
        obtain ⟨u, d⟩ := l
        obtain rfl := Row.holder_of_free hf (Row.holder_of_lock hl)
        cases d with
        | none =>
          rw [hn a (by rw [Row.seen, hl]; exact hj)] at hact
          cases hact
        | some v => exact .inr ⟨v, rfl, hr j v hl⟩
    · exact .inl hm
  · exact .inr hv

theorem checkAssignable_ok {profile : Option InstallerProfile} {p : InstallerProfile}
    (h : checkAssignable profile = .ok p) : profile = some p ∧ p.status = .active := by
  unfold checkAssignable at h
  split at h
  · cases h
  · split at h
    · cases h
    · rename_i hst
      cases h
      exact ⟨rfl, Decidable.not_not.mp hst⟩

theorem inv_request {inverters : Uuid → Option Inverter} (hi : Inv s) (hr : s.requests[r]? = some q)
    (h : requestStep inverters s r q = some s') : Inv s' := by
  have hlt : r < s.requests.length := (List.getElem?_eq_some_iff.mp hr).1
  have hh := hi.holds r q hr
  cases q with
  | lockingToSuspend id =>
    simp only [requestStep] at h
    split at h
    · rename_i hf
      split at h <;> cases h
      · rename_i p hseen
        have hid := row_lt_of_seen hseen
        refine hi.lockProfile hlt hh hf hid ⟨?_, hh.1⟩
        exact congrArg Row.lock ((row_lockProfile hh hf hid id).trans (if_pos rfl))
      · exact hi.goOn hlt trivial
    · cases h
  | revokingAll id =>
    cases h
    exact hi.goOn hlt ⟨hh.1, hh.2.onlyRevokes, swept_select hh.2⟩
  | revokingRows id now todo =>
    cases todo with
    | nil =>
      cases h
      exact hi.goOn hlt hh
    | cons i todo =>
      simp only [requestStep] at h
      split at h
      · rename_i hf
        split at h
        · rename_i a hseen
          split at h <;> cases h
          · have hlen := row_lt_of_seen hseen
            exact hi.writeAssignment hlen hlt hf rfl (consistent_revoke now a)
              ⟨hh.1, hh.2.1.write hlen rfl, hh.2.2.write hlen rfl⟩
          · rename_i hact
            refine hi.goOn hlt ⟨hh.1, hh.2.1, hh.2.2.skip hh.2.1 hf fun a' ha' => ?_⟩
            rw [hseen, Option.some.injEq] at ha'
            exact ha' ▸ Bool.not_eq_true _ ▸ hact
        · rename_i hseen
          cases h
          refine hi.goOn hlt ⟨hh.1, hh.2.1, hh.2.2.skip hh.2.1 hf fun a' ha' => ?_⟩
          rw [hseen] at ha'
          cases ha'
      · cases h
  | settingSuspended id => exact hi.updateProfile hlt hh.2.1 (fun _ => hh.2.2) h
  | findingProfile id status =>
    cases h
    apply hi.goOn hlt
    split
    · exact hh
    · trivial
  | settingStatus id status => exact hi.updateProfile hlt hh.2.onlyRevokes (fun he => absurd he hh.1) h
  | lockingToAssign dto userId =>
    simp only [requestStep] at h
    split at h
    · rename_i hf
      split at h <;> cases h
      · rename_i p hchk
        obtain ⟨hseen, hst⟩ := checkAssignable_ok hchk
        have hid := row_lt_of_seen hseen
        have hrow := (row_lockProfile hh hf hid dto.installerProfileId).trans (if_pos rfl)
        refine hi.lockProfile hlt hh hf hid ⟨⟨congrArg Row.lock hrow, p, (congrArg Row.committed hrow).trans ?_, hst⟩, hh.1⟩
        rw [← Row.seen_committed (hh.2 dto.installerProfileId)]
        exact hseen
      · exact hi.goOn hlt trivial
    · cases h
  | findingExisting dto userId =>
    cases h
    apply hi.goOn hlt
    split
    · rename_i hnone
      exact ⟨hh.1, hh.2, vacant_select hh.2 hnone⟩
    · trivial
  | savingAssignment dto userId =>
    cases h
    exact hi.insertAssignment hlt hh.2.1 (consistent_new dto userId s.clock) hh.1 hh.2.2
  | gettingAssignment id userId expected =>
    simp only [requestStep] at h
    split at h <;> cases h
    · exact hi.goOn hlt trivial
    · exact hi.goOn hlt trivial
  | revokingAssignment id =>
    simp only [requestStep] at h
    split at h
    · rename_i hf
      split at h <;> cases h
      · rename_i a hseen
        exact hi.writeAssignment (row_lt_of_seen hseen) hlt hf rfl (consistent_revoke s.clock a) trivial
      · exact hi.goOn hlt trivial
    · cases h
  | committing => cases h; exact hi.commit hlt
  | rollingBack => cases h; exact hi.rollback hlt
  | done | failed => cases h

/-- What no request does: new profiles, new requests and the clock. -/
theorem Inv.outside (hi : Inv s) (hp : ∀ r, Frame r s.profiles s'.profiles) (ha : s'.assignments = s.assignments)
    (hlen : s.requests.length ≤ s'.requests.length)
    (hq : ∀ r q, s'.requests[r]? = some q → s.requests[r]? = some q ∨ Holds s' r q)
    (hcl : Closed s') : Inv s' where
  bound r hr := (hi.bound r (by omega)).other (hp (r + 1)) (ha ▸ Step.refl _ _) (by omega)
  holds r q hr := by
    rcases hq r q hr with hold | hnew
    · exact (hi.holds r q hold).other (hp (r + 1)) (ha ▸ Step.refl _ _) (by omega) (hi.written _)
    · exact hnew
  written r := Written.other (hp (r + 1)) (ha ▸ Step.refl _ _) (by omega) (hi.written _) (hi.written r)
  consistent := ha ▸ hi.consistent
  closed := hcl
  single := hi.single.mono fun i a h => ha ▸ h

theorem Inv.tick (hi : Inv s) (ms : Nat) : Inv { s with clock := s.clock + ms } :=
  hi.outside (fun r => (Step.refl r _).toFrame) rfl (Nat.le_refl _) (fun _ _ => .inl) hi.closed

theorem Inv.ask (hi : Inv s) (hq : Idle s s.requests.length → Holds s s.requests.length q) : Inv (s.ask q) := by
  refine hi.outside (fun r => (Step.refl r _).toFrame) rfl ?_ (fun r q' hr => ?_) hi.closed
  · rw [State.ask, List.length_append]
    exact Nat.le_add_right _ _
  · rcases Calls.snoc_cases hr with hr | ⟨rfl, rfl⟩
    · exact .inl hr
    · have hh : Holds s s.requests.length q' := hq (hi.bound _ (Nat.le_refl _))
      have hp : Step (s.requests.length + 1) s.profiles (s.ask q').profiles := Step.refl _ _
      exact .inr (hh.other hp.toFrame (Step.refl _ _) (by omega) (hi.written _))

theorem Inv.createProfile (hi : Inv s) (userId : Uuid) :
    Inv { s with profiles := s.profiles.add ⟨userId, .pending⟩ } := by
  refine hi.outside (fun r => Frame.add) rfl (Nat.le_refl _) (fun _ _ => .inl) fun id p hid hs => ?_
  have hid : ((s.profiles.add ⟨userId, .pending⟩).row id).committed = some p := hid
  rw [Table.add, Table.row_snoc] at hid
  split at hid
  · cases hid
    cases hs
  · exact hi.closed id p hid hs

theorem inv_step {inverters : Uuid → Option Inverter} {a : Action} (hi : Inv s)
    (h : step inverters s a = some s') : Inv s' := by
  cases a with
  | tick ms => cases h; exact hi.tick ms
  | createProfile userId =>
    simp only [step] at h
    split at h <;> cases h
    exact hi.createProfile userId
  | updateStatus id status =>
    cases h
    refine hi.ask fun hidle => ?_
    split
    · exact hidle
    · rename_i hne
      exact ⟨hne, hidle.1⟩
  | createAssignment dto userId =>
    simp only [step] at h
    split at h <;> cases h
    · exact hi.ask fun hidle => hidle
    · exact hi.ask fun _ => trivial
  | revokeAssignment id userId expected =>
    cases h
    exact hi.ask fun _ => trivial
  | statement r =>
    obtain ⟨q, hr, h⟩ := Option.bind_eq_some_iff.mp h
    exact inv_request hi hr h
  | fail r =>
    simp only [step] at h
    split at h <;> cases h
    rename_i hr
    exact hi.goOn (List.getElem?_eq_some_iff.mp hr).1 trivial

theorem idle_init (r : Nat) : Idle init r := ⟨nofun, nofun⟩

theorem inv_init : Inv init where
  bound r _ := idle_init r
  holds _ _ h := by cases h
  written r := (idle_init r).written
  consistent _ _ h := by cases h
  closed _ _ h := by cases h
  single _ _ _ _ h := by cases h

/-- However the statements of suspensions, assignments and revocations are
interleaved, and whichever of them fail: what is committed is consistent. -/
theorem assignments_consistent {inverters : Uuid → Option Inverter} (h : (machine inverters).Reach Free s) :
    (∀ id p, (s.profiles.row id).committed = some p → p.status = .suspended →
      ∀ i a, (s.assignments.row i).committed = some a → a.isActiveOf id = false) ∧
    (∀ i j a b, (s.assignments.row i).committed = some a → (s.assignments.row j).committed = some b →
      a.isActiveOn b.inverterId b.installerProfileId = true → b.status = .active → i = j) ∧
    ∀ i a, (s.assignments.row i).committed = some a → (a.status = .revoked ↔ a.revokedAt ≠ none) := by
  have hi : Inv s := h.inv inv_init fun _ _ _ hi _ hs => inv_step hi hs
  exact ⟨hi.closed, hi.single, hi.consistent⟩

end

/-- Two assignments of one installer while the profile is suspended: the second
of them has to wait for the suspension and is refused. -/
def assignDuringSuspension : List Action :=
  [.createProfile 8, .updateStatus 0 .active, .statement 0, .statement 0, .statement 0,
    .createAssignment ⟨3, 0, .viewer⟩ 5, .createAssignment ⟨4, 0, .viewer⟩ 5,
    .statement 1, .statement 1, .statement 1, .updateStatus 0 .suspended, .statement 1, .statement 3, .tick 10,
    .statement 3, .statement 3, .statement 3, .statement 3, .statement 3, .statement 2, .statement 2]

def suspendedInverter (id : Uuid) : Option Inverter :=
  some ⟨id, 5, .victron, true, false, 10, 5⟩

theorem assignments_consistent_suspended : ∃ s p a, (machine suspendedInverter).run init assignDuringSuspension = some s ∧
    (s.profiles.row 0).committed = some p ∧ p.status = .suspended ∧
    (s.assignments.row 0).committed = some a ∧ a.isActiveOf 0 = false := by
  have h0 : ((machine suspendedInverter).run init assignDuringSuspension).bind (fun s =>
      (s.profiles.row 0).committed.bind fun p => (s.assignments.row 0).committed.map fun a => (p.status, a.revokedAt)) =
      some (.suspended, some 10) := by decide
  obtain ⟨s, hs, h0⟩ := Option.bind_eq_some_iff.mp h0
  obtain ⟨p, hp, h0⟩ := Option.bind_eq_some_iff.mp h0
  obtain ⟨a, ha, h0⟩ := Option.map_eq_some_iff.mp h0
  obtain ⟨hst, -⟩ := Prod.mk.inj h0
  exact ⟨s, p, a, hs, hp, hst, ha, (assignments_consistent (Machine.path_of_run hs)).1 0 p hp hst 0 a ha⟩

end IntellApi.Installers
