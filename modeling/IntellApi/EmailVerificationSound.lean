import IntellApi.Calls
import IntellApi.EmailVerification

/-!
# What a verification leaves behind

The count of attempts is read by one step of a request and written by another,
so requests that all read before one of them writes compare a code each
(`six_guesses`). If a request reads the count only while no other one is
engaged with the stored code or past it, and each count is written, five wrong
codes are compared at most (`guesses_bounded`).

The subscription is created after the address is marked verified, and a
verified user is turned away at once. A failure between the two leaves a user
for whom no attempt creates a subscription any more (`verified_without`);
without such a failure there is none (`verified_subscribed`).
-/

namespace IntellApi.EmailVerification

open Lts

variable {compare : String → String → Bool} {s s' : State} {a : Action} {p : Nat} {ph ph' : Phase}

/-! ## Guesses -/

/-- The request has read the count and has not ended. -/
def Phase.engaged : Phase → Bool
  | .findingByEmail _ | .readingAttempts _ | .done | .alreadyVerified | .throwing _ => false
  | _ => true

def State.unverified (s : State) : Bool := s.user.any fun user => !user.emailVerified

/-- The count is read while no other request is engaged and the address is not
verified, and its writes do not fail. -/
def Serial (s : State) : Action → Prop
  | .execute p answer =>
    match s.requests[p]? with
    | some (.readingAttempts _) => (∀ x ∈ s.requests, x.engaged = false) ∧ s.unverified = true
    | some (.counting _) => answer.applied = true
    | _ => True
  | _ => True

instance (s : State) (a : Action) : Decidable (Serial s a) := by
  unfold Serial
  split
  · split <;> infer_instance
  · infer_instance

/-- What a request in this phase may assume. -/
def Phase.Sound (wrong : Nat) (unverified : Bool) : Phase → Prop
  | .readingCode _ attempts => wrong ≤ attempts ∧ attempts < 5
  | .counting attempts => wrong ≤ attempts + 1 ∧ attempts < 5
  | .findingUser | .findingSubscription | .creatingSubscription | .deletingCode | .deletingAttempts =>
    unverified = false
  | _ => True

structure Guarded (s : State) : Prop where
  sole : ∀ (p q : Nat) (x y : Phase), s.requests[p]? = some x → s.requests[q]? = some y → x.engaged = true →
    y.engaged = true → p = q
  sound : ∀ x ∈ s.requests, x.Sound s.wrong s.unverified
  counted : s.unverified = true → (∀ attempts, .counting attempts ∉ s.requests) → s.wrong ≤ s.attempts.getD 0
  unknown : s.user = none → s.wrong = 0 ∧ ∀ x ∈ s.requests, x.engaged = false
  bound : s.wrong ≤ 5

theorem sound_of_free (h : ph.engaged = false) (wrong : Nat) (unverified : Bool) : ph.Sound wrong unverified := by
  cases ph <;> first | exact True.intro | exact Bool.noConfusion h

theorem Phase.Sound.mono {wrong wrong' : Nat} {unverified unverified' : Bool} (h : ph.Sound wrong unverified)
    (hw : wrong' ≤ wrong) (hu : unverified = false → unverified' = false) : ph.Sound wrong' unverified' := by
  cases ph with
  | readingCode otp attempts => exact ⟨Nat.le_trans hw h.1, h.2⟩
  | counting attempts => exact ⟨Nat.le_trans hw h.1, h.2⟩
  | findingUser => exact hu h
  | findingSubscription => exact hu h
  | creatingSubscription => exact hu h
  | deletingCode => exact hu h
  | deletingAttempts => exact hu h
  | _ => trivial

/-- The step of one request, when the others may assume what they did. -/
theorem Guarded.move (h : Guarded s) {t : State} (hp : s.requests[p]? = some ph) (ht : t.requests = s.requests)
    (he : ph'.engaged = true → ph.engaged = true ∨ ∀ x ∈ s.requests, x.engaged = false)
    (hothers : ∀ q x, q ≠ p → s.requests[q]? = some x → x.Sound t.wrong t.unverified)
    (hsound : ph'.Sound t.wrong t.unverified)
    (hcounted : t.unverified = true → (∀ attempts, ph' ≠ .counting attempts) → (∀ q x, q ≠ p → s.requests[q]? = some x →
      ∀ attempts, x ≠ .counting attempts) → t.wrong ≤ t.attempts.getD 0)
    (hunknown : t.user = none → s.user = none ∧ t.wrong = s.wrong ∧ ph'.engaged = false) (hbound : t.wrong ≤ 5) :
    Guarded (t.move p ph') := by
  have hp' : t.requests[p]? = some ph := ht ▸ hp
  refine ⟨fun q q' x x' hq hq' hx hx' => ?_, fun x hx => ?_, fun hu hc => ?_, fun hn => ?_, hbound⟩
  · -- of two engaged requests one is `p` or both were engaged before
    rcases Calls.set_cases hq with ⟨hqp, hxe⟩ | ⟨hqp, hq⟩ <;>
      rcases Calls.set_cases hq' with ⟨hqp', hxe'⟩ | ⟨hqp', hq'⟩
    · exact hqp.trans hqp'.symm
    · rw [ht] at hq'
      rcases he (hxe ▸ hx) with he | he
      · exact hqp.trans (h.sole _ _ _ _ hp hq' he hx')
      · rw [he x' (List.mem_of_getElem? hq')] at hx'
        cases hx'
    · rw [ht] at hq
      rcases he (hxe' ▸ hx') with he | he
      · exact (h.sole _ _ _ _ hq hp hx he).trans hqp'.symm
      · rw [he x (List.mem_of_getElem? hq)] at hx
        cases hx
    · rw [ht] at hq hq'
      exact h.sole _ _ _ _ hq hq' hx hx'
  · obtain ⟨q, hq⟩ := List.mem_iff_getElem?.mp hx
    rcases Calls.set_cases hq with ⟨_, hxe⟩ | ⟨hqp, hq⟩
    · rw [hxe]
      exact hsound
    · exact hothers q x hqp (ht ▸ hq)
  · refine hcounted hu (fun attempts he => hc attempts ?_) fun q x hqp hq attempts he => hc attempts ?_
    · subst he
      exact List.mem_set (List.getElem?_eq_some_iff.mp hp').1 _
    · subst he
      exact Calls.mem_set_of_ne (ht ▸ hq) hqp
  · obtain ⟨hn, hw, hf⟩ := hunknown hn
    obtain ⟨h0, hfree⟩ := h.unknown hn
    refine ⟨hw.trans h0, fun x hx => ?_⟩
    rcases List.mem_or_eq_of_mem_set hx with hx | rfl
    · exact hfree x (ht ▸ hx)
    · exact hf

/-- A step that touches neither the count nor the user. -/
theorem Guarded.pass (h : Guarded s) {t : State} (hp : s.requests[p]? = some ph) (ht : t.requests = s.requests)
    (hw : t.wrong = s.wrong) (ha : t.attempts = s.attempts) (hu : t.user = s.user)
    (hc : ∀ attempts, ph ≠ .counting attempts)
    (he : ph'.engaged = true → ph.engaged = true ∨ ∀ x ∈ s.requests, x.engaged = false)
    (hsound : ph'.Sound s.wrong s.unverified) (hn : s.user = none → ph'.engaged = false) : Guarded (t.move p ph') := by
  have hunv : t.unverified = s.unverified := by rw [State.unverified, hu]; rfl
  refine h.move hp ht he (fun q x _ hq => ?_) (by rw [hw, hunv]; exact hsound) (fun hv _ hothers => ?_)
    (fun htn => ⟨hu ▸ htn, hw, hn (hu ▸ htn)⟩) (hw ▸ h.bound)
  · rw [hw, hunv]
    exact h.sound x (List.mem_of_getElem? hq)
  · rw [hw, ha]
    refine h.counted (hunv ▸ hv) fun attempts hm => ?_
    obtain ⟨q, hq⟩ := List.mem_iff_getElem?.mp hm
    by_cases hqp : q = p
    · subst hqp
      exact hc attempts (Option.some.inj (hp.symm.trans hq))
    · exact hothers q _ hqp hq attempts rfl

theorem Guarded.throw (h : Guarded s) {t : State} (hp : s.requests[p]? = some ph) (ht : t.requests = s.requests)
    (hw : t.wrong = s.wrong) (ha : t.attempts = s.attempts) (hu : t.user = s.user)
    (hc : ∀ attempts, ph ≠ .counting attempts) (hf : ph'.engaged = false) : Guarded (t.move p ph') :=
  h.pass hp ht hw ha hu hc (fun he => by rw [hf] at he; cases he) (sound_of_free hf _ _) fun _ => hf

/-- The other requests when one is engaged. -/
theorem Guarded.others (h : Guarded s) (hp : s.requests[p]? = some ph) (he : ph.engaged = true) {q : Nat} {x : Phase}
    (hqp : q ≠ p) (hq : s.requests[q]? = some x) : x.engaged = false := by
  by_contra hx
  exact hqp (h.sole q p x ph hq hp (by simpa using hx) he)

theorem Guarded.known (h : Guarded s) (hp : s.requests[p]? = some ph) (he : ph.engaged = true) : s.user ≠ none :=
  fun hn => by
    have := (h.unknown hn).2 ph (List.mem_of_getElem? hp)
    rw [he] at this
    cases this

/-- An engaged request goes on to a phase about which it knows no more. -/
theorem Guarded.next (h : Guarded s) {t : State} (hp : s.requests[p]? = some ph) (ht : t.requests = s.requests)
    (hw : t.wrong = s.wrong) (ha : t.attempts = s.attempts) (hu : t.user = s.user)
    (hc : ∀ attempts, ph ≠ .counting attempts) (he : ph.engaged = true) {next : Phase} {answer : Answer}
    (hsound : next.Sound s.wrong s.unverified) : Guarded (t.move p (answer.orThrow next .throwing)) := by
  refine Answer.orThrow_of (P := fun ph : Phase => Guarded (t.move p ph))
    (h.pass hp ht hw ha hu hc (fun _ => .inl he) hsound fun hn => absurd hn (h.known hp he))
    fun error => h.throw hp ht hw ha hu hc rfl

theorem requestStep_guarded (h : Guarded s) (hp : s.requests[p]? = some ph) {answer : Answer}
    (ho : Serial s (.execute p answer)) (hs : requestStep compare s p answer ph = some s') : Guarded s' := by
  have hsound := h.sound ph (List.mem_of_getElem? hp)
  cases ph with
  | findingByEmail otp =>
    simp only [requestStep] at hs
    split at hs <;> cases hs
    · exact h.throw hp rfl rfl rfl rfl nofun rfl
    · exact h.throw hp rfl rfl rfl rfl nofun rfl
    · exact h.throw hp rfl rfl rfl rfl nofun (by split <;> rfl)
  | readingAttempts otp =>
    simp only [Serial, hp] at ho
    cases hs
    refine Answer.orThrow_of (P := fun ph : Phase => Guarded (s.move p ph)) ?_ fun error =>
      h.throw hp rfl rfl rfl rfl nofun rfl
    by_cases hfive : s.attempts.getD 0 ≥ 5
    · rw [if_pos hfive]
      exact h.throw hp rfl rfl rfl rfl nofun rfl
    · rw [if_neg hfive]
      have hw : s.wrong ≤ s.attempts.getD 0 := h.counted ho.2 fun attempts hm => by
        have := ho.1 _ hm
        cases this
      refine h.pass hp rfl rfl rfl rfl nofun (fun _ => .inr ho.1) ⟨hw, Nat.lt_of_not_le hfive⟩ fun hn => ?_
      have := ho.2
      rw [State.unverified, hn] at this
      cases this
  | readingCode otp attempts =>
    obtain ⟨hle, hlt⟩ := hsound
    have hnone : s.user ≠ none := h.known hp rfl
    simp only [requestStep] at hs
    split at hs
    · cases hs
      exact h.throw hp rfl rfl rfl rfl nofun rfl
    · cases hs
      exact h.pass hp rfl rfl rfl rfl nofun (fun _ => .inl rfl) ⟨Nat.le_succ_of_le hle, hlt⟩ fun hn => absurd hn hnone
    · split at hs <;> cases hs
      · exact h.pass hp rfl rfl rfl rfl nofun (fun _ => .inl rfl) trivial fun hn => absurd hn hnone
      · refine h.move (t := { s with wrong := s.wrong + 1 }) hp rfl (fun _ => .inl rfl)
          (fun q x hqp hq => sound_of_free (h.others hp rfl hqp hq) _ _) ⟨Nat.succ_le_succ hle, hlt⟩
          (fun _ hne _ => absurd rfl (hne attempts)) (fun hn => absurd hn hnone) ?_
        show s.wrong + 1 ≤ 5
        omega
  | counting attempts =>
    simp only [Serial, hp] at ho
    cases hs
    rw [if_pos ho]
    have hfree : (answer.orThrow (.throwing (.unauthorized SysMsg.invalidOtp)) Phase.throwing).engaged = false :=
      Answer.orThrow_of (P := fun ph : Phase => ph.engaged = false) rfl fun _ => rfl
    exact h.move (t := { s with attempts := some (attempts + 1) }) hp rfl
      (fun he => by rw [hfree] at he; cases he) (fun q x _ hq => h.sound x (List.mem_of_getElem? hq))
      (sound_of_free hfree _ _) (fun _ _ _ => hsound.1) (fun hn => absurd hn (h.known hp rfl)) h.bound
  | verifying =>
    cases hs
    have hnone : s.user ≠ none := h.known hp rfl
    by_cases happ : answer.applied = true
    · rw [if_pos happ]
      have hv : (s.setEmailVerified true).unverified = false := by
        cases hu : s.user <;> simp [State.unverified, State.setEmailVerified, hu]
      have hmove : ∀ ph' : Phase, ph'.Sound s.wrong false → Guarded ((s.setEmailVerified true).move p ph') := by
        intro ph' hph
        exact h.move hp rfl (fun _ => .inl rfl) (fun q x hqp hq => sound_of_free (h.others hp rfl hqp hq) _ _)
          (by rw [hv]; exact hph) (fun hu => by rw [hv] at hu; cases hu)
          (fun hn => absurd (Option.map_eq_none_iff.mp hn) hnone) h.bound
      exact Answer.orThrow_of (P := fun ph : Phase => Guarded ((s.setEmailVerified true).move p ph)) (hmove _ rfl)
        fun error => hmove _ trivial
    · rw [if_neg happ]
      cases answer with
      | done => exact absurd rfl happ
      | failed message => exact h.throw hp rfl rfl rfl rfl nofun rfl
      | unanswered message => exact absurd rfl happ
  | findingUser =>
    simp only [requestStep] at hs
    split at hs <;> cases hs
    · exact h.throw hp rfl rfl rfl rfl nofun rfl
    · exact h.throw hp rfl rfl rfl rfl nofun rfl
    · exact h.pass hp rfl rfl rfl rfl nofun (fun _ => .inl rfl) hsound fun hn => absurd hn (h.known hp rfl)
  | findingSubscription =>
    cases hs
    refine h.next hp rfl rfl rfl rfl nofun rfl ?_
    split
    · trivial
    · exact hsound
  | creatingSubscription =>
    cases hs
    exact h.next (t := { s with
      activeSubscriptions := s.activeSubscriptions + if answer.applied then 1 else 0 }) hp rfl rfl rfl rfl nofun rfl hsound
  | deletingCode =>
    cases hs
    exact h.next (t := { s with code := if answer.applied then none else s.code }) hp rfl rfl rfl rfl nofun rfl hsound
  | deletingAttempts =>
    cases hs
    refine h.move (t := { s with attempts := if answer.applied then none else s.attempts }) hp rfl (fun _ => .inl rfl)
      (fun q x _ hq => h.sound x (List.mem_of_getElem? hq)) ?_ (fun hu => ?_)
      (fun hn => absurd hn (h.known hp rfl)) h.bound
    · exact Answer.orThrow_of (P := fun ph : Phase => ph.Sound s.wrong s.unverified) trivial fun _ => trivial
    · have hv : s.unverified = false := hsound
      rw [show s.unverified = true from hu] at hv
      cases hv
  | creatingSession =>
    cases hs
    exact h.next hp rfl rfl rfl rfl nofun rfl trivial
  | issuingTokens =>
    cases hs
    exact h.next hp rfl rfl rfl rfl nofun rfl trivial
  | sendingWelcome =>
    cases hs
    exact h.next hp rfl rfl rfl rfl nofun rfl trivial
  | done => cases hs
  | alreadyVerified => cases hs
  | throwing error => cases hs

theorem Guarded.append (h : Guarded s) (hf : ph.engaged = false) :
    Guarded { s with requests := s.requests ++ [ph] } := by
  have hget : ∀ {q : Nat} {x : Phase}, (s.requests ++ [ph])[q]? = some x → x.engaged = true →
      s.requests[q]? = some x := by
    intro q x hq hx
    rcases Calls.snoc_cases hq with hq | ⟨-, rfl⟩
    · exact hq
    · rw [hf] at hx
      cases hx
  refine ⟨fun q q' x x' hq hq' hx hx' => h.sole q q' x x' (hget hq hx) (hget hq' hx') hx hx', fun x hx => ?_,
    fun hu hc => h.counted hu fun attempts hm => hc attempts (List.mem_append_left _ hm),
    fun hn => ⟨(h.unknown hn).1, fun x hx => ?_⟩, h.bound⟩
  · rcases List.mem_append.mp hx with hx | hx
    · exact h.sound x hx
    · rw [List.mem_singleton.mp hx]
      exact sound_of_free hf _ _
  · rcases List.mem_append.mp hx with hx | hx
    · exact (h.unknown hn).2 x hx
    · rw [List.mem_singleton.mp hx]
      exact hf

theorem guarded_step (h : Guarded s) (ho : Serial s a) (hs : step compare s a = some s') : Guarded s' := by
  cases a with
  | register =>
    simp only [step] at hs
    split at hs <;> cases hs
    rename_i hn
    obtain ⟨h0, hfree⟩ := h.unknown hn
    refine ⟨h.sole, fun x hx => sound_of_free (hfree x hx) _ _, fun _ _ => ?_, nofun, h.bound⟩
    show s.wrong ≤ _
    omega
  | sendVerificationEmail otpHash =>
    simp only [step] at hs
    split at hs <;> cases hs
    exact ⟨h.sole, h.sound, h.counted, h.unknown, h.bound⟩
  | codeExpires =>
    cases hs
    exact ⟨h.sole, h.sound, h.counted, h.unknown, h.bound⟩
  | attemptsExpire =>
    cases hs
    exact ⟨h.sole, fun x hx => (h.sound x hx).mono (Nat.zero_le _) id, fun _ _ => Nat.zero_le _,
      fun hn => ⟨rfl, (h.unknown hn).2⟩, Nat.zero_le _⟩
  | verifyEmail otp =>
    cases hs
    exact h.append rfl
  | execute p answer =>
    obtain ⟨ph, hp, hs⟩ := Option.bind_eq_some_iff.mp hs
    exact requestStep_guarded h hp ho hs

theorem guarded_init : Guarded init where
  sole p q x y hp := by simp [init] at hp
  sound x hx := absurd hx List.not_mem_nil
  counted _ _ := Nat.zero_le _
  unknown _ := ⟨rfl, fun x hx => absurd hx List.not_mem_nil⟩
  bound := Nat.zero_le _

/-- The count read by one request at a time and its writes done, at most five
wrong codes are compared until the count expires. -/
theorem guesses_bounded (h : (machine compare).Reach Serial s) : s.wrong ≤ 5 :=
  (h.inv guarded_init fun _ _ _ hi ho hs => guarded_step hi ho hs).bound

def sameCode (otp storedHash : String) : Bool := otp = storedHash

def registered : List Action := [.register, .sendVerificationEmail "123456"]

/-- Six requests that all read the count before one of them writes it. -/
def sixAtOnce : List Action :=
  registered ++ (List.range 6).map (fun _ => .verifyEmail "000000") ++ (List.range 6).map (.execute · .done) ++
    (List.range 6).map (.execute · .done) ++ (List.range 6).map (.execute · .done)

theorem six_guesses : ¬ ∀ s, (machine sameCode).Reach Free s → s.wrong ≤ 5 := by
  intro h
  have h0 : ((machine sameCode).run init sixAtOnce).map (·.wrong) = some 6 := by decide +kernel
  obtain ⟨s, hs, hw⟩ := Option.map_eq_some_iff.mp h0
  have hle := h s (Machine.path_of_run hs)
  rw [hw] at hle
  exact absurd hle (by decide)

def guess (p : Nat) : List Action :=
  [.verifyEmail "000000", .execute p .done, .execute p .done, .execute p .done, .execute p .done]

/-- One after the other: the sixth request is turned away. -/
theorem guesses_bounded_serial :
    ∃ s, ((machine sameCode).only Serial).run init
        (registered ++ (List.range 5).flatMap guess ++ [.verifyEmail "123456", .execute 5 .done, .execute 5 .done]) =
          some s ∧
      s.requests[5]? = some (.throwing (.unauthorized SysMsg.otpAttemptsExceeded)) ∧ s.wrong ≤ 5 := by
  have h0 : (((machine sameCode).only Serial).run init
      (registered ++ (List.range 5).flatMap guess ++ [.verifyEmail "123456", .execute 5 .done, .execute 5 .done])).map
      (·.requests[5]?) = some (some (.throwing (.unauthorized SysMsg.otpAttemptsExceeded))) := by decide +kernel
  obtain ⟨s, hs, hr⟩ := Option.map_eq_some_iff.mp h0
  exact ⟨s, hs, hr, guesses_bounded (Machine.path_of_run_only hs)⟩

/-! ## Subscriptions -/

def Phase.ended : Phase → Bool
  | .done | .alreadyVerified | .throwing _ => true
  | _ => false

def State.verified (s : State) : Bool := s.user.any (·.emailVerified)

/-- With no attempt in progress a verified user has an active subscription, or
further attempts lead to one. -/
def AllOrNothing (compare : String → String → Bool) (s : State) : Prop :=
  (∀ x ∈ s.requests, x.ended = true) → s.verified = true →
    0 < s.activeSubscriptions ∨ ∃ t, (machine compare).Path Free s t ∧ 0 < t.activeSubscriptions

/-- As long as there is no active subscription, the user is not marked verified
by an update whose answer is lost, and none of the calls behind
`createFreeSubscription` fails. -/
def Unbroken (s : State) : Action → Prop
  | .execute p answer =>
    0 < s.activeSubscriptions ∨
      match s.requests[p]? with
      | some .verifying => answer.applied = true → answer.error = none
      | some .findingUser | some .findingSubscription => answer.error = none
      | some .creatingSubscription => answer.applied = true
      | _ => True
  | _ => True

instance (s : State) (a : Action) : Decidable (Unbroken s a) := by
  unfold Unbroken
  split
  · refine @instDecidableOr _ _ inferInstance ?_
    split <;> infer_instance
  · infer_instance

/-- The request creates the subscription next. -/
def Phase.subscribing : Phase → Bool
  | .findingUser | .findingSubscription | .creatingSubscription => true
  | _ => false

def Backed (s : State) : Prop :=
  s.verified = true → 0 < s.activeSubscriptions ∨ ∃ x ∈ s.requests, x.subscribing = true

theorem Backed.move (h : Backed s) {t : State} (hp : s.requests[p]? = some ph) (ht : t.requests = s.requests)
    (hv : t.verified = true → s.verified = true) (ha : s.activeSubscriptions ≤ t.activeSubscriptions)
    (hn : ph.subscribing = true → 0 < t.activeSubscriptions ∨ ph'.subscribing = true) : Backed (t.move p ph') := by
  intro hver
  have hlt : p < t.requests.length := ht ▸ (List.getElem?_eq_some_iff.mp hp).1
  rcases h (hv hver) with hpos | ⟨x, hx, hsub⟩
  · exact .inl (Nat.lt_of_lt_of_le hpos ha)
  · rcases Calls.mem_set_of_mem (b := ph') hp hx with rfl | hm
    · rcases hn hsub with hpos | hph
      · exact .inl hpos
      · exact .inr ⟨ph', List.mem_set hlt _, hph⟩
    · refine .inr ⟨x, ?_, hsub⟩
      rw [State.move, ht]
      exact hm

theorem Backed.pass (h : Backed s) {t : State} (hp : s.requests[p]? = some ph) (ht : t.requests = s.requests)
    (hu : t.user = s.user) (ha : t.activeSubscriptions = s.activeSubscriptions) (hn : ph.subscribing = false) :
    Backed (t.move p ph') :=
  h.move hp ht (fun hv => by rw [State.verified, ← hu]; exact hv) (Nat.le_of_eq ha.symm) fun hs => by
    rw [hn] at hs
    cases hs

theorem requestStep_backed (h : Backed s) (hp : s.requests[p]? = some ph) {answer : Answer}
    (ho : Unbroken s (.execute p answer)) (hs : requestStep compare s p answer ph = some s') : Backed s' := by
  simp only [Unbroken, hp] at ho
  cases ph with
  | findingByEmail otp =>
    simp only [requestStep] at hs
    split at hs <;> cases hs <;> exact h.pass hp rfl rfl rfl rfl
  | readingAttempts otp =>
    cases hs
    exact h.pass hp rfl rfl rfl rfl
  | readingCode otp attempts =>
    simp only [requestStep] at hs
    split at hs
    · cases hs
      exact h.pass hp rfl rfl rfl rfl
    · cases hs
      exact h.pass hp rfl rfl rfl rfl
    · split at hs <;> cases hs
      · exact h.pass hp rfl rfl rfl rfl
      · exact h.pass (t := { s with wrong := s.wrong + 1 }) hp rfl rfl rfl rfl
  | counting attempts =>
    cases hs
    exact h.pass (t := { s with attempts := if answer.applied then some (attempts + 1) else s.attempts }) hp rfl rfl
      rfl rfl
  | verifying =>
    cases hs
    by_cases happ : answer.applied = true
    · rw [if_pos happ]
      intro _
      rcases ho with hpos | he
      · exact .inl hpos
      · refine .inr ⟨.findingUser, List.mem_of_getElem? (i := p) ?_, rfl⟩
        have hlt := (List.getElem?_eq_some_iff.mp hp).1
        simp [State.move, State.setEmailVerified, Answer.orThrow, he happ, hlt]
    · rw [if_neg happ]
      exact h.pass hp rfl rfl rfl rfl
  | findingUser =>
    simp only [requestStep] at hs
    split at hs <;> cases hs
    · rename_i message _ he
      refine h.move hp rfl id (Nat.le_refl _) fun _ => .inl ?_
      rcases ho with hpos | hnone
      · exact hpos
      · rw [he] at hnone
        cases hnone
    · rename_i hu
      intro hv
      have : s.verified = true := hv
      rw [State.verified, hu] at this
      cases this
    · exact h.move hp rfl id (Nat.le_refl _) fun _ => .inr rfl
  | findingSubscription =>
    cases hs
    refine h.move hp rfl id (Nat.le_refl _) fun _ => ?_
    by_cases hpos : 0 < s.activeSubscriptions
    · exact .inl hpos
    · have he := ho.resolve_left hpos
      simp [Answer.orThrow, he, hpos, Phase.subscribing]
  | creatingSubscription =>
    cases hs
    refine h.move (t := { s with activeSubscriptions := s.activeSubscriptions + if answer.applied then 1 else 0 }) hp rfl
      id (Nat.le_add_right _ _) fun _ => .inl ?_
    rcases ho with hpos | happ
    · exact Nat.lt_of_lt_of_le hpos (Nat.le_add_right _ _)
    · show 0 < s.activeSubscriptions + if answer.applied then 1 else 0
      rw [if_pos happ]
      exact Nat.succ_pos _
  | deletingCode =>
    cases hs
    exact h.pass (t := { s with code := if answer.applied then none else s.code }) hp rfl rfl rfl rfl
  | deletingAttempts =>
    cases hs
    exact h.pass (t := { s with attempts := if answer.applied then none else s.attempts }) hp rfl rfl rfl rfl
  | creatingSession =>
    cases hs
    exact h.pass hp rfl rfl rfl rfl
  | issuingTokens =>
    cases hs
    exact h.pass hp rfl rfl rfl rfl
  | sendingWelcome =>
    cases hs
    exact h.pass hp rfl rfl rfl rfl
  | done => cases hs
  | alreadyVerified => cases hs
  | throwing error => cases hs

theorem backed_step (h : Backed s) (ho : Unbroken s a) (hs : step compare s a = some s') : Backed s' := by
  cases a with
  | register =>
    simp only [step] at hs
    split at hs <;> cases hs
    exact nofun
  | sendVerificationEmail otpHash =>
    simp only [step] at hs
    split at hs <;> cases hs
    exact h
  | codeExpires =>
    cases hs
    exact h
  | attemptsExpire =>
    cases hs
    exact h
  | verifyEmail otp =>
    cases hs
    intro hv
    rcases h hv with hpos | ⟨x, hx, hsub⟩
    · exact .inl hpos
    · exact .inr ⟨x, List.mem_append_left _ hx, hsub⟩
  | execute p answer =>
    obtain ⟨ph, hp, hs⟩ := Option.bind_eq_some_iff.mp hs
    exact requestStep_backed h hp ho hs

theorem not_ended (h : ph.subscribing = true) : ph.ended = false := by
  cases ph <;> first | rfl | cases h

/-- No failure standing between the mark and the subscription, a verified user
for whom no attempt is in progress has one. -/
theorem verified_subscribed (h : (machine compare).Reach Unbroken s) : AllOrNothing compare s := by
  have hb : Backed s := h.inv (I := Backed) (fun hv => by cases hv) fun _ _ _ hi ho hs => backed_step hi ho hs
  intro hended hv
  rcases hb hv with hpos | ⟨x, hx, hsub⟩
  · exact .inl hpos
  · have := hended x hx
    rw [not_ended hsub] at this
    cases this

/-! ## Without a subscription -/

/-- The user is verified, has no subscription, and nobody is past the first check. -/
structure Stuck (s : State) : Prop where
  verified : s.verified = true
  none : s.activeSubscriptions = 0
  requests : ∀ x ∈ s.requests, x.ended = true ∨ ∃ otp, x = .findingByEmail otp

theorem ended_none (h : ph.ended = true) {answer : Answer} : requestStep compare s p answer ph = none := by
  cases ph <;> first | rfl | cases h

theorem stuck_step (h : Stuck s) (hs : step compare s a = some s') : Stuck s' := by
  cases a with
  | register =>
    simp only [step] at hs
    split at hs <;> cases hs
    rename_i hn
    have := h.verified
    rw [State.verified, hn] at this
    cases this
  | sendVerificationEmail otpHash =>
    simp only [step] at hs
    split at hs <;> cases hs
    exact ⟨h.verified, h.none, h.requests⟩
  | codeExpires =>
    cases hs
    exact ⟨h.verified, h.none, h.requests⟩
  | attemptsExpire =>
    cases hs
    exact ⟨h.verified, h.none, h.requests⟩
  | verifyEmail otp =>
    cases hs
    refine ⟨h.verified, h.none, fun x hx => ?_⟩
    rcases List.mem_append.mp hx with hx | hx
    · exact h.requests x hx
    · exact .inr ⟨otp, List.mem_singleton.mp hx⟩
  | execute p answer =>
    obtain ⟨ph, hp, hs⟩ := Option.bind_eq_some_iff.mp hs
    have hmove : ∀ {ph' : Phase}, ph'.ended = true → Stuck (s.move p ph') := by
      intro ph' hph
      refine ⟨h.verified, h.none, fun x hx => ?_⟩
      rcases List.mem_or_eq_of_mem_set hx with hx | rfl
      · exact h.requests x hx
      · exact .inl hph
    rcases h.requests ph (List.mem_of_getElem? hp) with hended | ⟨otp, rfl⟩
    · rw [ended_none hended] at hs
      cases hs
    · simp only [requestStep] at hs
      split at hs <;> cases hs
      · exact hmove rfl
      · exact hmove rfl
      · rename_i user _ hu
        have hver := h.verified
        rw [State.verified, hu] at hver
        have : user.emailVerified = true := hver
        rw [this]
        exact hmove rfl

/-- The code is right and the address is marked, then the user cannot be read. -/
def markedOnly : List Action :=
  registered ++ [.verifyEmail "123456", .execute 0 .done, .execute 0 .done, .execute 0 .done, .execute 0 .done,
    .execute 0 (.failed "connection lost")]

def marked : State :=
  { user := some ⟨true, some 2⟩, activeSubscriptions := 0, code := some "123456", attempts := none
    requests := [.throwing (.error "connection lost")], wrong := 0 }

theorem verified_without : ¬ ∀ s, (machine sameCode).Reach Free s → AllOrNothing sameCode s := by
  intro h
  have h0 : (machine sameCode).run init markedOnly = some marked := by decide +kernel
  have hended : ∀ x ∈ marked.requests, x.ended = true := fun x hx => by
    rw [List.mem_singleton.mp hx]
    rfl
  rcases h marked (Machine.path_of_run h0) hended rfl with hpos | ⟨t, ht, hpos⟩
  · exact absurd hpos (Nat.lt_irrefl 0)
  · have hstuck : Stuck t := ht.keep (I := Stuck) (fun _ _ _ hi _ hs => stuck_step hi hs)
      ⟨rfl, rfl, fun x hx => .inl (hended x hx)⟩
    rw [hstuck.none] at hpos
    exact absurd hpos (Nat.lt_irrefl 0)

theorem verified_subscribed_first :
    ∃ s, ((machine sameCode).only Unbroken).run init
        (registered ++ [.verifyEmail "123456"] ++ (List.range 12).map (fun _ => .execute 0 .done)) = some s ∧
      (s.requests, s.verified) = ([.done], true) ∧ AllOrNothing sameCode s := by
  have h0 : (((machine sameCode).only Unbroken).run init
      (registered ++ [.verifyEmail "123456"] ++ (List.range 12).map (fun _ => .execute 0 .done))).map
      (fun s => (s.requests, s.verified)) = some ([.done], true) := by decide +kernel
  obtain ⟨s, hs, hv⟩ := Option.map_eq_some_iff.mp h0
  exact ⟨s, hs, hv, verified_subscribed (Machine.path_of_run_only hs)⟩

end IntellApi.EmailVerification
