import IntellApi.Calls
import IntellApi.Holders
import IntellApi.PasswordReset

/-!
# What a reset token is good for

The token is deleted at the end of a request, after the password has been
changed and the mail enqueued. A request that ends before leaves the token
behind (`reset_twice`), and so do two that both read it before either deletes
it. As long as a request reads the token only while no other request with it is
at work, and none that has changed the password ends before the token is
deleted, a token changes the password once and is rejected from then on
(`token_single_use`).
-/

namespace IntellApi.PasswordReset

open Function Holders Lts

/-! ## Texts of tokens -/

theorem textLength_eq {cs : List Char} (h : ∀ c ∈ cs, isVariationSelector c = false) : textLength cs = cs.length := by
  induction cs with
  | nil => rfl
  | cons c cs ih =>
    cases cs with
    | nil => rfl
    | cons d cs =>
      have hd := h d (List.mem_cons_of_mem _ List.mem_cons_self)
      rw [textLength, hd, ih fun c hc => h c (List.mem_cons_of_mem _ hc), List.length_cons]
      exact Nat.add_comm 1 _

theorem isVariationSelector_hexDigit {c : Char} (h : isHexDigit c = true) : isVariationSelector c = false := by
  have hle : c.toNat ≤ 102 := by
    rcases Bool.or_eq_true_iff.mp h with h | h
    · have hb : 48 ≤ c.toNat ∧ c.toNat ≤ 57 := by simpa [Char.isDigit, UInt32.le_iff_toNat_le] using h
      omega
    · simp only [List.mem_cons, List.not_mem_nil, or_false, decide_eq_true_eq] at h
      rcases h with rfl | rfl | rfl | rfl | rfl | rfl <;> decide
  simp only [isVariationSelector, Bool.or_eq_false_iff, decide_eq_false_iff_not]
  omega

/-- A text that the body of a request may bring as its token. -/
def Fits (token : String) : Prop := 32 ≤ textLength token.toList ∧ textLength token.toList ≤ 64

theorem checkLength_ok {property value : String} {least most : Nat} (h : checkLength property least most value = .ok ()) :
    least ≤ textLength value.toList ∧ textLength value.toList ≤ most := by
  unfold checkLength at h
  dsimp only at h
  split at h
  · cases h
  · split at h
    · cases h
    · omega

theorem fits_of_isResetToken {token : String} (h : isResetToken token = true) : Fits token := by
  obtain ⟨hl, hd⟩ := Bool.and_eq_true_iff.mp h
  have hlen := of_decide_eq_true hl
  rw [Fits, textLength_eq fun c hc => isVariationSelector_hexDigit (List.all_eq_true.mp hd c hc), hlen]
  decide

theorem fits_of_phase {dto : ResetPasswordDto} (h : dto.phase = .readingToken) : Fits dto.token := by
  unfold ResetPasswordDto.phase at h
  cases hv : dto.validate with
  | error e => rw [hv] at h; cases h
  | ok u =>
    obtain ⟨_, -, htoken⟩ := bind_eq_ok.mp hv
    exact checkLength_ok htoken

theorem phase_cases (dto : ResetPasswordDto) : dto.phase = .readingToken ∨ ∃ error, dto.phase = .throwing error := by
  unfold ResetPasswordDto.phase
  split
  · exact .inl rfl
  · exact .inr ⟨_, rfl⟩

/-- bcrypt reads 72 bytes, and a token has 64: a hash that matches it matches
no other text of the lengths a request may bring. -/
def TellsApart (compare : String → String → Bool) : Prop :=
  ∀ token text tokenHash, isResetToken token = true → Fits text → compare token tokenHash = true →
    compare text tokenHash = true → text = token

/-! ## Requests at work -/

/-- The request has been let in and has not ended. -/
def Phase.working : Phase → Bool
  | .readingToken | .done | .throwing _ => false
  | _ => true

/-- The request has been let in and has not changed the password. -/
def Phase.unchanged : Phase → Bool
  | .findingByEmail | .findingUser | .updating => true
  | _ => false

/-- The request has changed the password and not deleted the token. -/
def Phase.changed : Phase → Bool
  | .mailing | .deletingToken => true
  | _ => false

/-- The request has not been let in. -/
def Phase.Rejected (ph : Phase) : Prop := ph = .readingToken ∨ ∃ error, ph = .throwing error

/-- A token is read while no other request with it is at work, and no call
after the change fails, nor is the answer to the change lost. -/
def Undisturbed (s : State) : Action → Prop
  | .execute p answer =>
    match s.requests[p]? with
    | some x =>
      match x.phase with
      | .readingToken => ∀ y ∈ s.requests, y.token = x.token → y.phase.working = false
      | .updating => answer.applied = true → answer.error = none
      | .mailing => answer.error = none
      | .deletingToken => answer.applied = true
      | _ => True
    | none => True
  | _ => True

instance (s : State) (a : Action) : Decidable (Undisturbed s a) := by
  unfold Undisturbed
  split
  · split
    · split <;> infer_instance
    · infer_instance
  · infer_instance

/-- One change at most; after it every later request with the token is rejected. -/
def SingleUse (compare : String → String → Bool) (ok : State → Action → Prop) (token : String) (s : State) : Prop :=
  s.changes.count token ≤ 1 ∧
    (token ∈ s.changes → ∀ t, (machine compare).Path ok s t → ∀ (p : Nat) (x : Request),
      s.requests.length ≤ p → t.requests[p]? = some x → x.token = token →
        x.phase.Rejected)

/-! ## The invariant -/

def State.accepts (compare : String → String → Bool) (s : State) (token : String) : Bool :=
  s.tokenHash.any (compare token)

def atWork (s : State) (p : Nat) : Option String :=
  s.requests[p]?.bind fun x => if x.phase.working then some x.token else none

structure Guarded (compare : String → String → Bool) (s : State) : Prop where
  sole : Sole (atWork s)
  fits : ∀ x ∈ s.requests, x.phase = .readingToken → Fits x.token
  unchanged : ∀ x ∈ s.requests, x.phase.unchanged = true → x.token ∉ s.changes
  spent : ∀ token ∈ s.changes, (∃ x ∈ s.requests, x.token = token ∧ x.phase.changed = true) ∨
    s.accepts compare token = false
  once : s.changes.Nodup
  stored : ∀ token, Fits token → s.accepts compare token = true → token ∈ s.drawn
  working : ∀ x ∈ s.requests, x.phase.working = true → x.token ∈ s.drawn
  drawn : ∀ token ∈ s.changes, token ∈ s.drawn
  genuine : ∀ token ∈ s.drawn, isResetToken token = true

section
variable {compare : String → String → Bool} {s s' t : State} {a : Action} {p : Nat} {x y : Request} {ph : Phase}

theorem mem_move (h : y ∈ (t.move p x ph).requests) : y = { x with phase := ph } ∨ y ∈ t.requests :=
  (List.mem_or_eq_of_mem_set h).symm

theorem move_self (hp : t.requests[p]? = some x) : { x with phase := ph } ∈ (t.move p x ph).requests :=
  List.mem_set (List.getElem?_eq_some_iff.mp hp).1 _

theorem move_mem (hp : t.requests[p]? = some x) (hy : y ∈ t.requests) : y = x ∨ y ∈ (t.move p x ph).requests :=
  Calls.mem_set_of_mem hp hy

theorem atWork_move (hp : t.requests[p]? = some x) :
    atWork (t.move p x ph) = update (atWork t) p (if ph.working then some x.token else none) :=
  Calls.bind_set _ hp

theorem atWork_of (hp : t.requests[p]? = some x) (hw : x.phase.working = true) : atWork t p = some x.token := by
  simp [atWork, hp, hw]

theorem working_of_unchanged (h : ph.unchanged = true) : ph.working = true := by
  cases ph <;> first | rfl | cases h

theorem working_of_changed (h : ph.changed = true) : ph.working = true := by
  cases ph <;> first | rfl | cases h

theorem sole_stay (h : Sole (atWork t)) (hp : t.requests[p]? = some x)
    (hw : ph.working = true → x.phase.working = true) : Sole (atWork (t.move p x ph)) := by
  rw [atWork_move hp]
  by_cases hph : ph.working = true
  · rw [if_pos hph, ← atWork_of hp (hw hph), update_eq_self]
    exact h
  · rw [if_neg hph]
    exact h.erase p

theorem fits_move (h : ∀ y ∈ t.requests, y.phase = .readingToken → Fits y.token) (hr : ph ≠ .readingToken) :
    ∀ y ∈ (t.move p x ph).requests, y.phase = .readingToken → Fits y.token := by
  intro y hy hyr
  rcases mem_move hy with rfl | hy
  · exact absurd hyr hr
  · exact h y hy hyr

/-- A step that goes on without a change, or ends the request before one. -/
theorem Guarded.pass (h : Guarded compare s) (hp : s.requests[p]? = some x)
    (hw : ph.working = true → x.phase.working = true) (hu : ph.unchanged = true → x.phase.unchanged = true)
    (hc : x.phase.changed = true → ph.changed = true) (hr : ph ≠ .readingToken) : Guarded compare (s.move p x ph) where
  sole := sole_stay h.sole hp hw
  fits := fits_move h.fits hr
  unchanged y hy hyu := by
    rcases mem_move hy with rfl | hy
    · exact h.unchanged x (List.mem_of_getElem? hp) (hu hyu)
    · exact h.unchanged y hy hyu
  spent token hm := by
    rcases h.spent token hm with ⟨y, hy, ht, hyc⟩ | ha
    · rcases move_mem hp hy with rfl | hy
      · exact .inl ⟨_, move_self hp, ht, hc hyc⟩
      · exact .inl ⟨y, hy, ht, hyc⟩
    · exact .inr ha
  once := h.once
  stored := h.stored
  working y hy hyw := by
    rcases mem_move hy with rfl | hy
    · exact h.working x (List.mem_of_getElem? hp) (hw hyw)
    · exact h.working y hy hyw
  drawn := h.drawn
  genuine := h.genuine

theorem Guarded.enter (h : Guarded compare s) (hp : s.requests[p]? = some x) (hx : x.phase = .readingToken)
    (ha : s.accepts compare x.token = true) (hfree : ∀ y ∈ s.requests, y.token = x.token → y.phase.working = false) :
    Guarded compare (s.move p x .findingByEmail) where
  fits := fits_move h.fits nofun
  sole := by
    rw [atWork_move hp]
    refine h.sole.put p fun q hq => ?_
    obtain ⟨y, hy, hyt⟩ := Option.bind_eq_some_iff.mp hq
    simp only [Option.ite_none_right_eq_some, Option.some.injEq] at hyt
    have := hfree y (List.mem_of_getElem? hy) hyt.2
    rw [hyt.1] at this
    cases this
  unchanged y hy hyu := by
    rcases mem_move hy with rfl | hy
    · intro hm
      rcases h.spent x.token hm with ⟨z, hz, hzt, hzc⟩ | hna
      · have := hfree z hz hzt
        rw [working_of_changed hzc] at this
        cases this
      · rw [ha] at hna
        cases hna
    · exact h.unchanged y hy hyu
  spent token hm := by
    rcases h.spent token hm with ⟨y, hy, ht, hyc⟩ | hna
    · rcases move_mem hp hy with rfl | hy
      · rw [hx] at hyc
        cases hyc
      · exact .inl ⟨y, hy, ht, hyc⟩
    · exact .inr hna
  once := h.once
  stored := h.stored
  working y hy hyw := by
    rcases mem_move hy with rfl | hy
    · exact h.stored _ (h.fits x (List.mem_of_getElem? hp) hx) ha
    · exact h.working y hy hyw
  drawn := h.drawn
  genuine := h.genuine

theorem Guarded.change (h : Guarded compare s) (hp : s.requests[p]? = some x) (hx : x.phase = .updating) :
    Guarded compare ((s.change x).move p x .mailing) where
  sole := sole_stay (t := s.change x) h.sole hp fun _ => by rw [hx]; rfl
  fits := fits_move (t := s.change x) h.fits nofun
  unchanged y hy hyu := by
    obtain ⟨q, hq⟩ := List.mem_iff_getElem?.mp hy
    rcases Calls.set_cases hq with ⟨-, rfl⟩ | ⟨hqp, hq⟩
    · cases hyu
    · -- a request with the same token would have been at work as well
      have hne : y.token ≠ x.token := fun he =>
        hqp (h.sole q p x.token (he ▸ atWork_of hq (working_of_unchanged hyu)) (atWork_of hp (by rw [hx]; rfl)))
      exact fun hm => (List.mem_cons.mp hm).elim hne (h.unchanged y (List.mem_of_getElem? hq) hyu)
  spent token hm := by
    rcases List.mem_cons.mp hm with rfl | hm
    · exact .inl ⟨_, move_self (t := s.change x) hp, rfl, rfl⟩
    · rcases h.spent token hm with ⟨y, hy, ht, hyc⟩ | hna
      · rcases move_mem (t := s.change x) hp hy with rfl | hy
        · rw [hx] at hyc
          cases hyc
        · exact .inl ⟨y, hy, ht, hyc⟩
      · exact .inr hna
  once := List.nodup_cons.mpr ⟨h.unchanged x (List.mem_of_getElem? hp) (by rw [hx]; rfl), h.once⟩
  stored := h.stored
  working y hy hyw := by
    rcases mem_move hy with rfl | hy
    · exact h.working x (List.mem_of_getElem? hp) (by rw [hx]; rfl)
    · exact h.working y hy hyw
  drawn token hm := by
    rcases List.mem_cons.mp hm with rfl | hm
    · exact h.working x (List.mem_of_getElem? hp) (by rw [hx]; rfl)
    · exact h.drawn token hm
  genuine := h.genuine

theorem Guarded.delete (h : Guarded compare s) (hp : s.requests[p]? = some x) (hw : ph.working = false)
    (hr : ph ≠ .readingToken) : Guarded compare ({ s with tokenHash := none }.move p x ph) where
  sole := sole_stay (t := { s with tokenHash := none }) h.sole hp fun hn => by rw [hw] at hn; cases hn
  fits := fits_move (t := { s with tokenHash := none }) h.fits hr
  unchanged y hy hyu := by
    rcases mem_move hy with rfl | hy
    · have := working_of_unchanged hyu
      rw [hw] at this
      cases this
    · exact h.unchanged y hy hyu
  spent _ _ := .inr rfl
  once := h.once
  stored _ _ ha := by cases ha
  working y hy hyw := by
    rcases mem_move hy with rfl | hy
    · rw [hw] at hyw
      cases hyw
    · exact h.working y hy hyw
  drawn := h.drawn
  genuine := h.genuine

theorem requestStep_guarded (h : Guarded compare s) (hp : s.requests[p]? = some x) {answer : Answer}
    (ho : Undisturbed s (.execute p answer)) (hs : requestStep compare s p x answer x.phase = some s') :
    Guarded compare s' := by
  simp only [Undisturbed, hp] at ho
  have hend : x.phase.changed = false → ∀ error, Guarded compare (s.move p x (.throwing error)) := fun hc error =>
    h.pass hp nofun nofun (fun hn => by rw [hc] at hn; cases hn) nofun
  cases hx : x.phase with
  | readingToken =>
    rw [hx] at hs ho
    cases hs
    refine Answer.orThrow_of (P := fun ph : Phase => Guarded compare (s.move p x ph)) ?_ (hend (by rw [hx]; rfl))
    split
    · exact hend (by rw [hx]; rfl) _
    · rename_i tokenHash hh
      split
      · rename_i hm
        exact h.enter hp hx (by rw [State.accepts, hh]; exact hm) ho
      · exact hend (by rw [hx]; rfl) _
  | findingByEmail =>
    rw [hx] at hs
    cases hs
    refine Answer.orThrow_of (P := fun ph : Phase => Guarded compare (s.move p x ph)) ?_ (hend (by rw [hx]; rfl))
    split
    · exact hend (by rw [hx]; rfl) _
    · split
      · exact h.pass hp (fun _ => by rw [hx]; rfl) (fun _ => by rw [hx]; rfl)
          (fun hn => by rw [hx] at hn; cases hn) nofun
      · exact hend (by rw [hx]; rfl) _
  | findingUser =>
    rw [hx] at hs
    cases hs
    refine Answer.orThrow_of (P := fun ph : Phase => Guarded compare (s.move p x ph)) ?_ (hend (by rw [hx]; rfl))
    split
    · exact hend (by rw [hx]; rfl) _
    · exact h.pass hp (fun _ => by rw [hx]; rfl) (fun _ => by rw [hx]; rfl)
          (fun hn => by rw [hx] at hn; cases hn) nofun
  | updating =>
    rw [hx] at hs ho
    simp only [requestStep] at hs
    split at hs
    · cases hs
      exact Answer.orThrow_of (P := fun ph : Phase => Guarded compare (s.move p x ph)) (hend (by rw [hx]; rfl) _)
        (hend (by rw [hx]; rfl))
    · cases hs
      cases answer with
      | done => exact h.change hp hx
      | failed message => exact hend (by rw [hx]; rfl) _
      | unanswered message => cases ho rfl
  | mailing =>
    rw [hx] at hs ho
    cases hs
    have he : answer.error = none := ho
    rw [Answer.orThrow, he]
    exact h.pass hp (fun _ => by rw [hx]; rfl) nofun (fun _ => rfl) nofun
  | deletingToken =>
    rw [hx] at hs ho
    cases hs
    have happ : answer.applied = true := ho
    rw [if_pos happ]
    exact Answer.orThrow_of (P := fun ph : Phase => Guarded compare (State.move _ p x ph)) (h.delete hp rfl nofun)
      fun _ => h.delete hp rfl nofun
  | done =>
    rw [hx] at hs
    cases hs
  | throwing error =>
    rw [hx] at hs
    cases hs

theorem guarded_step (hc : TellsApart compare) (h : Guarded compare s) (ho : Undisturbed s a)
    (hs : step compare s a = some s') : Guarded compare s' := by
  cases a with
  | setUser user =>
    cases hs
    exact ⟨h.sole, h.fits, h.unchanged, h.spent, h.once, h.stored, h.working, h.drawn, h.genuine⟩
  | forgotPassword token tokenHash =>
    simp only [step] at hs
    split at hs <;> cases hs
    rename_i hnew
    obtain ⟨hfresh, hdrawn, hhash⟩ := hnew
    -- the hash stored accepts no token but the one drawn
    have hone : ∀ token', Fits token' → compare token' tokenHash = true → token' = token :=
      fun token' hf ht => hc token token' tokenHash hdrawn hf hhash ht
    refine ⟨h.sole, h.fits, h.unchanged, fun token' hm => ?_, h.once, fun token' hf ha => ?_,
      fun x hx hw => List.mem_cons_of_mem _ (h.working x hx hw),
      fun token' hm => List.mem_cons_of_mem _ (h.drawn token' hm), fun token' hm => ?_⟩
    · have hold := h.drawn token' hm
      refine .inr (Bool.eq_false_iff.mpr fun ha => hfresh ?_)
      rw [← hone token' (fits_of_isResetToken (h.genuine token' hold)) ha]
      exact hold
    · rw [hone token' hf ha]
      exact List.mem_cons_self
    · rcases List.mem_cons.mp hm with rfl | hm
      · exact hdrawn
      · exact h.genuine token' hm
  | tokenExpires =>
    cases hs
    exact ⟨h.sole, h.fits, h.unchanged, fun _ _ => .inr rfl, h.once, (fun _ _ ha => by cases ha), h.working, h.drawn,
      h.genuine⟩
  | resetPassword dto passwordHash =>
    cases hs
    have hidle : dto.phase.working = false := by
      rcases phase_cases dto with hd | ⟨error, hd⟩ <;> (rw [hd]; rfl)
    have hmem : ∀ y ∈ s.requests ++ [⟨dto.token, passwordHash, dto.phase⟩], y.phase.working = true →
        y ∈ s.requests := by
      intro y hy hw
      rcases List.mem_append.mp hy with hy | hy
      · exact hy
      · rw [List.mem_singleton.mp hy, hidle] at hw
        cases hw
    have hsame : atWork { s with requests := s.requests ++ [⟨dto.token, passwordHash, dto.phase⟩] } = atWork s :=
      Calls.bind_snoc _ (by rw [hidle]; rfl)
    refine ⟨by rw [hsame]; exact h.sole, fun y hy hyr => ?_,
      fun y hy hyu => h.unchanged y (hmem y hy (working_of_unchanged hyu)) hyu,
      fun token' hm => ?_, h.once, h.stored, fun y hy hw => h.working y (hmem y hy hw) hw, h.drawn, h.genuine⟩
    · rcases List.mem_append.mp hy with hy | hy
      · exact h.fits y hy hyr
      · rw [List.mem_singleton.mp hy] at hyr ⊢
        exact fits_of_phase hyr
    · rcases h.spent token' hm with ⟨y, hy, ht, hyc⟩ | ha
      · exact .inl ⟨y, List.mem_append_left _ hy, ht, hyc⟩
      · exact .inr ha
  | execute p answer =>
    obtain ⟨x, hp, hs⟩ := Option.bind_eq_some_iff.mp hs
    exact requestStep_guarded h hp ho hs

theorem guarded_init : Guarded compare init := by
  refine ⟨fun q _ _ hq _ => ?_, nofun, nofun, nofun, .nil, nofun, nofun, nofun, nofun⟩
  cases hq

/-! ## Requests after a change -/

theorem requestStep_move {answer : Answer} (hs : requestStep compare s p x answer x.phase = some s') :
    ∃ (t : State) (ph : Phase), s' = t.move p x ph ∧ t.requests = s.requests ∧ s.changes ⊆ t.changes := by
  cases hx : x.phase with
  | readingToken | findingByEmail | findingUser | mailing | deletingToken =>
    rw [hx] at hs
    cases hs
    exact ⟨_, _, rfl, rfl, fun _ hm => hm⟩
  | updating =>
    rw [hx] at hs
    simp only [requestStep] at hs
    split at hs <;> cases hs
    · exact ⟨s, _, rfl, rfl, fun _ hm => hm⟩
    · refine ⟨_, _, rfl, ?_, ?_⟩ <;> split
      · rfl
      · rfl
      · exact fun _ hm => List.mem_cons_of_mem _ hm
      · exact fun _ hm => hm
  | done | throwing error =>
    rw [hx] at hs
    cases hs

/-- A token that has changed the password is not let in any more. -/
theorem read_rejected (h : Guarded compare s) (hm : x.token ∈ s.changes) (hp : s.requests[p]? = some x)
    (hx : x.phase.Rejected) {answer : Answer} (ho : Undisturbed s (.execute p answer))
    (hs : requestStep compare s p x answer x.phase = some s') (hy : s'.requests[p]? = some y) : y.phase.Rejected := by
  rcases hx with hx | ⟨error, hx⟩
  · simp only [Undisturbed, hp, hx] at ho
    have hna : s.accepts compare x.token = false := by
      rcases h.spent _ hm with ⟨y, hy, ht, hyc⟩ | hna
      · have := ho y hy ht
        rw [working_of_changed hyc] at this
        cases this
      · exact hna
    rw [hx] at hs
    cases hs
    rcases Calls.set_cases hy with ⟨-, rfl⟩ | ⟨hne, -⟩
    · refine Answer.orThrow_of (P := Phase.Rejected) ?_ fun error => .inr ⟨error, rfl⟩
      split
      · exact .inr ⟨_, rfl⟩
      · rename_i tokenHash hh
        have hno : compare x.token tokenHash = false := by simpa [State.accepts, hh] using hna
        rw [hno]
        exact .inr ⟨_, rfl⟩
    · exact absurd rfl hne
  · rw [hx] at hs
    cases hs

/-- The token has changed the password, and the requests from `n` on that carry
it have not been let in. -/
structure Spent (compare : String → String → Bool) (token : String) (n : Nat) (s : State) : Prop where
  guarded : Guarded compare s
  spent : token ∈ s.changes
  length : n ≤ s.requests.length
  rejected : ∀ (p : Nat) (x : Request), n ≤ p → s.requests[p]? = some x → x.token = token → x.phase.Rejected

theorem Spent.step {token : String} {n : Nat} (hc : TellsApart compare) (h : Spent compare token n s)
    (ho : Undisturbed s a) (hs : step compare s a = some s') :
    Spent compare token n s' := by
  have hg := guarded_step hc h.guarded ho hs
  cases a with
  | setUser user | tokenExpires =>
    cases hs
    exact ⟨hg, h.spent, h.length, h.rejected⟩
  | forgotPassword token' tokenHash =>
    simp only [PasswordReset.step] at hs
    split at hs <;> cases hs
    exact ⟨hg, h.spent, h.length, h.rejected⟩
  | resetPassword dto passwordHash =>
    cases hs
    refine ⟨hg, h.spent, ?_, fun q y hn hq ht => ?_⟩
    · rw [List.length_append]
      exact Nat.le_add_right_of_le h.length
    · rcases Calls.snoc_cases hq with hq | ⟨-, rfl⟩
      · exact h.rejected q y hn hq ht
      · exact phase_cases dto
  | execute p answer =>
    obtain ⟨x, hp, hs⟩ := Option.bind_eq_some_iff.mp hs
    obtain ⟨t, ph, rfl, ht, hsub⟩ := requestStep_move hs
    refine ⟨hg, hsub h.spent, ?_, fun q y hn hq hy => ?_⟩
    · rw [State.move, List.length_set, ht]
      exact h.length
    · rcases Calls.set_cases hq with ⟨rfl, rfl⟩ | ⟨-, hold⟩
      · exact read_rejected h.guarded (hy ▸ h.spent) hp (h.rejected q x hn hp hy) ho hs hq
      · exact h.rejected q y hn (ht ▸ hold) hy

theorem token_single_use (hc : TellsApart compare) (h : (machine compare).Reach Undisturbed s) (token : String) :
    SingleUse compare Undisturbed token s := by
  have hg : Guarded compare s := h.keep (fun _ _ _ hg ho hs => guarded_step hc hg ho hs) guarded_init
  refine ⟨List.nodup_iff_count_le_one.mp hg.once token, fun hm t ht p x hn hp htoken => ?_⟩
  have hstart : Spent compare token s.requests.length s := by
    refine ⟨hg, hm, Nat.le_refl _, fun q y hn hq _ => ?_⟩
    exact absurd (List.getElem?_eq_some_iff.mp hq).1 (Nat.not_lt.mpr hn)
  have hend : Spent compare token s.requests.length t :=
    ht.keep (fun _ _ _ hi ho hs => hi.step hc ho hs) hstart
  exact hend.rejected p x hn hp htoken

end

/-- The 72 bytes that bcrypt reads, with the text of a token as its own hash. -/
def first72 (text tokenHash : String) : Bool := text.toList.take 72 = tokenHash.toList

theorem first72_tellsApart : TellsApart first72 := by
  intro token text tokenHash htoken _ hhash htext
  have hlen : token.toList.length = 64 := of_decide_eq_true (Bool.and_eq_true_iff.mp htoken).1
  have hwhole : token.toList.take 72 = token.toList := List.take_of_length_le (by omega)
  have he : text.toList.take 72 = token.toList.take 72 := (of_decide_eq_true htext).trans (of_decide_eq_true hhash).symm
  rw [hwhole] at he
  have hshort := congrArg List.length he
  rw [List.length_take, hlen] at hshort
  rw [List.take_of_length_le (by omega)] at he
  exact String.toList_inj.mp he

def execute (p n : Nat) : List Action := List.replicate n (.execute p .done)

def token : String := "00112233445566778899aabbccddeeff00112233445566778899aabbccddeeff"

def requested : List Action := [.setUser ⟨true, "old"⟩, .forgotPassword token token]

def resetTo (passwordHash : String) : Action := .resetPassword ⟨"new password", token⟩ passwordHash

theorem token_single_use_reset :
    ∃ s t, ((machine first72).only Undisturbed).run init (requested ++ resetTo "first" :: execute 0 6) = some s ∧
      ((machine first72).only Undisturbed).run s (resetTo "second" :: execute 1 1) = some t ∧
      token ∈ s.changes ∧ t.requests[1]? = some ⟨token, "second", .throwing (.forbidden SysMsg.forbidden)⟩ ∧
      SingleUse first72 Undisturbed token s := by
  have h0 : (((machine first72).only Undisturbed).run init (requested ++ resetTo "first" :: execute 0 6)).map
        (fun s => (s.changes, (((machine first72).only Undisturbed).run s
          (resetTo "second" :: execute 1 1)).map (·.requests[1]?))) =
      some ([token], some (some ⟨token, "second", .throwing (.forbidden SysMsg.forbidden)⟩)) := by decide +kernel
  obtain ⟨s, hs, hst⟩ := Option.map_eq_some_iff.mp h0
  obtain ⟨hchanges, hst⟩ := Prod.mk.injEq .. ▸ hst
  obtain ⟨t, ht, hr⟩ := Option.map_eq_some_iff.mp hst
  exact ⟨s, t, hs, ht, hchanges ▸ List.mem_singleton_self _, hr,
    token_single_use first72_tellsApart (Machine.path_of_run_only hs) token⟩

/-- The mail fails after the password has been changed. -/
theorem reset_twice : ¬ ∀ s, (machine first72).Reach Free s → ∀ token, SingleUse first72 Free token s := by
  intro h
  have h0 : ((machine first72).run init (requested ++ resetTo "first" :: execute 0 4 ++
      .execute 0 (.failed "mail") :: resetTo "second" :: execute 1 4)).map (·.changes) =
      some [token, token] := by decide +kernel
  obtain ⟨s, hs, hchanges⟩ := Option.map_eq_some_iff.mp h0
  have hle := (h s (Machine.path_of_run hs) token).1
  rw [hchanges] at hle
  exact absurd hle (by decide)

end IntellApi.PasswordReset
