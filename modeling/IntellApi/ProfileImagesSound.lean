import IntellApi.ProfileImages
import IntellApi.Calls
import Mathlib.Data.List.Nodup

/-!
# Where each profile image's file is

A file at the host is the row's, or an unfinished upload is about to store or
remove it, or it is lost: then nothing in the program names it any more. An
upload passes its file to the row and gets the replaced one from it in one
step, the commit; between the lock and the commit nobody else changes the row.
-/

namespace IntellApi.ProfileImages

open Lts RowLocks

variable {toLowerCase : String → String} {cfg : CloudinaryConfig} {s t : State} {a : Action} {c d f : Nat}

/-! ## Holders of a file -/

def Upload.file : Upload → Option Nat
  | .findingUser img | .locking img | .inserting img _ | .findingSaved img _ | .committing img _ _ | .rollingBack img =>
    some img.cloudinaryPublicId
  | .removingOldFile publicId _ | .removingNewFile publicId _ => some publicId
  | .uploading _ | .returned _ | .threw _ => none

def Upload.holds (f : Nat) (call : Upload) : Bool := call.file == some f

def State.rowFile (s : State) : Option Nat := s.row.committed.map (·.cloudinaryPublicId)

def State.holders (s : State) (f : Nat) : Nat := (if s.rowFile = some f then 1 else 0) + s.calls.countP (·.holds f)

/-- The files that nothing names any more after the step. -/
def State.loses (s : State) : Action → List Nat
  | .uploaded c _ (.unanswered _) => if (s.calls[c]?).any (· matches .uploading _) then [s.uploads] else []
  | .committed c answer =>
    match s.calls[c]?, answer.applied with
    -- the row was another first upload's, which came between
    | some (.committing _ _ none), true => s.rowFile.toList
    | _, _ => []
  | .oldFileRemoved c (.failed _) | .newFileRemoved c (.failed _) => ((s.calls[c]?).bind (·.file)).toList
  | .userRemoved => s.rowFile.toList
  | _ => []

def losing (s : State) (a : Action) (_ : State) (lost : List Nat) : List Nat := lost ++ s.loses a

/-- A commit that goes through is also answered. -/
def Action.answered : Action → Prop
  | .committed _ (.unanswered _) => False
  | _ => True

/-! ## The lock of the row -/

/-- What a call's transaction knows of the row it has locked. -/
def Upload.Locked (c : Nat) (row : Row Nat ProfileImage) : Upload → Prop
  | .inserting _ (some existing) => row.holder = some c ∧ row.committed = some existing
  | .findingSaved img existing | .committing img _ existing =>
    row.lock = some (c, some img) ∧ ∀ e, existing = some e → row.committed = some e
  | _ => True

def Locks (s : State) : Prop := ∀ c (call : Upload), s.calls[c]? = some call → call.Locked c s.row

/-- A call loses nothing by what others do to a row it does not hold. -/
theorem Upload.Locked.frame {row row' : Row Nat ProfileImage} {call : Upload} (h : call.Locked c row)
    (hr : row.holder = some c → row' = row) : call.Locked c row' := by
  cases call with
  | inserting img existing =>
    cases existing with
    | none => trivial
    | some existing => rw [hr h.1]; exact h
  | findingSaved img existing | committing img saved existing =>
    rw [hr (Row.holder_of_lock h.1)]
    exact h
  | _ => trivial

/-- The call `c` moves on and does to the row only what its lock allows. -/
theorem Locks.move {row : Row Nat ProfileImage} {call : Upload} (h : Locks s)
    (hr : ∀ d, d ≠ c → s.row.holder = some d → row = s.row) (hc : call.Locked c row) (ht : t.calls = s.calls.set c call)
    (hw : t.row = row) : Locks t := by
  intro d u hd
  rw [hw]
  rw [ht] at hd
  rcases Calls.set_cases hd with ⟨rfl, rfl⟩ | ⟨hne, hd⟩
  · exact hc
  · exact (h d u hd).frame (hr d hne)

theorem Locks.setCall {call : Upload} (h : Locks s) (hc : call.Locked c s.row) : Locks (s.setCall c call) :=
  h.move (fun _ _ _ => rfl) hc rfl rfl

theorem others_of_free {row : Row Nat ProfileImage} (h : s.row.free c = true) (d : Nat) (hd : d ≠ c)
    (hh : s.row.holder = some d) : row = s.row :=
  absurd (Row.holder_of_free h hh) hd

theorem locked_oldFile (img saved : ProfileImage) (existing : Option ProfileImage) (row : Row Nat ProfileImage) :
    (oldFile img saved existing).Locked c row := by
  unfold oldFile
  cases existing with
  | none => trivial
  | some e => dsimp only; split <;> trivial

theorem acquire_of_free {row : Row Nat ProfileImage} (h : row.free c = true) :
    (row.acquire c).holder = some c ∧ (row.acquire c).committed = row.committed := by
  unfold Row.acquire
  split
  · rename_i l hl
    obtain ⟨u, d⟩ := l
    have hu := Row.holder_of_free h (Row.holder_of_lock hl)
    subst hu
    exact ⟨Row.holder_of_lock hl, rfl⟩
  · exact ⟨rfl, rfl⟩

theorem locks_step (h : Locks s) (hs : step toLowerCase cfg s a = some t) : Locks t := by
  cases a with
  | uploadProfileImage file error =>
    cases hs
    intro d u hd
    rcases Calls.snoc_cases hd with hd | ⟨-, rfl⟩
    · exact h d u hd
    · cases error with
      | some message => trivial
      | none => dsimp only; split <;> trivial
  | uploaded c res answer =>
    simp only [step] at hs
    split at hs
    · cases hs
      refine h.move (fun _ _ _ => rfl) ?_ rfl rfl
      cases answer <;> trivial
    · cases hs
  | userFound c error =>
    simp only [step] at hs
    split at hs
    · split at hs
      · cases hs; exact h.setCall trivial
      · split at hs <;> cases hs <;> exact h.setCall trivial
    · cases hs
  | locked c error =>
    simp only [step] at hs
    split at hs
    · split at hs
      · cases hs; exact h.setCall trivial
      · cases hs; exact h.setCall trivial
      · rename_i existing he
        rw [Option.ite_none_right_eq_some, Option.some.injEq] at hs
        obtain ⟨hf, rfl⟩ := hs
        have hq := acquire_of_free hf
        refine h.move (others_of_free hf) ?_ rfl rfl
        exact ⟨hq.1, hq.2.trans he⟩
    · cases hs
  | inserted c error =>
    simp only [step] at hs
    split at hs
    · rename_i img existing hc
      rw [Option.ite_none_right_eq_some] at hs
      obtain ⟨hf, hs⟩ := hs
      split at hs
      · cases hs; exact h.setCall trivial
      · cases hs
        refine h.move (others_of_free hf) ?_ rfl rfl
        refine ⟨rfl, fun e he => ?_⟩
        subst he
        exact (h c _ hc).2
    · cases hs
  | savedFound c error =>
    simp only [step] at hs
    split at hs
    · rename_i img existing hc
      split at hs
      · cases hs
        have hl := h c _ hc
        refine h.setCall ?_
        exact hl
      · cases hs; exact h.setCall trivial
    · cases hs
  | committed c answer =>
    simp only [step] at hs
    split at hs
    · rename_i img saved existing hc
      rw [Option.some.injEq] at hs
      subst hs
      have hl := Row.holder_of_lock (h c _ hc).1
      refine h.move (fun d hd hh => ?_) ?_ rfl rfl
      · rw [hl, Option.some.injEq] at hh
        exact absurd hh.symm hd
      · cases answer with
        | done => exact locked_oldFile ..
        | failed _ | unanswered _ => trivial
    · cases hs
  | rolledBack c error =>
    simp only [step] at hs
    split at hs
    · rename_i img hc
      rw [Option.some.injEq] at hs
      subst hs
      refine h.move (fun d hd hh => Row.rollback_other ?_) ?_ rfl rfl
      · rw [hh, Ne, Option.some.injEq]
        exact hd
      · trivial
    · cases hs
  | oldFileRemoved c answer | newFileRemoved c answer =>
    simp only [step] at hs
    split at hs
    · cases hs
      refine h.move (fun _ _ _ => rfl) ?_ rfl rfl
      trivial
    · cases hs
  | userRemoved =>
    simp only [step, Option.ite_none_right_eq_some, Option.some.injEq] at hs
    obtain ⟨hn, rfl⟩ := hs
    intro d u hd
    refine (h d u hd).frame fun hh => ?_
    rw [Row.holder, Option.isNone_iff_eq_none.mp hn] at hh
    cases hh

/-! ## The accounts of the files -/

/-- Each file is the row's, an unfinished upload's or lost, and only one of these. -/
structure Accounts (s : State) (lost : List Nat) : Prop where
  nodup : s.files.Nodup
  fresh : ∀ f ∈ s.files, f < s.uploads
  count : ∀ f, s.files.count f = s.holders f + lost.count f

theorem holds_eq_true {call : Upload} : call.holds f = true ↔ call.file = some f := by
  unfold Upload.holds
  rw [beq_iff_eq]

theorem holders_move {call call' : Upload} (hc : s.calls[c]? = some call) (ht : t.calls = s.calls.set c call') (f : Nat) :
    t.holders f + (if s.rowFile = some f then 1 else 0) + (if call.file = some f then 1 else 0) =
      s.holders f + (if t.rowFile = some f then 1 else 0) + if call'.file = some f then 1 else 0 := by
  have hp := Calls.countP_set (b := call') (·.holds f) hc
  simp only [holds_eq_true] at hp
  unfold State.holders
  rw [ht]
  omega

theorem deleteByPublicId_applied {files : List Nat} {answer : Answer} (ha : answer.applied = true) :
    deleteByPublicId files c answer = files.filter (· ≠ c) := if_pos ha

theorem count_filter_ne (files : List Nat) (p f : Nat) :
    (files.filter (· ≠ p)).count f = if f = p then 0 else files.count f := by
  split
  · rename_i h
    subst h
    exact List.count_eq_zero.mpr fun hm => by simpa using (List.mem_filter.mp hm).2
  · rename_i h
    exact List.count_filter (by simpa using h)

section
variable {lost : List Nat} {call call' : Upload} {p : Nat}

theorem Accounts.count_le_one (h : Accounts s lost) (f : Nat) : s.holders f + lost.count f ≤ 1 := by
  rw [← h.count]
  exact List.nodup_iff_count_le_one.mp h.nodup f

theorem Accounts.begin (h : Accounts s lost) (hf : call.file = none) :
    Accounts { s with calls := s.calls ++ [call] } (lost ++ []) := by
  refine ⟨h.nodup, h.fresh, fun f => ?_⟩
  show s.files.count f = _
  rw [h.count, List.append_nil]
  unfold State.holders State.rowFile
  rw [List.countP_append, List.countP_singleton, Upload.holds, hf]
  rfl

/-- The call moves on with its file, or still without one. -/
theorem Accounts.keep (h : Accounts s lost) (hc : s.calls[c]? = some call) (ht : t.calls = s.calls.set c call')
    (hf : call'.file = call.file) (hr : t.rowFile = s.rowFile) (hfs : t.files = s.files) (hu : t.uploads = s.uploads) :
    Accounts t (lost ++ []) := by
  refine ⟨hfs ▸ h.nodup, by rw [hfs, hu]; exact h.fresh, fun f => ?_⟩
  have hm := holders_move hc ht f
  rw [hf, hr] at hm
  rw [hfs, h.count, List.append_nil]
  omega

/-- The call has its file removed, and the file is gone or lost. -/
theorem Accounts.remove {answer : Answer} (h : Accounts s lost) (hc : s.calls[c]? = some call)
    (hp : call.file = some p) (ht : t.calls = s.calls.set c call') (hf : call'.file = none)
    (hr : t.rowFile = s.rowFile) (hfs : t.files = deleteByPublicId s.files p answer) (hu : t.uploads = s.uploads) :
    Accounts t (lost ++ if answer.applied then [] else [p]) := by
  have hm := holders_move hc ht
  simp only [hr, hf, hp, Option.some.injEq, reduceCtorEq, if_false] at hm
  cases ha : answer.applied with
  | true =>
    rw [deleteByPublicId_applied ha] at hfs
    refine ⟨hfs ▸ h.nodup.filter _, fun f hfm => ?_, fun f => ?_⟩
    · rw [hfs] at hfm
      rw [hu]
      exact h.fresh f (List.mem_of_mem_filter hfm)
    · have hle := h.count_le_one f
      have := hm f
      rw [hfs, count_filter_ne, h.count, if_pos rfl, List.append_nil]
      split
      · rename_i he
        subst he
        rw [if_pos rfl] at this
        omega
      · rename_i he
        rw [if_neg (Ne.symm he)] at this
        omega
  | false =>
    have hs : t.files = s.files := by rw [hfs, deleteByPublicId, ha]; rfl
    refine ⟨hs ▸ h.nodup, by rw [hs, hu]; exact h.fresh, fun f => ?_⟩
    have := hm f
    rw [hs, h.count, if_neg (by decide), List.count_append, List.count_singleton]
    simp only [beq_iff_eq]
    omega

theorem Accounts.upload (h : Accounts s lost) {answer : Answer} (hc : s.calls[c]? = some call) (hp : call.file = none)
    (ht : t.calls = s.calls.set c call') (hf : call'.file = if answer = .done then some s.uploads else none)
    (hr : t.rowFile = s.rowFile) (hfs : t.files = if answer.applied then s.files ++ [s.uploads] else s.files)
    (hu : t.uploads = s.uploads + 1) :
    Accounts t (lost ++ if answer.applied ∧ answer ≠ .done then [s.uploads] else []) := by
  have hnew : s.uploads ∉ s.files := fun hm => Nat.lt_irrefl _ (h.fresh _ hm)
  have hm := holders_move hc ht
  simp only [hp, hr, reduceCtorEq, if_false] at hm
  cases ha : answer.applied with
  | true =>
    rw [ha, if_pos rfl] at hfs
    refine ⟨?_, fun f hfm => ?_, fun f => ?_⟩
    · rw [hfs]
      exact h.nodup.append (List.nodup_singleton _) (List.disjoint_singleton.mpr hnew)
    · rw [hfs, List.mem_append, List.mem_singleton] at hfm
      rw [hu]
      rcases hfm with hfm | rfl
      · exact Nat.lt_succ_of_lt (h.fresh f hfm)
      · exact Nat.lt_succ_self _
    · have := hm f
      rw [hfs, List.count_append, List.count_append, h.count, List.count_singleton]
      by_cases hd : answer = .done
      · rw [hf, if_pos hd] at this
        simp only [hd, ne_eq, not_true_eq_false, and_false, if_false, List.count_nil, beq_iff_eq]
        simp only [Option.some.injEq] at this
        omega
      · rw [hf, if_neg hd] at this
        simp only [hd, ne_eq, not_false_eq_true, and_true, if_true, List.count_singleton, beq_iff_eq]
        simp only [reduceCtorEq, if_false] at this
        omega
  | false =>
    have hd : answer ≠ .done := by
      intro hd
      rw [hd] at ha
      cases ha
    have hs : t.files = s.files := by rw [hfs, ha]; rfl
    refine ⟨hs ▸ h.nodup, fun f hfm => ?_, fun f => ?_⟩
    · rw [hu]
      exact Nat.lt_succ_of_lt (h.fresh f (hs ▸ hfm))
    · have := hm f
      rw [hf, if_neg hd] at this
      simp only [reduceCtorEq, if_false] at this
      rw [hs, h.count]
      simp only [Bool.false_eq_true, false_and, if_false, List.append_nil]
      omega

/-- The commit puts the new file into the row, and gives the old one to the call, if it knows of it. -/
theorem Accounts.commit {img saved : ProfileImage} {existing : Option ProfileImage} (h : Accounts s lost)
    (hc : s.calls[c]? = some (.committing img saved existing)) (hl : s.row.lock = some (c, some img))
    (he : ∀ e, existing = some e → s.row.committed = some e) :
    Accounts { s.setCall c (oldFile img saved existing) with row := s.row.commit c }
      (lost ++ if existing.isNone then s.rowFile.toList else []) := by
  have hrow : (s.row.commit c).committed = some img := by rw [Row.commit_held (Row.holder_of_lock hl), hl]; rfl
  set t : State := { s.setCall c (oldFile img saved existing) with row := s.row.commit c }
  have hrf : t.rowFile = some img.cloudinaryPublicId := congrArg (Option.map ProfileImage.cloudinaryPublicId) hrow
  have hm := holders_move (t := t) hc rfl
  refine ⟨h.nodup, h.fresh, fun f => ?_⟩
  have hf := hm f
  rw [hrf] at hf
  simp only [Upload.file, Option.some.injEq] at hf
  show s.files.count f = _
  rw [h.count]
  cases existing with
  | none =>
    simp only [oldFile, reduceCtorEq, if_false] at hf
    rw [Option.isNone_none, if_pos rfl, List.count_append]
    cases hr : s.rowFile with
    | none =>
      rw [hr] at hf
      simp only [reduceCtorEq, if_false] at hf
      simp only [Option.toList_none, List.count_nil]
      omega
    | some r =>
      rw [hr] at hf
      simp only [Option.some.injEq] at hf
      simp only [Option.toList_some, List.count_singleton, beq_iff_eq]
      omega
  | some e =>
    have hr : s.rowFile = some e.cloudinaryPublicId := by rw [State.rowFile, he e rfl, Option.map_some]
    have hne : e.cloudinaryPublicId ≠ img.cloudinaryPublicId := by
      intro heq
      have hone := h.count_le_one img.cloudinaryPublicId
      have hpos : 0 < s.calls.countP (·.holds img.cloudinaryPublicId) :=
        List.countP_pos_iff.mpr ⟨_, List.mem_of_getElem? hc, holds_eq_true.mpr rfl⟩
      rw [State.holders, hr, heq, if_pos rfl] at hone
      omega
    rw [hr] at hf
    simp only [oldFile, if_pos hne, Option.some.injEq] at hf
    rw [Option.isNone_some, if_neg (by decide), List.append_nil]
    omega

theorem rowFile_of_committed {row : Row Nat ProfileImage} (ht : t.row = row) (hr : row.committed = s.row.committed) :
    t.rowFile = s.rowFile := by rw [State.rowFile, ht, hr, State.rowFile]

theorem accounts_step {lost : List Nat} (hl : Locks s) (h : Accounts s lost) (ha : a.answered)
    (hs : step toLowerCase cfg s a = some t) : Accounts t (lost ++ s.loses a) := by
  cases a with
  | uploadProfileImage file error =>
    cases hs
    refine h.begin ?_
    cases error with
    | some message => rfl
    | none => dsimp only; split <;> rfl
  | uploaded c res answer =>
    simp only [step] at hs
    split at hs
    · rename_i file hc
      cases hs
      have hl : s.loses (.uploaded c res answer) = if answer.applied ∧ answer ≠ .done then [s.uploads] else [] := by
        cases answer <;> simp [State.loses, Answer.applied, hc]
      rw [hl]
      refine h.upload hc rfl rfl ?_ rfl rfl rfl
      cases answer <;> rfl
    · cases hs
  | userFound c error =>
    simp only [step] at hs
    split at hs
    · rename_i img hc
      split at hs
      · cases hs; exact h.keep hc rfl rfl rfl rfl rfl
      · split at hs <;> cases hs <;> exact h.keep hc rfl rfl rfl rfl rfl
    · cases hs
  | locked c error =>
    simp only [step] at hs
    split at hs
    · rename_i img hc
      split at hs
      · cases hs; exact h.keep hc rfl rfl rfl rfl rfl
      · cases hs; exact h.keep hc rfl rfl rfl rfl rfl
      · rw [Option.ite_none_right_eq_some, Option.some.injEq] at hs
        obtain ⟨hf, rfl⟩ := hs
        exact h.keep hc rfl rfl (rowFile_of_committed rfl (acquire_of_free hf).2) rfl rfl
    · cases hs
  | inserted c error =>
    simp only [step] at hs
    split at hs
    · rename_i img existing hc
      rw [Option.ite_none_right_eq_some] at hs
      obtain ⟨-, hs⟩ := hs
      split at hs
      · cases hs; exact h.keep hc rfl rfl rfl rfl rfl
      · cases hs; exact h.keep hc rfl rfl rfl rfl rfl
    · cases hs
  | savedFound c error =>
    simp only [step] at hs
    split at hs
    · rename_i img existing hc
      split at hs <;> cases hs <;> exact h.keep hc rfl rfl rfl rfl rfl
    · cases hs
  | committed c answer =>
    simp only [step] at hs
    split at hs
    · rename_i img saved existing hc
      rw [Option.some.injEq] at hs
      subst hs
      have hk := hl c _ hc
      cases answer with
      | done =>
        have := h.commit hc hk.1 hk.2
        simp only [State.loses, hc, Answer.applied]
        cases existing <;> exact this
      | failed message =>
        simp only [State.loses, hc, Answer.applied]
        exact h.keep hc rfl rfl rfl rfl rfl
      | unanswered message => exact ha.elim
    · cases hs
  | rolledBack c error =>
    simp only [step] at hs
    split at hs
    · rename_i img hc
      rw [Option.some.injEq] at hs
      subst hs
      exact h.keep hc rfl rfl (rowFile_of_committed rfl (Row.rollback_committed ..)) rfl rfl
    · cases hs
  | oldFileRemoved c answer =>
    simp only [step] at hs
    split at hs
    · rename_i publicId saved hc
      cases hs
      have hl : s.loses (.oldFileRemoved c answer) = if answer.applied then [] else [publicId] := by
        cases answer <;> simp [State.loses, Answer.applied, hc, Upload.file]
      rw [hl]
      exact h.remove hc rfl rfl rfl rfl rfl rfl
    · cases hs
  | newFileRemoved c answer =>
    simp only [step] at hs
    split at hs
    · rename_i publicId error hc
      cases hs
      have hl : s.loses (.newFileRemoved c answer) = if answer.applied then [] else [publicId] := by
        cases answer <;> simp [State.loses, Answer.applied, hc, Upload.file]
      rw [hl]
      exact h.remove hc rfl rfl rfl rfl rfl rfl
    · cases hs
  | userRemoved =>
    simp only [step, Option.ite_none_right_eq_some, Option.some.injEq] at hs
    obtain ⟨-, rfl⟩ := hs
    refine ⟨h.nodup, h.fresh, fun f => ?_⟩
    show s.files.count f = _
    rw [h.count, List.count_append]
    unfold State.holders State.loses
    have hr : State.rowFile { s with user := false, row := .empty } = none := rfl
    rw [hr]
    simp only [reduceCtorEq, if_false]
    cases s.rowFile with
    | none => simp
    | some r => simp only [Option.some.injEq, Option.toList_some, List.count_singleton, beq_iff_eq]; omega

end

theorem locks_init : Locks init := fun c call h => by
  rw [init, List.getElem?_nil] at h
  cases h

theorem accounts_init : Accounts init [] where
  nodup := List.nodup_nil
  fresh f h := by cases h
  count f := by simp [State.holders, State.rowFile, init, Row.empty]

theorem accounts_of_reach {s : State × List Nat}
    (h : ((machine toLowerCase cfg).noting [] losing).Reach (fun _ a => a.answered) s) :
    Locks s.1 ∧ Accounts s.1 s.2 := by
  refine h.inv (I := fun s => Locks s.1 ∧ Accounts s.1 s.2) ⟨locks_init, accounts_init⟩ ?_
  intro s a t hi ha hs
  obtain ⟨hst, hn⟩ := Machine.step_noting hs
  refine ⟨locks_step hi.1 hst, ?_⟩
  rw [hn]
  exact accounts_step hi.1 hi.2 ha hst

/-- Whatever the uploads do to each other, the file the row names is there, and
a file at the host has exactly one of a row, an unfinished upload and an entry
in the losses. -/
theorem profile_image_files {s : State × List Nat}
    (h : ((machine toLowerCase cfg).noting [] losing).Reach (fun _ a => a.answered) s) :
    (∀ f, s.1.rowFile = some f → f ∈ s.1.files) ∧ s.1.files.Nodup ∧
      ∀ f, s.1.files.count f = s.1.holders f + s.2.count f := by
  have ha := (accounts_of_reach h).2
  refine ⟨fun f hf => ?_, ha.nodup, ha.count⟩
  rw [← List.count_pos_iff, ha.count, State.holders, if_pos hf]
  omega

instance : DecidablePred Action.answered := fun a => by
  unfold Action.answered
  split <;> infer_instance

def png : UploadApiResponse := ⟨"png", "https://files/a.png", "image", 1, "2026-01-01T00:00:00Z", "e", "v", "folder"⟩

/-- Two first uploads: both read that there is no row, and the second one replaces what the first has put there. -/
def firstUploads : List Action :=
  [.uploadProfileImage ⟨"A.png", 10, "image/png"⟩ none, .uploadProfileImage ⟨"B.png", 20, "image/png"⟩ none,
    .uploaded 0 png .done, .uploaded 1 png .done, .userFound 0 none, .userFound 1 none, .locked 0 none, .locked 1 none,
    .inserted 0 none, .savedFound 0 none, .committed 0 .done, .inserted 1 none, .savedFound 1 none, .committed 1 .done]

def accounted : Machine (State × List Nat) Action := (machine id ⟨"intell", "https://files"⟩).noting [] losing

theorem profile_image_files_firstUploads : ∃ s, (accounted.only fun _ a => a.answered).run (init, []) firstUploads = some s ∧
    s.1.rowFile = some 1 ∧ s.2 = [0] ∧ 1 ∈ s.1.files ∧ s.1.files.count 0 = s.1.holders 0 + s.2.count 0 := by
  have h0 : ((accounted.only fun _ a => a.answered).run (init, []) firstUploads).map (fun s => (s.1.rowFile, s.2)) =
      some (some 1, [0]) := by decide +kernel
  obtain ⟨s, hs, h0⟩ := Option.map_eq_some_iff.mp h0
  simp only [Prod.mk.injEq] at h0
  obtain ⟨hrow, hlost⟩ := h0
  have hf := profile_image_files (Machine.path_of_run_only hs)
  exact ⟨s, hs, hrow, hlost, hf.1 1 hrow, hf.2.2 0⟩

/-- As long as nothing is lost, the ended uploads have left the row's file and no other. -/
theorem profile_image_at_rest {s : State × List Nat} (h : ((machine toLowerCase cfg).noting [] losing).Reach
    (fun s a => a.answered ∧ s.1.loses a = []) s) (he : ∀ call ∈ s.1.calls, call.file = none) :
    s.1.files = s.1.rowFile.toList := by
  have hl : s.2 = [] := by
    refine h.inv (I := fun s => s.2 = []) rfl ?_
    intro s a t hi ha hs
    rw [(Machine.step_noting hs).2, losing, hi, ha.2]
    rfl
  have ha := (accounts_of_reach (h.mono fun _ _ ha => ha.1)).2
  have hn : ∀ f, s.1.calls.countP (·.holds f) = 0 := by
    intro f
    rw [List.countP_eq_zero]
    intro call hc hf
    rw [holds_eq_true, he call hc] at hf
    cases hf
  have hc : ∀ f, s.1.files.count f = s.1.rowFile.toList.count f := by
    intro f
    rw [ha.count, hl, State.holders, hn]
    cases s.1.rowFile with
    | none => rfl
    | some r => simp only [Option.some.injEq, Option.toList_some, List.count_singleton, beq_iff_eq, List.count_nil]; omega
  have hp := List.perm_iff_count.mpr hc
  cases hr : s.1.rowFile with
  | none =>
    rw [hr] at hp
    exact hp.eq_nil
  | some r =>
    rw [hr] at hp
    exact List.perm_singleton.mp hp

end IntellApi.ProfileImages
