import IntellApi.ReportsSound

/-!
# The rows of a series

Nothing but its deletion changes what a row says about its series, and an
execution carries along what it read there (`change_of_step`). The next
occurrence is inserted after the row it follows and a taken number is refused,
so without deletions the numbers of a series are 1, 2, ..., n in the order of
the rows (`series_numbered`).
-/

namespace IntellApi.Reports

open Lts

/-! ## What a row says about its series -/

structure Place where
  type : ReportType
  period : ReportPeriod
  referenceDate : Option Int
  seriesId : Option Uuid
  occurrence : Option Int
  deriving DecidableEq, Repr

def Report.place (r : Report) : Place :=
  { type := r.type, period := r.period, referenceDate := r.referenceDate, seriesId := r.seriesId,
    occurrence := r.occurrence }

def State.places (s : State) : List (Option Place) := s.reports.map (Option.map Report.place)

/-- The report an execution read and still goes by. -/
def Phase.report : Phase → Option Report
  | .claiming report | .computing report | .writing report _ | .scheduling report _ => some report
  | _ => none

def State.copies (s : State) : List Report := s.executions.filterMap (·.phase.report)

/-- The occurrence numbers of a series, in the order of the rows. -/
def State.occurrences (s : State) (seriesId : Uuid) : List (Option Int) :=
  s.reports.filterMap fun row => row.bind fun r => if r.seriesId = some seriesId then some r.occurrence else none

def Numbered (s : State) : Prop :=
  ∀ seriesId, ∃ n, s.occurrences seriesId = (List.range n).map fun i : Nat => some ((i : Int) + 1)

/-- No report is deleted. -/
def NoDelete (s : State) : Action → Prop
  | .request r _ =>
    match s.requests[r]? with
    | some (.deleting _) => False
    | _ => True
  | _ => True

instance (s : State) : ∀ a, Decidable (NoDelete s a)
  | .request r ok => by
    unfold NoDelete
    dsimp only
    split <;> infer_instance
  | .tick _ | .generateReport .. | .cancelReports .. | .deleteReports .. | .deliver _ | .execute _
  | .computationFails _ | .addRenewed .. | .crash _ | .resetStalledReports => instDecidableTrue

inductive Change (s : State) : Action → State → Prop
  | keep (a : Action) (s' : State) : s'.places = s.places → Change s a s'
  | delete (r : Nat) (ok : Bool) (id : Nat) (s' : State) : s.requests[r]? = some (.deleting id) →
      s'.places = s.places.set id none → Change s (.request r ok) s'
  | create (dto : ReportsDto) (userId seriesId : Uuid) (s' : State) :
      s.occurrenceTaken (generateReport dto userId seriesId s.clock) = false →
      s'.places = s.places ++ [some (generateReport dto userId seriesId s.clock).place] →
      Change s (.generateReport dto userId seriesId) s'
  | renew (e : Nat) (x : Execution) (r : Report) (d : Int) (renewed : Report) (s' : State) :
      s.executions[e]? = some x → x.phase = .scheduling r d → generateNewSeriesReport r d s.clock = some renewed →
      s.occurrenceTaken renewed = false → s'.places = s.places ++ [some renewed.place] → Change s (.execute e) s'

section
variable {tza : Int} {s s' : State} {a : Action} {e : Nat} {x : Execution}

theorem places_insert (r : Report) : (s.insert r).places = s.places ++ [some r.place] := by
  simp [State.places, State.insert]

theorem places_update (id : Nat) {f : Report → Report} (hf : ∀ r, (f r).place = r.place) :
    (s.update id f).places = s.places := by
  refine List.ext_getElem? fun i => ?_
  simp only [State.places, State.update, List.getElem?_map, List.getElem?_modify]
  by_cases h : id = i
  · subst h
    cases s.reports[id]? with
    | none => rfl
    | some row =>
      cases row with
      | none => simp
      | some r => simpa [Report.place] using hf r
  · simp [h]

theorem places_reset : (resetStalled s).places = s.places := by
  simp only [State.places, resetStalled, List.map_map]
  refine List.map_congr_left fun row _ => ?_
  cases row with
  | none => rfl
  | some r => by_cases h : stalled s.clock r = true <;> simp [h, Report.place]

theorem change_of_step (hw : Wf s) (h : step tza s a = some s') : Change s a s' := by
  have hev := event_of_step hw h
  cases hev with
  | tick ms => exact .keep _ _ rfl
  | create dto userId seriesId delay r _ =>
    simp only [step] at h
    split at h
    · cases h
    · rename_i ht
      refine .create dto userId seriesId _ (by simpa using ht) ?_
      split at h <;> exact (congrArg State.places (Option.some.inj h)).symm.trans (places_insert _)
  | ask a request _ => exact .keep _ _ rfl
  | add r id delay _ => exact .keep _ _ rfl
  | addFails r id delay _ => exact .keep _ _ rfl
  | cancel r ok id row _ _ _ => exact .keep _ _ (places_update id fun _ => rfl)
  | refuse r ok id _ => exact .keep _ _ rfl
  | delete r ok id hr => exact .delete r ok id _ hr (by simp [State.places, State.respond, List.map_set])
  | deliver j x _ _ _ => exact .keep _ _ rfl
  | reset => exact .keep _ _ places_reset
  | read e x r _ _ => exact .keep _ _ rfl
  | reject e x _ _ _ => exact .keep _ _ rfl
  | claim e x r row _ _ _ _ => exact .keep _ _ (places_update x.reportId fun _ => rfl)
  | lose e x r _ _ _ => exact .keep _ _ rfl
  | compute e x r d _ _ => exact .keep _ _ rfl
  | write e x r d ph _ _ _ => exact .keep _ _ (places_update x.reportId fun _ => rfl)
  | schedule e x r d _ _ => exact .keep _ _ rfl
  | renew e x r d delay renewed he hp _ =>
    simp only [step, he, Option.bind_some, hp, executionStep] at h
    split at h
    · exact .keep _ _ (congrArg State.places (Option.some.inj h)).symm
    · rename_i row hn
      split at h
      · exact .keep _ _ (congrArg State.places (Option.some.inj h)).symm
      · rename_i ht
        refine .renew e x r d row _ he hp hn (by simpa using ht) ?_
        split at h <;> exact (congrArg State.places (Option.some.inj h)).symm.trans (places_insert _)
  | finish e x _ _ => exact .keep _ _ rfl
  | throw e x _ _ => exact .keep _ _ rfl
  | failure e x r _ _ => exact .keep _ _ (places_update x.reportId fun _ => rfl)
  | addRenewed e x id delay ok _ _ => cases ok <;> exact .keep _ _ rfl
  | crash e x _ => exact .keep _ _ rfl

theorem copies_move {ph : Phase} {q : Report} (h : q ∈ (s.move e x ph).copies) :
    q ∈ s.copies ∨ ph.report = some q := by
  obtain ⟨y, hy, hq⟩ := List.mem_filterMap.mp h
  rcases List.mem_or_eq_of_mem_set hy with hy | rfl
  · exact .inl (List.mem_filterMap.mpr ⟨y, hy, hq⟩)
  · exact .inr hq

theorem mem_copies (he : s.executions[e]? = some x) {q : Report} (hq : x.phase.report = some q) : q ∈ s.copies :=
  List.mem_filterMap.mpr ⟨x, List.mem_of_getElem? he, hq⟩

/-- What an execution goes by is what it read in the row. -/
theorem copies_of_step (hw : Wf s) (h : step tza s a = some s') {q : Report} (hq : q ∈ s'.copies) :
    q ∈ s.copies ∨ some q ∈ s.reports := by
  have hev := event_of_step hw h
  have go : ∀ {t : State} {e : Nat} {x : Execution} {ph : Phase}, t.copies = s.copies →
      s.executions[e]? = some x → (ph.report = none ∨ ph.report = x.phase.report) →
      q ∈ (t.move e x ph).copies → q ∈ s.copies ∨ some q ∈ s.reports := by
    intro t e x ph ht he hp hq
    rcases copies_move hq with hq | hq
    · exact .inl (ht ▸ hq)
    · rcases hp with hp | hp
      · rw [hp] at hq
        cases hq
      · exact .inl (mem_copies he (hp ▸ hq))
  cases hev with
  | tick ms => exact .inl hq
  | create dto userId seriesId delay r _ => exact .inl hq
  | ask a request _ => exact .inl hq
  | add r id delay _ => exact .inl hq
  | addFails r id delay _ => exact .inl hq
  | cancel r ok id row _ _ _ => exact .inl hq
  | refuse r ok id _ => exact .inl hq
  | delete r ok id hr => exact .inl hq
  | deliver j x _ _ hp => exact .inl (by simpa [State.copies, List.filterMap_append, hp, Phase.report] using hq)
  | reset => exact .inl hq
  | read e x r he hp =>
    simp only [step, he, Option.bind_some, hp, executionStep] at h
    split at h
    · rename_i row hr
      rw [← Option.some.inj h] at hq
      rcases copies_move hq with hq | hq
      · exact .inl hq
      · split at hq <;> cases hq
        exact .inr (List.mem_of_getElem? (Option.join_eq_some_iff.mp hr))
    · rw [← Option.some.inj h] at hq
      exact go rfl he (.inl rfl) hq
  | reject e x he _ _ => exact go rfl he (.inl rfl) hq
  | claim e x r row he hp _ _ => exact go (t := s.update _ _) rfl he (.inr (by rw [hp]; rfl)) hq
  | lose e x r he _ _ => exact go rfl he (.inl rfl) hq
  | compute e x r d he hp => exact go rfl he (.inr (by rw [hp]; rfl)) hq
  | write e x r d ph he hp hph =>
    refine go (t := s.update _ _) rfl he ?_ hq
    rcases hph with rfl | ⟨rfl, _⟩
    · exact .inl rfl
    · exact .inr (by rw [hp]; rfl)
  | schedule e x r d he _ => exact go rfl he (.inl rfl) hq
  | renew e x r d delay renewed he hp _ => exact go (t := s.insert _) rfl he (.inl rfl) hq
  | finish e x he _ => exact go (t := { s with jobs := _ }) rfl he (.inl rfl) hq
  | throw e x he _ => exact go (t := { s with jobs := _ }) rfl he (.inl rfl) hq
  | failure e x r he _ => exact go (t := s.update _ _) rfl he (.inl rfl) hq
  | addRenewed e x id delay ok he _ => cases ok <;> exact go (t := _) rfl he (.inl rfl) hq
  | crash e x he => exact go rfl he (.inl rfl) hq

/-! ## Numbers -/

theorem occurrences_places (s : State) (seriesId : Uuid) :
    s.occurrences seriesId = s.places.filterMap fun place => place.bind fun p =>
      if p.seriesId = some seriesId then some p.occurrence else none := by
  rw [State.occurrences, State.places, List.filterMap_map]
  refine List.filterMap_congr fun row _ => ?_
  cases row <;> rfl

theorem occurrences_append {r : Report} (h : s'.places = s.places ++ [some r.place]) (seriesId : Uuid) :
    s'.occurrences seriesId =
      s.occurrences seriesId ++ if r.seriesId = some seriesId then [r.occurrence] else [] := by
  rw [occurrences_places, h, List.filterMap_append, ← occurrences_places]
  by_cases hr : r.seriesId = some seriesId <;> simp [hr, Report.place]

theorem mem_occurrences {seriesId : Uuid} {r : Report} (hm : some r.place ∈ s.places)
    (hr : r.seriesId = some seriesId) : r.occurrence ∈ s.occurrences seriesId := by
  rw [occurrences_places]
  exact List.mem_filterMap.mpr ⟨_, hm, by simp [Report.place, hr]⟩

theorem not_mem_occurrences {seriesId : Uuid} {r : Report} (ht : s.occurrenceTaken r = false)
    (hr : r.seriesId = some seriesId) : r.occurrence ∉ s.occurrences seriesId := by
  intro hm
  obtain ⟨row, hrow, hq⟩ := List.mem_filterMap.mp hm
  obtain ⟨q, rfl, hsome⟩ := Option.bind_eq_some_iff.mp hq
  simp only [Option.ite_none_right_eq_some, Option.some.injEq] at hsome
  have : s.occurrenceTaken r = true := by
    refine List.any_eq_true.mpr ⟨some q, hrow, ?_⟩
    simp [hsome.1, hsome.2, hr]
  rw [ht] at this
  cases this

/-- An execution goes by a row that still stands. -/
structure Followed (s : State) : Prop where
  numbered : Numbered s
  copies : ∀ q ∈ s.copies, some q.place ∈ s.places

theorem Numbered.append (h : Numbered s) {r : Report} (hp : s'.places = s.places ++ [some r.place])
    (hn : ∀ seriesId n, r.seriesId = some seriesId →
      s.occurrences seriesId = (List.range n).map (fun i : Nat => some ((i : Int) + 1)) →
      r.occurrence = some ((n : Int) + 1)) : Numbered s' := by
  intro seriesId
  obtain ⟨n, hs⟩ := h seriesId
  rw [occurrences_append hp]
  by_cases hr : r.seriesId = some seriesId
  · refine ⟨n + 1, ?_⟩
    rw [if_pos hr, hs, hn seriesId n hr hs, List.range_succ, List.map_append]
    rfl
  · refine ⟨n, ?_⟩
    rw [if_neg hr, List.append_nil, hs]

theorem generated_first {dto : ReportsDto} {userId seriesId sid : Uuid} {now : Int}
    (h : (generateReport dto userId seriesId now).seriesId = some sid) :
    (generateReport dto userId seriesId now).occurrence = some 1 := by
  cases hr : dto.range <;> by_cases hrec : dto.recurring = true <;> simp_all [generateReport]

theorem renewed_next {old renewed : Report} {d now : Int} (h : generateNewSeriesReport old d now = some renewed) :
    renewed.seriesId = old.seriesId ∧ ∃ k, old.occurrence = some k ∧ renewed.occurrence = some (k + 1) := by
  unfold generateNewSeriesReport at h
  split at h
  · rename_i sid k hs hk
    cases h
    exact ⟨hs.symm, k, hk, rfl⟩
  · cases h

theorem followed_step (hw : Wf s) (h : Followed s) (ho : NoDelete s a) (hs : step tza s a = some s') :
    Followed s' := by
  have hcopies : (∀ p ∈ s.places, p ∈ s'.places) → ∀ q ∈ s'.copies, some q.place ∈ s'.places := by
    intro hp q hq
    rcases copies_of_step hw hs hq with hq | hq
    · exact hp _ (h.copies q hq)
    · exact hp _ (List.mem_map_of_mem hq)
  cases change_of_step hw hs with
  | keep a s' hp =>
    refine ⟨fun seriesId => ?_, hcopies fun p hm => hp ▸ hm⟩
    rw [occurrences_places, hp, ← occurrences_places]
    exact h.numbered seriesId
  | delete r ok id s' hr _ => simp [NoDelete, hr] at ho
  | create dto userId seriesId s' ht hp =>
    refine ⟨h.numbered.append hp fun sid n hsid hn => ?_, hcopies fun p hm => hp ▸ List.mem_append_left _ hm⟩
    have hone := generated_first hsid
    have hfree := not_mem_occurrences ht hsid
    rw [hone, hn] at hfree
    rw [hone]
    cases n with
    | zero => rfl
    | succ n => exact absurd (List.mem_map.mpr ⟨0, by simp, rfl⟩) hfree
  | renew e x r d renewed s' he hx hr ht hp =>
    refine ⟨h.numbered.append hp fun sid n hsid hn => ?_, hcopies fun p hm => hp ▸ List.mem_append_left _ hm⟩
    obtain ⟨hseries, k, hk, hk'⟩ := renewed_next hr
    have hfree := not_mem_occurrences ht hsid
    have hold := mem_occurrences (h.copies r (mem_copies he (by rw [hx]; rfl))) (hseries ▸ hsid)
    rw [hn, hk] at hold
    rw [hn, hk'] at hfree
    rw [hk']
    -- the row that is followed has the last number, or the next one would be taken
    obtain ⟨i, hi, hik⟩ := List.mem_map.mp hold
    cases hik
    by_cases hlast : i + 1 = n
    · subst hlast
      rfl
    · refine absurd (List.mem_map.mpr ⟨i + 1, ?_, by simp⟩) hfree
      rw [List.mem_range] at hi ⊢
      omega

theorem followed_init : Followed init where
  numbered _ := ⟨0, rfl⟩
  copies _ hq := absurd hq List.not_mem_nil

/-- As long as no report is deleted, the rows of a series are its occurrences
1, 2, ..., n, each once and in this order. -/
theorem series_numbered (h : (machine tza).Reach NoDelete s) : Numbered s := by
  have hinv : Wf s ∧ Followed s := h.inv (I := fun s => Wf s ∧ Followed s) ⟨wf_init, followed_init⟩
    fun _ _ _ hi ho hs => ⟨wf_event hi.1 (event_of_step hi.1 hs), followed_step hi.1 hi.2 ho hs⟩
  exact hinv.2.numbered

end

def weeklyDto : ReportsDto := { inverterId := 1, type := .solar, name := "Solar", recurring := true, range := .weekly 0 }

/-- Two workers are handed the job; the one that claims the report renews it. -/
def renewedOnce : List Action :=
  [.generateReport weeklyDto 5 9, .request 0 true, .deliver 0, .deliver 0, .execute 0, .execute 1, .execute 0,
    .execute 1, .tick 600000000, .execute 0, .execute 0, .execute 0, .addRenewed 0 true]

theorem series_numbered_twice :
    ∃ s, ((machine 0).only NoDelete).run init renewedOnce = some s ∧ s.occurrences 9 = [some 1, some 2] ∧
      Numbered s := by
  have h0 : (((machine 0).only NoDelete).run init renewedOnce).map (·.occurrences 9) = some [some 1, some 2] := by
    decide +kernel
  obtain ⟨s, hs, ho⟩ := Option.map_eq_some_iff.mp h0
  exact ⟨s, hs, ho, series_numbered (Machine.path_of_run_only hs)⟩

end IntellApi.Reports
