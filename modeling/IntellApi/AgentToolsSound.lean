import IntellApi.AgentTools
import Mathlib.Data.List.Find

/-!
# The assistant knows one account

`Database.only` keeps the rows of one user. What a tool answers its user is the
same with these rows alone (`callTool_only`), and the rows of one user after
any history are those that the writes of this user's account make
(`only_after`): the answers do not depend on any other account.
-/

namespace IntellApi.AgentTools

open AlertReader Calendar Dashboard Metrics Reports Savings

/-! ## Histories -/

/-- The statements that change a row some tool reads. -/
inductive Write
  | connectInverter (row : InverterRow)
  | setActive (inverterId : Uuid) (isActive : Bool)
  | setOffline (inverterId : Uuid) (isOffline : Bool)
  | saveSettings (userId : Uuid) (settings : UserSettings)
  | saveMetric (metric : InvertersMetrics)
  | saveAlert (alert : AlertRow)
  | markAsResolved (alertId : Uuid)
  | removeUser (userId : Uuid)

namespace Database

def owns (db : Database) (userId inverterId : Uuid) : Bool :=
  db.inverters.any fun row => row.id = inverterId ∧ row.userId = userId

def apply (db : Database) : Write → Database
  | .connectInverter row =>
    if row.id ∈ db.issued.map (·.1) then db
    else { db with inverters := db.inverters ++ [row], issued := db.issued ++ [(row.id, row.userId)] }
  | .setActive inverterId isActive =>
    { db with inverters := db.inverters.map fun row => if row.id = inverterId then { row with isActive } else row }
  | .setOffline inverterId isOffline =>
    { db with inverters := db.inverters.map fun row => if row.id = inverterId then { row with isOffline } else row }
  | .saveSettings userId settings =>
    { db with settings := fun id => if id = userId then some settings else db.settings id }
  | .saveMetric metric =>
    -- the foreign key
    if db.inverters.any (·.id = metric.inverterId) then { db with metrics := db.metrics ++ [metric] } else db
  | .saveAlert alert => { db with alerts := db.alerts ++ [alert] }
  | .markAsResolved alertId =>
    { db with alerts := db.alerts.map fun a =>
        if a.id = alertId then { a with resolutionStatus := some .resolved } else a }
  | .removeUser userId =>
    -- an alert has no foreign key and stays
    { db with
      inverters := db.inverters.filter (·.userId ≠ userId)
      settings := fun id => if id = userId then none else db.settings id
      metrics := db.metrics.filter fun m => !db.owns userId m.inverterId }

/-- A write changes a row of the user. -/
def concerns (userId : Uuid) (db : Database) : Write → Bool
  | .connectInverter row => row.userId = userId ∧ row.id ∉ db.issued.map (·.1)
  | .setActive inverterId _ | .setOffline inverterId _ => db.owns userId inverterId
  | .saveSettings id _ | .removeUser id => id = userId
  | .saveMetric metric => db.owns userId metric.inverterId
  | .saveAlert alert => alert.userId = userId
  | .markAsResolved alertId => db.alerts.any fun a => a.id = alertId ∧ a.userId = userId

def only (userId : Uuid) (db : Database) : Database where
  inverters := db.inverters.filter (·.userId = userId)
  issued := db.issued.filter (·.2 = userId)
  settings id := if id = userId then db.settings id else none
  metrics := db.metrics.filter fun m => db.owns userId m.inverterId
  alerts := db.alerts.filter (·.userId = userId)

end Database

def after (history : List Write) : Database := history.foldl .apply .empty

def purged (userId : Uuid) (history : List Write) : List Write :=
  Purge.purge .apply (Database.concerns userId) .empty history

/-! ## Rows have one owner -/

structure Sound (db : Database) : Prop where
  once : (db.issued.map (·.1)).Nodup
  issued : ∀ row ∈ db.inverters, (row.id, row.userId) ∈ db.issued
  connected : ∀ m ∈ db.metrics, db.inverters.any (·.id = m.inverterId) = true

variable {db : Database} {userId id : Uuid} {w : Write}

theorem owner_unique {issued : List (Uuid × Uuid)} (h : (issued.map (·.1)).Nodup) {u v : Uuid}
    (hu : (id, u) ∈ issued) (hv : (id, v) ∈ issued) : u = v := by
  have heq := List.inj_on_of_nodup_map h hu hv rfl
  exact congrArg Prod.snd heq

theorem owns_iff : db.owns userId id = true ↔ ∃ row ∈ db.inverters, row.id = id ∧ row.userId = userId := by
  simp [Database.owns]

theorem Sound.owner (h : Sound db) (ho : (id, userId) ∈ db.issued) :
    ∀ row ∈ db.inverters, row.id = id → row.userId = userId := by
  rintro row hrow rfl
  exact owner_unique h.once (h.issued row hrow) ho

theorem sound_empty : Sound .empty := ⟨List.nodup_nil, by simp [Database.empty], by simp [Database.empty]⟩

theorem any_map {f : InverterRow → InverterRow} (hf : ∀ row, (f row).id = row.id) (rows : List InverterRow) :
    (rows.map f).any (·.id = id) = rows.any (·.id = id) := by
  simp [List.any_map, Function.comp_def, hf]

theorem Sound.mapInverters (h : Sound db) {f : InverterRow → InverterRow}
    (hf : ∀ row, (f row).id = row.id ∧ (f row).userId = row.userId) :
    Sound { db with inverters := db.inverters.map f } where
  once := h.once
  issued row hrow := by
    obtain ⟨row', hrow', rfl⟩ := List.mem_map.mp hrow
    rw [(hf row').1, (hf row').2]
    exact h.issued row' hrow'
  connected m hm := by
    rw [any_map fun row => (hf row).1]
    exact h.connected m hm

theorem sound_apply (h : Sound db) : Sound (db.apply w) := by
  cases w with
  | connectInverter row =>
    by_cases hnew : row.id ∈ db.issued.map (·.1)
    · rwa [Database.apply, if_pos hnew]
    · rw [Database.apply, if_neg hnew]
      refine ⟨?_, ?_, ?_⟩
      · rw [List.map_append]
        exact List.nodup_append.mpr ⟨h.once, List.nodup_singleton _, by
          rintro id hid id' hid' rfl
          rw [List.mem_singleton.mp hid'] at hid
          exact hnew hid⟩
      · intro row' hrow'
        rcases List.mem_append.mp hrow' with hrow' | hrow'
        · exact List.mem_append_left _ (h.issued row' hrow')
        · rw [List.mem_singleton.mp hrow']
          exact List.mem_append_right _ (List.mem_singleton_self _)
      · intro m hm
        rw [List.any_append, h.connected m hm, Bool.true_or]
  | setActive inverterId isActive =>
    exact h.mapInverters fun row => by split <;> exact ⟨rfl, rfl⟩
  | setOffline inverterId isOffline =>
    exact h.mapInverters fun row => by split <;> exact ⟨rfl, rfl⟩
  | saveSettings => exact ⟨h.once, h.issued, h.connected⟩
  | saveMetric metric =>
    by_cases hin : db.inverters.any (·.id = metric.inverterId) = true
    · rw [Database.apply, if_pos hin]
      refine ⟨h.once, h.issued, ?_⟩
      intro m hm
      rcases List.mem_append.mp hm with hm | hm
      · exact h.connected m hm
      · rw [List.mem_singleton.mp hm]
        exact hin
    · rwa [Database.apply, if_neg hin]
  | saveAlert => exact ⟨h.once, h.issued, h.connected⟩
  | markAsResolved => exact ⟨h.once, h.issued, h.connected⟩
  | removeUser u =>
    refine ⟨h.once, fun row hrow => h.issued row (List.mem_of_mem_filter hrow), ?_⟩
    intro m hm
    obtain ⟨hm, hkept⟩ := List.mem_filter.mp hm
    obtain ⟨row, hrow, hid⟩ := List.any_eq_true.mp (h.connected m hm)
    refine List.any_eq_true.mpr ⟨row, List.mem_filter.mpr ⟨hrow, ?_⟩, hid⟩
    refine decide_eq_true fun hu => ?_
    have howns : db.owns u m.inverterId = true := owns_iff.mpr ⟨row, hrow, of_decide_eq_true hid, hu⟩
    rw [howns] at hkept
    cases hkept

theorem issued_apply : db.issued ⊆ (db.apply w).issued := by
  cases w with
  | connectInverter row =>
    simp only [Database.apply]
    split
    · exact List.Subset.refl _
    · exact List.subset_append_left _ _
  | saveMetric metric =>
    simp only [Database.apply]
    split <;> exact List.Subset.refl _
  | _ => exact List.Subset.refl _

/-! ## The rows of one user -/

theorem owns_congr {db db' : Database} (h : ∀ row : InverterRow, row.userId = userId →
    (row ∈ db.inverters ↔ row ∈ db'.inverters)) : db.owns userId id = db'.owns userId id := by
  refine Bool.eq_iff_iff.mpr (owns_iff.trans (Iff.trans ?_ owns_iff.symm))
  constructor
  · rintro ⟨row, hrow, hid, hu⟩
    exact ⟨row, (h row hu).mp hrow, hid, hu⟩
  · rintro ⟨row, hrow, hid, hu⟩
    exact ⟨row, (h row hu).mpr hrow, hid, hu⟩

@[simp] theorem owns_only : (db.only userId).owns userId id = db.owns userId id := by
  refine owns_congr fun row hu => ?_
  simp [Database.only, hu]

theorem any_only : (db.only userId).inverters.any (·.id = id) = db.owns userId id := by
  simp only [Database.only, List.any_filter, Database.owns, Bool.decide_and]
  congr 1
  funext row
  exact Bool.and_comm _ _

theorem any_of_owns (h : db.owns userId id = true) : db.inverters.any (·.id = id) = true := by
  obtain ⟨row, hrow, hid, -⟩ := owns_iff.mp h
  exact List.any_eq_true.mpr ⟨row, hrow, decide_eq_true hid⟩

theorem only_mapInverters {f : InverterRow → InverterRow}
    (hf : ∀ row, (f row).id = row.id ∧ (f row).userId = row.userId) :
    Database.only userId { db with inverters := db.inverters.map f } =
      { db.only userId with inverters := (db.only userId).inverters.map f } := by
  have howns : ∀ id, Database.owns { db with inverters := db.inverters.map f } userId id = db.owns userId id := by
    intro id
    simp [Database.owns, List.any_map, Function.comp_def, hf]
  simp [Database.only, howns, List.filter_map, Function.comp_def, hf]

/-- A change of inverters that the user does not own. -/
theorem map_only_of_not_owns {f : InverterRow → InverterRow} (hf : ∀ row : InverterRow, row.id ≠ id → f row = row)
    (h : db.owns userId id = false) :
    { db.only userId with inverters := (db.only userId).inverters.map f } = db.only userId := by
  have hmap : ∀ row ∈ (db.only userId).inverters, f row = row := by
    intro row hrow
    obtain ⟨hrow, hu⟩ := List.mem_filter.mp hrow
    refine hf row fun hid => ?_
    exact absurd (owns_iff.mpr ⟨row, hrow, hid, of_decide_eq_true hu⟩) (Bool.eq_false_iff.mp h)
  rw [List.map_congr_left hmap, List.map_id']

theorem only_mapInverters_eq {f : InverterRow → InverterRow}
    (hf : ∀ row, (f row).id = row.id ∧ (f row).userId = row.userId)
    (hid : ∀ row : InverterRow, row.id ≠ id → f row = row) :
    Database.only userId { db with inverters := db.inverters.map f } =
      if db.owns userId id then { db.only userId with inverters := (db.only userId).inverters.map f }
      else db.only userId := by
  rw [only_mapInverters hf]
  split
  · rfl
  · rename_i h
    exact map_only_of_not_owns hid (Bool.eq_false_iff.mpr h)

theorem only_connect (hs : Sound db) {row : InverterRow} (hnew : row.id ∉ db.issued.map (·.1)) :
    (db.apply (.connectInverter row)).only userId =
      if row.userId = userId then (db.only userId).apply (.connectInverter row) else db.only userId := by
  have hold : row.id ∉ (db.only userId).issued.map (·.1) := by
    intro h
    obtain ⟨p, hp, he⟩ := List.mem_map.mp h
    exact hnew (List.mem_map.mpr ⟨p, List.mem_of_mem_filter hp, he⟩)
  rw [Database.apply, if_neg hnew]
  -- no reading comes before its inverter
  have hmetrics : (db.metrics.filter fun m => Database.owns { db with
      inverters := db.inverters ++ [row], issued := db.issued ++ [(row.id, row.userId)] } userId m.inverterId) =
      db.metrics.filter fun m => db.owns userId m.inverterId := by
    refine List.filter_congr fun m hm => ?_
    obtain ⟨old, hold, hid⟩ := List.any_eq_true.mp (hs.connected m hm)
    have hne : row.id ≠ m.inverterId := by
      intro he
      exact hnew (List.mem_map.mpr ⟨_, hs.issued old hold, (of_decide_eq_true hid).trans he.symm⟩)
    simp [Database.owns, hne]
  by_cases hu : row.userId = userId
  · rw [if_pos hu, Database.apply, if_neg hold]
    simp only [Database.only, hmetrics]
    simp [hu]
  · rw [if_neg hu]
    simp only [Database.only, hmetrics]
    simp [hu]

theorem only_saveMetric {metric : InvertersMetrics} :
    (db.apply (.saveMetric metric)).only userId =
      if db.owns userId metric.inverterId then (db.only userId).apply (.saveMetric metric) else db.only userId := by
  by_cases hin : db.inverters.any (·.id = metric.inverterId) = true
  · rw [Database.apply, if_pos hin, Database.apply, any_only]
    by_cases howns : db.owns userId metric.inverterId = true
    · rw [if_pos howns, if_pos howns]
      refine Database.ext rfl rfl rfl ?_ rfl
      exact (List.filter_append _ _).trans (congrArg _ (List.filter_cons_of_pos howns))
    · rw [if_neg howns]
      have hlast : [metric].filter (fun m => db.owns userId m.inverterId) = [] := List.filter_cons_of_neg howns
      refine Database.ext rfl rfl rfl ?_ rfl
      exact (List.filter_append _ _).trans ((congrArg (_ ++ ·) hlast).trans (List.append_nil _))
  · have howns : ¬ db.owns userId metric.inverterId = true := fun h => hin (any_of_owns h)
    rw [Database.apply, if_neg hin, if_neg howns]

theorem only_markAsResolved {alertId : Uuid} : (db.apply (.markAsResolved alertId)).only userId =
    if db.concerns userId (.markAsResolved alertId) then (db.only userId).apply (.markAsResolved alertId)
    else db.only userId := by
  have hcomm : (db.apply (.markAsResolved alertId)).only userId = (db.only userId).apply (.markAsResolved alertId) := by
    refine Database.ext rfl rfl rfl rfl ?_
    refine List.filter_map.trans (congrArg (List.map _) (List.filter_congr fun a _ => ?_))
    simp only [Function.comp_def]
    split <;> rfl
  rw [hcomm]
  split
  · rfl
  · rename_i h
    refine Database.ext rfl rfl rfl rfl ?_
    refine (List.map_congr_left fun a ha => ?_).trans (List.map_id' _)
    obtain ⟨ha, hu⟩ := List.mem_filter.mp ha
    refine if_neg fun hid => h (List.any_eq_true.mpr ⟨a, ha, ?_⟩)
    exact decide_eq_true ⟨hid, of_decide_eq_true hu⟩

theorem only_removeUser (hs : Sound db) {u : Uuid} : (db.apply (.removeUser u)).only userId =
    if u = userId then (db.only userId).apply (.removeUser u) else db.only userId := by
  by_cases hu : u = userId
  · subst hu
    rw [if_pos rfl]
    refine Database.ext (List.filter_comm ..) rfl ?_ ?_ rfl
    · funext id
      by_cases h : id = u <;> simp [Database.only, Database.apply, h]
    · -- the user has no inverter left, and no other reading was his
      have hnone : ∀ id, (db.apply (.removeUser u)).owns u id = false := by
        intro id
        refine Bool.eq_false_iff.mpr fun h => ?_
        obtain ⟨row, hrow, -, hu⟩ := owns_iff.mp h
        exact absurd hu (of_decide_eq_true (List.mem_filter.mp hrow).2)
      have hleft : ((db.apply (.removeUser u)).only u).metrics = [] := by
        refine List.filter_eq_nil_iff.mpr fun m _ => ?_
        rw [hnone]
        exact Bool.false_ne_true
      rw [hleft]
      refine (List.filter_eq_nil_iff.mpr fun m hm => ?_).symm
      rw [owns_only, (List.mem_filter.mp hm).2]
      exact Bool.false_ne_true
  · rw [if_neg hu]
    have howns : ∀ id, (db.apply (.removeUser u)).owns userId id = db.owns userId id := by
      intro id
      refine owns_congr fun row hrow => ?_
      simp [Database.apply, hrow, Ne.symm hu]
    refine Database.ext ?_ rfl ?_ ?_ rfl
    · refine List.filter_filter.trans (List.filter_congr fun row _ => ?_)
      by_cases h : row.userId = userId <;> simp [h, Ne.symm hu]
    · funext id
      by_cases h : id = userId <;> simp [Database.only, Database.apply, h, Ne.symm hu]
    · refine List.filter_filter.trans (List.filter_congr fun m _ => ?_)
      rw [howns]
      cases hm : db.owns userId m.inverterId with
      | false => rfl
      | true =>
        obtain ⟨row, hrow, hid, hown⟩ := owns_iff.mp hm
        have hother : db.owns u m.inverterId = false := by
          refine Bool.eq_false_iff.mpr fun h => ?_
          obtain ⟨row', hrow', hid', hu'⟩ := owns_iff.mp h
          have hissued := hs.issued row hrow
          rw [hid, hown] at hissued
          exact hu (hu'.symm.trans (hs.owner hissued row' hrow' hid'))
        rw [hother]
        rfl

theorem only_apply (hs : Sound db) :
    (db.apply w).only userId = if db.concerns userId w then (db.only userId).apply w else db.only userId := by
  cases w with
  | connectInverter row =>
    by_cases hnew : row.id ∈ db.issued.map (·.1)
    · have hno : db.concerns userId (.connectInverter row) = false := decide_eq_false fun h => h.2 hnew
      rw [hno, Database.apply, if_pos hnew]
      rfl
    · rw [only_connect hs hnew]
      by_cases hu : row.userId = userId <;> simp [Database.concerns, hnew, hu]
  | setActive inverterId isActive =>
    refine only_mapInverters_eq (fun row => ?_) fun row hid => if_neg hid
    split <;> exact ⟨rfl, rfl⟩
  | setOffline inverterId isOffline =>
    refine only_mapInverters_eq (fun row => ?_) fun row hid => if_neg hid
    split <;> exact ⟨rfl, rfl⟩
  | saveSettings id settings =>
    by_cases hid : id = userId
    · simp only [Database.concerns, hid, decide_true, if_true]
      refine Database.ext rfl rfl ?_ rfl rfl
      funext v
      by_cases hv : v = userId <;> simp [Database.only, Database.apply, hv]
    · simp only [Database.concerns, hid, decide_false, Bool.false_eq_true, if_false]
      refine Database.ext rfl rfl ?_ rfl rfl
      funext v
      by_cases hv : v = userId <;> simp [Database.only, Database.apply, hv, Ne.symm hid]
  | saveMetric metric => exact only_saveMetric
  | saveAlert alert =>
    by_cases hu : alert.userId = userId
    · simp only [Database.concerns, hu, decide_true, if_true]
      exact Database.ext rfl rfl rfl rfl (by simp [Database.only, Database.apply, hu])
    · simp only [Database.concerns, hu, decide_false, Bool.false_eq_true, if_false]
      exact Database.ext rfl rfl rfl rfl (by simp [Database.only, Database.apply, hu])
  | markAsResolved alertId => exact only_markAsResolved
  | removeUser u =>
    rw [only_removeUser hs]
    by_cases hu : u = userId <;> simp [Database.concerns, hu]

theorem sound_after (history : List Write) : Sound (after history) :=
  Purge.foldl_keep (fun _ _ => sound_apply) history _ sound_empty

theorem only_after (history : List Write) : (after history).only userId = after (purged userId history) := by
  have hview : ∀ db w, Sound db → Database.only userId (Database.apply db w) =
      if Database.concerns userId db w then Database.apply (db.only userId) w else db.only userId :=
    fun _ _ => only_apply
  refine (Purge.view_foldl (fun _ _ => sound_apply) hview history .empty sound_empty).trans ?_
  refine congrArg (List.foldl _ · _) ?_
  exact Database.ext rfl rfl (funext fun id => ite_self none) rfl rfl

/-! ## What a query of the user's own inverter sees -/

/-- The states that the queries of one call see are states of one history. -/
structure OneHistory (reads : Nat → Database) (issued : List (Uuid × Uuid)) : Prop where
  once : (issued.map (·.1)).Nodup
  sound : ∀ q, Sound (reads q)
  sub : ∀ q, (reads q).issued ⊆ issued

section
variable {reads : Nat → Database} {issued : List (Uuid × Uuid)} {inverterId : Uuid}

theorem OneHistory.owner (h : OneHistory reads issued) (ho : (inverterId, userId) ∈ issued) {q : Nat}
    {row : InverterRow} (hrow : row ∈ (reads q).inverters) (hid : row.id = inverterId) : row.userId = userId := by
  subst hid
  exact owner_unique h.once (h.sub q ((h.sound q).issued row hrow)) ho

theorem OneHistory.inverter (h : OneHistory reads issued) (ho : (inverterId, userId) ∈ issued) (q : Nat) :
    ((reads q).only userId).inverter inverterId = (reads q).inverter inverterId := by
  unfold Database.inverter
  rw [Database.only, List.find?_filter]
  refine congrArg _ ?_
  refine List.find?_congr fun row hrow => ?_
  by_cases hid : row.id = inverterId
  · simp [hid, h.owner ho hrow hid]
  · simp [hid]

theorem OneHistory.readings (h : OneHistory reads issued) (ho : (inverterId, userId) ∈ issued) (q : Nat)
    (keep : Int → Bool) : Metrics.readings ((reads q).only userId).metrics inverterId keep =
      Metrics.readings (reads q).metrics inverterId keep := by
  refine List.filter_filter.trans (List.filter_congr fun m hm => ?_)
  by_cases hid : m.inverterId = inverterId
  · obtain ⟨row, hrow, hrid⟩ := List.any_eq_true.mp ((h.sound q).connected m hm)
    have hrid := (of_decide_eq_true hrid).trans hid
    have howns : (reads q).owns userId m.inverterId = true :=
      owns_iff.mpr ⟨row, hrow, hrid.trans hid.symm, h.owner ho hrow hrid⟩
    simp [howns]
  · simp [hid]

/-- Tables that hold the same of an inverter: its row, its readings and the settings of its owner. -/
structure SameFor (inverterId : Uuid) (db db' : Tables) : Prop where
  inverter : db.inverters inverterId = db'.inverters inverterId
  settings : ∀ inverter, db.inverters inverterId = some inverter →
    db.settings inverter.userId = db'.settings inverter.userId
  readings : ∀ keep, Metrics.readings db.metrics inverterId keep = Metrics.readings db'.metrics inverterId keep

theorem Database.inverter_some {inverter : Inverter} (h : db.inverter id = some inverter) :
    ∃ row ∈ db.inverters, row.id = id ∧ row.toInverter = inverter := by
  unfold Database.inverter at h
  obtain ⟨row, hf, rfl⟩ := Option.map_eq_some_iff.mp h
  exact ⟨row, List.mem_of_find?_eq_some hf, by simpa using List.find?_some hf, rfl⟩

theorem OneHistory.tables (h : OneHistory reads issued) (ho : (inverterId, userId) ∈ issued) (q : Nat) :
    SameFor inverterId (tables (fun q => (reads q).only userId) q) (tables reads q) where
  inverter := h.inverter ho q
  settings inverter hi := by
    obtain ⟨row, hrow, hid, rfl⟩ := Database.inverter_some ((h.inverter ho q).symm.trans hi)
    exact if_pos (h.owner ho hrow hid)
  readings keep := h.readings ho (q + 2) keep

end

section
variable {inverterId : Uuid} {t t' : Tables} {tza now : Int}

theorem SameFor.savingsRows (h : SameFor inverterId t t') (brand : InverterBrand) (window : Window)
    (group : Granularity) :
    t.savingsRows brand inverterId window group = t'.savingsRows brand inverterId window group := by
  unfold Tables.savingsRows
  rw [h.readings]

theorem SameFor.monthRows (h : SameFor inverterId t t') (brand : InverterBrand) :
    t.monthRows brand inverterId = t'.monthRows brand inverterId := by
  unfold Tables.monthRows
  rw [h.readings]

theorem latestReading_congr {metrics metrics' : List InvertersMetrics}
    (h : ∀ keep, readings metrics inverterId keep = readings metrics' inverterId keep) :
    latestReading metrics inverterId = latestReading metrics' inverterId := by
  have hall := h fun _ => true
  simp only [readings, Bool.and_true] at hall
  unfold latestReading
  rw [hall]

theorem SameFor.periodSavings (h : SameFor inverterId t t') (period : Period) (date : Int) :
    agentPeriodSavings tza t inverterId period date = agentPeriodSavings tza t' inverterId period date := by
  unfold agentPeriodSavings
  rw [← h.inverter]
  cases hi : t.inverters inverterId with
  | none => rfl
  | some inverter => simp only [h.settings inverter hi, h.savingsRows]

theorem SameFor.cumulativeSavings (h : SameFor inverterId t t') :
    agentCumulativeSavings t inverterId = agentCumulativeSavings t' inverterId := by
  unfold agentCumulativeSavings
  rw [← h.inverter]
  cases hi : t.inverters inverterId with
  | none => rfl
  | some inverter => simp only [h.settings inverter hi, h.monthRows]

theorem SameFor.customRangeSavings (h : SameFor inverterId t t') (startDate endDate : Int) :
    agentCustomRangeSavings t inverterId startDate endDate =
      agentCustomRangeSavings t' inverterId startDate endDate := by
  unfold agentCustomRangeSavings
  have hsettings : ((t.inverters inverterId).bind fun i => t.settings i.userId) =
      (t.inverters inverterId).bind fun i => t'.settings i.userId := by
    cases hi : t.inverters inverterId with
    | none => rfl
    | some inverter => exact h.settings inverter hi
  simp only [hsettings, ← h.inverter, h.savingsRows]

theorem SameFor.systemInsights (h : SameFor inverterId t t') :
    getSystemInsights t now inverterId = getSystemInsights t' now inverterId := by
  unfold getSystemInsights
  rw [← h.inverter, ← latestReading_congr h.readings]
  cases hi : t.inverters inverterId with
  | none => cases Metrics.latestReading t.metrics inverterId <;> rfl
  | some inverter =>
    cases Metrics.latestReading t.metrics inverterId with
    | none => rfl
    | some latest => simp only [h.settings inverter hi]

end

/-! ## The tools -/

theorem findFirst_only {order : ByAge} : findFirstIdByUserId order (db.only userId) userId =
    findFirstIdByUserId order db userId := by
  unfold findFirstIdByUserId Database.only
  rw [List.filter_filter]
  simp only [Bool.and_self]

theorem findFirst_mem {order : ByAge} (h : findFirstIdByUserId order db userId = some id) :
    ∃ row ∈ db.inverters, row.id = id ∧ row.userId = userId := by
  unfold findFirstIdByUserId at h
  obtain ⟨row, hhead, rfl⟩ := Option.map_eq_some_iff.mp h
  have hmem := (order.perm _).mem_iff.mp (List.mem_of_head? hhead)
  exact ⟨row, List.mem_of_mem_filter hmem, rfl, of_decide_eq_true (List.mem_filter.mp hmem).2⟩

theorem whereOptions_user {zone : SessionZone} {options : FindAlertsDto} {found : WhereOptions}
    (h : whereOptions zone options userId = .ok found) : found.userId = userId := by
  unfold whereOptions at h
  obtain ⟨_, _, h⟩ := bind_eq_ok.mp h
  obtain ⟨_, _, h⟩ := bind_eq_ok.mp h
  obtain ⟨_, _, h⟩ := bind_eq_ok.mp h
  obtain ⟨_, _, h⟩ := bind_eq_ok.mp h
  obtain ⟨_, _, h⟩ := bind_eq_ok.mp h
  cases h
  rfl

theorem readAlert_only {zone : SessionZone} {filters : Filters} :
    readAlert zone (db.only userId).alerts filters userId = readAlert zone db.alerts filters userId := by
  unfold readAlert AlertReader.findAlertsWhere
  cases h : whereOptions zone filters.dto userId with
  | error e => rfl
  | ok found =>
    have hrows : (db.only userId).alerts.filter found.selects = db.alerts.filter found.selects := by
      refine List.filter_filter.trans (List.filter_congr fun a _ => ?_)
      by_cases hu : a.userId = userId
      · simp [hu]
      · simp [hu, WhereOptions.selects, whereOptions_user h]
    simp only [bind, Except.bind, hrows]

section
variable {env : Env} {reads : Nat → Database} {issued : List (Uuid × Uuid)} {inverterId : Uuid}

theorem OneHistory.first (h : OneHistory reads issued) {q : Nat}
    (hf : findFirstIdByUserId env.order (reads q) userId = some inverterId) : (inverterId, userId) ∈ issued := by
  obtain ⟨row, hrow, rfl, rfl⟩ := findFirst_mem hf
  exact h.sub q ((h.sound q).issued row hrow)

theorem getMetricsForAgent_only (h : OneHistory reads issued) (ho : (inverterId, userId) ∈ issued) (q : Nat)
    (input : MetricsInput) : getMetricsForAgent env (fun q => (reads q).only userId) q inverterId input =
      getMetricsForAgent env reads q inverterId input := by
  unfold getMetricsForAgent getEnergyUsage
  simp only [latestReading_congr (h.readings ho q), h.inverter ho, h.readings ho]

theorem readMetrics_only (h : OneHistory reads issued) (input : MetricsInput) :
    readMetrics env (fun q => (reads q).only userId) userId input = readMetrics env reads userId input := by
  unfold readMetrics
  simp only [findFirst_only]
  cases hf : findFirstIdByUserId env.order (reads 0) userId with
  | none => rfl
  | some firstId =>
    cases hi : input.inverterId with
    | some inverterId =>
      by_cases he : firstId = inverterId
      · subst he
        simp only [getMetricsForAgent_only h (h.first hf)]
      · simp [he]
    | none =>
      cases hf' : findFirstIdByUserId env.order (reads 1) userId with
      | none => rfl
      | some inverterId => exact getMetricsForAgent_only h (h.first hf') 2 input

theorem getSavingsForAgent_only (h : OneHistory reads issued) (ho : (inverterId, userId) ∈ issued)
    (input : SavingsInput) : getSavingsForAgent env (fun q => (reads q).only userId) inverterId input =
      getSavingsForAgent env reads inverterId input := by
  unfold getSavingsForAgent
  cases input.mode with
  | cumulative => simp only [(h.tables ho _).cumulativeSavings, (h.tables ho _).periodSavings]
  | period => simp only [(h.tables ho _).periodSavings]
  | custom =>
    cases input.startDate with
    | none => rfl
    | some start =>
      cases input.endDate with
      | none => rfl
      | some stop => simp only [Savings.getSavingsForAgent, (h.tables ho _).customRangeSavings]

theorem readSavings_only (h : OneHistory reads issued) (input : SavingsInput) :
    readSavings env (fun q => (reads q).only userId) userId input = readSavings env reads userId input := by
  unfold readSavings
  simp only [findFirst_only]
  cases hf : findFirstIdByUserId env.order (reads 0) userId with
  | none => rfl
  | some inverterId => simp only [getSavingsForAgent_only h (h.first hf)]

theorem readInsights_only (h : OneHistory reads issued) :
    readInsights env (fun q => (reads q).only userId) userId = readInsights env reads userId := by
  unfold readInsights
  simp only [findFirst_only]
  cases hf : findFirstIdByUserId env.order (reads 0) userId with
  | none => rfl
  | some inverterId => simp only [(h.tables (h.first hf) _).systemInsights]

theorem callTool_only (h : OneHistory reads issued) (call : ToolCall) :
    callTool env (fun q => (reads q).only userId) userId call = callTool env reads userId call := by
  cases call with
  | readAlerts filters => exact congrArg (ToolReply.alerts <$> ·) readAlert_only
  | readMetrics input => exact congrArg Except.ok (readMetrics_only h input)
  | readSavings input => exact congrArg Except.ok (readSavings_only h input)
  | readSystemInsights => exact congrArg Except.ok (readInsights_only h)

end

theorem issued_foldl (history : List Write) :
    ∀ db : Database, db.issued ⊆ (history.foldl Database.apply db).issued := by
  induction history with
  | nil => exact fun db => List.Subset.refl _
  | cons w history ih => exact fun db => List.Subset.trans issued_apply (ih _)

/-- The states of one history, at moments of any order. -/
theorem oneHistory_after (history : List Write) (moment : Nat → Nat) :
    OneHistory (fun q => after (history.take (moment q))) (after history).issued where
  once := (sound_after history).once
  sound q := sound_after _
  sub q := by
    have h := issued_foldl (history.drop (moment q)) (after (history.take (moment q)))
    rwa [after, ← List.foldl_append, List.take_append_drop] at h

/-- Query `q` of call `c` sees what the first `moment c q` writes left: whatever the model asks of the tools and
whatever others do meanwhile, the turn goes as if there were no other account. -/
theorem turn_purged (env : Nat → Env) (history : List Write) (moment : Nat → Nat → Nat) (userId : Uuid)
    (agent : Transcript → Move) (rounds : Nat) :
    turn agent (fun c => callTool (env c) (fun q => after (history.take (moment c q))) userId) rounds [] =
      turn agent (fun c => callTool (env c) (fun q => after (purged userId (history.take (moment c q)))) userId)
        rounds [] := by
  have hserve : ∀ c call, callTool (env c) (fun q => after (purged userId (history.take (moment c q)))) userId call =
      callTool (env c) (fun q => after (history.take (moment c q))) userId call := by
    intro c call
    simp only [← only_after]
    exact callTool_only (oneHistory_after history (moment c)) call
  exact congrArg (turn agent · rounds []) (funext fun c => funext fun call => (hserve c call).symm)

end IntellApi.AgentTools
