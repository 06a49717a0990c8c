import IntellApi.InverterAccess

/-!
# The two checks on inverter data

On a route without roles the guard admits the owner and everyone with an active
row. The metric service looks for the user on the first page of the listing, and
the two agree in every listing order exactly when a hundred active rows of
others cannot hide the user's (`checks_agree_iff`).
-/

namespace IntellApi.InverterAccess

open Paging

section
variable {inverters : Uuid → Option Inverter} {rows : List InverterMember} {inverter : Inverter} {userId : Uuid}

def ownRow (userId : Uuid) (m : InverterMember) : Bool := m.userId = some userId

def activeRows (rows : List InverterMember) (inverterId : Uuid) : List InverterMember :=
  rows.filter (activeIn inverterId)

/-- The guard on a route without a role requirement. -/
def guardAdmits (inverters : Uuid → Option Inverter) (rows : List InverterMember) (inverterId userId : Uuid) : Prop :=
  canActivate inverters rows ⟨false, none⟩ (some inverterId) (some userId) = .ok true

def serviceAdmits (order : Order InverterMember) (rows : List InverterMember) (inverter : Inverter)
    (userId : Uuid) : Prop :=
  validateRequestingUser order rows inverter userId = .ok ()

theorem guardAdmits_iff (hi : inverters inverter.id = some inverter) :
    guardAdmits inverters rows inverter.id userId ↔
      userId = inverter.userId ∨ ∃ m ∈ activeRows rows inverter.id, ownRow userId m = true := by
  unfold guardAdmits canActivate findOne
  simp only [hi, pure_bind, Bool.false_eq_true, if_false]
  by_cases ho : userId = inverter.userId
  · simp [ho, pure, Except.pure]
  · simp only [ho, if_false, false_or, activeRows, List.mem_filter, ownRow]
    cases hm : rows.find? fun m => activeIn inverter.id m && decide (m.userId = some userId) with
    | none =>
      have hn := List.find?_eq_none.mp hm
      constructor
      · intro h; cases h
      · intro ⟨m, ⟨hm, ha⟩, hu⟩
        exact absurd (by simpa [ha] using hu) (hn m hm)
    | some m =>
      have hs := List.find?_some hm
      rw [Bool.and_eq_true] at hs
      exact ⟨fun _ => ⟨m, ⟨List.mem_of_find?_eq_some hm, hs.1⟩, hs.2⟩, fun _ => rfl⟩

theorem serviceAdmits_iff {order : Order InverterMember} :
    serviceAdmits order rows inverter userId ↔
      userId = inverter.userId ∨ ∃ m ∈ order.page (activeRows rows inverter.id) 1 100, ownRow userId m = true := by
  unfold serviceAdmits validateRequestingUser listMembers find
  simp only [List.contains_iff_mem, List.mem_append, List.mem_filterMap, List.mem_singleton, Option.getD_none]
  split
  · rename_i h
    refine ⟨fun _ => ?_, fun _ => rfl⟩
    rcases h with ⟨m, hm, hu⟩ | ho
    · exact .inr ⟨m, hm, decide_eq_true hu⟩
    · exact .inl ho
  · rename_i h
    refine ⟨fun h => (nomatch h), fun h' => absurd ?_ h⟩
    rcases h' with ho | ⟨m, hm, hu⟩
    · exact .inr ho
    · exact .inl ⟨m, hm, of_decide_eq_true hu⟩

/-- The guard and the service admit the same users of an inverter, whatever the
listing order, exactly for the owner, for users without an active row, and
where fewer than a hundred active rows are not the user's. -/
theorem checks_agree_iff (hi : inverters inverter.id = some inverter) :
    (∀ order, guardAdmits inverters rows inverter.id userId ↔ serviceAdmits order rows inverter userId) ↔
      userId = inverter.userId ∨ (∀ m ∈ activeRows rows inverter.id, ownRow userId m = false) ∨
        (activeRows rows inverter.id).countP (!ownRow userId ·) < 100 := by
  simp only [guardAdmits_iff hi, serviceAdmits_iff]
  by_cases ho : userId = inverter.userId
  · simp [ho]
  · by_cases hm : ∃ m ∈ activeRows rows inverter.id, ownRow userId m = true
    · have hsome : ¬ ∀ m ∈ activeRows rows inverter.id, ownRow userId m = false := by
        intro h
        obtain ⟨m, hm, hu⟩ := hm
        rw [h m hm] at hu
        cases hu
      simp only [ho, hm, hsome, false_or, true_iff]
      rw [page_one_shows_iff]
      exact ⟨And.right, And.intro hm⟩
    · have hnone : ∀ m ∈ activeRows rows inverter.id, ownRow userId m = false := by
        intro m hmem
        exact Bool.eq_false_iff.mpr fun hu => hm ⟨m, hmem, hu⟩
      refine iff_of_true (fun order => ?_) (.inr (.inl hnone))
      simp only [ho, hm, false_or, false_iff]
      intro ⟨m, hmem, hu⟩
      exact hm ⟨m, mem_of_mem_page hmem, hu⟩

end

/-! ## A large team -/

def theInverter : Inverter := ⟨1, 0, .victron, true, false, 10, 0⟩

def activeMember (userId : Uuid) : InverterMember :=
  { inverterId := 1, userId := some userId, email := "", role := .viewer, status := .active, invitedById := some 0,
    inviteToken := userId, inviteTokenExpiresAt := none }

def team (n : Nat) : List InverterMember := (List.range n).map fun k => activeMember (k + 1)

theorem checks_agree_small_team :
    guardAdmits (fun _ => some theInverter) (team 2) 1 2 ↔ serviceAdmits asStored (team 2) theInverter 2 :=
  (@checks_agree_iff (fun _ => some theInverter) (team 2) theInverter 2 rfl).mpr (.inr (.inr (by decide))) asStored

theorem checks_differ_large_team :
    ¬ ∀ inverters rows inverter userId, inverters inverter.id = some inverter → ∀ order,
      guardAdmits inverters rows inverter.id userId ↔ serviceAdmits order rows inverter userId := by
  intro h
  have h := h (fun _ => some theInverter) (team 101) theInverter 101 rfl asStored
  have hg : guardAdmits (fun _ => some theInverter) (team 101) 1 101 := by unfold guardAdmits; decide +kernel
  have hs : ¬ serviceAdmits asStored (team 101) theInverter 101 := by unfold serviceAdmits; decide +kernel
  exact hs (h.mp hg)

end IntellApi.InverterAccess
