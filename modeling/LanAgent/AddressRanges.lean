import LanAgent.BulkImport

/-!
# Address ranges — when an import is refused

A range is refused for what it asks, before the table is looked at.  The limit is compared with the
difference of the two ends, which is one less than the number of addresses; and the lookup of an
address raises when two records hold it.
-/

namespace LanAgent.AddressRanges

open Library

/-- The first address and the number of addresses of a request; `none` when an address is invalid
or the end is below the start. -/
def addressRange (payload : IpRangeRequest) : Option (Nat × Nat) :=
  match Python.parseIPv4 payload.startIp, Python.parseIPv4 payload.endIp with
  | some first, some last => if last < first then none else some (first, last + 1 - first)
  | _, _ => none

def entry (groupName : String) (draws : Draws) (n : Nat) : Entry where
  ip := Python.formatIPv4 n
  device := { Device.new (draws n).id (draws n).token (draws n).now with
    ip := some (Python.formatIPv4 n)
    groupName := orNone groupName }
  ip_eq := rfl
  live := rfl

def entries (groupName : String) (draws : Draws) (first n : Nat) : List Entry :=
  (List.range' first n).map (entry groupName draws)

theorem importAddresses_eq_addAll (groupName : String) (draws : Draws) (n first : Nat)
    (devices : Devices) (count : ImportCount) :
    importAddresses groupName draws n first devices count =
      addAll (entries groupName draws first n) devices count := by
  induction n generalizing first devices count with
  | zero => rfl
  | succ n ih =>
      rw [entries, List.range'_succ, List.map_cons, importAddresses, addAll]
      simp only [ih]
      rfl

theorem freshIds_entries {devices : Devices} {draws : Draws} {first n : Nat}
    (h : FreshDraws devices draws first n) (groupName : String) :
    FreshIds devices (entries groupName draws first n) := by
  apply freshIds_of_sublist h
  rw [entries, List.map_map]
  exact List.Sublist.refl _

/-- No address of the range has two holders. -/
def Unshared (devices : Devices) (first n : Nat) : Prop :=
  ∀ i < n, (holders devices (Python.formatIPv4 (first + i))).length ≤ 1

instance (devices : Devices) (first n : Nat) : Decidable (Unshared devices first n) :=
  inferInstanceAs (Decidable (∀ i < n, _))

theorem forall_mem_entries {groupName : String} {draws : Draws} {first n : Nat}
    {P : String → Prop} : (∀ e ∈ entries groupName draws first n, P e.ip) ↔
      ∀ i < n, P (Python.formatIPv4 (first + i)) := by
  simp only [entries, List.mem_map, List.mem_range', Nat.one_mul]
  apply Iff.intro
  · intro h i hi
    exact h _ ⟨first + i, ⟨i, hi, rfl⟩, rfl⟩
  · rintro h e ⟨_, ⟨i, hi, rfl⟩, rfl⟩
    exact h i hi

/-! ## The request -/

variable {devices : Devices} {payload : IpRangeRequest} {draws : Draws} {first n : Nat}

theorem ends_of_addressRange (h : addressRange payload = some (first, n)) :
    ∃ last, Python.parseIPv4 payload.startIp = some first ∧
      Python.parseIPv4 payload.endIp = some last ∧ first ≤ last ∧ n = last + 1 - first := by
  unfold addressRange at h
  split at h
  · rename_i first' last hfirst hlast
    split at h
    · cases h
    · rename_i hlt
      obtain ⟨rfl, rfl⟩ := Prod.mk.inj (Option.some.inj h)
      exact ⟨last, hfirst, hlast, by omega, rfl⟩
  · cases h

theorem importIpRange_of_large (h : addressRange payload = some (first, n)) (hlarge : 1025 < n) :
    importIpRange devices payload draws =
      (devices, .error ⟨400, "IP range too large (max 1024)"⟩) := by
  obtain ⟨last, hfirst, hlast, hle, rfl⟩ := ends_of_addressRange h
  simp only [importIpRange, hfirst, hlast]
  rw [if_neg (by omega), if_pos (by omega)]

theorem importIpRange_of_range (h : addressRange payload = some (first, n)) (hsmall : n ≤ 1025) :
    importIpRange devices payload draws =
      settle devices
        (addAll (entries (payload.groupName.getD "") draws first n) devices ⟨0, 0⟩) := by
  obtain ⟨last, hfirst, hlast, hle, rfl⟩ := ends_of_addressRange h
  simp only [importIpRange, hfirst, hlast]
  rw [if_neg (by omega), if_neg (by omega), importAddresses_eq_addAll]
  cases addAll (entries (payload.groupName.getD "") draws first (last + 1 - first)) devices ⟨0, 0⟩
    with
  | error e => rfl
  | ok result => rfl

/-! ## Refusals -/

/-- The answer is a 400 and the table is as it was. -/
def Refused (devices : Devices) (result : Devices × Except HttpError ImportCount) : Prop :=
  result.1 = devices ∧ ∃ e, result.2 = .error e ∧ e.statusCode = 400

/-- An address is invalid, the end is below the start, or there are more than 1024 addresses. -/
def RefusalDue (payload : IpRangeRequest) : Prop :=
  ∀ first n, addressRange payload = some (first, n) → 1024 < n

/-- The import has gone through all `n` addresses, and only added records. -/
def Completed (devices : Devices) (n : Nat) (result : Devices × Except HttpError ImportCount) :
    Prop :=
  ∃ count added, result.2 = .ok count ∧ result.1.rows = devices.rows ++ added ∧
    count.added + count.skipped = n

/-- A request is refused exactly when it should be, and completes otherwise. -/
def RefusedExactly (devices : Devices) (payload : IpRangeRequest)
    (result : Devices × Except HttpError ImportCount) : Prop :=
  (Refused devices result ↔ RefusalDue payload) ∧
    ∀ first n, addressRange payload = some (first, n) → n ≤ 1024 → Completed devices n result

theorem refused_of_none (devices : Devices) (draws : Draws) (h : addressRange payload = none) :
    Refused devices (importIpRange devices payload draws) := by
  unfold importIpRange
  split
  · rename_i first last hfirst hlast
    by_cases hlt : last < first
    · rw [if_pos hlt]
      exact ⟨rfl, _, rfl, rfl⟩
    · simp [addressRange, hfirst, hlast, hlt] at h
  · exact ⟨rfl, _, rfl, rfl⟩

theorem completed_of_unshared (h : addressRange payload = some (first, n)) (hsmall : n ≤ 1025)
    (hfresh : FreshDraws devices draws first n) (hshared : Unshared devices first n) :
    Completed devices n (importIpRange devices payload draws) := by
  obtain ⟨devices', count, hall⟩ :=
    addAll_of_unshared (freshIds_entries hfresh (payload.groupName.getD ""))
      (forall_mem_entries (P := fun ip => (holders devices ip).length ≤ 1).mpr hshared)
  obtain ⟨added, himported, -, htotal⟩ := imported_of_addAll hall
  rw [importIpRange_of_range h hsmall, hall]
  refine ⟨count, added, rfl, himported.rows, ?_⟩
  simpa [entries] using htotal

/-- An address with two holders is a 500, for the limit's own number of addresses as well. -/
theorem not_completed_of_shared (h : addressRange payload = some (first, n)) (hsmall : n ≤ 1025)
    (hshared : ¬Unshared devices first n) :
    ¬Completed devices n (importIpRange devices payload draws) := by
  have hentry : ∃ e ∈ entries (payload.groupName.getD "") draws first n,
      1 < (holders devices e.ip).length := by
    by_contra hnone
    push Not at hnone
    exact hshared (forall_mem_entries (P := fun ip => (holders devices ip).length ≤ 1).mp hnone)
  obtain ⟨e, he, htwo⟩ := hentry
  rw [importIpRange_of_range h hsmall, addAll_of_shared he htwo]
  rintro ⟨count, added, hok, -⟩
  cases hok

/-- Once the loop runs, no outcome of it is a refusal. -/
theorem not_refused_of_range (h : addressRange payload = some (first, n)) (hsmall : n ≤ 1025) :
    ¬Refused devices (importIpRange devices payload draws) := by
  rw [importIpRange_of_range h hsmall]
  cases hall : addAll (entries (payload.groupName.getD "") draws first n) devices ⟨0, 0⟩ with
  | error e =>
      rintro ⟨-, e', herror, hstatus⟩
      rw [← Except.error.inj herror, addAll_error hall] at hstatus
      exact absurd hstatus (by decide)
  | ok result =>
      rintro ⟨-, e', herror, -⟩
      cases herror

/-- **Refusals.**  An import is refused exactly when it should be, and completes otherwise, exactly
when the range has not just one address too many and, where it is accepted, no address of it has
two holders. -/
theorem refused_exactly_iff (devices : Devices) (payload : IpRangeRequest) (draws : Draws)
    (hfresh : ∀ first n, addressRange payload = some (first, n) → n ≤ 1024 →
      FreshDraws devices draws first n) :
    RefusedExactly devices payload (importIpRange devices payload draws) ↔
      ∀ first n, addressRange payload = some (first, n) →
        n ≠ 1025 ∧ (n ≤ 1024 → Unshared devices first n) := by
  cases hrange : addressRange payload with
  | none =>
      refine iff_of_true ⟨iff_of_true (refused_of_none devices draws hrange) ?_, ?_⟩ ?_
      · intro first n h
        rw [hrange] at h
        cases h
      · intro first n h
        rw [hrange] at h
        cases h
      · intro first n h
        cases h
  | some range =>
      obtain ⟨first, n⟩ := range
      have hrefusalDue : RefusalDue payload ↔ 1024 < n := by
        apply Iff.intro
        · exact fun h => h first n hrange
        · intro h first' n' h'
          obtain ⟨-, rfl⟩ := Prod.mk.inj (Option.some.inj (hrange.symm.trans h'))
          exact h
      have hiff : RefusedExactly devices payload (importIpRange devices payload draws) ↔
          n ≠ 1025 ∧ (n ≤ 1024 → Unshared devices first n) := by
        rw [RefusedExactly, hrefusalDue]
        apply Iff.intro
        · rintro ⟨hrefused, hcompleted⟩
          refine ⟨?_, fun hsmall => ?_⟩
          · rintro rfl
            exact not_refused_of_range hrange (Nat.le_refl _) (hrefused.mpr (by omega))
          · by_contra hshared
            exact not_completed_of_shared hrange (by omega) hshared
              (hcompleted first n hrange hsmall)
        · rintro ⟨hne, hshared⟩
          have hcompleted : n ≤ 1024 → Completed devices n (importIpRange devices payload draws) :=
            fun hsmall => completed_of_unshared hrange (by omega) (hfresh first n hrange hsmall)
              (hshared hsmall)
          refine ⟨⟨?_, ?_⟩, ?_⟩
          · intro hrefused
            by_contra hsmall
            exact not_refused_of_range hrange (by omega) hrefused
          · intro hlarge
            rw [importIpRange_of_large hrange (by omega)]
            exact ⟨rfl, _, rfl, rfl⟩
          · intro first' n' h' hsmall
            obtain ⟨-, rfl⟩ := Prod.mk.inj (Option.some.inj (hrange.symm.trans h'))
            exact hcompleted hsmall
      rw [hiff]
      apply Iff.intro
      · intro h first' n' h'
        obtain ⟨rfl, rfl⟩ := Prod.mk.inj (Option.some.inj h')
        exact h
      · exact fun h => h first n rfl

/-! ## Examples -/

/-- A second record is created at the same address. -/
def twoHolders : Devices :=
  (createDevice oneHolder { ip := some "10.0.0.1" } ⟨0, secondUuid, firstUuid⟩).1

def twoAddresses : IpRangeRequest := ⟨"10.0.0.1", "10.0.0.2", none⟩

/-- 1025 addresses. -/
def oneTooMany : IpRangeRequest := ⟨"10.0.0.0", "10.0.4.0", none⟩

theorem refused_exactly_two_addresses :
    RefusedExactly oneHolder twoAddresses (importIpRange oneHolder twoAddresses exampleDraws) := by
  have hrange : addressRange twoAddresses = some (167772161, 2) := by decide
  refine (refused_exactly_iff oneHolder twoAddresses exampleDraws ?_).mpr ?_
  · intro first n h _
    obtain ⟨rfl, rfl⟩ := Prod.mk.inj (Option.some.inj (hrange.symm.trans h))
    decide
  · intro first n h
    obtain ⟨rfl, rfl⟩ := Prod.mk.inj (Option.some.inj (hrange.symm.trans h))
    decide

/-- An accepted range ends in a 500 where two records hold an address, and a range of 1025
addresses is not refused, whatever ids are drawn. -/
theorem two_holders_raise :
    ¬RefusedExactly twoHolders twoAddresses (importIpRange twoHolders twoAddresses exampleDraws) ∧
      ∀ draws, ¬RefusedExactly .empty oneTooMany (importIpRange .empty oneTooMany draws) := by
  apply And.intro
  · rintro ⟨-, hcompleted⟩
    obtain ⟨count, added, hok, -⟩ := hcompleted 167772161 2 (by decide) (by decide)
    have herror : (importIpRange twoHolders twoAddresses exampleDraws).2 =
        .error internalServerError := by decide
    rw [herror] at hok
    cases hok
  · rintro draws ⟨hrefused, -⟩
    have hrange : addressRange oneTooMany = some (167772160, 1025) := by decide
    apply not_refused_of_range hrange (Nat.le_refl _)
    apply hrefused.mpr
    intro first n h
    obtain ⟨-, rfl⟩ := Prod.mk.inj (Option.some.inj (hrange.symm.trans h))
    decide

end LanAgent.AddressRanges
