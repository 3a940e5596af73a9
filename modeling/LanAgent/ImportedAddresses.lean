import LanAgent.AddressRanges
import LanAgent.CsvImport
import LanAgent.DeviceList

/-!
# Imported addresses — what the list shows after an import

An import takes an address for present when any record holds it; the list shows live records only.
The two differ on the addresses of deleted records.
-/

namespace LanAgent.ImportedAddresses

open Library

inductive ImportRequest where
  | ipRange (payload : IpRangeRequest)
  | csv (filename text groupName : String)

/-- The table and the success of an import; its counts are left out. -/
def run (refusesNul : Bool) (devices : Devices) (draws : Draws) :
    ImportRequest → Devices × Except HttpError Unit
  | .ipRange payload =>
      let result := importIpRange devices payload draws
      (result.1, result.2.map fun _ => ())
  | .csv filename text groupName =>
      let result := importCsvFile refusesNul devices filename text groupName draws
      (result.1, result.2.map fun _ => ())

/-- The addresses of the range, or the addresses in the file that are not blank. -/
def requestedIps (refusesNul : Bool) : ImportRequest → List String
  | .ipRange payload =>
      match AddressRanges.addressRange payload with
      | some (first, n) => (List.range' first n).map Python.formatIPv4
      | none => []
  | .csv _ text _ =>
      match Python.Csv.reader refusesNul (decodeSig text.toList) with
      | .ok records => (Python.Csv.rows records).filterMap CsvImport.rowIp
      | .error _ => []

/-! ## The list -/

/-- The device is on a page of the unfiltered list, whatever the order of the rows and the size of
the pages. -/
def Listed (bindStatus : String → String) (devices : Devices) (d : Device) : Prop :=
  ∀ returned : List Device, returned.Perm (selectDevices bindStatus devices {}) →
    ∀ size, 0 < size → ∃ page, 1 ≤ page ∧ d ∈ listDevices returned page size

theorem exists_mem_listDevices {returned : List Device} {size : Nat} (hsize : 0 < size)
    {d : Device} (hd : d ∈ returned) : ∃ page, 1 ≤ page ∧ d ∈ listDevices returned page size := by
  have hsorted : d ∈ Pages.sortBy ipSortKey returned := (Pages.sortBy_perm returned).mem_iff.mpr hd
  obtain ⟨number, hnumber⟩ := Pages.exists_mem_page hsize hsorted
  exact ⟨number + 1, Nat.le_add_left 1 number, hnumber⟩

theorem listed_iff {bindStatus : String → String} {devices : Devices} {d : Device} :
    Listed bindStatus devices d ↔ d ∈ devices ∧ d.deletedAt = none := by
  rw [← mem_liveDevices, ← selectDevices_unfiltered bindStatus]
  apply Iff.intro
  · intro h
    obtain ⟨page, -, hd⟩ := h _ (List.Perm.refl _) 1 Nat.one_pos
    exact (Pages.sortBy_perm _).mem_iff.mp (List.mem_of_mem_drop (List.mem_of_mem_take hd))
  · intro hd returned hperm size hsize
    exact exists_mem_listDevices hsize (hperm.mem_iff.mpr hd)

/-! ## The import -/

variable {refusesNul : Bool} {devices : Devices} {draws : Draws}

theorem imported_importIpRange {payload : IpRangeRequest} {count : ImportCount}
    (h : (importIpRange devices payload draws).2 = .ok count) :
    ∃ added, Imported devices (requestedIps refusesNul (.ipRange payload)) added
      (importIpRange devices payload draws).1 := by
  cases hrange : AddressRanges.addressRange payload with
  | none =>
      obtain ⟨-, e, herror, -⟩ := AddressRanges.refused_of_none devices draws hrange
      rw [herror] at h
      cases h
  | some range =>
      obtain ⟨first, n⟩ := range
      by_cases hsmall : n ≤ 1025
      · rw [AddressRanges.importIpRange_of_range hrange hsmall] at h ⊢
        obtain ⟨devices', hall⟩ := settle_eq_ok h
        obtain ⟨added, himported, -⟩ := imported_of_addAll hall
        rw [AddressRanges.entries, List.map_map] at himported
        rw [hall, requestedIps, hrange]
        exact ⟨added, himported⟩
      · rw [AddressRanges.importIpRange_of_large hrange (by omega)] at h
        cases h

theorem imported_importCsvFile {filename text groupName : String} {answer : CsvAnswer}
    (h : (importCsvFile refusesNul devices filename text groupName draws).2 = .ok answer) :
    ∃ added, Imported devices (requestedIps refusesNul (.csv filename text groupName)) added
      (importCsvFile refusesNul devices filename text groupName draws).1 := by
  by_cases hfile : ".csv".toList.isSuffixOf filename.toList = true
  · cases hreader : Python.Csv.reader refusesNul (decodeSig text.toList) with
    | error e =>
        rw [importCsvFile, if_pos hfile, hreader] at h
        cases h
    | ok records =>
        have hcomplete := CsvImport.complete_of_ok hfile hreader h
        rw [CsvImport.importCsvFile_of_complete hfile hreader hcomplete] at h ⊢
        cases hall : addAll (CsvImport.entries groupName draws 2 (Python.Csv.rows records)) devices
          ⟨0, 0⟩ with
        | error e =>
            rw [hall] at h
            cases h
        | ok result =>
            obtain ⟨added, himported, -⟩ := imported_of_addAll hall
            rw [CsvImport.map_ip_entries] at himported
            rw [requestedIps, hreader]
            exact ⟨added, himported⟩
  · rw [importCsvFile, if_neg hfile] at h
    cases h

theorem imported_run {request : ImportRequest}
    (h : (run refusesNul devices draws request).2 = .ok ()) :
    ∃ added, Imported devices (requestedIps refusesNul request) added
      (run refusesNul devices draws request).1 := by
  cases request with
  | ipRange payload =>
      cases hok : (importIpRange devices payload draws).2 with
      | error e => simp [run, hok, Except.map] at h
      | ok count => exact imported_importIpRange hok
  | csv filename text groupName =>
      cases hok : (importCsvFile refusesNul devices filename text groupName draws).2 with
      | error e => simp [run, hok, Except.map] at h
      | ok answer => exact imported_importCsvFile hok

/-- After an import a requested address has a live record exactly when no deleted record held it
before. -/
theorem live_holder_iff {devices' : Devices} {ips : List String} {added : List Device}
    (h : Imported devices ips added devices') (hone : ∀ ip, (holders devices ip).length ≤ 1)
    {ip : String} (hip : ip ∈ ips) :
    (∃ d, (d ∈ devices' ∧ d.deletedAt = none) ∧ d.ip = some ip) ↔
      ∀ d ∈ devices, d.deletedAt ≠ none → d.ip ≠ some ip := by
  have hmem : ∀ d, d ∈ devices' ↔ d ∈ devices ∨ d ∈ added := by
    intro d
    rw [Table.mem_def, h.rows, List.mem_append, Table.mem_def]
  apply Iff.intro
  · rintro ⟨d, ⟨hd, hlive⟩, hdip⟩ d' hd' hdeleted hd'ip
    have hd'holds : d' ∈ holders devices ip := List.mem_filter.mpr ⟨hd', by simpa using hd'ip⟩
    rcases (hmem d).mp hd with hold | hnew
    -- two records of the old table at the address are the same
    · have hholds : d ∈ holders devices ip := List.mem_filter.mpr ⟨hold, by simpa using hdip⟩
      have hlength : (holders devices ip).length = 1 :=
        Nat.le_antisymm (hone ip) (List.length_pos_of_mem hholds)
      obtain ⟨holder, hholder⟩ := List.length_eq_one_iff.mp hlength
      rw [hholder, List.mem_singleton] at hholds hd'holds
      rw [hd'holds, ← hholds] at hdeleted
      exact hdeleted hlive
    -- a record is added only where nobody held the address
    · obtain ⟨text, -, htext, hfree⟩ := (h.addresses d.ip).mp (List.mem_map_of_mem hnew)
      obtain rfl := Option.some.inj (hdip.symm.trans htext)
      rw [hfree] at hd'holds
      exact List.not_mem_nil hd'holds
  · intro hdeleted
    by_cases hfree : holders devices ip = []
    · obtain ⟨d, hd, hdip⟩ := List.mem_map.mp ((h.addresses (some ip)).mpr ⟨ip, hip, rfl, hfree⟩)
      exact ⟨d, ⟨(hmem d).mpr (.inr hd), h.live d hd⟩, hdip⟩
    · obtain ⟨d, hd⟩ := List.exists_mem_of_ne_nil _ hfree
      obtain ⟨hd, hdip⟩ := List.mem_filter.mp hd
      have hdip' : d.ip = some ip := by simpa using hdip
      refine ⟨d, ⟨(hmem d).mpr (.inl hd), ?_⟩, hdip'⟩
      by_contra hne
      exact hdeleted d hd hne hdip'

/-- **Imported addresses.**  After a successful import every requested address belongs to a listed
device exactly when no deleted record held one of them. -/
theorem imported_listed_iff (bindStatus : String → String) (refusesNul : Bool) (devices : Devices)
    (draws : Draws) (request : ImportRequest) (hone : ∀ ip, (holders devices ip).length ≤ 1)
    (hok : (run refusesNul devices draws request).2 = .ok ()) :
    (∀ ip ∈ requestedIps refusesNul request,
        ∃ d, Listed bindStatus (run refusesNul devices draws request).1 d ∧ d.ip = some ip) ↔
      ∀ d ∈ devices, d.deletedAt ≠ none → ∀ ip ∈ requestedIps refusesNul request,
        d.ip ≠ some ip := by
  obtain ⟨added, himported⟩ := imported_run hok
  simp only [listed_iff]
  apply Iff.intro
  · intro h d hd hdeleted ip hip
    exact (live_holder_iff himported hone hip).mp (h ip hip) d hd hdeleted
  · intro h ip hip
    exact (live_holder_iff himported hone hip).mpr fun d hd hdeleted => h d hd hdeleted ip hip

/-- The record at `10.0.0.1` has been deleted. -/
def deletedHolder : Devices := (deleteDevice oneHolder firstUuid.val false false 1).1

theorem imported_listed_two_addresses :
    (run false oneHolder exampleDraws (.ipRange AddressRanges.twoAddresses)).2 = .ok () ∧
      ∀ ip ∈ requestedIps false (.ipRange AddressRanges.twoAddresses), ∃ d,
        Listed id (run false oneHolder exampleDraws (.ipRange AddressRanges.twoAddresses)).1 d ∧
          d.ip = some ip :=
  ⟨by decide, (imported_listed_iff id false oneHolder exampleDraws
    (.ipRange AddressRanges.twoAddresses)
    length_holders_oneHolder (by decide)).mpr (by decide)⟩

/-- A file with the address of the deleted record. -/
def oneRow : ImportRequest := .csv "devices.csv" "ip\n10.0.0.1\n" ""

/-- Both imports succeed and take the address of the deleted record for present, and no page of the
list shows a device there. -/
theorem deleted_address_skipped :
    ((run false deletedHolder exampleDraws (.ipRange AddressRanges.twoAddresses)).2 = .ok () ∧
      ¬∀ ip ∈ requestedIps false (.ipRange AddressRanges.twoAddresses), ∃ d, Listed id
        (run false deletedHolder exampleDraws (.ipRange AddressRanges.twoAddresses)).1 d ∧
          d.ip = some ip) ∧
    (run false deletedHolder exampleDraws oneRow).2 = .ok () ∧
      ¬∀ ip ∈ requestedIps false oneRow, ∃ d,
        Listed id (run false deletedHolder exampleDraws oneRow).1 d ∧ d.ip = some ip := by
  refine ⟨⟨by decide, fun h => ?_⟩, by decide, fun h => ?_⟩
  · obtain ⟨d, hd, hip⟩ := h "10.0.0.1" (by decide)
    have hnone : ∀ d ∈ (run false deletedHolder exampleDraws
        (.ipRange AddressRanges.twoAddresses)).1, d.deletedAt = none → d.ip ≠ some "10.0.0.1" := by
      decide
    exact hnone d (listed_iff.mp hd).1 (listed_iff.mp hd).2 hip
  · obtain ⟨d, hd, hip⟩ := h "10.0.0.1" (by decide)
    have hnone : ∀ d ∈ (run false deletedHolder exampleDraws oneRow).1,
        d.deletedAt = none → d.ip ≠ some "10.0.0.1" := by decide
    exact hnone d (listed_iff.mp hd).1 (listed_iff.mp hd).2 hip

end LanAgent.ImportedAddresses
