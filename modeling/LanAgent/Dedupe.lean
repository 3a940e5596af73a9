import LanAgent.DeviceRoutes
import LanAgent.Python.DateTime
import Mathlib.Data.List.Sort
import Mathlib.Data.String.Basic
import Mathlib.Order.WithBot

/-!
# The clean-up at start-up — `_dedupe_devices` of `database.py`

Of the live records of one address all but the one with the latest heartbeat are deleted for good.
The rows are those of the table, whatever its other columns; SQLite is free to return groups, and
rows with equal keys, in any order.  `dedupe_iff` says that the clean-up does what it is for unless
several live records have the empty text as their address.
-/

namespace LanAgent.Dedupe

open Library

/-- A row of `devices`, by the columns the clean-up reads; NULL is the least moment. -/
structure DeviceRow (Moment Rest : Type*) where
  id : String
  ip : Option String
  lastHeartbeat : WithBot Moment
  deletedAt : Option Moment
  rest : Rest
  deriving DecidableEq

abbrev DeviceRows (Moment Rest : Type*) :=
  Table (DeviceRow Moment Rest) DeviceRow.id

section Statements

variable {Moment Rest : Type*}

/-- The row is live and has the address. -/
def At (d : DeviceRow Moment Rest) (ip : String) : Prop := d.ip = some ip ∧ d.deletedAt = none

instance (d : DeviceRow Moment Rest) (ip : String) : Decidable (At d ip) :=
  decidable_of_iff (d.ip = some ip ∧ d.deletedAt.isNone = true)
    (and_congr_right fun _ => Option.isNone_iff_eq_none)

/-- `SELECT … WHERE ip = :ip AND deleted_at IS NULL`. -/
def withAddress (t : DeviceRows Moment Rest) (ip : String) : List (DeviceRow Moment Rest) :=
  t.rows.filter (fun d => At d ip)

/-- `SELECT ip … WHERE ip IS NOT NULL AND deleted_at IS NULL GROUP BY ip HAVING COUNT(*) > 1`. -/
def duplicatedAddresses (t : DeviceRows Moment Rest) : List String :=
  ((t.rows.filter (fun d => d.deletedAt.isNone)).filterMap DeviceRow.ip).dedup.filter
    (fun ip => 1 < (withAddress t ip).length)

theorem mem_withAddress {t : DeviceRows Moment Rest} {ip : String} {d : DeviceRow Moment Rest} :
    d ∈ withAddress t ip ↔ d ∈ t ∧ At d ip := by
  rw [withAddress, List.mem_filter, decide_eq_true_eq, Table.mem_def]

theorem withAddress_nodup (t : DeviceRows Moment Rest) (ip : String) :
    (withAddress t ip).Nodup :=
  t.nodup.of_map.filter _

theorem mem_duplicatedAddresses {t : DeviceRows Moment Rest} {ip : String} :
    ip ∈ duplicatedAddresses t ↔ 1 < (withAddress t ip).length := by
  rw [duplicatedAddresses, List.mem_filter, decide_eq_true_eq]
  refine and_iff_right_of_imp fun hlength => ?_
  rcases List.exists_mem_of_length_pos (Nat.zero_lt_of_lt hlength) with ⟨d, hd⟩
  have hat := mem_withAddress.mp hd
  rw [List.mem_dedup, List.mem_filterMap]
  refine ⟨d, List.mem_filter.mpr ⟨hat.1, ?_⟩, hat.2.1⟩
  rw [hat.2.2]
  rfl

variable [LinearOrder Moment]

/-- The orders in which SQLite returns groups, and rows for `ORDER BY last_heartbeat DESC`. -/
structure RowOrder (Moment Rest : Type*) [LinearOrder Moment] where
  groups : List String → List String
  byHeartbeat : List (DeviceRow Moment Rest) → List (DeviceRow Moment Rest)
  groups_perm : ∀ ips, (groups ips).Perm ips
  byHeartbeat_perm : ∀ rows, (byHeartbeat rows).Perm rows
  byHeartbeat_sorted : ∀ rows, (byHeartbeat rows).Pairwise
    (fun d d' => d'.lastHeartbeat ≤ d.lastHeartbeat)

variable (order : RowOrder Moment Rest)

/-- One round of the loop. -/
def dedupeAddress (t : DeviceRows Moment Rest) (ip : String) : DeviceRows Moment Rest :=
  let ids := (order.byHeartbeat (withAddress t ip)).map DeviceRow.id
  (ids.drop 1).foldl Table.delete t

def dedupeDevices (t : DeviceRows Moment Rest) : DeviceRows Moment Rest :=
  (order.groups (duplicatedAddresses t)).foldl (dedupeAddress order) t

/-! ## The property -/

/-- What the clean-up is for: one live record for each address, the last one heard from; and
deleted records and records without an address stay. -/
structure Deduped (t t' : DeviceRows Moment Rest) : Prop where
  one : ∀ ip, ip ≠ "" → (∃ d ∈ t, At d ip) →
    ∃ d ∈ t, At d ip ∧ (∀ d' ∈ t, At d' ip → d'.lastHeartbeat ≤ d.lastHeartbeat) ∧
      ∀ d', (d' ∈ t' ∧ At d' ip) ↔ d' = d
  kept : ∀ d ∈ t, d.deletedAt ≠ none ∨ d.ip = none ∨ d.ip = some "" → d ∈ t'
  again : ∀ order' : RowOrder Moment Rest, dedupeDevices order' t' = t'

/-- No two live records have the empty text as their address. -/
def OneEmpty (t : DeviceRows Moment Rest) : Prop :=
  ∀ d ∈ t, ∀ d' ∈ t, At d "" → At d' "" → d = d'

end Statements

/-! ## One address -/

section Rounds

variable {Moment Rest : Type*} [LinearOrder Moment] {order : RowOrder Moment Rest}
  {t : DeviceRows Moment Rest} {ip : String} {d : DeviceRow Moment Rest}

/-- The row an address keeps: the first one by heartbeat. -/
def keeper (order : RowOrder Moment Rest) (t : DeviceRows Moment Rest) (ip : String) :
    Option (DeviceRow Moment Rest) :=
  (order.byHeartbeat (withAddress t ip)).head?

theorem mem_dedupeAddress : d ∈ dedupeAddress order t ip ↔
    d ∈ t ∧ (d ∈ withAddress t ip → keeper order t ip = some d) := by
  have hperm := order.byHeartbeat_perm (withAddress t ip)
  have hnodup := hperm.nodup_iff.mpr (withAddress_nodup t ip)
  rw [dedupeAddress, Table.mem_def, Table.rows_foldl_delete, List.mem_filter, keeper,
    ← hperm.mem_iff, decide_eq_true_eq]
  refine and_congr_right fun hd => ?_
  -- an id is that of one row
  have hids : ∀ rows : List (DeviceRow Moment Rest), (∀ d' ∈ rows, d' ∈ t) →
      (d.id ∈ rows.map DeviceRow.id ↔ d ∈ rows) := by
    intro rows hrows
    refine ⟨fun h => ?_, List.mem_map_of_mem⟩
    rcases List.mem_map.mp h with ⟨d', hd', hid⟩
    rwa [← t.eq_of_key_eq (hrows d' hd') hd hid]
  have hmem : ∀ d' ∈ order.byHeartbeat (withAddress t ip), d' ∈ t := fun d' hd' =>
    (mem_withAddress.mp (hperm.mem_iff.mp hd')).1
  cases hrows : order.byHeartbeat (withAddress t ip) with
  | nil => simp
  | cons first rows =>
      rw [hrows] at hmem hnodup
      rw [List.map_cons, List.drop_one, List.tail_cons,
        hids rows fun d' hd' => hmem d' (List.mem_cons_of_mem _ hd'), List.head?_cons,
        Option.some.injEq]
      apply Iff.intro
      · intro hout hin
        exact ((List.mem_cons.mp hin).resolve_right hout).symm
      · intro h hin
        have hfirst := h (List.mem_cons_of_mem _ hin)
        rw [← hfirst] at hin
        exact (List.nodup_cons.mp hnodup).1 hin

/-- A round leaves the rows of the other addresses, in their order. -/
theorem withAddress_dedupeAddress {ip' : String} (h : ip' ≠ ip) :
    withAddress (dedupeAddress order t ip) ip' = withAddress t ip' := by
  rw [withAddress, dedupeAddress, Table.rows_foldl_delete, List.filter_filter, withAddress]
  refine List.filter_congr fun d hd => ?_
  rw [← Bool.decide_and]
  refine decide_eq_decide.mpr (and_iff_left_of_imp fun hat hid => ?_)
  rcases List.mem_map.mp ((List.drop_sublist 1 _).map DeviceRow.id |>.subset
    (List.map_drop ▸ hid)) with ⟨d', hd', heq⟩
  have hat' := mem_withAddress.mp ((order.byHeartbeat_perm _).mem_iff.mp hd')
  rw [t.eq_of_key_eq hat'.1 hd heq] at hat'
  exact h (Option.some.inj (hat.1.symm.trans hat'.2.1))

/-! ## All addresses -/

theorem mem_foldl_dedupeAddress {ips : List String} (hips : ips.Nodup) :
    d ∈ ips.foldl (dedupeAddress order) t ↔
      d ∈ t ∧ ∀ ip ∈ ips, d ∈ withAddress t ip → keeper order t ip = some d := by
  induction ips generalizing t with
  | nil => simp
  | cons ip ips ih =>
      rw [List.nodup_cons] at hips
      rw [List.foldl_cons, ih hips.2, mem_dedupeAddress, List.forall_mem_cons, and_assoc]
      refine and_congr_right fun _ => and_congr_right fun _ => ?_
      refine forall₂_congr fun ip' hip' => ?_
      have hne : ip' ≠ ip := fun h => hips.1 (h ▸ hip')
      rw [keeper, withAddress_dedupeAddress hne, ← keeper]

/-- An address with one live record keeps it. -/
theorem keeper_of_length_le (hd : d ∈ withAddress t ip) (hlength : (withAddress t ip).length ≤ 1) :
    keeper order t ip = some d := by
  have hperm := order.byHeartbeat_perm (withAddress t ip)
  have hrows : withAddress t ip = [d] := by
    rcases List.length_eq_one_iff.mp
      (le_antisymm hlength (List.length_pos_of_mem hd)) with ⟨d', hd'⟩
    rw [hd'] at hd ⊢
    rw [List.mem_singleton.mp hd]
  rw [hrows] at hperm
  rw [keeper, hrows, hperm.eq_singleton]
  rfl

/-- **What is left**: of every address the first row by heartbeat, and the rows of no address. -/
theorem mem_dedupeDevices : d ∈ dedupeDevices order t ↔
    d ∈ t ∧ ∀ ip, d ∈ withAddress t ip → keeper order t ip = some d := by
  have hgroups := order.groups_perm (duplicatedAddresses t)
  have hnodup : (duplicatedAddresses t).Nodup := (List.nodup_dedup _).filter _
  rw [dedupeDevices, mem_foldl_dedupeAddress (hgroups.nodup_iff.mpr hnodup)]
  refine and_congr_right fun _ => ⟨fun h ip hd => ?_, fun h ip _ hd => h ip hd⟩
  by_cases hlength : 1 < (withAddress t ip).length
  · exact h ip (hgroups.mem_iff.mpr (mem_duplicatedAddresses.mpr hlength)) hd
  · exact keeper_of_length_le hd (not_lt.mp hlength)

theorem keeper_mem (h : keeper order t ip = some d) : d ∈ withAddress t ip :=
  (order.byHeartbeat_perm _).mem_iff.mp (List.mem_of_head? h)

/-- The record that is kept is the last one heard from. -/
theorem le_keeper (h : keeper order t ip = some d) {d' : DeviceRow Moment Rest}
    (hd' : d' ∈ withAddress t ip) : d'.lastHeartbeat ≤ d.lastHeartbeat := by
  have hsorted := order.byHeartbeat_sorted (withAddress t ip)
  have hmem := (order.byHeartbeat_perm (withAddress t ip)).mem_iff.mpr hd'
  unfold keeper at h
  cases hrows : order.byHeartbeat (withAddress t ip) with
  | nil =>
      rw [hrows] at h
      cases h
  | cons first rows =>
      rw [hrows] at h hsorted hmem
      cases h
      rcases List.mem_cons.mp hmem with rfl | hmem
      · exact le_rfl
      · exact (List.pairwise_cons.mp hsorted).1 d' hmem

theorem keeper_isSome (order : RowOrder Moment Rest) (hd : d ∈ withAddress t ip) :
    ∃ d', keeper order t ip = some d' := by
  have hmem := (order.byHeartbeat_perm (withAddress t ip)).mem_iff.mpr hd
  unfold keeper
  cases hrows : order.byHeartbeat (withAddress t ip) with
  | nil =>
      rw [hrows] at hmem
      cases hmem
  | cons first rows => exact ⟨first, rfl⟩

/-- A row that is left at an address is the one the address keeps. -/
theorem mem_dedupeDevices_at (hat : At d ip) :
    d ∈ dedupeDevices order t ↔ keeper order t ip = some d := by
  rw [mem_dedupeDevices]
  apply Iff.intro
  · exact fun h => h.2 ip (mem_withAddress.mpr ⟨h.1, hat⟩)
  · intro h
    refine ⟨(mem_withAddress.mp (keeper_mem h)).1, fun ip' hd' => ?_⟩
    have hsame := (mem_withAddress.mp hd').2.1.symm.trans hat.1
    rw [Option.some.inj hsame]
    exact h

theorem dedupeDevices_of_unique
    (h : ∀ ip, ∀ d ∈ t, ∀ d' ∈ t, At d ip → At d' ip → d = d') : dedupeDevices order t = t := by
  have hnone : duplicatedAddresses t = [] := by
    rw [List.eq_nil_iff_forall_not_mem]
    intro ip hip
    rw [mem_duplicatedAddresses] at hip
    have hnodup := withAddress_nodup t ip
    cases hrows : withAddress t ip with
    | nil =>
        rw [hrows] at hip
        cases hip
    | cons d rows =>
        cases rows with
        | nil =>
            rw [hrows] at hip
            exact absurd hip (lt_irrefl 1)
        | cons d' rows =>
            have hd := mem_withAddress.mp (hrows ▸ List.mem_cons_self : d ∈ withAddress t ip)
            have hd' := mem_withAddress.mp
              (hrows ▸ List.mem_cons_of_mem d List.mem_cons_self : d' ∈ withAddress t ip)
            rw [hrows, h ip d hd.1 d' hd'.1 hd.2 hd'.2] at hnodup
            exact (List.nodup_cons.mp hnodup).1 List.mem_cons_self
  have hgroups := order.groups_perm (duplicatedAddresses t)
  rw [hnone] at hgroups
  rw [dedupeDevices, hnone, hgroups.eq_nil]
  rfl

end Rounds

/-! ## When nothing is lost -/

/-- **The clean-up loses no device** exactly when no two live records have the empty text as their
address. -/
theorem dedupe_iff {Moment Rest : Type*} [LinearOrder Moment] (order : RowOrder Moment Rest)
    (t : DeviceRows Moment Rest) : Deduped t (dedupeDevices order t) ↔ OneEmpty t := by
  apply Iff.intro
  · intro h d hd d' hd' hat hat'
    have hkept := (mem_dedupeDevices_at hat).mp (h.kept d hd (.inr (.inr hat.1)))
    have hkept' := (mem_dedupeDevices_at hat').mp (h.kept d' hd' (.inr (.inr hat'.1)))
    exact Option.some.inj (hkept.symm.trans hkept')
  · intro hone
    refine ⟨fun ip _ hlive => ?_, fun d hd hdropped => ?_, fun order' => ?_⟩
    · rcases hlive with ⟨d₀, hd₀, hat₀⟩
      obtain ⟨d, hkeeper⟩ := keeper_isSome order (mem_withAddress.mpr ⟨hd₀, hat₀⟩)
      have hd := mem_withAddress.mp (keeper_mem hkeeper)
      refine ⟨d, hd.1, hd.2, fun d' hd' hat' =>
        le_keeper hkeeper (mem_withAddress.mpr ⟨hd', hat'⟩), fun d' => ⟨fun h => ?_, fun h => ?_⟩⟩
      · exact Option.some.inj (((mem_dedupeDevices_at h.2).mp h.1).symm.trans hkeeper)
      · rw [h]
        exact ⟨(mem_dedupeDevices_at hd.2).mpr hkeeper, hd.2⟩
    · refine mem_dedupeDevices.mpr ⟨hd, fun ip hd' => ?_⟩
      have hat := (mem_withAddress.mp hd').2
      rcases hdropped with hdeleted | hnull | hempty
      · exact absurd hat.2 hdeleted
      · exact absurd (hnull.symm.trans hat.1) (Option.some_ne_none ip).symm
      -- the one record without an address is kept like any other
      · obtain rfl := Option.some.inj (hempty.symm.trans hat.1)
        obtain ⟨d', hkeeper⟩ := keeper_isSome order hd'
        have hd'' := mem_withAddress.mp (keeper_mem hkeeper)
        rw [hone d hd d' hd''.1 hat hd''.2]
        exact hkeeper
    · refine dedupeDevices_of_unique fun ip d hd d' hd' hat hat' => ?_
      have hkeeper := (mem_dedupeDevices_at hat).mp hd
      have hkeeper' := (mem_dedupeDevices_at hat').mp hd'
      exact Option.some.inj (hkeeper.symm.trans hkeeper')

/-! ## The device table -/

/-- The row of a record, with the texts SQLite compares. -/
def deviceRow (d : Device) : DeviceRow String Device where
  id := d.id
  ip := d.ip
  lastHeartbeat := (Python.storedText d.lastHeartbeat : String)
  deletedAt := d.deletedAt.map Python.storedText
  rest := d

def deviceRows (devices : Devices) : DeviceRows String Device :=
  ⟨devices.rows.map deviceRow, by
    rw [List.map_map]
    exact devices.nodup⟩

theorem deviceRow_mem {devices : Devices} {row : DeviceRow String Device} :
    row ∈ deviceRows devices ↔ ∃ d ∈ devices, deviceRow d = row := List.mem_map

theorem at_deviceRow {d : Device} {ip : String} :
    At (deviceRow d) ip ↔ d.ip = some ip ∧ d.deletedAt = none := by
  rw [At, deviceRow, Option.map_eq_none_iff]

theorem deviceRow_le_iff {d d' : Device} (hd : Python.InYears d.lastHeartbeat)
    (hd' : Python.InYears d'.lastHeartbeat) :
    (deviceRow d).lastHeartbeat ≤ (deviceRow d').lastHeartbeat ↔
      d.lastHeartbeat ≤ d'.lastHeartbeat := by
  show (Python.storedText d.lastHeartbeat : WithBot String) ≤ Python.storedText d'.lastHeartbeat ↔ _
  rw [WithBot.coe_le_coe, ← not_lt, String.lt_iff_toList_lt, Python.storedText_lt_iff hd' hd,
    not_lt]

/-- Of the live records of an address the clean-up leaves the one heard from last. -/
theorem dedupe_keeps_latest (order : RowOrder String Device) {devices : Devices}
    (hdated : ∀ d ∈ devices, Python.InYears d.lastHeartbeat) {ip : String} (hne : ip ≠ "")
    (hone : OneEmpty (deviceRows devices)) {d₀ : Device} (hd₀ : d₀ ∈ devices)
    (hip : d₀.ip = some ip) (hlive : d₀.deletedAt = none) :
    ∃ d ∈ devices, deviceRow d ∈ dedupeDevices order (deviceRows devices) ∧ d.ip = some ip ∧
      d.deletedAt = none ∧
        ∀ d' ∈ devices, d'.ip = some ip → d'.deletedAt = none →
          d'.lastHeartbeat ≤ d.lastHeartbeat := by
  have hdeduped := (dedupe_iff order (deviceRows devices)).mpr hone
  obtain ⟨row, hrow, hat, hlatest, honly⟩ := hdeduped.one ip hne
    ⟨deviceRow d₀, deviceRow_mem.mpr ⟨d₀, hd₀, rfl⟩, at_deviceRow.mpr ⟨hip, hlive⟩⟩
  rcases deviceRow_mem.mp hrow with ⟨d, hd, rfl⟩
  have hat' := at_deviceRow.mp hat
  refine ⟨d, hd, ((honly _).mpr rfl).1, hat'.1, hat'.2, fun d' hd' hip' hlive' => ?_⟩
  exact (deviceRow_le_iff (hdated d' hd') (hdated d hd)).mp
    (hlatest _ (deviceRow_mem.mpr ⟨d', hd', rfl⟩) (at_deviceRow.mpr ⟨hip', hlive'⟩))

/-! ## Devices without an address -/

/-- Equal keys stay in the order of the table. -/
def RowOrder.stable {Moment Rest : Type*} [LinearOrder Moment] : RowOrder Moment Rest where
  groups ips := ips
  byHeartbeat rows := rows.insertionSort (fun d d' => d'.lastHeartbeat ≤ d.lastHeartbeat)
  groups_perm ips := .refl ips
  byHeartbeat_perm rows := List.perm_insertionSort _ rows
  byHeartbeat_sorted rows := by
    have htotal : Std.Total (fun d d' : DeviceRow Moment Rest =>
        d'.lastHeartbeat ≤ d.lastHeartbeat) := ⟨fun d d' => le_total _ _⟩
    have htrans : IsTrans (DeviceRow Moment Rest) (fun d d' =>
        d'.lastHeartbeat ≤ d.lastHeartbeat) := ⟨fun _ _ _ h h' => h'.trans h⟩
    exact List.pairwise_insertionSort _ rows

/-- What the form sends when it is left empty. -/
def emptyForm : DeviceCreate := { hostname := some "", ip := some "" }

/-- Two devices created with the form left empty. -/
def addedTwice : Devices :=
  (createDevice (createDevice .empty emptyForm issuedDraw).1 emptyForm
    ⟨0, secondUuid, firstUuid⟩).1

/-- One of them is deleted at the next start. -/
theorem empty_address_deleted :
    ¬Deduped (deviceRows addedTwice) (dedupeDevices .stable (deviceRows addedTwice)) := by
  intro h
  have hkept : ∀ row ∈ deviceRows addedTwice, row.ip = some "" →
      row ∈ dedupeDevices .stable (deviceRows addedTwice) :=
    fun row hrow hip => h.kept row hrow (.inr (.inr hip))
  exact absurd hkept (by decide)

end LanAgent.Dedupe
