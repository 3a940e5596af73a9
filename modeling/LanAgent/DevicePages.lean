import LanAgent.DeviceList

/-!
# The pages of the device list

Every page is cut from a list that was fetched and sorted for it alone, and the query has no
`ORDER BY`.  Devices with the same sort key may change places in between, so the pages are a
partition of the live devices, for every order of the rows, exactly when no page boundary falls
among devices with the same key (`pages_partition_iff`).
-/

namespace LanAgent.DevicePages

open Library

/-! ## The property -/

def address (device : Device) : Option Nat := device.ip.bind Python.parseIPv4

/-- In order of the addresses, devices without a valid one last. -/
def InOrder (d d' : Device) : Prop :=
  match address d, address d' with
  | some a, some a' => a ≤ a'
  | none, some _ => False
  | _, none => True

structure Partition (devices : Devices) (size : Nat) (returned : Nat → List Device) : Prop where
  complete : ∀ n, (liveDevices devices).length ≤ n * size →
    (listPages returned size n).Perm (liveDevices devices)
  ordered : ∀ n, (listPages returned size n).Pairwise InOrder

/-- The pages partition the devices, in whatever order the query returns the rows for each. -/
def PagesPartition (bindStatus : String → String) (devices : Devices) (size : Nat) : Prop :=
  ∀ returned : Nat → List Device,
    (∀ i, (returned i).Perm (selectDevices bindStatus devices {})) →
      Partition devices size returned

/-! ## The condition -/

/-- No page boundary falls among live devices with the same sort key. -/
def UncutTies (devices : Devices) (size : Nat) : Prop :=
  ∀ n, ¬Pages.Cut ipSortKey (liveDevices devices) (n * size)

/-! ## The order of the addresses -/

theorem inOrder_of_key_le {d d' : Device} (h : ipSortKey d ≤ ipSortKey d') : InOrder d d' := by
  unfold InOrder address
  unfold ipSortKey at h
  cases hd : d.ip.bind Python.parseIPv4 with
  | some a =>
      cases hd' : d'.ip.bind Python.parseIPv4 with
      | some a' =>
          rw [hd, hd', Prod.Lex.toLex_le_toLex, Prod.Lex.toLex_le_toLex] at h
          rcases h with h | ⟨_, h | ⟨h, _⟩⟩
          · exact absurd h (lt_irrefl _)
          · exact h.le
          · exact h.le
      | none => trivial
  | none =>
      cases hd' : d'.ip.bind Python.parseIPv4 with
      | some a' =>
          rw [hd, hd', Prod.Lex.toLex_le_toLex] at h
          rcases h with h | ⟨h, _⟩
          · exact absurd h (Nat.not_lt_zero 1)
          · exact absurd h Nat.one_ne_zero
      | none => trivial

theorem listPages_ordered {devices : Devices} {returned : Nat → List Device}
    (hreturned : ∀ i, (returned i).Perm (liveDevices devices)) (size n : Nat) :
    (listPages returned size n).Pairwise InOrder := by
  have hlive : (Pages.sortBy ipSortKey (liveDevices devices)).Perm (liveDevices devices) :=
    Pages.sortBy_perm _
  have hsorted : Pages.Sorted ipSortKey (Pages.sortBy ipSortKey (liveDevices devices)) :=
    Pages.sorted_sortBy _
  have hkeys := Pages.map_key_pages (fun i => (Pages.sortBy_perm (returned i)).trans (hreturned i))
    (fun i => Pages.sorted_sortBy (returned i)) size n hlive hsorted
  rw [← listPages_eq_pages] at hkeys
  -- the keys of the pages are those of the sorted list, whoever has them
  have hpairwise : ((listPages returned size n).map ipSortKey).Pairwise (· ≤ ·) := by
    rw [hkeys]
    exact (List.pairwise_map.mpr hsorted).sublist (List.take_sublist _ _)
  exact (List.pairwise_map.mp hpairwise).imp inOrder_of_key_le

/-! ## When the pages partition the devices -/

/-- **Pages partition the device list** for every order of the rows exactly when no page boundary
falls among live devices with the same sort key. -/
theorem pages_partition_iff (bindStatus : String → String) (devices : Devices) (size : Nat) :
    PagesPartition bindStatus devices size ↔ UncutTies devices size := by
  unfold PagesPartition UncutTies
  rw [selectDevices_unfiltered, ← Pages.pages_perm_iff (liveDevices_nodup devices) size]
  apply Iff.intro
  · intro h returned hreturned n hn
    rw [← listPages_eq_pages]
    exact (h returned hreturned).complete n hn
  · intro h returned hreturned
    refine ⟨fun n hn => ?_, listPages_ordered hreturned size⟩
    rw [listPages_eq_pages]
    exact h returned hreturned n hn

def firstUnnamed : Device := Device.new firstUuid firstUuid 0

def secondUnnamed : Device := Device.new secondUuid secondUuid 0

/-- Two devices that have neither an address nor a name. -/
def unnamedDevices : Devices := ⟨[firstUnnamed, secondUnnamed], by decide +kernel⟩

/-- On pages of one device, the first device is shown twice. -/
theorem unnamed_shown_twice : ¬PagesPartition id unnamedDevices 1 := by
  intro h
  have hswap : [secondUnnamed, firstUnnamed].Perm (selectDevices id unnamedDevices {}) := by
    decide
  have hsame : [firstUnnamed, secondUnnamed].Perm (selectDevices id unnamedDevices {}) := by
    decide
  have hcomplete := (h (fun i => if i = 0 then [firstUnnamed, secondUnnamed]
    else [secondUnnamed, firstUnnamed]) fun i => by
      split
      · exact hsame
      · exact hswap).complete 2 (by decide)
  exact absurd hcomplete (by decide)

end LanAgent.DevicePages
