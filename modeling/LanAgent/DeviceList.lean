import LanAgent.DeviceRoutes
import LanAgent.Library.Pages
import LanAgent.Python.IpAddress
import LanAgent.Sqlite.Like
import Mathlib.Data.Prod.Lex
import Mathlib.Data.String.Basic

/-!
# The device list — `list_devices` and `device_stats` of `api/device_routes.py`

The query selects rows and leaves their order open; the sort by address and the cut into pages are
done in Python, for each request anew.
-/

namespace LanAgent

open Library

/-! ## The selection -/

structure ListFilter where
  status : Option String := none
  group : Option String := none
  search : Option String := none

/-- `if value:` of an optional query parameter. -/
def given (value : Option String) : Option String := value.filter (fun text => text ≠ "")

/-- `Device.status == status`: the names in the column are compared with what the type of the column
makes of the text, which is `bindStatus` (`StatusColumn`). -/
def statusSelects (bindStatus : String → String) (status : String) (device : Device) : Bool :=
  device.status.name = bindStatus status

def groupSelects (group : String) (device : Device) : Bool := device.groupName = some group

def searchSelects (search : String) (device : Device) : Bool :=
  let pattern := "%" ++ search ++ "%"
  Sqlite.ilike device.hostname pattern || Sqlite.ilike device.ip pattern

/-- The rows of the query, in the order of the table. -/
def selectDevices (bindStatus : String → String) (devices : Devices) (filter : ListFilter) :
    List Device :=
  (liveDevices devices).filter (fun d =>
    (given filter.status).all (fun status => statusSelects bindStatus status d) &&
      (given filter.group).all (fun group => groupSelects group d) &&
      (given filter.search).all (fun search => searchSelects search d))

theorem mem_liveDevices {devices : Devices} {d : Device} :
    d ∈ liveDevices devices ↔ d ∈ devices ∧ d.deletedAt = none := by
  rw [liveDevices, List.mem_filter, Option.isNone_iff_eq_none, Table.mem_def]

theorem liveDevices_nodup (devices : Devices) : (liveDevices devices).Nodup :=
  devices.nodup.of_map.filter _

theorem selectDevices_unfiltered (bindStatus : String → String) (devices : Devices) :
    selectDevices bindStatus devices {} = liveDevices devices := by
  rw [selectDevices]
  exact List.filter_eq_self.mpr fun d _ => rfl

/-! ## The pages -/

/-- `ip_sort_key`. -/
def ipSortKey (device : Device) : Nat ×ₗ Nat ×ₗ String :=
  match device.ip.bind Python.parseIPv4 with
  | some address => toLex (0, toLex (address, device.hostname.getD ""))
  -- `AddressValueError`, also for `str(None)`
  | none => toLex (1, toLex (0, device.hostname.getD ""))

/-- `list_devices`, from the rows on, in the order in which the query has returned them. -/
def listDevices (returned : List Device) (page size : Nat) : List Device :=
  let devices := Pages.sortBy ipSortKey returned
  let start := (page - 1) * size
  (devices.drop start).take size

theorem listDevices_eq_page (returned : List Device) (size number : Nat) :
    listDevices returned (number + 1) size =
      Pages.page (Pages.sortBy ipSortKey returned) size number := rfl

/-- The pages from the first on, requested one after the other; `returned i` are the rows as the
query returns them for page `i + 1`. -/
def listPages (returned : Nat → List Device) (size : Nat) : Nat → List Device
  | 0 => []
  | n + 1 => listPages returned size n ++ listDevices (returned n) (n + 1) size

theorem listPages_eq_pages (returned : Nat → List Device) (size n : Nat) :
    listPages returned size n =
      Pages.pages (fun i => Pages.sortBy ipSortKey (returned i)) size n := by
  induction n with
  | zero => rfl
  | succ n ih => rw [listPages, ih, Pages.pages, listDevices_eq_page]

/-- The requests of the pages return the rows in one order, or no page boundary falls among rows
with the same sort key. -/
def Steady (rows : List Device) (size : Nat) (returned : Nat → List Device) : Prop :=
  (∀ i, returned i = returned 0) ∨ ∀ i, ¬Pages.Cut ipSortKey rows (i * size)

/-- Then the pages show the rows, each of them once. -/
theorem listPages_perm {rows : List Device} {returned : Nat → List Device} {size n : Nat}
    (hreturned : ∀ i, (returned i).Perm rows) (hsteady : Steady rows size returned)
    (hlength : rows.length ≤ n * size) : (listPages returned size n).Perm rows := by
  rw [listPages_eq_pages]
  exact Pages.pages_perm hreturned hsteady hlength

/-! ## The counts -/

structure DeviceStats where
  total : Nat
  online : Nat
  offline : Nat
  deriving DecidableEq, Repr

/-- The live rows whose column holds the name of the member. -/
def countStatus (devices : Devices) (status : DeviceStatus) : Nat :=
  (liveDevices devices).countP (fun d => d.status.name = status.name)

/-- `device_stats`. -/
def deviceStats (devices : Devices) : DeviceStats where
  total := (liveDevices devices).length
  online := countStatus devices .online
  offline := countStatus devices .offline

end LanAgent
