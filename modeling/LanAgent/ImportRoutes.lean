import LanAgent.DeviceRoutes
import LanAgent.Python.Csv
import LanAgent.Python.IpAddress

/-!
# Imports — `api/import_routes.py`

The two bulk writers of the device table.  Both look every address up before they add it, in one
transaction whose earlier additions the later lookups see; an exception anywhere rolls all of it
back.
-/

namespace LanAgent

open Library Sqlite

/-- The two UUIDs of the record added for the `i`-th row or address, and the clock. -/
abbrev Draws := Nat → Draw

structure ImportCount where
  added : Nat
  skipped : Nat
  deriving DecidableEq, Repr

/-- `(await db.execute(select(Device).where(Device.ip == ip))).scalar_one_or_none()`, as a truth
value; two or more rows raise `MultipleResultsFound`. -/
def ipTaken (devices : Devices) (ip : String) : Except HttpError Bool :=
  match devices.rows.filter (fun d => d.ip = some ip) with
  | [] => .ok false
  | [_] => .ok true
  | _ => .error internalServerError

def addUnlessTaken (devices : Devices) (count : ImportCount) (ip : String) (device : Device) :
    Except HttpError (Devices × ImportCount) :=
  match ipTaken devices ip with
  | .error e => .error e
  -- deleted records count as well
  | .ok true => .ok (devices, { count with skipped := count.skipped + 1 })
  | .ok false =>
      match devices.insert? device with
      | some devices' => .ok (devices', { count with added := count.added + 1 })
      | none => .error internalServerError

theorem insertions_addUnlessTaken {devices devices' : Devices} {count count' : ImportCount}
    {ip : String} {device : Device} (hfresh : FreshlyIssued device)
    (h : addUnlessTaken devices count ip device = .ok (devices', count')) :
    Insertions devices devices' := by
  unfold addUnlessTaken at h
  split at h
  · cases h
  · cases h
    exact .refl
  · split at h
    · rename_i hinsert
      cases h
      exact .single ⟨device, hfresh, hinsert⟩
    · cases h

/-! ## CSV -/

/-- A row of `csv.DictReader`: the value of each header column, `None` where the row is short. -/
abbrev CsvRow := List (String × Option String)

/-- `row.get(name, default).strip()`; `None` has no `strip`. -/
def csvField (row : CsvRow) (name default : String) : Except HttpError String :=
  match row.find? (fun item => item.1 = name) with
  | none => .ok (Python.strip default)
  | some (_, some value) => .ok (Python.strip value)
  | some (_, none) => .error internalServerError

/-- The three fields of a row: host name, address and group. -/
def csvFields (row : CsvRow) (groupName : String) : Except HttpError (String × String × String) :=
  return (← csvField row "hostname" "", ← csvField row "ip" "", ← csvField row "group" groupName)

structure CsvState where
  devices : Devices
  count : ImportCount
  errors : List String

/-- One row of the import, at line `line` of the file. -/
def importCsvRow (groupName : String) (draws : Draws) (state : CsvState) (line : Nat)
    (row : CsvRow) : Except HttpError CsvState :=
  match csvFields row groupName with
  | .error e => .error e
  | .ok (hostname, ip, group) =>
      if ip = "" then
        .ok { state with errors := state.errors ++ ["Row " ++ toString line ++ ": missing ip"] }
      else
        let draw := draws line
        match addUnlessTaken state.devices state.count ip
          { Device.new draw.id draw.token draw.now with
            hostname := orNone hostname
            ip := some ip
            groupName := orNone group } with
        | .error e => .error e
        | .ok (devices, count) => .ok { state with devices := devices, count := count }

def importCsvRows (groupName : String) (draws : Draws) :
    CsvState → Nat → List CsvRow → Except HttpError CsvState
  | state, _, [] => .ok state
  | state, line, row :: rows =>
      match importCsvRow groupName draws state line row with
      | .error e => .error e
      | .ok state' => importCsvRows groupName draws state' (line + 1) rows

structure CsvAnswer where
  count : ImportCount
  errors : List String
  deriving DecidableEq, Repr

/-- `import_csv`, from the rows of the reader on. -/
def importCsv (devices : Devices) (filename : String) (rows : List CsvRow) (groupName : String)
    (draws : Draws) : Devices × Except HttpError CsvAnswer :=
  if ".csv".toList.isSuffixOf filename.toList then
    -- line 1 is the header; one commit behind the loop
    match importCsvRows groupName draws ⟨devices, ⟨0, 0⟩, []⟩ 2 rows with
    | .ok state => (state.devices, .ok ⟨state.count, state.errors⟩)
    | .error e => (devices, .error e)
  else (devices, .error ⟨400, "仅支持 CSV 文件"⟩)

/-- `content.decode("utf-8-sig")`, of a content that is UTF-8. -/
def decodeSig : List Char → List Char
  | '\uFEFF' :: cs => cs
  | cs => cs

/-- `import_csv`: the rows are read while they are imported, but an exception of the reader rolls
all of them back. -/
def importCsvFile (refusesNul : Bool) (devices : Devices) (filename text groupName : String)
    (draws : Draws) : Devices × Except HttpError CsvAnswer :=
  if ".csv".toList.isSuffixOf filename.toList then
    match Python.Csv.reader refusesNul (decodeSig text.toList) with
    | .ok records => importCsv devices filename (Python.Csv.rows records) groupName draws
    | .error _ => (devices, .error internalServerError)
  else (devices, .error ⟨400, "仅支持 CSV 文件"⟩)

theorem insertions_importCsvRow {groupName : String} {draws : Draws} {state state' : CsvState}
    {line : Nat} {row : CsvRow}
    (h : importCsvRow groupName draws state line row = .ok state') :
    Insertions state.devices state'.devices := by
  unfold importCsvRow at h
  cases hfields : csvFields row groupName with
  | error e =>
      rw [hfields] at h
      cases h
  | ok fields =>
      rw [hfields] at h
      dsimp only at h
      split at h
      · cases h
        exact .refl
      · split at h
        · cases h
        · rename_i hadd
          cases h
          exact insertions_addUnlessTaken ⟨⟨(draws line).token, rfl⟩, rfl⟩ hadd

theorem insertions_importCsvRows {groupName : String} {draws : Draws} {rows : List CsvRow}
    {state state' : CsvState} {line : Nat}
    (h : importCsvRows groupName draws state line rows = .ok state') :
    Insertions state.devices state'.devices := by
  induction rows generalizing state line with
  | nil =>
      cases h
      exact .refl
  | cons row rows ih =>
      unfold importCsvRows at h
      split at h
      · cases h
      · rename_i hrow
        exact (insertions_importCsvRow hrow).trans (ih h)

theorem insertions_importCsv (devices : Devices) (filename : String) (rows : List CsvRow)
    (groupName : String) (draws : Draws) :
    Insertions devices (importCsv devices filename rows groupName draws).1 := by
  unfold importCsv
  split
  · split
    · rename_i state hrows
      exact insertions_importCsvRows hrows
    · exact .refl
  · exact .refl

/-! ## Address ranges -/

structure IpRangeRequest where
  startIp : String
  endIp : String
  groupName : Option String := none

/-- The loop over `range(start, end + 1)`, as `n` addresses from `first` on. -/
def importAddresses (groupName : String) (draws : Draws) :
    Nat → Nat → Devices → ImportCount → Except HttpError (Devices × ImportCount)
  | 0, _, devices, count => .ok (devices, count)
  | n + 1, first, devices, count =>
      let draw := draws first
      match addUnlessTaken devices count (Python.formatIPv4 first)
        { Device.new draw.id draw.token draw.now with
          ip := some (Python.formatIPv4 first)
          groupName := orNone groupName } with
      | .error e => .error e
      | .ok (devices', count') => importAddresses groupName draws n (first + 1) devices' count'

/-- `import_ip_range`. -/
def importIpRange (devices : Devices) (payload : IpRangeRequest) (draws : Draws) :
    Devices × Except HttpError ImportCount :=
  match Python.parseIPv4 payload.startIp, Python.parseIPv4 payload.endIp with
  | some first, some last =>
      if last < first then (devices, .error ⟨400, "结束 IP 不能小于起始 IP"⟩)
      -- `end - start > 1024`, so 1025 addresses pass
      else if 1024 < last - first then
        (devices, .error ⟨400, "IP range too large (max 1024)"⟩)
      else
        match importAddresses (payload.groupName.getD "") draws (last + 1 - first) first devices
          ⟨0, 0⟩ with
        | .ok (devices', count) => (devices', .ok count)
        | .error e => (devices, .error e)
  -- behind `Invalid IP` the source writes the text of the `AddressValueError`, left out here
  | _, _ => (devices, .error ⟨400, "Invalid IP"⟩)

theorem insertions_importAddresses {groupName : String} {draws : Draws} {n first : Nat}
    {devices devices' : Devices} {count count' : ImportCount}
    (h : importAddresses groupName draws n first devices count = .ok (devices', count')) :
    Insertions devices devices' := by
  induction n generalizing first devices count with
  | zero =>
      cases h
      exact .refl
  | succ n ih =>
      unfold importAddresses at h
      dsimp only at h
      split at h
      · cases h
      · rename_i hadd
        exact (insertions_addUnlessTaken ⟨⟨(draws first).token, rfl⟩, rfl⟩ hadd).trans (ih h)

theorem insertions_importIpRange (devices : Devices) (payload : IpRangeRequest) (draws : Draws) :
    Insertions devices (importIpRange devices payload draws).1 := by
  unfold importIpRange
  split
  · split
    · exact .refl
    · split
      · exact .refl
      · split
        · rename_i hadd
          exact insertions_importAddresses hadd
        · exact .refl
  · exact .refl

end LanAgent
