import LanAgent.BulkImport

/-!
# CSV files — every row is counted

A row whose address is missing or blank is an error of its own line and nothing else.  A row that
ends before the host name, the address or the group is one whose field is `None`: the import ends
with an exception there.
-/

namespace LanAgent.CsvImport

open Library Python

/-! ## The fields of a row -/

/-- The stripped text of a column, the default when the header has no such column. -/
def fieldText (row : CsvRow) (name default : String) : String :=
  match Csv.Row.get row name with
  | some (some value) => strip value
  | _ => strip default

/-- The row reaches the three columns the import reads. -/
def Complete (row : CsvRow) : Prop :=
  ∀ name ∈ ["hostname", "ip", "group"], Csv.Row.get row name ≠ some none

instance (row : CsvRow) : Decidable (Complete row) :=
  inferInstanceAs (Decidable (∀ name ∈ _, _))

theorem csvField_eq (row : CsvRow) (name default : String) :
    csvField row name default =
      if Csv.Row.get row name = some none then .error internalServerError
      else .ok (fieldText row name default) := by
  unfold csvField fieldText Csv.Row.get
  cases row.find? (fun item => item.1 = name) with
  | none => rfl
  | some item =>
      obtain ⟨_, value⟩ := item
      cases value <;> rfl

theorem csvFields_of_complete {row : CsvRow} (h : Complete row) (groupName : String) :
    csvFields row groupName = .ok (fieldText row "hostname" "", fieldText row "ip" "",
      fieldText row "group" groupName) := by
  rw [csvFields, csvField_eq, csvField_eq, csvField_eq, if_neg (h "hostname" (by simp)),
    if_neg (h "ip" (by simp)), if_neg (h "group" (by simp))]
  rfl

theorem csvFields_of_not_complete {row : CsvRow} (h : ¬Complete row) (groupName : String) :
    ∃ e, csvFields row groupName = .error e := by
  rw [csvFields, csvField_eq, csvField_eq, csvField_eq]
  by_cases hhostname : Csv.Row.get row "hostname" = some none
  · rw [if_pos hhostname]
    exact ⟨_, rfl⟩
  by_cases hip : Csv.Row.get row "ip" = some none
  · rw [if_neg hhostname, if_pos hip]
    exact ⟨_, rfl⟩
  by_cases hgroup : Csv.Row.get row "group" = some none
  · rw [if_neg hhostname, if_neg hip, if_pos hgroup]
    exact ⟨_, rfl⟩
  exact absurd (by simp [Complete, hhostname, hip, hgroup]) h

/-! ## The rows as entries -/

/-- The address of a row, stripped; `none` when it is missing or blank. -/
def rowIp (row : CsvRow) : Option String := orNone (fieldText row "ip" "")

def rowEntry (groupName : String) (draws : Draws) (line : Nat) (row : CsvRow) (ip : String) :
    Entry where
  ip := ip
  device := { Device.new (draws line).id (draws line).token (draws line).now with
    hostname := orNone (fieldText row "hostname" "")
    ip := some ip
    groupName := orNone (fieldText row "group" groupName) }
  ip_eq := rfl
  live := rfl

@[simp] theorem rowEntry_ip (groupName : String) (draws : Draws) (line : Nat) (row : CsvRow)
    (ip : String) : (rowEntry groupName draws line row ip).ip = ip := rfl

/-- The entries of the rows from line `line` on: one for each row with an address. -/
def entries (groupName : String) (draws : Draws) : Nat → List CsvRow → List Entry
  | _, [] => []
  | line, row :: rows =>
      ((rowIp row).map (rowEntry groupName draws line row)).toList ++
        entries groupName draws (line + 1) rows

/-- The errors of the rows from line `line` on: one for each row without an address. -/
def rowErrors : Nat → List CsvRow → List String
  | _, [] => []
  | line, row :: rows =>
      (if rowIp row = none then ["Row " ++ toString line ++ ": missing ip"] else []) ++
        rowErrors (line + 1) rows

theorem importCsvRow_eq {row : CsvRow} (h : Complete row) (groupName : String) (draws : Draws)
    (state : CsvState) (line : Nat) :
    importCsvRow groupName draws state line row =
      match rowIp row with
      | none => .ok { state with
          errors := state.errors ++ ["Row " ++ toString line ++ ": missing ip"] }
      | some ip =>
          match addUnlessTaken state.devices state.count ip
            (rowEntry groupName draws line row ip).device with
          | .error e => .error e
          | .ok (devices, count) => .ok { state with devices := devices, count := count } := by
  rw [importCsvRow, csvFields_of_complete h, rowIp, orNone]
  by_cases hip : fieldText row "ip" "" = ""
  · simp only [hip, ne_eq, not_true_eq_false, if_true, if_false]
  · simp only [hip, ne_eq, not_false_eq_true, if_true, if_false]
    rfl

theorem importCsvRows_eq_addAll {rows : List CsvRow} (h : ∀ row ∈ rows, Complete row)
    (groupName : String) (draws : Draws) (state : CsvState) (line : Nat) :
    importCsvRows groupName draws state line rows =
      (addAll (entries groupName draws line rows) state.devices state.count).map fun result =>
        ⟨result.1, result.2, state.errors ++ rowErrors line rows⟩ := by
  induction rows generalizing state line with
  | nil => simp [importCsvRows, entries, addAll, rowErrors, Except.map]
  | cons row rows ih =>
      have hrows : ∀ row ∈ rows, Complete row := fun r hr => h r (List.mem_cons_of_mem _ hr)
      rw [importCsvRows, importCsvRow_eq (h row List.mem_cons_self), entries, rowErrors]
      cases hip : rowIp row with
      | none => simp [ih hrows]
      | some ip =>
          cases hadd : addUnlessTaken state.devices state.count ip
            (rowEntry groupName draws line row ip).device with
          | error e => simp [addAll, hadd, Except.map]
          | ok result => simp [addAll, hadd, ih hrows]

theorem importCsvRows_of_not_complete {rows : List CsvRow} {row : CsvRow} (hrow : row ∈ rows)
    (h : ¬Complete row) (groupName : String) (draws : Draws) (state : CsvState) (line : Nat) :
    ∃ e, importCsvRows groupName draws state line rows = .error e := by
  induction rows generalizing state line with
  | nil => exact absurd hrow List.not_mem_nil
  | cons first rows ih =>
      rw [importCsvRows]
      cases hfirst : importCsvRow groupName draws state line first with
      | error e => exact ⟨e, rfl⟩
      | ok state' =>
          rcases List.mem_cons.mp hrow with rfl | hrow
          · obtain ⟨e, he⟩ := csvFields_of_not_complete h groupName
            rw [importCsvRow, he] at hfirst
            cases hfirst
          · exact ih hrow state' (line + 1)

theorem map_ip_entries (groupName : String) (draws : Draws) (line : Nat) (rows : List CsvRow) :
    (entries groupName draws line rows).map Entry.ip = rows.filterMap rowIp := by
  induction rows generalizing line with
  | nil => rfl
  | cons row rows ih =>
      rw [entries, List.map_append, ih, List.filterMap_cons]
      cases rowIp row with
      | none => rfl
      | some ip => rfl

theorem length_entries_add_length_rowErrors (groupName : String) (draws : Draws) (line : Nat)
    (rows : List CsvRow) :
    (entries groupName draws line rows).length + (rowErrors line rows).length = rows.length := by
  induction rows generalizing line with
  | nil => rfl
  | cons row rows ih =>
      have htail := ih (line + 1)
      rw [entries, rowErrors, List.length_append, List.length_append, List.length_cons]
      cases hip : rowIp row with
      | none =>
          simp only [Option.map_none, Option.toList_none, List.length_nil, if_true,
            List.length_singleton]
          omega
      | some ip =>
          simp only [Option.map_some, Option.toList_some, List.length_singleton, reduceCtorEq,
            if_false, List.length_nil]
          omega

theorem ids_entries_sublist (groupName : String) (draws : Draws) (line : Nat)
    (rows : List CsvRow) :
    ((entries groupName draws line rows).map (fun e => e.device.id)).Sublist
      (drawnIds draws line rows.length) := by
  induction rows generalizing line with
  | nil => exact List.Sublist.refl _
  | cons row rows ih =>
      rw [entries, List.map_append, List.length_cons, drawnIds_succ]
      cases rowIp row with
      | none => exact (ih (line + 1)).cons _
      | some ip => exact (ih (line + 1)).cons_cons _

/-! ## The file -/

/-- Every data row of the text is counted, in one of the three ways. -/
def Classified (refusesNul : Bool) (devices : Devices) (text : String)
    (result : Devices × Except HttpError CsvAnswer) : Prop :=
  ∃ records answer added, Csv.reader refusesNul (decodeSig text.toList) = .ok records ∧
    result.2 = .ok answer ∧
    answer.count.added + answer.count.skipped + answer.errors.length =
      (Csv.rows records).length ∧
    answer.errors = rowErrors 2 (Csv.rows records) ∧
    answer.count.added = added.length ∧
    Imported devices ((Csv.rows records).filterMap rowIp) added result.1

/-- No data record ends before a column of the header that the import reads. -/
def NoShortRecord : List (List String) → Prop
  | [] => True
  | header :: records =>
      ∀ record ∈ records, record ≠ [] → ∀ name ∈ ["hostname", "ip", "group"], ∀ i,
        header[i]? = some name → i < record.length

theorem noShortRecord_iff {records : List (List String)} :
    NoShortRecord records ↔ ∀ row ∈ Csv.rows records, Complete row := by
  cases records with
  | nil => simp [NoShortRecord, Csv.rows]
  | cons header records =>
      simp only [NoShortRecord, Csv.rows, List.forall_mem_map, List.mem_filter,
        decide_eq_true_eq, and_imp, Complete, ne_eq, Csv.get_row_eq_some_none_iff, not_exists,
        not_and, Nat.not_le]

variable {refusesNul : Bool} {devices : Devices} {filename text groupName : String}
  {draws : Draws} {records : List (List String)}

theorem importCsvFile_of_reader (hfile : ".csv".toList.isSuffixOf filename.toList)
    (hreader : Csv.reader refusesNul (decodeSig text.toList) = .ok records) :
    importCsvFile refusesNul devices filename text groupName draws =
      settle devices ((importCsvRows groupName draws ⟨devices, ⟨0, 0⟩, []⟩ 2
        (Csv.rows records)).map fun state => (state.devices, ⟨state.count, state.errors⟩)) := by
  rw [importCsvFile, if_pos hfile, hreader]
  dsimp only
  rw [importCsv, if_pos hfile]
  cases importCsvRows groupName draws ⟨devices, ⟨0, 0⟩, []⟩ 2 (Csv.rows records) with
  | error e => rfl
  | ok state => rfl

theorem complete_of_ok {answer : CsvAnswer} (hfile : ".csv".toList.isSuffixOf filename.toList)
    (hreader : Csv.reader refusesNul (decodeSig text.toList) = .ok records)
    (h : (importCsvFile refusesNul devices filename text groupName draws).2 = .ok answer) :
    ∀ row ∈ Csv.rows records, Complete row := by
  intro row hrow
  by_contra hshort
  obtain ⟨e, he⟩ := importCsvRows_of_not_complete hrow hshort groupName draws
    ⟨devices, ⟨0, 0⟩, []⟩ 2
  rw [importCsvFile_of_reader hfile hreader, he] at h
  cases h

theorem importCsvFile_of_complete (hfile : ".csv".toList.isSuffixOf filename.toList)
    (hreader : Csv.reader refusesNul (decodeSig text.toList) = .ok records)
    (hcomplete : ∀ row ∈ Csv.rows records, Complete row) :
    importCsvFile refusesNul devices filename text groupName draws =
      settle devices ((addAll (entries groupName draws 2 (Csv.rows records)) devices ⟨0, 0⟩).map
        fun result => (result.1, ⟨result.2, rowErrors 2 (Csv.rows records)⟩)) := by
  rw [importCsvFile_of_reader hfile hreader, importCsvRows_eq_addAll hcomplete]
  cases addAll (entries groupName draws 2 (Csv.rows records)) devices ⟨0, 0⟩ with
  | error e => rfl
  | ok result => rfl

theorem classified_of_complete (hfile : ".csv".toList.isSuffixOf filename.toList)
    (hreader : Csv.reader refusesNul (decodeSig text.toList) = .ok records)
    (hcomplete : ∀ row ∈ Csv.rows records, Complete row)
    (hone : ∀ ip, (holders devices ip).length ≤ 1)
    (hfresh : FreshDraws devices draws 2 (Csv.rows records).length) :
    Classified refusesNul devices text
      (importCsvFile refusesNul devices filename text groupName draws) := by
  have hids := freshIds_of_sublist hfresh
    (ids_entries_sublist groupName draws 2 (Csv.rows records))
  obtain ⟨devices', count, hall⟩ := addAll_of_unshared hids (fun e _ => hone e.ip)
  obtain ⟨added, himported, hadded, htotal⟩ := imported_of_addAll hall
  rw [importCsvFile_of_complete hfile hreader hcomplete, hall]
  rw [map_ip_entries] at himported
  have hlength := length_entries_add_length_rowErrors groupName draws 2 (Csv.rows records)
  refine ⟨records, ⟨count, rowErrors 2 (Csv.rows records)⟩, added, hreader, rfl, ?_, rfl, ?_,
    himported⟩
  · dsimp only at htotal ⊢
    omega
  · dsimp only at hadded ⊢
    omega

/-- In particular, every row of a text without carriage returns and NULs, of at most 131072
characters, is counted when no record is short. -/
theorem classified_of_plain (hfile : ".csv".toList.isSuffixOf filename.toList)
    (hcr : '\r' ∉ decodeSig text.toList) (hnul : '\x00' ∉ decodeSig text.toList)
    (hlength : (decodeSig text.toList).length ≤ Csv.fieldLimit)
    (hshort : ∀ records, Csv.reader refusesNul (decodeSig text.toList) = .ok records →
      NoShortRecord records)
    (hone : ∀ ip, (holders devices ip).length ≤ 1)
    (hfresh : ∀ records, Csv.reader refusesNul (decodeSig text.toList) = .ok records →
      FreshDraws devices draws 2 (Csv.rows records).length) :
    Classified refusesNul devices text
      (importCsvFile refusesNul devices filename text groupName draws) := by
  obtain ⟨records, hreader⟩ := Csv.exists_reader refusesNul hcr hnul hlength
  exact classified_of_complete hfile hreader (noShortRecord_iff.mp (hshort records hreader)) hone
    (hfresh records hreader)

/-- **CSV imports.**  Every row of a file is counted exactly when the reader reads the text and no
record ends before a column of the header that the import reads. -/
theorem classified_iff (refusesNul : Bool) (devices : Devices) (filename text groupName : String)
    (draws : Draws) (hfile : ".csv".toList.isSuffixOf filename.toList)
    (hone : ∀ ip, (holders devices ip).length ≤ 1)
    (hfresh : ∀ records, Csv.reader refusesNul (decodeSig text.toList) = .ok records →
      FreshDraws devices draws 2 (Csv.rows records).length) :
    Classified refusesNul devices text
        (importCsvFile refusesNul devices filename text groupName draws) ↔
      ∃ records, Csv.reader refusesNul (decodeSig text.toList) = .ok records ∧
        NoShortRecord records := by
  apply Iff.intro
  · rintro ⟨records, answer, added, hreader, hok, -⟩
    exact ⟨records, hreader, noShortRecord_iff.mpr (complete_of_ok hfile hreader hok)⟩
  · rintro ⟨records, hreader, hshort⟩
    exact classified_of_complete hfile hreader (noShortRecord_iff.mp hshort) hone
      (hfresh records hreader)

/-- A new machine and a row without an address. -/
def twoRows : String := "hostname,ip,group\npc1,10.0.0.2,lab\npc2, ,lab\n"

theorem classified_two_rows :
    Classified false oneHolder twoRows
      (importCsvFile false oneHolder "devices.csv" twoRows "" exampleDraws) := by
  have hreader : Csv.reader false (decodeSig twoRows.toList) = .ok
      [["hostname", "ip", "group"], ["pc1", "10.0.0.2", "lab"], ["pc2", " ", "lab"]] := by
    decide
  refine (classified_iff false oneHolder "devices.csv" twoRows "" exampleDraws (by decide)
    length_holders_oneHolder fun records h => ?_).mpr
    ⟨_, hreader, noShortRecord_iff.mpr (by decide)⟩
  obtain rfl := Except.ok.inj (hreader.symm.trans h)
  decide

/-- The last row has no comma: the rows before it are lost too. -/
def shortRow : String := "hostname,ip\npc1,10.0.0.2\npc2\n"

theorem short_row_raises :
    ¬Classified false oneHolder shortRow
      (importCsvFile false oneHolder "devices.csv" shortRow "" exampleDraws) := by
  rintro ⟨records, answer, added, -, hok, -⟩
  have herror : importCsvFile false oneHolder "devices.csv" shortRow "" exampleDraws =
      (oneHolder, .error internalServerError) := by decide
  rw [herror] at hok
  cases hok

end LanAgent.CsvImport
