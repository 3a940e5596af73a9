import LanAgent.Agent
import LanAgent.Go.Json
import LanAgent.WsRoutes

/-!
# The two ways to report hardware — a heartbeat and a `sysinfo` task

Both carry the JSON of one collection, in which a query that failed has no member.  The heartbeat
assigns all ten columns and the task those that are there; `reported_alike_iff` says when that comes
to the same.
-/

namespace LanAgent.HardwareReports

open Library Sqlite Python Go

/-! ## The JSON of a collection -/

def member (info : SysInfo) : HwField → Option JsonScalar
  | .cpuModel => (omitEmpty info.cpuModel).map .text
  | .cpuCores => (omitZero info.cpuCores).map .int
  | .memoryTotalMb => (omitZero info.memoryTotalMb).map .int
  | .diskTotalGb => (omitZero info.diskTotalGb).map .int
  | .diskFreeGb => (omitZero info.diskFreeGb).map .int
  | .osVersion => (omitEmpty info.osVersion).map .text
  | .serialNumber => (omitEmpty info.serialNumber).map .text
  | .macAddress => (omitEmpty info.macAddress).map .text
  | .manufacturer => (omitEmpty info.manufacturer).map .text
  | .model => (omitEmpty info.model).map .text

def members (info : SysInfo) (fields : List HwField) : List (String × JsonScalar) :=
  fields.filterMap fun f => (member info f).map fun scalar => (f.name, scalar)

/-- The output of a `sysinfo` task. -/
def output (info : SysInfo) : String := marshal (members info HwField.all)

theorem name_injective : Function.Injective HwField.name := by
  intro f g
  have hall : ∀ f g : HwField, f.name = g.name → f = g := by decide
  exact hall f g

theorem nodup_members (info : SysInfo) : ((members info HwField.all).map Prod.fst).Nodup := by
  have hnames : (members info HwField.all).map Prod.fst =
      HwField.all.filterMap fun f => (member info f).map fun _ => f.name := by
    rw [members, List.map_filterMap]
    refine List.filterMap_congr fun f _ => ?_
    cases member info f <;> rfl
  have hnodup : HwField.all.Nodup := by decide
  rw [hnames]
  refine hnodup.filterMap fun f g name hf hg => ?_
  obtain ⟨_, _, rfl⟩ := Option.map_eq_some_iff.mp hf
  obtain ⟨_, _, hname⟩ := Option.map_eq_some_iff.mp hg
  exact (name_injective hname).symm

/-- What SQLite stores of a scalar. -/
def column : JsonScalar → Value
  | .text s => .text s
  | .int n => .integer n

/-- **A heartbeat** assigns every column. -/
theorem column_payload (info : SysInfo) (f : HwField) :
    info.payload.column f = ((member info f).map column).getD .null := by
  have htext : ∀ s : String, Value.ofText (omitEmpty s) =
      (((omitEmpty s).map JsonScalar.text).map column).getD .null := by
    intro s
    cases omitEmpty s <;> rfl
  have hint : ∀ n : GoInt, Value.ofInteger (omitZero n) =
      (((omitZero n).map JsonScalar.int).map column).getD .null := by
    intro n
    cases omitZero n <;> rfl
  cases f <;> first | exact htext _ | exact hint _

/-- A column of numbers gets a number that fits it, the others a text. -/
theorem member_cases {info : SysInfo} {f : HwField} {scalar : JsonScalar}
    (h : member info f = some scalar) :
    (f.isCounter = false ∧ ∃ s, scalar = .text s) ∨
      (f.isCounter = true ∧ ∃ n, scalar = .int n ∧ fitsInt64 n = true) := by
  have htext : ∀ s : String, (omitEmpty s).map JsonScalar.text = some scalar →
      ∃ s, scalar = .text s := by
    intro s hs
    obtain ⟨t, _, rfl⟩ := Option.map_eq_some_iff.mp hs
    exact ⟨t, rfl⟩
  have hint : ∀ n : GoInt, (omitZero n).map JsonScalar.int = some scalar →
      ∃ n, scalar = .int n ∧ fitsInt64 n = true := by
    intro n hn
    unfold omitZero at hn
    split at hn
    · cases hn
    · cases hn
      exact ⟨n.val, rfl, n.property⟩
  cases f <;> first | exact .inl ⟨rfl, htext _ h⟩ | exact .inr ⟨rfl, hint _ h⟩

theorem readable_member {info : SysInfo} {f : HwField} {scalar : JsonScalar}
    (h : member info f = some scalar) : scalar.Readable := by
  rcases member_cases h with ⟨_, s, rfl⟩ | ⟨_, n, rfl, hfits⟩
  · trivial
  · have hle : n.natAbs < 10 ^ 19 := by
      simp only [fitsInt64, Bool.and_eq_true, decide_eq_true_eq] at hfits
      omega
    have hlength := (Nat.length_toDigits_le_iff (b := 10) (by decide) (by decide)).mpr hle
    exact hlength.trans (by decide)

/-- **A task's output is read** as the object it was written from. -/
theorem loads_output {limit : Nat} (hlimit : 0 < limit) (info : SysInfo) :
    loads limit (output info) =
      .ok (.obj ((members info HwField.all).map fun m => (Str.ofString m.1, m.2.value))) := by
  refine loads_marshal hlimit (nodup_members info) fun m hm => ?_
  obtain ⟨f, _, hf⟩ := List.mem_filterMap.mp hm
  obtain ⟨scalar, hscalar, rfl⟩ := Option.map_eq_some_iff.mp hf
  exact readable_member hscalar

theorem lookup_members (info : SysInfo) (f : HwField) (fields : List HwField) :
    lookup ((members info fields).map fun m => (Str.ofString m.1, m.2.value))
        (Str.ofString f.name) =
      if f ∈ fields then (member info f).map JsonScalar.value else none := by
  induction fields with
  | nil => rfl
  | cons g fields ih =>
      cases hg : member info g with
      | none =>
          have hskip : members info (g :: fields) = members info fields := by
            simp [members, hg]
          rw [hskip, ih]
          by_cases hfg : f = g
          · simp [hfg, hg]
          · simp [hfg]
      | some scalar =>
          have hcons : members info (g :: fields) = (g.name, scalar) :: members info fields := by
            simp [members, hg]
          rw [hcons, List.map_cons, lookup]
          by_cases hfg : f = g
          · rw [List.find?_cons_of_pos (by simp [hfg])]
            simp [hfg, hg]
          · have hname : Str.ofString g.name ≠ Str.ofString f.name := fun heq =>
              hfg (name_injective (Str.ofString_injective heq)).symm
            rw [List.find?_cons_of_neg (by simpa using hname), ← lookup, ih]
            simp [hfg]

/-! ## A task -/

/-- The record of the device after a `sysinfo` task; `none` where an exception ends the frame. -/
def afterTask (rt : Runtime) (devices : Devices) (deviceId : String) (info : SysInfo)
    (now : DateTime) : Option Device :=
  match storeSysinfoOutput rt devices deviceId (output info) now with
  | .error _ => none
  | .ok devices => devices.find? deviceId

/-- A column takes a scalar of its kind as it is. -/
theorem bind_member {info : SysInfo} {f : HwField} {scalar : JsonScalar}
    (h : member info f = some scalar) (affinity : ColumnAffinity) :
    Sqlite.bind scalar.value = .ok (column scalar) ∧
      f.stored affinity (column scalar) = column scalar := by
  rcases member_cases h with ⟨hcounter, s, rfl⟩ | ⟨hcounter, n, rfl, hfits⟩
  · refine ⟨?_, ?_⟩
    · rw [JsonScalar.value, Sqlite.bind, Str.encode_ofString]
      rfl
    · rw [HwField.stored, if_neg (by simp [hcounter])]
      rfl
  · refine ⟨if_pos hfits, ?_⟩
    rw [HwField.stored, if_pos hcounter]
    rfl

/-- The values a task writes are those of its members. -/
theorem sysinfoValues_members (rt : Runtime) (info : SysInfo) : ∃ values,
    sysinfoValues rt ((members info HwField.all).map fun m => (Str.ofString m.1, m.2.value))
        HwField.all = .ok values ∧
      ∀ f, values.lookup f = (member info f).map column := by
  have hlookup : ∀ f : HwField, lookup ((members info HwField.all).map
      fun m => (Str.ofString m.1, m.2.value)) (Str.ofString f.name) =
        (member info f).map JsonScalar.value := by
    intro f
    rw [lookup_members, if_pos f.mem_all]
  have hbind : ∀ f ∈ HwField.all, ∀ value, lookup ((members info HwField.all).map
      fun m => (Str.ofString m.1, m.2.value)) (Str.ofString f.name) = some value →
        bindable value = true := by
    intro f _ value hvalue
    rw [hlookup] at hvalue
    obtain ⟨scalar, hscalar, rfl⟩ := Option.map_eq_some_iff.mp hvalue
    exact bindable_iff.mpr ⟨_, (bind_member hscalar rt.affinity).1⟩
  obtain ⟨values, hvalues⟩ := sysinfoValues_isOk_iff.mpr hbind
  refine ⟨values, hvalues, fun f => Option.ext fun w => ?_⟩
  rw [lookup_sysinfoValues hvalues, hlookup, and_iff_right f.mem_all]
  cases hmember : member info f with
  | none => simp
  | some scalar =>
      obtain ⟨hscalar, hstored⟩ := bind_member hmember rt.affinity
      simp [hscalar, hstored, eq_comm]

/-- **A task** writes the columns its output names, and leaves the others as they are. -/
theorem afterTask_hardware {rt : Runtime} (hlimit : 0 < rt.recursionLimit) {devices : Devices}
    {device : Device} {deviceId : String} (hfind : devices.find? deviceId = some device)
    (info : SysInfo) (now : DateTime) : ∃ record, afterTask rt devices deviceId info now =
        some record ∧
      ∀ f, record.hardware f = ((member info f).map column).getD (device.hardware f) := by
  obtain ⟨values, hvalues, hlookup⟩ := sysinfoValues_members rt info
  unfold afterTask storeSysinfoOutput
  rw [loads_output hlimit]
  dsimp only
  rw [hvalues]
  cases values with
  | nil =>
      refine ⟨device, hfind, fun f => ?_⟩
      rw [← hlookup f]
      rfl
  | cons value values =>
      refine ⟨writeSysinfo device (value :: values) now, ?_, fun f => ?_⟩
      · dsimp only
        rw [updateSysinfo, Table.find?_updateKey_self, hfind]
        rfl
      · rw [← hlookup f]
        rfl

/-! ## The two compared -/

/-- A heartbeat and a task store the same hardware, and what was not measured stays. -/
def ReportedAlike (rt : Runtime) (devices : Devices) (device : Device) (info : SysInfo)
    (now : DateTime) : Prop :=
  ∃ record, afterTask rt devices device.id info now = some record ∧
    (∀ f, (applySysinfo device (some info.payload) now).hardware f = record.hardware f) ∧
    ∀ f, member info f = none →
      (applySysinfo device (some info.payload) now).hardware f = device.hardware f ∧
        record.hardware f = device.hardware f

/-- **The two reports come to the same** exactly when the record has nothing yet in the columns
that were not measured. -/
theorem reported_alike_iff (rt : Runtime) (hlimit : 0 < rt.recursionLimit) (devices : Devices)
    (device : Device) (hfind : devices.find? device.id = some device) (info : SysInfo)
    (now : DateTime) :
    ReportedAlike rt devices device info now ↔
      ∀ f, member info f = none → device.hardware f = .null := by
  have hheartbeat : ∀ f, (applySysinfo device (some info.payload) now).hardware f =
      ((member info f).map column).getD .null := column_payload info
  obtain ⟨record, hrecord, htask⟩ := afterTask_hardware hlimit hfind info now
  apply Iff.intro
  · rintro ⟨_, _, _, hkept⟩ f hmissing
    rw [← (hkept f hmissing).1, hheartbeat, hmissing]
    rfl
  · intro hnull
    refine ⟨record, hrecord, fun f => ?_, fun f hmissing => ⟨?_, ?_⟩⟩
    · rw [hheartbeat, htask]
      cases hmember : member info f with
      | none => exact (hnull f hmember).symm
      | some scalar => rfl
    · rw [hheartbeat, hmissing, hnull f hmissing]
      rfl
    · rw [htask, hmissing]
      rfl

/-- Only the processor's name could be read. -/
def onlyProcessor : SysInfo where
  cpuModel := "AMD Ryzen 5"
  cpuCores := ⟨0, rfl⟩
  memoryTotalMb := ⟨0, rfl⟩
  diskTotalGb := ⟨0, rfl⟩
  diskFreeGb := ⟨0, rfl⟩
  osVersion := ""
  serialNumber := ""
  macAddress := ""
  manufacturer := ""
  model := ""

def defaultRuntime : Runtime := ⟨1000, .plain⟩

/-- A device nothing is known of. -/
def unmeasured : Device := Device.new firstUuid secondUuid 0

theorem reported_alike_unmeasured :
    ReportedAlike defaultRuntime ⟨[unmeasured], List.nodup_singleton _⟩ unmeasured onlyProcessor
      1 :=
  (reported_alike_iff defaultRuntime (by decide) ⟨[unmeasured], List.nodup_singleton _⟩ unmeasured
    (by decide) onlyProcessor 1).mpr fun _ _ => rfl

/-- A device whose cores were counted. -/
def measured : Device :=
  { unmeasured with hardware := fun f => if f = .cpuCores then .integer 8 else .null }

/-- The heartbeat erases the number of cores, and the task keeps it. -/
theorem cores_erased :
    ¬ReportedAlike defaultRuntime ⟨[measured], List.nodup_singleton _⟩ measured onlyProcessor
      1 := by
  rintro ⟨record, _, _, hkept⟩
  have herased : (applySysinfo measured (some onlyProcessor.payload) 1).hardware .cpuCores ≠
      measured.hardware .cpuCores := by decide
  exact herased (hkept .cpuCores rfl).1

end LanAgent.HardwareReports
