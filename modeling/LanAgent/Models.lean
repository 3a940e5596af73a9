import LanAgent.Library.Table
import LanAgent.Sqlite
import Mathlib.Data.Fintype.Pi

/-!
# The data model — `models/models.py` and `config.py`

The rows of the three tables the server keeps about its agents, their enumerations, and the
database as the tables together.  A moment is a number of microseconds; `str(uuid.uuid4())` is a
subtype of the texts of that shape.
-/

namespace LanAgent

open Library Sqlite

/-- A naive `datetime`, in microseconds. -/
abbrev DateTime := Int

def seconds (n : Int) : Int := n * 1000000

/-- The shape `8-4-4-4-12` of lower-case hexadecimal digits. -/
def isUuidText (s : String) : Bool :=
  s.toList.length = 36 &&
    s.toList.zipIdx.all (fun (c, i) =>
      -- the four dashes; every other place is a digit
      if i = 8 || i = 13 || i = 18 || i = 23 then c = '-'
      else ('0' ≤ c && c ≤ '9') || ('a' ≤ c && c ≤ 'f'))

/-- `str(uuid.uuid4())`. -/
abbrev Uuid := { s : String // isUuidText s = true }

theorem Uuid.ne_empty (u : Uuid) : u.val ≠ "" := by
  intro h
  have hu := u.property
  rw [h] at hu
  exact absurd hu (by decide)

theorem Uuid.of_mem_toList {u : Uuid} {c : Char} (hc : c ∈ u.val.toList) :
    c = '-' ∨ ('0' ≤ c ∧ c ≤ '9') ∨ ('a' ≤ c ∧ c ≤ 'f') := by
  have hu := u.property
  simp only [isUuidText, Bool.and_eq_true, List.all_eq_true] at hu
  rcases List.mem_iff_getElem.mp hc with ⟨i, hi, rfl⟩
  have hshape := hu.2 (u.val.toList[i], i) (List.mk_mem_zipIdx_iff_getElem?.mpr (by simp [hi]))
  split at hshape
  · exact .inl (of_decide_eq_true hshape)
  · simp only [Bool.or_eq_true, Bool.and_eq_true, decide_eq_true_eq] at hshape
    exact .inr hshape

theorem Uuid.isAscii (u : Uuid) : Python.isAscii u.val = true := by
  rw [Python.isAscii, List.all_eq_true]
  intro c hc
  rw [decide_eq_true_eq]
  -- characters are compared by their numbers, and both ranges end below 128
  have hle : ∀ d : Char, c ≤ d → c.toNat ≤ d.toNat := fun d h => h
  rcases Uuid.of_mem_toList hc with rfl | ⟨-, h⟩ | ⟨-, h⟩
  · decide
  · have := hle _ h
    have h9 : '9'.toNat = 57 := rfl
    omega
  · have := hle _ h
    have hf : 'f'.toNat = 102 := rfl
    omega

def firstUuid : Uuid := ⟨"11111111-1111-4111-8111-111111111111", by decide +kernel⟩

def secondUuid : Uuid := ⟨"22222222-2222-4222-8222-222222222222", by decide +kernel⟩

/-! ## Enumerations -/

inductive DeviceStatus where
  | online
  | offline
  | generalized
  | recovering
  deriving DecidableEq, Repr

/-- What an `Enum` column stores: the name of the member. -/
def DeviceStatus.name : DeviceStatus → String
  | .online => "ONLINE"
  | .offline => "OFFLINE"
  | .generalized => "GENERALIZED"
  | .recovering => "RECOVERING"

theorem DeviceStatus.name_injective : Function.Injective DeviceStatus.name := by
  intro s t h
  cases s <;> cases t <;> first | rfl | exact absurd h (by decide)

/-- What the API reports: the value of the member. -/
def DeviceStatus.value : DeviceStatus → String
  | .online => "online"
  | .offline => "offline"
  | .generalized => "generalized"
  | .recovering => "recovering"

inductive TaskType where
  | sysprep
  | sysprepReboot
  | shutdown
  | reboot
  | status
  | upgrade
  | filePush
  | hostmsg
  | sysinfo
  deriving DecidableEq, Repr

/-- `TaskType(value)`; `none` is `ValueError`. -/
def TaskType.ofValue? (value : String) : Option TaskType :=
  if value = "sysprep" then some .sysprep
  else if value = "sysprep_reboot" then some .sysprepReboot
  else if value = "shutdown" then some .shutdown
  else if value = "reboot" then some .reboot
  else if value = "status" then some .status
  else if value = "upgrade" then some .upgrade
  else if value = "file_push" then some .filePush
  else if value = "hostmsg" then some .hostmsg
  else if value = "sysinfo" then some .sysinfo
  else none

inductive TaskStatus where
  | pending
  | running
  | completed
  | failed
  | cancelled
  deriving DecidableEq, Repr

/-- The task has ended. -/
def TaskStatus.isFinal : TaskStatus → Bool
  | .pending => false
  | .running => false
  | _ => true

/-! ## Devices -/

/-- The ten columns of hardware and system information. -/
inductive HwField where
  | cpuModel
  | cpuCores
  | memoryTotalMb
  | diskTotalGb
  | diskFreeGb
  | osVersion
  | serialNumber
  | macAddress
  | manufacturer
  | model
  deriving DecidableEq, Repr

namespace HwField

/-- The column's name, which is also the name of the JSON member. -/
def name : HwField → String
  | cpuModel => "cpu_model"
  | cpuCores => "cpu_cores"
  | memoryTotalMb => "memory_total_mb"
  | diskTotalGb => "disk_total_gb"
  | diskFreeGb => "disk_free_gb"
  | osVersion => "os_version"
  | serialNumber => "serial_number"
  | macAddress => "mac_address"
  | manufacturer => "manufacturer"
  | model => "model"

def all : List HwField :=
  [cpuModel, cpuCores, memoryTotalMb, diskTotalGb, diskFreeGb, osVersion, serialNumber, macAddress,
    manufacturer, model]

theorem mem_all (f : HwField) : f ∈ all := by cases f <;> decide

instance : Fintype HwField where
  elems := ⟨all, by decide⟩
  complete := mem_all

/-- The columns declared `Integer`; the others are `String`. -/
def isCounter : HwField → Bool
  | cpuCores => true
  | memoryTotalMb => true
  | diskTotalGb => true
  | diskFreeGb => true
  | _ => false

/-- What the declared type of the column admits, NULL included. -/
def admits (f : HwField) (v : Value) : Bool := if f.isCounter then v.isInteger else v.isText

end HwField

structure Device where
  id : String
  hostname : Option String
  hostnameLocked : Bool
  ip : Option String
  osInfo : Option String
  status : DeviceStatus
  groupName : Option String
  rearmCount : Int
  agentVersion : Option String
  /-- `cpu_model` … `model`, as SQLite stores them. -/
  hardware : HwField → Value
  sysinfoUpdatedAt : Option DateTime
  token : String
  lastHeartbeat : DateTime
  createdAt : DateTime
  deletedAt : Option DateTime
  deriving DecidableEq

/-- `Device(…)` with the column defaults, added at `now`. -/
def Device.new (id token : Uuid) (now : DateTime) : Device where
  id := id.val
  hostname := none
  hostnameLocked := false
  ip := none
  osInfo := none
  status := .offline
  groupName := none
  rearmCount := -1
  agentVersion := none
  hardware := fun _ => .null
  sysinfoUpdatedAt := none
  token := token.val
  lastHeartbeat := now
  createdAt := now
  deletedAt := none

/-! ## Tasks -/

structure Task where
  id : String
  taskType : TaskType
  status : TaskStatus
  createdAt : DateTime
  deriving DecidableEq, Repr

structure TaskResult where
  id : String
  taskId : String
  deviceId : String
  status : String
  output : Option String
  startedAt : Option DateTime
  finishedAt : Option DateTime
  deriving DecidableEq, Repr

/-! ## The database -/

abbrev Devices := Table Device Device.id
abbrev Tasks := Table Task Task.id
abbrev TaskResults := Table TaskResult TaskResult.id

@[ext] structure Database where
  devices : Devices
  tasks : Tasks
  results : TaskResults
  deriving DecidableEq

/-- The database of a new installation. -/
def Database.empty : Database := ⟨.empty, .empty, .empty⟩

/-- `select(TaskResult).where(TaskResult.task_id == task_id)`. -/
def Database.resultsOf (db : Database) (taskId : String) : List TaskResult :=
  db.results.rows.filter (fun r => r.taskId = taskId)

theorem Database.mem_resultsOf {db : Database} {taskId : String} {r : TaskResult} :
    r ∈ db.resultsOf taskId ↔ r ∈ db.results ∧ r.taskId = taskId := by
  simp [resultsOf, Table.mem_def]

/-- `UPDATE tasks SET status = …` for one task. -/
def setTaskStatus (db : Database) (taskId : String) (status : TaskStatus) : Database :=
  { db with tasks := db.tasks.updateKey taskId (fun t => { t with status := status }) }

theorem mem_setTaskStatus {db : Database} {taskId : String} {status : TaskStatus} {t : Task} :
    t ∈ (setTaskStatus db taskId status).tasks ↔
      ∃ t₀ ∈ db.tasks, (if t₀.id = taskId then { t₀ with status := status } else t₀) = t := by
  rw [setTaskStatus, Table.mem_updateKey]

@[simp] theorem setTaskStatus_devices (db : Database) (taskId : String) (status : TaskStatus) :
    (setTaskStatus db taskId status).devices = db.devices := rfl

/-! ## Configuration -/

/-- `config.py`: the two secrets as the environment sets them. -/
structure Config where
  secretKey : String
  enrollSecret : String

def exampleConfig : Config := ⟨"k", "s"⟩

/-- A refusal: `HTTPException(status_code, detail)`, or the 500 of an exception nobody handles. -/
structure HttpError where
  statusCode : Nat
  detail : String
  deriving DecidableEq, Repr

def internalServerError : HttpError := ⟨500, "Internal Server Error"⟩

end LanAgent
