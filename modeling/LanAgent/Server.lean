import LanAgent.ImportRoutes
import LanAgent.TaskRoutes
import LanAgent.WsRoutes

/-!
# The server — one request or frame after the other

`handle` is what a request does to the database when nothing else runs meanwhile; a run of the
server is a list of requests.  The lemmas say for each table which requests can write it, so that
an invariant of the tokens, the hardware columns or the tasks has few cases.
-/

namespace LanAgent

open Library

structure Settings where
  config : Config
  runtime : Runtime

def exampleSettings : Settings where
  config := exampleConfig
  runtime := ⟨1000, .plain⟩

inductive Request where
  | createDevice (payload : DeviceCreate) (draw : Draw)
  | generateDeviceToken (payload : GenerateTokenRequest) (draw : Draw)
  | importCsv (filename : String) (rows : List CsvRow) (groupName : String) (draws : Draws)
  | importIpRange (payload : IpRangeRequest) (draws : Draws)
  | updateDevice (deviceId : String) (payload : DeviceUpdate)
  | deleteDevice (deviceId : String) (agentOnline sendOk : Bool) (now : DateTime)
  | batchDeleteDevices (deviceIds : List String) (agentOnline sendOk : String → Bool)
      (now : DateTime)
  | heartbeat (payload : HeartbeatRequest) (headers : Headers) (draw : Draw)
  | recover (payload : RecoverRequest) (headers : Headers) (now : DateTime)
  | createTask (payload : TaskCreate) (draw : TaskDraw)
  | cancelTask (taskId : String) (now : DateTime)
  | getTask (taskId : String) (now : DateTime)
  | frame (deviceId data : String) (now : DateTime) (broadcastOk : Bool)

def adminDevices (devices : Devices) : Request → Devices
  | .createDevice payload draw => (createDevice devices payload draw).1
  | .generateDeviceToken payload draw => (generateDeviceToken devices payload draw).1
  | .importCsv filename rows groupName draws => (importCsv devices filename rows groupName draws).1
  | .importIpRange payload draws => (importIpRange devices payload draws).1
  | .updateDevice deviceId payload => (updateDevice devices deviceId payload).1
  | .deleteDevice deviceId agentOnline sendOk now =>
      (deleteDevice devices deviceId agentOnline sendOk now).1
  | .batchDeleteDevices deviceIds agentOnline sendOk now =>
      (batchDeleteDevices devices deviceIds agentOnline sendOk now).1
  -- the requests of agents and those about tasks
  | _ => devices

def handle (settings : Settings) (db : Database) : Request → Database
  | .heartbeat payload headers draw =>
      { db with devices := (agentHeartbeat settings.config db.devices payload headers draw).1 }
  | .recover payload headers now =>
      { db with devices := (agentRecover db.devices payload headers now).1 }
  | .createTask payload draw => (createTask db payload draw).1
  | .cancelTask taskId now => (cancelTask db taskId now).1
  | .getTask taskId now => (getTask db taskId now).1
  | .frame deviceId data now broadcastOk =>
      (handleFrame settings.runtime db deviceId data now broadcastOk).1
  | request => { db with devices := adminDevices db.devices request }

def serve (settings : Settings) (db : Database) (request : Request) : Option Database :=
  some (handle settings db request)

/-- A device is created and a command sent to it. -/
def oneSent : List Request :=
  [.createDevice {} issuedDraw, .createTask ⟨"shutdown", [issuedDraw.id.val]⟩ sentDraw]

/-- The agent reports success on that command. -/
def answer : String :=
  "\x7b\"command_id\": \"44444444-4444-4444-8444-444444444444\", \"status\": \"success\"\x7d"

theorem adminWrite_adminDevices (devices : Devices) (request : Request) :
    AdminWrite devices (adminDevices devices request) := by
  cases request with
  | createDevice payload draw => exact (insertions_createDevice devices payload draw).adminWrite
  | generateDeviceToken payload draw =>
      exact (insertions_generateDeviceToken devices payload draw).adminWrite
  | importCsv filename rows groupName draws =>
      exact (insertions_importCsv devices filename rows groupName draws).adminWrite
  | importIpRange payload draws => exact (insertions_importIpRange devices payload draws).adminWrite
  | updateDevice deviceId payload => exact adminWrite_updateDevice devices deviceId payload
  | deleteDevice deviceId agentOnline sendOk now =>
      exact adminWrite_deleteDevice devices deviceId agentOnline sendOk now
  | batchDeleteDevices deviceIds agentOnline sendOk now =>
      exact adminWrite_batchDeleteDevices devices deviceIds agentOnline sendOk now
  | _ => exact .refl devices

/-! ## Requests that leave the device table alone -/

section Devices

variable (db : Database)

@[simp] theorem commitOutcomes_devices (outcomes : List Dispatched) :
    (commitOutcomes db outcomes).devices = db.devices := rfl

@[simp] theorem commitSentCount_devices (taskId : String) (outcomes : List Dispatched) :
    (commitSentCount db taskId outcomes).devices = db.devices := by
  unfold commitSentCount
  split <;> rfl

@[simp] theorem createTask_devices (payload : TaskCreate) (draw : TaskDraw) :
    (createTask db payload draw).1.devices = db.devices := by
  unfold createTask
  split
  · rfl
  · dsimp only
    by_cases hlimit : Sqlite.TooManyVariables draw.maxVariables payload.deviceIds
    · rw [if_pos hlimit]
    rw [if_neg hlimit]
    split
    · rfl
    · rename_i hpending
      rw [commitSentCount_devices, commitOutcomes_devices, setTaskStatus_devices]
      exact (commitPending_eq_some hpending).1

@[simp] theorem cancelTask_devices (taskId : String) (now : DateTime) :
    (cancelTask db taskId now).1.devices = db.devices := by
  unfold cancelTask
  split
  · rfl
  · split <;> rfl

@[simp] theorem timeoutFallback_devices (task : Task) (now : DateTime) :
    (timeoutFallback db task now).devices = db.devices := by
  unfold timeoutFallback
  split <;> rfl

@[simp] theorem getTask_devices (taskId : String) (now : DateTime) :
    (getTask db taskId now).1.devices = db.devices := by
  unfold getTask
  split
  · rfl
  · exact timeoutFallback_devices db _ now

end Devices

end LanAgent
