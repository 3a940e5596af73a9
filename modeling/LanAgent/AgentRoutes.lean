import LanAgent.Models

/-!
# Heartbeats and recovery — `api/agent_routes.py`

`handleHeartbeat` is the registration state machine of the server: it looks a record up by device
id, else by address, and then refreshes it, hands it over to the sender or creates a new one.
`HeartbeatOutcome` says what one heartbeat can do, so that later proofs split on its cases and
never unfold the handler.
-/

namespace LanAgent

open Library Sqlite

/-! ## Requests -/

structure SysInfoPayload where
  cpuModel : Option String := none
  cpuCores : Option Int := none
  memoryTotalMb : Option Int := none
  diskTotalGb : Option Int := none
  diskFreeGb : Option Int := none
  osVersion : Option String := none
  serialNumber : Option String := none
  macAddress : Option String := none
  manufacturer : Option String := none
  model : Option String := none

def SysInfoPayload.column (info : SysInfoPayload) : HwField → Value
  | .cpuModel => .ofText info.cpuModel
  | .cpuCores => .ofInteger info.cpuCores
  | .memoryTotalMb => .ofInteger info.memoryTotalMb
  | .diskTotalGb => .ofInteger info.diskTotalGb
  | .diskFreeGb => .ofInteger info.diskFreeGb
  | .osVersion => .ofText info.osVersion
  | .serialNumber => .ofText info.serialNumber
  | .macAddress => .ofText info.macAddress
  | .manufacturer => .ofText info.manufacturer
  | .model => .ofText info.model

theorem SysInfoPayload.admits_column (info : SysInfoPayload) (f : HwField) :
    f.admits (info.column f) = true := by
  cases f <;> simp [HwField.admits, HwField.isCounter, column]

def fitsColumn : Value → Bool
  | .integer n => fitsInt64 n
  | _ => true

structure HeartbeatRequest where
  deviceId : Option String
  hostname : String
  os : String
  ip : String
  rearmCount : Int
  status : String
  agentVersion : String
  timestamp : Int
  sysinfo : Option SysInfoPayload := none

/-- The integers a commit of this request binds fit their columns; otherwise the driver raises
`OverflowError` and nothing is stored. -/
def HeartbeatRequest.binds (payload : HeartbeatRequest) : Bool :=
  fitsInt64 payload.rearmCount &&
    match payload.sysinfo with
    | none => true
    | some info => HwField.all.all (fun f => fitsColumn (info.column f))

structure RecoverRequest where
  deviceId : String
  hostname : String

structure Headers where
  authorization : Option String := none
  xEnrollSecret : Option String := none

/-- What a handler takes from outside the request: the clock and two fresh UUIDs. -/
structure Draw where
  now : DateTime
  id : Uuid
  token : Uuid

def issuedDraw : Draw where
  now := 0
  id := firstUuid
  token := secondUuid

def enrollSecret (config : Config) : String :=
  if config.enrollSecret ≠ "" then config.enrollSecret else "enroll-" ++ config.secretKey

def enrollSecretValid (config : Config) (request : Headers) : Bool :=
  request.xEnrollSecret.getD "" = enrollSecret config

def bearerToken (request : Headers) : String :=
  let authHeader := request.authorization.getD ""
  if Python.startsWith authHeader "Bearer " then Python.dropChars authHeader 7 else ""

/-! ## Writing a record -/

def applySysinfo (device : Device) (info : Option SysInfoPayload) (now : DateTime) : Device :=
  match info with
  | none => device
  | some info => { device with hardware := info.column, sysinfoUpdatedAt := some now }

def reportedStatus (status : String) : DeviceStatus :=
  if status = "online" then .online else .offline

def adoptDevice (device : Device) (payload : HeartbeatRequest) (agentToken : String)
    (now : DateTime) : Device :=
  applySysinfo
    { device with
      hostname := some payload.hostname
      osInfo := some payload.os
      -- the one write of the address to a record that is there
      ip := if payload.ip ≠ "" then some payload.ip else device.ip
      rearmCount := payload.rearmCount
      agentVersion := some payload.agentVersion
      lastHeartbeat := now
      token := agentToken
      deletedAt := none
      status := reportedStatus payload.status }
    payload.sysinfo now

/-- The normal heartbeat: the run-time information of the record is refreshed. -/
def refreshDevice (device : Device) (payload : HeartbeatRequest) (now : DateTime) : Device :=
  applySysinfo
    { device with
      hostname := if device.hostnameLocked then device.hostname else some payload.hostname
      osInfo := some payload.os
      rearmCount := payload.rearmCount
      agentVersion := some payload.agentVersion
      lastHeartbeat := now
      status := if payload.status = "online" then .online else device.status }
    payload.sysinfo now

/-- The record of a first registration. -/
def registerDevice (payload : HeartbeatRequest) (agentToken : String) (draw : Draw) : Device :=
  applySysinfo
    { Device.new draw.id draw.token draw.now with
      hostname := some payload.hostname
      ip := some payload.ip
      osInfo := some payload.os
      rearmCount := payload.rearmCount
      agentVersion := some payload.agentVersion
      -- `agent_token or str(uuid.uuid4())`
      token := if agentToken ≠ "" then agentToken else draw.token.val
      status := reportedStatus payload.status }
    payload.sysinfo draw.now

/-- The hardware columns of a record that had `before`, with what a heartbeat carries. -/
def reportedHardware (info : Option SysInfoPayload) (before : HwField → Value) : HwField → Value :=
  match info with
  | none => before
  | some info => info.column

section Fields

variable (device : Device) (payload : HeartbeatRequest) (agentToken : String) (now : DateTime)
  (draw : Draw) (info : Option SysInfoPayload)

@[simp] theorem applySysinfo_id : (applySysinfo device info now).id = device.id := by
  cases info <;> rfl

@[simp] theorem applySysinfo_ip : (applySysinfo device info now).ip = device.ip := by
  cases info <;> rfl

@[simp] theorem applySysinfo_token : (applySysinfo device info now).token = device.token := by
  cases info <;> rfl

@[simp] theorem applySysinfo_deletedAt :
    (applySysinfo device info now).deletedAt = device.deletedAt := by
  cases info <;> rfl

@[simp] theorem adoptDevice_id : (adoptDevice device payload agentToken now).id = device.id := by
  simp [adoptDevice]

@[simp] theorem adoptDevice_token :
    (adoptDevice device payload agentToken now).token = agentToken := by
  simp [adoptDevice]

@[simp] theorem refreshDevice_id : (refreshDevice device payload now).id = device.id := by
  simp [refreshDevice]

@[simp] theorem refreshDevice_ip : (refreshDevice device payload now).ip = device.ip := by
  simp [refreshDevice]

@[simp] theorem refreshDevice_token : (refreshDevice device payload now).token = device.token := by
  simp [refreshDevice]

@[simp] theorem registerDevice_id : (registerDevice payload agentToken draw).id = draw.id.val := by
  simp [registerDevice, Device.new]

@[simp] theorem registerDevice_ip :
    (registerDevice payload agentToken draw).ip = some payload.ip := by
  simp [registerDevice]

@[simp] theorem applySysinfo_lastHeartbeat :
    (applySysinfo device info now).lastHeartbeat = device.lastHeartbeat := by
  cases info <;> rfl

@[simp] theorem adoptDevice_lastHeartbeat :
    (adoptDevice device payload agentToken now).lastHeartbeat = now := by
  simp [adoptDevice]

@[simp] theorem refreshDevice_lastHeartbeat :
    (refreshDevice device payload now).lastHeartbeat = now := by
  simp [refreshDevice]

@[simp] theorem registerDevice_lastHeartbeat :
    (registerDevice payload agentToken draw).lastHeartbeat = draw.now := by
  simp [registerDevice, Device.new]

theorem registerDevice_token :
    (registerDevice payload agentToken draw).token =
      if agentToken ≠ "" then agentToken else draw.token.val := by
  simp [registerDevice]

@[simp] theorem applySysinfo_hardware :
    (applySysinfo device info now).hardware = reportedHardware info device.hardware := by
  cases info <;> rfl

@[simp] theorem refreshDevice_hardware : (refreshDevice device payload now).hardware =
    reportedHardware payload.sysinfo device.hardware := by
  simp [refreshDevice]

@[simp] theorem adoptDevice_hardware : (adoptDevice device payload agentToken now).hardware =
    reportedHardware payload.sysinfo device.hardware := by
  simp [adoptDevice]

@[simp] theorem registerDevice_hardware : (registerDevice payload agentToken draw).hardware =
    reportedHardware payload.sysinfo fun _ => .null := by
  simp [registerDevice, Device.new]

theorem applySysinfo_admits (h : ∀ f : HwField, f.admits (device.hardware f) = true) (f : HwField) :
    f.admits ((applySysinfo device info now).hardware f) = true := by
  cases info with
  | none => exact h f
  | some info => exact info.admits_column f

end Fields

/-! ## Looking a record up -/

/-- The first of `order_by(Device.last_heartbeat.desc())`. -/
def latest : List Device → Option Device
  | [] => none
  | d :: devices =>
      match latest devices with
      | none => some d
      -- on a tie the earlier row stays in front
      | some d' => if d.lastHeartbeat < d'.lastHeartbeat then some d' else some d

theorem latest_mem {devices : List Device} {d : Device} (h : latest devices = some d) :
    d ∈ devices := by
  induction devices with
  | nil => cases h
  | cons d₀ devices ih =>
      rw [latest] at h
      split at h
      · cases h
        exact List.mem_cons_self
      · rename_i d' hrest
        split at h
        · cases h
          exact List.mem_cons_of_mem _ (ih hrest)
        · cases h
          exact List.mem_cons_self

theorem latest_eq_none {devices : List Device} (h : latest devices = none) : devices = [] := by
  cases devices with
  | nil => rfl
  | cons d devices =>
      rw [latest] at h
      split at h
      · cases h
      · split at h <;> cases h

/-- `select(Device).where(Device.ip == ip).order_by(Device.last_heartbeat.desc())`, the first. -/
def latestByIp (devices : Devices) (ip : String) : Option Device :=
  latest (devices.rows.filter (fun d => d.ip = some ip))

theorem latestByIp_eq_some {devices : Devices} {ip : String} {d : Device}
    (h : latestByIp devices ip = some d) : d ∈ devices ∧ d.ip = some ip := by
  have hmem := latest_mem h
  simpa [Table.mem_def] using hmem

theorem latestByIp_eq_none {devices : Devices} {ip : String} (h : latestByIp devices ip = none) :
    ∀ d ∈ devices, d.ip ≠ some ip := by
  intro d hd hip
  have hmem : d ∈ devices.rows.filter (fun d => d.ip = some ip) := by
    simpa [Table.mem_def] using ⟨hd, hip⟩
  rw [latest_eq_none h] at hmem
  cases hmem

def deviceById (devices : Devices) (deviceId : Option String) : Option Device :=
  match deviceId with
  | none => none
  -- `if payload.device_id:`
  | some id => if id ≠ "" then devices.find? id else none

/-- The record a heartbeat is about: by device id, else by address. -/
def matchDevice (devices : Devices) (payload : HeartbeatRequest) : Option Device :=
  match deviceById devices payload.deviceId with
  | some device => some device
  | none => if payload.ip ≠ "" then latestByIp devices payload.ip else none

theorem deviceById_eq_some {devices : Devices} {deviceId : Option String} {d : Device}
    (h : deviceById devices deviceId = some d) : d ∈ devices ∧ deviceId = some d.id := by
  cases deviceId with
  | none => cases h
  | some id =>
      rw [deviceById] at h
      split at h
      · exact ⟨Table.mem_of_find? h, by rw [Table.key_of_find? h]⟩
      · cases h

theorem matchDevice_mem {devices : Devices} {payload : HeartbeatRequest} {d : Device}
    (h : matchDevice devices payload = some d) : d ∈ devices := by
  unfold matchDevice at h
  split at h
  · rename_i device hid
    rw [Option.some.injEq] at h
    exact h ▸ (deviceById_eq_some hid).1
  · split at h
    · exact (latestByIp_eq_some h).1
    · cases h

theorem matchDevice_eq_none {devices : Devices} {payload : HeartbeatRequest}
    (h : matchDevice devices payload = none) (hip : payload.ip ≠ "") :
    ∀ d ∈ devices, d.ip ≠ some payload.ip := by
  unfold matchDevice at h
  split at h
  · cases h
  · rw [if_pos hip] at h
    exact latestByIp_eq_none h

/-! ## The handlers -/

inductive HeartbeatStatus where
  | updated
  | reEnrolled
  | deleted
  | created
  deriving DecidableEq, Repr

structure HeartbeatAnswer where
  deviceId : String
  status : HeartbeatStatus
  deriving DecidableEq, Repr

/-- Commit the record `change` turns `device` into, and answer. -/
def commitHeartbeat (devices : Devices) (payload : HeartbeatRequest) (device : Device)
    (change : Device → Device) (hid : ∀ d, (change d).id = d.id) (status : HeartbeatStatus) :
    Devices × Except HttpError HeartbeatAnswer :=
  if payload.binds then (devices.updateKey device.id change hid, .ok ⟨device.id, status⟩)
  else (devices, .error internalServerError)

/-- `_handle_heartbeat` behind its queries, which have found `device`. -/
def settleHeartbeat (config : Config) (devices : Devices) (device : Option Device)
    (payload : HeartbeatRequest) (request : Headers) (agentToken : String) (draw : Draw) :
    Devices × Except HttpError HeartbeatAnswer :=
  match device with
  | some device =>
      -- `pass`: the token is valid, or there is none to compare with
      if device.token = "" ∨ agentToken = device.token then
        commitHeartbeat devices payload device (fun d => refreshDevice d payload draw.now)
          (fun d => refreshDevice_id d payload draw.now) .updated
      else if device.deletedAt.isSome ∨ enrollSecretValid config request then
        commitHeartbeat devices payload device (fun d => adoptDevice d payload agentToken draw.now)
          (fun d => adoptDevice_id d payload agentToken draw.now) .reEnrolled
      -- never reached: the branch above takes every soft-deleted record
      else if device.deletedAt.isSome then (devices, .ok ⟨device.id, .deleted⟩)
      else (devices, .error ⟨401, "Invalid agent token"⟩)
  | none =>
      if enrollSecretValid config request then
        if payload.binds then
          match devices.insert? (registerDevice payload agentToken draw) with
          | some devices' => (devices', .ok ⟨draw.id.val, .created⟩)
          -- `IntegrityError` of the insertion
          | none => (devices, .error internalServerError)
        else (devices, .error internalServerError)
      else (devices, .error ⟨401, "Enrollment secret required"⟩)

def handleHeartbeat (config : Config) (devices : Devices) (payload : HeartbeatRequest)
    (request : Headers) (agentToken : String) (draw : Draw) :
    Devices × Except HttpError HeartbeatAnswer :=
  settleHeartbeat config devices (matchDevice devices payload) payload request agentToken draw

/-- `agent_heartbeat`, the critical section under the registration lock. -/
def agentHeartbeat (config : Config) (devices : Devices) (payload : HeartbeatRequest)
    (request : Headers) (draw : Draw) : Devices × Except HttpError HeartbeatAnswer :=
  handleHeartbeat config devices payload request (bearerToken request) draw

def recoverDevice (device : Device) (payload : RecoverRequest) (now : DateTime) : Device :=
  { device with
    hostname := if device.hostnameLocked then device.hostname else some payload.hostname
    status := .online
    lastHeartbeat := now }

@[simp] theorem recoverDevice_id (device : Device) (payload : RecoverRequest) (now : DateTime) :
    (recoverDevice device payload now).id = device.id := rfl

/-- `agent_recover`; the answer is the device id. -/
def agentRecover (devices : Devices) (payload : RecoverRequest) (request : Headers)
    (now : DateTime) : Devices × Except HttpError String :=
  match devices.find? payload.deviceId with
  | none => (devices, .error ⟨404, "Device not found"⟩)
  | some device =>
      if device.token ≠ "" ∧ bearerToken request ≠ device.token then
        (devices, .error ⟨401, "Invalid agent token"⟩)
      else
        (devices.updateKey payload.deviceId (fun d => recoverDevice d payload now),
          .ok payload.deviceId)

/-! ## What a heartbeat can do -/

/-- The outcomes of one heartbeat, with the guard of each. -/
inductive HeartbeatOutcome (config : Config) (devices : Devices) (payload : HeartbeatRequest)
    (request : Headers) (agentToken : String) (draw : Draw) :
    Devices × Except HttpError HeartbeatAnswer → Prop
  | updated (device : Device) (hmatch : matchDevice devices payload = some device)
      (htoken : device.token = "" ∨ agentToken = device.token) (hbinds : payload.binds = true) :
      HeartbeatOutcome config devices payload request agentToken draw
        (devices.updateKey device.id (fun d => refreshDevice d payload draw.now)
          (fun d => refreshDevice_id d payload draw.now), .ok ⟨device.id, .updated⟩)
  | reEnrolled (device : Device) (hmatch : matchDevice devices payload = some device)
      (htoken : ¬(device.token = "" ∨ agentToken = device.token))
      (hallowed : device.deletedAt.isSome ∨ enrollSecretValid config request)
      (hbinds : payload.binds = true) :
      HeartbeatOutcome config devices payload request agentToken draw
        (devices.updateKey device.id (fun d => adoptDevice d payload agentToken draw.now)
          (fun d => adoptDevice_id d payload agentToken draw.now), .ok ⟨device.id, .reEnrolled⟩)
  | created (devices' : Devices) (hmatch : matchDevice devices payload = none)
      (hsecret : enrollSecretValid config request = true) (hbinds : payload.binds = true)
      (hinsert : devices.insert? (registerDevice payload agentToken draw) = some devices') :
      HeartbeatOutcome config devices payload request agentToken draw
        (devices', .ok ⟨draw.id.val, .created⟩)
  | wrongToken (device : Device) (hmatch : matchDevice devices payload = some device)
      (htoken : ¬(device.token = "" ∨ agentToken = device.token))
      (hrefused : ¬(device.deletedAt.isSome ∨ enrollSecretValid config request)) :
      HeartbeatOutcome config devices payload request agentToken draw
        (devices, .error ⟨401, "Invalid agent token"⟩)
  | wrongSecret (hmatch : matchDevice devices payload = none)
      (hsecret : enrollSecretValid config request = false) :
      HeartbeatOutcome config devices payload request agentToken draw
        (devices, .error ⟨401, "Enrollment secret required"⟩)
  | notBound (hbinds : payload.binds = false) :
      HeartbeatOutcome config devices payload request agentToken draw
        (devices, .error internalServerError)
  | idTaken (hmatch : matchDevice devices payload = none)
      (hsecret : enrollSecretValid config request = true) (hbinds : payload.binds = true)
      (hinsert : devices.insert? (registerDevice payload agentToken draw) = none) :
      HeartbeatOutcome config devices payload request agentToken draw
        (devices, .error internalServerError)

/-- **One heartbeat.**  The handler has one of the outcomes above; the answer `deleted` is not among
them, since the branch before it accepts every soft-deleted record. -/
theorem handleHeartbeat_outcome (config : Config) (devices : Devices) (payload : HeartbeatRequest)
    (request : Headers) (agentToken : String) (draw : Draw) :
    HeartbeatOutcome config devices payload request agentToken draw
      (handleHeartbeat config devices payload request agentToken draw) := by
  unfold handleHeartbeat settleHeartbeat commitHeartbeat
  cases hmatch : matchDevice devices payload with
  | some device =>
      dsimp only
      by_cases htoken : device.token = "" ∨ agentToken = device.token
      · rw [if_pos htoken]
        by_cases hbinds : payload.binds = true
        · rw [if_pos hbinds]
          exact .updated device hmatch htoken hbinds
        · rw [if_neg hbinds]
          exact .notBound (by simpa using hbinds)
      · rw [if_neg htoken]
        by_cases hallowed : device.deletedAt.isSome ∨ enrollSecretValid config request
        · rw [if_pos hallowed]
          by_cases hbinds : payload.binds = true
          · rw [if_pos hbinds]
            exact .reEnrolled device hmatch htoken hallowed hbinds
          · rw [if_neg hbinds]
            exact .notBound (by simpa using hbinds)
        -- the branch `deleted` needs a deleted record, which `hallowed` would have let in
        · rw [if_neg hallowed, if_neg (fun h => hallowed (.inl h))]
          exact .wrongToken device hmatch htoken hallowed
  | none =>
      dsimp only
      by_cases hsecret : enrollSecretValid config request = true
      · rw [if_pos hsecret]
        by_cases hbinds : payload.binds = true
        · rw [if_pos hbinds]
          cases hinsert : devices.insert? (registerDevice payload agentToken draw) with
          | some devices' => exact .created devices' hmatch hsecret hbinds hinsert
          | none => exact .idTaken hmatch hsecret hbinds hinsert
        · rw [if_neg hbinds]
          exact .notBound (by simpa using hbinds)
      · rw [if_neg hsecret]
        exact .wrongSecret hmatch (by simpa using hsecret)

theorem agentHeartbeat_of_accepted {config : Config} {devices : Devices}
    {payload : HeartbeatRequest} {request : Headers} {draw : Draw} {device : Device}
    (hmatch : matchDevice devices payload = some device)
    (htoken : device.token = "" ∨ bearerToken request = device.token)
    (hbinds : payload.binds = true) :
    agentHeartbeat config devices payload request draw =
      (devices.updateKey device.id (fun d => refreshDevice d payload draw.now)
        (fun d => refreshDevice_id d payload draw.now), .ok ⟨device.id, .updated⟩) := by
  rw [agentHeartbeat, handleHeartbeat, hmatch, settleHeartbeat]
  rw [if_pos htoken, commitHeartbeat, if_pos hbinds]

theorem agentRecover_of_accepted {devices : Devices} {payload : RecoverRequest}
    {request : Headers} {now : DateTime} {device : Device}
    (hfind : devices.find? payload.deviceId = some device)
    (htoken : device.token = "" ∨ bearerToken request = device.token) :
    agentRecover devices payload request now =
      (devices.updateKey payload.deviceId (fun d => recoverDevice d payload now),
        .ok payload.deviceId) := by
  rw [agentRecover, hfind]
  dsimp only
  rw [if_neg (fun h => htoken.elim h.1 h.2)]

/-- A heartbeat hands `device` over to its sender: the record has another token, and either the
secret is valid or the record is deleted. -/
def ReEnrols (config : Config) (devices : Devices) (payload : HeartbeatRequest)
    (request : Headers) (device : Device) : Prop :=
  matchDevice devices payload = some device ∧
    ¬(device.token = "" ∨ bearerToken request = device.token) ∧
    (device.deletedAt.isSome ∨ enrollSecretValid config request) ∧ payload.binds = true

instance (config : Config) (devices : Devices) (payload : HeartbeatRequest) (request : Headers)
    (device : Device) : Decidable (ReEnrols config devices payload request device) :=
  inferInstanceAs (Decidable (_ ∧ _ ∧ _ ∧ _))

theorem agentHeartbeat_of_reEnrols {config : Config} {devices : Devices}
    {payload : HeartbeatRequest} {request : Headers} {draw : Draw} {device : Device}
    (h : ReEnrols config devices payload request device) :
    agentHeartbeat config devices payload request draw =
      (devices.updateKey device.id (fun d => adoptDevice d payload (bearerToken request) draw.now)
        (fun d => adoptDevice_id d payload (bearerToken request) draw.now),
        .ok ⟨device.id, .reEnrolled⟩) := by
  obtain ⟨hmatch, htoken, hallowed, hbinds⟩ := h
  rw [agentHeartbeat, handleHeartbeat, hmatch, settleHeartbeat]
  rw [if_neg htoken, if_pos hallowed, commitHeartbeat, if_pos hbinds]

theorem adoptDevice_mem {config : Config} {devices : Devices} {payload : HeartbeatRequest}
    {request : Headers} {draw : Draw} {device : Device}
    (h : ReEnrols config devices payload request device) :
    adoptDevice device payload (bearerToken request) draw.now ∈
      (agentHeartbeat config devices payload request draw).1 := by
  rw [agentHeartbeat_of_reEnrols h]
  dsimp only
  exact Table.mem_updateKey_self (matchDevice_mem h.1)

theorem handleHeartbeat_error {config : Config} {devices devices' : Devices}
    {payload : HeartbeatRequest} {request : Headers} {agentToken : String} {draw : Draw}
    {e : HttpError}
    (h : handleHeartbeat config devices payload request agentToken draw = (devices', .error e)) :
    devices' = devices := by
  have hcase := handleHeartbeat_outcome config devices payload request agentToken draw
  rw [h] at hcase
  cases hcase <;> rfl

end LanAgent
