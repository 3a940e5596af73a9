import LanAgent.AgentRoutes

/-!
# The three ways to accept a heartbeat — `api/agent_routes.py`

A heartbeat is accepted by creating a record, by handing one over (`_adopt_device`) or by refreshing
one, and each of the three writes its own set of columns.  `Reported` is what the record should say
afterwards; creating and handing over always leave it so, and `reported_iff` says when refreshing
does.
-/

namespace LanAgent.HeartbeatPaths

open Library

/-- The record says what the heartbeat has reported. -/
structure Reported (payload : HeartbeatRequest) (now : DateTime) (record : Device) : Prop where
  ip : record.ip = some payload.ip
  osInfo : record.osInfo = some payload.os
  rearmCount : record.rearmCount = payload.rearmCount
  agentVersion : record.agentVersion = some payload.agentVersion
  lastHeartbeat : record.lastHeartbeat = now
  status : record.status = reportedStatus payload.status

/-- The record the answer names says what the heartbeat has reported. -/
def RecordReported (payload : HeartbeatRequest) (now : DateTime) (devices : Devices)
    (answer : HeartbeatAnswer) : Prop :=
  ∃ record, devices.find? answer.deviceId = some record ∧ Reported payload now record

/-! ## The three blocks -/

section Blocks

variable {device : Device} {payload : HeartbeatRequest} {agentToken : String} {now : DateTime}
  {draw : Draw} {info : Option SysInfoPayload}

/-- The hardware information is none of the columns reported here. -/
theorem reported_applySysinfo :
    Reported payload now (applySysinfo device info now) ↔ Reported payload now device := by
  cases info with
  | none => exact Iff.rfl
  | some info =>
      apply Iff.intro
      · intro h
        exact ⟨h.ip, h.osInfo, h.rearmCount, h.agentVersion, h.lastHeartbeat, h.status⟩
      · intro h
        exact ⟨h.ip, h.osInfo, h.rearmCount, h.agentVersion, h.lastHeartbeat, h.status⟩

theorem registerDevice_reported :
    Reported payload draw.now (registerDevice payload agentToken draw) :=
  reported_applySysinfo.mpr ⟨rfl, rfl, rfl, rfl, rfl, rfl⟩

theorem adoptDevice_reported (hip : payload.ip ≠ "") :
    Reported payload now (adoptDevice device payload agentToken now) :=
  reported_applySysinfo.mpr ⟨if_pos hip, rfl, rfl, rfl, rfl, rfl⟩

/-- What a refresh does not write has to be right already. -/
theorem refreshDevice_reported_iff :
    Reported payload now (refreshDevice device payload now) ↔
      device.ip = some payload.ip ∧ (payload.status = "online" ∨ device.status = .offline) := by
  rw [refreshDevice, reported_applySysinfo]
  have hstatus : (if payload.status = "online" then DeviceStatus.online else device.status) =
      reportedStatus payload.status ↔ payload.status = "online" ∨ device.status = .offline := by
    unfold reportedStatus
    by_cases honline : payload.status = "online"
    · rw [if_pos honline, if_pos honline]
      exact iff_of_true rfl (.inl honline)
    · rw [if_neg honline, if_neg honline]
      exact (or_iff_right honline).symm
  apply Iff.intro
  · intro h
    exact ⟨h.ip, hstatus.mp h.status⟩
  · intro h
    exact ⟨h.1, rfl, rfl, rfl, rfl, hstatus.mpr h.2⟩

end Blocks

/-! ## The handler -/

/-- The heartbeat finds a record whose token it may use, so the record is refreshed. -/
def Refreshes (devices : Devices) (payload : HeartbeatRequest) (request : Headers)
    (device : Device) : Prop :=
  matchDevice devices payload = some device ∧
    (device.token = "" ∨ bearerToken request = device.token)

/-- **The accepted heartbeat.**  The record says what was reported exactly when a record that is
only refreshed had the reported address already and is not to go offline from another status. -/
theorem reported_iff {config : Config} {devices : Devices} {payload : HeartbeatRequest}
    {request : Headers} {draw : Draw} {answer : HeartbeatAnswer} (hip : payload.ip ≠ "")
    (haccepted : (agentHeartbeat config devices payload request draw).2 = .ok answer) :
    RecordReported payload draw.now (agentHeartbeat config devices payload request draw).1
        answer ↔
      ∀ device, Refreshes devices payload request device →
        device.ip = some payload.ip ∧ (payload.status = "online" ∨ device.status = .offline) := by
  have hcase := handleHeartbeat_outcome config devices payload request (bearerToken request) draw
  rw [agentHeartbeat] at haccepted ⊢
  generalize handleHeartbeat config devices payload request (bearerToken request) draw = after
    at hcase haccepted ⊢
  cases hcase with
  | updated device hmatch htoken hbinds =>
      cases haccepted
      have hfind : devices.find? device.id = some device := Table.find?_key (matchDevice_mem hmatch)
      have hrefreshes : ∀ d, Refreshes devices payload request d ↔ device = d := by
        intro d
        unfold Refreshes
        rw [hmatch, Option.some.injEq]
        exact ⟨fun h => h.1, fun h => ⟨h, h ▸ htoken⟩⟩
      simp only [RecordReported, Table.find?_updateKey_self, hfind, Option.map_some,
        Option.some.injEq, exists_eq_left', refreshDevice_reported_iff, hrefreshes, forall_eq']
  | reEnrolled device hmatch htoken hallowed hbinds =>
      cases haccepted
      have hfind : devices.find? device.id = some device := Table.find?_key (matchDevice_mem hmatch)
      refine iff_of_true ⟨adoptDevice device payload (bearerToken request) draw.now, ?_,
        adoptDevice_reported hip⟩ fun d hd => ?_
      · simp only [Table.find?_updateKey_self, hfind, Option.map_some]
      · -- the token of the record is not the sender's, so nothing is refreshed
        have hsame : device = d := Option.some.inj (hmatch.symm.trans hd.1)
        exact absurd (hsame ▸ hd.2) htoken
  | created devices' hmatch hsecret hbinds hinsert =>
      cases haccepted
      refine iff_of_true ⟨registerDevice payload (bearerToken request) draw, ?_,
        registerDevice_reported⟩ fun d hd => ?_
      · exact Table.find?_eq_some_iff.mpr
          ⟨(Table.mem_insert? hinsert).mpr (.inr rfl), registerDevice_id _ _ _⟩
      · rw [Refreshes, hmatch] at hd
        cases hd.1
  | wrongToken => cases haccepted
  | wrongSecret => cases haccepted
  | notBound => cases haccepted
  | idTaken => cases haccepted

/-! ## A record that moves and goes offline -/

/-- The record of an agent at `10.0.0.5`, which was online. -/
def known : Device :=
  { Device.new firstUuid secondUuid 0 with ip := some "10.0.0.5", status := .online }

def knownDevices : Devices := ⟨[known], by decide +kernel⟩

/-- The agent shuts down, after it was given another address. -/
def goingOffline : HeartbeatRequest where
  deviceId := some known.id
  hostname := "pc"
  os := "Windows"
  ip := "10.0.0.9"
  rearmCount := 3
  status := "offline"
  agentVersion := "1.4.5"
  timestamp := 0

def knownHeaders : Headers := { authorization := some ("Bearer " ++ known.token) }

theorem reported_iff_registration :
    RecordReported goingOffline 0
      (agentHeartbeat exampleConfig .empty goingOffline { xEnrollSecret := some "s" }
        issuedDraw).1 ⟨issuedDraw.id.val, .created⟩ :=
  (reported_iff (by decide) (by decide)).mpr
    (by
      intro device hdevice
      exact absurd (matchDevice_mem hdevice.1) (Library.Table.not_mem_empty device))

/-- The answer is `updated`, and the record keeps the old address and stays online. -/
theorem address_and_status_stale :
    goingOffline.ip ≠ "" ∧
      (agentHeartbeat exampleConfig knownDevices goingOffline knownHeaders issuedDraw).2 =
        .ok ⟨known.id, .updated⟩ ∧
      ¬RecordReported goingOffline issuedDraw.now
        (agentHeartbeat exampleConfig knownDevices goingOffline knownHeaders issuedDraw).1
        ⟨known.id, .updated⟩ := by
  refine ⟨by decide, by decide, fun h => ?_⟩
  rcases h with ⟨record, hrecord, hreported⟩
  have hstored : (agentHeartbeat exampleConfig knownDevices goingOffline knownHeaders
      issuedDraw).1.find? known.id = some (refreshDevice known goingOffline 0) := by
    decide
  rw [hstored] at hrecord
  cases hrecord
  exact absurd hreported.status (by decide)

end LanAgent.HeartbeatPaths
