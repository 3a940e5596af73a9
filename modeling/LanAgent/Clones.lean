import LanAgent.Enrolment
import LanAgent.HardwareInfo
import LanAgent.HeartbeatPaths
import LanAgent.Records

/-!
# Clones — machines set up from one image

`sysprep` prepares a machine for being copied, and what is copied includes the agent's
configuration: every copy has the device id, the token and the secret of the machine the image was
taken of.  `clones_share` says that the server never tells them apart: over every run they have one
record between them.  Every heartbeat that is answered refreshes it, but not all of it: the record
then mixes what the last machine brought with the address, and a locked host name, of another.
-/

namespace LanAgent.Clones

open Library Library.Runs HardwareInfo

/-! ## The system -/

structure State (Agent : Type) where
  db : Database
  cfg : Agent → AgentConfig

/-- Every agent has the configuration of the image. -/
def start (Agent : Type) (image : AgentConfig) (db : Database) : State Agent := ⟨db, fun _ => image⟩

inductive Event (Agent : Type) where
  | heartbeat (agent : Agent) (machine : Machine) (status : String) (info : Option SysInfo)
      (draw : Draw) (delivery : Delivery)
  /-- `checkAndRecover`, when its request reaches the server. -/
  | recover (agent : Agent) (hostname : String) (now : DateTime)
  /-- Anything else, from the administrator or from other agents. -/
  | request (request : Request)

/-- The request of `sendHeartbeat`. -/
def heartbeatRequest (cfg : AgentConfig) (machine : Machine) (status : String)
    (info : Option SysInfo) (draw : Draw) : Request :=
  .heartbeat (heartbeatPayload cfg machine status info) (heartbeatHeaders cfg) draw

/-- The request of `checkAndRecover`. -/
def recoverRequest (cfg : AgentConfig) (hostname : String) (now : DateTime) : Request :=
  .recover ⟨cfg.deviceId, hostname⟩ { authorization := some ("Bearer " ++ cfg.token) } now

section System

variable {Agent : Type} [DecidableEq Agent] (settings : Settings)

/-- What the server answers to a heartbeat. -/
def answerOf (devices : Devices) (cfg : AgentConfig) (machine : Machine) (status : String)
    (info : Option SysInfo) (draw : Draw) : Except HttpError HeartbeatAnswer :=
  (agentHeartbeat settings.config devices (heartbeatPayload cfg machine status info)
    (heartbeatHeaders cfg) draw).2

/-- The configuration after the heartbeat. -/
def savedConfig (cfg : AgentConfig) (delivery : Delivery)
    (answer : Except HttpError HeartbeatAnswer) : AgentConfig :=
  match delivery, answer with
  | .answered, .ok answer => saveDeviceId cfg answer.deviceId
  | _, _ => cfg

def step (s : State Agent) : Event Agent → Option (State Agent)
  | .heartbeat agent machine status info draw delivery =>
      let cfg := s.cfg agent
      let answer := answerOf settings s.db.devices cfg machine status info draw
      some
        { db := if delivery = .lost then s.db
            else handle settings s.db (heartbeatRequest cfg machine status info draw)
          cfg := Function.update s.cfg agent (savedConfig cfg delivery answer) }
  | .recover agent hostname now =>
      some { s with db := handle settings s.db (recoverRequest (s.cfg agent) hostname now) }
  | .request request => some { s with db := handle settings s.db request }

/-! ## What is shared -/

/-- No record but the one with the id is touched, and none is added. -/
structure OnlyRecord (id : String) (devices devices' : Devices) : Prop where
  ids : devices'.rows.map Device.id = devices.rows.map Device.id
  others : ∀ d ∈ devices, d.id ≠ id → d ∈ devices'

/-- What a heartbeat that is answered with `answered` makes of the record `before`.  A normal one
keeps the address and a locked host name, one that takes the record over writes both. -/
structure Refreshed (image : AgentConfig) (machine : Machine) (status : String)
    (info : Option SysInfo) (now : DateTime) (answered : HeartbeatStatus) (before d : Device) :
    Prop where
  outcome : answered = .updated ∧ (before.token = "" ∨ image.token = before.token) ∨
    answered = .reEnrolled ∧ ¬(before.token = "" ∨ image.token = before.token)
  osInfo : d.osInfo = some machine.os
  rearmCount : d.rearmCount = machine.rearmCount.val
  agentVersion : d.agentVersion = some machine.agentVersion
  lastHeartbeat : d.lastHeartbeat = now
  hardware : d.hardware = reportedHardware (info.map SysInfo.payload) before.hardware
  status : d.status = if status = "online" then .online
    else if answered = .updated then before.status else .offline
  hostname : d.hostname = if answered = .updated ∧ before.hostnameLocked then before.hostname
    else some machine.hostname
  ip : d.ip = if answered = .updated ∨ machine.ip = "" then before.ip else some machine.ip
  token : d.token = if answered = .updated then before.token else image.token
  deletedAt : d.deletedAt = if answered = .updated then before.deletedAt else none

/-- There is one record for all of them. -/
structure Inv (image : AgentConfig) (s : State Agent) : Prop where
  cfg : ∀ agent, s.cfg agent = image
  record : ∃ d ∈ s.db.devices, d.id = image.deviceId

/-- What a request of one of the agents does to the table. -/
def Touches (image : AgentConfig) (s : State Agent) (e : Event Agent) (s' : State Agent) : Prop :=
  match e with
  | .heartbeat _ machine status info draw delivery =>
      OnlyRecord image.deviceId s.db.devices s'.db.devices ∧
        (delivery ≠ .lost → ∀ answer,
          answerOf settings s.db.devices image machine status info draw = .ok answer →
            ∃ before ∈ s.db.devices, ∃ d ∈ s'.db.devices,
              before.id = image.deviceId ∧ d.id = image.deviceId ∧
                Refreshed image machine status info draw.now answer.status before d)
  | .recover _ _ _ => OnlyRecord image.deviceId s.db.devices s'.db.devices
  | .request _ => True

end System

/-! ## One request -/

section Steps

variable (settings : Settings) {image : AgentConfig}

theorem OnlyRecord.refl (id : String) (devices : Devices) : OnlyRecord id devices devices :=
  ⟨rfl, fun _ hd _ => hd⟩

theorem onlyRecord_updateKey (devices : Devices) (id : String) (f : Device → Device)
    (hf : ∀ d, (f d).id = d.id) : OnlyRecord id devices (devices.updateKey id f hf) where
  ids := Table.map_rows_update hf hf
  others _ hd hne := Table.mem_updateKey_of_ne hd hne

theorem refreshed_updateKey {devices : Devices} {d : Device} (hd : d ∈ devices)
    {f : Device → Device} (hf : ∀ d, (f d).id = d.id) {machine : Machine} {status : String}
    {info : Option SysInfo} {now : DateTime} {answered : HeartbeatStatus}
    (hrefreshed : Refreshed image machine status info now answered d (f d)) :
    ∃ before ∈ devices, ∃ d' ∈ devices.updateKey d.id f hf, before.id = d.id ∧ d'.id = d.id ∧
      Refreshed image machine status info now answered before d' :=
  ⟨d, hd, f d, Table.mem_updateKey_self hd, rfl, hf d, hrefreshed⟩

theorem refreshed_refreshDevice (d : Device) (machine : Machine) (status : String)
    (info : Option SysInfo) (now : DateTime) (htoken : d.token = "" ∨ image.token = d.token) :
    Refreshed image machine status info now .updated d
      (refreshDevice d (heartbeatPayload image machine status info) now) := by
  constructor
  case outcome => exact .inl ⟨rfl, htoken⟩
  case hardware => exact refreshDevice_hardware _ _ _
  case hostname =>
      by_cases hlocked : d.hostnameLocked = true
      · rw [if_pos ⟨rfl, hlocked⟩]
        cases info <;> exact if_pos hlocked
      · rw [if_neg fun h => hlocked h.2]
        cases info <;> exact if_neg hlocked
  all_goals cases info <;> rfl

theorem refreshed_adoptDevice (d : Device) (machine : Machine) (status : String)
    (info : Option SysInfo) (now : DateTime) (htoken : ¬(d.token = "" ∨ image.token = d.token)) :
    Refreshed image machine status info now .reEnrolled d
      (adoptDevice d (heartbeatPayload image machine status info) image.token now) := by
  constructor
  case outcome => exact .inr ⟨rfl, htoken⟩
  case hardware => exact adoptDevice_hardware _ _ _ _
  case ip =>
      rw [adoptDevice, applySysinfo_ip]
      show (if machine.ip ≠ "" then some machine.ip else d.ip) = _
      by_cases hip : machine.ip = ""
      · rw [if_neg (not_not_intro hip), if_pos (.inr hip)]
      · rw [if_pos hip, if_neg (not_or_intro (by decide) hip)]
  all_goals cases info <;> rfl

/-- A heartbeat under the id of a record is about that record, wherever it comes from. -/
theorem heartbeat_touches (hid : image.deviceId ≠ "") {db : Database}
    (hrecord : ∃ d ∈ db.devices, d.id = image.deviceId) (machine : Machine) (status : String)
    (info : Option SysInfo) (draw : Draw) :
    OnlyRecord image.deviceId db.devices
        (handle settings db (heartbeatRequest image machine status info draw)).devices ∧
      ∀ answer, answerOf settings db.devices image machine status info draw = .ok answer →
        answer.deviceId = image.deviceId ∧ ∃ before ∈ db.devices,
          ∃ d ∈ (handle settings db (heartbeatRequest image machine status info draw)).devices,
            before.id = image.deviceId ∧ d.id = image.deviceId ∧
              Refreshed image machine status info draw.now answer.status before d := by
  have hknown : ∃ device, matchDevice db.devices (heartbeatPayload image machine status info) =
      some device ∧ device.id = image.deviceId :=
    Enrolment.matchDevice_of_known rfl hid hrecord
  obtain ⟨device, hfound, hdevice⟩ := hknown
  have hmem : device ∈ db.devices := matchDevice_mem hfound
  have hsame : ∀ d, matchDevice db.devices (heartbeatPayload image machine status info) = some d →
      d = device := fun d hd => Option.some.inj (hd.symm.trans hfound)
  have hcase := handleHeartbeat_outcome settings.config db.devices
    (heartbeatPayload image machine status info) (heartbeatHeaders image) image.token draw
  show OnlyRecord image.deviceId db.devices (agentHeartbeat settings.config db.devices
      (heartbeatPayload image machine status info) (heartbeatHeaders image) draw).1 ∧
    ∀ answer, (agentHeartbeat settings.config db.devices
      (heartbeatPayload image machine status info) (heartbeatHeaders image) draw).2 = .ok answer →
        answer.deviceId = image.deviceId ∧ ∃ before ∈ db.devices, ∃ d ∈ (agentHeartbeat
          settings.config db.devices (heartbeatPayload image machine status info)
            (heartbeatHeaders image) draw).1, before.id = image.deviceId ∧
              d.id = image.deviceId ∧
                Refreshed image machine status info draw.now answer.status before d
  unfold agentHeartbeat
  rw [bearerToken_heartbeatHeaders]
  generalize handleHeartbeat settings.config db.devices
    (heartbeatPayload image machine status info) (heartbeatHeaders image) image.token draw =
      result at hcase
  rw [← hdevice]
  cases hcase with
  | updated d hmatch htoken =>
      obtain rfl := hsame d hmatch
      refine ⟨onlyRecord_updateKey _ _ _ fun d => refreshDevice_id d _ _,
        fun answer hanswer => ?_⟩
      cases hanswer
      exact ⟨rfl, refreshed_updateKey hmem (fun d => refreshDevice_id d _ _)
        (refreshed_refreshDevice d machine status info draw.now htoken)⟩
  | reEnrolled d hmatch htoken =>
      obtain rfl := hsame d hmatch
      refine ⟨onlyRecord_updateKey _ _ _ fun d => adoptDevice_id d _ _ _,
        fun answer hanswer => ?_⟩
      cases hanswer
      exact ⟨rfl, refreshed_updateKey hmem (fun d => adoptDevice_id d _ _ _)
        (refreshed_adoptDevice d machine status info draw.now htoken)⟩
  | created devices' hmatch =>
      rw [hfound] at hmatch
      cases hmatch
  | wrongToken => exact ⟨.refl _ _, fun answer hanswer => nomatch hanswer⟩
  | wrongSecret => exact ⟨.refl _ _, fun answer hanswer => nomatch hanswer⟩
  | notBound => exact ⟨.refl _ _, fun answer hanswer => nomatch hanswer⟩
  | idTaken => exact ⟨.refl _ _, fun answer hanswer => nomatch hanswer⟩

theorem recover_touches (db : Database) (hostname : String) (now : DateTime) :
    OnlyRecord image.deviceId db.devices
      (handle settings db (recoverRequest image hostname now)).devices := by
  show OnlyRecord image.deviceId db.devices (agentRecover db.devices ⟨image.deviceId, hostname⟩
    { authorization := some ("Bearer " ++ image.token) } now).1
  unfold agentRecover
  split
  · exact .refl _ _
  · split
    · exact .refl _ _
    · exact onlyRecord_updateKey _ _ _ fun d => recoverDevice_id d _ now

/-- No request removes a record. -/
theorem record_kept {db : Database} (request : Request) {id : String}
    (h : ∃ d ∈ db.devices, d.id = id) :
    ∃ d ∈ (handle settings db request).devices, d.id = id := by
  obtain ⟨d, hd, rfl⟩ := h
  obtain ⟨d', hd', hstep⟩ := handle_record settings db request hd
  exact ⟨d', hd', hstep.id⟩

variable {Agent : Type} [DecidableEq Agent] {s s' : State Agent}

theorem step_touches (hid : image.deviceId ≠ "") (e : Event Agent)
    (h : step settings s e = some s') (hinv : Inv image s) :
    Inv image s' ∧ Touches settings image s e s' := by
  obtain ⟨hcfg, hrecord⟩ := hinv
  cases e with
  | heartbeat agent machine status info draw delivery =>
      have htouches := heartbeat_touches settings hid hrecord machine status info draw
      unfold step at h
      dsimp only at h
      rw [hcfg agent] at h
      cases h
      refine ⟨⟨?_, ?_⟩, ?_⟩
      · -- the answer has the id that is there already
        have hsaved : savedConfig image delivery
            (answerOf settings s.db.devices image machine status info draw) = image := by
          unfold savedConfig
          split
          · rename_i answer hanswer
            rw [saveDeviceId, (htouches.2 answer hanswer).1, if_neg fun h => h.2 rfl]
          · rfl
        intro other
        dsimp only
        rw [hsaved]
        by_cases hother : other = agent
        · rw [hother, Function.update_self]
        · rw [Function.update_of_ne hother]
          exact hcfg other
      · dsimp only
        split
        · exact hrecord
        · exact record_kept settings _ hrecord
      · show OnlyRecord _ _ _ ∧ _
        dsimp only
        split_ifs with hlost
        · exact ⟨.refl _ _, fun hdelivered => absurd hlost hdelivered⟩
        · exact ⟨htouches.1, fun _ answer hanswer => (htouches.2 answer hanswer).2⟩
  | recover agent hostname now =>
      unfold step at h
      dsimp only at h
      rw [hcfg agent] at h
      cases h
      exact ⟨⟨hcfg, record_kept settings _ hrecord⟩, recover_touches settings s.db hostname now⟩
  | request request =>
      cases h
      exact ⟨⟨hcfg, record_kept settings _ hrecord⟩, trivial⟩

end Steps

/-! ## Runs -/

/-- **Clones share their record**: in every run of machines set up from one image and of the server,
each machine keeps the device id of the image, and its requests never touch another record or add
one, at whatever address it is; every heartbeat that is answered refreshes the shared record, apart
from its address and a locked host name as long as the record has the image's token. -/
theorem clones_share {Agent : Type} [DecidableEq Agent] (settings : Settings)
    {image : AgentConfig} (hid : image.deviceId ≠ "") {db : Database}
    (hrecord : ∃ d ∈ db.devices, d.id = image.deviceId) (events : List (Event Agent)) :
    Along (step settings) (fun s e s' => Inv image s' ∧ Touches settings image s e s')
      (start Agent image db) events := by
  have hstart : Inv image (start Agent image db) := ⟨fun _ => rfl, hrecord⟩
  refine along_of_step (fun s e s' h (hinv : Inv image s) => ?_) hstart
  have hstep := step_touches settings hid e h hinv
  exact ⟨hstep.1, hstep⟩

/-! ### Two clones in one room -/

def exampleImage : AgentConfig :=
  { HardwareInfo.exampleAgent with deviceId := HeartbeatPaths.known.id }

def imaged : Database := { Database.empty with devices := HeartbeatPaths.knownDevices }

def otherMachine : Machine :=
  { HardwareInfo.exampleMachine with hostname := "pc-2", ip := "10.0.0.21" }

def bothHeard : List (Event Bool) :=
  [.recover true "pc-2" 0,
    .heartbeat false HardwareInfo.exampleMachine "online" none issuedDraw .answered,
    .heartbeat true otherMachine "online" none issuedDraw .answered]

theorem both_share :
    Along (step exampleSettings)
      (fun s e s' => Inv exampleImage s' ∧ Touches exampleSettings exampleImage s e s')
      (start Bool exampleImage imaged) bothHeard :=
  clones_share exampleSettings (by decide +kernel) ⟨_, List.mem_cons_self, rfl⟩ bothHeard

end LanAgent.Clones
