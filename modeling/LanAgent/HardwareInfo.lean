import LanAgent.Agent
import LanAgent.Library.Runs

/-!
# Hardware information — from the agent's cache to its record

An agent that has just started, its heartbeats, which may be lost on the way or whose answers may
be, and its `hostmsg` commands.  The cache counts as fresh from the moment of a collection, whatever
becomes of the heartbeat that carries it.  `Reached` is what an accepted heartbeat should leave in
the record; `hardware_reaches_iff` says which runs keep it.
-/

namespace LanAgent.HardwareInfo

open Library Library.Runs Sqlite

/-! ## The system -/

inductive Delivery where
  /-- The request does not reach the server. -/
  | lost
  /-- The server handles the request, and its answer does not reach the agent. -/
  | unanswered
  | answered
  deriving DecidableEq, Repr

/-- A call of `sendHeartbeat`; `reading` is the collection it makes if it makes one. -/
structure Call where
  now : DateTime
  machine : Machine
  status : String
  reading : Collection
  delivery : Delivery
  draw : Draw

inductive Event where
  | heartbeat (call : Call)
  | hostmsg (message : String) (now : DateTime) (reading : Collection)

structure State where
  cfg : AgentConfig
  cache : Option Collection
  devices : Devices
  /-- The records that an accepted heartbeat has given the cached collection: history of the run,
  not data of the agent or the server.  These records hold its values, but the condition should not
  have to look into a record that the run itself has filled. -/
  given : List String

/-- The agent has just started. -/
def start (cfg : AgentConfig) (devices : Devices) : State := ⟨cfg, none, devices, []⟩

def State.collected (s : State) (call : Call) : Option SysInfo × Option Collection :=
  getSysInfo false s.cache call.now call.reading

def State.payload (s : State) (call : Call) : HeartbeatRequest :=
  heartbeatPayload s.cfg call.machine call.status (s.collected call).1

/-- What the server does with the request, if it gets it. -/
def State.served (config : Config) (s : State) (call : Call) :
    Devices × Except HttpError HeartbeatAnswer :=
  agentHeartbeat config s.devices (s.payload call) (heartbeatHeaders s.cfg) call.draw

/-- The answer of an accepted heartbeat. -/
def State.accepted (config : Config) (s : State) (call : Call) : Option HeartbeatAnswer :=
  if call.delivery = .lost then none else (s.served config call).2.toOption

def State.send (config : Config) (s : State) (call : Call) : State where
  cfg := match call.delivery, s.accepted config call with
    | .answered, some answer => saveDeviceId s.cfg answer.deviceId
    | _, _ => s.cfg
  cache := (s.collected call).2
  devices := if call.delivery = .lost then s.devices else (s.served config call).1
  given := match (s.collected call).1 with
    | none => s.given
    -- the new collection is in no record yet, but the one this heartbeat reaches
    | some _ => (s.accepted config call).toList.map HeartbeatAnswer.deviceId

def step (config : Config) (s : State) : Event → Option State
  | .heartbeat call => some (s.send config call)
  | .hostmsg message now reading =>
      let cache := hostmsgCache s.cache message now reading
      some { s with cache := cache, given := if cache = s.cache then s.given else [] }

/-! ## What the record should hold -/

def hardwareOf (devices : Devices) (deviceId : String) : Option (HwField → Value) :=
  (devices.find? deviceId).map Device.hardware

/-- The record holds the collection the agent has made last. -/
def HoldsCache (s : State) (deviceId : String) : Prop :=
  ∃ c ∈ s.cache, hardwareOf s.devices deviceId = some c.info.payload.column

instance (s : State) (deviceId : String) : Decidable (HoldsCache s deviceId) :=
  inferInstanceAs (Decidable (∃ c ∈ s.cache, _))

/-- After an accepted heartbeat its record holds what the agent has collected last. -/
def Reached (config : Config) (s : State) : Event → State → Prop
  | .heartbeat call, s' => ∀ answer ∈ s.accepted config call, HoldsCache s' answer.deviceId
  | .hostmsg _ _ _, _ => True

instance (config : Config) (s : State) :
    ∀ (e : Event) (s' : State), Decidable (Reached config s e s')
  | .heartbeat call, s' =>
      inferInstanceAs (Decidable (∀ answer ∈ s.accepted config call, HoldsCache s' answer.deviceId))
  | .hostmsg _ _ _, _ => inferInstanceAs (Decidable True)

/-- The hardware columns of the record the request is about, before it is handled. -/
def hardwareBefore (devices : Devices) (payload : HeartbeatRequest) : HwField → Value :=
  match matchDevice devices payload with
  | some device => device.hardware
  -- a first registration starts from NULL columns
  | none => fun _ => .null

/-- An accepted heartbeat that carries no hardware information is for a record that an accepted one
has given the cached collection, or that holds the same values anyway. -/
def Given (config : Config) (s : State) : Event → State → Prop
  | .heartbeat call, _ => ∀ answer ∈ s.accepted config call, (s.collected call).1 = none →
      answer.deviceId ∈ s.given ∨
        ∃ c ∈ s.cache, hardwareBefore s.devices (s.payload call) = c.info.payload.column
  | .hostmsg _ _ _, _ => True

/-! ## What an accepted heartbeat leaves in the table -/

section Accepted

variable {config : Config} {devices devices' : Devices} {payload : HeartbeatRequest}
  {headers : Headers} {draw : Draw} {answer : HeartbeatAnswer}
  (h : agentHeartbeat config devices payload headers draw = (devices', .ok answer))

include h

theorem hardwareOf_answer : hardwareOf devices' answer.deviceId =
    some (reportedHardware payload.sysinfo (hardwareBefore devices payload)) := by
  have hcase := handleHeartbeat_outcome config devices payload headers (bearerToken headers) draw
  rw [agentHeartbeat] at h
  rw [h] at hcase
  unfold hardwareOf hardwareBefore
  cases hcase with
  | updated device hmatch =>
      rw [hmatch, Table.find?_updateKey_self, Table.find?_key (matchDevice_mem hmatch)]
      simp
  | reEnrolled device hmatch =>
      rw [hmatch, Table.find?_updateKey_self, Table.find?_key (matchDevice_mem hmatch)]
      simp
  | created _ hmatch _ _ hinsert =>
      have hmem := (Table.mem_insert? hinsert).mpr (.inr rfl)
      have hfind := Table.find?_key hmem
      rw [registerDevice_id] at hfind
      rw [hmatch, hfind, Option.map_some, registerDevice_hardware]

theorem hardwareOf_other {deviceId : String} (hother : deviceId ≠ answer.deviceId) :
    hardwareOf devices' deviceId = hardwareOf devices deviceId := by
  have hcase := handleHeartbeat_outcome config devices payload headers (bearerToken headers) draw
  rw [agentHeartbeat] at h
  rw [h] at hcase
  unfold hardwareOf
  cases hcase with
  | updated device hmatch => rw [Table.find?_updateKey_of_ne hother]
  | reEnrolled device hmatch => rw [Table.find?_updateKey_of_ne hother]
  | created _ hmatch _ _ hinsert =>
      rw [← registerDevice_id payload (bearerToken headers) draw] at hother
      rw [Table.find?_insert?_of_ne hinsert hother]

/-- A record that was there with the id of the answer is the one the request is about. -/
theorem hardwareBefore_of_hardwareOf {hardware : HwField → Value}
    (hold : hardwareOf devices answer.deviceId = some hardware) :
    hardwareBefore devices payload = hardware := by
  have hcase := handleHeartbeat_outcome config devices payload headers (bearerToken headers) draw
  rw [agentHeartbeat] at h
  rw [h] at hcase
  obtain ⟨d, hd, rfl⟩ := Option.map_eq_some_iff.mp hold
  unfold hardwareBefore
  cases hcase with
  | updated device hmatch =>
      rw [Table.find?_key (matchDevice_mem hmatch), Option.some.injEq] at hd
      rw [hmatch, hd]
  | reEnrolled device hmatch =>
      rw [Table.find?_key (matchDevice_mem hmatch), Option.some.injEq] at hd
      rw [hmatch, hd]
  | created _ hmatch _ _ hinsert =>
      have hfresh := (Table.insert?_eq_some hinsert).2 d (Table.mem_of_find? hd)
      rw [registerDevice_id] at hfresh
      exact absurd (Table.key_of_find? hd) hfresh

end Accepted

/-! ## One step -/

structure Inv (s : State) : Prop where
  given : ∀ deviceId ∈ s.given, HoldsCache s deviceId

theorem inv_start (cfg : AgentConfig) (devices : Devices) : Inv (start cfg devices) where
  given _ h := absurd h List.not_mem_nil

section Send

variable {config : Config} {s : State} {call : Call} {answer : HeartbeatAnswer}

theorem served_of_accepted (h : s.accepted config call = some answer) :
    call.delivery ≠ .lost ∧
      s.served config call = ((s.served config call).1, .ok answer) := by
  unfold State.accepted at h
  split at h
  · cases h
  · rename_i hdelivery
    refine ⟨hdelivery, ?_⟩
    cases hserved : s.served config call with
    | mk devices result =>
        rw [hserved] at h
        cases result with
        | error e => cases h
        | ok a =>
            cases h
            rfl

/-- A heartbeat that is not accepted leaves the table as it was. -/
theorem devices_of_refused (h : s.accepted config call = none) :
    (s.send config call).devices = s.devices := by
  unfold State.accepted at h
  show (if call.delivery = .lost then s.devices else (s.served config call).1) = s.devices
  split
  · rfl
  · rename_i hdelivery
    rw [if_neg hdelivery] at h
    cases hserved : s.served config call with
    | mk devices result =>
        rw [hserved] at h
        cases result with
        | error e => exact handleHeartbeat_error hserved
        | ok a => cases h

theorem devices_of_accepted (h : s.accepted config call = some answer) :
    (s.send config call).devices = (s.served config call).1 :=
  if_neg (served_of_accepted h).1

/-- After an accepted heartbeat its record has what the heartbeat carried, or what it had. -/
theorem hardwareOf_send (h : s.accepted config call = some answer) :
    hardwareOf (s.send config call).devices answer.deviceId =
      some (reportedHardware ((s.collected call).1.map SysInfo.payload)
        (hardwareBefore s.devices (s.payload call))) := by
  rw [devices_of_accepted h]
  exact hardwareOf_answer (served_of_accepted h).2

/-- **A new collection** is held by the record of the heartbeat that carries it. -/
theorem holdsCache_of_carried (h : s.accepted config call = some answer)
    (hcollected : s.collected call = (some call.reading.info, some call.reading)) :
    HoldsCache (s.send config call) answer.deviceId := by
  refine ⟨call.reading, congrArg Prod.snd hcollected, ?_⟩
  rw [hardwareOf_send h, hcollected]
  rfl

/-- **A heartbeat without information** leaves the columns of its record as they were. -/
theorem holdsCache_iff_of_valid (h : s.accepted config call = some answer)
    (hvalid : s.collected call = (none, s.cache)) :
    HoldsCache (s.send config call) answer.deviceId ↔
      ∃ c ∈ s.cache, hardwareBefore s.devices (s.payload call) = c.info.payload.column := by
  have hhardware := hardwareOf_send h
  rw [hvalid] at hhardware
  have hcache : (s.send config call).cache = s.cache := congrArg Prod.snd hvalid
  unfold HoldsCache
  rw [hcache, hhardware]
  simp [reportedHardware]

/-- What a record was given it keeps. -/
theorem holdsCache_keep (hvalid : s.collected call = (none, s.cache)) {deviceId : String}
    (hholds : HoldsCache s deviceId) : HoldsCache (s.send config call) deviceId := by
  obtain ⟨c, hc, hhardware⟩ := hholds
  cases haccepted : s.accepted config call with
  | none =>
      refine ⟨c, (congrArg Prod.snd hvalid).trans hc, ?_⟩
      rw [devices_of_refused haccepted]
      exact hhardware
  | some answer =>
      by_cases hthis : deviceId = answer.deviceId
      · rw [hthis] at hhardware ⊢
        rw [holdsCache_iff_of_valid haccepted hvalid]
        exact ⟨c, hc, hardwareBefore_of_hardwareOf (served_of_accepted haccepted).2 hhardware⟩
      · refine ⟨c, (congrArg Prod.snd hvalid).trans hc, ?_⟩
        rw [devices_of_accepted haccepted,
          hardwareOf_other (served_of_accepted haccepted).2 hthis]
        exact hhardware

end Send

theorem step_inv {config : Config} {s s' : State} {e : Event} (h : step config s e = some s')
    (hinv : Inv s) : Inv s' := by
  cases e with
  | heartbeat call =>
      cases h
      refine ⟨fun deviceId hgiven => ?_⟩
      rcases getSysInfo_cases false s.cache call.now call.reading with hcollected | ⟨_, hvalid⟩
      · change s.collected call = _ at hcollected
        simp only [State.send, hcollected] at hgiven
        obtain ⟨answer, hanswer, rfl⟩ := List.mem_map.mp hgiven
        exact holdsCache_of_carried (Option.mem_toList.mp hanswer) hcollected
      · change s.collected call = _ at hvalid
        simp only [State.send, hvalid] at hgiven
        exact holdsCache_keep hvalid (hinv.given deviceId hgiven)
  | hostmsg message now reading =>
      cases h
      refine ⟨fun deviceId hgiven => ?_⟩
      dsimp only at hgiven
      split at hgiven
      · rename_i hsame
        obtain ⟨c, hc, hhardware⟩ := hinv.given deviceId hgiven
        exact ⟨c, hsame.trans hc, hhardware⟩
      · cases hgiven

/-- **One heartbeat** reaches its record exactly when the record has been given the collection. -/
theorem step_iff {config : Config} {s s' : State} {e : Event} (h : step config s e = some s')
    (hinv : Inv s) : Reached config s e s' ↔ Given config s e s' := by
  cases e with
  | heartbeat call =>
      cases h
      apply forall_congr'
      intro answer
      apply imp_congr_right
      intro haccepted
      rcases getSysInfo_cases false s.cache call.now call.reading with hcollected | ⟨_, hvalid⟩
      · change s.collected call = _ at hcollected
        apply iff_of_true (holdsCache_of_carried haccepted hcollected)
        intro hnone
        rw [hcollected] at hnone
        cases hnone
      · change s.collected call = _ at hvalid
        rw [holdsCache_iff_of_valid haccepted hvalid]
        apply Iff.intro
        · exact fun hbefore _ => .inr hbefore
        · intro hgiven
          rcases hgiven (congrArg Prod.fst hvalid) with hgiven | hbefore
          -- a record that was given the collection has it still
          · obtain ⟨c, hc, hhardware⟩ := hinv.given answer.deviceId hgiven
            exact ⟨c, hc, hardwareBefore_of_hardwareOf (served_of_accepted haccepted).2 hhardware⟩
          · exact hbefore
  | hostmsg message now reading => exact Iff.rfl

/-! ## Whole runs -/

/-- **Hardware information reaches the server** in exactly the runs whose accepted heartbeats carry
it, or are for a record that has it: what is collected for a heartbeat that is lost, or for a
message, is not sent again while the cache is fresh. -/
theorem hardware_reaches_iff (config : Config) (cfg : AgentConfig) (devices : Devices)
    (events : List Event) :
    Along (step config) (Reached config) (start cfg devices) events ↔
      Along (step config) (Given config) (start cfg devices) events := by
  have hiff : ∀ s e s', step config s e = some s' → Inv s →
      (Reached config s e s' ↔ Given config s e s') := fun _ _ _ h hinv => step_iff h hinv
  have hkeep : ∀ s e s', step config s e = some s' → Inv s → Given config s e s' → Inv s' :=
    fun _ _ _ h hinv _ => step_inv h hinv
  exact along_iff hiff hkeep (inv_start cfg devices)

/-! ### A first heartbeat that is lost -/

def exampleAgent : AgentConfig := ⟨"http://10.0.0.1:8080", "", "t", "s"⟩

def exampleMachine : Machine := ⟨"pc", "Windows amd64", "10.0.0.20", ⟨3, rfl⟩, "1.4.5", 0⟩

def exampleReading : Collection where
  info := ⟨"cpu", ⟨8, rfl⟩, ⟨16384, rfl⟩, ⟨476, rfl⟩, ⟨200, rfl⟩, "Windows 11", "1", "m", "b", "c"⟩
  collected := 0

/-- The first heartbeat does not reach the server; the one five seconds later registers the
agent. -/
def firstLost : List Event :=
  [.heartbeat ⟨0, exampleMachine, "online", exampleReading, .lost, issuedDraw⟩,
    .heartbeat ⟨seconds 5, exampleMachine, "online", exampleReading, .answered, issuedDraw⟩]

/-- The new record has no hardware information. -/
theorem collection_lost :
    ¬Along (step exampleConfig) (Reached exampleConfig) (start exampleAgent .empty) firstLost := by
  decide

end LanAgent.HardwareInfo
