import LanAgent.AgentRoutes
import LanAgent.Library.Runs

/-!
# Enrolment — agents and the records they are given

Runs of heartbeats of any agents, each with its own token and the enrolment secret.  An agent
reports its present address, which DHCP may change, and the device id it has stored, if any.  The
server finds a record for an agent without an id by its address; `one_agent_one_record_iff` says
when that never hands out a record twice.
-/

namespace LanAgent.Enrolment

open Library Library.Runs

/-! ## The system -/

structure State (Agent : Type) where
  devices : Devices
  /-- `cfg.DeviceID` of each agent, empty before it has received one. -/
  deviceId : Agent → String
  /-- The most recently reported address of the agents that have reported one. -/
  addresses : List (Agent × String)

/-- The server with its table, before any agent has reported. -/
def start (Agent : Type) (devices : Devices) : State Agent := ⟨devices, fun _ => "", []⟩

/-- A heartbeat of an agent. -/
structure Beat (Agent : Type) where
  agent : Agent
  payload : HeartbeatRequest
  headers : Headers
  draw : Draw

section System

variable {Agent : Type} [DecidableEq Agent]

/-- What a heartbeat of an agent is like: it carries the agent's token, the enrolment secret, the
stored device id, and an address that no other agent has at the moment. -/
def Regular (config : Config) (tokens : Agent → String) (s : State Agent) (b : Beat Agent) : Prop :=
  bearerToken b.headers = tokens b.agent ∧ enrollSecretValid config b.headers = true ∧
    b.payload.deviceId.getD "" = s.deviceId b.agent ∧ b.payload.ip ≠ "" ∧
      ∀ report ∈ s.addresses, report.1 ≠ b.agent → report.2 ≠ b.payload.ip

instance (config : Config) (tokens : Agent → String) (s : State Agent) (b : Beat Agent) :
    Decidable (Regular config tokens s b) := by
  unfold Regular
  infer_instance

/-- The device id in an answer, empty in a refusal. -/
def answeredId (answer : Except HttpError HeartbeatAnswer) : String :=
  match answer with
  | .ok answer => answer.deviceId
  | .error _ => ""

/-- The end of `sendHeartbeat`: a device id in the answer is stored. -/
def receive (config : Config) (s : State Agent) (b : Beat Agent) : State Agent :=
  let result := agentHeartbeat config s.devices b.payload b.headers b.draw
  { devices := result.1
    deviceId :=
      if answeredId result.2 ≠ "" then
        Function.update s.deviceId b.agent (answeredId result.2)
      else s.deviceId
    addresses := (b.agent, b.payload.ip) :: s.addresses.filter (fun r => r.1 ≠ b.agent) }

def step (config : Config) (tokens : Agent → String) (s : State Agent) (b : Beat Agent) :
    Option (State Agent) :=
  if Regular config tokens s b then some (receive config s b) else none

end System

/-! ## The property and its condition -/

variable {Agent : Type}

def Distinct (s : State Agent) : Prop :=
  ∀ a b, a ≠ b → s.deviceId a ≠ "" → s.deviceId a ≠ s.deviceId b

/-- After a step no two agents hold the same device id, and every agent that had one holds it
still. -/
def OneRecord (s s' : State Agent) : Prop :=
  Distinct s' ∧ ∀ a, s.deviceId a ≠ "" → s'.deviceId a = s.deviceId a

/-- The newest record at the address of an agent without a device id is not another agent's. -/
def AddressFree (s : State Agent) (b : Beat Agent) : Prop :=
  s.deviceId b.agent = "" → b.payload.binds = true →
    ∀ d, latestByIp s.devices b.payload.ip = some d → d.id ≠ "" →
      ∀ a, a ≠ b.agent → s.deviceId a ≠ d.id

/-! ## What a heartbeat answers -/

section Answer

variable {config : Config} {devices : Devices} {payload : HeartbeatRequest} {headers : Headers}
  {draw : Draw}

theorem answeredId_of_match (hsecret : enrollSecretValid config headers = true) {d : Device}
    (hmatch : matchDevice devices payload = some d) :
    answeredId (agentHeartbeat config devices payload headers draw).2 =
      if payload.binds then d.id else "" := by
  have hcase := handleHeartbeat_outcome config devices payload headers (bearerToken headers) draw
  unfold agentHeartbeat
  generalize handleHeartbeat config devices payload headers (bearerToken headers) draw = result
    at hcase
  cases hcase with
  | updated device hmatch' _ hbinds =>
      rw [hmatch, Option.some.injEq] at hmatch'
      rw [if_pos hbinds, hmatch']
      rfl
  | reEnrolled device hmatch' _ _ hbinds =>
      rw [hmatch, Option.some.injEq] at hmatch'
      rw [if_pos hbinds, hmatch']
      rfl
  | created _ hmatch' _ _ _ =>
      rw [hmatch] at hmatch'
      cases hmatch'
  -- under the secret a record's token is not asked for
  | wrongToken _ _ _ hrefused => exact absurd (.inr hsecret) hrefused
  | wrongSecret hmatch' _ =>
      rw [hmatch] at hmatch'
      cases hmatch'
  | notBound hbinds =>
      rw [hbinds]
      rfl
  | idTaken hmatch' _ _ _ =>
      rw [hmatch] at hmatch'
      cases hmatch'

/-- Without a match, the answer is the id of a new record, or there is none. -/
theorem answer_fresh_of_no_match (hmatch : matchDevice devices payload = none)
    {answer : HeartbeatAnswer}
    (hanswer : (agentHeartbeat config devices payload headers draw).2 = .ok answer) :
    ∀ d ∈ devices, d.id ≠ answer.deviceId := by
  have hcase := handleHeartbeat_outcome config devices payload headers (bearerToken headers) draw
  unfold agentHeartbeat at hanswer
  generalize handleHeartbeat config devices payload headers (bearerToken headers) draw = result
    at hcase hanswer
  cases hcase with
  | updated device hmatch' _ _ =>
      rw [hmatch] at hmatch'
      cases hmatch'
  | reEnrolled device hmatch' _ _ _ =>
      rw [hmatch] at hmatch'
      cases hmatch'
  | created devices' _ _ _ hinsert =>
      -- the insertion of the new record has succeeded, so its id is new
      intro d hd
      have hfresh := (Table.insert?_eq_some hinsert).2 d hd
      rw [registerDevice_id] at hfresh
      rw [← Except.ok.inj hanswer]
      exact hfresh
  | wrongToken => cases hanswer
  | wrongSecret => cases hanswer
  | notBound => cases hanswer
  | idTaken => cases hanswer

theorem answeredId_of_no_match (config : Config) (headers : Headers) (draw : Draw)
    (hmatch : matchDevice devices payload = none) :
    answeredId (agentHeartbeat config devices payload headers draw).2 = "" ∨
      ∀ d ∈ devices,
        d.id ≠ answeredId (agentHeartbeat config devices payload headers draw).2 := by
  cases hanswer : (agentHeartbeat config devices payload headers draw).2 with
  | error e => exact .inl rfl
  | ok answer => exact .inr (answer_fresh_of_no_match hmatch hanswer)

theorem heartbeat_keeps (id : String)
    (h : (∃ d ∈ devices, d.id = id) ∨
      (id ≠ "" ∧ id = answeredId (agentHeartbeat config devices payload headers draw).2)) :
    ∃ d ∈ (agentHeartbeat config devices payload headers draw).1, d.id = id := by
  -- an update of one row keeps all ids
  have hupdate : ∀ (device : Device) (f : Device → Device) (hf : ∀ d, (f d).id = d.id) (d : Device),
      d ∈ devices → ∃ d' ∈ devices.updateKey device.id f hf, d'.id = d.id := by
    intro device f hf d hd
    by_cases hk : d.id = device.id
    · exact ⟨f d, Table.mem_updateKey.mpr ⟨d, hd, if_pos hk⟩, hf d⟩
    · exact ⟨d, Table.mem_updateKey.mpr ⟨d, hd, if_neg hk⟩, rfl⟩
  have hcase := handleHeartbeat_outcome config devices payload headers (bearerToken headers) draw
  unfold agentHeartbeat at h ⊢
  generalize handleHeartbeat config devices payload headers (bearerToken headers) draw = result
    at hcase h
  cases hcase with
  | updated device hmatch _ _ =>
      have hkeeps := hupdate device (fun d => refreshDevice d payload draw.now)
        fun d => refreshDevice_id d payload draw.now
      rcases h with ⟨d, hd, rfl⟩ | ⟨_, rfl⟩
      · exact hkeeps d hd
      · exact hkeeps device (matchDevice_mem hmatch)
  | reEnrolled device hmatch _ _ _ =>
      have hkeeps := hupdate device
        (fun d => adoptDevice d payload (bearerToken headers) draw.now)
        fun d => adoptDevice_id d payload (bearerToken headers) draw.now
      rcases h with ⟨d, hd, rfl⟩ | ⟨_, rfl⟩
      · exact hkeeps d hd
      · exact hkeeps device (matchDevice_mem hmatch)
  | created devices' _ _ _ hinsert =>
      rcases h with ⟨d, hd, rfl⟩ | ⟨_, rfl⟩
      · exact ⟨d, (Table.mem_insert? hinsert).mpr (.inl hd), rfl⟩
      · exact ⟨_, (Table.mem_insert? hinsert).mpr (.inr rfl),
          registerDevice_id payload (bearerToken headers) draw⟩
  | wrongToken => exact h.resolve_right fun hempty => hempty.1 hempty.2
  | wrongSecret => exact h.resolve_right fun hempty => hempty.1 hempty.2
  | notBound => exact h.resolve_right fun hempty => hempty.1 hempty.2
  | idTaken => exact h.resolve_right fun hempty => hempty.1 hempty.2

theorem deviceById_of_empty (devices : Devices) (hid : payload.deviceId.getD "" = "") :
    deviceById devices payload.deviceId = none := by
  cases hdevice : payload.deviceId with
  | none => rfl
  | some id =>
      rw [hdevice] at hid
      have hempty : id = "" := hid
      rw [deviceById, if_neg (not_not.mpr hempty)]

theorem matchDevice_of_empty (hid : payload.deviceId.getD "" = "") (hip : payload.ip ≠ "") :
    matchDevice devices payload = latestByIp devices payload.ip := by
  rw [matchDevice, deviceById_of_empty devices hid]
  dsimp only
  rw [if_pos hip]

theorem matchDevice_of_known {id : String} (hid : payload.deviceId.getD "" = id) (hne : id ≠ "")
    (hknown : ∃ d ∈ devices, d.id = id) :
    ∃ d, matchDevice devices payload = some d ∧ d.id = id := by
  rcases hknown with ⟨d, hd, rfl⟩
  have hsome : deviceById devices payload.deviceId = some d := by
    cases hdevice : payload.deviceId with
    | none =>
        rw [hdevice] at hid
        exact absurd hid.symm hne
    | some id' =>
        rw [hdevice] at hid
        have hsame : id' = d.id := hid
        rw [hsame, deviceById, if_pos hne]
        exact Table.find?_key hd
  refine ⟨d, ?_, rfl⟩
  rw [matchDevice, hsome]

end Answer

/-! ## One heartbeat -/

structure Inv (s : State Agent) : Prop where
  distinct : Distinct s
  known : ∀ a, s.deviceId a ≠ "" → ∃ d ∈ s.devices, d.id = s.deviceId a

theorem inv_start (devices : Devices) : Inv (start Agent devices) where
  distinct _ _ _ h := absurd rfl h
  known _ h := absurd rfl h

section Step

variable [DecidableEq Agent] {config : Config} {tokens : Agent → String} {s : State Agent}
  {b : Beat Agent}

theorem receive_of_ne {a : Agent} (hne : a ≠ b.agent) :
    (receive config s b).deviceId a = s.deviceId a := by
  simp only [receive]
  split
  · exact Function.update_of_ne hne _ s.deviceId
  · rfl

theorem receive_self : (receive config s b).deviceId b.agent =
    if answeredId (agentHeartbeat config s.devices b.payload b.headers b.draw).2 ≠ "" then
      answeredId (agentHeartbeat config s.devices b.payload b.headers b.draw).2
    else s.deviceId b.agent := by
  simp only [receive]
  split
  · exact Function.update_self b.agent _ s.deviceId
  · rfl

theorem receive_stable (hinv : Inv s) (hregular : Regular config tokens s b) (a : Agent)
    (ha : s.deviceId a ≠ "") : (receive config s b).deviceId a = s.deviceId a := by
  by_cases hne : a = b.agent
  · rw [hne] at ha ⊢
    -- the lookup by id comes first and finds the agent's record, wherever it calls from
    rcases matchDevice_of_known hregular.2.2.1 ha (hinv.known b.agent ha) with ⟨d, hmatch, hid⟩
    rw [receive_self, answeredId_of_match hregular.2.1 hmatch, hid]
    by_cases hbinds : b.payload.binds = true
    · rw [if_pos hbinds, if_pos ha]
    -- the request is not stored and the answer is an error
    · rw [if_neg hbinds, if_neg (not_not.mpr rfl)]
  · exact receive_of_ne hne

/-- What the agent holds afterwards is new to the others exactly when its address is free. -/
theorem receive_new_iff (hinv : Inv s) (hregular : Regular config tokens s b) :
    (∀ a, a ≠ b.agent → (receive config s b).deviceId b.agent ≠ "" →
      s.deviceId a ≠ (receive config s b).deviceId b.agent) ↔ AddressFree s b := by
  -- split on whether the agent has a device id yet
  by_cases hid : s.deviceId b.agent = ""
  · have hmatch : matchDevice s.devices b.payload = latestByIp s.devices b.payload.ip :=
      matchDevice_of_empty (hregular.2.2.1.trans hid) hregular.2.2.2.1
    rw [receive_self, hid]
    cases hlatest : latestByIp s.devices b.payload.ip with
    | none =>
        rw [hlatest] at hmatch
        -- no record at this address: the id in the answer is new to everybody
        have hfresh := answeredId_of_no_match config b.headers b.draw hmatch
        refine iff_of_true (fun a _ => ?_) fun _ _ d hd => ?_
        · split
          · intro hne heq
            rcases hfresh with hempty | hfresh
            · exact hne hempty
            · rcases hinv.known a (heq ▸ hne) with ⟨d, hd, hsame⟩
              exact hfresh d hd (hsame.trans heq)
          · exact fun hne => absurd rfl hne
        · rw [hlatest] at hd
          cases hd
    | some d =>
        rw [hlatest] at hmatch
        -- the newest record at this address is the one in the answer, whoever owns it
        rw [answeredId_of_match hregular.2.1 hmatch]
        by_cases hbinds : b.payload.binds = true
        · rw [if_pos hbinds]
          by_cases hempty : d.id = ""
          · rw [if_neg (not_not.mpr hempty)]
            refine iff_of_true (fun a _ hne => absurd rfl hne) fun _ _ d' hd' hne => ?_
            rw [hlatest, Option.some.injEq] at hd'
            exact absurd (hd' ▸ hempty) hne
          · rw [if_pos hempty]
            apply Iff.intro
            · intro hnew _ _ d' hd' _ a ha
              rw [hlatest, Option.some.injEq] at hd'
              rw [← hd']
              exact hnew a ha hempty
            · intro hfree a ha _
              exact hfree hid hbinds d hlatest hempty a ha
        · rw [if_neg hbinds, if_neg (not_not.mpr rfl)]
          exact iff_of_true (fun a _ hne => absurd rfl hne) fun _ hbinds' => absurd hbinds' hbinds
  -- the agent keeps its id, which is nobody else's already
  · rw [receive_stable hinv hregular b.agent hid]
    refine iff_of_true (fun a ha _ heq => ?_) fun hid' => absurd hid' hid
    exact hinv.distinct b.agent a (Ne.symm ha) hid heq.symm

theorem distinct_receive_iff (hinv : Inv s) :
    Distinct (receive config s b) ↔ ∀ a, a ≠ b.agent →
      (receive config s b).deviceId b.agent ≠ "" →
        s.deviceId a ≠ (receive config s b).deviceId b.agent := by
  apply Iff.intro
  · intro hdistinct a ha hne heq
    have hsame : (receive config s b).deviceId a = s.deviceId a := receive_of_ne ha
    exact hdistinct b.agent a (Ne.symm ha) hne (heq.symm.trans hsame.symm)
  · intro hnew a c hac ha heq
    -- only the pairs with the sender need the condition
    by_cases hab : a = b.agent
    · rw [hab] at ha heq hac
      rw [receive_of_ne (Ne.symm hac)] at heq
      exact hnew c (Ne.symm hac) ha heq.symm
    · rw [receive_of_ne hab] at ha heq
      by_cases hcb : c = b.agent
      · rw [hcb] at heq
        exact hnew a hab (heq ▸ ha) heq
      · rw [receive_of_ne hcb] at heq
        exact hinv.distinct a c hac ha heq

/-- **One heartbeat** keeps one record for each agent exactly when the address of an agent without
a device id is free. -/
theorem step_iff {s' : State Agent} (h : step config tokens s b = some s') (hinv : Inv s) :
    OneRecord s s' ↔ AddressFree s b := by
  unfold step at h
  split at h
  · rename_i hregular
    cases h
    rw [← receive_new_iff hinv hregular, ← distinct_receive_iff hinv]
    exact ⟨fun h => h.1, fun h => ⟨h, receive_stable hinv hregular⟩⟩
  · cases h

theorem step_inv {s' : State Agent} (h : step config tokens s b = some s') (hinv : Inv s)
    (hfree : AddressFree s b) : Inv s' := by
  have hone := (step_iff h hinv).mpr hfree
  refine ⟨hone.1, fun a ha => ?_⟩
  unfold step at h
  split at h
  · cases h
    apply heartbeat_keeps
    by_cases hab : a = b.agent
    · rw [hab, receive_self] at ha ⊢
      by_cases hanswer : answeredId (agentHeartbeat config s.devices b.payload b.headers
          b.draw).2 ≠ ""
      · rw [if_pos hanswer]
        exact .inr ⟨hanswer, rfl⟩
      · rw [if_neg hanswer] at ha ⊢
        exact .inl (hinv.known b.agent ha)
    · rw [receive_of_ne hab] at ha ⊢
      exact .inl (hinv.known a ha)
  · cases h

end Step

/-! ## Whole runs -/

/-- **One agent, one record**, in exactly the runs in which no agent without a device id reports an
address whose newest record was given to another agent: for every table to start with, every set of
agents and every run of heartbeats. -/
theorem one_agent_one_record_iff [DecidableEq Agent] (config : Config) (tokens : Agent → String)
    (devices : Devices) (beats : List (Beat Agent)) :
    Along (step config tokens) (fun s _ s' => OneRecord s s') (start Agent devices) beats ↔
      Along (step config tokens) (fun s b _ => AddressFree s b) (start Agent devices) beats := by
  have hiff : ∀ s b s', step config tokens s b = some s' → Inv s →
      (OneRecord s s' ↔ AddressFree s b) := fun _ _ _ h hinv => step_iff h hinv
  have hkeep : ∀ s b s', step config tokens s b = some s' → Inv s → AddressFree s b → Inv s' :=
    fun _ _ _ h hinv hfree => step_inv h hinv hfree
  exact along_iff hiff hkeep (inv_start devices)

def ownToken (agent : Fin 2) : String := if agent = 0 then "a" else "b"

/-- A heartbeat of one of two agents. -/
def beatFrom (agent : Fin 2) (deviceId : Option String) (ip : String) : Beat (Fin 2) where
  agent := agent
  payload :=
    { deviceId := deviceId, hostname := "h", os := "w", ip := ip, rearmCount := 0
      status := "online", agentVersion := "1", timestamp := 0 }
  headers :=
    { authorization := some ("Bearer " ++ ownToken agent), xEnrollSecret := some "s" }
  draw := issuedDraw

/-- The first agent registers and moves to another address, which the second one gets. -/
def reassignedAddress : List (Beat (Fin 2)) :=
  [beatFrom 0 none "10.0.0.5", beatFrom 0 (some issuedDraw.id.val) "10.0.0.6",
    beatFrom 1 none "10.0.0.5"]

/-- The second agent is given the record of the first. -/
theorem record_given_twice :
    ¬Along (step exampleConfig ownToken) (fun s _ s' => OneRecord s s')
      (start (Fin 2) .empty) reassignedAddress := by
  intro h
  -- the pair of the two agents is enough
  have hpair : Along (step exampleConfig ownToken)
      (fun _ _ s' => s'.deviceId 0 ≠ "" → s'.deviceId 0 ≠ s'.deviceId 1)
      (start (Fin 2) .empty) reassignedAddress :=
    h.mono fun _ _ _ _ hone => hone.1 0 1 (by decide)
  exact absurd hpair (by decide)

end LanAgent.Enrolment
