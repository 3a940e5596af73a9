import LanAgent.AgentRoutes
import LanAgent.Connections
import LanAgent.Python.DateTime

/-!
# Devices that fall silent — `heartbeat_timeout_checker` of `main.py`

The sweep marks the devices offline that were not heard of for `heartbeatTimeoutSeconds`.  It is
plain SQL: it compares the texts SQLite stores, a status by the name of its member and a moment by
its digits.  `sweeps_hold` says that this is the comparison of the moments, to the second, in every
run of heartbeats, recoveries, connections and sweeps.
-/

namespace LanAgent

open Library

def heartbeatTimeoutSeconds : Nat := 15

/-- `status = :online AND last_heartbeat < :cutoff`, on the texts in the columns. -/
def isSilent (cutoff : String) (device : Device) : Bool :=
  device.status.name = DeviceStatus.online.name &&
    Sqlite.textLess (Python.storedText device.lastHeartbeat) cutoff

/-- One round of `heartbeat_timeout_checker`. -/
def sweep (devices : Devices) (now : DateTime) : Devices :=
  let cutoff := Python.strftime (now - heartbeatTimeoutSeconds * 1000000)
  devices.update (isSilent cutoff) (fun d => { d with status := .offline }) fun _ => rfl

theorem mem_sweep {devices : Devices} {now : DateTime} {d : Device} : d ∈ sweep devices now ↔
    ∃ d₀ ∈ devices,
      (if isSilent (Python.strftime (now - heartbeatTimeoutSeconds * 1000000)) d₀ = true then
        { d₀ with status := .offline } else d₀) = d := by
  rw [sweep, Table.mem_update]

end LanAgent

namespace LanAgent.HeartbeatTimeout

open Library Library.Runs

/-! ## The system -/

/-- What happens to the device table, with the moments the handlers read off the clock. -/
inductive Event where
  | heartbeat (payload : HeartbeatRequest) (headers : Headers) (draw : Draw)
  | recover (payload : RecoverRequest) (headers : Headers) (now : DateTime)
  | socket (event : Connections.Event)
  | sweep (now : DateTime)

def Event.times : Event → List DateTime
  | .heartbeat _ _ draw => [draw.now]
  | .recover _ _ now => [now]
  | .socket (.setOnline _ now) => [now]
  | .socket (.setOffline _ now) => [now]
  | .socket _ => []
  | .sweep now => [now]

def after (config : Config) (s : Connections.State) : Event → Option Connections.State
  | .heartbeat payload headers draw =>
      some { s with devices := (agentHeartbeat config s.devices payload headers draw).1 }
  | .recover payload headers now =>
      some { s with devices := (agentRecover s.devices payload headers now).1 }
  | .socket event => Connections.step s event
  | .sweep now => some { s with devices := sweep s.devices now }

/-- The clock may jump, and it stays within the years of four digits. -/
def step (config : Config) (s : Connections.State) (e : Event) : Option Connections.State :=
  if ∀ t ∈ e.times, Python.InYears t then after config s e else none

/-! ## What a sweep does -/

/-- A sweep leaves a record alone, or marks it offline for a heartbeat that is too old; and the
devices that are online afterwards were heard of within the timeout and a second. -/
structure Swept (devices : Devices) (now : DateTime) (devices' : Devices) : Prop where
  marks : ∀ d ∈ devices, ∀ d' ∈ devices', d'.id = d.id → d' = d ∨
    (d' = { d with status := .offline } ∧
      d.lastHeartbeat < now - heartbeatTimeoutSeconds * 1000000)
  online : ∀ d ∈ devices', d.status = .online →
    now - (heartbeatTimeoutSeconds + 1) * 1000000 < d.lastHeartbeat

def SweepHolds (s : Connections.State) : Event → Connections.State → Prop
  | .sweep now, s' => Swept s.devices now s'.devices
  | _, _ => True

/-- The moments in the table are written with years of four digits. -/
def Dated (devices : Devices) : Prop := ∀ d ∈ devices, Python.InYears d.lastHeartbeat

theorem sweep_swept {devices : Devices} {now : DateTime} (hdated : Dated devices)
    (hnow : Python.InYears now) : Swept devices now (sweep devices now) := by
  have hn : heartbeatTimeoutSeconds ≤ 86400 := by decide
  refine ⟨fun d hd d' hd' hid => ?_, fun d hd honline => ?_⟩
  · rcases mem_sweep.mp hd' with ⟨d₀, hd₀, rfl⟩
    have hsame : d₀ = d := by
      refine devices.eq_of_key_eq hd₀ hd ?_
      rw [← hid]
      split <;> rfl
    subst hsame
    by_cases hsilent : isSilent
        (Python.strftime (now - heartbeatTimeoutSeconds * 1000000)) d₀ = true
    · rw [if_pos hsilent]
      unfold isSilent at hsilent
      rw [Bool.and_eq_true] at hsilent
      exact .inr ⟨rfl, Python.lt_of_storedText_lt (hdated d₀ hd) hnow hn
        (Sqlite.textLess_iff.mp hsilent.2)⟩
    · exact .inl (if_neg hsilent)
  · rcases mem_sweep.mp hd with ⟨d₀, hd₀, rfl⟩
    by_cases hsilent : isSilent
        (Python.strftime (now - heartbeatTimeoutSeconds * 1000000)) d₀ = true
    · rw [if_pos hsilent] at honline
      cases honline
    · rw [if_neg hsilent] at honline ⊢
      -- an online device is spared for its heartbeat only
      refine Python.lt_of_not_storedText_lt (hdated d₀ hd₀) hnow hn fun hless => hsilent ?_
      unfold isSilent
      rw [Bool.and_eq_true, decide_eq_true_eq, DeviceStatus.name_injective.eq_iff]
      exact ⟨honline, Sqlite.textLess_iff.mpr hless⟩

/-! ## The moments in the table -/

section Dates

variable {config : Config} {devices : Devices} (hdated : Dated devices)
include hdated

theorem Dated.updateKey {key : String} {f : Device → Device} (hf : ∀ d, (f d).id = d.id)
    {now : DateTime} (hnow : Python.InYears now) (htime : ∀ d, (f d).lastHeartbeat = now) :
    Dated (devices.updateKey key f hf) := by
  intro d hd
  rcases Table.mem_updateKey.mp hd with ⟨d₀, hd₀, rfl⟩
  split
  · rw [htime]
    exact hnow
  · exact hdated d₀ hd₀

theorem Dated.heartbeat {payload : HeartbeatRequest} {headers : Headers} {draw : Draw}
    (hnow : Python.InYears draw.now) :
    Dated (agentHeartbeat config devices payload headers draw).1 := by
  have hcase := handleHeartbeat_outcome config devices payload headers (bearerToken headers) draw
  rw [agentHeartbeat]
  generalize handleHeartbeat config devices payload headers (bearerToken headers) draw = answer
    at hcase
  cases hcase with
  | updated device =>
      exact hdated.updateKey (fun d => refreshDevice_id d payload draw.now) hnow
        fun _ => refreshDevice_lastHeartbeat _ _ _
  | reEnrolled device =>
      exact hdated.updateKey (fun d => adoptDevice_id d payload _ draw.now) hnow
        fun _ => adoptDevice_lastHeartbeat _ _ _ _
  | created devices' hmatch hsecret hbinds hinsert =>
      intro d hd
      rcases (Table.mem_insert? hinsert).mp hd with hold | rfl
      · exact hdated d hold
      · rw [registerDevice_lastHeartbeat]
        exact hnow
  | _ => exact hdated

theorem Dated.recover {payload : RecoverRequest} {headers : Headers} {now : DateTime}
    (hnow : Python.InYears now) : Dated (agentRecover devices payload headers now).1 := by
  unfold agentRecover
  split
  · exact hdated
  · split
    · exact hdated
    · exact hdated.updateKey (fun d => recoverDevice_id d payload now) hnow fun _ => rfl

theorem Dated.sweep {now : DateTime} : Dated (sweep devices now) := by
  intro d hd
  rcases mem_sweep.mp hd with ⟨d₀, hd₀, rfl⟩
  have hd₀' := hdated d₀ hd₀
  split
  · exact hd₀'
  · exact hd₀'

end Dates

theorem Dated.commitStatus {s : Connections.State} (hdated : Dated s.devices) (device : String)
    (status : DeviceStatus) {now : DateTime} (hnow : Python.InYears now) :
    Dated (s.commitStatus device status now).devices := by
  have hid : ∀ d : Device, ({ d with status := status, lastHeartbeat := now } : Device).id = d.id :=
    fun _ => rfl
  exact hdated.updateKey hid hnow fun _ => rfl

theorem step_dated {config : Config} {s s' : Connections.State} {e : Event}
    (h : step config s e = some s') (hdated : Dated s.devices) : Dated s'.devices := by
  unfold step at h
  split at h
  · rename_i htimes
    cases e with
    | heartbeat payload headers draw =>
        cases h
        exact hdated.heartbeat (htimes draw.now List.mem_cons_self)
    | recover payload headers now =>
        cases h
        exact hdated.recover (htimes now List.mem_cons_self)
    | socket event =>
        rcases Connections.step_devices h with ⟨hsame, _⟩ | ⟨k, c, now, _, hset⟩
        · rw [hsame]
          exact hdated
        · rcases hset with ⟨rfl, hset⟩ | ⟨rfl, hset⟩
          · rw [hset]
            exact hdated.commitStatus c.device _ (htimes now List.mem_cons_self)
          · rw [hset]
            exact hdated.commitStatus c.device _ (htimes now List.mem_cons_self)
    | sweep now =>
        cases h
        exact hdated.sweep
  · cases h

theorem step_sweepHolds {config : Config} {s s' : Connections.State} {e : Event}
    (h : step config s e = some s') (hdated : Dated s.devices) : SweepHolds s e s' := by
  cases e with
  | sweep now =>
      unfold step at h
      split at h
      · rename_i htimes
        cases h
        exact sweep_swept hdated (htimes now List.mem_cons_self)
      · cases h
  | _ => exact trivial

/-- **Online means recently heard of.**  Along every run, at any moments of the years 1000 to 9999,
a sweep marks offline only devices that were not heard of for 15 seconds, and the devices that are
online behind it were heard of less than 16 seconds ago.  The bound is on the moments, so in the
first 15 seconds of the year 1000 the cutoff is of the year 999, written with four digits too. -/
theorem sweeps_hold (config : Config) (s : Connections.State) (hdated : Dated s.devices)
    (events : List Event) : Along (step config) SweepHolds s events := by
  have hstep : ∀ s e s', step config s e = some s' → Dated s.devices →
      Dated s'.devices ∧ SweepHolds s e s' :=
    fun _ _ _ h hdated => ⟨step_dated h hdated, step_sweepHolds h hdated⟩
  exact along_of_step hstep hdated

/-! ### A device that was heard of sixteen seconds ago -/

/-- The last second of the year 2024. -/
def newYearsEve : DateTime := 63871286399000000

def lastHeard : HeartbeatRequest where
  deviceId := none
  hostname := "pc"
  os := "Windows"
  ip := "10.0.0.5"
  rearmCount := 3
  status := "online"
  agentVersion := "1.4.5"
  timestamp := 0

/-- A device is heard of once, and the sweeps come 15.5 and 16 seconds later. -/
def silentRun : List Event :=
  [.heartbeat lastHeard { xEnrollSecret := some "s" } { issuedDraw with now := newYearsEve },
    .sweep (newYearsEve + 15500000), .sweep (newYearsEve + 16000000)]

theorem sweeps_hold_silent :
    (exec (step exampleConfig) (Connections.start .empty) silentRun).map
        (fun s => s.devices.rows.map Device.status) = some [.offline] ∧
      Along (step exampleConfig) SweepHolds (Connections.start .empty) silentRun :=
  ⟨by decide, sweeps_hold exampleConfig (Connections.start .empty)
    (fun d hd => absurd hd (Table.not_mem_empty d)) silentRun⟩

end LanAgent.HeartbeatTimeout
