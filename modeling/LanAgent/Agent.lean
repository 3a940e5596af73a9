import LanAgent.AgentRoutes

/-!
# The agent — `agent/heartbeat.go` and `agent/sysinfo.go`

The hardware information an agent collects and caches, and the heartbeat it makes of the cache and
of what it reads of its machine.  What a call reads from outside, the clock and a collection
included, is an argument.
-/

namespace LanAgent

open Sqlite

/-- Go's `int` on the 64-bit builds. -/
abbrev GoInt := { n : Int // fitsInt64 n = true }

/-! ## Hardware information -/

/-- What `collectSysInfo` returns; its texts as `json.Marshal` writes them, with U+FFFD for bytes
that are no UTF-8. -/
structure SysInfo where
  cpuModel : String
  cpuCores : GoInt
  memoryTotalMb : GoInt
  diskTotalGb : GoInt
  diskFreeGb : GoInt
  osVersion : String
  serialNumber : String
  macAddress : String
  manufacturer : String
  model : String
  deriving DecidableEq

/-- `omitempty` of a text. -/
def omitEmpty (s : String) : Option String := if s = "" then none else some s

/-- `omitempty` of a number. -/
def omitZero (n : GoInt) : Option Int := if n.val = 0 then none else some n.val

theorem fitsColumn_omitZero (n : GoInt) : fitsColumn (.ofInteger (omitZero n)) = true := by
  unfold omitZero
  split
  · rfl
  · exact n.property

theorem fitsColumn_ofText (s : Option String) : fitsColumn (.ofText s) = true := by
  cases s <;> rfl

/-- The JSON of a collection, as the server reads it: a query that failed leaves out its member. -/
def SysInfo.payload (info : SysInfo) : SysInfoPayload where
  cpuModel := omitEmpty info.cpuModel
  cpuCores := omitZero info.cpuCores
  memoryTotalMb := omitZero info.memoryTotalMb
  diskTotalGb := omitZero info.diskTotalGb
  diskFreeGb := omitZero info.diskFreeGb
  osVersion := omitEmpty info.osVersion
  serialNumber := omitEmpty info.serialNumber
  macAddress := omitEmpty info.macAddress
  manufacturer := omitEmpty info.manufacturer
  model := omitEmpty info.model

/-- `sysInfoCache`, once it is filled. -/
structure Collection where
  info : SysInfo
  collected : DateTime
  deriving DecidableEq

def sysInfoRefreshInterval : Int := seconds (6 * 60 * 60)

/-- `getSysInfo`: what it returns and the cache it leaves; `reading` is the collection it would make
now. -/
def getSysInfo (force : Bool) (cache : Option Collection) (now : DateTime) (reading : Collection) :
    Option SysInfo × Option Collection :=
  match cache with
  | some c =>
      if !force && now - c.collected < sysInfoRefreshInterval then (none, some c)
      else (some reading.info, some reading)
  | none => (some reading.info, some reading)

/-- Either the collection is made and returned, or the cache is still valid and nothing is. -/
theorem getSysInfo_cases (force : Bool) (cache : Option Collection) (now : DateTime)
    (reading : Collection) :
    getSysInfo force cache now reading = (some reading.info, some reading) ∨
      (∃ c, cache = some c) ∧ getSysInfo force cache now reading = (none, cache) := by
  unfold getSysInfo
  cases cache with
  | none => exact .inl rfl
  | some c =>
      dsimp only
      split
      · exact .inr ⟨⟨c, rfl⟩, rfl⟩
      · exact .inl rfl

/-- The collection that a `hostmsg` command makes when it has no text and nothing is cached. -/
def hostmsgCache (cache : Option Collection) (message : String) (now : DateTime)
    (reading : Collection) : Option Collection :=
  if message = "" then
    match cache with
    | some c => some c
    | none => (getSysInfo true cache now reading).2
  else cache

/-! ## Heartbeats -/

/-- `Config` of the agent. -/
structure AgentConfig where
  serverUrl : String
  deviceId : String
  token : String
  enrollSecret : String

/-- What `sendHeartbeat` reads of the machine. -/
structure Machine where
  hostname : String
  os : String
  ip : String
  rearmCount : GoInt
  agentVersion : String
  timestamp : Int

def heartbeatPayload (cfg : AgentConfig) (machine : Machine) (status : String)
    (info : Option SysInfo) : HeartbeatRequest where
  deviceId := some cfg.deviceId
  hostname := machine.hostname
  os := machine.os
  ip := machine.ip
  rearmCount := machine.rearmCount.val
  status := status
  agentVersion := machine.agentVersion
  timestamp := machine.timestamp
  sysinfo := info.map SysInfo.payload

def heartbeatHeaders (cfg : AgentConfig) : Headers where
  authorization := some ("Bearer " ++ cfg.token)
  xEnrollSecret := if cfg.enrollSecret ≠ "" then some cfg.enrollSecret else none

theorem bearerToken_heartbeatHeaders (cfg : AgentConfig) :
    bearerToken (heartbeatHeaders cfg) = cfg.token := by
  have hlength : ("Bearer " : String).toList.length = 7 := by decide
  rw [bearerToken, heartbeatHeaders]
  dsimp only [Option.getD_some]
  rw [if_pos, Python.dropChars, String.toList_append, ← hlength, List.drop_left,
    String.ofList_toList]
  rw [Python.startsWith, String.toList_append, List.isPrefixOf_iff_prefix]
  exact List.prefix_append _ _

/-- **A heartbeat of the agent can be stored**: all its numbers are of 64 bits. -/
theorem heartbeatPayload_binds (cfg : AgentConfig) (machine : Machine) (status : String)
    (info : Option SysInfo) : (heartbeatPayload cfg machine status info).binds = true := by
  unfold HeartbeatRequest.binds heartbeatPayload
  rw [Bool.and_eq_true]
  refine ⟨machine.rearmCount.property, ?_⟩
  cases info with
  | none => rfl
  | some info =>
      show HwField.all.all (fun f => fitsColumn (info.payload.column f)) = true
      rw [List.all_eq_true]
      intro f _
      cases f <;> first | exact fitsColumn_omitZero _ | exact fitsColumn_ofText _

/-- The device id of an answer is kept. -/
def saveDeviceId (cfg : AgentConfig) (deviceId : String) : AgentConfig :=
  if deviceId ≠ "" ∧ cfg.deviceId ≠ deviceId then { cfg with deviceId := deviceId } else cfg

end LanAgent
