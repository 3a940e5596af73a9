import LanAgent.Agent
import LanAgent.Go.Truncated
import LanAgent.Install
import LanAgent.Library.Runs

/-!
# The configuration of an agent — `agent/config.go`

The installer writes `config.json`, every start of the service reads it, and a heartbeat that is
answered with another device id writes it anew, byte after byte and over the old one, while the
reconnecting socket may read it.  `load_written_iff` says what can be read of such a file, and
`identity_kept` and `config_loads` what an agent is through all its starts, crashes included.
-/

namespace LanAgent.ConfigFile

open Go Install Library.Runs Sqlite

/-! ## Writing and reading -/

/-- `Config`, with the fields that nothing else reads. -/
structure StoredConfig extends AgentConfig where
  agentName : String
  listenPort : GoInt

theorem fitsInt64_zero : fitsInt64 0 = true := by decide

def zeroPort : GoInt := ⟨0, fitsInt64_zero⟩

/-- The fields under their names in `config.json`. -/
def StoredConfig.members (cfg : StoredConfig) : List (String × JsonScalar) :=
  [("server_url", .text cfg.serverUrl), ("token", .text cfg.token),
    ("device_id", .text cfg.deviceId), ("agent_name", .text cfg.agentName),
    ("listen_port", .int cfg.listenPort.val), ("enroll_secret", .text cfg.enrollSecret)]

/-- What `SaveConfig` writes. -/
def configData (cfg : StoredConfig) : GoString := ofString (marshalIndent cfg.members)

/-- A number that an `int` of 64 bits holds. -/
def readGoInt (value : JsonValue) : Option GoInt :=
  match value.readInt with
  | none => none
  | some n => if h : fitsInt64 n = true then some ⟨n, h⟩ else none

inductive LoadError where
  | read
  | decode
  /-- `server_url and token are required` -/
  | required
  deriving DecidableEq, Repr

/-- The fields of the object; `none` where a value has another type. -/
def decodeFields (members : List (String × JsonValue)) : Option StoredConfig :=
  match decodeField JsonValue.readText "" (fieldValues members "server_url"),
    decodeField JsonValue.readText "" (fieldValues members "token"),
    decodeField JsonValue.readText "" (fieldValues members "device_id"),
    decodeField JsonValue.readText "" (fieldValues members "agent_name"),
    decodeField readGoInt zeroPort (fieldValues members "listen_port"),
    decodeField JsonValue.readText "" (fieldValues members "enroll_secret") with
  | (serverUrl, true), (token, true), (deviceId, true), (agentName, true), (listenPort, true),
      (enrollSecret, true) =>
      some ⟨⟨serverUrl, deviceId, token, enrollSecret⟩, agentName, listenPort⟩
  | _, _, _, _, _, _ => none

/-- `json.Unmarshal(data, &cfg)` -/
def unmarshalConfig (data : GoString) : Option StoredConfig :=
  match decode (toText data) with
  | some (.object members) => decodeFields members
  -- `null` leaves the fields empty
  | some .null => some ⟨⟨"", "", "", ""⟩, "", zeroPort⟩
  | _ => none

/-- `LoadConfig` of the contents of the file, `none` where it cannot be read. -/
def loadConfig (file : Option GoString) : Except LoadError StoredConfig :=
  match file with
  | none => .error .read
  | some data =>
      match unmarshalConfig data with
      | none => .error .decode
      | some cfg => if cfg.serverUrl = "" ∨ cfg.token = "" then .error .required else .ok cfg

/-! ## What is read of what was written -/

theorem readGoInt_int (n : GoInt) : readGoInt (.int n.val) = some n := by
  unfold readGoInt
  exact dif_pos n.property

theorem configData_pos (cfg : StoredConfig) : 0 < (configData cfg).length := by
  have hopen : String.utf8EncodeChar '{' = [0x7b] := by decide
  rw [configData, StoredConfig.members, marshalIndent_cons, ofString_ofList, List.flatMap_cons,
    hopen]
  exact Nat.succ_pos _

theorem unmarshalConfig_configData (cfg : StoredConfig) :
    unmarshalConfig (configData cfg) = some cfg := by
  have hdecode : decode (toText (configData cfg)) =
      some (.object (cfg.members.map fun m => (m.1, m.2.decoded))) := by
    rw [configData, toText_ofString]
    exact decode_marshalIndent _ _
  have hport : decodeField readGoInt zeroPort [(JsonScalar.int cfg.listenPort.val).decoded] =
      (cfg.listenPort, true) := by
    rw [decodeField, List.foldl_cons, List.foldl_nil]
    dsimp only [JsonScalar.decoded]
    rw [readGoInt_int]
  -- no key is a spelling of another
  have hnodup : (((cfg.members.map fun m => (m.1, m.2.decoded)).map
      fun m => m.1.toList.map foldKeyChar)).Nodup := by
    have hkeys : ((cfg.members.map fun m => (m.1, m.2.decoded)).map
        fun m => m.1.toList.map foldKeyChar) = ["server_url", "token", "device_id", "agent_name",
          "listen_port", "enroll_secret"].map fun key => key.toList.map foldKeyChar := rfl
    rw [hkeys]
    decide
  have hfield : ∀ key value, (key, value) ∈ cfg.members →
      fieldValues (cfg.members.map fun m => (m.1, m.2.decoded)) key = [value.decoded] :=
    fun key value h => fieldValues_of_nodup hnodup
      (List.mem_map_of_mem (f := fun m : String × JsonScalar => (m.1, m.2.decoded)) h)
  rw [unmarshalConfig, hdecode]
  dsimp only
  rw [decodeFields, hfield "server_url" (.text cfg.serverUrl) (by simp [StoredConfig.members]),
    hfield "token" (.text cfg.token) (by simp [StoredConfig.members]),
    hfield "device_id" (.text cfg.deviceId) (by simp [StoredConfig.members]),
    hfield "agent_name" (.text cfg.agentName) (by simp [StoredConfig.members]),
    hfield "listen_port" (.int cfg.listenPort.val) (by simp [StoredConfig.members]),
    hfield "enroll_secret" (.text cfg.enrollSecret) (by simp [StoredConfig.members]), hport]
  rfl

theorem unmarshalConfig_part (cfg : StoredConfig) {k : Nat} (hk : k < (configData cfg).length) :
    unmarshalConfig ((configData cfg).take k) = none := by
  have hdecode : decode (toText ((configData cfg).take k)) = none := decode_truncated _ _ hk
  rw [unmarshalConfig, hdecode]

/-- **A configuration is read back as it was written, or not at all**: part of the file is never
taken for a configuration, whichever part it is. -/
theorem load_written_iff (cfg loaded : StoredConfig) (k : Nat) :
    loadConfig (some ((configData cfg).take k)) = .ok loaded ↔
      (configData cfg).length ≤ k ∧ cfg.serverUrl ≠ "" ∧ cfg.token ≠ "" ∧ loaded = cfg := by
  rw [loadConfig]
  by_cases hk : k < (configData cfg).length
  · rw [unmarshalConfig_part cfg hk]
    exact ⟨nofun, fun h => absurd h.1 (Nat.not_le.mpr hk)⟩
  · rw [List.take_of_length_le (Nat.not_lt.mp hk), unmarshalConfig_configData]
    dsimp only
    split
    · rename_i hempty
      exact ⟨nofun, fun h => absurd hempty (not_or.mpr ⟨h.2.1, h.2.2.1⟩)⟩
    · rename_i hgiven
      rw [not_or] at hgiven
      apply Iff.intro
      · intro h
        cases h
        exact ⟨Nat.not_lt.mp hk, hgiven.1, hgiven.2, rfl⟩
      · rintro ⟨-, -, -, rfl⟩
        rfl

/-! ## The file and the service over time -/

structure State where
  /-- The contents of `config.json`, where it can be read. -/
  file : Option GoString
  /-- `s.cfg` of the service, while it runs. -/
  cfg : Option StoredConfig
  /-- What `SaveConfig` has still to write. -/
  unwritten : Option GoString
  /-- The device ids that heartbeats were answered with. -/
  answered : List String

inductive Event where
  /-- The service is started. -/
  | start
  /-- A heartbeat ends, with the device id of its answer, empty where there is none; the file can be
  opened for another configuration. -/
  | answer (deviceId : String) (opened : Bool)
  /-- The next bytes get into the file. -/
  | write (n : Nat)
  /-- Writing fails. -/
  | fail
  /-- The service ends, and a write it is in with it. -/
  | stop
  deriving DecidableEq

/-- After an installation. -/
def installed (params : InstallParams) : State := ⟨some (cfgData params), none, none, []⟩

def step (s : State) : Event → Option State
  | .start =>
      match s.cfg with
      | some _ => none
      | none => some { s with cfg := (loadConfig s.file).toOption }
  | .answer deviceId opened =>
      match s.cfg, s.unwritten with
      | some cfg, none =>
          let saved := { cfg with toAgentConfig := saveDeviceId cfg.toAgentConfig deviceId }
          let s := { s with cfg := some saved, answered := deviceId :: s.answered }
          if deviceId ≠ "" ∧ cfg.deviceId ≠ deviceId ∧ opened = true then
            some { s with file := some [], unwritten := some (configData saved) }
          else some s
      | _, _ => none
  | .write n =>
      match s.file, s.unwritten with
      | some file, some data =>
          some { s with
            file := some (file ++ data.take n)
            unwritten := if data.length ≤ n then none else some (data.drop n) }
      | _, _ => none
  | .fail =>
      match s.unwritten with
      | none => none
      | some _ => some { s with unwritten := none }
  | .stop =>
      match s.cfg with
      | none => none
      | some _ => some { s with cfg := none, unwritten := none }

/-- The configuration of an installation, under a device id that it was given. -/
structure Installed (params : InstallParams) (answered : List String) (cfg : StoredConfig) :
    Prop where
  serverUrl : cfg.serverUrl = params.serverUrl
  token : cfg.token = params.token
  enrollSecret : cfg.enrollSecret = params.enrollSecret
  agentName : cfg.agentName = ""
  listenPort : cfg.listenPort = zeroPort
  deviceId : cfg.deviceId = "" ∨ cfg.deviceId ∈ answered

theorem Installed.saveDeviceId {params : InstallParams} {answered : List String}
    {cfg : StoredConfig} (h : Installed params answered cfg) (deviceId : String) :
    Installed params (deviceId :: answered)
      { cfg with toAgentConfig := saveDeviceId cfg.toAgentConfig deviceId } := by
  have hkept : cfg.deviceId = "" ∨ cfg.deviceId ∈ deviceId :: answered :=
    h.deviceId.imp_right (List.mem_cons_of_mem _)
  unfold LanAgent.saveDeviceId
  split
  · exact ⟨h.serverUrl, h.token, h.enrollSecret, h.agentName, h.listenPort,
      .inr List.mem_cons_self⟩
  · exact ⟨h.serverUrl, h.token, h.enrollSecret, h.agentName, h.listenPort, hkept⟩

/-- The file holds the first bytes of a configuration, and a write that goes on writes the rest of
it. -/
structure Inv (params : InstallParams) (s : State) : Prop where
  cfg : ∀ cfg ∈ s.cfg, Installed params s.answered cfg
  file : ∃ cfg k, Installed params s.answered cfg ∧ s.file = some ((configData cfg).take k) ∧
    ∀ rest ∈ s.unwritten, rest = (configData cfg).drop k
  stopped : s.cfg = none → s.unwritten = none

def firstConfig (params : InstallParams) : StoredConfig :=
  ⟨⟨params.serverUrl, "", params.token, params.enrollSecret⟩, "", zeroPort⟩

theorem cfgData_eq (params : InstallParams) : cfgData params = configData (firstConfig params) := by
  rw [cfgData, configData]
  exact congrArg (fun members => ofString (marshalIndent members)) rfl

theorem load_firstConfig {params : InstallParams} (hserver : params.serverUrl ≠ "")
    (htoken : params.token ≠ "") :
    loadConfig (some (cfgData params)) = .ok (firstConfig params) := by
  rw [cfgData_eq, ← List.take_length (l := configData (firstConfig params))]
  exact (load_written_iff _ _ _).mpr ⟨le_rfl, hserver, htoken, rfl⟩

theorem installed_firstConfig (params : InstallParams) (answered : List String) :
    Installed params answered (firstConfig params) :=
  ⟨rfl, rfl, rfl, rfl, rfl, .inl rfl⟩

theorem inv_installed (params : InstallParams) : Inv params (installed params) := by
  have hfile : (installed params).file = some (cfgData params) := rfl
  refine ⟨?_, ⟨firstConfig params, (cfgData params).length, installed_firstConfig params _, ?_, ?_⟩,
    fun _ => rfl⟩
  · intro cfg hcfg
    exact absurd hcfg (Option.not_mem_none cfg)
  · rw [hfile, ← cfgData_eq, List.take_length]
  · intro rest hrest
    exact absurd hrest (Option.not_mem_none rest)

theorem Inv.loaded {params : InstallParams} {s : State} (h : Inv params s) {cfg : StoredConfig}
    (hload : loadConfig s.file = .ok cfg) : Installed params s.answered cfg := by
  obtain ⟨written, k, hwritten, hfile, -⟩ := h.file
  rw [hfile] at hload
  obtain ⟨-, -, -, rfl⟩ := (load_written_iff written cfg k).mp hload
  exact hwritten

theorem step_inv {params : InstallParams} {s s' : State} {e : Event} (hstep : step s e = some s')
    (h : Inv params s) : Inv params s' := by
  cases e with
  | start =>
      rw [step] at hstep
      split at hstep
      · cases hstep
      · obtain rfl := Option.some.inj hstep
        rename_i hstopped
        refine ⟨fun cfg hcfg => ?_, h.file, fun _ => h.stopped hstopped⟩
        cases hload : loadConfig s.file with
        | error e =>
            dsimp only at hcfg
            rw [hload] at hcfg
            cases hcfg
        | ok loaded =>
            dsimp only at hcfg
            rw [hload] at hcfg
            cases hcfg
            exact h.loaded hload
  | answer deviceId opened =>
      rw [step] at hstep
      split at hstep
      · rename_i cfg hcfg hunwritten
        have hsaved := (h.cfg cfg hcfg).saveDeviceId deviceId
        dsimp only at hstep
        split at hstep
        · obtain rfl := Option.some.inj hstep
          refine ⟨?_, ⟨_, 0, hsaved, by rw [List.take_zero], ?_⟩,
            fun hnone => absurd hnone (Option.some_ne_none _)⟩
          · intro saved hmem
            exact Option.some.inj hmem ▸ hsaved
          · intro rest hrest
            rw [List.drop_zero]
            exact (Option.some.inj hrest).symm
        · obtain rfl := Option.some.inj hstep
          obtain ⟨written, k, hwritten, hfile, -⟩ := h.file
          refine ⟨?_, ⟨written, k, ?_, hfile, ?_⟩,
            fun hnone => absurd hnone (Option.some_ne_none _)⟩
          · intro saved hmem
            exact Option.some.inj hmem ▸ hsaved
          · exact { hwritten with
              deviceId := hwritten.deviceId.imp_right (List.mem_cons_of_mem _) }
          · rw [hunwritten]
            nofun
      · cases hstep
  | write n =>
      rw [step] at hstep
      split at hstep
      · rename_i file data hfile hdata
        obtain rfl := Option.some.inj hstep
        obtain ⟨written, k, hwritten, htake, hrest⟩ := h.file
        obtain rfl := hrest data hdata
        rw [hfile, Option.some.injEq] at htake
        refine ⟨h.cfg, ⟨written, k + n, hwritten, ?_, ?_⟩, fun hnone => ?_⟩
        · rw [htake, List.take_add]
        · intro rest hmem
          dsimp only at hmem
          split at hmem
          · cases hmem
          · cases hmem
            rw [List.drop_drop]
        · rw [h.stopped hnone] at hdata
          cases hdata
      · cases hstep
  | fail =>
      rw [step] at hstep
      split at hstep
      · cases hstep
      · obtain rfl := Option.some.inj hstep
        obtain ⟨written, k, hwritten, hfile, -⟩ := h.file
        exact ⟨h.cfg, ⟨written, k, hwritten, hfile,
          fun _ hrest => absurd hrest (Option.not_mem_none _)⟩, fun _ => rfl⟩
  | stop =>
      rw [step] at hstep
      split at hstep
      · cases hstep
      · obtain rfl := Option.some.inj hstep
        obtain ⟨written, k, hwritten, hfile, -⟩ := h.file
        exact ⟨fun _ hcfg => absurd hcfg (Option.not_mem_none _), ⟨written, k, hwritten, hfile,
          fun _ hrest => absurd hrest (Option.not_mem_none _)⟩, fun _ => rfl⟩

/-- **An agent stays who it is**: whatever it is answered, however often it is started and wherever
its writes break off, the configuration in use and the one in the file, if there is one in it, have
the server, the token and the secret of the installation and a device id that was answered. -/
theorem identity_kept (params : InstallParams) {events : List Event} {s : State}
    (hrun : exec step (installed params) events = some s) (cfg : StoredConfig)
    (h : s.cfg = some cfg ∨ loadConfig s.file = .ok cfg) : Installed params s.answered cfg := by
  have hinv : Inv params s :=
    exec_of_step (fun _ _ _ hstep h => step_inv hstep h) (inv_installed params) hrun
  rcases h with hcfg | hload
  · exact hinv.cfg cfg hcfg
  · exact hinv.loaded hload

/-- No write breaks off. -/
def Unbroken (s : State) (e : Event) (_ : State) : Prop :=
  s.unwritten ≠ none → e ≠ .fail ∧ e ≠ .stop

/-- Outside of a write there is a whole configuration in the file. -/
structure Whole (params : InstallParams) (s : State) : Prop where
  inv : Inv params s
  file : s.unwritten = none →
    ∃ cfg, Installed params s.answered cfg ∧ s.file = some (configData cfg)

theorem whole_installed (params : InstallParams) : Whole params (installed params) := by
  refine ⟨inv_installed params, fun _ => ⟨firstConfig params, installed_firstConfig params _, ?_⟩⟩
  show some (cfgData params) = _
  rw [cfgData_eq]

theorem step_whole {params : InstallParams} {s s' : State} {e : Event}
    (hstep : step s e = some s') (h : Whole params s) (hguard : Unbroken s e s') :
    Whole params s' := by
  refine ⟨step_inv hstep h.inv, fun hidle => ?_⟩
  cases e with
  | start =>
      rw [step] at hstep
      split at hstep
      · cases hstep
      · obtain rfl := Option.some.inj hstep
        exact h.file hidle
  | answer deviceId opened =>
      rw [step] at hstep
      split at hstep
      · rename_i cfg hcfg hunwritten
        dsimp only at hstep
        split at hstep
        · obtain rfl := Option.some.inj hstep
          exact absurd hidle (Option.some_ne_none _)
        · obtain rfl := Option.some.inj hstep
          obtain ⟨written, hwritten, hfile⟩ := h.file hunwritten
          exact ⟨written, { hwritten with
            deviceId := hwritten.deviceId.imp_right (List.mem_cons_of_mem _) }, hfile⟩
      · cases hstep
  | write n =>
      rw [step] at hstep
      split at hstep
      · rename_i file data hfile hdata
        obtain rfl := Option.some.inj hstep
        obtain ⟨written, k, hwritten, htake, hrest⟩ := h.inv.file
        obtain rfl := hrest data hdata
        rw [hfile, Option.some.injEq] at htake
        refine ⟨written, hwritten, ?_⟩
        have hlast : ((configData written).drop k).length ≤ n := by
          by_contra hmore
          dsimp only at hidle
          rw [if_neg hmore] at hidle
          cases hidle
        show some (file ++ ((configData written).drop k).take n) = _
        rw [htake, List.take_of_length_le hlast, List.take_append_drop]
      · cases hstep
  | fail =>
      rw [step] at hstep
      split at hstep
      · cases hstep
      · rename_i data hdata
        exact absurd rfl (hguard (hdata ▸ Option.some_ne_none _)).1
  | stop =>
      rw [step] at hstep
      split at hstep
      · cases hstep
      · obtain rfl := Option.some.inj hstep
        cases hdata : s.unwritten with
        | none => exact h.file hdata
        | some data => exact absurd rfl (hguard (hdata ▸ Option.some_ne_none _)).2

/-- **Unless a write breaks off**, the service can be started whenever none goes on. -/
theorem config_loads (params : InstallParams) (hserver : params.serverUrl ≠ "")
    (htoken : params.token ≠ "") {events : List Event} {s : State}
    (hrun : exec step (installed params) events = some s)
    (hunbroken : Along step Unbroken (installed params) events) (hidle : s.unwritten = none) :
    ∃ cfg, loadConfig s.file = .ok cfg ∧ Installed params s.answered cfg := by
  have hwhole : Whole params s :=
    exec_of_along (fun _ _ _ => step_whole) (whole_installed params) hunbroken hrun
  obtain ⟨cfg, hcfg, hfile⟩ := hwhole.file hidle
  refine ⟨cfg, ?_, hcfg⟩
  rw [hfile, ← List.take_length (l := configData cfg)]
  refine (load_written_iff cfg cfg _).mpr ⟨le_rfl, ?_, ?_, rfl⟩
  · exact hcfg.serverUrl ▸ hserver
  · exact hcfg.token ▸ htoken

/-- The file holds a proper first part of a configuration. -/
def Partial (file : Option GoString) : Prop :=
  ∃ cfg k, k < (configData cfg).length ∧ file = some ((configData cfg).take k)

/-- A whole configuration is loaded by the next start. -/
theorem start_of_not_partial {params : InstallParams} (hserver : params.serverUrl ≠ "")
    (htoken : params.token ≠ "") {s : State} (hinv : Inv params s) (hstopped : s.cfg = none)
    (hwhole : ¬Partial s.file) :
    ∃ cfg, exec step s [.start] = some { s with cfg := some cfg } := by
  obtain ⟨cfg, k, hcfg, hfile, -⟩ := hinv.file
  have hk : (configData cfg).length ≤ k := Nat.not_lt.mp fun hk => hwhole ⟨cfg, k, hk, hfile⟩
  have hload : loadConfig s.file = .ok cfg := by
    rw [hfile]
    refine (load_written_iff cfg cfg k).mpr ⟨hk, ?_, ?_, rfl⟩
    · exact hcfg.serverUrl ▸ hserver
    · exact hcfg.token ▸ htoken
  refine ⟨cfg, ?_⟩
  rw [exec, step, hstopped]
  dsimp only
  rw [hload]
  rfl

/-- **An agent is lost**, until it is installed anew, exactly when it has ended and its file holds
part of a configuration only; with another file an agent that has ended runs after one start. -/
theorem lost_iff (params : InstallParams) (hserver : params.serverUrl ≠ "")
    (htoken : params.token ≠ "") {events : List Event} {s : State}
    (hrun : exec step (installed params) events = some s) :
    ((∀ more s', exec step s more = some s' → s'.cfg = none) ↔ s.cfg = none ∧ Partial s.file) ∧
      (s.cfg = none → ¬Partial s.file →
        ∃ cfg, exec step s [.start] = some { s with cfg := some cfg }) := by
  have hinv : Inv params s :=
    exec_of_step (fun _ _ _ hstep h => step_inv hstep h) (inv_installed params) hrun
  have hstarts := start_of_not_partial hserver htoken hinv
  refine ⟨⟨?_, ?_⟩, hstarts⟩
  · intro hlost
    have hstopped : s.cfg = none := hlost [] s rfl
    refine ⟨hstopped, by_contra fun hwhole => ?_⟩
    obtain ⟨cfg, hstart⟩ := hstarts hstopped hwhole
    exact absurd (hlost [.start] _ hstart) (Option.some_ne_none _)
  · rintro ⟨hstopped, cfg, k, hk, hfile⟩ more s' hmore
    have hload : ∃ e, loadConfig s.file = .error e := by
      cases hload : loadConfig s.file with
      | error e => exact ⟨e, rfl⟩
      | ok loaded =>
          rw [hfile] at hload
          exact absurd ((load_written_iff cfg loaded k).mp hload).1 (Nat.not_le.mpr hk)
    obtain ⟨e, hload⟩ := hload
    have hkeep : ∀ s₁ e₁ s₂, step s₁ e₁ = some s₂ →
        s₁.cfg = none ∧ s₁.unwritten = none ∧ s₁.file = s.file →
          s₂.cfg = none ∧ s₂.unwritten = none ∧ s₂.file = s.file := by
      rintro s₁ e₁ s₂ hstep ⟨hcfg, hunwritten, hsame⟩
      cases e₁ with
      | start =>
          rw [step, hcfg, hsame, hload] at hstep
          obtain rfl := Option.some.inj hstep
          exact ⟨rfl, hunwritten, rfl⟩
      | answer deviceId opened =>
          rw [step, hcfg] at hstep
          cases hstep
      | write n =>
          rw [step, hunwritten, hsame, hfile] at hstep
          cases hstep
      | fail =>
          rw [step, hunwritten] at hstep
          cases hstep
      | stop =>
          rw [step, hcfg] at hstep
          cases hstep
    exact (exec_of_step hkeep ⟨hstopped, hinv.stopped hstopped, rfl⟩ hmore).1

/-! ## A first answer -/

def exampleParams : InstallParams := ⟨"http://10.0.0.1:8080", "t", "s"⟩

def exampleSaved : StoredConfig := { firstConfig exampleParams with deviceId := "d" }

/-- The first answer, at the moment at which the file has been emptied. -/
def emptied : State := ⟨some [], some exampleSaved, some (configData exampleSaved), ["d"]⟩

theorem exec_emptied :
    exec step (installed exampleParams) [.start, .answer "d" true] = some emptied := by
  have hload : loadConfig (some (cfgData exampleParams)) = .ok (firstConfig exampleParams) :=
    load_firstConfig (by decide) (by decide)
  have hstart : step (installed exampleParams) .start =
      some { installed exampleParams with cfg := some (firstConfig exampleParams) } := by
    have hfile : (installed exampleParams).file = some (cfgData exampleParams) := rfl
    rw [step, hfile, hload]
    rfl
  have hsaved : LanAgent.saveDeviceId (firstConfig exampleParams).toAgentConfig "d" =
      exampleSaved.toAgentConfig := if_pos (by decide)
  rw [exec, hstart]
  dsimp only
  rw [exec, step]
  dsimp only [installed]
  rw [hsaved, if_pos (by decide)]
  rfl

theorem exec_after_emptied (e : Event) : exec step (installed exampleParams)
    ([.start, .answer "d" true] ++ [e]) = step emptied e := by
  rw [exec_append, exec_emptied, Option.bind_some, exec]
  cases step emptied e <;> rfl

theorem identity_kept_answered : Installed exampleParams emptied.answered exampleSaved := by
  have hcfg : emptied.cfg = some exampleSaved := rfl
  exact identity_kept exampleParams exec_emptied exampleSaved (.inl hcfg)

theorem config_loads_written : ∃ cfg, loadConfig (some (configData exampleSaved)) = .ok cfg ∧
    Installed exampleParams ["d"] cfg := by
  have hwrite : step emptied (.write (configData exampleSaved).length) =
      some ⟨some (configData exampleSaved), some exampleSaved, none, ["d"]⟩ := by
    have hall : ∀ data cfg answered, step ⟨some [], cfg, some data, answered⟩ (.write data.length) =
        some ⟨some data, cfg, none, answered⟩ := by
      intro data cfg answered
      rw [step]
      dsimp only
      rw [if_pos le_rfl, List.nil_append, List.take_length]
    rw [emptied]
    exact hall (configData exampleSaved) (some exampleSaved) ["d"]
  have hunbroken : Along step Unbroken (installed exampleParams)
      ([.start, .answer "d" true] ++ [.write (configData exampleSaved).length]) := by
    have hevent : ∀ (s s' : State) (e : Event), e ≠ .fail ∧ e ≠ .stop → Unbroken s e s' :=
      fun _ _ _ he _ => he
    rw [List.cons_append, along_cons]
    refine fun s₁ _ => ⟨hevent _ _ _ ⟨nofun, nofun⟩, ?_⟩
    rw [List.cons_append, along_cons]
    refine fun s₂ _ => ⟨hevent _ _ _ ⟨nofun, nofun⟩, ?_⟩
    rw [List.nil_append, along_cons]
    exact fun s₃ _ => ⟨hevent _ _ _ ⟨nofun, nofun⟩, along_nil _ _⟩
  have hrun := (exec_after_emptied _).trans hwrite
  have hserver : exampleParams.serverUrl ≠ "" := by decide
  have htoken : exampleParams.token ≠ "" := by decide
  have hloads := config_loads exampleParams hserver htoken hrun hunbroken
  exact hloads rfl

/-- The service is ended at that moment. -/
def stopped : State := ⟨some [], none, none, ["d"]⟩

theorem lost_when_emptied :
    exec step (installed exampleParams) ([.start, .answer "d" true] ++ [.stop]) = some stopped ∧
      ∀ more s', exec step stopped more = some s' → s'.cfg = none := by
  have hstop : step emptied .stop = some stopped := by
    have hcfg : emptied.cfg = some exampleSaved := rfl
    rw [step, hcfg]
    rfl
  have hpart : 0 < (configData exampleSaved).length := configData_pos exampleSaved
  have hfile : stopped.file = some ((configData exampleSaved).take 0) := by
    rw [List.take_zero]
    rfl
  have hrun := (exec_after_emptied _).trans hstop
  exact ⟨hrun, (lost_iff exampleParams (by decide) (by decide) hrun).1.mpr
    ⟨rfl, exampleSaved, 0, hpart, hfile⟩⟩

end LanAgent.ConfigFile
