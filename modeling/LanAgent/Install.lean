import LanAgent.Go.Json
import LanAgent.Go.Strings

/-!
# Installation — `installService` of `agent/main.go`

The configuration is written first, then a service that is there already is stopped, its program
replaced and the service started again; every step returns on an error and undoes nothing.
`unharmed_iff` says for which outcomes of the steps an installation that fails leaves a running
agent as it was.
-/

namespace LanAgent.Install

open Go

/-! ## The machine -/

/-- The agent on a machine: its files, and its service with whether it runs. -/
structure Installation where
  config : Option GoString
  exe : Option GoString
  service : Option Bool
  deriving DecidableEq, Repr

def running (config exe : GoString) : Installation := ⟨some config, some exe, some true⟩

/-- How `os.WriteFile` ends. -/
inductive WriteOutcome where
  /-- The file is not opened. -/
  | refused
  /-- Writing or closing fails, when so many bytes have got into the file. -/
  | broken (written : Nat)
  | done
  deriving DecidableEq, Repr

/-- `os.WriteFile`: what the file holds, and whether there was no error.  The file is truncated
when it is opened. -/
def writeFile (outcome : WriteOutcome) (before : Option GoString) (data : GoString) :
    Option GoString × Bool :=
  match outcome with
  | .refused => (before, false)
  | .broken written => (some (data.take written), false)
  | .done => (some data, true)

/-- How the calls to the system end. -/
structure Outcomes where
  executable : Bool
  mkdirAll : Bool
  cmdMkdir : Bool
  writeConfig : WriteOutcome
  connect : Bool
  /-- A service that is there can be opened. -/
  openService : Bool
  /-- The stop request has an effect. -/
  stops : Bool
  readExe : Bool
  writeExe : WriteOutcome
  createService : Bool
  /-- A service that does not run can be started. -/
  start : Bool
  /-- The same at the second attempt. -/
  startAgain : Bool

inductive InstallError where
  | executable
  | directory
  | config
  | connect
  | replace
  | restart
  | copy
  | createService
  | start
  deriving DecidableEq, Repr

/-- The texts `installService` is called with. -/
structure InstallParams where
  serverUrl : String
  token : String
  enrollSecret : String

/-- The `config.json` that is written: the fields the parameters do not give are empty. -/
def cfgData (params : InstallParams) : GoString :=
  ofString (marshalIndent
    [("server_url", .text params.serverUrl), ("token", .text params.token), ("device_id", .text ""),
      ("agent_name", .text ""), ("listen_port", .int 0),
      ("enroll_secret", .text params.enrollSecret)])

/-! ## `installService` -/

section Steps

variable (o : Outcomes) (program : GoString)

def copyFile (exe : Option GoString) : Option GoString × Bool :=
  if o.readExe = false then (exe, false) else writeFile o.writeExe exe program

/-- A running service refuses to be started. -/
def startService (ok isRunning : Bool) : Bool × Bool :=
  if isRunning then (true, false) else (ok, ok)

def overwrite (inst : Installation) (isRunning : Bool) :
    Installation × Except InstallError Unit :=
  let isRunning := isRunning && !o.stops
  let copied := copyFile o program inst.exe
  if copied.2 = false then
    ({ inst with exe := copied.1, service := some isRunning }, .error .replace)
  else
    let started := startService o.start isRunning
    ({ inst with exe := copied.1, service := some started.1 },
      if started.2 then .ok () else .error .restart)

def installNew (inst : Installation) : Installation × Except InstallError Unit :=
  let copied := copyFile o program inst.exe
  let inst := { inst with exe := copied.1 }
  if copied.2 = false then (inst, .error .copy)
  -- the name of a service that is there is taken
  else if o.createService = false ∨ inst.service.isSome then (inst, .error .createService)
  else
    let ok := o.start || o.startAgain
    ({ inst with service := some ok }, if ok then .ok () else .error .start)

def installService (params : InstallParams) (inst : Installation) :
    Installation × Except InstallError Unit :=
  if o.executable = false then (inst, .error .executable)
  else if o.mkdirAll = false ∧ o.cmdMkdir = false then (inst, .error .directory)
  else
    let written := writeFile o.writeConfig inst.config (cfgData params)
    let inst := { inst with config := written.1 }
    if written.2 = false then (inst, .error .config)
    else if o.connect = false then (inst, .error .connect)
    else
      match inst.service with
      | some isRunning =>
          if o.openService then overwrite o program inst isRunning else installNew o program inst
      | none => installNew o program inst

end Steps

/-! ## The property and its condition -/

/-- After an error the agent runs as before. -/
def Unharmed (inst : Installation) (result : Installation × Except InstallError Unit) : Prop :=
  ∀ e, result.2 = .error e → result.1 = inst

/-- The bytes that get into the file are those that were in it. -/
def Keeps (outcome : WriteOutcome) (before data : GoString) : Prop :=
  match outcome with
  | .refused => True
  | .broken written => data.take written = before
  | .done => data = before

section Condition

variable (o : Outcomes)

def ReachesConfig : Prop := o.executable = true ∧ (o.mkdirAll = true ∨ o.cmdMkdir = true)

/-- `config.json` is written, and the service manager answers. -/
def ReachesService : Prop := ReachesConfig o ∧ o.writeConfig = .done ∧ o.connect = true

/-- Every step of the installation over a service succeeds. -/
def Completes : Prop :=
  ReachesService o ∧ o.openService = true ∧ o.readExe = true ∧ o.writeExe = .done ∧
    o.stops = true ∧ o.start = true

/-- No step that is reached changes anything. -/
structure Harmless (program : GoString) (params : InstallParams) (config exe : GoString) :
    Prop where
  config : ReachesConfig o → Keeps o.writeConfig config (cfgData params)
  stop : ReachesService o → o.openService = true → o.stops = false
  exe : ReachesService o → o.readExe = true → Keeps o.writeExe exe program

end Condition

/-! ## The steps one by one -/

section Steps

variable {o : Outcomes} {program : GoString} {config exe : GoString}

theorem writeFile_eq_iff {outcome : WriteOutcome} {before data : GoString} :
    (writeFile outcome (some before) data).1 = some before ↔ Keeps outcome before data := by
  cases outcome <;> simp [writeFile, Keeps]

theorem writeFile_ok_iff {outcome : WriteOutcome} {before : Option GoString} {data : GoString} :
    (writeFile outcome before data).2 = true ↔ outcome = .done := by
  cases outcome <;> simp [writeFile]

theorem copyFile_eq_iff :
    (copyFile o program (some exe)).1 = some exe ↔
      (o.readExe = true → Keeps o.writeExe exe program) := by
  unfold copyFile
  cases hread : o.readExe with
  | false => simp
  | true => simpa using writeFile_eq_iff

theorem copyFile_ok_iff :
    (copyFile o program (some exe)).2 = true ↔ o.readExe = true ∧ o.writeExe = .done := by
  unfold copyFile
  cases hread : o.readExe with
  | false => simp
  | true => simpa using writeFile_ok_iff

theorem unharmed_error_iff {inst inst' : Installation} {e : InstallError} :
    Unharmed inst (inst', .error e) ↔ inst' = inst := by
  apply Iff.intro
  · exact fun h => h e rfl
  · exact fun h _ _ => h

/-- Before the configuration is written nothing can go wrong. -/
theorem harmless_of_not_reaches {params : InstallParams} (h : ¬ReachesConfig o) :
    Harmless o program params config exe :=
  ⟨fun hconfig => absurd hconfig h, fun hservice => absurd hservice.1 h,
    fun hservice => absurd hservice.1 h⟩

theorem harmless_iff_of_config {params : InstallParams} (hconfig : ReachesConfig o)
    (h : ¬ReachesService o) :
    Harmless o program params config exe ↔ Keeps o.writeConfig config (cfgData params) := by
  apply Iff.intro
  · exact fun hharmless => hharmless.config hconfig
  · exact fun hkeeps =>
      ⟨fun _ => hkeeps, fun hservice => absurd hservice h, fun hservice => absurd hservice h⟩

theorem harmless_iff_of_service {params : InstallParams} (h : ReachesService o) :
    Harmless o program params config exe ↔
      cfgData params = config ∧ (o.openService = true → o.stops = false) ∧
        (copyFile o program (some exe)).1 = some exe := by
  have hkeeps : Keeps o.writeConfig config (cfgData params) ↔ cfgData params = config := by
    rw [h.2.1]
    exact Iff.rfl
  rw [copyFile_eq_iff]
  apply Iff.intro
  · exact fun hharmless => ⟨hkeeps.mp (hharmless.config h.1), hharmless.stop h, hharmless.exe h⟩
  · rintro ⟨hconfig, hstop, hexe⟩
    exact ⟨fun _ => hkeeps.mpr hconfig, fun _ => hstop, fun _ => hexe⟩

/-! ### The two ways on from there -/

variable (data : GoString)

/-- A new service cannot be created where there is one. -/
theorem unharmed_installNew :
    Unharmed (running config exe) (installNew o program ⟨some data, some exe, some true⟩) ↔
      data = config ∧ (copyFile o program (some exe)).1 = some exe := by
  have herror : ∃ e, installNew o program ⟨some data, some exe, some true⟩ =
      (⟨some data, (copyFile o program (some exe)).1, some true⟩, .error e) := by
    unfold installNew
    dsimp only
    split
    · exact ⟨_, rfl⟩
    · exact ⟨_, if_pos (.inr rfl)⟩
  obtain ⟨e, he⟩ := herror
  rw [he, unharmed_error_iff]
  simp [running]

/-- Over a service that is there, the program is replaced and the service starts again, or it has to
be left alone. -/
theorem unharmed_overwrite :
    Unharmed (running config exe) (overwrite o program ⟨some data, some exe, some true⟩ true) ↔
      (o.readExe = true ∧ o.writeExe = .done ∧ o.stops = true ∧ o.start = true) ∨
        (data = config ∧ o.stops = false ∧ (copyFile o program (some exe)).1 = some exe) := by
  rw [← and_assoc, ← @copyFile_ok_iff o program exe]
  unfold overwrite
  dsimp only
  cases hcopied : (copyFile o program (some exe)).2 with
  | false =>
      rw [if_pos rfl, unharmed_error_iff]
      cases hstops : o.stops <;> simp [running]
  | true =>
      rw [if_neg (by decide)]
      cases hstops : o.stops with
      | false =>
          -- the service still runs, so it is not started
          have hstart : startService o.start (true && !false) = (true, false) := rfl
          rw [hstart, if_neg (by decide), unharmed_error_iff]
          simp [running]
      | true =>
          have hstart : startService o.start (true && !true) = (o.start, o.start) := rfl
          rw [hstart]
          cases o.start with
          | false =>
              rw [if_neg (by decide), unharmed_error_iff]
              simp [running]
          | true => exact iff_of_true (fun e he => nomatch he) (.inl ⟨rfl, rfl, rfl⟩)

end Steps

/-- **An installation that fails** leaves a running agent as it was exactly when no step that is
reached changes anything. -/
theorem unharmed_iff (o : Outcomes) (program : GoString) (params : InstallParams)
    (config exe : GoString) :
    Unharmed (running config exe) (installService o program params (running config exe)) ↔
      Completes o ∨ Harmless o program params config exe := by
  unfold installService
  by_cases hexecutable : o.executable = true
  case neg =>
    rw [if_pos (by simpa using hexecutable), unharmed_error_iff]
    exact iff_of_true rfl (.inr (harmless_of_not_reaches fun h => hexecutable h.1))
  rw [if_neg (by simp [hexecutable])]
  by_cases hdirectory : o.mkdirAll = true ∨ o.cmdMkdir = true
  case neg =>
    rw [if_pos (by simpa using hdirectory), unharmed_error_iff]
    exact iff_of_true rfl (.inr (harmless_of_not_reaches fun h => hdirectory h.2))
  have hfound : ¬(o.mkdirAll = false ∧ o.cmdMkdir = false) := by
    rcases hdirectory with h | h <;> simp [h]
  have hconfig : ReachesConfig o := ⟨hexecutable, hdirectory⟩
  rw [if_neg hfound]
  dsimp only [running]
  by_cases hwritten : o.writeConfig = .done
  case neg =>
    have hservice : ¬ReachesService o := fun h => hwritten h.2.1
    have hfailed : (writeFile o.writeConfig (some config) (cfgData params)).2 = false := by
      rw [← Bool.not_eq_true, writeFile_ok_iff]
      exact hwritten
    rw [if_pos hfailed, unharmed_error_iff, harmless_iff_of_config hconfig hservice,
      or_iff_right fun h => hservice h.1, ← writeFile_eq_iff]
    simp
  have hwrote : writeFile o.writeConfig (some config) (cfgData params) =
      (some (cfgData params), true) := by
    rw [hwritten]
    rfl
  rw [hwrote]
  dsimp only
  rw [if_neg (by decide)]
  by_cases hconnect : o.connect = true
  case neg =>
    have hservice : ¬ReachesService o := fun h => hconnect h.2.2
    rw [if_pos (by simpa using hconnect), unharmed_error_iff,
      harmless_iff_of_config hconfig hservice, or_iff_right fun h => hservice h.1, hwritten]
    simp [Keeps]
  have hservice : ReachesService o := ⟨hconfig, hwritten, hconnect⟩
  rw [if_neg (by simp [hconnect])]
  rw [harmless_iff_of_service hservice, Completes, and_iff_right hservice]
  cases hopen : o.openService with
  | false =>
      rw [if_neg (by decide), ← running, unharmed_installNew]
      simp
  | true =>
      rw [if_pos rfl, ← running, unharmed_overwrite]
      simp

/-! ### A service that does not start again -/

def noRestart : Outcomes where
  executable := true
  mkdirAll := true
  cmdMkdir := true
  writeConfig := .done
  connect := true
  openService := true
  stops := true
  readExe := true
  writeExe := .done
  createService := true
  start := false
  startAgain := false

def oldConfig : GoString := ofString "\x7b\"server_url\": \"http://10.0.0.1\", \"token\": \"t\"\x7d"

/-- The agent is stopped, with another token and another program. -/
theorem stopped_after_error :
    ¬Unharmed (running oldConfig (ofString "MZ 1"))
      (installService noRestart (ofString "MZ 2") ⟨"http://10.0.0.1", "u", "s"⟩
        (running oldConfig (ofString "MZ 1"))) := by
  intro h
  have hservice := congrArg Installation.service (h .restart rfl)
  cases hservice

end LanAgent.Install
