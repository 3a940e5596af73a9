import LanAgent.ConfigFile
import LanAgent.FilePush
import LanAgent.HardwareReports
import LanAgent.HostMessage
import LanAgent.Unattend

/-!
# Commands — `handleCommand` of `agent/handler.go` and `startUpgrade` of `agent/upgrade.go`

What the agent does for one command, and the result it reports.  A system call is an argument that
says how it ends; what the process keeps between two commands is `Process`, and what a command does
to the machine is a list of effects.
-/

namespace LanAgent.Commands

open Go Sqlite ServerUrl Downloads FilePush HostMessage Unattend
open ConfigFile (readGoInt fitsInt64_zero)

structure Command where
  id : String
  action : String
  params : Option JsonValue := none

structure CommandResult where
  commandId : String
  deviceId : String
  status : String
  output : String
  timestamp : GoInt
  deriving DecidableEq

/-! ## Parameters -/

/-- The members that fill a struct of parameters; other values leave it empty. -/
def paramMembers : Option JsonValue → List (String × JsonValue)
  | some (.object members) => members
  | _ => []

/-- A text parameter; the error of a value of another type is not looked at. -/
def textParam (params : Option JsonValue) (name : String) : String :=
  (decodeField JsonValue.readText "" (fieldValues (paramMembers params) name)).1

def intParam (params : Option JsonValue) (name : String) : GoInt :=
  (decodeField readGoInt ⟨0, fitsInt64_zero⟩ (fieldValues (paramMembers params) name)).1

/-! ## The machine and the process -/

/-- What the process has between two commands. -/
structure Process where
  cfg : AgentConfig
  cache : Option Collection
  upgradeRunning : Bool
  /-- The flag `need_recover` is in the data directory. -/
  needRecover : Bool

inductive Effect where
  | sysprep (mode unattendPath : String)
  | shutdown
  | reboot
  | upgrade (download : Download) (version : String)
  /-- What the destination of `file_push` holds afterwards. -/
  | destination (content : Option GoString)
  | message (call : SendMessage)
  | uninstall
  deriving DecidableEq

/-- What a command meets outside.  An error is its text, and `none` that there is none. -/
structure Env where
  timestamp : GoInt
  now : DateTime
  reading : Collection
  hostname : String
  ip : String
  rearmCount : GoInt
  agentVersion : String
  /-- `Unicode.SimpleFold` as far as hosts are compared. -/
  fold : Nat → Nat
  path : FilePath
  exeDir : String
  /-- What the library says of an error behind one of the agent's own. -/
  cause : PushError → String
  writeUnattend : Option String
  makeScriptDir : Option String
  /-- The recovery flag is there after the attempt to write it. -/
  writesFlag : Bool
  writeSetupComplete : Option String
  /-- The error of `sysprep.exe`, and what it printed. -/
  runSysprep : Option (String × String)
  runShutdown : Option String
  runReboot : Option String
  replies : List (Option Response)
  disk : Disk
  storage : Storage
  destination : Option GoString
  tempExe : String
  executable : Option String
  writeUpgradeBat : Option String
  startUpgradeBat : Option String
  sessionId : Nat
  shownInfo : SysInfo → ShownInfo
  badString : String
  sendMessage : Option String

/-! ## Errors -/

section Errors

variable (cause : PushError → String)

/-- The errors of `validateServerURL`. -/
def originText (e : DownloadError) : String :=
  match e with
  | .url => "非法下载地址: " ++ cause (.origin e)
  | .scheme scheme => "不支持的下载协议: " ++ toText scheme
  | .config => "服务器地址配置无效: " ++ cause (.origin e)
  | .foreign got expected =>
      "拒绝非管理服务器来源: " ++ toText got ++ " (期望 " ++ toText expected ++ ")"

/-- The errors of `safeJoinUnder`. -/
def nameText : NameError → String
  | .empty => "文件名为空"
  | .absolute name => "拒绝绝对路径: " ++ name
  | .traversal name => "拒绝路径穿越: " ++ name
  | .outside final => "目标路径越界: " ++ final

/-- The errors of `file_push`. -/
def pushText (e : PushError) : String :=
  match e with
  | .missing => "missing url or filename"
  | .origin e => originText cause e
  | .directory => "目标目录越界，仅允许 " ++ filesDir ++ " 及子目录"
  | .name e => nameText e
  | .fetch _ => "download failed: " ++ cause e
  | .create => "create file failed: " ++ cause e
  | .write => "write file failed: " ++ cause e
  -- the others are errors of an upgrade
  | _ => cause e

/-- The errors of `downloadUpgrade`. -/
def downloadText (e : PushError) : String :=
  match e with
  | .origin e => originText cause e
  | .fetch _ => "下载失败: " ++ cause e
  | .status code => "下载失败: HTTP " ++ toString code
  | .create => "创建临时文件失败: " ++ cause e
  | .write => "写入失败: " ++ cause e
  | .close => "关闭文件失败: " ++ cause e
  | .tooSmall written =>
      "升级包异常：仅 " ++ toString written ++ " 字节（应大于 " ++ toString minExeSizeBytes ++ "）"
  | .notExecutable => "升级包不是有效的 Windows 可执行文件"
  -- the others are errors of `file_push`
  | _ => cause e

end Errors

def showErrorText (env : Env) : ShowError → String
  | .noSession => "未找到可用的交互式登录会话（可能无用户登录）"
  | .invalid => env.badString

/-! ## The actions

An action leaves the process, has done something, and ends with an error text or with its output. -/

abbrev Outcome := Process × List Effect × Except String String

section Actions

variable (env : Env) (p : Process) (params : Option JsonValue)

def sysprepParams : SysprepParams where
  localAdmin := ofString (textParam params "local_admin")
  localPassword := ofString (textParam params "local_password")

/-- `generateUnattend` and `writeSetupCompleteScript`: the process with the flag, and the path of
the answer file. -/
def prepareSysprep : Process × Except String String :=
  match (generateUnattend env.path env.exeDir (fun _ => env.writeUnattend)
      (sysprepParams params)).2 with
  | .error e => (p, .error ("generate unattend failed: " ++ e))
  | .ok unattendPath =>
      match env.makeScriptDir with
      | some e => (p, .error ("write setup complete failed: " ++ e))
      | none =>
          -- the flag is written before the script, and its own errors are not looked at
          let p := { p with needRecover := p.needRecover || env.writesFlag }
          match env.writeSetupComplete with
          | some e => (p, .error ("write setup complete failed: " ++ e))
          | none => (p, .ok unattendPath)

def sysprepErrorText (e : String × String) : String :=
  "sysprep failed: " ++ e.1 ++ ", output: " ++ e.2

def doSysprep : Outcome :=
  match prepareSysprep env p params with
  | (p, .error e) => (p, [], .error e)
  | (p, .ok unattendPath) =>
      match env.runSysprep with
      | some e => (p, [], .error (sysprepErrorText e))
      | none => (p, [.sysprep "/shutdown" unattendPath],
          .ok "sysprep initiated, machine will shutdown and enter OOBE")

def doSysprepReboot : Outcome :=
  match prepareSysprep env p params with
  | (p, .error e) => (p, [], .error e)
  | (p, .ok unattendPath) =>
      match env.runSysprep, env.runReboot with
      | some e, _ => (p, [], .error (sysprepErrorText e))
      | none, some e =>
          (p, [.sysprep "/quit" unattendPath], .error ("sysprep ok but reboot failed: " ++ e))
      | none, none => (p, [.sysprep "/quit" unattendPath, .reboot],
          .ok "sysprep initiated, machine will reboot and enter OOBE")

def doShutdown : Outcome :=
  match env.runShutdown with
  | some e => (p, [], .error e)
  | none => (p, [.shutdown], .ok "shutdown initiated")

def doReboot : Outcome :=
  match env.runReboot with
  | some e => (p, [], .error e)
  | none => (p, [.reboot], .ok "reboot initiated")

/-- The texts are put between the quotes as they are. -/
def statusOutput : String :=
  "\x7b\"hostname\":\"" ++ env.hostname ++ "\",\"ip\":\"" ++ env.ip ++ "\",\"rearm_count\":" ++
    toString env.rearmCount.val ++ ",\"agent_version\":\"" ++ env.agentVersion ++ "\"\x7d"

/-- `startUpgrade`, up to the start of its script. -/
def startUpgrade (url : String) : Except String Download :=
  match downloadUpgrade env.fold p.cfg url env.tempExe env.replies env.disk with
  | .error e => .error (downloadText env.cause e)
  | .ok download =>
      match env.executable, env.writeUpgradeBat, env.startUpgradeBat with
      | some e, _, _ => .error ("无法获取当前程序路径: " ++ e)
      | none, some e, _ => .error ("写入升级脚本失败: " ++ e)
      | none, none, some e => .error ("启动升级脚本失败: " ++ e)
      | none, none, none => .ok download

def doUpgrade : Outcome :=
  let url := textParam params "url"
  let version := textParam params "version"
  if url = "" then (p, [], .error "missing upgrade url")
  else if p.upgradeRunning then (p, [], .error "upgrade already in progress")
  else
    match startUpgrade env p url with
    | .error e => (p, [], .error ("upgrade failed: " ++ e))
    | .ok download => ({ p with upgradeRunning := true }, [.upgrade download version],
        .ok ("upgrade to " ++ version ++ " staged, service will restart"))

def doFilePush : Outcome :=
  let push : PushParams :=
    ⟨textParam params "url", textParam params "filename", textParam params "dest_dir"⟩
  match pushFile env.fold env.path p.cfg push env.replies env.storage env.destination with
  | (content, .error e) => (p, [.destination content], .error (pushText env.cause e))
  | (content, .ok download) => (p, [.destination content],
      .ok ("file saved to " ++ download.path ++ " (" ++ toString download.content.length ++
        " bytes)"))

def hostmsgTimeout : Int :=
  let timeout := (intParam params "timeout").val
  if timeout ≤ 0 then 15 else timeout

def doHostmsg : Outcome :=
  let hostmsg : HostmsgParams :=
    ⟨ofString (textParam params "title"), ofString (textParam params "message"),
      intParam params "timeout"⟩
  let cache := hostmsgCache p.cache (textParam params "message") env.now env.reading
  let p := { p with cache := cache }
  let (title, message, timeout) := hostmsgTexts hostmsg
    (cache.map fun c => env.shownInfo c.info) (ofString env.ip) (ofString env.hostname)
    (ofString env.agentVersion)
  match showHostMessage env.sessionId title message timeout, env.sendMessage with
  | .error e, _ => (p, [], .error ("show message failed: " ++ showErrorText env e))
  | .ok _, some e => (p, [], .error ("show message failed: WTSSendMessageW 调用失败: " ++ e))
  | .ok call, none => (p, [.message call],
      .ok ("message displayed on session desktop (auto close in " ++
        toString (hostmsgTimeout params) ++ "s)"))

/-- A forced collection is always returned. -/
def doSysinfo : Outcome :=
  let (info, cache) := getSysInfo true p.cache env.now env.reading
  ({ p with cache := cache }, [], .ok ((info.map HardwareReports.output).getD "null"))

/-- The `switch` over the actions. -/
def perform (action : String) : Outcome :=
  if action = "sysprep" then doSysprep env p params
  else if action = "sysprep_reboot" then doSysprepReboot env p params
  else if action = "shutdown" then doShutdown env p
  else if action = "reboot" then doReboot env p
  else if action = "status" then (p, [], .ok (statusOutput env))
  else if action = "upgrade" then doUpgrade env p params
  else if action = "file_push" then doFilePush env p params
  else if action = "hostmsg" then doHostmsg env p params
  else if action = "sysinfo" then doSysinfo env p
  else if action = "uninstall" then (p, [.uninstall], .ok "uninstall initiated")
  else (p, [], .error ("unknown action: " ++ action))

end Actions

/-- The status and the output a result reports. -/
def reported : Except String String → String × String
  | .error e => ("failed", e)
  | .ok output => ("success", output)

/-- `handleCommand`: the process after the command, what was done, and the result. -/
def handleCommand (env : Env) (p : Process) (cmd : Command) :
    Process × List Effect × CommandResult :=
  let (after, effects, ended) := perform env p cmd.params cmd.action
  (after, effects,
    { commandId := cmd.id
      deviceId := p.cfg.deviceId
      status := (reported ended).1
      output := (reported ended).2
      timestamp := env.timestamp })

/-! ## What a command can do -/

section Spec

variable {env : Env} {p : Process} {params : Option JsonValue} {action : String}

theorem handleCommand_status (env : Env) (p : Process) (cmd : Command) :
    (handleCommand env p cmd).2.2.status = "success" ∨
      (handleCommand env p cmd).2.2.status = "failed" := by
  have hreported : ∀ ended, (reported ended).1 = "success" ∨ (reported ended).1 = "failed" := by
    intro ended
    cases ended with
    | error e => exact .inr rfl
    | ok output => exact .inl rfl
  exact hreported _

/-- What holds of each of the actions holds of the `switch`. -/
theorem perform_cases {motive : Outcome → Prop}
    (hsysprep : motive (doSysprep env p params))
    (hsysprepReboot : motive (doSysprepReboot env p params))
    (hshutdown : motive (doShutdown env p)) (hreboot : motive (doReboot env p))
    (hstatus : motive (p, [], .ok (statusOutput env))) (hupgrade : motive (doUpgrade env p params))
    (hfilePush : motive (doFilePush env p params)) (hhostmsg : motive (doHostmsg env p params))
    (hsysinfo : motive (doSysinfo env p))
    (huninstall : motive (p, [.uninstall], .ok "uninstall initiated"))
    (hunknown : motive (p, [], .error ("unknown action: " ++ action))) :
    motive (perform env p params action) :=
  iteInduction (fun _ => hsysprep) fun _ => iteInduction (fun _ => hsysprepReboot) fun _ =>
    iteInduction (fun _ => hshutdown) fun _ => iteInduction (fun _ => hreboot) fun _ =>
    iteInduction (fun _ => hstatus) fun _ => iteInduction (fun _ => hupgrade) fun _ =>
    iteInduction (fun _ => hfilePush) fun _ => iteInduction (fun _ => hhostmsg) fun _ =>
    iteInduction (fun _ => hsysinfo) fun _ => iteInduction (fun _ => huninstall) fun _ => hunknown

/-- A text that begins like a word, and like none of the constants of JSON. -/
def beginsWord (output : String) : Bool :=
  match output.toList with
  | 's' :: _ => true
  | 'r' :: _ => true
  | 'u' :: _ => true
  | 'm' :: _ => true
  | 'f' :: 'i' :: _ => true
  | _ => false

theorem beginsWord_append {s : String} (h : beginsWord s = true) (t : String) :
    beginsWord (s ++ t) = true := by
  unfold beginsWord at h ⊢
  rw [String.toList_append]
  split at h
  · rename_i heq
    rw [heq]
    rfl
  · rename_i heq
    rw [heq]
    rfl
  · rename_i heq
    rw [heq]
    rfl
  · rename_i heq
    rw [heq]
    rfl
  · rename_i heq
    rw [heq]
    rfl
  · cases h

/-- The outputs of a success: a sentence, the machine's status, or a collection. -/
inductive Answer (env : Env) : String → Prop
  | sentence (output : String) (hword : beginsWord output = true) : Answer env output
  | status : Answer env (statusOutput env)
  | collection : Answer env (HardwareReports.output env.reading.info)

/-- An outcome whose output, if it has one, is an answer. -/
def Answers (env : Env) (outcome : Outcome) : Prop :=
  ∀ output, outcome.2.2 = .ok output → Answer env output

theorem answers_error (p : Process) (effects : List Effect) (e : String) :
    Answers env (p, effects, .error e) := nofun

theorem answers_sentence (p : Process) (effects : List Effect) {output : String}
    (hword : beginsWord output = true) : Answers env (p, effects, .ok output) := by
  intro reported hok
  cases hok
  exact .sentence _ hword

theorem doSysprep_answers : Answers env (doSysprep env p params) := by
  unfold doSysprep
  split
  · exact answers_error _ _ _
  · split
    · exact answers_error _ _ _
    · exact answers_sentence _ _ (by decide)

theorem doSysprepReboot_answers : Answers env (doSysprepReboot env p params) := by
  unfold doSysprepReboot
  split
  · exact answers_error _ _ _
  · split
    · exact answers_error _ _ _
    · exact answers_error _ _ _
    · exact answers_sentence _ _ (by decide)

theorem doShutdown_answers : Answers env (doShutdown env p) := by
  unfold doShutdown
  split
  · exact answers_error _ _ _
  · exact answers_sentence _ _ (by decide)

theorem doReboot_answers : Answers env (doReboot env p) := by
  unfold doReboot
  split
  · exact answers_error _ _ _
  · exact answers_sentence _ _ (by decide)

theorem doUpgrade_answers : Answers env (doUpgrade env p params) := by
  unfold doUpgrade
  dsimp only
  split
  · exact answers_error _ _ _
  · split
    · exact answers_error _ _ _
    · split
      · exact answers_error _ _ _
      · exact answers_sentence _ _ (beginsWord_append (beginsWord_append (by decide) _) _)

theorem doFilePush_answers : Answers env (doFilePush env p params) := by
  unfold doFilePush
  dsimp only
  split
  · exact answers_error _ _ _
  · rw [String.append_assoc, String.append_assoc, String.append_assoc]
    exact answers_sentence _ _ (beginsWord_append (by decide) _)

theorem doHostmsg_answers : Answers env (doHostmsg env p params) := by
  unfold doHostmsg
  dsimp only
  split
  · exact answers_error _ _ _
  · exact answers_error _ _ _
  · exact answers_sentence _ _ (beginsWord_append (beginsWord_append (by decide) _) _)

theorem doSysinfo_answers : Answers env (doSysinfo env p) := by
  have hforced : (getSysInfo true p.cache env.now env.reading).1 = some env.reading.info := by
    unfold getSysInfo
    cases p.cache <;> rfl
  intro output hok
  unfold doSysinfo at hok
  dsimp only at hok
  rw [hforced] at hok
  cases hok
  exact .collection

/-- The output of every action that succeeds is an answer. -/
theorem perform_answers : Answers env (perform env p params action) := by
  apply perform_cases
  · exact doSysprep_answers
  · exact doSysprepReboot_answers
  · exact doShutdown_answers
  · exact doReboot_answers
  · intro output hok
    cases hok
    exact .status
  · exact doUpgrade_answers
  · exact doFilePush_answers
  · exact doHostmsg_answers
  · exact doSysinfo_answers
  · exact answers_sentence _ _ (by decide)
  · exact answers_error _ _ _

/-! ## Upgrades -/

/-- No upgrade is started, and the mark of a running one stays as it is. -/
structure NoUpgrade (p : Process) (outcome : Outcome) : Prop where
  running : outcome.1.upgradeRunning = p.upgradeRunning
  effects : ∀ download version, Effect.upgrade download version ∉ outcome.2.1

/-- The one upgrade of a process is started. -/
structure StartsUpgrade (env : Env) (p : Process) (params : Option JsonValue)
    (outcome : Outcome) : Prop where
  idle : p.upgradeRunning = false
  running : outcome.1.upgradeRunning = true
  started : ∃ download, startUpgrade env p (textParam params "url") = .ok download ∧
    outcome.2.1 = [.upgrade download (textParam params "version")]

theorem prepareSysprep_running (env : Env) (p : Process) (params : Option JsonValue) :
    (prepareSysprep env p params).1.upgradeRunning = p.upgradeRunning := by
  unfold prepareSysprep
  split
  · rfl
  · split
    · rfl
    · dsimp only
      split <;> rfl

theorem doUpgrade_cases : NoUpgrade p (doUpgrade env p params) ∨
    StartsUpgrade env p params (doUpgrade env p params) := by
  unfold doUpgrade
  dsimp only
  split_ifs with hurl hrunning
  · exact .inl ⟨rfl, nofun⟩
  · exact .inl ⟨rfl, nofun⟩
  · split
    · exact .inl ⟨rfl, nofun⟩
    · rename_i download hdownload
      exact .inr ⟨by simpa using hrunning, rfl, download, hdownload, rfl⟩

theorem doSysprep_noUpgrade : NoUpgrade p (doSysprep env p params) := by
  have hrunning := prepareSysprep_running env p params
  unfold doSysprep
  generalize prepareSysprep env p params = prepared at hrunning ⊢
  split
  · exact ⟨hrunning, nofun⟩
  · split
    · exact ⟨hrunning, nofun⟩
    · exact ⟨hrunning, by simp⟩

theorem doSysprepReboot_noUpgrade : NoUpgrade p (doSysprepReboot env p params) := by
  have hrunning := prepareSysprep_running env p params
  unfold doSysprepReboot
  generalize prepareSysprep env p params = prepared at hrunning ⊢
  split
  · exact ⟨hrunning, nofun⟩
  · split
    · exact ⟨hrunning, nofun⟩
    · exact ⟨hrunning, by simp⟩
    · exact ⟨hrunning, by simp⟩

/-- **One command** starts no upgrade, or the first one of its process. -/
theorem perform_upgrades (env : Env) (p : Process) (params : Option JsonValue)
    (action : String) : NoUpgrade p (perform env p params action) ∨
      StartsUpgrade env p params (perform env p params action) := by
  apply perform_cases (motive := fun outcome =>
    NoUpgrade p outcome ∨ StartsUpgrade env p params outcome)
  · exact .inl doSysprep_noUpgrade
  · exact .inl doSysprepReboot_noUpgrade
  · unfold doShutdown
    split <;> exact .inl ⟨rfl, by simp⟩
  · unfold doReboot
    split <;> exact .inl ⟨rfl, by simp⟩
  · exact .inl ⟨rfl, nofun⟩
  · exact doUpgrade_cases
  · unfold doFilePush
    dsimp only
    split <;> exact .inl ⟨rfl, by simp⟩
  · unfold doHostmsg
    dsimp only
    split <;> exact .inl ⟨rfl, by simp⟩
  · exact .inl ⟨rfl, nofun⟩
  · exact .inl ⟨rfl, by simp⟩
  · exact .inl ⟨rfl, nofun⟩

end Spec

end LanAgent.Commands
