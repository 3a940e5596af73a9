import LanAgent.Agent
import LanAgent.Go.Utf16

/-!
# Messages on the desktop — `hostmsg.go` of the agent

The buffers of a message hold UTF-16; the lengths next to them are those of the Go strings, twice
their bytes.  `matches_iff` says for which strings the two agree.
-/

namespace LanAgent.HostMessage

open Go

/-! ## `showHostMessage` -/

def mbOk : Nat := 0x00000000

def mbIconInformation : Nat := 0x00000040

def mbSetForeground : Nat := 0x00010000

def mbTopmost : Nat := 0x00040000

/-- The arguments of `WTSSendMessageW`; the lengths are in bytes. -/
structure SendMessage where
  sessionId : Nat
  title : List UInt16
  titleLength : Nat
  message : List UInt16
  messageLength : Nat
  style : Nat
  timeout : Nat
  deriving DecidableEq, Repr

inductive ShowError where
  | noSession
  | invalid
  deriving DecidableEq, Repr

/-- `showHostMessage` up to its call; `sessionId` is what `activeSessionID` finds. -/
def showHostMessage (sessionId : Nat) (title body : GoString) (timeoutSec : Nat) :
    Except ShowError SendMessage :=
  if sessionId = 0 then .error .noSession
  else
    match utf16FromString title, utf16FromString body with
    | some titleBuffer, some bodyBuffer =>
        .ok
          { sessionId := sessionId
            title := titleBuffer
            titleLength := title.length * 2
            message := bodyBuffer
            messageLength := body.length * 2
            style := mbOk ||| mbIconInformation ||| mbSetForeground ||| mbTopmost
            timeout := timeoutSec }
    | _, _ => .error .invalid

/-! ## The texts -/

/-- The members of `SysInfo` that are shown, as they were collected. -/
structure ShownInfo where
  osVersion : GoString
  cpuModel : GoString
  cpuCores : GoInt
  memoryTotalMb : GoInt
  diskTotalGb : GoInt
  diskFreeGb : GoInt
  serialNumber : GoString
  macAddress : GoString

def orDash (s : GoString) : GoString := if trimSpace s = [] then ofString "-" else s

/-- `fmt.Sprintf` of a line with one `%s`. -/
def line (label : String) (value : GoString) : GoString :=
  ofString label ++ value ++ ofString "\r\n"

def decimal (n : GoInt) : GoString := ofString (toString n.val)

def defaultTitle : GoString := ofString "设备信息提示"

def infoLines (info : ShownInfo) : GoString :=
  line "操作系统：" (orDash info.osVersion) ++ line "CPU：" (orDash info.cpuModel) ++
    (if 0 < info.cpuCores.val then line "CPU 核心数：" (decimal info.cpuCores) else []) ++
    (if 0 < info.memoryTotalMb.val then
      line "内存：" (decimal info.memoryTotalMb ++ ofString " MB") else []) ++
    (if 0 < info.diskTotalGb.val then
      line "C 盘容量：" (decimal info.diskTotalGb ++ ofString " GB（剩余 " ++
        decimal info.diskFreeGb ++ ofString " GB）") else []) ++
    line "序列号：" (orDash info.serialNumber) ++ line "MAC 地址：" (orDash info.macAddress)

def buildHostMessage (info : Option ShownInfo) (ip hostname agentVersion : GoString) :
    GoString × GoString :=
  (defaultTitle,
    ofString "本机配置信息如下：\r\n\r\n" ++ line "主机名：" (orDash hostname) ++
      line "IP 地址：" (orDash ip) ++ (info.map infoLines).getD [] ++
      line "Agent 版本：" (orDash agentVersion) ++ ofString "\r\n本窗口将在 15 秒后自动关闭。")

/-- The parameters of `hostmsg`, empty or zero where the command has none. -/
structure HostmsgParams where
  title : GoString
  message : GoString
  timeout : GoInt

/-- What `handleCommand` makes of them: the title, the text and the seconds. -/
def hostmsgTexts (params : HostmsgParams) (info : Option ShownInfo)
    (ip hostname agentVersion : GoString) : GoString × GoString × Nat :=
  let timeout := if params.timeout.val ≤ 0 then 15 else params.timeout.val
  let (title, message) :=
    if params.message = [] then buildHostMessage info ip hostname agentVersion
    else (params.title, params.message)
  (if title = [] then defaultTitle else title, message, (timeout % 2 ^ 32).toNat)

/-! ## The lengths -/

/-- The lengths are those of the units, and not beyond the buffers. -/
structure Matches (title body : GoString) (call : SendMessage) : Prop where
  title : call.titleLength = 2 * (utf16 title).length
  message : call.messageLength = 2 * (utf16 body).length
  titleFits : call.titleLength ≤ 2 * call.title.length
  messageFits : call.messageLength ≤ 2 * call.message.length

theorem utf16FromString_of_not_mem {s : GoString} (h : 0 ∉ s) :
    utf16FromString s = some (utf16 s ++ [0]) := if_neg h

theorem utf16FromString_eq_some {s : GoString} {buffer : List UInt16}
    (h : utf16FromString s = some buffer) : buffer = utf16 s ++ [0] := by
  unfold utf16FromString at h
  split at h
  · cases h
  · exact (Option.some.inj h).symm

/-- **A call** has the buffers of the two strings, and their bytes twice. -/
theorem showHostMessage_ok {sessionId timeoutSec : Nat} {title body : GoString} {call : SendMessage}
    (h : showHostMessage sessionId title body timeoutSec = .ok call) : sessionId ≠ 0 ∧
      (call.title = utf16 title ++ [0] ∧ call.titleLength = title.length * 2) ∧
        call.message = utf16 body ++ [0] ∧ call.messageLength = body.length * 2 := by
  unfold showHostMessage at h
  split at h
  · cases h
  rename_i hsession
  split at h
  · rename_i titleBuffer bodyBuffer htitle hbody
    cases h
    exact ⟨hsession, ⟨utf16FromString_eq_some htitle, rfl⟩, utf16FromString_eq_some hbody, rfl⟩
  · cases h

theorem matches_call_iff {sessionId timeoutSec : Nat} {title body : GoString} {call : SendMessage}
    (h : showHostMessage sessionId title body timeoutSec = .ok call) :
    Matches title body call ↔ OneByte title ∧ OneByte body := by
  obtain ⟨-, ⟨htitle, htitleLength⟩, hbody, hbodyLength⟩ := showHostMessage_ok h
  rw [← length_utf16_eq_iff, ← length_utf16_eq_iff]
  constructor
  · intro hmatches
    have htitleUnits := hmatches.title
    have hbodyUnits := hmatches.message
    omega
  · rintro ⟨htitleUnits, hbodyUnits⟩
    have htitleBuffer : call.title.length = title.length + 1 := by
      rw [htitle, List.length_append, htitleUnits]
      rfl
    have hbodyBuffer : call.message.length = body.length + 1 := by
      rw [hbody, List.length_append, hbodyUnits]
      rfl
    constructor <;> omega

/-- For text, the buffers hold the units of its characters, and the lengths match ASCII only. -/
theorem showHostMessage_text {sessionId timeoutSec : Nat} {title body : String} {call : SendMessage}
    (h : showHostMessage sessionId (ofString title) (ofString body) timeoutSec = .ok call) :
    (call.title = title.toList.flatMap (fun c => runeUnits c.toNat) ++ [0] ∧
        call.message = body.toList.flatMap (fun c => runeUnits c.toNat) ++ [0]) ∧
      (Matches (ofString title) (ofString body) call ↔
        (∀ c ∈ title.toList, c.toNat < 0x80) ∧ ∀ c ∈ body.toList, c.toNat < 0x80) := by
  obtain ⟨-, ⟨htitle, -⟩, hbody, -⟩ := showHostMessage_ok h
  rw [utf16_ofString] at htitle hbody
  rw [matches_call_iff h, oneByte_ofString_iff, oneByte_ofString_iff]
  exact ⟨⟨htitle, hbody⟩, Iff.rfl⟩

/-- The title of the built messages reads beyond its buffer. -/
theorem built_overreads {sessionId timeoutSec : Nat} {info : Option ShownInfo}
    {ip hostname agentVersion : GoString} {call : SendMessage}
    (h : showHostMessage sessionId (buildHostMessage info ip hostname agentVersion).1
      (buildHostMessage info ip hostname agentVersion).2 timeoutSec = .ok call) :
    2 * call.title.length < call.titleLength := by
  have hdefault : 2 * (utf16 defaultTitle ++ [0]).length < defaultTitle.length * 2 := by
    decide
  obtain ⟨-, ⟨htitle, hlength⟩, -⟩ := showHostMessage_ok h
  rw [htitle, hlength]
  exact hdefault

/-- **Message lengths** match their buffers exactly for strings with one byte for each character,
and for no text that is built. -/
theorem matches_iff (sessionId timeoutSec : Nat) :
    (∀ title body, 0 ∉ title → 0 ∉ body →
      ((∀ call, showHostMessage sessionId title body timeoutSec = .ok call →
          Matches title body call) ↔ sessionId = 0 ∨ OneByte title ∧ OneByte body)) ∧
      ∀ info ip hostname agentVersion call,
        showHostMessage sessionId (buildHostMessage info ip hostname agentVersion).1
          (buildHostMessage info ip hostname agentVersion).2 timeoutSec = .ok call →
        ¬Matches (buildHostMessage info ip hostname agentVersion).1
          (buildHostMessage info ip hostname agentVersion).2 call := by
  constructor
  · intro title body htitle hbody
    by_cases hsession : sessionId = 0
    · refine iff_of_true (fun call h => ?_) (.inl hsession)
      exact absurd hsession (showHostMessage_ok h).1
    · rw [or_iff_right hsession]
      obtain ⟨call, hcall⟩ :
          ∃ call, showHostMessage sessionId title body timeoutSec = .ok call := by
        unfold showHostMessage
        rw [if_neg hsession, utf16FromString_of_not_mem htitle, utf16FromString_of_not_mem hbody]
        exact ⟨_, rfl⟩
      rw [← matches_call_iff hcall]
      constructor
      · exact fun h => h call hcall
      · rintro h call' hcall'
        rw [hcall] at hcall'
        exact Except.ok.inj hcall' ▸ h
  · intro info ip hostname agentVersion call h hmatches
    exact absurd hmatches.titleFits (not_le.mpr (built_overreads h))

/-! ### A title with one character that is not ASCII, and none -/

theorem accent_mismatch : ¬∀ call,
    showHostMessage 1 (ofString "Café") (ofString "open") 15 = .ok call →
      Matches (ofString "Café") (ofString "open") call := by
  intro h
  have hcall : ∃ call, showHostMessage 1 (ofString "Café") (ofString "open") 15 = .ok call ∧
      call.titleLength = 10 := ⟨_, rfl, by decide⟩
  obtain ⟨call, hcall, hlength⟩ := hcall
  have hunits := (h call hcall).title
  rw [hlength] at hunits
  exact absurd hunits (by decide)

theorem ascii_matches : ∃ call,
    showHostMessage 1 (ofString "Cafe") (ofString "open") 15 = .ok call ∧
      Matches (ofString "Cafe") (ofString "open") call :=
  ⟨_, rfl, ((matches_iff 1 15).1 (ofString "Cafe") (ofString "open") (by decide)
    (by decide)).mpr (.inr (by decide)) _ rfl⟩

end LanAgent.HostMessage
