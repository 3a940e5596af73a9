import LanAgent.Agent
import LanAgent.Go.Url
import LanAgent.Python.IpAddress

/-!
# The server's address — `api/deploy_routes.py` and `agent/netutil.go`

The server derives its address from the `Host` header of the request at hand, once for the
installation package and again for every push; the installed agents accept a download only from the
host of the package.  `pushed_accepted_iff` says for which headers the two agree.
-/

namespace LanAgent.ServerUrl

open Python Go

/-! ## The address -/

/-- `_resolve_server_url`; `lanIp` is what `_detect_lan_ip` finds. -/
def resolveServerUrl (hostHeader lanIp : Option String) : Except HttpError String :=
  let host := hostHeader.getD "localhost:8080"
  let hostnamePart := beforeFirst host ':'
  if hostnamePart = "localhost" ∨ hostnamePart = "127.0.0.1" then
    let localIp := lanIp.getD ""
    if localIp = "" then
      .error ⟨500, "无法检测宿主机局域网IP，请用局域网IP访问管理端后重试"⟩
    else
      let port := if ':' ∈ host.toList then secondPiece host ':' else "8080"
      .ok ("http://" ++ (localIp ++ (":" ++ port)))
  else .ok ("http://" ++ host)

/-- What the web client pushes: the new agent, or an uploaded file under its stored name. -/
inductive Push where
  | upgrade
  | file (filename : String)

def Push.path : Push → String
  | .upgrade => "/api/upgrade/latest-download"
  | .file filename => "/api/upgrade/file/" ++ filename

/-- `doUpgrade` and `doFilePush`: the path is appended as it is. -/
def Push.url (push : Push) (serverUrl : String) : String := serverUrl ++ push.path

/-! ## The agent's check -/

inductive DownloadError where
  | url
  | scheme (scheme : GoString)
  | config
  | foreign (got expected : GoString)
  deriving DecidableEq, Repr

/-- `validateServerURL`. -/
def validateServerUrl (fold : Nat → Nat) (cfg : AgentConfig) (rawUrl : String) :
    Except DownloadError Unit :=
  match parse (ofString rawUrl) with
  | none => .error .url
  | some u =>
      if u.scheme ≠ ofString "http" ∧ u.scheme ≠ ofString "https" then .error (.scheme u.scheme)
      else
        match parse (ofString cfg.serverUrl) with
        | none => .error .config
        | some srv =>
            if equalFold fold u.host srv.host then .ok ()
            else .error (.foreign u.host srv.host)

/-- The push of a request with the header `pushHost` is accepted by an agent whose package was made
for a request with the header `packageHost`. -/
def pushAccepted (fold : Nat → Nat) (cfg : AgentConfig) (packageHost pushHost lanIp : String)
    (push : Push) : Bool :=
  match resolveServerUrl (some packageHost) (some lanIp),
    resolveServerUrl (some pushHost) (some lanIp) with
  | .ok serverUrl, .ok base =>
      validateServerUrl fold { cfg with serverUrl := serverUrl } (push.url base) = .ok ()
  | _, _ => false

/-! ## Headers -/

/-- The text of an address that is not a loopback one. -/
abbrev LanAddress :=
  { ip : String // (∃ n, n < 2 ^ 32 ∧ ip = formatIPv4 n) ∧ startsWith ip "127." = false }

def hostHeader (name : String) (port : Option Nat) : String :=
  match port with
  | none => name
  | some p => name ++ (":" ++ toString p)

/-- A character of an address in decimal notation. -/
def IsAddressChar (c : Char) : Prop := c.isDigit = true ∨ c = '.'

theorem isDigit_of_mem_toString {n : Nat} : ∀ c ∈ (toString n).toList, c.isDigit = true := by
  intro c hc
  rw [Nat.toString_eq_ofList_toDigits, String.toList_ofList] at hc
  exact Nat.isDigit_of_mem_toDigits (by decide) (by decide) hc

theorem formatIPv4_chars (n : Nat) : ∀ c ∈ (formatIPv4 n).toList, IsAddressChar c := by
  intro c hc
  have hdot : ∀ c ∈ ".".toList, IsAddressChar c := by
    intro c hc
    exact .inr (List.mem_singleton.mp hc)
  simp only [formatIPv4, String.toList_append, List.mem_append] at hc
  rcases hc with (((((hc | hc) | hc) | hc) | hc) | hc) | hc
  · exact .inl (isDigit_of_mem_toString c hc)
  · exact hdot c hc
  · exact .inl (isDigit_of_mem_toString c hc)
  · exact hdot c hc
  · exact .inl (isDigit_of_mem_toString c hc)
  · exact hdot c hc
  · exact .inl (isDigit_of_mem_toString c hc)

theorem LanAddress.chars (lan : LanAddress) : ∀ c ∈ lan.val.toList, IsAddressChar c := by
  obtain ⟨⟨n, _, hn⟩, _⟩ := lan.property
  rw [hn]
  exact formatIPv4_chars n

theorem not_mem_of_address {cs : List Char} (h : ∀ c ∈ cs, IsAddressChar c) {sep : Char}
    (hsep : sep.isDigit = false ∧ sep ≠ '.') : sep ∉ cs := by
  intro hmem
  rcases h sep hmem with hdigit | hdot
  · rw [hsep.1] at hdigit
    cases hdigit
  · exact hsep.2 hdot

theorem colon_not_mem_toString (n : Nat) : ':' ∉ (toString n).toList :=
  not_mem_of_address (fun c hc => .inl (isDigit_of_mem_toString c hc)) (by decide)

theorem LanAddress.colon_not_mem (lan : LanAddress) : ':' ∉ lan.val.toList :=
  not_mem_of_address lan.chars (by decide)

/-- The name of a header, with or without a port. -/
theorem beforeFirst_hostHeader {name : String} (h : ':' ∉ name.toList) (port : Option Nat) :
    beforeFirst (hostHeader name port) ':' = name := by
  cases port with
  | none => exact beforeFirst_of_not_mem h
  | some p =>
      refine beforeFirst_append h (.inr ?_)
      rw [String.toList_append]
      rfl

theorem resolve_lan (lan : LanAddress) (port : Option Nat) (lanIp : Option String) :
    resolveServerUrl (some (hostHeader lan.val port)) lanIp =
      .ok ("http://" ++ hostHeader lan.val port) := by
  have hname := beforeFirst_hostHeader lan.colon_not_mem port
  have hlocalhost : lan.val ≠ "localhost" := by
    intro h
    have hchars := lan.chars
    rw [h] at hchars
    exact not_mem_of_address hchars (by decide : 'l'.isDigit = false ∧ 'l' ≠ '.') (by decide)
  have hloopback : lan.val ≠ "127.0.0.1" := by
    intro h
    have hstart := lan.property.2
    rw [h] at hstart
    exact absurd hstart (by decide)
  simp only [resolveServerUrl, Option.getD_some, hname]
  rw [if_neg fun h => h.elim hlocalhost hloopback]

/-- **`localhost`** is replaced by the detected address, and a missing port by 8080. -/
theorem resolve_localhost {ip : String} (hip : ip ≠ "") (port : Option Nat) :
    resolveServerUrl (some (hostHeader "localhost" port)) (some ip) =
      .ok ("http://" ++ hostHeader ip (some (port.getD 8080))) := by
  have hcolon : ':' ∉ "localhost".toList := by decide
  have hname := beforeFirst_hostHeader hcolon port
  simp only [resolveServerUrl, Option.getD_some, hname]
  rw [if_pos (.inl trivial), if_neg hip]
  cases port with
  | none =>
      rw [hostHeader, if_neg hcolon]
      rfl
  | some p =>
      have hmem : ':' ∈ (hostHeader "localhost" (some p)).toList := by
        rw [hostHeader, String.toList_append, String.toList_append]
        simp
      have hpiece : secondPiece (hostHeader "localhost" (some p)) ':' = toString p := by
        refine secondPiece_append hcolon ?_ (colon_not_mem_toString p)
        rw [String.toList_append]
        rfl
      rw [if_pos hmem, hpiece]
      rfl

/-! ## Bytes -/

theorem toNat_lt_of_address {c : Char} (h : IsAddressChar c) : c.toNat < 128 := by
  rcases h with h | rfl
  · have hle : c.val ≤ 57 := by
      simp only [Char.isDigit, Bool.and_eq_true, decide_eq_true_eq] at h
      exact h.2
    have : c.val.toNat ≤ 57 := hle
    show c.val.toNat < 128
    omega
  · decide

theorem isDigit_toUInt8 {c : Char} (h : c.isDigit = true) : Go.isDigit c.toUInt8 = true := by
  simp only [Char.isDigit, Bool.and_eq_true, decide_eq_true_eq] at h
  have hlow : 48 ≤ c.val.toNat := h.1
  have hhigh : c.val.toNat ≤ 57 := h.2
  have hbyte : c.toUInt8.toNat = c.val.toNat := by
    show c.val.toNat % 256 = c.val.toNat
    omega
  have h0 : '0'.toUInt8.toNat = 48 := rfl
  have h9 : '9'.toUInt8.toNat = 57 := rfl
  simp only [Go.isDigit, Bool.and_eq_true, decide_eq_true_eq, UInt8.le_iff_toNat_le]
  omega

theorem ofString_address {s : String} (h : ∀ c ∈ s.toList, IsAddressChar c) :
    ofString s = s.toList.map Char.toUInt8 :=
  ofString_ascii fun c hc => toNat_lt_of_address (h c hc)

theorem isDigit_ofString_toString (n : Nat) : ∀ b ∈ ofString (toString n), Go.isDigit b = true := by
  intro b hb
  rw [ofString_address fun c hc => .inl (isDigit_of_mem_toString c hc)] at hb
  obtain ⟨c, hc, rfl⟩ := List.mem_map.mp hb
  exact isDigit_toUInt8 (isDigit_of_mem_toString c hc)

theorem LanAddress.bytes (lan : LanAddress) :
    ∀ b ∈ ofString lan.val, Go.isDigit b = true ∨ b = '.'.toUInt8 := by
  intro b hb
  rw [ofString_address lan.chars] at hb
  obtain ⟨c, hc, rfl⟩ := List.mem_map.mp hb
  rcases lan.chars c hc with hdigit | rfl
  · exact .inl (isDigit_toUInt8 hdigit)
  · exact .inr rfl

theorem isAddressByte_of_digit {b : UInt8} (h : Go.isDigit b = true) : isAddressByte b = true := by
  rw [isAddressByte, h]
  rfl

section Host

variable (lan : LanAddress) (port : Option Nat)

theorem hostHeader_address :
    ∀ b ∈ ofString (hostHeader lan.val port), isAddressByte b = true := by
  have hlan : ∀ b ∈ ofString lan.val, isAddressByte b = true := by
    intro b hb
    rcases lan.bytes b hb with hdigit | rfl
    · exact isAddressByte_of_digit hdigit
    · decide
  cases port with
  | none => exact hlan
  | some p =>
      intro b hb
      rw [hostHeader, ofString_append, ofString_append] at hb
      rcases List.mem_append.mp hb with hb | hb
      · exact hlan b hb
      · rcases List.mem_append.mp hb with hb | hb
        · rw [List.mem_singleton.mp hb]
          decide
        · exact isAddressByte_of_digit (isDigit_ofString_toString p b hb)

theorem hostHeader_port : ∀ before digits,
    cutLast (ofString (hostHeader lan.val port)) ':'.toUInt8 = some (before, digits) →
      digits.all Go.isDigit = true := by
  have hcolon : Go.isDigit ':'.toUInt8 = false := by decide
  cases port with
  | none =>
      intro before digits h
      have hnot : ':'.toUInt8 ∉ ofString lan.val := by
        intro hmem
        rcases lan.bytes _ hmem with hdigit | hdot
        · rw [hcolon] at hdigit
          cases hdigit
        · exact absurd hdot (by decide)
      rw [hostHeader, cutLast_of_not_mem hnot] at h
      cases h
  | some p =>
      intro before digits h
      have hnot : ':'.toUInt8 ∉ ofString (toString p) := by
        intro hmem
        have hdigit := isDigit_ofString_toString p _ hmem
        rw [hcolon] at hdigit
        cases hdigit
      have hsplit : ofString (hostHeader lan.val (some p)) =
          ofString lan.val ++ ':'.toUInt8 :: ofString (toString p) := by
        rw [hostHeader, ofString_append, ofString_append]
        rfl
      rw [hsplit, cutLast_append _ hnot] at h
      cases h
      rw [List.all_eq_true]
      exact isDigit_ofString_toString p

/-- **A URL under the address** has its host, and is refused only for its path. -/
theorem parse_serverUrl (path : String) (htail : IsTail (ofString path)) :
    parse (ofString ("http://" ++ hostHeader lan.val port ++ path)) =
      if tailParses (ofString path) = true then
        some ⟨ofString "http", ofString (hostHeader lan.val port)⟩
      else none := by
  rw [ofString_append, ofString_append, List.append_assoc]
  exact parse_http (hostHeader_address lan port) (hostHeader_port lan port) htail

/-- Without a port the host is shorter than with any. -/
theorem equalFold_hostHeader {fold : Nat → Nat} {p : Nat}
    (h : equalFold fold (ofString (hostHeader lan.val port))
      (ofString (hostHeader lan.val (some p))) = true) : port.isSome = true := by
  cases port with
  | some p => rfl
  | none =>
      have hascii : ∀ port, ∀ b ∈ ofString (hostHeader lan.val port), b < 0x80 := by
        intro port b hb
        have hrange := address_range (hostHeader_address lan port b hb)
        rw [UInt8.lt_iff_toNat_lt]
        show b.toNat < 128
        omega
      have hlength := length_eq_of_equalFold (hascii none) (hascii (some p)) h
      rw [hostHeader, hostHeader, ofString_append, ofString_append, List.length_append,
        List.length_append] at hlength
      have hcolon : (ofString ":").length = 1 := rfl
      omega

end Host

/-! ## Pushes -/

/-- The path of the push can be parsed: its name has no control character before a `#`, and each
percent sign outside its query begins an escape. -/
def Push.parses (push : Push) : Bool := tailParses (ofString push.path)

theorem isTail_of_slash {s t : String} (h : s.toList = '/' :: t.toList) : IsTail (ofString s) := by
  refine .inr ⟨ofString t, ?_⟩
  rw [ofString, h, List.flatMap_cons]
  rfl

theorem Push.isTail (push : Push) : IsTail (ofString push.path) := by
  cases push with
  | upgrade => exact isTail_of_slash (t := "api/upgrade/latest-download") (by decide +kernel)
  | file filename =>
      apply isTail_of_slash (t := "api/upgrade/file/" ++ filename)
      show ("/api/upgrade/file/" ++ filename).toList = _
      rw [String.toList_append, String.toList_append]
      rfl

/-- **The agent's check** compares the hosts of two URLs under the address. -/
theorem validate_iff {fold : Nat → Nat} (cfg : AgentConfig) (lan : LanAddress)
    (package port : Option Nat) (push : Push) :
    validateServerUrl fold { cfg with serverUrl := "http://" ++ hostHeader lan.val package }
        (push.url ("http://" ++ hostHeader lan.val port)) = .ok () ↔
      push.parses = true ∧ equalFold fold (ofString (hostHeader lan.val port))
        (ofString (hostHeader lan.val package)) = true := by
  have hserver : parse (ofString ("http://" ++ hostHeader lan.val package)) =
      some ⟨ofString "http", ofString (hostHeader lan.val package)⟩ := by
    have hparse := parse_serverUrl lan package "" (.inl rfl)
    rwa [String.append_empty, if_pos (by decide)] at hparse
  have hurl := parse_serverUrl lan port push.path push.isTail
  unfold validateServerUrl Push.url
  rw [hurl]
  by_cases hparses : push.parses = true
  · have htail : tailParses (ofString push.path) = true := hparses
    rw [if_pos htail, hparses, hserver]
    dsimp only
    rw [if_neg fun h => h.1 rfl]
    cases equalFold fold (ofString (hostHeader lan.val port))
      (ofString (hostHeader lan.val package)) <;> simp
  · have htail : ¬tailParses (ofString push.path) = true := hparses
    rw [if_neg htail]
    simp [hparses]

theorem LanAddress.ne_empty (lan : LanAddress) : lan.val ≠ "" := by
  obtain ⟨⟨n, _, hn⟩, _⟩ := lan.property
  intro h
  have hdot : '.' ∈ lan.val.toList := by
    rw [hn]
    simp [formatIPv4]
  rw [h] at hdot
  cases hdot

/-- **A pushed address is accepted**, whichever of the two requests was made under `localhost`,
exactly when the header has a port and the path of the push can be parsed. -/
theorem pushed_accepted_iff (fold : Nat → Nat) (cfg : AgentConfig) (lan : LanAddress)
    (port : Option Nat) (push : Push) :
    (pushAccepted fold cfg (hostHeader lan.val port) (hostHeader "localhost" port) lan.val push =
        true ↔ port.isSome = true ∧ push.parses = true) ∧
      (pushAccepted fold cfg (hostHeader "localhost" port) (hostHeader lan.val port) lan.val push =
        true ↔ port.isSome = true ∧ push.parses = true) := by
  have hsame : ∀ p, equalFold fold (ofString (hostHeader lan.val p))
      (ofString (hostHeader lan.val p)) = true := fun p => equalFold_refl fold _
  have hsymm : ∀ s t : GoString, equalFold fold s t = true → equalFold fold t s = true := by
    intro s t h
    exact decide_eq_true (of_decide_eq_true h).symm
  refine ⟨?_, ?_⟩
  · unfold pushAccepted
    rw [resolve_lan, resolve_localhost lan.ne_empty]
    dsimp only
    rw [decide_eq_true_iff, validate_iff, and_comm]
    refine and_congr_left fun _ => ⟨fun h => equalFold_hostHeader lan port (hsymm _ _ h), ?_⟩
    intro hport
    obtain ⟨p, rfl⟩ := Option.isSome_iff_exists.mp hport
    exact hsame (some p)
  · unfold pushAccepted
    rw [resolve_lan, resolve_localhost lan.ne_empty]
    dsimp only
    rw [decide_eq_true_iff, validate_iff, and_comm]
    refine and_congr_left fun _ => ⟨equalFold_hostHeader lan port, ?_⟩
    intro hport
    obtain ⟨p, rfl⟩ := Option.isSome_iff_exists.mp hport
    exact hsame (some p)

def exampleLan : LanAddress :=
  ⟨"10.0.0.1", ⟨167772161, by decide, by decide +kernel⟩, by decide +kernel⟩

/-- The package was made for `http://10.0.0.1`, and the upgrade is pushed from `localhost`: the
agent is sent to port 8080 and refuses. -/
theorem upgrade_refused :
    ¬pushAccepted id ⟨"", "", "t", "s"⟩ (hostHeader exampleLan.val none)
      (hostHeader "localhost" none) exampleLan.val .upgrade = true := by
  decide +kernel

end LanAgent.ServerUrl
