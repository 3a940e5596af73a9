import LanAgent.Go.Http
import LanAgent.ServerUrl

/-!
# Downloads — `file_push` of `agent/handler.go` and `downloadUpgrade` of `agent/upgrade.go`

Both check the host of the address they are given and fetch it with a client that follows redirects
on its own.  `served_by_server_iff` says when what they store has come from the management server.
-/

namespace LanAgent.Downloads

open Go ServerUrl

/-! ## The file's place -/

/-- The functions of `path/filepath` on the agent's system. -/
structure FilePath where
  clean : String → String
  isAbs : String → Bool
  join : String → String → String
  separator : String

inductive NameError where
  | empty
  | absolute (name : String)
  | traversal (name : String)
  | outside (final : String)
  deriving DecidableEq, Repr

/-- `safeJoinUnder`. -/
def safeJoinUnder (path : FilePath) (baseDir name : String) : Except NameError String :=
  if name = "" then .error .empty
  else if path.isAbs name then .error (.absolute name)
  else
    let clean := path.clean name
    if clean = ".." ∨ hasPrefix clean (".." ++ path.separator) = true then .error (.traversal name)
    else
      let final := path.join baseDir clean
      let baseClean := path.clean baseDir
      if final ≠ baseClean ∧ hasPrefix final (baseClean ++ path.separator) = false then
        .error (.outside final)
      else .ok final

theorem safeJoinUnder_joined {path : FilePath} {baseDir name final : String} (hne : name ≠ "")
    (habs : path.isAbs name = false)
    (hclean : ¬(path.clean name = ".." ∨
      hasPrefix (path.clean name) (".." ++ path.separator) = true))
    (hjoin : path.join baseDir (path.clean name) = final)
    (hunder : ¬(final ≠ path.clean baseDir ∧
      hasPrefix final (path.clean baseDir ++ path.separator) = false)) :
    safeJoinUnder path baseDir name = .ok final := by
  unfold safeJoinUnder
  rw [if_neg hne, if_neg (Bool.eq_false_iff.mp habs)]
  dsimp only
  rw [if_neg hclean, hjoin, if_neg hunder]

/-! ## The two downloads -/

/-- What the file system answers. -/
structure Disk where
  creates : Bool
  writes : Bool
  closes : Bool
  opens : Bool

inductive PushError where
  | missing
  | origin (e : DownloadError)
  | directory
  | name (e : NameError)
  | fetch (e : FetchError)
  | status (code : Nat)
  | create
  | write
  | close
  | tooSmall (written : Nat)
  | notExecutable
  deriving DecidableEq, Repr

/-- A file that was stored, and the host that has served its bytes. -/
structure Download where
  path : String
  content : GoString
  servedBy : GoString
  deriving DecidableEq, Repr

/-- The parameters of `file_push`, empty where the command has none. -/
structure PushParams where
  url : String
  filename : String
  destDir : String

def filesDir : String := "C:\\Program Files\\LanAgent\\data\\files"

def PushParams.dir (params : PushParams) : String :=
  if params.destDir = "" then filesDir else params.destDir

/-- `handleCommand`, the case `file_push`. -/
def filePush (fold : Nat → Nat) (path : FilePath) (cfg : AgentConfig) (params : PushParams)
    (replies : List (Option Response)) (disk : Disk) : Except PushError Download :=
  if params.url = "" ∨ params.filename = "" then .error .missing
  else
    match validateServerUrl fold cfg params.url with
    | .error e => .error (.origin e)
    | .ok () =>
        let baseClean := path.clean filesDir
        let dirClean := path.clean params.dir
        if dirClean ≠ baseClean ∧ hasPrefix dirClean (baseClean ++ path.separator) = false then
          .error .directory
        else
          match safeJoinUnder path params.dir params.filename with
          | .error e => .error (.name e)
          | .ok destPath =>
              match httpGet (ofString params.url) replies with
              | .error e => .error (.fetch e)
              -- the status is not looked at
              | .ok (host, response) =>
                  if disk.creates = false then .error .create
                  else if response.complete = false ∨ disk.writes = false then .error .write
                  else .ok ⟨destPath, response.body, host⟩

def minExeSizeBytes : Nat := 1024 * 1024

/-- `isPEExecutable` of the file just written. -/
def isPEExecutable (content : GoString) (disk : Disk) : Bool :=
  disk.opens && content.take 2 = ofString "MZ"

/-- `downloadUpgrade`; `tmpPath` is where the new program is put. -/
def downloadUpgrade (fold : Nat → Nat) (cfg : AgentConfig) (url tmpPath : String)
    (replies : List (Option Response)) (disk : Disk) : Except PushError Download :=
  match validateServerUrl fold cfg url with
  | .error e => .error (.origin e)
  | .ok () =>
      match httpGet (ofString url) replies with
      | .error e => .error (.fetch e)
      | .ok (host, response) =>
          if response.statusCode ≠ 200 then .error (.status response.statusCode)
          else if disk.creates = false then .error .create
          else if response.complete = false ∨ disk.writes = false then .error .write
          else if disk.closes = false then .error .close
          else if response.body.length < minExeSizeBytes then
            .error (.tooSmall response.body.length)
          else if isPEExecutable response.body disk = false then .error .notExecutable
          else .ok ⟨tmpPath, response.body, host⟩

/-! ## The origin -/

/-- The host is that of the configured server. -/
def FromServer (fold : Nat → Nat) (cfg : AgentConfig) (host : GoString) : Prop :=
  ∃ srv, parse (ofString cfg.serverUrl) = some srv ∧ equalFold fold host srv.host = true

section Origin

variable {fold : Nat → Nat} {cfg : AgentConfig}

/-- What the check says about the address. -/
theorem fromServer_of_validate {rawUrl : String} (h : validateServerUrl fold cfg rawUrl = .ok ())
    {url : URL} (hurl : parse (ofString rawUrl) = some url) : FromServer fold cfg url.host := by
  unfold validateServerUrl at h
  rw [hurl] at h
  dsimp only at h
  split at h
  · cases h
  · split at h
    · cases h
    · rename_i srv hsrv
      split at h
      · rename_i hfold
        exact ⟨srv, hsrv, hfold⟩
      · cases h

theorem validate_of_fromServer {rawUrl : String} {url : URL}
    (hurl : parse (ofString rawUrl) = some url) (hscheme : url.scheme = ofString "http")
    (h : FromServer fold cfg url.host) : validateServerUrl fold cfg rawUrl = .ok () := by
  obtain ⟨srv, hsrv, hfold⟩ := h
  unfold validateServerUrl
  rw [hurl]
  dsimp only
  rw [hsrv, if_neg fun hother => hother.1 hscheme]
  dsimp only
  rw [hfold]
  rfl

/-- After the check, the response is the server's unless a redirect has named another host. -/
theorem fromServer_iff {rawUrl : String} (hvalid : validateServerUrl fold cfg rawUrl = .ok ())
    {replies : List (Option Response)} {host : GoString} {response : Response}
    (hget : httpGet (ofString rawUrl) replies = .ok (host, response)) :
    FromServer fold cfg host ↔ ∀ named ∈ lastNamed replies, FromServer fold cfg named := by
  obtain ⟨url, hurl, rfl⟩ := httpGet_host hget
  cases lastNamed replies with
  | none => exact iff_of_true (fromServer_of_validate hvalid hurl) (fun _ hnamed => nomatch hnamed)
  | some named => simp

theorem filePush_eq_ok {path : FilePath} {params : PushParams} {replies : List (Option Response)}
    {disk : Disk} {download : Download}
    (h : filePush fold path cfg params replies disk = .ok download) :
    validateServerUrl fold cfg params.url = .ok () ∧ ∃ response,
      httpGet (ofString params.url) replies = .ok (download.servedBy, response) ∧
        download.content = response.body := by
  unfold filePush at h
  split at h
  · cases h
  · split at h
    · cases h
    · rename_i hvalid
      dsimp only at h
      split at h
      · cases h
      · split at h
        · cases h
        · split at h
          · cases h
          · rename_i host response hget
            split_ifs at h
            cases h
            exact ⟨hvalid, response, hget, rfl⟩

theorem downloadUpgrade_eq_ok {url tmpPath : String} {replies : List (Option Response)}
    {disk : Disk} {download : Download}
    (h : downloadUpgrade fold cfg url tmpPath replies disk = .ok download) :
    validateServerUrl fold cfg url = .ok () ∧ ∃ response,
      httpGet (ofString url) replies = .ok (download.servedBy, response) ∧
        download.content = response.body := by
  unfold downloadUpgrade at h
  split at h
  · cases h
  · rename_i hvalid
    split at h
    · cases h
    · rename_i host response hget
      split_ifs at h
      cases h
      exact ⟨hvalid, response, hget, rfl⟩

theorem filePush_stored {path : FilePath} {params : PushParams} {replies : List (Option Response)}
    {disk : Disk} {destPath : String} {host : GoString} {response : Response}
    (hgiven : ¬(params.url = "" ∨ params.filename = ""))
    (hvalid : validateServerUrl fold cfg params.url = .ok ())
    (hdir : ¬(path.clean params.dir ≠ path.clean filesDir ∧
      hasPrefix (path.clean params.dir) (path.clean filesDir ++ path.separator) = false))
    (hjoin : safeJoinUnder path params.dir params.filename = .ok destPath)
    (hget : httpGet (ofString params.url) replies = .ok (host, response))
    (hcreates : disk.creates = true) (hcomplete : response.complete = true)
    (hwrites : disk.writes = true) :
    filePush fold path cfg params replies disk = .ok ⟨destPath, response.body, host⟩ := by
  unfold filePush
  rw [if_neg hgiven, hvalid]
  dsimp only
  rw [if_neg hdir, hjoin]
  dsimp only
  rw [hget]
  simp [hcreates, hcomplete, hwrites]

theorem downloadUpgrade_stored {url tmpPath : String} {replies : List (Option Response)}
    {disk : Disk} {host : GoString} {response : Response}
    (hvalid : validateServerUrl fold cfg url = .ok ())
    (hget : httpGet (ofString url) replies = .ok (host, response))
    (hstatus : response.statusCode = 200) (hcomplete : response.complete = true)
    (hdisk : disk.creates = true ∧ disk.writes = true ∧ disk.closes = true)
    (hlength : ¬response.body.length < minExeSizeBytes)
    (hexecutable : isPEExecutable response.body disk = true) :
    downloadUpgrade fold cfg url tmpPath replies disk = .ok ⟨tmpPath, response.body, host⟩ := by
  unfold downloadUpgrade
  rw [hvalid]
  dsimp only
  rw [hget]
  simp [hstatus, hcomplete, hdisk, hlength, hexecutable]

end Origin

/-- **What is stored has come from the server**, for a pushed file and for an upgrade, exactly when
the last host that the redirects name, if they name one, is the server's. -/
theorem served_by_server_iff (fold : Nat → Nat) (path : FilePath) (cfg : AgentConfig)
    (params : PushParams) (url tmpPath : String) (replies : List (Option Response)) (disk : Disk) :
    (∀ download, filePush fold path cfg params replies disk = .ok download →
        (FromServer fold cfg download.servedBy ↔
          ∀ named ∈ lastNamed replies, FromServer fold cfg named)) ∧
      ∀ download, downloadUpgrade fold cfg url tmpPath replies disk = .ok download →
        (FromServer fold cfg download.servedBy ↔
          ∀ named ∈ lastNamed replies, FromServer fold cfg named) := by
  refine ⟨fun download h => ?_, fun download h => ?_⟩
  · obtain ⟨hvalid, response, hget, _⟩ := filePush_eq_ok h
    exact fromServer_iff hvalid hget
  · obtain ⟨hvalid, response, hget, _⟩ := downloadUpgrade_eq_ok h
    exact fromServer_iff hvalid hget

/-! ### An upgrade that is fetched as it should be, and a file that is redirected -/

def installed : AgentConfig := ⟨"http://10.0.0.1:8080", "", "t", "s"⟩

/-- Clean relative names. -/
def plainPaths : FilePath where
  clean name := name
  isAbs _ := false
  join dir name := dir ++ "\\" ++ name
  separator := "\\"

def pushed : PushParams where
  url := "http://10.0.0.1:8080/api/upgrade/file/a.exe"
  filename := "a.exe"
  destDir := ""

def workingDisk : Disk := ⟨true, true, true, true⟩

def newProgram : GoString := ofString "MZ" ++ List.replicate minExeSizeBytes 0

theorem parse_server :
    parse (ofString installed.serverUrl) = some ⟨ofString "http", ofString "10.0.0.1:8080"⟩ := by
  rw [installed, ofString_ofList, ofString_ofList, ofString_ofList]
  rfl

theorem fromServer_server : FromServer id installed (ofString "10.0.0.1:8080") :=
  ⟨_, parse_server, equalFold_refl _ _⟩

theorem parse_pushed :
    parse (ofString pushed.url) = some ⟨ofString "http", ofString "10.0.0.1:8080"⟩ := by
  rw [pushed, ofString_ofList, ofString_ofList, ofString_ofList]
  rfl

theorem sendError_server : sendError ⟨ofString "http", ofString "10.0.0.1:8080"⟩ = none :=
  sendError_http (by decide)

theorem pushed_given : ¬(pushed.url = "" ∨ pushed.filename = "") := by decide

theorem safeJoin_pushed :
    safeJoinUnder plainPaths pushed.dir pushed.filename = .ok (filesDir ++ "\\a.exe") := by
  have hdir : pushed.dir = filesDir := if_pos rfl
  have hjoin : plainPaths.join filesDir (plainPaths.clean "a.exe") = filesDir ++ "\\a.exe" := by
    show filesDir ++ "\\" ++ "a.exe" = _
    rw [String.append_assoc]
    rfl
  have hunder : hasPrefix (filesDir ++ "\\a.exe") (plainPaths.clean filesDir ++ "\\") = true := by
    show hasPrefix (filesDir ++ "\\a.exe") (filesDir ++ "\\") = true
    rw [hasPrefix, List.isPrefixOf_iff_prefix, String.toList_append, String.toList_append]
    exact (List.prefix_append_right_inj _).mpr ⟨"a.exe".toList, rfl⟩
  rw [hdir]
  exact safeJoinUnder_joined (by decide) rfl (by decide) hjoin
    fun h => Bool.false_ne_true (h.2.symm.trans hunder)

theorem upgrade_served : FromServer id installed (ofString "10.0.0.1:8080") := by
  have hparse : parse (ofString "http://10.0.0.1:8080/api/upgrade/latest-download") =
      some ⟨ofString "http", ofString "10.0.0.1:8080"⟩ := by
    rw [ofString_ofList, ofString_ofList, ofString_ofList]
    rfl
  have hvalid := validate_of_fromServer hparse rfl fromServer_server
  have hget : httpGet (ofString "http://10.0.0.1:8080/api/upgrade/latest-download")
      [some ⟨200, [], newProgram, true⟩] =
        .ok (ofString "10.0.0.1:8080", ⟨200, [], newProgram, true⟩) := by
    rw [httpGet, hparse]
    exact clientDo_direct sendError_server rfl
  have hstored : downloadUpgrade id installed "http://10.0.0.1:8080/api/upgrade/latest-download"
      "C:\\Windows\\Temp\\LanAgent_new.exe" [some ⟨200, [], newProgram, true⟩] workingDisk =
        .ok ⟨"C:\\Windows\\Temp\\LanAgent_new.exe", newProgram, ofString "10.0.0.1:8080"⟩ := by
    have hlength : ¬newProgram.length < minExeSizeBytes := by
      rw [newProgram, List.length_append, List.length_replicate]
      omega
    have hexecutable : isPEExecutable newProgram workingDisk = true := by
      have htake : newProgram.take 2 = ofString "MZ" := List.take_left' (by decide)
      rw [isPEExecutable, htake]
      rfl
    exact downloadUpgrade_stored hvalid hget rfl rfl ⟨rfl, rfl, rfl⟩ hlength hexecutable
  have hnamed : lastNamed [some ⟨200, [], newProgram, true⟩] = none := rfl
  refine ((served_by_server_iff id plainPaths installed pushed
    "http://10.0.0.1:8080/api/upgrade/latest-download" "C:\\Windows\\Temp\\LanAgent_new.exe"
    [some ⟨200, [], newProgram, true⟩] workingDisk).2 _ hstored).mpr ?_
  rw [hnamed]
  exact fun _ hmem => absurd hmem (Option.not_mem_none _)

/-- The server's answer is a redirect. -/
def redirected : List (Option Response) :=
  [some ⟨302, ofString "http://evil.example.com/payload.exe", [], true⟩,
    some ⟨200, [], ofString "MZ", true⟩]

/-- The file is stored with what the other host has sent. -/
theorem redirect_followed :
    ¬∀ download, filePush id plainPaths installed pushed redirected workingDisk = .ok download →
      FromServer id installed download.servedBy := by
  intro h
  have hnext : resolveReference ⟨ofString "http", ofString "10.0.0.1:8080"⟩
      (ofString "http://evil.example.com/payload.exe") =
        some ⟨ofString "http", ofString "evil.example.com"⟩ := by
    rw [ofString_ofList, ofString_ofList, ofString_ofList, ofString_ofList]
    rfl
  have hget : httpGet (ofString pushed.url) redirected =
      .ok (ofString "evil.example.com", ⟨200, [], ofString "MZ", true⟩) := by
    have hredirects :
        (Response.mk 302 (ofString "http://evil.example.com/payload.exe") [] true).redirects =
          true := by
      rw [ofString_ofList]
      rfl
    rw [httpGet, parse_pushed]
    exact (clientDo_redirect sendError_server hredirects hnext (by decide)).trans
      (clientDo_direct (sendError_http (by decide)) rfl)
  have hstored : filePush id plainPaths installed pushed redirected workingDisk =
      .ok ⟨filesDir ++ "\\a.exe", ofString "MZ", ofString "evil.example.com"⟩ := by
    exact filePush_stored pushed_given (validate_of_fromServer parse_pushed rfl fromServer_server)
      (fun h => h.1 rfl) safeJoin_pushed hget rfl rfl rfl
  obtain ⟨srv, hsrv, hfold⟩ := h _ hstored
  rw [parse_server] at hsrv
  cases hsrv
  exact absurd hfold (by decide)

end LanAgent.Downloads
