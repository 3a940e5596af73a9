import LanAgent.ServerUrl

/-!
# The deploy file — `api/deploy_routes.py` and `agent/main.go`

The server writes its address and the enrolment secret into `deploy.conf`, one to a line, and the
agent that is installed from the package reads them back.  `read_back_iff` says which texts survive.
-/

namespace LanAgent.DeployConf

open Python Go ServerUrl

/-! ## The server -/

/-- `s.encode("ascii")`; `none` where it raises `UnicodeEncodeError`. -/
def encodeAscii (s : String) : Option GoString := if isAscii s then some (ofString s) else none

def deployConf (serverUrl secret : String) : String :=
  "# LAN Agent deploy config\n" ++ ("server=" ++ serverUrl ++ "\n") ++
    ("enroll=" ++ secret ++ "\n")

/-- The `deploy.conf` of `download_deploy_package`; `agentExe` tells whether the server holds an
agent to pack. -/
def downloadDeployPackage (config : Config) (agentExe : Bool) (hostHeader lanIp : Option String) :
    Except HttpError GoString :=
  match resolveServerUrl hostHeader lanIp with
  | .error e => .error e
  | .ok serverUrl =>
      if agentExe = false then .error ⟨500, "LanAgent.exe not found on server"⟩
      else
        match encodeAscii (deployConf serverUrl (enrollSecret config)) with
        | none => .error internalServerError
        | some file => .ok file

/-! ## The agent -/

inductive DeployConfError where
  | notFound
  | missingServer
  deriving DecidableEq, Repr

structure Settings where
  serverUrl : GoString := []
  token : GoString := []
  enrollSecret : GoString := []
  deriving DecidableEq, Repr

def newline : UInt8 := 0x0a
def hash : UInt8 := 0x23
def equals : UInt8 := 0x3d

def setSetting (settings : Settings) (key val : GoString) : Settings :=
  if key = ofString "server" then { settings with serverUrl := val }
  else if key = ofString "enroll" then { settings with enrollSecret := val }
  else if key = ofString "token" then { settings with token := val }
  else settings

/-- The body of the loop over the lines. -/
def readLine (settings : Settings) (line : GoString) : Settings :=
  let line := trimSpace line
  if line.head? = some hash ∨ line = [] then settings
  else if equals ∉ line then settings
  else
    let (key, val) := cut line equals
    setSetting settings (trimSpace key) (trimSpace val)

/-- `loadDeployConf`; of the candidates those that cannot be read are `none`. -/
def loadDeployConf (candidates : List (Option GoString)) : Except DeployConfError Settings :=
  match candidates.findSome? id with
  | none => .error .notFound
  | some data =>
      let settings := (split newline data).foldl readLine {}
      if settings.serverUrl = [] then .error .missingServer else .ok settings

/-! ## What the agent can read -/

/-- A line of ASCII text without spaces at its ends. -/
def Portable (s : String) : Prop :=
  isAscii s = true ∧ newline ∉ ofString s ∧ Trimmed (ofString s)

/-- The package is made, and the agent unpacked from it reads the address, the secret and no
token. -/
def ReadsBack (config : Config) (agentExe : Bool) (hostHeader lanIp : Option String)
    (serverUrl : String) : Prop :=
  ∃ file, downloadDeployPackage config agentExe hostHeader lanIp = .ok file ∧
    ∀ others, loadDeployConf (some file :: others) =
      .ok ⟨ofString serverUrl, [], ofString (enrollSecret config)⟩

/-- What a line of the file can set. -/
def Readable (s : GoString) : Prop := newline ∉ s ∧ Trimmed s

theorem readable_nil : Readable [] := by
  refine ⟨List.not_mem_nil, ?_, ?_⟩ <;> exact fun b hb => nomatch hb

theorem readable_trimSpace {s : GoString} (h : newline ∉ s) : Readable (trimSpace s) :=
  ⟨fun hmem => h (mem_of_mem_trimSpace hmem), trimmed_trimSpace s⟩

structure Settings.Readable (settings : Settings) : Prop where
  serverUrl : DeployConf.Readable settings.serverUrl
  enrollSecret : DeployConf.Readable settings.enrollSecret

theorem mem_of_mem_cut_snd {s : GoString} {sep b : UInt8} (h : b ∈ (cut s sep).2) : b ∈ s :=
  (List.dropWhile_suffix _).mem ((List.drop_suffix 1 _).mem h)

theorem readLine_readable {settings : Settings} (h : settings.Readable) {line : GoString}
    (hline : newline ∉ line) : (readLine settings line).Readable := by
  have hval : Readable (trimSpace (cut (trimSpace line) equals).2) := by
    refine readable_trimSpace fun hmem => hline ?_
    exact mem_of_mem_trimSpace (mem_of_mem_cut_snd hmem)
  unfold readLine
  dsimp only
  split
  · exact h
  · split
    · exact h
    · unfold setSetting
      split
      · exact ⟨hval, h.enrollSecret⟩
      · split
        · exact ⟨h.serverUrl, hval⟩
        · split
          · exact ⟨h.serverUrl, h.enrollSecret⟩
          · exact h

theorem foldl_readable {lines : List GoString} (hlines : ∀ line ∈ lines, newline ∉ line)
    {settings : Settings} (h : settings.Readable) : (lines.foldl readLine settings).Readable := by
  induction lines generalizing settings with
  | nil => exact h
  | cons line lines ih =>
      rw [List.foldl_cons]
      exact ih (fun line hl => hlines line (List.mem_cons_of_mem _ hl))
        (readLine_readable h (hlines line List.mem_cons_self))

/-- **Whatever the file**, the agent reads lines without spaces at their ends. -/
theorem loadDeployConf_readable {candidates : List (Option GoString)} {settings : Settings}
    (h : loadDeployConf candidates = .ok settings) : settings.Readable := by
  unfold loadDeployConf at h
  split at h
  · cases h
  · dsimp only at h
    split at h
    · cases h
    · cases h
      exact foldl_readable (fun line hline => sep_not_mem_split hline)
        ⟨readable_nil, readable_nil⟩

/-! ## Reading a setting back -/

theorem ofString_lt {s : String} (h : isAscii s = true) : ∀ b ∈ ofString s, b < 0x80 := by
  have hascii : ∀ c ∈ s.toList, c.toNat < 128 := by
    intro c hc
    exact of_decide_eq_true (List.all_eq_true.mp h c hc)
  rw [ofString_ascii hascii]
  intro b hb
  obtain ⟨c, hc, rfl⟩ := List.mem_map.mp hb
  have hlt : c.val.toNat < 128 := hascii c hc
  have hbyte : c.toUInt8.toNat = c.val.toNat % 256 := rfl
  rw [UInt8.lt_iff_toNat_lt, hbyte]
  show _ < 128
  omega

section Setting

variable {key : GoString} (hne : key ≠ [])
  (hkey : ∀ b ∈ key, b < 0x80 ∧ isAsciiSpace b = false ∧ b ≠ hash ∧ b ≠ equals)

include hkey

theorem trimSpace_key : trimSpace key = key := by
  refine trimSpace_of_trimmed (fun b hb => (hkey b hb).1) ⟨?_, ?_⟩
  · exact fun b hb => (hkey b (List.mem_of_mem_head? hb)).2.1
  · exact fun b hb => (hkey b (List.mem_of_mem_getLast? hb)).2.1

include hne

theorem trimmed_setting {value : GoString} (hvalue : Trimmed value) :
    Trimmed (key ++ equals :: value) := by
  refine ⟨?_, ?_⟩
  · intro b hb
    cases key with
    | nil => exact absurd rfl hne
    | cons c key =>
        cases hb
        exact (hkey b List.mem_cons_self).2.1
  · intro b hb
    rw [List.getLast?_append_cons, List.getLast?_cons] at hb
    cases hlast : value.getLast? with
    | none =>
        -- an empty value leaves the sign at the end
        rw [hlast] at hb
        cases hb
        decide
    | some c =>
        rw [hlast, Option.getD_some] at hb
        obtain rfl : c = b := Option.some.inj hb
        exact hvalue.2 c hlast

theorem setting_not_comment {value : GoString} :
    ¬((key ++ equals :: value).head? = some hash ∨ key ++ equals :: value = []) := by
  cases key with
  | nil => exact absurd rfl hne
  | cons c key =>
      rintro (h | h)
      · exact (hkey c List.mem_cons_self).2.2.1 (Option.some.inj h)
      · cases h

/-- A line `key=value` with a value that can be read sets the key. -/
theorem readLine_setting {settings : Settings} {value : String} (hvalue : Portable value) :
    readLine settings (key ++ equals :: ofString value) =
      setSetting settings key (ofString value) := by
  obtain ⟨hascii, _, htrimmed⟩ := hvalue
  have hlt := ofString_lt hascii
  have hline : ∀ b ∈ key ++ equals :: ofString value, b < 0x80 := by
    intro b hb
    rcases List.mem_append.mp hb with hb | hb
    · exact (hkey b hb).1
    · rcases List.mem_cons.mp hb with rfl | hb
      · decide
      · exact hlt b hb
  have hcut : cut (key ++ equals :: ofString value) equals = (key, ofString value) := by
    rw [cut_append fun h => (hkey equals h).2.2.2 rfl, cut_sep, List.append_nil]
  have hequals : ¬equals ∉ key ++ equals :: ofString value := by simp
  unfold readLine
  dsimp only
  rw [trimSpace_of_trimmed hline (trimmed_setting hne hkey htrimmed),
    if_neg (setting_not_comment hne hkey), if_neg hequals, hcut, trimSpace_key hkey,
    trimSpace_of_trimmed hlt htrimmed]

end Setting

section File

variable {serverUrl secret : String}

theorem isAscii_append (s t : String) : isAscii (s ++ t) = (isAscii s && isAscii t) := by
  simp [isAscii]

theorem isAscii_deployConf : isAscii (deployConf serverUrl secret) = true ↔
    isAscii serverUrl = true ∧ isAscii secret = true := by
  have hfixed : isAscii "\n" = true ∧ isAscii "# LAN Agent deploy config\n" = true ∧
      isAscii "server=" = true ∧ isAscii "enroll=" = true := by decide
  unfold deployConf
  simp [isAscii_append, hfixed]

theorem split_deployConf (hserver : newline ∉ ofString serverUrl)
    (hsecret : newline ∉ ofString secret) :
    split newline (ofString (deployConf serverUrl secret)) =
      [ofString "# LAN Agent deploy config", ofString "server" ++ equals :: ofString serverUrl,
        ofString "enroll" ++ equals :: ofString secret, []] := by
  have hfile : ofString (deployConf serverUrl secret) =
      ofString "# LAN Agent deploy config" ++ newline ::
        ((ofString "server" ++ equals :: ofString serverUrl) ++ newline ::
          ((ofString "enroll" ++ equals :: ofString secret) ++ newline :: [])) := by
    have hcomment : ofString "# LAN Agent deploy config\n" =
        ofString "# LAN Agent deploy config" ++ [newline] := by decide
    have hkeys : ofString "server=" = ofString "server" ++ [equals] ∧
        ofString "enroll=" = ofString "enroll" ++ [equals] := by decide
    have hnl : ofString "\n" = [newline] := by decide
    unfold deployConf
    simp only [ofString_append, hcomment, hkeys, hnl, List.append_assoc, List.cons_append,
      List.nil_append]
  have hkeys : newline ∉ ofString "# LAN Agent deploy config" ∧ newline ∉ ofString "server" ∧
      newline ∉ ofString "enroll" := by decide
  have hline : ∀ key value : GoString, newline ∉ key → newline ∉ value →
      newline ∉ key ++ equals :: value := by
    intro key value hkey hvalue hmem
    rcases List.mem_append.mp hmem with h | h
    · exact hkey h
    · rcases List.mem_cons.mp h with h | h
      · exact absurd h (by decide)
      · exact hvalue h
  rw [hfile, split_append hkeys.1, split_append (hline _ _ hkeys.2.1 hserver),
    split_append (hline _ _ hkeys.2.2 hsecret), split]

theorem readLine_comment : readLine {} (ofString "# LAN Agent deploy config") = {} := by decide

theorem loadDeployConf_deployConf (hne : ofString serverUrl ≠ []) (hserver : Portable serverUrl)
    (hsecret : Portable secret) (others : List (Option GoString)) :
    loadDeployConf (some (ofString (deployConf serverUrl secret)) :: others) =
      .ok ⟨ofString serverUrl, [], ofString secret⟩ := by
  have hserverKey : ∀ b ∈ ofString "server",
      b < 0x80 ∧ isAsciiSpace b = false ∧ b ≠ hash ∧ b ≠ equals := by decide +kernel
  have henrollKey : ∀ b ∈ ofString "enroll",
      b < 0x80 ∧ isAsciiSpace b = false ∧ b ≠ hash ∧ b ≠ equals := by decide +kernel
  have hend : ∀ settings : Settings, readLine settings [] = settings := fun _ => rfl
  have hfold : (split newline (ofString (deployConf serverUrl secret))).foldl readLine {} =
      ⟨ofString serverUrl, [], ofString secret⟩ := by
    rw [split_deployConf hserver.2.1 hsecret.2.1]
    simp only [List.foldl_cons, List.foldl_nil]
    rw [readLine_comment, readLine_setting (by decide) hserverKey hserver,
      readLine_setting (by decide) henrollKey hsecret, hend]
    rfl
  unfold loadDeployConf
  rw [List.findSome?_cons]
  dsimp only [id]
  rw [hfold, if_neg hne]

end File

theorem resolveServerUrl_ne_nil {hostHeader lanIp : Option String} {serverUrl : String}
    (h : resolveServerUrl hostHeader lanIp = .ok serverUrl) : ofString serverUrl ≠ [] := by
  have hhttp : ∀ s, ofString ("http://" ++ s) ≠ [] := by
    intro s hs
    rw [ofString_append] at hs
    exact absurd (List.append_eq_nil_iff.mp hs).1 (by decide)
  unfold resolveServerUrl at h
  dsimp only at h
  split at h
  · split at h
    · cases h
    · cases h
      exact hhttp _
  · cases h
    exact hhttp _

/-- **The agent reads back what was packaged** exactly when the server holds an agent to pack and
address and secret are lines of ASCII text without spaces at their ends. -/
theorem read_back_iff (config : Config) (agentExe : Bool) (hostHeader lanIp : Option String)
    (serverUrl : String) (h : resolveServerUrl hostHeader lanIp = .ok serverUrl) :
    ReadsBack config agentExe hostHeader lanIp serverUrl ↔
      agentExe = true ∧ Portable serverUrl ∧ Portable (enrollSecret config) := by
  unfold ReadsBack downloadDeployPackage
  rw [h]
  dsimp only
  apply Iff.intro
  · rintro ⟨file, hfile, hload⟩
    split at hfile
    · cases hfile
    · rename_i hexe
      refine ⟨Bool.not_eq_false _ ▸ hexe, ?_⟩
      have hread := loadDeployConf_readable (hload [])
      unfold encodeAscii at hfile
      split at hfile
      · cases hfile
      · rename_i _ hencode
        split at hencode
        · rename_i hascii
          obtain ⟨hserver, hsecret⟩ := isAscii_deployConf.mp hascii
          exact ⟨⟨hserver, hread.serverUrl⟩, hsecret, hread.enrollSecret⟩
        · cases hencode
  · rintro ⟨rfl, hserver, hsecret⟩
    rw [if_neg Bool.noConfusion, encodeAscii,
      if_pos (isAscii_deployConf.mpr ⟨hserver.1, hsecret.1⟩)]
    refine ⟨_, rfl, ?_⟩
    exact loadDeployConf_deployConf (resolveServerUrl_ne_nil h) hserver hsecret

instance (s : GoString) : Decidable (Trimmed s) :=
  decidable_of_iff ((s.head?.all fun b => !isAsciiSpace b) = true ∧
    (s.getLast?.all fun b => !isAsciiSpace b) = true) (by simp [Trimmed, Option.all_eq_true])

instance (s : String) : Decidable (Portable s) := inferInstanceAs (Decidable (_ ∧ _ ∧ _))

theorem read_back_plain :
    ReadsBack exampleConfig true (some "10.0.0.1:8080") none "http://10.0.0.1:8080" :=
  (read_back_iff exampleConfig true (some "10.0.0.1:8080") none "http://10.0.0.1:8080"
    (by decide)).mpr (by decide)

/-- The configured secret ends with a space: the agent reads it without. -/
theorem space_lost :
    ¬ReadsBack ⟨"k", "s "⟩ true (some "10.0.0.1:8080") none "http://10.0.0.1:8080" := by
  rintro ⟨file, hfile, hload⟩
  have hmade : downloadDeployPackage ⟨"k", "s "⟩ true (some "10.0.0.1:8080") none =
      .ok (ofString (deployConf "http://10.0.0.1:8080" "s ")) := by
    have hurl : resolveServerUrl (some "10.0.0.1:8080") none = .ok "http://10.0.0.1:8080" := by
      decide
    have hencoded : encodeAscii (deployConf "http://10.0.0.1:8080" (enrollSecret ⟨"k", "s "⟩)) =
        some (ofString (deployConf "http://10.0.0.1:8080" "s ")) :=
      if_pos (isAscii_deployConf.mpr (by decide))
    rw [downloadDeployPackage, hurl]
    dsimp only
    rw [hencoded, if_neg (by decide)]
  have hread : loadDeployConf [some (ofString (deployConf "http://10.0.0.1:8080" "s "))] =
      .ok ⟨ofString "http://10.0.0.1:8080", [], ofString "s"⟩ := by
    rw [loadDeployConf, List.findSome?_cons]
    dsimp only [id]
    rw [split_deployConf (by decide) (by decide)]
    simp only [List.foldl_cons, List.foldl_nil]
    rw [readLine_comment, ofString_ofList, ofString_ofList, ofString_ofList, ofString_ofList]
    rfl
  rw [hmade] at hfile
  cases hfile
  have hsame := (hload []).symm.trans hread
  cases hsame

end LanAgent.DeployConf
