import LanAgent.ConfigFile
import LanAgent.DeployConf
import LanAgent.WsRoutes

/-!
# Deployment — from the package of the server to the socket of the agent

`main` of `agent/main.go` reads the `deploy.conf` of the package, draws a token if there is none in
it, and writes `config.json`; the service reads that file, registers with its first heartbeat and
saves the device id of the answer, under which its socket is let in.  `deployed_agent_connects` goes
through the whole chain.
-/

namespace LanAgent.Deployment

open Library Sqlite Go Install ConfigFile DeployConf ServerUrl

/-! ## The token of an installation -/

/-- What `rand.Read` fills. -/
abbrev TokenBytes := Vector UInt8 16

/-- `%x` of a slice. -/
def hexText (bytes : List UInt8) : List Char :=
  bytes.flatMap fun b => [Nat.digitChar (b.toNat / 16), Nat.digitChar (b.toNat % 16)]

def generateToken (random : TokenBytes) : String :=
  let b := random.toList
  String.ofList (hexText (b.take 4) ++ '-' :: (hexText ((b.drop 4).take 2) ++
    '-' :: (hexText ((b.drop 6).take 2) ++ '-' :: (hexText ((b.drop 8).take 2) ++
      '-' :: hexText (b.drop 10)))))

theorem digitChar_injective : ∀ m < 16, ∀ n < 16, Nat.digitChar m = Nat.digitChar n → m = n := by
  decide

theorem digitChar_plain : ∀ n < 16, Nat.digitChar n ≠ '-' ∧ 0x20 ≤ (Nat.digitChar n).toNat ∧
    (Nat.digitChar n).toNat < 0x7f := by
  decide

theorem mem_hexText {bytes : List UInt8} {c : Char} (h : c ∈ hexText bytes) :
    c ≠ '-' ∧ 0x20 ≤ c.toNat ∧ c.toNat < 0x7f := by
  obtain ⟨b, -, hc⟩ := List.mem_flatMap.mp h
  have hb := b.toNat_lt
  rcases List.mem_cons.mp hc with rfl | hc
  · exact digitChar_plain _ (by omega)
  · rw [List.mem_singleton.mp hc]
    exact digitChar_plain _ (by omega)

theorem hexText_injective {bytes bytes' : List UInt8} (h : hexText bytes = hexText bytes') :
    bytes = bytes' := by
  induction bytes generalizing bytes' with
  | nil =>
      cases bytes' with
      | nil => rfl
      | cons b' bytes' => cases h
  | cons b bytes ih =>
      cases bytes' with
      | nil => cases h
      | cons b' bytes' =>
          rw [hexText, List.flatMap_cons, hexText, List.flatMap_cons] at h
          obtain ⟨hhigh, hrest⟩ := List.cons.inj h
          obtain ⟨hlow, hrest⟩ := List.cons.inj hrest
          have hb := b.toNat_lt
          have hb' := b'.toNat_lt
          have hdiv := digitChar_injective _ (by omega) _ (by omega) hhigh
          have hmod := digitChar_injective _ (by omega) _ (by omega) hlow
          have hsame : b = b' := UInt8.toNat_inj.mp (by omega)
          rw [hsame, ih hrest]

/-- The digits of a token are those of all its bytes. -/
theorem filter_generateToken (random : TokenBytes) :
    (generateToken random).toList.filter (fun c => c ≠ '-') = hexText random.toList := by
  have hkeep : ∀ bytes, (hexText bytes).filter (fun c => c ≠ '-') = hexText bytes := by
    intro bytes
    rw [List.filter_eq_self]
    exact fun c hc => decide_eq_true (mem_hexText hc).1
  have hdash : ∀ cs, ('-' :: cs : List Char).filter (fun c => c ≠ '-') =
      cs.filter (fun c => c ≠ '-') :=
    fun cs => List.filter_cons_of_neg (by decide)
  have hjoin : ∀ b : List UInt8, hexText (b.take 4) ++ (hexText ((b.drop 4).take 2) ++
      (hexText ((b.drop 6).take 2) ++ (hexText ((b.drop 8).take 2) ++ hexText (b.drop 10)))) =
        hexText b := by
    intro b
    have hpart : ∀ i n, (b.drop i).take n ++ b.drop (i + n) = b.drop i := by
      intro i n
      rw [← List.drop_drop, List.take_append_drop]
    simp only [hexText, ← List.flatMap_append]
    rw [hpart 8 2, hpart 6 2, hpart 4 2, List.take_append_drop]
  rw [generateToken, String.toList_ofList]
  simp only [List.filter_append, hdash, hkeep]
  exact hjoin _

/-- **Two installations have one token** only if they drew the same bytes. -/
theorem generateToken_injective {random random' : TokenBytes}
    (h : generateToken random = generateToken random') : random = random' := by
  have hdigits : hexText random.toList = hexText random'.toList := by
    rw [← filter_generateToken, ← filter_generateToken, h]
  exact Vector.toList_inj.mp (hexText_injective hdigits)

theorem mem_generateToken {random : TokenBytes} {c : Char}
    (h : c ∈ (generateToken random).toList) : 0x20 ≤ c.toNat ∧ c.toNat < 0x7f := by
  rw [generateToken, String.toList_ofList] at h
  simp only [List.mem_append, List.mem_cons] at h
  have hdash : 0x20 ≤ ('-' : Char).toNat ∧ ('-' : Char).toNat < 0x7f := by decide
  rcases h with h | rfl | h | rfl | h | rfl | h | rfl | h
  all_goals first
    | exact (mem_hexText h).2
    | exact hdash

theorem isAscii_generateToken (random : TokenBytes) :
    Python.isAscii (generateToken random) = true := by
  refine List.all_eq_true.mpr fun c hc => ?_
  have hrange := mem_generateToken hc
  exact decide_eq_true (by omega)

theorem generateToken_ne_empty (random : TokenBytes) : generateToken random ≠ "" := by
  have hdash : '-' ∈ (generateToken random).toList := by
    rw [generateToken, String.toList_ofList]
    simp
  rintro hempty
  rw [hempty] at hdash
  cases hdash

/-! ## Heartbeats over HTTP -/

/-- `httpguts.ValidHeaderFieldValue`: another value is not sent. -/
def validHeaderValue (value : String) : Bool :=
  value.toList.all fun c => c = '\t' || (0x20 ≤ c.toNat && c.toNat ≠ 0x7f)

/-- `sendHeartbeat` where the server is reached: the table it leaves and the configuration of the
agent. -/
def sendHeartbeat (config : Config) (devices : Devices) (cfg : StoredConfig) (machine : Machine)
    (status : String) (info : Option SysInfo) (draw : Draw) : Devices × StoredConfig :=
  if validHeaderValue ("Bearer " ++ cfg.token) = false ∨
      validHeaderValue cfg.enrollSecret = false then
    (devices, cfg)
  else
    let payload := heartbeatPayload cfg.toAgentConfig machine status info
    let result := agentHeartbeat config devices payload (heartbeatHeaders cfg.toAgentConfig) draw
    match result.2 with
    | .ok answer =>
        (result.1, { cfg with toAgentConfig := saveDeviceId cfg.toAgentConfig answer.deviceId })
    | .error _ => (result.1, cfg)

/-- `main` with a `deploy.conf`, to the first heartbeat of the service: what the server stores and
the configuration that is saved; `none` where there is no installation. -/
def deploy (config : Config) (devices : Devices) (file : GoString) (random : TokenBytes)
    (machine : Machine) (info : Option SysInfo) (draw : Draw) : Option (Devices × StoredConfig) :=
  match loadDeployConf [some file] with
  | .error _ => none
  | .ok settings =>
      let token := if settings.token = [] then generateToken random else toText settings.token
      let params : InstallParams :=
        ⟨toText settings.serverUrl, token, toText settings.enrollSecret⟩
      match loadConfig (some (cfgData params)) with
      | .error _ => none
      | .ok cfg => some (sendHeartbeat config devices cfg machine "online" info draw)

/-! ## The first heartbeat -/

/-- A sender without a device id is let in with the secret, and the record it is given has its
token. -/
theorem enrolled (config : Config) (devices : Devices) (payload : HeartbeatRequest)
    (headers : Headers) (draw : Draw) (hsecret : enrollSecretValid config headers = true)
    (hbinds : payload.binds = true) (hid : payload.deviceId = some "")
    (hip : payload.ip ≠ "") (hbearer : bearerToken headers ≠ "")
    (hfresh : ∀ d ∈ devices, d.id ≠ draw.id.val) (hids : ∀ d ∈ devices, d.id ≠ "")
    (htokens : ∀ d ∈ devices, d.ip = some payload.ip → d.token ≠ "") :
    ∃ answer d, (agentHeartbeat config devices payload headers draw).2 = .ok answer ∧
      answer.deviceId ≠ "" ∧
        (agentHeartbeat config devices payload headers draw).1.find? answer.deviceId = some d ∧
          d.token = bearerToken headers := by
  have hmatched : ∀ d, matchDevice devices payload = some d →
      d ∈ devices ∧ d.ip = some payload.ip := by
    intro d hmatch
    rw [matchDevice, hid] at hmatch
    have hnone : deviceById devices (some "") = none := by
      rw [deviceById, if_neg (fun h => h rfl)]
    rw [hnone] at hmatch
    dsimp only at hmatch
    rw [if_pos hip] at hmatch
    exact latestByIp_eq_some hmatch
  have hcase := handleHeartbeat_outcome config devices payload headers (bearerToken headers) draw
  unfold agentHeartbeat
  generalize handleHeartbeat config devices payload headers (bearerToken headers) draw = result
    at hcase
  cases hcase with
  | updated d hmatch htoken _ =>
      obtain ⟨hmem, hat⟩ := hmatched d hmatch
      refine ⟨_, refreshDevice d payload draw.now, rfl, hids d hmem, ?_, ?_⟩
      · dsimp only
        rw [Table.find?_updateKey_self]
        have hfind : devices.find? d.id = some d := Table.find?_key hmem
        rw [hfind]
        rfl
      · rw [refreshDevice_token]
        rcases htoken with hempty | hsame
        · exact absurd hempty (htokens d hmem hat)
        · exact hsame.symm
  | reEnrolled d hmatch _ _ _ =>
      obtain ⟨hmem, -⟩ := hmatched d hmatch
      refine ⟨_, adoptDevice d payload (bearerToken headers) draw.now, rfl, hids d hmem, ?_, ?_⟩
      · dsimp only
        rw [Table.find?_updateKey_self]
        have hfind : devices.find? d.id = some d := Table.find?_key hmem
        rw [hfind]
        rfl
      · rw [adoptDevice_token]
  | created devices' _ _ _ hinsert =>
      refine ⟨_, registerDevice payload (bearerToken headers) draw, rfl, draw.id.ne_empty, ?_, ?_⟩
      · have hfind := Table.find?_key ((Table.mem_insert? hinsert).mpr (.inr rfl))
        rwa [registerDevice_id] at hfind
      · rw [registerDevice_token, if_pos hbearer]
  | wrongToken _ _ _ hrefused => exact absurd (.inr hsecret) hrefused
  | wrongSecret _ hwrong =>
      rw [hsecret] at hwrong
      cases hwrong
  | notBound hwrong =>
      rw [hbinds] at hwrong
      cases hwrong
  | idTaken _ _ _ hinsert =>
      have hsome :
          (devices.insert? (registerDevice payload (bearerToken headers) draw)).isSome := by
        rw [Table.insert?_isSome_iff]
        intro d hd
        rw [registerDevice_id]
        exact hfresh d hd
      rw [hinsert] at hsome
      cases hsome

theorem enrollSecret_ne_empty (config : Config) : LanAgent.enrollSecret config ≠ "" := by
  unfold LanAgent.enrollSecret
  split
  · assumption
  · intro h
    have hchars := congrArg String.toList h
    rw [String.toList_append] at hchars
    exact absurd (List.append_eq_nil_iff.mp hchars).1 (by decide)

theorem enrollSecretValid_heartbeatHeaders {config : Config} {cfg : AgentConfig}
    (h : cfg.enrollSecret = LanAgent.enrollSecret config) :
    enrollSecretValid config (heartbeatHeaders cfg) = true := by
  rw [enrollSecretValid, heartbeatHeaders, h, if_pos (enrollSecret_ne_empty config)]
  exact decide_eq_true rfl

theorem validHeaderValue_bearer (random : TokenBytes) :
    validHeaderValue ("Bearer " ++ generateToken random) = true := by
  refine List.all_eq_true.mpr fun c hc => ?_
  rw [String.toList_append, List.mem_append] at hc
  rcases hc with hc | hc
  · have hfixed : ("Bearer " : String).toList.all (fun c => c = '\t' ||
        (0x20 ≤ c.toNat && c.toNat ≠ 0x7f)) = true := by decide
    exact List.all_eq_true.mp hfixed c hc
  · obtain ⟨hlow, hhigh⟩ := mem_generateToken hc
    have hne : c.toNat ≠ 0x7f := Nat.ne_of_lt hhigh
    simp [hlow, hne]

/-- **A deployed agent connects**: with an address and a secret that `deploy.conf` and a header can
carry, the agent that is installed from the package is registered by its first heartbeat, starts
with the saved configuration ever after, and is let in on its socket, and of all tokens that an
installation can draw only its own is. -/
theorem deployed_agent_connects (config : Config) (devices : Devices)
    (hostHeader lanIp : Option String) (serverUrl : String) (random : TokenBytes)
    (machine : Machine) (info : Option SysInfo) (draw : Draw)
    (hurl : resolveServerUrl hostHeader lanIp = .ok serverUrl) (hserver : Portable serverUrl)
    (hsecret : Portable (LanAgent.enrollSecret config))
    (hheader : validHeaderValue (LanAgent.enrollSecret config) = true) (hip : machine.ip ≠ "")
    (hfresh : ∀ d ∈ devices, d.id ≠ draw.id.val) (hids : ∀ d ∈ devices, d.id ≠ "")
    (htokens : ∀ d ∈ devices, d.ip = some machine.ip → d.token ≠ "") :
    ∃ file devices' cfg, downloadDeployPackage config true hostHeader lanIp = .ok file ∧
      deploy config devices file random machine info draw = some (devices', cfg) ∧
      cfg.serverUrl = serverUrl ∧ loadConfig (some (configData cfg)) = .ok cfg ∧
      ∀ random', socketAuthorized devices' cfg.deviceId (generateToken random') = some true ↔
        random' = random := by
  obtain ⟨file, hfile, hread⟩ :=
    (read_back_iff config true hostHeader lanIp serverUrl hurl).mpr ⟨rfl, hserver, hsecret⟩
  have hserverUrl : serverUrl ≠ "" := by
    rintro rfl
    exact resolveServerUrl_ne_nil hurl rfl
  have htoken := generateToken_ne_empty random
  -- what the service loads at its first start
  let cfg := firstConfig ⟨serverUrl, generateToken random, LanAgent.enrollSecret config⟩
  have hdeploy : deploy config devices file random machine info draw =
      some (sendHeartbeat config devices cfg machine "online" info draw) := by
    rw [deploy, hread []]
    dsimp only
    rw [if_pos rfl, toText_ofString, toText_ofString, load_firstConfig hserverUrl htoken]
  have hbearer : bearerToken (heartbeatHeaders cfg.toAgentConfig) = generateToken random :=
    bearerToken_heartbeatHeaders _
  have hvalid : enrollSecretValid config (heartbeatHeaders cfg.toAgentConfig) = true :=
    enrollSecretValid_heartbeatHeaders rfl
  have hheaders : ¬(validHeaderValue ("Bearer " ++ cfg.token) = false ∨
      validHeaderValue cfg.enrollSecret = false) := by
    have hsecretHeader : validHeaderValue cfg.enrollSecret = true := hheader
    have hbearerHeader : validHeaderValue ("Bearer " ++ cfg.token) = true :=
      validHeaderValue_bearer random
    rw [hsecretHeader, hbearerHeader]
    decide
  obtain ⟨answer, d, hanswer, hid, hfind, hsame⟩ := enrolled config devices
    (heartbeatPayload cfg.toAgentConfig machine "online" info)
    (heartbeatHeaders cfg.toAgentConfig) draw hvalid (heartbeatPayload_binds _ _ _ _) rfl hip
    (hbearer ▸ htoken) hfresh hids htokens
  have hsaved : saveDeviceId cfg.toAgentConfig answer.deviceId =
      { cfg.toAgentConfig with deviceId := answer.deviceId } :=
    if_pos ⟨hid, fun h => hid h.symm⟩
  rw [sendHeartbeat, if_neg hheaders] at hdeploy
  dsimp only at hdeploy
  rw [hanswer] at hdeploy
  dsimp only at hdeploy
  rw [hsaved] at hdeploy
  refine ⟨file, _, _, hfile, hdeploy, rfl, ?_, fun random' => ?_⟩
  · rw [← List.take_length (l := configData _)]
    exact (load_written_iff _ _ _).mpr ⟨le_rfl, hserverUrl, htoken, rfl⟩
  · show socketAuthorized _ answer.deviceId _ = some true ↔ _
    rw [socketAuthorized, hfind]
    dsimp only
    rw [tokenEqual_eq_some_true_iff, hsame, hbearer]
    apply Iff.intro
    · rintro ⟨-, -, heq⟩
      exact (generateToken_injective heq).symm
    · rintro rfl
      exact ⟨htoken, isAscii_generateToken _, rfl⟩

theorem rearmsLeft : fitsInt64 3 = true := by decide

def newMachine : Machine := ⟨"pc", "Windows amd64", "10.0.0.20", ⟨3, rearmsLeft⟩, "1.4.5", 0⟩

/-- The first machine of a new server. -/
theorem first_agent_connects : ∃ file devices' cfg,
    downloadDeployPackage exampleConfig true (some "10.0.0.1:8080") none = .ok file ∧
      deploy exampleConfig .empty file (Vector.replicate 16 0) newMachine none issuedDraw =
        some (devices', cfg) ∧
      cfg.serverUrl = "http://10.0.0.1:8080" ∧ loadConfig (some (configData cfg)) = .ok cfg ∧
      ∀ random', socketAuthorized devices' cfg.deviceId (generateToken random') = some true ↔
        random' = Vector.replicate 16 0 :=
  deployed_agent_connects exampleConfig .empty (some "10.0.0.1:8080") none "http://10.0.0.1:8080"
    (Vector.replicate 16 0) newMachine none issuedDraw (by decide) (by decide) (by decide)
    (by decide) (by decide) (fun d hd => absurd hd (Table.not_mem_empty d))
    (fun d hd => absurd hd (Table.not_mem_empty d)) fun d hd => absurd hd (Table.not_mem_empty d)

end LanAgent.Deployment
