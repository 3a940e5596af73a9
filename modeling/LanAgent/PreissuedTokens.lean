import LanAgent.DeviceRoutes
import LanAgent.Enrolment

/-!
# Pre-issued tokens — the first heartbeat of an issued record

`generate_device_token` creates a record and its token, and the installer hands the token to the
agent.  A heartbeat is matched by its device id and by the address of a record, never by its token;
and a heartbeat that is matched to no record creates one that has the token it came with.
-/

namespace LanAgent.PreissuedTokens

open Library

/-- No two records hold the same token. -/
def TokensDistinct (devices : Devices) : Prop :=
  ∀ d ∈ devices, ∀ d' ∈ devices, d.token = d'.token → d.id = d'.id

instance (devices : Devices) : Decidable (TokensDistinct devices) :=
  inferInstanceAs (Decidable (∀ d ∈ devices, ∀ d' ∈ devices, _ → _))

/-- The heartbeat is answered with the id of the record, and there is no record more than before. -/
structure Found (devices : Devices) (d : Device)
    (result : Devices × Except HttpError HeartbeatAnswer) : Prop where
  answer : ∃ status, result.2 = .ok ⟨d.id, status⟩
  noSecond : ∀ d' ∈ result.1, ∃ d₀ ∈ devices, d₀.id = d'.id
  distinct : TokensDistinct result.1

/-- A first heartbeat of the agent that was given the token of `d`: it knows no device id, and no
other record is at its address. -/
structure FirstHeartbeat (config : Config) (devices : Devices) (d : Device)
    (payload : HeartbeatRequest) (headers : Headers) : Prop where
  token : bearerToken headers = d.token
  secret : enrollSecretValid config headers = true
  noId : payload.deviceId.getD "" = ""
  free : ∀ d' ∈ devices, d'.ip = some payload.ip → d' = d

variable {config : Config} {devices : Devices} {d : Device} {payload : HeartbeatRequest}
  {headers : Headers} {draw : Draw}

theorem matchDevice_of_address (h : FirstHeartbeat config devices d payload headers)
    (hd : d ∈ devices) (hip : payload.ip ≠ "") (haddress : d.ip = some payload.ip) :
    matchDevice devices payload = some d := by
  rw [Enrolment.matchDevice_of_empty h.noId hip]
  cases hmatch : latestByIp devices payload.ip with
  | none => exact absurd haddress (latestByIp_eq_none hmatch d hd)
  | some d' =>
      obtain ⟨hd', hip'⟩ := latestByIp_eq_some hmatch
      rw [h.free d' hd' hip']

theorem matchDevice_of_no_address (h : FirstHeartbeat config devices d payload headers)
    (haddress : ¬(payload.ip ≠ "" ∧ d.ip = some payload.ip)) :
    matchDevice devices payload = none := by
  by_cases hip : payload.ip ≠ ""
  · rw [Enrolment.matchDevice_of_empty h.noId hip]
    cases hmatch : latestByIp devices payload.ip with
    | none => rfl
    | some d' =>
        obtain ⟨hd', hip'⟩ := latestByIp_eq_some hmatch
        rw [h.free d' hd' hip'] at hip'
        exact absurd ⟨hip, hip'⟩ haddress
  · have hnone := Enrolment.deviceById_of_empty devices h.noId
    rw [matchDevice, hnone]
    dsimp only
    rw [if_neg hip]

theorem found_of_match (h : FirstHeartbeat config devices d payload headers)
    (htokens : TokensDistinct devices) (hmatch : matchDevice devices payload = some d)
    (hbinds : payload.binds = true) :
    Found devices d (agentHeartbeat config devices payload headers draw) := by
  have hkept : ∀ d' ∈ devices.updateKey d.id (fun d => refreshDevice d payload draw.now)
      (fun d => refreshDevice_id d payload draw.now),
      ∃ d₀ ∈ devices, d₀.id = d'.id ∧ d₀.token = d'.token := by
    intro d' hd'
    obtain ⟨d₀, hd₀, rfl⟩ := Table.mem_updateKey.mp hd'
    refine ⟨d₀, hd₀, ?_⟩
    split
    · exact ⟨(refreshDevice_id _ _ _).symm, (refreshDevice_token _ _ _).symm⟩
    · exact ⟨rfl, rfl⟩
  rw [agentHeartbeat_of_accepted hmatch (.inr h.token) hbinds]
  constructor
  · exact ⟨.updated, rfl⟩
  · intro d' hd'
    obtain ⟨d₀, hd₀, hid, -⟩ := hkept d' hd'
    exact ⟨d₀, hd₀, hid⟩
  · intro d₁ hd₁ d₂ hd₂ hsame
    obtain ⟨r₁, hr₁, hid₁, htoken₁⟩ := hkept d₁ hd₁
    obtain ⟨r₂, hr₂, hid₂, htoken₂⟩ := hkept d₂ hd₂
    rw [← hid₁, ← hid₂]
    exact htokens r₁ hr₁ r₂ hr₂ (by rw [htoken₁, htoken₂, hsame])

theorem not_found_of_no_match (hd : d ∈ devices) (hmatch : matchDevice devices payload = none) :
    ¬Found devices d (agentHeartbeat config devices payload headers draw) := by
  rintro ⟨⟨status, hanswer⟩, -, -⟩
  exact Enrolment.answer_fresh_of_no_match hmatch hanswer d hd rfl

/-- **Pre-issued tokens.**  The first heartbeat with the token of a record finds the record exactly
when it comes from the address in the record; the integers it carries have to fit their columns. -/
theorem found_iff (config : Config) (devices : Devices) (d : Device) (payload : HeartbeatRequest)
    (headers : Headers) (draw : Draw) (hd : d ∈ devices) (htokens : TokensDistinct devices)
    (hfirst : FirstHeartbeat config devices d payload headers) :
    Found devices d (agentHeartbeat config devices payload headers draw) ↔
      payload.ip ≠ "" ∧ d.ip = some payload.ip ∧ payload.binds = true := by
  by_cases haddress : payload.ip ≠ "" ∧ d.ip = some payload.ip
  · have hmatch := matchDevice_of_address hfirst hd haddress.1 haddress.2
    apply Iff.intro
    · rintro ⟨⟨status, hanswer⟩, -, -⟩
      refine ⟨haddress.1, haddress.2, ?_⟩
      by_contra hbinds
      rw [agentHeartbeat, handleHeartbeat, hmatch, settleHeartbeat] at hanswer
      rw [if_pos (.inr hfirst.token), commitHeartbeat, if_neg hbinds] at hanswer
      cases hanswer
    · rintro ⟨-, -, hbinds⟩
      exact found_of_match hfirst htokens hmatch hbinds
  · apply iff_of_false
    · exact not_found_of_no_match hd (matchDevice_of_no_address hfirst haddress)
    · exact fun h => haddress ⟨h.1, h.2.1⟩

/-- A record issued for a machine at `ip`; the address may be left out. -/
def issuedAt (ip : String) : Devices :=
  (generateDeviceToken .empty { hostname := "pc", ip := ip } issuedDraw).1

def issuedRecord (ip : String) : Device :=
  { Device.new firstUuid secondUuid 0 with hostname := some "pc", ip := orNone ip }

/-- The machine reports from `10.0.0.7`. -/
def firstReport : HeartbeatRequest where
  deviceId := none
  hostname := "pc"
  os := "windows"
  ip := "10.0.0.7"
  rearmCount := 0
  status := "online"
  agentVersion := "1.4.2"
  timestamp := 0

def issuedToken : Headers := ⟨some ("Bearer " ++ secondUuid.val), some "s"⟩

/-- The draw of a record that the heartbeat would create. -/
def secondDraw : Draw := ⟨1, secondUuid, firstUuid⟩

theorem found_at_address :
    Found (issuedAt "10.0.0.7") (issuedRecord "10.0.0.7")
      (agentHeartbeat exampleConfig (issuedAt "10.0.0.7") firstReport issuedToken secondDraw) :=
  (found_iff exampleConfig (issuedAt "10.0.0.7") (issuedRecord "10.0.0.7") firstReport issuedToken
    secondDraw (by decide) (by decide)
    ⟨by decide, by decide, by decide, by decide⟩).mpr
    (by decide)

/-- No address was entered for the record: the machine gets a second one with the same token. -/
theorem issued_without_address :
    FirstHeartbeat exampleConfig (issuedAt "") (issuedRecord "") firstReport issuedToken ∧
      (agentHeartbeat exampleConfig (issuedAt "") firstReport issuedToken secondDraw).2 =
        .ok ⟨secondUuid.val, .created⟩ ∧
      TokensDistinct (issuedAt "") ∧
      ¬TokensDistinct
        (agentHeartbeat exampleConfig (issuedAt "") firstReport issuedToken secondDraw).1 ∧
      ¬Found (issuedAt "") (issuedRecord "")
        (agentHeartbeat exampleConfig (issuedAt "") firstReport issuedToken secondDraw) := by
  have hshared : ¬TokensDistinct
      (agentHeartbeat exampleConfig (issuedAt "") firstReport issuedToken secondDraw).1 := by
    decide
  refine ⟨⟨by decide, by decide, by decide, by decide⟩,
    by decide, by decide, hshared, fun hfound => hshared hfound.distinct⟩

end LanAgent.PreissuedTokens
