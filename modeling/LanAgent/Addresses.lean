import LanAgent.AgentRoutes

/-!
# Addresses — no two live records at one address

A heartbeat writes the address of a record in two places: the record of a first registration, for
which no record at that address exists, and a record that is handed over.  The second is not
compared with the addresses of the others.
-/

namespace LanAgent.Addresses

open Library

/-- The address of a record, empty when it has none. -/
def address (device : Device) : String := device.ip.getD ""

/-- No two records that are not deleted have the same address, other than the empty one. -/
def LiveAddressesUnique (devices : Devices) : Prop :=
  ∀ d ∈ devices, ∀ d' ∈ devices, d.deletedAt = none → d'.deletedAt = none →
    address d = address d' → address d ≠ "" → d.id = d'.id

instance (devices : Devices) : Decidable (LiveAddressesUnique devices) :=
  inferInstanceAs (Decidable (∀ d ∈ devices, ∀ d' ∈ devices, _ → _ → _ → _ → _))

/-- The address a record has once it is handed over. -/
def adoptedAddress (device : Device) (payload : HeartbeatRequest) : String :=
  if payload.ip ≠ "" then payload.ip else address device

/-- Another live record has the address that `device` gets. -/
def Occupied (devices : Devices) (device : Device) (payload : HeartbeatRequest) : Prop :=
  adoptedAddress device payload ≠ "" ∧
    ∃ other ∈ devices, other.id ≠ device.id ∧ other.deletedAt = none ∧
      address other = adoptedAddress device payload

instance (devices : Devices) (device : Device) (payload : HeartbeatRequest) :
    Decidable (Occupied devices device payload) :=
  inferInstanceAs (Decidable (_ ∧ ∃ other ∈ devices, _))

theorem address_adoptDevice (device : Device) (payload : HeartbeatRequest) (agentToken : String)
    (now : DateTime) :
    address (adoptDevice device payload agentToken now) = adoptedAddress device payload := by
  unfold address adoptDevice adoptedAddress
  rw [applySysinfo_ip]
  by_cases hip : payload.ip ≠ ""
  · simp [hip]
  · simp [hip, address]

theorem adoptDevice_live (device : Device) (payload : HeartbeatRequest) (agentToken : String)
    (now : DateTime) : (adoptDevice device payload agentToken now).deletedAt = none := by
  rw [adoptDevice, applySysinfo_deletedAt]

variable {config : Config} {devices : Devices} {payload : HeartbeatRequest} {headers : Headers}
  {draw : Draw}

/-- A record that becomes live at an address is in nobody's way exactly when no other live record
is there. -/
theorem unique_reEnrols_iff (hunique : LiveAddressesUnique devices) {device : Device}
    (h : ReEnrols config devices payload headers device) :
    LiveAddressesUnique (agentHeartbeat config devices payload headers draw).1 ↔
      ¬Occupied devices device payload := by
  have hdevice := matchDevice_mem h.1
  rw [agentHeartbeat_of_reEnrols h]
  set adopt := fun d => adoptDevice d payload (bearerToken headers) draw.now with hadopt
  have hid : ∀ d, (adopt d).id = d.id := fun d => adoptDevice_id d payload _ _
  show LiveAddressesUnique (devices.updateKey device.id adopt hid) ↔ _
  have hself : adopt device ∈ devices.updateKey device.id adopt hid :=
    Table.mem_updateKey_self hdevice
  apply Iff.intro
  · rintro hafter ⟨hne, other, hother, hids, hlive, haddress⟩
    have hkept : other ∈ devices.updateKey device.id adopt hid :=
      Table.mem_updateKey_of_ne hother hids
    apply hids
    rw [← hid device]
    exact hafter other hkept (adopt device) hself hlive (adoptDevice_live _ _ _ _)
      (by rw [haddress, address_adoptDevice]) (by rwa [haddress])
  · intro hfree d hd d' hd' hlive hlive' hsame hne
    obtain ⟨r, hr, rfl⟩ := Table.mem_updateKey.mp hd
    obtain ⟨r', hr', rfl⟩ := Table.mem_updateKey.mp hd'
    by_cases hr₁ : r.id = device.id <;> by_cases hr₂ : r'.id = device.id
    · rw [if_pos hr₁, if_pos hr₂, hid, hid, hr₁, hr₂]
    · rw [if_pos hr₁, if_neg hr₂] at *
      obtain rfl := devices.eq_of_key_eq hr hdevice hr₁
      rw [address_adoptDevice] at hsame hne
      exact absurd ⟨hne, r', hr', hr₂, hlive', hsame.symm⟩ hfree
    · rw [if_neg hr₁, if_pos hr₂] at *
      obtain rfl := devices.eq_of_key_eq hr' hdevice hr₂
      rw [address_adoptDevice] at hsame
      exact absurd ⟨hsame ▸ hne, r, hr, hr₁, hlive, hsame⟩ hfree
    · rw [if_neg hr₁, if_neg hr₂] at *
      exact hunique r hr r' hr' hlive hlive' hsame hne

/-- A table whose records were all there before, at their addresses and as live as they were. -/
theorem unique_of_kept {devices' : Devices} (hunique : LiveAddressesUnique devices)
    (hkept : ∀ d ∈ devices', ∃ r ∈ devices,
      r.id = d.id ∧ r.deletedAt = d.deletedAt ∧ r.ip = d.ip) :
    LiveAddressesUnique devices' := by
  intro d hd d' hd' hlive hlive' hsame hne
  obtain ⟨r, hr, hid, hdeleted, hip⟩ := hkept d hd
  obtain ⟨r', hr', hid', hdeleted', hip'⟩ := hkept d' hd'
  have haddress : address r = address d := by rw [address, hip, address]
  have haddress' : address r' = address d' := by rw [address, hip', address]
  rw [← hid, ← hid']
  exact hunique r hr r' hr' (hdeleted.trans hlive) (hdeleted'.trans hlive')
    (by rw [haddress, haddress', hsame]) (by rwa [haddress])

theorem unique_refresh (hunique : LiveAddressesUnique devices) (device : Device) (now : DateTime) :
    LiveAddressesUnique (devices.updateKey device.id (fun d => refreshDevice d payload now)
      fun d => refreshDevice_id d payload now) := by
  apply unique_of_kept hunique
  intro d hd
  obtain ⟨r, hr, rfl⟩ := Table.mem_updateKey.mp hd
  refine ⟨r, hr, ?_⟩
  split
  · refine ⟨(refreshDevice_id _ _ _).symm, ?_, (refreshDevice_ip _ _ _).symm⟩
    rw [refreshDevice, applySysinfo_deletedAt]
  · exact ⟨rfl, rfl, rfl⟩

theorem unique_created {devices' : Devices} {agentToken : String}
    (hunique : LiveAddressesUnique devices) (hmatch : matchDevice devices payload = none)
    (hinsert : devices.insert? (registerDevice payload agentToken draw) = some devices') :
    LiveAddressesUnique devices' := by
  have hnew : address (registerDevice payload agentToken draw) = payload.ip := by simp [address]
  -- the lookup has found no record at a new record's address
  have hfree : ∀ d ∈ devices, payload.ip ≠ "" → address d ≠ payload.ip := by
    intro d hd hip hsame
    apply matchDevice_eq_none hmatch hip d hd
    unfold address at hsame
    cases hd : d.ip with
    | none => simp [hd, hip.symm] at hsame
    | some ip => simpa [hd] using hsame
  intro d hd d' hd' hlive hlive' hsame hne
  rcases (Table.mem_insert? hinsert).mp hd with hold | rfl
  · rcases (Table.mem_insert? hinsert).mp hd' with hold' | rfl
    · exact hunique d hold d' hold' hlive hlive' hsame hne
    · rw [hnew] at hsame
      exact absurd hsame (hfree d hold (hsame ▸ hne))
  · rcases (Table.mem_insert? hinsert).mp hd' with hold' | rfl
    · rw [hnew] at hsame hne
      exact absurd hsame.symm (hfree d' hold' hne)
    · rfl

/-- The heartbeat hands over a record to an address where another live record is. -/
def TakesAddress (config : Config) (devices : Devices) (payload : HeartbeatRequest)
    (headers : Headers) : Prop :=
  ∃ device ∈ devices,
    ReEnrols config devices payload headers device ∧ Occupied devices device payload

instance (config : Config) (devices : Devices) (payload : HeartbeatRequest) (headers : Headers) :
    Decidable (TakesAddress config devices payload headers) :=
  inferInstanceAs (Decidable (∃ device ∈ devices, _))

/-- **Live addresses.**  A heartbeat keeps the addresses of the live records distinct exactly when
it does not hand over a record to an address where another live record is. -/
theorem live_addresses_iff (config : Config) (devices : Devices) (payload : HeartbeatRequest)
    (headers : Headers) (draw : Draw) (hunique : LiveAddressesUnique devices) :
    LiveAddressesUnique (agentHeartbeat config devices payload headers draw).1 ↔
      ¬TakesAddress config devices payload headers := by
  by_cases hover : ∃ device, ReEnrols config devices payload headers device
  · obtain ⟨device, h⟩ := hover
    rw [unique_reEnrols_iff hunique h, not_iff_not]
    apply Iff.intro
    · exact fun hoccupied => ⟨device, matchDevice_mem h.1, h, hoccupied⟩
    · rintro ⟨device', -, h', hoccupied⟩
      have heq : device = device' := Option.some.inj (h.1.symm.trans h'.1)
      rwa [heq]
  · refine iff_of_true ?_ (fun ⟨device, _, h, _⟩ => hover ⟨device, h⟩)
    have hcase := handleHeartbeat_outcome config devices payload headers (bearerToken headers) draw
    unfold agentHeartbeat
    generalize handleHeartbeat config devices payload headers (bearerToken headers) draw = result
      at hcase
    cases hcase with
    | updated device => exact unique_refresh hunique device draw.now
    | reEnrolled device hmatch htoken hallowed hbinds =>
        exact absurd ⟨device, hmatch, htoken, hallowed, hbinds⟩ hover
    | created devices' hmatch _ _ hinsert => exact unique_created hunique hmatch hinsert
    | wrongToken => exact hunique
    | wrongSecret => exact hunique
    | notBound => exact hunique
    | idTaken => exact hunique

/-- Two live records, each at its own address. -/
def twoMachines : Devices :=
  ⟨[{ Device.new firstUuid secondUuid 0 with ip := some "10.0.0.1" },
    { Device.new secondUuid firstUuid 0 with ip := some "10.0.0.2" }], by decide +kernel⟩

/-- The first machine, reinstalled, reports from `ip`. -/
def reinstalled (ip : String) : HeartbeatRequest where
  deviceId := some firstUuid.val
  hostname := "pc"
  os := "windows"
  ip := ip
  rearmCount := 0
  status := "online"
  agentVersion := "1.4.2"
  timestamp := 0

def enrolling : Headers := ⟨some "Bearer new", some "s"⟩

theorem live_addresses_reinstalled :
    LiveAddressesUnique
      (agentHeartbeat exampleConfig twoMachines (reinstalled "10.0.0.3") enrolling issuedDraw).1 :=
  (live_addresses_iff exampleConfig twoMachines (reinstalled "10.0.0.3") enrolling issuedDraw
    (by decide)).mpr (by decide)

/-- The first machine has been given the address the second one had: both records are live. -/
theorem address_taken :
    LiveAddressesUnique twoMachines ∧
      ¬LiveAddressesUnique
        (agentHeartbeat exampleConfig twoMachines (reinstalled "10.0.0.2") enrolling
          issuedDraw).1 := by
  decide

end LanAgent.Addresses
