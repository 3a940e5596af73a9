import LanAgent.AgentRoutes
import Mathlib.Logic.Relation

/-!
# Device administration — `api/device_routes.py` and the token endpoint of `api/deploy_routes.py`

The administrator's writes of the device table and the typed listing of it.  `AdminWrite` states
what all of these writes have in common: a record keeps its token and its hardware columns, and a
new record has a fresh token and no hardware information.
-/

namespace LanAgent

open Library Sqlite

/-! ## Requests -/

structure DeviceCreate where
  hostname : Option String := none
  ip : Option String := none
  groupName : Option String := none

structure DeviceUpdate where
  hostname : Option String := none
  ip : Option String := none
  groupName : Option String := none

structure GenerateTokenRequest where
  hostname : String := ""
  ip : String := ""
  groupName : String := ""

/-- `text or None`. -/
def orNone (text : String) : Option String := if text ≠ "" then some text else none

/-! ## The writes -/

/-- `db.add(device)` and the commit: `IntegrityError` when the primary key is taken. -/
def addDevice (devices : Devices) (device : Device) : Devices × Except HttpError Device :=
  match devices.insert? device with
  | some devices' => (devices', .ok device)
  | none => (devices, .error internalServerError)

def createDevice (devices : Devices) (payload : DeviceCreate) (draw : Draw) :
    Devices × Except HttpError Device :=
  addDevice devices
    { Device.new draw.id draw.token draw.now with
      hostname := payload.hostname
      ip := payload.ip
      groupName := payload.groupName }

def generateDeviceToken (devices : Devices) (payload : GenerateTokenRequest) (draw : Draw) :
    Devices × Except HttpError Device :=
  addDevice devices
    { Device.new draw.id draw.token draw.now with
      hostname := orNone payload.hostname
      ip := orNone payload.ip
      groupName := orNone payload.groupName }

def editDevice (device : Device) (payload : DeviceUpdate) : Device :=
  { device with
    hostname := if payload.hostname.isSome then payload.hostname else device.hostname
    -- a name the user chose is not overwritten by heartbeats
    hostnameLocked := payload.hostname.isSome || device.hostnameLocked
    ip := if payload.ip.isSome then payload.ip else device.ip
    groupName := if payload.groupName.isSome then payload.groupName else device.groupName }

def updateDevice (devices : Devices) (deviceId : String) (payload : DeviceUpdate) :
    Devices × Except HttpError Unit :=
  match devices.find? deviceId with
  | none => (devices, .error ⟨404, "Device not found"⟩)
  | some _ => (devices.updateKey deviceId (fun d => editDevice d payload), .ok ())

def softDelete (device : Device) (now : DateTime) : Device :=
  { device with deletedAt := some now, status := .offline }

/-- `delete_device`; the answer is `uninstall_sent`.  `agentOnline` and `sendOk` are what the
connection manager says about the device. -/
def deleteDevice (devices : Devices) (deviceId : String) (agentOnline sendOk : Bool)
    (now : DateTime) : Devices × Except HttpError Bool :=
  match devices.find? deviceId with
  | none => (devices, .error ⟨404, "Device not found"⟩)
  | some device =>
      -- the record is deleted whether or not the agent has been told to uninstall itself
      (devices.updateKey deviceId (fun d => softDelete d now),
        .ok (device.status = .online && agentOnline && sendOk))

structure BatchDeleteAnswer where
  deleted : Nat
  requested : Nat
  uninstallSent : Nat
  deriving DecidableEq, Repr

def batchDeleteDevices (devices : Devices) (deviceIds : List String)
    (agentOnline sendOk : String → Bool) (now : DateTime) : Devices × BatchDeleteAnswer :=
  let selected := devices.rows.filter (fun d => deviceIds.contains d.id)
  (devices.update (fun d => deviceIds.contains d.id) (fun d => softDelete d now),
    { deleted := selected.length
      requested := deviceIds.length
      uninstallSent := (selected.filter (fun d =>
        d.status = .online && agentOnline d.id && sendOk d.id)).length })

/-! ## Typed responses -/

/-- The hardware part of `DeviceResponse` admits the stored row: counters are NULL or integers,
texts are NULL or strings.  The other columns are typed by `Device` itself. -/
def Device.validates (device : Device) : Bool :=
  HwField.all.all (fun f => f.admits (device.hardware f))

theorem Device.validates_iff {device : Device} :
    device.validates = true ↔ ∀ f : HwField, f.admits (device.hardware f) = true := by
  rw [validates, List.all_eq_true]
  apply Iff.intro
  · intro h f
    exact h f (HwField.mem_all f)
  · intro h f _
    exact h f

def liveDevices (devices : Devices) : List Device :=
  devices.rows.filter (fun d => d.deletedAt.isNone)

/-- `response_model=list[DeviceResponse]`: the list is serialised when every row validates, and the
request fails when one row does not. -/
def serialiseDevices (rows : List Device) : Except HttpError (List Device) :=
  if rows.all Device.validates then .ok rows else .error internalServerError

/-! ## What the administrator's writes have in common -/

/-- A record after a write that is not about its identity or its hardware. -/
structure SameCredentials (d d' : Device) : Prop where
  id : d'.id = d.id
  token : d'.token = d.token
  hardware : d'.hardware = d.hardware
  /-- The write restores no deleted record. -/
  live : d'.deletedAt = none → d.deletedAt = none

theorem SameCredentials.refl (d : Device) : SameCredentials d d := ⟨rfl, rfl, rfl, fun h => h⟩

theorem SameCredentials.trans {d d' d'' : Device} (h : SameCredentials d d')
    (h' : SameCredentials d' d'') : SameCredentials d d'' :=
  ⟨h'.id.trans h.id, h'.token.trans h.token, h'.hardware.trans h.hardware, h.live ∘ h'.live⟩

theorem sameCredentials_editDevice (d : Device) (payload : DeviceUpdate) :
    SameCredentials d (editDevice d payload) := ⟨rfl, rfl, rfl, fun h => h⟩

theorem sameCredentials_softDelete (d : Device) (now : DateTime) :
    SameCredentials d (softDelete d now) :=
  ⟨rfl, rfl, rfl, fun h => absurd h (Option.some_ne_none now)⟩

/-- A record the administrator has just created. -/
def FreshlyIssued (d : Device) : Prop :=
  (∃ u : Uuid, d.token = u.val) ∧ d.hardware = fun _ => .null

/-- What an administrator's write does to the table: every record after it is an earlier record
with the same credentials or a freshly issued one, and no earlier record is gone. -/
structure AdminWrite (devices devices' : Devices) : Prop where
  origin : ∀ d' ∈ devices', (∃ d ∈ devices, SameCredentials d d') ∨
    (FreshlyIssued d' ∧ ∀ d ∈ devices, d.id ≠ d'.id)
  kept : ∀ d ∈ devices, ∃ d' ∈ devices', SameCredentials d d'

theorem AdminWrite.refl (devices : Devices) : AdminWrite devices devices :=
  ⟨fun d hd => .inl ⟨d, hd, .refl d⟩, fun d hd => ⟨d, hd, .refl d⟩⟩

theorem AdminWrite.trans {t t' t'' : Devices} (h : AdminWrite t t') (h' : AdminWrite t' t'') :
    AdminWrite t t'' where
  origin d'' hd'' := by
    rcases h'.origin d'' hd'' with ⟨d', hd', hsame'⟩ | ⟨hfresh, hnew⟩
    -- the record was there in between: trace it further back
    · rcases h.origin d' hd' with ⟨d, hd, hsame⟩ | ⟨hfresh, hnew⟩
      · exact .inl ⟨d, hd, hsame.trans hsame'⟩
      · refine .inr ⟨⟨?_, hsame'.hardware.trans hfresh.2⟩, ?_⟩
        · rw [hsame'.token]
          exact hfresh.1
        · rw [hsame'.id]
          exact hnew
    · refine .inr ⟨hfresh, fun d hd => ?_⟩
      rcases h.kept d hd with ⟨d', hd', hsame⟩
      -- the second write added it, so its id was free before the first one too
      rw [← hsame.id]
      exact hnew d' hd'
  kept d hd := by
    rcases h.kept d hd with ⟨d', hd', hsame⟩
    rcases h'.kept d' hd' with ⟨d'', hd'', hsame'⟩
    exact ⟨d'', hd'', hsame.trans hsame'⟩

theorem adminWrite_insert? {devices devices' : Devices} {device : Device}
    (hfresh : FreshlyIssued device) (h : devices.insert? device = some devices') :
    AdminWrite devices devices' where
  origin d' hd' := by
    rcases (Table.mem_insert? h).mp hd' with hd | rfl
    · exact .inl ⟨d', hd, .refl d'⟩
    · exact .inr ⟨hfresh, (Table.insert?_eq_some h).2⟩
  kept d hd := ⟨d, (Table.mem_insert? h).mpr (.inl hd), .refl d⟩

theorem adminWrite_update {devices : Devices} {p : Device → Bool} {f : Device → Device}
    (hsame : ∀ d, SameCredentials d (f d)) :
    AdminWrite devices (devices.update p f (fun d => (hsame d).id)) where
  origin d' hd' := by
    rcases Table.mem_update.mp hd' with ⟨d, hd, rfl⟩
    refine .inl ⟨d, hd, ?_⟩
    by_cases hp : p d = true
    · rw [if_pos hp]
      exact hsame d
    · rw [if_neg hp]
      exact .refl d
  kept d hd := by
    by_cases hp : p d = true
    · exact ⟨f d, Table.mem_update_of_pos hd hp, hsame d⟩
    · exact ⟨d, Table.mem_update_of_not hd (by simpa using hp), .refl d⟩

/-- One insertion of a freshly issued record. -/
def Issues (devices devices' : Devices) : Prop :=
  ∃ device, FreshlyIssued device ∧ devices.insert? device = some devices'

/-- What the creating writes do: insertions, one after the other. -/
abbrev Insertions : Devices → Devices → Prop := Relation.ReflTransGen Issues

theorem Insertions.adminWrite {t t' : Devices} (h : Insertions t t') : AdminWrite t t' := by
  induction h with
  | refl => exact .refl t
  | tail _ hissues ih =>
      obtain ⟨device, hfresh, hinsert⟩ := hissues
      exact ih.trans (adminWrite_insert? hfresh hinsert)

/-- Insertions leave the records that are there as they are. -/
theorem Insertions.mem {t t' : Devices} (h : Insertions t t') {d : Device} (hd : d ∈ t) :
    d ∈ t' := by
  induction h with
  | refl => exact hd
  | tail _ hissues ih =>
      obtain ⟨device, _, hinsert⟩ := hissues
      exact (Table.mem_insert? hinsert).mpr (.inl ih)

theorem insertions_addDevice (devices : Devices) {device : Device}
    (hfresh : FreshlyIssued device) : Insertions devices (addDevice devices device).1 := by
  unfold addDevice
  cases hinsert : devices.insert? device with
  | some devices' => exact .single ⟨device, hfresh, hinsert⟩
  | none => exact .refl

theorem insertions_createDevice (devices : Devices) (payload : DeviceCreate) (draw : Draw) :
    Insertions devices (createDevice devices payload draw).1 :=
  insertions_addDevice devices ⟨⟨draw.token, rfl⟩, rfl⟩

theorem insertions_generateDeviceToken (devices : Devices) (payload : GenerateTokenRequest)
    (draw : Draw) : Insertions devices (generateDeviceToken devices payload draw).1 :=
  insertions_addDevice devices ⟨⟨draw.token, rfl⟩, rfl⟩

theorem adminWrite_updateDevice (devices : Devices) (deviceId : String)
    (payload : DeviceUpdate) : AdminWrite devices (updateDevice devices deviceId payload).1 := by
  unfold updateDevice
  cases devices.find? deviceId with
  | none => exact .refl devices
  | some _ => exact adminWrite_update fun d => sameCredentials_editDevice d payload

theorem adminWrite_deleteDevice (devices : Devices) (deviceId : String)
    (agentOnline sendOk : Bool) (now : DateTime) :
    AdminWrite devices (deleteDevice devices deviceId agentOnline sendOk now).1 := by
  unfold deleteDevice
  cases devices.find? deviceId with
  | none => exact .refl devices
  | some _ => exact adminWrite_update fun d => sameCredentials_softDelete d now

theorem adminWrite_batchDeleteDevices (devices : Devices) (deviceIds : List String)
    (agentOnline sendOk : String → Bool) (now : DateTime) :
    AdminWrite devices (batchDeleteDevices devices deviceIds agentOnline sendOk now).1 :=
  adminWrite_update fun d => sameCredentials_softDelete d now

end LanAgent
