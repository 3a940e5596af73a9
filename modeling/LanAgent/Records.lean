import LanAgent.Server

/-!
# Records — what a request does to one record

`RecordStep` lists, with the guard of each, the ways in which a request of the server rewrites a
record that is there; `handle_record` says that nothing else happens to it and that no record is
lost.  `Addition` lists the records a request adds, and `handle_origin` says that there are no
others.  An invariant of single records is one case analysis on the two.
-/

namespace LanAgent

open Library

/-- What a request makes of the record `d`. -/
inductive RecordStep (settings : Settings) (db : Database) (d : Device) : Request → Device → Prop
  | same (request : Request) : RecordStep settings db d request d
  | refreshed (payload : HeartbeatRequest) (headers : Headers) (draw : Draw)
      (hmatch : matchDevice db.devices payload = some d)
      (htoken : d.token = "" ∨ bearerToken headers = d.token) (hbinds : payload.binds = true) :
      RecordStep settings db d (.heartbeat payload headers draw) (refreshDevice d payload draw.now)
  | adopted (payload : HeartbeatRequest) (headers : Headers) (draw : Draw)
      (hre : ReEnrols settings.config db.devices payload headers d) :
      RecordStep settings db d (.heartbeat payload headers draw)
        (adoptDevice d payload (bearerToken headers) draw.now)
  | recovered (payload : RecoverRequest) (headers : Headers) (now : DateTime)
      (hid : payload.deviceId = d.id) (htoken : d.token = "" ∨ bearerToken headers = d.token) :
      RecordStep settings db d (.recover payload headers now) (recoverDevice d payload now)
  | edited (payload : DeviceUpdate) :
      RecordStep settings db d (.updateDevice d.id payload) (editDevice d payload)
  | deleted (agentOnline sendOk : Bool) (now : DateTime) :
      RecordStep settings db d (.deleteDevice d.id agentOnline sendOk now) (softDelete d now)
  | batchDeleted (deviceIds : List String) (agentOnline sendOk : String → Bool) (now : DateTime)
      (hlisted : deviceIds.contains d.id = true) :
      RecordStep settings db d (.batchDeleteDevices deviceIds agentOnline sendOk now)
        (softDelete d now)
  | measured (deviceId data : String) (now : DateTime) (broadcastOk : Bool)
      (values : List (HwField × Sqlite.Value)) :
      RecordStep settings db d (.frame deviceId data now broadcastOk) (writeSysinfo d values now)

theorem RecordStep.id {settings : Settings} {db : Database} {d d' : Device} {request : Request}
    (h : RecordStep settings db d request d') : d'.id = d.id := by
  cases h <;> simp [editDevice, softDelete]

/-- A record that a request adds to the table. -/
inductive Addition (settings : Settings) (db : Database) : Request → Device → Prop
  | registered (payload : HeartbeatRequest) (headers : Headers) (draw : Draw)
      (hmatch : matchDevice db.devices payload = none)
      (hsecret : enrollSecretValid settings.config headers = true)
      (hbinds : payload.binds = true) :
      Addition settings db (.heartbeat payload headers draw)
        (registerDevice payload (bearerToken headers) draw)
  | issued (request : Request) (d : Device) (hfresh : FreshlyIssued d) :
      Addition settings db request d

section Handle

variable (settings : Settings) (db : Database) {d : Device}

theorem heartbeat_record (payload : HeartbeatRequest) (headers : Headers) (draw : Draw)
    (hd : d ∈ db.devices) :
    ∃ d' ∈ (agentHeartbeat settings.config db.devices payload headers draw).1,
      RecordStep settings db d (.heartbeat payload headers draw) d' := by
  have hcase := handleHeartbeat_outcome settings.config db.devices payload headers
    (bearerToken headers) draw
  unfold agentHeartbeat
  generalize handleHeartbeat settings.config db.devices payload headers (bearerToken headers) draw
    = result at hcase
  -- a matched record with the id of `d` is `d`
  have hmatched : ∀ device, matchDevice db.devices payload = some device → d.id = device.id →
      device = d := fun device hmatch hid =>
    db.devices.eq_of_key_eq (matchDevice_mem hmatch) hd hid.symm
  cases hcase with
  | updated device hmatch htoken hbinds =>
      refine Table.exists_mem_updateKey (fun d => refreshDevice_id d payload draw.now) hd (.same _)
        fun hid => ?_
      obtain rfl := hmatched device hmatch hid
      exact .refreshed payload headers draw hmatch htoken hbinds
  | reEnrolled device hmatch htoken hallowed hbinds =>
      refine Table.exists_mem_updateKey
        (fun d => adoptDevice_id d payload (bearerToken headers) draw.now) hd (.same _)
        fun hid => ?_
      obtain rfl := hmatched device hmatch hid
      exact .adopted payload headers draw ⟨hmatch, htoken, hallowed, hbinds⟩
  | created devices' _ _ _ hinsert => exact ⟨d, (Table.mem_insert? hinsert).mpr (.inl hd), .same _⟩
  | wrongToken => exact ⟨d, hd, .same _⟩
  | wrongSecret => exact ⟨d, hd, .same _⟩
  | notBound => exact ⟨d, hd, .same _⟩
  | idTaken => exact ⟨d, hd, .same _⟩

theorem recover_record (payload : RecoverRequest) (headers : Headers) (now : DateTime)
    (hd : d ∈ db.devices) :
    ∃ d' ∈ (agentRecover db.devices payload headers now).1,
      RecordStep settings db d (.recover payload headers now) d' := by
  unfold agentRecover
  split
  · exact ⟨d, hd, .same _⟩
  · rename_i device hfind
    split
    · exact ⟨d, hd, .same _⟩
    · rename_i haccepted
      refine Table.exists_mem_updateKey (fun d => recoverDevice_id d payload now) hd (.same _)
        fun hid => ?_
      obtain rfl := db.devices.eq_of_key_eq (Table.mem_of_find? hfind) hd
        ((Table.key_of_find? hfind).trans hid.symm)
      refine .recovered payload headers now hid.symm ?_
      by_cases htoken : device.token = ""
      · exact .inl htoken
      · exact .inr (by_contra fun hne => haccepted ⟨htoken, hne⟩)

theorem frame_record (deviceId data : String) (now : DateTime) (broadcastOk : Bool)
    (hd : d ∈ db.devices) :
    ∃ d' ∈ (handleFrame settings.runtime db deviceId data now broadcastOk).1.devices,
      RecordStep settings db d (.frame deviceId data now broadcastOk) d' := by
  have hcase := handleFrame_outcome settings.runtime db deviceId data now broadcastOk
  generalize handleFrame settings.runtime db deviceId data now broadcastOk = result at hcase
  cases hcase with
  | rejected => exact ⟨d, hd, .same _⟩
  | unnamed => exact ⟨d, hd, .same _⟩
  | unsynced => exact ⟨d, hd, .same _⟩
  | stored reply hread devices hsysinfo =>
      rw [syncParentTask_devices]
      rcases storeReplySysinfo_eq_ok hsysinfo with rfl | ⟨_, _, values, _, _, _, _, rfl⟩
      · exact ⟨d, hd, .same _⟩
      · exact Table.exists_mem_updateKey (fun d => writeSysinfo_id d values now) hd (.same _)
          fun _ => .measured deviceId data now broadcastOk values

theorem admin_record (request : Request) (hd : d ∈ db.devices) :
    ∃ d' ∈ adminDevices db.devices request, RecordStep settings db d request d' := by
  cases request with
  | createDevice payload draw =>
      exact ⟨d, (insertions_createDevice db.devices payload draw).mem hd, .same _⟩
  | generateDeviceToken payload draw =>
      exact ⟨d, (insertions_generateDeviceToken db.devices payload draw).mem hd, .same _⟩
  | importCsv filename rows groupName draws =>
      exact ⟨d, (insertions_importCsv db.devices filename rows groupName draws).mem hd, .same _⟩
  | importIpRange payload draws =>
      exact ⟨d, (insertions_importIpRange db.devices payload draws).mem hd, .same _⟩
  | updateDevice deviceId payload =>
      show ∃ d' ∈ (updateDevice db.devices deviceId payload).1,
        RecordStep settings db d (.updateDevice deviceId payload) d'
      unfold updateDevice
      split
      · exact ⟨d, hd, .same _⟩
      · refine Table.exists_mem_updateKey (fun d => (sameCredentials_editDevice d payload).id) hd
          (.same _) fun hid => ?_
        exact hid ▸ .edited payload
  | deleteDevice deviceId agentOnline sendOk now =>
      show ∃ d' ∈ (deleteDevice db.devices deviceId agentOnline sendOk now).1,
        RecordStep settings db d (.deleteDevice deviceId agentOnline sendOk now) d'
      unfold deleteDevice
      split
      · exact ⟨d, hd, .same _⟩
      · refine Table.exists_mem_updateKey (fun d => (sameCredentials_softDelete d now).id) hd
          (.same _) fun hid => ?_
        exact hid ▸ .deleted agentOnline sendOk now
  | batchDeleteDevices deviceIds agentOnline sendOk now =>
      show ∃ d' ∈ db.devices.update (fun d => deviceIds.contains d.id) (fun d => softDelete d now),
        RecordStep settings db d (.batchDeleteDevices deviceIds agentOnline sendOk now) d'
      by_cases hlisted : deviceIds.contains d.id = true
      · exact ⟨softDelete d now, Table.mem_update_of_pos hd hlisted,
          .batchDeleted deviceIds agentOnline sendOk now hlisted⟩
      · exact ⟨d, Table.mem_update_of_not hd (by simpa using hlisted), .same _⟩
  | _ => exact ⟨d, hd, .same _⟩

/-- **One record.**  A request leaves every record in the table, rewritten in one of the ways of
`RecordStep`. -/
theorem handle_record (request : Request) (hd : d ∈ db.devices) :
    ∃ d' ∈ (handle settings db request).devices, RecordStep settings db d request d' := by
  cases request with
  | heartbeat payload headers draw => exact heartbeat_record settings db payload headers draw hd
  | recover payload headers now => exact recover_record settings db payload headers now hd
  | frame deviceId data now broadcastOk =>
      exact frame_record settings db deviceId data now broadcastOk hd
  | createTask payload draw =>
      refine ⟨d, ?_, .same _⟩
      show d ∈ (createTask db payload draw).1.devices
      rwa [createTask_devices]
  | cancelTask taskId now =>
      refine ⟨d, ?_, .same _⟩
      show d ∈ (cancelTask db taskId now).1.devices
      rwa [cancelTask_devices]
  | getTask taskId now =>
      refine ⟨d, ?_, .same _⟩
      show d ∈ (getTask db taskId now).1.devices
      rwa [getTask_devices]
  | _ => exact admin_record settings db _ hd

variable {d' : Device}

theorem heartbeat_addition (payload : HeartbeatRequest) (headers : Headers) (draw : Draw)
    (hd' : d' ∈ (agentHeartbeat settings.config db.devices payload headers draw).1)
    (hnew : ∀ d ∈ db.devices, d.id ≠ d'.id) :
    Addition settings db (.heartbeat payload headers draw) d' := by
  have hcase := handleHeartbeat_outcome settings.config db.devices payload headers
    (bearerToken headers) draw
  unfold agentHeartbeat at hd'
  generalize handleHeartbeat settings.config db.devices payload headers (bearerToken headers) draw
    = result at hcase hd'
  cases hcase with
  | updated device hmatch htoken hbinds =>
      obtain ⟨d, hd, hid⟩ := Table.key_of_mem_updateKey
        (fun d => refreshDevice_id d payload draw.now) hd'
      exact absurd hid (hnew d hd)
  | reEnrolled device hmatch htoken hallowed hbinds =>
      obtain ⟨d, hd, hid⟩ := Table.key_of_mem_updateKey
        (fun d => adoptDevice_id d payload (bearerToken headers) draw.now) hd'
      exact absurd hid (hnew d hd)
  | created devices' hmatch hsecret hbinds hinsert =>
      rcases (Table.mem_insert? hinsert).mp hd' with hd' | rfl
      · exact absurd rfl (hnew d' hd')
      · exact .registered payload headers draw hmatch hsecret hbinds
  | wrongToken => exact absurd rfl (hnew d' hd')
  | wrongSecret => exact absurd rfl (hnew d' hd')
  | notBound => exact absurd rfl (hnew d' hd')
  | idTaken => exact absurd rfl (hnew d' hd')

theorem recover_ids (payload : RecoverRequest) (headers : Headers) (now : DateTime)
    (hd' : d' ∈ (agentRecover db.devices payload headers now).1) :
    ∃ d ∈ db.devices, d.id = d'.id := by
  unfold agentRecover at hd'
  split at hd'
  · exact ⟨d', hd', rfl⟩
  · split at hd'
    · exact ⟨d', hd', rfl⟩
    · exact Table.key_of_mem_updateKey (fun d => recoverDevice_id d payload now) hd'

theorem frame_ids (deviceId data : String) (now : DateTime) (broadcastOk : Bool)
    (hd' : d' ∈ (handleFrame settings.runtime db deviceId data now broadcastOk).1.devices) :
    ∃ d ∈ db.devices, d.id = d'.id := by
  have hcase := handleFrame_outcome settings.runtime db deviceId data now broadcastOk
  generalize handleFrame settings.runtime db deviceId data now broadcastOk = result at hcase hd'
  cases hcase with
  | rejected => exact ⟨d', hd', rfl⟩
  | unnamed => exact ⟨d', hd', rfl⟩
  | unsynced => exact ⟨d', hd', rfl⟩
  | stored reply hread devices hsysinfo =>
      rw [syncParentTask_devices] at hd'
      rcases storeReplySysinfo_eq_ok hsysinfo with rfl | ⟨_, _, values, _, _, _, _, rfl⟩
      · exact ⟨d', hd', rfl⟩
      · exact Table.key_of_mem_updateKey (fun d => writeSysinfo_id d values now) hd'

theorem handle_addition (request : Request) (hd' : d' ∈ (handle settings db request).devices)
    (hnew : ∀ d ∈ db.devices, d.id ≠ d'.id) : Addition settings db request d' := by
  have hadmin : d' ∈ adminDevices db.devices request → Addition settings db request d' := by
    intro hd'
    rcases (adminWrite_adminDevices db.devices request).origin d' hd' with
      ⟨d, hd, hsame⟩ | ⟨hfresh, _⟩
    · exact absurd hsame.id.symm (hnew d hd)
    · exact .issued request d' hfresh
  cases request with
  | heartbeat payload headers draw =>
      exact heartbeat_addition settings db payload headers draw hd' hnew
  | recover payload headers now =>
      obtain ⟨d, hd, hid⟩ := recover_ids db payload headers now hd'
      exact absurd hid (hnew d hd)
  | frame deviceId data now broadcastOk =>
      obtain ⟨d, hd, hid⟩ := frame_ids settings db deviceId data now broadcastOk hd'
      exact absurd hid (hnew d hd)
  | createTask payload draw =>
      rw [handle, createTask_devices] at hd'
      exact absurd rfl (hnew d' hd')
  | cancelTask taskId now =>
      rw [handle, cancelTask_devices] at hd'
      exact absurd rfl (hnew d' hd')
  | getTask taskId now =>
      rw [handle, getTask_devices] at hd'
      exact absurd rfl (hnew d' hd')
  | _ => exact hadmin hd'

/-- **The table after a request** holds the records there were, each after its step, and what the
request adds. -/
theorem handle_origin (request : Request) (hd' : d' ∈ (handle settings db request).devices) :
    (∃ d ∈ db.devices, RecordStep settings db d request d') ∨
      Addition settings db request d' := by
  by_cases hold : ∃ d ∈ db.devices, d.id = d'.id
  · obtain ⟨d, hd, hid⟩ := hold
    obtain ⟨d'', hd'', hstep⟩ := handle_record settings db request hd
    -- the ids are unique
    obtain rfl := (handle settings db request).devices.eq_of_key_eq hd'' hd' (hstep.id.trans hid)
    exact .inl ⟨d, hd, hstep⟩
  · exact .inr (handle_addition settings db request hd' fun d hd hid => hold ⟨d, hd, hid⟩)

end Handle

end LanAgent
