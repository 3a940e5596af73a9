import LanAgent.Library.Runs
import LanAgent.Records

/-!
# Device types — the hardware columns of the device table

Heartbeats validate the hardware information they store, the replies of agents do not, and the
columns keep what SQLite cannot convert.  One record that does not have the types of
`DeviceResponse` makes the whole device list fail.  `device_types_iff` says which runs keep every
live record well typed.
-/

namespace LanAgent.DeviceTypes

open Library Library.Runs Python Sqlite

/-! ## The property -/

def LiveTyped (devices : Devices) : Prop :=
  ∀ d ∈ devices, d.deletedAt = none → ∀ f : HwField, f.admits (d.hardware f) = true

/-- Live records are typed, so that any selection of them, in any order, can be serialised. -/
structure WellTyped (devices : Devices) : Prop where
  typed : LiveTyped devices
  listed : ∀ rows : List Device, (∀ d ∈ rows, d ∈ liveDevices devices) →
    serialiseDevices rows = .ok rows

theorem wellTyped_iff {devices : Devices} : WellTyped devices ↔ LiveTyped devices := by
  refine ⟨WellTyped.typed, fun h => ⟨h, fun rows hrows => ?_⟩⟩
  refine if_pos (List.all_eq_true.mpr fun d hd => ?_)
  have hlive := List.mem_filter.mp (hrows d hd)
  exact Device.validates_iff.mpr (h d hlive.1 (Option.isNone_iff_eq_none.mp hlive.2))

/-! ## The condition -/

/-- The frame is a success, and the hardware information in its output is stored. -/
def Reports (rt : Runtime) (results : TaskResults) (data : String) (info : List (Str × Json)) :
    Prop :=
  ∃ reply output, readReply rt results data = .ok (some reply) ∧ reply.status = "success" ∧
    reply.output = some output ∧ loads rt.recursionLimit output = .ok (.obj info) ∧
    ∀ f : HwField, ∀ value, lookup info (Str.ofString f.name) = some value → bindable value = true

/-- What the object says about counters is stored as an integer or NULL. -/
def CountersFit (rt : Runtime) (info : List (Str × Json)) : Prop :=
  ∀ f : HwField, f.isCounter = true → ∀ value v, lookup info (Str.ofString f.name) = some value →
    Sqlite.bind value = .ok v → (rt.affinity.integer v).isInteger = true

/-- Hardware information for a live record has counters that fit; and a deleted record is restored
with hardware information, or is well typed. -/
def Fits (settings : Settings) (db : Database) : Request → Database → Prop
  -- `_store_sysinfo_output` writes the values as they are in the JSON
  | .frame deviceId data _ _, _ =>
      ∀ info, Reports settings.runtime db.results data info →
        ∀ d ∈ db.devices, d.id = deviceId → d.deletedAt = none → CountersFit settings.runtime info
  -- `_adopt_device` clears `deleted_at`, and without hardware information it keeps the columns
  | .heartbeat payload headers _, _ =>
      ∀ d, matchDevice db.devices payload = some d → d.deletedAt ≠ none →
        ¬(d.token = "" ∨ bearerToken headers = d.token) → payload.binds = true →
          payload.sysinfo = none → ∀ f : HwField, f.admits (d.hardware f) = true
  | _, _ => True

/-! ## Replies -/

/-- **The sysinfo write** keeps live records typed exactly when the counters fit. -/
theorem writeSysinfo_typed_iff {rt : Runtime} {devices : Devices} {deviceId : String}
    {info : List (Str × Json)} {values : List (HwField × Value)} {now : DateTime}
    (hvalues : sysinfoValues rt info HwField.all = .ok values) (htyped : LiveTyped devices) :
    LiveTyped (updateSysinfo devices deviceId values now) ↔
      ∀ d ∈ devices, d.id = deviceId → d.deletedAt = none → CountersFit rt info := by
  apply Iff.intro
  · intro h d hd hid hlive f hcounter value v hlookup hbind
    have hmem : writeSysinfo d values now ∈ updateSysinfo devices deviceId values now :=
      mem_updateSysinfo.mpr ⟨d, hd, if_pos hid⟩
    -- a counter that is named is stored by the affinity of its column
    have hstored : values.lookup f = some (f.stored rt.affinity v) :=
      (lookup_sysinfoValues hvalues).mpr ⟨HwField.mem_all f, value, v, hlookup, hbind, rfl⟩
    have hadmits := h _ hmem hlive f
    rw [writeSysinfo] at hadmits
    dsimp only at hadmits
    rw [hstored, Option.getD_some, HwField.admits, if_pos hcounter, HwField.stored,
      if_pos hcounter] at hadmits
    exact hadmits
  · intro h d' hd' hlive f
    rcases mem_updateSysinfo.mp hd' with ⟨d, hd, rfl⟩
    by_cases hid : d.id = deviceId
    · rw [if_pos hid] at hlive ⊢
      rw [writeSysinfo]
      dsimp only
      cases hstored : values.lookup f with
      -- the reply does not name the column
      | none => exact htyped d hd hlive f
      | some w =>
          rcases (lookup_sysinfoValues hvalues).mp hstored with ⟨_, value, v, hlookup, hbind, rfl⟩
          rw [Option.getD_some, HwField.admits, HwField.stored]
          by_cases hcounter : f.isCounter = true
          -- a counter: its value fits
          · rw [if_pos hcounter, if_pos hcounter]
            exact h d hd hid hlive f hcounter value v hlookup hbind
          -- a text: whatever is bound is stored as a text or NULL
          · rw [if_neg hcounter, if_neg hcounter]
            exact Value.isText_ofText _
    · rw [if_neg hid] at hlive ⊢
      exact htyped d hd hlive f

/-- The frame decides the object. -/
theorem Reports.unique {rt : Runtime} {results : TaskResults} {data : String}
    {info info' : List (Str × Json)} (h : Reports rt results data info)
    (h' : Reports rt results data info') : info = info' := by
  rcases h with ⟨reply, output, hread, _, houtput, hinfo, _⟩
  rcases h' with ⟨reply', output', hread', _, houtput', hinfo', _⟩
  rw [hread] at hread'
  cases hread'
  rw [houtput] at houtput'
  cases houtput'
  rw [hinfo] at hinfo'
  cases hinfo'
  rfl

section Frame

variable {rt : Runtime} {db : Database} {deviceId data : String} {now : DateTime}
  {broadcastOk : Bool}

/-- A frame that reports an object writes its hardware members. -/
theorem handleFrame_devices_of_reports {info : List (Str × Json)}
    (h : Reports rt db.results data info) :
    ∃ values, sysinfoValues rt info HwField.all = .ok values ∧
      (handleFrame rt db deviceId data now broadcastOk).1.devices =
        if values = [] then db.devices else updateSysinfo db.devices deviceId values now := by
  rcases h with ⟨reply, output, hread, hsuccess, houtput, hinfo, hbindable⟩
  rcases sysinfoValues_isOk_iff.mpr fun f _ => hbindable f with ⟨values, hvalues⟩
  have hsysinfo :=
    storeReplySysinfo_of_info hsuccess houtput hinfo hvalues db.devices deviceId now
  refine ⟨values, hvalues, ?_⟩
  have hcase := handleFrame_outcome rt db deviceId data now broadcastOk
  generalize handleFrame rt db deviceId data now broadcastOk = result at hcase
  cases hcase with
  | rejected e hread' =>
      rw [hread] at hread'
      cases hread'
  | unnamed hread' =>
      rw [hread] at hread'
      cases hread'
  | unsynced reply' hread' e hsysinfo' =>
      rw [hread] at hread'
      cases hread'
      rw [hsysinfo] at hsysinfo'
      cases hsysinfo'
  | stored reply' hread' devices hsysinfo' =>
      rw [hread] at hread'
      cases hread'
      rw [syncParentTask_devices]
      exact (Except.ok.inj (hsysinfo.symm.trans hsysinfo')).symm

/-- Any other frame leaves the device table. -/
theorem handleFrame_devices_of_not_reports (h : ¬∃ info, Reports rt db.results data info) :
    (handleFrame rt db deviceId data now broadcastOk).1.devices = db.devices := by
  have hcase := handleFrame_outcome rt db deviceId data now broadcastOk
  generalize handleFrame rt db deviceId data now broadcastOk = result at hcase
  cases hcase with
  | rejected e hread => rfl
  | unnamed hread => rfl
  | unsynced reply hread e hsysinfo => rfl
  | stored reply hread devices hsysinfo =>
      rw [syncParentTask_devices]
      rcases storeReplySysinfo_eq_ok hsysinfo with hsame |
        ⟨output, info, values, houtput, hsuccess, hinfo, hvalues, _⟩
      · exact hsame
      · refine absurd ?_ h
        refine ⟨info, reply, output, hread, hsuccess, houtput, hinfo, fun f => ?_⟩
        exact sysinfoValues_isOk_iff.mp ⟨values, hvalues⟩ f (HwField.mem_all f)

end Frame

theorem frame_iff {settings : Settings} {db : Database} {deviceId data : String} {now : DateTime}
    {broadcastOk : Bool} (htyped : LiveTyped db.devices) :
    LiveTyped (handleFrame settings.runtime db deviceId data now broadcastOk).1.devices ↔
      Fits settings db (.frame deviceId data now broadcastOk) db := by
  simp only [Fits]
  -- split on whether hardware information is stored at all
  by_cases hreports : ∃ info, Reports settings.runtime db.results data info
  · rcases hreports with ⟨info, hinfo⟩
    obtain ⟨values, hvalues, hdevices⟩ := handleFrame_devices_of_reports hinfo
    have hthe : (∀ info', Reports settings.runtime db.results data info' → ∀ d ∈ db.devices,
        d.id = deviceId → d.deletedAt = none → CountersFit settings.runtime info') ↔
          ∀ d ∈ db.devices, d.id = deviceId → d.deletedAt = none →
            CountersFit settings.runtime info := by
      refine ⟨fun h => h info hinfo, fun h info' hinfo' => ?_⟩
      rw [← hinfo.unique hinfo']
      exact h
    rw [hthe, hdevices]
    -- an object without hardware members writes nothing
    by_cases hnil : values = []
    · rw [if_pos hnil]
      apply iff_of_true htyped
      intro d _ _ _ f _ value v hlookup hbind
      have hstored := (lookup_sysinfoValues hvalues).mpr
        ⟨HwField.mem_all f, value, v, hlookup, hbind, rfl⟩
      rw [hnil] at hstored
      cases hstored
    · rw [if_neg hnil]
      exact writeSysinfo_typed_iff hvalues htyped
  · rw [handleFrame_devices_of_not_reports hreports]
    exact iff_of_true htyped fun info h => absurd ⟨info, h⟩ hreports

/-! ## Heartbeats -/

section Heartbeat

variable (device : Device) (payload : HeartbeatRequest) (agentToken : String) (now : DateTime)

theorem adoptDevice_typed_iff :
    (∀ f : HwField, f.admits ((adoptDevice device payload agentToken now).hardware f) = true) ↔
      (payload.sysinfo = none → ∀ f : HwField, f.admits (device.hardware f) = true) := by
  unfold adoptDevice applySysinfo
  cases payload.sysinfo with
  -- the columns stay as they were while the record was deleted
  | none => exact ⟨fun h _ => h, fun h => h rfl⟩
  -- the schema of the heartbeat has validated every field
  | some info => exact iff_of_true info.admits_column (nomatch ·)

theorem refreshDevice_typed (h : ∀ f : HwField, f.admits (device.hardware f) = true)
    (f : HwField) : f.admits ((refreshDevice device payload now).hardware f) = true := by
  unfold refreshDevice
  refine applySysinfo_admits _ _ _ (fun g => ?_) f
  exact h g

theorem registerDevice_typed (draw : Draw) (f : HwField) :
    f.admits ((registerDevice payload agentToken draw).hardware f) = true := by
  unfold registerDevice
  refine applySysinfo_admits _ _ _ (fun f => ?_) f
  show f.admits .null = true
  cases f <;> rfl

end Heartbeat

theorem heartbeat_iff {settings : Settings} {db : Database} {payload : HeartbeatRequest}
    {headers : Headers} {draw : Draw} (htyped : LiveTyped db.devices) :
    LiveTyped (agentHeartbeat settings.config db.devices payload headers draw).1 ↔
      Fits settings db (.heartbeat payload headers draw) db := by
  apply Iff.intro
  · intro h d hmatch hdeleted htoken hbinds hnone
    have hallowed := Option.isSome_iff_ne_none.mpr hdeleted
    have hmem : adoptDevice d payload (bearerToken headers) draw.now ∈
        (agentHeartbeat settings.config db.devices payload headers draw).1 :=
      adoptDevice_mem ⟨hmatch, htoken, .inl hallowed, hbinds⟩
    have hlive : (adoptDevice d payload (bearerToken headers) draw.now).deletedAt = none := by
      rw [adoptDevice, applySysinfo_deletedAt]
    exact (adoptDevice_typed_iff d payload _ draw.now).mp (h _ hmem hlive) hnone
  · intro h d' hd' hlive f
    rcases handle_origin settings db (.heartbeat payload headers draw) hd' with
      ⟨d, hd, hstep⟩ | hadded
    · cases hstep with
      | same => exact htyped d' hd hlive f
      -- a heartbeat with the record's own token restores nothing
      | refreshed _ _ _ hmatch htoken hbinds =>
          rw [refreshDevice, applySysinfo_deletedAt] at hlive
          exact refreshDevice_typed d payload draw.now (htyped d hd hlive) f
      | adopted _ _ _ hre =>
          obtain ⟨hmatch, htoken, hallowed, hbinds⟩ := hre
          refine (adoptDevice_typed_iff d payload _ draw.now).mpr (fun hnone => ?_) f
          -- split on whether the heartbeat restores the record
          by_cases hdeleted : d.deletedAt = none
          · exact htyped d hd hdeleted
          · exact h d hmatch hdeleted htoken hbinds hnone
    · cases hadded with
      | registered => exact registerDevice_typed payload _ draw f
      | issued _ _ hfresh =>
          rw [hfresh.2]
          cases f <;> rfl

/-! ## The other requests -/

/-- The other requests write no hardware information and restore no record. -/
theorem handle_typed {settings : Settings} {db : Database} {request : Request}
    (hheartbeat : ∀ payload headers draw, request ≠ .heartbeat payload headers draw)
    (hframe : ∀ deviceId data now broadcastOk, request ≠ .frame deviceId data now broadcastOk)
    (htyped : LiveTyped db.devices) : LiveTyped (handle settings db request).devices := by
  intro d' hd' hlive f
  rcases handle_origin settings db request hd' with ⟨d, hd, hstep⟩ | hadded
  · cases hstep with
    | same => exact htyped d' hd hlive f
    | refreshed payload headers draw => exact absurd rfl (hheartbeat payload headers draw)
    | adopted payload headers draw => exact absurd rfl (hheartbeat payload headers draw)
    | recovered => exact htyped d hd hlive f
    | edited => exact htyped d hd hlive f
    | deleted => cases hlive
    | batchDeleted => cases hlive
    | measured deviceId data now broadcastOk =>
        exact absurd rfl (hframe deviceId data now broadcastOk)
  · cases hadded with
    | registered payload headers draw => exact absurd rfl (hheartbeat payload headers draw)
    | issued _ _ hfresh =>
        rw [hfresh.2]
        cases f <;> rfl

theorem step_iff {settings : Settings} {db db' : Database} {request : Request}
    (h : serve settings db request = some db') (htyped : LiveTyped db.devices) :
    LiveTyped db'.devices ↔ Fits settings db request db' := by
  rw [serve, Option.some.injEq] at h
  rw [← h]
  cases request with
  | heartbeat payload headers draw => exact heartbeat_iff htyped
  | frame deviceId data now broadcastOk => exact frame_iff htyped
  | _ =>
      exact iff_of_true (handle_typed (fun _ _ _ => Request.noConfusion)
        (fun _ _ _ _ => Request.noConfusion) htyped) trivial

/-! ## Whole runs -/

/-- **The device table stays well typed** in exactly the runs whose hardware information fits: in
every state reached live records have the types of the response, so the list can be serialised. -/
theorem device_types_iff (settings : Settings) (requests : List Request) :
    Along (serve settings) (fun _ _ db' => WellTyped db'.devices) .empty requests ↔
      Along (serve settings) (Fits settings) .empty requests := by
  have hiff : ∀ db request db', serve settings db request = some db' → LiveTyped db.devices →
      (WellTyped db'.devices ↔ Fits settings db request db') := by
    intro db request db' h htyped
    rw [wellTyped_iff]
    exact step_iff h htyped
  have hkeep : ∀ db request db', serve settings db request = some db' → LiveTyped db.devices →
      Fits settings db request db' → LiveTyped db'.devices :=
    fun _ _ _ h htyped => (step_iff h htyped).mpr
  have hempty : LiveTyped Database.empty.devices := fun d hd => absurd hd (Table.not_mem_empty d)
  exact along_iff hiff hkeep hempty

/-- The agent reports success, with a text for the number of cores. -/
def manyCores : String :=
  "\x7b\"command_id\": \"44444444-4444-4444-8444-444444444444\", \"status\": \"success\", " ++
    "\"output\": \"\x7b\\\"cpu_cores\\\": \\\"many\\\"\x7d\"\x7d"

/-- The text is stored in the column of integers. -/
theorem text_counter_stored : ¬Along (serve exampleSettings)
    (fun _ _ db' => WellTyped db'.devices) .empty
      (oneSent ++ [.frame issuedDraw.id.val manyCores 3 true]) := by
  intro h
  -- the types are enough, and are decidable
  have htyped : Along (serve exampleSettings) (fun _ _ db' => ∀ d ∈ db'.devices.rows,
      d.deletedAt = none → ∀ f : HwField, f.admits (d.hardware f) = true) .empty
        (oneSent ++ [.frame issuedDraw.id.val manyCores 3 true]) :=
    h.mono fun _ _ _ _ hwell => hwell.typed
  exact absurd htyped (by decide +kernel)

end LanAgent.DeviceTypes
