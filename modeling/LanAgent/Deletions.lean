import LanAgent.Connections
import LanAgent.DispatchAccounts
import LanAgent.Records

/-!
# Deletions — a deleted record stays deleted, offline and without commands

The whole server at once: the requests and the sockets of the agents share the device table.  A
record is retired from its deletion on, until a heartbeat hands it over to a new agent.  The
deletion is in the record's `deleted_at`, but the writes of the status and the dispatch of commands
do not look at it.
-/

namespace LanAgent.Deletions

open Library Library.Runs

/-! ## The system -/

structure State where
  /-- The sockets, and the device table they share with the requests. -/
  conn : Connections.State
  tasks : Tasks
  results : TaskResults
  retired : String → Bool

def start (conn : Connections.State) (tasks : Tasks) (results : TaskResults) : State :=
  ⟨conn, tasks, results, fun _ => false⟩

def State.db (s : State) : Database := ⟨s.conn.devices, s.tasks, s.results⟩

inductive Event where
  | request (request : Request)
  | socket (event : Connections.Event)

/-- The devices a request dispatches a task command to. -/
def dispatched (db : Database) : Request → List String
  | .createTask payload draw =>
      match (createTask db payload draw).2 with
      | .ok _ => (DispatchAccounts.transmitted db payload draw).map TaskResult.deviceId
      | .error _ => []
  | _ => []

/-- A command is transmitted on the socket of its device only. -/
def Connected (s : State) (request : Request) : Prop :=
  ∀ id ∈ dispatched s.db request, s.conn.isAgentOnline id = true

instance (s : State) (request : Request) : Decidable (Connected s request) :=
  inferInstanceAs (Decidable (∀ id ∈ dispatched s.db request, _))

/-- Which records are retired after a request. -/
def retire (settings : Settings) (db : Database) (retired : String → Bool) :
    Request → String → Bool
  | .deleteDevice deviceId _ _ _, id =>
      retired id || (id = deviceId && (db.devices.find? id).isSome)
  | .batchDeleteDevices deviceIds _ _ _, id =>
      retired id || (deviceIds.contains id && (db.devices.find? id).isSome)
  | .heartbeat payload headers draw, id =>
      retired id &&
        (match (agentHeartbeat settings.config db.devices payload headers draw).2 with
        | .ok answer => !(answer.status = .reEnrolled && answer.deviceId = id)
        | .error _ => true)
  | _, id => retired id

def answer (settings : Settings) (s : State) (request : Request) : State where
  conn := { s.conn with devices := (handle settings s.db request).devices }
  tasks := (handle settings s.db request).tasks
  results := (handle settings s.db request).results
  retired := retire settings s.db s.retired request

def step (settings : Settings) (s : State) : Event → Option State
  | .request request => if Connected s request then some (answer settings s request) else none
  | .socket event =>
      match Connections.step s.conn event with
      | some conn => some { s with conn := conn }
      | none => none

/-! ## The property and its condition -/

/-- Every retired record is deleted and offline. -/
def Inv (s : State) : Prop :=
  ∀ id, s.retired id = true →
    ∃ d ∈ s.conn.devices, d.id = id ∧ d.deletedAt.isSome ∧ d.status = .offline

/-- No task command is dispatched to a retired record. -/
def Silent (s : State) : Event → Prop
  | .request request => ∀ id ∈ dispatched s.db request, s.retired id = false
  | .socket _ => True

instance (s : State) : (e : Event) → Decidable (Silent s e)
  | .request request => inferInstanceAs (Decidable (∀ id ∈ dispatched s.db request, _))
  | .socket _ => inferInstanceAs (Decidable True)

structure DeletionHolds (s : State) (e : Event) (s' : State) : Prop where
  deleted : Inv s'
  silent : Silent s e

/-- The step does not bring a retired record online, and dispatches nothing to one. -/
def LeavesRetired (s : State) : Event → State → Prop
  | .request (.heartbeat payload headers _), _ =>
      ∀ d, matchDevice s.conn.devices payload = some d →
        (d.token = "" ∨ bearerToken headers = d.token) → payload.binds = true →
        payload.status = "online" → s.retired d.id = false
  | .request (.recover payload headers _), _ =>
      ∀ d, s.conn.devices.find? payload.deviceId = some d →
        (d.token = "" ∨ bearerToken headers = d.token) → s.retired d.id = false
  | .request (.createTask payload draw), _ =>
      DispatchAccounts.Accepted s.db payload draw →
        ∀ i id, (validIds s.conn.devices payload.deviceIds)[i]? = some id →
          s.conn.isAgentOnline id = true → draw.sent i = true → s.retired id = false
  | .request _, _ => True
  | .socket (.setOnline k _), _ =>
      ∀ c, s.conn.sockets k = some c → s.retired c.device = false
  | .socket _, _ => True

theorem inv_start (conn : Connections.State) (tasks : Tasks) (results : TaskResults) :
    Inv (start conn tasks results) := by
  intro id h
  cases h

theorem mem_dispatched_createTask {db : Database} {payload : TaskCreate} {draw : TaskDraw}
    {id : String} : id ∈ dispatched db (.createTask payload draw) ↔
      DispatchAccounts.Accepted db payload draw ∧
        ∃ i, (validIds db.devices payload.deviceIds)[i]? = some id ∧ draw.sent i = true := by
  rw [← DispatchAccounts.mem_transmitted_deviceId, ← DispatchAccounts.accepted_iff, dispatched]
  cases (createTask db payload draw).2 with
  | ok task => exact (and_iff_right ⟨task, rfl⟩).symm
  | error e => simp

theorem connected_of_step {settings : Settings} {s s' : State} {request : Request}
    (h : step settings s (.request request) = some s') : Connected s request := by
  by_contra hnot
  rw [step, if_neg hnot] at h
  cases h

/-! ## Requests -/

section Requests

variable {settings : Settings} {s : State} {request : Request}

theorem refreshDevice_of_not_online (d : Device) {payload : HeartbeatRequest}
    (hstatus : payload.status ≠ "online") (now : DateTime) :
    (refreshDevice d payload now).deletedAt = d.deletedAt ∧
      (refreshDevice d payload now).status = d.status := by
  unfold refreshDevice applySysinfo
  cases payload.sysinfo <;> simp [hstatus]

theorem refreshDevice_online (d : Device) {payload : HeartbeatRequest}
    (hstatus : payload.status = "online") (now : DateTime) :
    (refreshDevice d payload now).status = .online := by
  unfold refreshDevice applySysinfo
  cases payload.sysinfo <;> simp [hstatus]

/-- A retired record that a request leaves retired is as deleted and offline as it was. -/
theorem record_kept {d : Device} (hd : d ∈ s.conn.devices) (hretired : s.retired d.id = true)
    (hdeleted : d.deletedAt.isSome) (hoffline : d.status = .offline) {s' : State}
    (hleaves : LeavesRetired s (.request request) s')
    (hstill : retire settings s.db s.retired request d.id = true) :
    ∃ d' ∈ (handle settings s.db request).devices,
      d'.id = d.id ∧ d'.deletedAt.isSome ∧ d'.status = .offline := by
  obtain ⟨d', hd', hstep⟩ := handle_record settings s.db request hd
  refine ⟨d', hd', hstep.id, ?_⟩
  cases hstep with
  | same => exact ⟨hdeleted, hoffline⟩
  | refreshed payload headers draw hmatch htoken hbinds =>
      have hstatus : payload.status ≠ "online" := by
        intro hstatus
        rw [hleaves d hmatch htoken hbinds hstatus] at hretired
        cases hretired
      obtain ⟨hkept, hkept'⟩ := refreshDevice_of_not_online d hstatus draw.now
      rw [hkept, hkept']
      exact ⟨hdeleted, hoffline⟩
  | adopted payload headers draw hre =>
      -- the answer `re-enrolled` ends the retirement
      have hanswer : (agentHeartbeat settings.config s.db.devices payload headers draw).2 =
          .ok ⟨d.id, .reEnrolled⟩ := by
        rw [agentHeartbeat_of_reEnrols hre]
      simp [retire, hanswer] at hstill
  | recovered payload headers now hid htoken =>
      have hfind : s.conn.devices.find? payload.deviceId = some d := by
        rw [hid]
        exact Table.find?_key hd
      rw [hleaves d hfind htoken] at hretired
      cases hretired
  | edited => exact ⟨hdeleted, hoffline⟩
  | deleted => exact ⟨rfl, rfl⟩
  | batchDeleted => exact ⟨rfl, rfl⟩
  | measured => exact ⟨hdeleted, hoffline⟩

/-- A record that is retired by the request has just been deleted. -/
theorem record_retired {id : String} (hbefore : s.retired id = false)
    (hafter : retire settings s.db s.retired request id = true) :
    ∃ d' ∈ (handle settings s.db request).devices,
      d'.id = id ∧ d'.deletedAt.isSome ∧ d'.status = .offline := by
  cases request with
  | deleteDevice deviceId agentOnline sendOk now =>
      obtain ⟨rfl, hsome⟩ : id = deviceId ∧ (s.db.devices.find? id).isSome := by
        simpa [retire, hbefore] using hafter
      obtain ⟨d, hfind⟩ := Option.isSome_iff_exists.mp hsome
      have hid : d.id = id := Table.key_of_find? hfind
      refine ⟨softDelete d now, ?_, hid, rfl, rfl⟩
      show softDelete d now ∈ (deleteDevice s.db.devices id agentOnline sendOk now).1
      rw [deleteDevice, hfind]
      dsimp only
      exact Table.mem_updateKey.mpr ⟨d, Table.mem_of_find? hfind, if_pos hid⟩
  | batchDeleteDevices deviceIds agentOnline sendOk now =>
      obtain ⟨hlisted, hsome⟩ : id ∈ deviceIds ∧ (s.db.devices.find? id).isSome := by
        simpa [retire, hbefore] using hafter
      obtain ⟨d, hfind⟩ := Option.isSome_iff_exists.mp hsome
      have hid : d.id = id := Table.key_of_find? hfind
      refine ⟨softDelete d now, ?_, hid, rfl, rfl⟩
      show softDelete d now ∈ s.db.devices.update (fun d => deviceIds.contains d.id)
        (fun d => softDelete d now)
      refine Table.mem_update_of_pos (Table.mem_of_find? hfind) ?_
      simpa [hid] using hlisted
  | _ => simp [retire, hbefore] at hafter

theorem inv_request {s' : State} (h : step settings s (.request request) = some s') (hinv : Inv s)
    (hleaves : LeavesRetired s (.request request) s') : Inv s' := by
  simp only [step] at h
  split at h
  · rw [Option.some.injEq] at h
    rw [← h]
    intro id hretired'
    cases hretired : s.retired id with
    | true =>
        obtain ⟨d, hd, rfl, hdeleted, hoffline⟩ := hinv id hretired
        exact record_kept hd hretired hdeleted hoffline hleaves hretired'
    | false => exact record_retired hretired hretired'
  · cases h

end Requests

/-! ## Sockets -/

section Sockets

variable {conn conn' : Connections.State}

/-- A record after a status has been committed. -/
theorem commitStatus_record {d : Device} (hd : d ∈ conn.devices) (device : String)
    (status : DeviceStatus) (now : DateTime) :
    ∃ d' ∈ (conn.commitStatus device status now).devices, d'.id = d.id ∧
      d'.deletedAt = d.deletedAt ∧ d'.status = if d.id = device then status else d.status := by
  have hmem : (if d.id = device then { d with status := status, lastHeartbeat := now } else d) ∈
      (conn.commitStatus device status now).devices := by
    unfold Connections.State.commitStatus
    dsimp only
    exact Table.mem_updateKey.mpr ⟨d, hd, rfl⟩
  refine ⟨_, hmem, ?_⟩
  by_cases hid : d.id = device <;> simp [hid]

variable {settings : Settings} {s s' : State}

theorem inv_socket {event : Connections.Event}
    (h : step settings s (.socket event) = some s') (hinv : Inv s)
    (hleaves : LeavesRetired s (.socket event) s') : Inv s' := by
  simp only [step] at h
  split at h
  · rename_i conn' hstep
    rw [Option.some.injEq] at h
    rw [← h]
    intro id hretired
    obtain ⟨d, hd, hid, hdeleted, hoffline⟩ := hinv id hretired
    rcases Connections.step_devices hstep with ⟨hsame, _⟩ |
      ⟨k, c, now, hc, ⟨rfl, hset⟩ | ⟨rfl, hset⟩⟩
    · exact ⟨d, hsame ▸ hd, hid, hdeleted, hoffline⟩
    · -- the socket that commits ONLINE belongs to another device
      have hother : d.id ≠ c.device := by
        intro hdevice
        have hfree := hleaves c hc
        rw [← hdevice, hid, hretired] at hfree
        cases hfree
      obtain ⟨d', hd', hid', hdeleted', hstatus'⟩ := commitStatus_record hd c.device .online now
      refine ⟨d', hset ▸ hd', hid'.trans hid, hdeleted' ▸ hdeleted, ?_⟩
      rw [hstatus', if_neg hother, hoffline]
    · obtain ⟨d', hd', hid', hdeleted', hstatus'⟩ := commitStatus_record hd c.device .offline now
      refine ⟨d', hset ▸ hd', hid'.trans hid, hdeleted' ▸ hdeleted, ?_⟩
      rw [hstatus', hoffline, ite_self]
  · cases h

end Sockets

/-! ## One step -/

section Step

variable {settings : Settings} {s s' : State} {e : Event}

theorem step_inv (h : step settings s e = some s') (hinv : Inv s) (hleaves : LeavesRetired s e s') :
    Inv s' := by
  cases e with
  | request request => exact inv_request h hinv hleaves
  | socket event => exact inv_socket h hinv hleaves

/-- A record with status ONLINE after the step was not retired. -/
theorem not_retired_of_online {d : Device} (hinv : Inv s') (hd : d ∈ s'.conn.devices)
    (honline : d.status = .online) : s'.retired d.id = false := by
  by_contra hretired
  obtain ⟨d', hd', hid, _, hoffline⟩ := hinv d.id (by simpa using hretired)
  rw [Table.eq_of_key_eq _ hd' hd hid, honline] at hoffline
  cases hoffline

/-- An accepted heartbeat that reports `online` brings its record online. -/
theorem heartbeat_online {payload : HeartbeatRequest} {headers : Headers} {draw : Draw}
    {d : Device} (hinv' : Inv (answer settings s (.heartbeat payload headers draw)))
    (hmatch : matchDevice s.conn.devices payload = some d)
    (htoken : d.token = "" ∨ bearerToken headers = d.token) (hbinds : payload.binds = true)
    (hstatus : payload.status = "online") : s.retired d.id = false := by
  have hresult : agentHeartbeat settings.config s.db.devices payload headers draw = _ :=
    agentHeartbeat_of_accepted hmatch htoken hbinds
  have hmem : refreshDevice d payload draw.now ∈
      (answer settings s (.heartbeat payload headers draw)).conn.devices := by
    show _ ∈ (agentHeartbeat settings.config s.db.devices payload headers draw).1
    rw [hresult]
    dsimp only
    exact Table.mem_updateKey_self (matchDevice_mem hmatch)
  have hfree := not_retired_of_online hinv' hmem (refreshDevice_online d hstatus draw.now)
  -- the answer `updated` ends no retirement
  simpa [answer, retire, hresult] using hfree

theorem recover_online {payload : RecoverRequest} {headers : Headers} {now : DateTime}
    {d : Device} (hinv' : Inv (answer settings s (.recover payload headers now)))
    (hfind : s.conn.devices.find? payload.deviceId = some d)
    (htoken : d.token = "" ∨ bearerToken headers = d.token) : s.retired d.id = false := by
  have hmem : recoverDevice d payload now ∈
      (answer settings s (.recover payload headers now)).conn.devices := by
    show _ ∈ (agentRecover s.conn.devices payload headers now).1
    rw [agentRecover_of_accepted hfind htoken]
    dsimp only
    exact Table.mem_updateKey.mpr
      ⟨d, Table.mem_of_find? hfind, if_pos (Table.key_of_find? hfind)⟩
  have hfree := not_retired_of_online hinv' hmem rfl
  exact hfree

theorem socket_online {conn' : Connections.State} {k : Nat} {now : DateTime}
    {c : Connections.Socket} (hinv : Inv s) (hinv' : Inv { s with conn := conn' })
    (h : Connections.step s.conn (.setOnline k now) = some conn')
    (hc : s.conn.sockets k = some c) : s.retired c.device = false := by
  by_contra hretired
  obtain ⟨d, hd, hid, _⟩ := hinv c.device (by simpa using hretired)
  rcases Connections.step_devices h with ⟨_, hother⟩ | ⟨k', c', now', hc', ⟨heq, hset⟩ | ⟨heq, _⟩⟩
  · exact hother k now rfl
  · cases heq
    rw [hc, Option.some.injEq] at hc'
    obtain ⟨d', hd', hid', _, hstatus'⟩ := commitStatus_record hd c.device .online now
    rw [if_pos hid] at hstatus'
    rw [← hc'] at hset
    have hfree := not_retired_of_online hinv' (hset ▸ hd') hstatus'
    rw [hid', hid] at hfree
    exact hretired hfree
  · cases heq

theorem leavesRetired_of_holds (h : step settings s e = some s') (hinv : Inv s)
    (hholds : DeletionHolds s e s') : LeavesRetired s e s' := by
  cases e with
  | request request =>
      have hsilent : Silent s (.request request) := hholds.silent
      have hinv' := hholds.deleted
      rw [step] at h
      split at h
      · rw [Option.some.injEq] at h
        rw [← h] at hinv'
        cases request with
        | heartbeat payload headers draw =>
            exact fun d hmatch htoken hbinds hstatus =>
              heartbeat_online hinv' hmatch htoken hbinds hstatus
        | recover payload headers now =>
            exact fun d hfind htoken => recover_online hinv' hfind htoken
        | createTask payload draw =>
            exact fun haccepted i id hvalid _ hsent => hsilent id
              (mem_dispatched_createTask.mpr ⟨haccepted, i, hvalid, hsent⟩)
        | _ => trivial
      · cases h
  | socket event =>
      have hinv' := hholds.deleted
      rw [step] at h
      split at h
      · rename_i conn' hstep
        rw [Option.some.injEq] at h
        rw [← h] at hinv'
        cases event with
        | setOnline k now => exact fun c hc => socket_online hinv hinv' hstep hc
        | _ => trivial
      · cases h

theorem step_holds_iff (h : step settings s e = some s') (hinv : Inv s) :
    DeletionHolds s e s' ↔ LeavesRetired s e s' := by
  apply Iff.intro
  · exact leavesRetired_of_holds h hinv
  · intro hleaves
    refine ⟨step_inv h hinv hleaves, ?_⟩
    cases e with
    | request request =>
        intro id hid
        have honline : s.conn.isAgentOnline id = true := connected_of_step h id hid
        -- only a creation dispatches commands
        cases request with
        | createTask payload draw =>
            obtain ⟨haccepted, i, hvalid, hsent⟩ := mem_dispatched_createTask.mp hid
            exact hleaves haccepted i id hvalid honline hsent
        | _ => simp [dispatched] at hid
    | socket event => trivial

end Step

/-! ## Whole runs -/

/-- **Deletions hold** in exactly the runs in which no retired record is brought online by an
accepted heartbeat, a recovery or a connection, and no task command is dispatched to one. -/
theorem deletions_hold_iff (settings : Settings) (conn : Connections.State) (tasks : Tasks)
    (results : TaskResults) (events : List Event) :
    Along (step settings) DeletionHolds (start conn tasks results) events ↔
      Along (step settings) LeavesRetired (start conn tasks results) events := by
  have hiff : ∀ s e s', step settings s e = some s' → Inv s →
      (DeletionHolds s e s' ↔ LeavesRetired s e s') := fun _ _ _ h hinv => step_holds_iff h hinv
  have hkeep : ∀ s e s', step settings s e = some s' → Inv s → LeavesRetired s e s' → Inv s' :=
    fun _ _ _ h hinv hleaves => step_inv h hinv hleaves
  exact along_iff hiff hkeep (inv_start conn tasks results)

/-- The agent of a deleted record goes on with its heartbeats. -/
def stillRunning : List Event :=
  [.request (.createDevice {} issuedDraw),
    .request (.deleteDevice issuedDraw.id.val false false 10),
    .request (.heartbeat
      ⟨some issuedDraw.id.val, "pc", "windows", "10.0.0.1", 0, "online", "1.4.2", 0, none⟩
      { authorization := some ("Bearer " ++ issuedDraw.token.val) } issuedDraw)]

/-- The agent of a deleted record stays connected, and a task is created for it. -/
def stillConnected : List Event :=
  [.request (.createDevice {} issuedDraw),
    .socket (.accept 0 issuedDraw.id.val issuedDraw.token.val),
    .socket (.acquire 0),
    .socket (.setOnline 0 5),
    .request (.deleteDevice issuedDraw.id.val true false 10),
    .request (.createTask ⟨"shutdown", [issuedDraw.id.val]⟩ sentDraw)]

/-- The first record is online again; to the second the command is dispatched. -/
theorem deletion_undone :
    ¬Along (step exampleSettings) DeletionHolds (start (Connections.start .empty) .empty .empty)
        stillRunning ∧
      ¬Along (step exampleSettings) DeletionHolds (start (Connections.start .empty) .empty .empty)
        stillConnected := by
  apply And.intro
  · intro h
    have hoffline : Along (step exampleSettings)
        (fun _ _ s' => ∀ d ∈ s'.conn.devices, s'.retired d.id = true → d.status = .offline)
        (start (Connections.start .empty) .empty .empty) stillRunning := by
      apply h.mono
      intro _ _ s' _ hholds d hd hretired
      obtain ⟨d', hd', hid, _, hoffline⟩ := hholds.deleted d.id hretired
      rwa [Table.eq_of_key_eq _ hd hd' hid.symm]
    exact absurd hoffline (by decide)
  · intro h
    have hsilent : Along (step exampleSettings) (fun s e _ => Silent s e)
        (start (Connections.start .empty) .empty .empty) stillConnected :=
      h.mono fun _ _ _ _ hholds => hholds.silent
    exact absurd hsilent (by decide)

end LanAgent.Deletions
