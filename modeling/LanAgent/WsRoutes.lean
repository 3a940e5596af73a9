import LanAgent.Models

/-!
# Agent sockets — `api/ws_routes.py`

The token check of a connection and the handling of one text frame: decode it, find the result it
names, commit the reply, store the hardware information it may carry, synchronise the parent task
and tell the subscribers.  Each of the three writes is a transaction of its own, so an exception
keeps what was committed before it; it ends the receive loop.
-/

namespace LanAgent

open Library Sqlite Python

/-- What the frame handler takes from the process: how deep `json.loads` nests containers, and the
conversions of the database. -/
structure Runtime where
  recursionLimit : Nat
  affinity : ColumnAffinity

/-! ## Tokens -/

/-- `_token_equal`; `none` where `hmac.compare_digest` raises. -/
def tokenEqual (expected provided : String) : Option Bool :=
  if expected = "" ∨ provided = "" then some false else compareDigest expected provided

/-- The check at the head of `agent_websocket`: `some true` lets the connection in. -/
def socketAuthorized (devices : Devices) (deviceId token : String) : Option Bool :=
  match devices.find? deviceId with
  | none => some false
  | some device => tokenEqual device.token token

theorem tokenEqual_eq_some_true_iff {expected provided : String} :
    tokenEqual expected provided = some true ↔
      expected ≠ "" ∧ isAscii expected = true ∧ expected = provided := by
  unfold tokenEqual
  apply Iff.intro
  · intro h
    by_cases hempty : expected = "" ∨ provided = ""
    · rw [if_pos hempty] at h
      cases h
    · rw [if_neg hempty] at h
      have hcmp := compareDigest_eq_some_true_iff.mp h
      exact ⟨fun he => hempty (.inl he), hcmp.1, hcmp.2⟩
  · intro h
    have hempty : ¬(expected = "" ∨ provided = "") := by
      rw [← h.2.2]
      simpa using h.1
    rw [if_neg hempty]
    exact compareDigest_eq_some_true_iff.mpr h.2

/-! ## The parent task -/

def terminalStatuses : List String := ["success", "failed", "cancelled", "timeout"]

/-- The status `_sync_parent_task` gives a task whose results have the given statuses; `none` where
it returns before the update. -/
def syncVerdict (statuses : List String) : Option TaskStatus :=
  -- `statuses` is a set in the source; only its members are asked for
  if statuses = [] then none
  else if ¬∀ s ∈ statuses, s ∈ terminalStatuses then none
  else if ∀ s ∈ statuses, s = "success" then some .completed
  else if "cancelled" ∈ statuses ∧ ∀ s ∈ statuses, s ∈ ["cancelled", "success"] then
    some .cancelled
  else some .failed

theorem syncVerdict_eq_none_iff {statuses : List String} :
    syncVerdict statuses = none ↔ statuses = [] ∨ ¬∀ s ∈ statuses, s ∈ terminalStatuses := by
  unfold syncVerdict
  by_cases hnil : statuses = []
  · simp [hnil]
  · by_cases hterm : ∀ s ∈ statuses, s ∈ terminalStatuses
    -- every branch behind the first two returns a status
    · rw [if_neg hnil, if_neg (not_not.mpr hterm)]
      have hsome : ¬(statuses = [] ∨ ¬∀ s ∈ statuses, s ∈ terminalStatuses) := by
        rw [not_or, not_not]
        exact ⟨hnil, hterm⟩
      refine iff_of_false ?_ hsome
      split
      · exact Option.some_ne_none _
      · split <;> exact Option.some_ne_none _
    · rw [if_neg hnil, if_pos hterm]
      exact iff_of_true rfl (.inr hterm)

/-- A verdict is final, and it is about results that have all ended. -/
theorem syncVerdict_eq_some {statuses : List String} {verdict : TaskStatus}
    (h : syncVerdict statuses = some verdict) :
    verdict.isFinal = true ∧ ∀ s ∈ statuses, s ∈ terminalStatuses := by
  refine ⟨?_, ?_⟩
  · unfold syncVerdict at h
    split at h
    · cases h
    · split at h
      · cases h
      · split at h
        · cases h
          rfl
        · split at h
          · cases h
            rfl
          · cases h
            rfl
  · by_contra hterm
    rw [syncVerdict_eq_none_iff.mpr (.inr hterm)] at h
    cases h

def syncParentTask (db : Database) (taskId : String) : Database :=
  match syncVerdict ((db.resultsOf taskId).map TaskResult.status) with
  | none => db
  | some final => setTaskStatus db taskId final

theorem mem_syncParentTask {db : Database} {taskId : String} {t : Task} :
    t ∈ (syncParentTask db taskId).tasks ↔
      match syncVerdict ((db.resultsOf taskId).map TaskResult.status) with
      | none => t ∈ db.tasks
      | some final => ∃ t₀ ∈ db.tasks,
          (if t₀.id = taskId then { t₀ with status := final } else t₀) = t := by
  unfold syncParentTask
  split
  · exact Iff.rfl
  · exact mem_setTaskStatus

theorem syncParentTask_keeps {db : Database} {taskId : String} {t : Task} (ht : t ∈ db.tasks) :
    ∃ t' ∈ (syncParentTask db taskId).tasks, t'.id = t.id := by
  unfold syncParentTask
  split
  · exact ⟨t, ht, rfl⟩
  · rename_i final _
    refine ⟨if t.id = taskId then { t with status := final } else t, ?_, ?_⟩
    · rw [mem_setTaskStatus]
      exact ⟨t, ht, rfl⟩
    · split <;> rfl

@[simp] theorem syncParentTask_devices (db : Database) (taskId : String) :
    (syncParentTask db taskId).devices = db.devices := by
  unfold syncParentTask
  split <;> rfl

@[simp] theorem syncParentTask_results (db : Database) (taskId : String) :
    (syncParentTask db taskId).results = db.results := by
  unfold syncParentTask
  split <;> rfl

/-! ## Decoding a frame -/

inductive FrameError where
  /-- `JSONDecodeError`, or an integer literal beyond the digit limit. -/
  | value
  /-- `RecursionError` of the decoder. -/
  | recursion
  /-- `AttributeError`: the frame is not an object. -/
  | attribute
  /-- `TypeError`: the output has no length, or cannot be truncated. -/
  | type
  /-- The driver refuses a parameter. -/
  | bind (e : BindError)
  /-- `IntegrityError`: the status is NULL. -/
  | integrity
  /-- `RuntimeError` of the broadcast. -/
  | broadcast
  deriving DecidableEq, Repr

def maxOutputChars : Nat := 100000

def frameItems (rt : Runtime) (data : String) : Except FrameError (List (Str × Json)) :=
  match loads rt.recursionLimit data with
  | .error .value => .error .value
  | .error .recursion => .error .recursion
  | .ok (.obj items) => .ok items
  -- `msg.get` on a list, a text, a number or a constant
  | .ok _ => .error .attribute

def bindParameter (value : Json) : Except FrameError Value :=
  match Sqlite.bind value with
  | .error e => .error (.bind e)
  | .ok v => .ok v

theorem bindParameter_eq_ok_iff {value : Json} {v : Value} :
    bindParameter value = .ok v ↔ Sqlite.bind value = .ok v := by
  unfold bindParameter
  split <;> simp_all

def commandRow (rt : Runtime) (results : TaskResults) (items : List (Str × Json)) :
    Except FrameError (Option TaskResult) :=
  let commandId := get items "command_id"
  -- `if command_id:`, where the key may be missing, `null`, `0` or empty
  if commandId.truthy then
    match bindParameter commandId with
    | .error e => .error e
    | .ok v =>
        match rt.affinity.text v with
        -- a NULL equals no id
        | none => .ok none
        | some id => .ok (results.find? id)
  else .ok none

def truncateOutput (output : Str) : Str :=
  if maxOutputChars < output.length then
    output.take maxOutputChars ++
      Str.ofString ("\n...[truncated, total " ++ toString output.length ++ " chars]")
  else output

def shownOutput (items : List (Str × Json)) : Except FrameError Json :=
  match get items "output" (.str []) with
  -- the default of a missing key is the empty text
  | .str s => .ok (.str (truncateOutput s))
  -- a list or a `dict` has a length, and no text can be appended to its first items
  | .arr values => if maxOutputChars < values.length then .error .type else .ok (.arr values)
  | .obj members => if maxOutputChars < members.length then .error .type else .ok (.obj members)
  | _ => .error .type

/-- The status and the output of the frame as the commit stores them. -/
def replyColumns (rt : Runtime) (items : List (Str × Json)) :
    Except FrameError (String × Option String) :=
  match shownOutput items with
  | .error e => .error e
  | .ok output =>
      match bindParameter (get items "status" (.str (Str.ofString "unknown"))),
        bindParameter output with
      | .error e, _ => .error e
      | .ok _, .error e => .error e
      | .ok status, .ok output =>
          match rt.affinity.text status with
          -- `status` is NOT NULL
          | none => .error .integrity
          | some status => .ok (status, rt.affinity.text output)

structure Reply where
  row : TaskResult
  status : String
  output : Option String
  deriving DecidableEq, Repr

/-- A frame up to its first commit; `none` is a frame that names no command. -/
def readReply (rt : Runtime) (results : TaskResults) (data : String) :
    Except FrameError (Option Reply) :=
  match frameItems rt data with
  | .error e => .error e
  | .ok items =>
      match commandRow rt results items with
      | .error e => .error e
      | .ok none => .ok none
      | .ok (some row) =>
          match replyColumns rt items with
          | .error e => .error e
          | .ok (status, output) => .ok (some ⟨row, status, output⟩)

/-! ## Storing a reply -/

/-- What a session holds of the row once the reply is assigned to it. -/
def Reply.assigned (reply : Reply) (now : DateTime) : TaskResult :=
  { reply.row with status := reply.status, output := reply.output, finishedAt := some now }

/-- A column after the flush of a loaded row: written when the assignment changed it, and left to
what is stored by then otherwise. -/
def flushed {α : Type} [DecidableEq α] (loaded assigned stored : α) : α :=
  if assigned = loaded then stored else assigned

def flushReply (reply : Reply) (now : DateTime) (stored : TaskResult) : TaskResult :=
  { stored with
    status := flushed reply.row.status reply.status stored.status
    output := flushed reply.row.output reply.output stored.output
    finishedAt := flushed reply.row.finishedAt (some now) stored.finishedAt }

@[simp] theorem flushReply_id (reply : Reply) (now : DateTime) (stored : TaskResult) :
    (flushReply reply now stored).id = stored.id := rfl

@[simp] theorem flushed_loaded {α : Type} [DecidableEq α] (loaded assigned : α) :
    flushed loaded assigned loaded = assigned := by
  unfold flushed
  split
  · rename_i h
    exact h.symm
  · rfl

@[simp] theorem flushReply_row (reply : Reply) (now : DateTime) :
    flushReply reply now reply.row = reply.assigned now := by
  simp [flushReply, Reply.assigned]

/-- The first commit. -/
def commitReply (db : Database) (reply : Reply) (now : DateTime) : Database :=
  { db with
    results := db.results.updateKey reply.row.id (flushReply reply now) (flushReply_id reply now) }

theorem find?_commitReply (db : Database) (reply : Reply) (now : DateTime) (id : String) :
    (commitReply db reply now).results.find? id =
      if id = reply.row.id then (db.results.find? id).map (flushReply reply now)
      else db.results.find? id := by
  rw [commitReply, Table.find?_updateKey]

/-- After the commit the row holds the reply, and the others are as they were. -/
theorem mem_commitReply {db : Database} {reply : Reply} {now : DateTime}
    (hrow : reply.row ∈ db.results) {r : TaskResult} :
    r ∈ (commitReply db reply now).results ↔
      (r ∈ db.results ∧ r.id ≠ reply.row.id) ∨ r = reply.assigned now := by
  rw [commitReply, Table.mem_updateKey]
  apply Iff.intro
  · intro h
    rcases h with ⟨r₀, hr₀, rfl⟩
    by_cases hid : r₀.id = reply.row.id
    · rw [if_pos hid, db.results.eq_of_key_eq hr₀ hrow hid, flushReply_row]
      exact .inr rfl
    · rw [if_neg hid]
      exact .inl ⟨hr₀, hid⟩
  · intro h
    rcases h with ⟨hr, hid⟩ | rfl
    · exact ⟨r, hr, if_neg hid⟩
    · exact ⟨reply.row, hrow, by rw [if_pos rfl, flushReply_row]⟩

theorem statuses_commitReply {db : Database} {reply : Reply} {now : DateTime} (taskId : String)
    (hrow : reply.row ∈ db.results) (hsame : reply.status = reply.row.status) :
    ((commitReply db reply now).resultsOf taskId).map TaskResult.status =
      (db.resultsOf taskId).map TaskResult.status := by
  have hrows : (commitReply db reply now).results.rows = db.results.rows.map
      (fun r => if r.id = reply.row.id then flushReply reply now r else r) := by
    simp [commitReply, Table.updateKey, Table.update]
  rw [Database.resultsOf, Database.resultsOf, hrows, List.filter_map, List.map_map]
  -- the flush writes no `task_id`, so the same rows are selected
  have htask : ((fun r : TaskResult => decide (r.taskId = taskId)) ∘
      fun r => if r.id = reply.row.id then flushReply reply now r else r) =
        fun r => decide (r.taskId = taskId) := by
    funext r
    simp only [Function.comp_apply]
    split <;> rfl
  rw [htask]
  apply List.map_congr_left
  intro r hr
  have hmem : r ∈ db.results := (List.mem_filter.mp hr).1
  simp only [Function.comp_apply]
  by_cases hid : r.id = reply.row.id
  · rw [if_pos hid, db.results.eq_of_key_eq hmem hrow hid, flushReply_row]
    exact hsame
  · rw [if_neg hid]

def HwField.stored (f : HwField) (affinity : ColumnAffinity) (v : Value) : Value :=
  if f.isCounter then affinity.integer v else .ofText (affinity.text v)

/-- The columns of `fields` that the object names, with the values they get. -/
def sysinfoValues (rt : Runtime) (info : List (Str × Json)) :
    List HwField → Except FrameError (List (HwField × Value))
  | [] => .ok []
  | f :: fields =>
      match lookup info (Str.ofString f.name) with
      -- a column the object does not name is not written
      | none => sysinfoValues rt info fields
      | some value =>
          match bindParameter value, sysinfoValues rt info fields with
          | .error e, _ => .error e
          | .ok _, .error e => .error e
          | .ok v, .ok values => .ok ((f, f.stored rt.affinity v) :: values)

/-- The second commit is possible when every value it would write can be bound. -/
theorem sysinfoValues_isOk_iff {rt : Runtime} {info : List (Str × Json)} {fields : List HwField} :
    (∃ values, sysinfoValues rt info fields = .ok values) ↔
      ∀ f ∈ fields, ∀ value, lookup info (Str.ofString f.name) = some value →
        bindable value = true := by
  induction fields with
  | nil => exact iff_of_true ⟨[], rfl⟩ fun f hf => absurd hf List.not_mem_nil
  | cons f fields ih =>
      rw [List.forall_mem_cons, ← ih, sysinfoValues]
      cases hvalue : lookup info (Str.ofString f.name) with
      | none => simp
      | some value =>
          simp only [Option.some.injEq, forall_eq', bindable_iff]
          cases hv : Sqlite.bind value with
          | error e =>
              have hbind : bindParameter value = .error (.bind e) := by rw [bindParameter, hv]
              simp [hbind]
          | ok v =>
              rw [bindParameter_eq_ok_iff.mpr hv]
              cases sysinfoValues rt info fields with
              | error e => simp
              | ok values => simp

theorem lookup_sysinfoValues {rt : Runtime} {info : List (Str × Json)} {fields : List HwField}
    {values : List (HwField × Value)} (h : sysinfoValues rt info fields = .ok values) {f : HwField}
    {w : Value} : values.lookup f = some w ↔ f ∈ fields ∧ ∃ value v,
      lookup info (Str.ofString f.name) = some value ∧ Sqlite.bind value = .ok v ∧
        w = f.stored rt.affinity v := by
  induction fields generalizing values with
  | nil =>
      cases h
      exact iff_of_false (nomatch ·) fun h => absurd h.1 List.not_mem_nil
  | cons g fields ih =>
      rw [sysinfoValues] at h
      cases hvalue : lookup info (Str.ofString g.name) with
      | none =>
          rw [hvalue] at h
          rw [ih h, List.mem_cons]
          refine and_congr_left fun hfound => (or_iff_right fun hsame => ?_).symm
          rcases hfound with ⟨value, v, hlookup, _⟩
          rw [hsame, hvalue] at hlookup
          cases hlookup
      | some value =>
          rw [hvalue] at h
          dsimp only at h
          split at h
          · cases h
          · cases h
          · rename_i v rest hv hrest
            cases h
            rw [bindParameter_eq_ok_iff] at hv
            by_cases hsame : f = g
            · rw [hsame, List.lookup_cons_self, hvalue]
              simp [hv, eq_comm]
            · rw [List.lookup_cons, beq_false_of_ne hsame, ih hrest, List.mem_cons]
              simp [hsame]

def writeSysinfo (device : Device) (values : List (HwField × Value)) (now : DateTime) : Device :=
  { device with
    hardware := fun f => (values.lookup f).getD (device.hardware f)
    sysinfoUpdatedAt := some now }

@[simp] theorem writeSysinfo_id (device : Device) (values : List (HwField × Value))
    (now : DateTime) : (writeSysinfo device values now).id = device.id := rfl

@[simp] theorem writeSysinfo_token (device : Device) (values : List (HwField × Value))
    (now : DateTime) : (writeSysinfo device values now).token = device.token := rfl

/-- `update(Device).where(Device.id == device_id).values(**values)`. -/
def updateSysinfo (devices : Devices) (deviceId : String) (values : List (HwField × Value))
    (now : DateTime) : Devices :=
  devices.updateKey deviceId (fun d => writeSysinfo d values now)
    (fun d => writeSysinfo_id d values now)

theorem mem_updateSysinfo {devices : Devices} {deviceId : String} {values : List (HwField × Value)}
    {now : DateTime} {d : Device} : d ∈ updateSysinfo devices deviceId values now ↔
      ∃ d₀ ∈ devices, (if d₀.id = deviceId then writeSysinfo d₀ values now else d₀) = d := by
  rw [updateSysinfo, Table.mem_updateKey]

def storeSysinfoOutput (rt : Runtime) (devices : Devices) (deviceId output : String)
    (now : DateTime) : Except FrameError Devices :=
  match loads rt.recursionLimit output with
  -- `except (ValueError, TypeError): return`
  | .error .value => .ok devices
  -- `RecursionError` is neither a `ValueError` nor a `TypeError`
  | .error .recursion => .error .recursion
  | .ok (.obj info) =>
      match sysinfoValues rt info HwField.all with
      | .error e => .error e
      -- `if not values: return`
      | .ok [] => .ok devices
      | .ok values => .ok (updateSysinfo devices deviceId values now)
  -- `isinstance(info, dict)` is false
  | .ok _ => .ok devices

/-- The second commit, made when the reply is a success with an output. -/
def storeReplySysinfo (rt : Runtime) (devices : Devices) (deviceId : String) (reply : Reply)
    (now : DateTime) : Except FrameError Devices :=
  match reply.output with
  | none => .ok devices
  | some output =>
      if reply.status = "success" ∧ output ≠ "" then
        storeSysinfoOutput rt devices deviceId output now
      else .ok devices

/-- One round of the receive loop of `agent_websocket`, for the text frame `data` on the socket of
`deviceId`; `broadcastOk` is whether the broadcast returns. -/
def handleFrame (rt : Runtime) (db : Database) (deviceId data : String) (now : DateTime)
    (broadcastOk : Bool) : Database × Except FrameError Unit :=
  match readReply rt db.results data with
  | .error e => (db, .error e)
  | .ok none => (db, .ok ())
  | .ok (some reply) =>
      -- from here on an exception leaves the first commit behind
      let db := commitReply db reply now
      match storeReplySysinfo rt db.devices deviceId reply now with
      | .error e => (db, .error e)
      | .ok devices =>
          (syncParentTask { db with devices := devices } reply.row.taskId,
            if broadcastOk then .ok () else .error .broadcast)

/-! ## What a frame can do -/

/-- The outcomes of one frame. -/
inductive FrameOutcome (rt : Runtime) (db : Database) (deviceId data : String) (now : DateTime)
    (broadcastOk : Bool) : Database × Except FrameError Unit → Prop
  | rejected (e : FrameError) (hread : readReply rt db.results data = .error e) :
      FrameOutcome rt db deviceId data now broadcastOk (db, .error e)
  | unnamed (hread : readReply rt db.results data = .ok none) :
      FrameOutcome rt db deviceId data now broadcastOk (db, .ok ())
  | unsynced (reply : Reply) (hread : readReply rt db.results data = .ok (some reply))
      (e : FrameError) (hsysinfo : storeReplySysinfo rt db.devices deviceId reply now = .error e) :
      FrameOutcome rt db deviceId data now broadcastOk (commitReply db reply now, .error e)
  | stored (reply : Reply) (hread : readReply rt db.results data = .ok (some reply))
      (devices : Devices)
      (hsysinfo : storeReplySysinfo rt db.devices deviceId reply now = .ok devices) :
      FrameOutcome rt db deviceId data now broadcastOk
        (syncParentTask { commitReply db reply now with devices := devices } reply.row.taskId,
          if broadcastOk then .ok () else .error .broadcast)

/-- **One frame.** -/
theorem handleFrame_outcome (rt : Runtime) (db : Database) (deviceId data : String)
    (now : DateTime) (broadcastOk : Bool) :
    FrameOutcome rt db deviceId data now broadcastOk
      (handleFrame rt db deviceId data now broadcastOk) := by
  unfold handleFrame
  cases hread : readReply rt db.results data with
  | error e => exact .rejected e hread
  | ok found =>
      cases found with
      | none => exact .unnamed hread
      | some reply =>
          dsimp only
          -- the first commit writes no device
          have hdevices : (commitReply db reply now).devices = db.devices := rfl
          rw [hdevices]
          cases hsysinfo : storeReplySysinfo rt db.devices deviceId reply now with
          | error e => exact .unsynced reply hread e hsysinfo
          | ok devices => exact .stored reply hread devices hsysinfo

theorem readReply_mem {rt : Runtime} {results : TaskResults} {data : String} {reply : Reply}
    (h : readReply rt results data = .ok (some reply)) : reply.row ∈ results := by
  unfold readReply at h
  cases hitems : frameItems rt data with
  | error e =>
      rw [hitems] at h
      cases h
  | ok items =>
      rw [hitems] at h
      dsimp only at h
      cases hrow : commandRow rt results items with
      | error e =>
          rw [hrow] at h
          cases h
      | ok found =>
          rw [hrow] at h
          cases found with
          | none => cases h
          | some row =>
              dsimp only at h
              -- only the last branch of the query yields a row
              have hmem : row ∈ results := by
                unfold commandRow at hrow
                dsimp only at hrow
                split at hrow
                · split at hrow
                  · cases hrow
                  · split at hrow
                    · cases hrow
                    · exact Table.mem_of_find? (Except.ok.inj hrow)
                · cases hrow
              split at h
              · cases h
              · cases h
                exact hmem

/-- The second commit writes hardware columns of one record, or nothing. -/
theorem storeReplySysinfo_eq_ok {rt : Runtime} {devices devices' : Devices} {deviceId : String}
    {reply : Reply} {now : DateTime}
    (h : storeReplySysinfo rt devices deviceId reply now = .ok devices') :
    devices' = devices ∨ ∃ output info values, reply.output = some output ∧
      reply.status = "success" ∧ loads rt.recursionLimit output = .ok (.obj info) ∧
      sysinfoValues rt info HwField.all = .ok values ∧
      devices' = updateSysinfo devices deviceId values now := by
  unfold storeReplySysinfo at h
  split at h
  · cases h
    exact .inl rfl
  · rename_i output houtput
    split at h
    · rename_i hsuccess
      unfold storeSysinfoOutput at h
      split at h
      · cases h
        exact .inl rfl
      · cases h
      · rename_i info hinfo
        split at h
        · cases h
        · cases h
          exact .inl rfl
        · rename_i values _ hvalues
          cases h
          exact .inr ⟨output, info, values, houtput, hsuccess.1, hinfo, hvalues, rfl⟩
      · cases h
        exact .inl rfl
    · cases h
      exact .inl rfl

theorem storeReplySysinfo_of_info {rt : Runtime} {reply : Reply} {output : String}
    {info : List (Str × Json)} {values : List (HwField × Value)}
    (hsuccess : reply.status = "success") (houtput : reply.output = some output)
    (hinfo : loads rt.recursionLimit output = .ok (.obj info))
    (hvalues : sysinfoValues rt info HwField.all = .ok values) (devices : Devices)
    (deviceId : String) (now : DateTime) :
    storeReplySysinfo rt devices deviceId reply now = .ok (if values = [] then devices
      else updateSysinfo devices deviceId values now) := by
  -- an empty text decodes to nothing
  have hnonempty : output ≠ "" := by
    intro hempty
    rw [hempty, loads_empty] at hinfo
    cases hinfo
  rw [storeReplySysinfo, houtput]
  dsimp only
  rw [if_pos ⟨hsuccess, hnonempty⟩, storeSysinfoOutput, hinfo]
  dsimp only
  rw [hvalues]
  cases values <;> rfl

end LanAgent
