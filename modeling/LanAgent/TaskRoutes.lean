import LanAgent.Models

/-!
# Tasks — `api/task_routes.py`

Creating a task, cancelling it, and the detail view with its time-out of upgrades.  The steps of
`create_task` are definitions of their own, in the order of its commits, so that the same steps can
be run one after the other (`createTask`) and interleaved with the agents' replies.
-/

namespace LanAgent

open Library

def upgradeTimeoutSeconds : Int := 300

/-! ## Creating a task -/

structure TaskCreate where
  taskType : String
  deviceIds : List String

/-- What a creation takes from outside the request: how many parameters the database binds in a
statement, the clock, fresh UUIDs, and for the `i`-th command whether `send_command` transmitted it
and when it returned. -/
structure TaskDraw where
  maxVariables : Nat
  now : DateTime
  id : Uuid
  resultId : Nat → Uuid
  sent : Nat → Bool
  returned : Nat → DateTime

/-- The draw of a first task, whose commands are all transmitted. -/
def sentDraw : TaskDraw where
  maxVariables := 32766
  now := 1
  id := ⟨"33333333-3333-4333-8333-333333333333", by decide +kernel⟩
  resultId := fun _ => ⟨"44444444-4444-4444-8444-444444444444", by decide +kernel⟩
  sent := fun _ => true
  returned := fun _ => 2

def validIds (devices : Devices) (deviceIds : List String) : List String :=
  deviceIds.filter (fun id => (devices.find? id).isSome)

def skippedIds (devices : Devices) (deviceIds : List String) : List String :=
  deviceIds.filter (fun id => (devices.find? id).isNone)

/-- What `create_task` logs of the devices; `skipped_unknown_devices` is absent when there is no
detail. -/
structure TaskAudit where
  target : String
  skippedUnknownDevices : Option (List String)
  deriving DecidableEq, Repr

/-- The audit entry of a creation; `hasParams` says that its `params` are truthy. -/
def taskAudit (devices : Devices) (payload : TaskCreate) (hasParams : Bool) : TaskAudit where
  target := payload.taskType ++ ":" ++
    toString (validIds devices payload.deviceIds).length ++ " devices"
  skippedUnknownDevices :=
    let skipped := skippedIds devices payload.deviceIds
    if hasParams ∨ skipped ≠ [] then some skipped else none

def pendingResult (taskId resultId deviceId : String) : TaskResult where
  id := resultId
  taskId := taskId
  deviceId := deviceId
  status := "pending"
  output := none
  startedAt := none
  finishedAt := none

def pendingTask (taskId : String) (taskType : TaskType) (now : DateTime) : Task where
  id := taskId
  taskType := taskType
  status := .pending
  createdAt := now

/-- The rows of a new task, one for each occurrence of an existing device. -/
def newResults (devices : Devices) (deviceIds : List String) (draw : TaskDraw) :
    List TaskResult :=
  (validIds devices deviceIds).mapIdx
    -- `for device_id in valid_ids`, one row each, repetitions included
    (fun i deviceId => pendingResult draw.id.val (draw.resultId i).val deviceId)

theorem mem_newResults {devices : Devices} {deviceIds : List String} {draw : TaskDraw}
    {r : TaskResult} (h : r ∈ newResults devices deviceIds draw) :
    r.status = "pending" ∧ r.taskId = draw.id.val ∧ r.startedAt = none := by
  rcases List.mem_mapIdx.mp h with ⟨i, _, rfl⟩
  exact ⟨rfl, rfl, rfl⟩

/-- The first commit: the task and its pending rows. -/
def commitPending (db : Database) (task : Task) (rows : List TaskResult) : Option Database :=
  match db.tasks.insert? task, db.results.insertAll? rows with
  | some tasks, some results => some { db with tasks := tasks, results := results }
  -- an id is taken: the whole commit is rolled back
  | _, _ => none

/-- What one `_dispatch` has found out about its row. -/
structure Dispatched where
  row : String
  success : Bool
  returned : DateTime
  deriving DecidableEq, Repr

/-- The columns `_dispatch` assigns. -/
def dispatch (outcome : Dispatched) (tr : TaskResult) : TaskResult :=
  if outcome.success then { tr with status := "sent", startedAt := some outcome.returned }
  else
    { tr with
      status := "failed", output := some "Agent offline", finishedAt := some outcome.returned }

def Dispatched.status (outcome : Dispatched) : String :=
  if outcome.success then "sent" else "failed"

@[simp] theorem dispatch_id (outcome : Dispatched) (tr : TaskResult) :
    (dispatch outcome tr).id = tr.id := by
  unfold dispatch
  split <;> rfl

@[simp] theorem dispatch_taskId (outcome : Dispatched) (tr : TaskResult) :
    (dispatch outcome tr).taskId = tr.taskId := by
  unfold dispatch
  split <;> rfl

@[simp] theorem dispatch_status (outcome : Dispatched) (tr : TaskResult) :
    (dispatch outcome tr).status = outcome.status := by
  unfold dispatch Dispatched.status
  split <;> rfl

theorem dispatch_startedAt {outcome : Dispatched} {tr : TaskResult}
    (h : outcome.status = "sent") : (dispatch outcome tr).startedAt.isSome = true := by
  unfold Dispatched.status at h
  split at h
  · rename_i hsuccess
    rw [dispatch, if_pos hsuccess]
    rfl
  · exact absurd h (by decide)

/-- The commit behind `gather`: the changed columns of every row. -/
def commitOutcomes (db : Database) (outcomes : List Dispatched) : Database :=
  { db with results := db.results.updateEach Dispatched.row dispatch dispatch_id outcomes }

/-- The status after the dispatch: a task that reached no agent has failed. -/
def sentCountStatus (outcomes : List Dispatched) : TaskStatus :=
  if outcomes.any Dispatched.success then .running else .failed

/-- The last commit; it writes the status only when no command was transmitted. -/
def commitSentCount (db : Database) (taskId : String) (outcomes : List Dispatched) : Database :=
  -- RUNNING is what the task has already
  if outcomes.any Dispatched.success then db else setTaskStatus db taskId .failed

/-- What the coroutines find out, one after the other. -/
def dispatchAll (rows : List TaskResult) (draw : TaskDraw) : List Dispatched :=
  rows.mapIdx (fun i tr => ⟨tr.id, draw.sent i, draw.returned i⟩)

theorem dispatchAll_rows (rows : List TaskResult) (draw : TaskDraw) :
    (dispatchAll rows draw).map Dispatched.row = rows.map TaskResult.id := by
  apply List.ext_getElem
  · simp [dispatchAll]
  · intro i hi hi'
    simp [dispatchAll]

/-- `create_task`, with no other request in between. -/
def createTask (db : Database) (payload : TaskCreate) (draw : TaskDraw) :
    Database × Except HttpError Task :=
  match TaskType.ofValue? payload.taskType with
  | none => (db, .error ⟨400, "不支持的任务类型: " ++ payload.taskType⟩)
  | some taskType =>
      -- `OperationalError` of the query of the devices; the insertion is rolled back
      if Sqlite.TooManyVariables draw.maxVariables payload.deviceIds then
        (db, .error internalServerError)
      else
        let task := pendingTask draw.id.val taskType draw.now
        let rows := newResults db.devices payload.deviceIds draw
        match commitPending db task rows with
        | none => (db, .error internalServerError)
        | some db =>
            let db := setTaskStatus db task.id .running
            let outcomes := dispatchAll rows draw
            (commitSentCount (commitOutcomes db outcomes) task.id outcomes,
              .ok { task with status := sentCountStatus outcomes })

/-- What a creation does: it adds one task, and results of that task, which all have failed unless
the task is running. -/
structure Created (db db' : Database) (task : Task) : Prop where
  fresh : ∀ t ∈ db.tasks, t.id ≠ task.id
  mem_tasks : ∀ t, t ∈ db'.tasks ↔ t ∈ db.tasks ∨ t = task
  kept : ∀ r ∈ db.results, r ∈ db'.results
  origin : ∀ r ∈ db'.results, r ∈ db.results ∨ (r.taskId = task.id ∧
    (r.status = "failed" ∨ (r.status = "sent" ∧ task.status = .running)))

theorem commitPending_eq_some {db db' : Database} {task : Task} {rows : List TaskResult}
    (h : commitPending db task rows = some db') : db'.devices = db.devices ∧
      db.tasks.insert? task = some db'.tasks ∧ db.results.insertAll? rows = some db'.results := by
  unfold commitPending at h
  split at h
  · rename_i htasks hresults
    cases h
    exact ⟨rfl, htasks, hresults⟩
  · cases h

/-- The two commits of the status together leave the task with the status of the dispatch. -/
theorem mem_tasks_commitSentCount {db db' : Database} {task t : Task} {rows : List TaskResult}
    (hpending : commitPending db task rows = some db') (outcomes : List Dispatched) :
    t ∈ (commitSentCount (commitOutcomes (setTaskStatus db' task.id .running) outcomes) task.id
      outcomes).tasks ↔ t ∈ db.tasks ∨ t = { task with status := sentCountStatus outcomes } := by
  have hinsert := (commitPending_eq_some hpending).2.1
  have hfresh := (Table.insert?_eq_some hinsert).2
  have hset : ∀ status : TaskStatus, t ∈ db'.tasks.updateKey task.id
      (fun t => { t with status := status }) ↔
        t ∈ db.tasks ∨ t = { task with status := status } := by
    intro status
    rw [Table.mem_updateKey]
    apply Iff.intro
    · intro h
      rcases h with ⟨r, hr, rfl⟩
      rcases (Table.mem_insert? hinsert).mp hr with hr | rfl
      · rw [if_neg (hfresh r hr)]
        exact .inl hr
      · rw [if_pos rfl]
        exact .inr rfl
    · intro h
      rcases h with hr | rfl
      · exact ⟨t, (Table.mem_insert? hinsert).mpr (.inl hr), if_neg (hfresh t hr)⟩
      · exact ⟨task, (Table.mem_insert? hinsert).mpr (.inr rfl), if_pos rfl⟩
  unfold commitSentCount sentCountStatus
  by_cases hany : outcomes.any Dispatched.success = true
  · rw [if_pos hany, if_pos hany]
    exact hset .running
  · rw [if_neg hany, if_neg hany, ← hset .failed]
    -- the second update finds the task where the first has left it
    show t ∈ (db'.tasks.updateKey task.id
      (fun t => { t with status := .running })).updateKey task.id
      (fun t => { t with status := .failed }) ↔ _
    rw [Table.updateKey_updateKey]
    intro r
    rfl

/-- A result after the commit of the outcomes is an old one, or a new one with its outcome. -/
theorem mem_results_created {db db' : Database} {task : Task} {rows : List TaskResult}
    {outcomes : List Dispatched} {r : TaskResult} (hpending : commitPending db task rows = some db')
    (htargets : outcomes.map Dispatched.row = rows.map TaskResult.id)
    (hr : r ∈ (commitOutcomes (setTaskStatus db' task.id .running) outcomes).results) :
    r ∈ db.results ∨ ∃ outcome ∈ outcomes, ∃ row ∈ rows, r = dispatch outcome row := by
  have hrows := (commitPending_eq_some hpending).2.2
  have hkeys := Table.insertAll?_keys hrows
  rcases Table.mem_updateEach (htargets ▸ hkeys.1) hr with ⟨hr, hother⟩ |
    ⟨outcome, houtcome, row, hrow, hid, rfl⟩
  · rcases (Table.mem_insertAll? hrows).mp hr with hr | hr
    · exact .inl hr
    · -- every new row is dispatched
      have hmem : r.id ∈ outcomes.map Dispatched.row := htargets ▸ List.mem_map_of_mem hr
      rcases List.mem_map.mp hmem with ⟨outcome, houtcome, heq⟩
      exact absurd heq (hother outcome houtcome)
  · have hmem : outcome.row ∈ rows.map TaskResult.id := htargets ▸ List.mem_map_of_mem houtcome
    rcases List.mem_map.mp hmem with ⟨row', hrow', hid'⟩
    -- the dispatched row is the one that was added under this id
    have hsame : row = row' := by
      refine db'.results.eq_of_key_eq hrow ?_ (hid.trans hid'.symm)
      exact (Table.mem_insertAll? hrows).mpr (.inr hrow')
    exact .inr ⟨outcome, houtcome, row', hrow', by rw [hsame]⟩

@[simp] theorem commitSentCount_results (db : Database) (taskId : String)
    (outcomes : List Dispatched) : (commitSentCount db taskId outcomes).results = db.results := by
  unfold commitSentCount
  split <;> rfl

/-- **One creation** is refused, or adds the task of its answer with its results. -/
theorem createTask_created (db : Database) (payload : TaskCreate) (draw : TaskDraw) :
    ((createTask db payload draw).1 = db ∧ ∃ e, (createTask db payload draw).2 = .error e) ∨
      ∃ task, (createTask db payload draw).2 = .ok task ∧
        (task.status = .running ∨ task.status = .failed) ∧
          Created db (createTask db payload draw).1 task := by
  unfold createTask
  split
  · exact .inl ⟨rfl, _, rfl⟩
  · rename_i taskType _
    dsimp only
    by_cases hlimit : Sqlite.TooManyVariables draw.maxVariables payload.deviceIds
    · rw [if_pos hlimit]
      exact .inl ⟨rfl, _, rfl⟩
    rw [if_neg hlimit]
    split
    · exact .inl ⟨rfl, _, rfl⟩
    · rename_i db' hpending
      have hrows := (commitPending_eq_some hpending).2.2
      have hkeys := Table.insertAll?_keys hrows
      have htargets := dispatchAll_rows (newResults db.devices payload.deviceIds draw) draw
      generalize hout : dispatchAll (newResults db.devices payload.deviceIds draw) draw = outcomes
        at htargets
      refine .inr ⟨_, rfl, ?_, fun t ht => ?_, fun t => mem_tasks_commitSentCount hpending outcomes,
        fun r hr => ?_, fun r hr => ?_⟩
      · unfold sentCountStatus
        dsimp only
        split
        · exact .inl rfl
        · exact .inr rfl
      · exact (Table.insert?_eq_some (commitPending_eq_some hpending).2.1).2 t ht
      · rw [commitSentCount_results]
        refine Table.mem_updateEach_of_not_mem ((Table.mem_insertAll? hrows).mpr (.inl hr)) ?_
        -- an old row is no target: the ids of the new rows are new
        intro outcome houtcome heq
        have hmem : outcome.row ∈ (newResults db.devices payload.deviceIds draw).map
            TaskResult.id := htargets ▸ List.mem_map_of_mem houtcome
        rcases List.mem_map.mp hmem with ⟨row, hrow, hid⟩
        exact hkeys.2 row hrow r hr (heq.symm.trans hid.symm)
      · rw [commitSentCount_results] at hr
        rcases mem_results_created hpending htargets hr with hold |
          ⟨outcome, houtcome, row, hrow, rfl⟩
        · exact .inl hold
        · rw [dispatch_taskId, dispatch_status, (mem_newResults hrow).2.1]
          refine .inr ⟨rfl, ?_⟩
          unfold Dispatched.status sentCountStatus
          by_cases hsuccess : outcome.success = true
          · have hany : outcomes.any Dispatched.success = true :=
              List.any_eq_true.mpr ⟨outcome, houtcome, hsuccess⟩
            rw [if_pos hsuccess, if_pos hany]
            exact .inr ⟨rfl, rfl⟩
          · rw [if_neg hsuccess]
            exact .inl rfl

/-- The results a creation leaves as sent have the moment of their dispatch. -/
theorem createTask_started {db : Database} {payload : TaskCreate} {draw : TaskDraw} {r : TaskResult}
    (hr : r ∈ (createTask db payload draw).1.results) (hsent : r.status = "sent") :
    r ∈ db.results ∨ r.startedAt.isSome = true := by
  unfold createTask at hr
  split at hr
  · exact .inl hr
  · dsimp only at hr
    by_cases hlimit : Sqlite.TooManyVariables draw.maxVariables payload.deviceIds
    · rw [if_pos hlimit] at hr
      exact .inl hr
    rw [if_neg hlimit] at hr
    split at hr
    · exact .inl hr
    · rename_i hpending
      rw [commitSentCount_results] at hr
      rcases mem_results_created hpending (dispatchAll_rows _ _) hr with hold |
        ⟨outcome, _, row, _, rfl⟩
      · exact .inl hold
      · rw [dispatch_status] at hsent
        exact .inr (dispatch_startedAt hsent)

/-! ## Cancelling -/

/-- The results `cancel_task` rewrites. -/
def isOutstanding (r : TaskResult) : Bool := r.status = "pending" || r.status = "sent"

def cancelResult (r : TaskResult) (now : DateTime) : TaskResult :=
  { r with status := "cancelled", finishedAt := some now }

@[simp] theorem cancelResult_id (r : TaskResult) (now : DateTime) :
    (cancelResult r now).id = r.id := rfl

def cancelTask (db : Database) (taskId : String) (now : DateTime) :
    Database × Except HttpError Unit :=
  match db.tasks.find? taskId with
  | none => (db, .error ⟨404, "Task not found"⟩)
  | some task =>
      -- the results are cancelled in the same commit
      if task.status = .pending ∨ task.status = .running then
        ({ setTaskStatus db taskId .cancelled with
            results := db.results.update (fun r => r.taskId = taskId && isOutstanding r)
              (fun r => cancelResult r now) (fun r => cancelResult_id r now) }, .ok ())
      else (db, .error ⟨400, "Task cannot be cancelled"⟩)

/-! ## The detail view -/

def timedOut (now : DateTime) (r : TaskResult) : Bool :=
  isOutstanding r &&
    match r.startedAt with
    -- a pending row has not started and never times out
    | none => false
    | some started => started < now - seconds upgradeTimeoutSeconds

def timeoutResult (r : TaskResult) (now : DateTime) : TaskResult :=
  { r with
    status := "timeout"
    output := some "upgrade timed out (agent did not report back)"
    finishedAt := some now }

@[simp] theorem timeoutResult_id (r : TaskResult) (now : DateTime) :
    (timeoutResult r now).id = r.id := rfl

def timeoutFallback (db : Database) (task : Task) (now : DateTime) : Database :=
  if task.taskType = .upgrade ∧ task.status = .running ∧
      ∃ r ∈ db.resultsOf task.id, timedOut now r = true then
    { setTaskStatus db task.id .failed with
      results := db.results.update (fun r => r.taskId = task.id && timedOut now r)
        (fun r => timeoutResult r now) (fun r => timeoutResult_id r now) }
  else db

/-- `ip_map.get(r.device_id) or r.device_id`. -/
def deviceIp (devices : Devices) (r : TaskResult) : String :=
  match devices.find? r.deviceId with
  | none => r.deviceId
  | some device =>
      match device.ip with
      | none => r.deviceId
      -- an empty address is falsy too
      | some ip => if ip ≠ "" then ip else r.deviceId

structure TaskDetail where
  task : Task
  results : List (TaskResult × String)
  deriving DecidableEq, Repr

/-- `get_task`.  The query of the addresses binds the device ids of the results, which `create_task`
has bound in one statement before. -/
def getTask (db : Database) (taskId : String) (now : DateTime) :
    Database × Except HttpError TaskDetail :=
  match db.tasks.find? taskId with
  | none => (db, .error ⟨404, "Task not found"⟩)
  | some task =>
      -- the request commits the fallback before it answers
      let db := timeoutFallback db task now
      (db, .ok
        { task := (db.tasks.find? taskId).getD task
          results := (db.resultsOf taskId).map (fun r => (r, deviceIp db.devices r)) })

end LanAgent
