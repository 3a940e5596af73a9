import LanAgent.Library.Runs
import LanAgent.Server

/-!
# The ledger of tasks

What a task is for is settled when it is created: its id, type and time, and one result for each
listed device that exists.  Abstractly the server keeps a ledger to which each accepted creation
appends an entry.  Every run of the server shows its ledger (`history_shown`), whatever happens to
the devices and to the statuses, and the page of a task its entry (`creation_shown`).
-/

namespace LanAgent.Ledger

open Library Library.Runs

/-! ## The ledger -/

structure Target where
  resultId : String
  deviceId : String
  deriving DecidableEq, Repr

structure Entry where
  taskId : String
  taskType : TaskType
  createdAt : DateTime
  targets : List Target
  deriving DecidableEq, Repr

/-- One result for each listed device that exists, repetitions included. -/
def targets (devices : Devices) (payload : TaskCreate) (draw : TaskDraw) : List Target :=
  (validIds devices payload.deviceIds).mapIdx fun i deviceId => ⟨(draw.resultId i).val, deviceId⟩

/-- What a request adds to the ledger. -/
def entered (db : Database) : Request → List Entry
  | .createTask payload draw =>
      match (createTask db payload draw).2 with
      | .ok task => [⟨task.id, task.taskType, task.createdAt, targets db.devices payload draw⟩]
      | .error _ => []
  | _ => []

/-- The entries of a run. -/
def history (settings : Settings) : Database → List Request → List Entry
  | _, [] => []
  | db, request :: requests =>
      entered db request ++ history settings (handle settings db request) requests

/-! ## The rows of a ledger -/

/-- What no request changes of a task. -/
def taskIdentity (t : Task) : String × TaskType × DateTime := (t.id, t.taskType, t.createdAt)

def Entry.identity (e : Entry) : String × TaskType × DateTime := (e.taskId, e.taskType, e.createdAt)

/-- What no request changes of a result. -/
def resultIdentity (r : TaskResult) : String × Target := (r.taskId, ⟨r.id, r.deviceId⟩)

def Entry.rows (e : Entry) : List (String × Target) :=
  e.targets.map fun target => (e.taskId, target)

/-- The rows of both tables are those of the ledger, in its order, whatever their statuses. -/
structure Shows (db : Database) (ledger : List Entry) : Prop where
  tasks : db.tasks.rows.map taskIdentity = ledger.map Entry.identity
  results : db.results.rows.map resultIdentity = ledger.flatMap Entry.rows

theorem shows_empty : Shows .empty [] := ⟨rfl, rfl⟩

theorem withStatus_identity (status : TaskStatus) (t : Task) :
    taskIdentity { t with status := status } = taskIdentity t := rfl

theorem setTaskStatus_identity (db : Database) (taskId : String) (status : TaskStatus) :
    (setTaskStatus db taskId status).tasks.rows.map taskIdentity =
      db.tasks.rows.map taskIdentity :=
  Table.map_rows_update (withStatus_identity status) fun _ => rfl

theorem cancelResult_identity (now : DateTime) (r : TaskResult) :
    resultIdentity (cancelResult r now) = resultIdentity r := rfl

theorem timeoutResult_identity (now : DateTime) (r : TaskResult) :
    resultIdentity (timeoutResult r now) = resultIdentity r := rfl

theorem flushReply_identity (reply : Reply) (now : DateTime) (r : TaskResult) :
    resultIdentity (flushReply reply now r) = resultIdentity r := rfl

/-! ## Creations -/

theorem newResults_identity (devices : Devices) (payload : TaskCreate) (draw : TaskDraw) :
    (newResults devices payload.deviceIds draw).map resultIdentity =
      (targets devices payload draw).map fun target => (draw.id.val, target) := by
  unfold newResults targets
  rw [List.mapIdx_eq_zipIdx_map, List.mapIdx_eq_zipIdx_map, List.map_map, List.map_map]
  rfl

theorem dispatch_identity (outcome : Dispatched) (r : TaskResult) :
    resultIdentity (dispatch outcome r) = resultIdentity r := by
  unfold dispatch
  split <;> rfl

theorem commitSentCount_identity (db : Database) (taskId : String) (outcomes : List Dispatched) :
    (commitSentCount db taskId outcomes).tasks.rows.map taskIdentity =
      db.tasks.rows.map taskIdentity := by
  unfold commitSentCount
  split
  · rfl
  · exact setTaskStatus_identity db taskId .failed

theorem createTask_shows {db : Database} {ledger : List Entry} (h : Shows db ledger)
    (payload : TaskCreate) (draw : TaskDraw) :
    Shows (createTask db payload draw).1 (ledger ++ entered db (.createTask payload draw)) := by
  unfold entered createTask
  dsimp only
  cases htype : TaskType.ofValue? payload.taskType with
  | none =>
      dsimp only
      rw [List.append_nil]
      exact h
  | some taskType =>
      dsimp only
      by_cases hlimit : Sqlite.TooManyVariables draw.maxVariables payload.deviceIds
      · rw [if_pos hlimit]
        dsimp only
        rw [List.append_nil]
        exact h
      rw [if_neg hlimit]
      cases hpending : commitPending db (pendingTask draw.id.val taskType draw.now)
          (newResults db.devices payload.deviceIds draw) with
      | none =>
          dsimp only
          rw [List.append_nil]
          exact h
      | some db' =>
          have hcommit := commitPending_eq_some hpending
          have htasks := (Table.insert?_eq_some hcommit.2.1).1
          have hresults := Table.rows_insertAll? hcommit.2.2
          dsimp only
          refine ⟨?_, ?_⟩
          · rw [commitSentCount_identity]
            show (setTaskStatus db' _ _).tasks.rows.map taskIdentity = _
            rw [setTaskStatus_identity, htasks, List.map_append, List.map_append, h.tasks]
            rfl
          · rw [commitSentCount_results]
            show (db'.results.updateEach _ _ _ _).rows.map resultIdentity = _
            rw [Table.map_rows_updateEach dispatch_identity, hresults, List.map_append, h.results,
              newResults_identity, List.flatMap_append, List.flatMap_singleton]
            rfl

/-! ## The other requests -/

theorem cancelTask_shows {db : Database} {ledger : List Entry} (h : Shows db ledger)
    (taskId : String) (now : DateTime) : Shows (cancelTask db taskId now).1 ledger := by
  unfold cancelTask
  split
  · exact h
  · split
    · refine ⟨(setTaskStatus_identity db taskId .cancelled).trans h.tasks, ?_⟩
      exact (Table.map_rows_update (cancelResult_identity now)
        fun r => cancelResult_id r now).trans h.results
    · exact h

theorem timeoutFallback_shows {db : Database} {ledger : List Entry} (h : Shows db ledger)
    (task : Task) (now : DateTime) : Shows (timeoutFallback db task now) ledger := by
  unfold timeoutFallback
  split
  · refine ⟨(setTaskStatus_identity db task.id .failed).trans h.tasks, ?_⟩
    exact (Table.map_rows_update (timeoutResult_identity now)
      fun r => timeoutResult_id r now).trans h.results
  · exact h

theorem getTask_shows {db : Database} {ledger : List Entry} (h : Shows db ledger)
    (taskId : String) (now : DateTime) : Shows (getTask db taskId now).1 ledger := by
  unfold getTask
  split
  · exact h
  · exact timeoutFallback_shows h _ now

theorem commitReply_shows {db : Database} {ledger : List Entry} (h : Shows db ledger)
    (reply : Reply) (now : DateTime) : Shows (commitReply db reply now) ledger where
  tasks := h.tasks
  results :=
    (Table.map_rows_update (flushReply_identity reply now) (flushReply_id reply now)).trans
      h.results

theorem syncParentTask_shows {db : Database} {ledger : List Entry} (h : Shows db ledger)
    (taskId : String) : Shows (syncParentTask db taskId) ledger := by
  unfold syncParentTask
  split
  · exact h
  · exact ⟨(setTaskStatus_identity db taskId _).trans h.tasks, h.results⟩

theorem handleFrame_shows {db : Database} {ledger : List Entry} (h : Shows db ledger)
    (rt : Runtime) (deviceId data : String) (now : DateTime) (broadcastOk : Bool) :
    Shows (handleFrame rt db deviceId data now broadcastOk).1 ledger := by
  have hcase := handleFrame_outcome rt db deviceId data now broadcastOk
  generalize handleFrame rt db deviceId data now broadcastOk = result at hcase
  cases hcase with
  | rejected => exact h
  | unnamed => exact h
  | unsynced reply => exact commitReply_shows h reply now
  | stored reply hread devices hsysinfo =>
      have hstored : Shows { commitReply db reply now with devices := devices } ledger :=
        ⟨(commitReply_shows h reply now).tasks, (commitReply_shows h reply now).results⟩
      exact syncParentTask_shows hstored reply.row.taskId

/-! ## Runs -/

/-- **One request** appends what it enters. -/
theorem handle_shows {db : Database} {ledger : List Entry} (h : Shows db ledger)
    (settings : Settings) (request : Request) :
    Shows (handle settings db request) (ledger ++ entered db request) := by
  cases request with
  | createTask payload draw => exact createTask_shows h payload draw
  | cancelTask taskId now =>
      show Shows _ (ledger ++ [])
      rw [List.append_nil]
      exact cancelTask_shows h taskId now
  | getTask taskId now =>
      show Shows _ (ledger ++ [])
      rw [List.append_nil]
      exact getTask_shows h taskId now
  | frame deviceId data now broadcastOk =>
      show Shows _ (ledger ++ [])
      rw [List.append_nil]
      exact handleFrame_shows h settings.runtime deviceId data now broadcastOk
  -- the other requests write no task and no result
  | _ =>
      show Shows _ (ledger ++ [])
      rw [List.append_nil]
      exact ⟨h.tasks, h.results⟩

theorem run_shows {settings : Settings} {requests : List Request} {db db' : Database}
    {ledger : List Entry} (h : Shows db ledger)
    (hrun : exec (serve settings) db requests = some db') :
    Shows db' (ledger ++ history settings db requests) := by
  induction requests generalizing db ledger with
  | nil =>
      obtain rfl := Option.some.inj hrun
      rw [history, List.append_nil]
      exact h
  | cons request requests ih =>
      rw [history, ← List.append_assoc]
      exact ih (handle_shows h settings request) hrun

/-- **The ledger**: in every run of a server the tasks and results are those of the accepted
creations, in their order, one result for each listed device that existed then. -/
theorem history_shown {settings : Settings} {requests : List Request} {db : Database}
    (h : exec (serve settings) .empty requests = some db) :
    Shows db (history settings .empty requests) :=
  run_shows shows_empty h

theorem sent_shown : ∃ db, exec (serve exampleSettings) .empty oneSent = some db ∧
    Shows db [⟨sentDraw.id.val, .shutdown, 1,
      [⟨(sentDraw.resultId 0).val, issuedDraw.id.val⟩]⟩] := by
  have hhistory : history exampleSettings .empty oneSent = [⟨sentDraw.id.val, .shutdown, 1,
      [⟨(sentDraw.resultId 0).val, issuedDraw.id.val⟩]⟩] := by decide +kernel
  have hrun : exec (serve exampleSettings) .empty oneSent = some _ := rfl
  exact ⟨_, hrun, hhistory ▸ history_shown hrun⟩

/-! ## The page of a task -/

section Entries

variable {db : Database} {before after : List Entry} {e : Entry}
  (h : Shows db (before ++ e :: after))

include h

/-- The ids of the tasks tell the entries apart. -/
theorem Shows.ids_nodup : ((before ++ e :: after).map Entry.taskId).Nodup := by
  have hids : (before ++ e :: after).map Entry.taskId = db.tasks.rows.map Task.id := by
    have hfirst := congrArg (List.map Prod.fst) h.tasks
    rw [List.map_map, List.map_map] at hfirst
    exact hfirst.symm
  rw [hids]
  exact db.tasks.nodup

theorem Shows.find? : ∃ t, db.tasks.find? e.taskId = some t ∧ taskIdentity t = e.identity := by
  have hmem : e.identity ∈ db.tasks.rows.map taskIdentity := by
    rw [h.tasks]
    exact List.mem_map_of_mem (List.mem_append_right before List.mem_cons_self)
  obtain ⟨t, ht, heq⟩ := List.mem_map.mp hmem
  have hid : t.id = e.taskId := congrArg Prod.fst heq
  exact ⟨t, hid ▸ Table.find?_key ht, heq⟩

theorem Shows.resultsOf : (db.resultsOf e.taskId).map resultIdentity = e.rows := by
  have hapart := h.ids_nodup
  rw [List.map_append, List.map_cons, List.nodup_middle, List.nodup_cons, ← List.map_append]
    at hapart
  -- the rows of the other entries are those of other tasks
  have hother : ∀ e' ∈ before ++ after,
      e'.rows.filter (fun row => decide (row.1 = e.taskId)) = [] := by
    intro e' he'
    apply List.filter_eq_nil_iff.mpr
    intro row hrow hsame
    obtain ⟨target, _, rfl⟩ := List.mem_map.mp hrow
    have hid : e'.taskId = e.taskId := by simpa using hsame
    exact hapart.1 (hid ▸ List.mem_map_of_mem he')
  have hown : e.rows.filter (fun row => decide (row.1 = e.taskId)) = e.rows := by
    apply List.filter_eq_self.mpr
    intro row hrow
    obtain ⟨target, _, rfl⟩ := List.mem_map.mp hrow
    exact decide_eq_true rfl
  have hfilter : (db.resultsOf e.taskId).map resultIdentity =
      (db.results.rows.map resultIdentity).filter fun row => decide (row.1 = e.taskId) := by
    rw [List.filter_map]
    rfl
  rw [hfilter, h.results, List.filter_flatMap, List.flatMap_append, List.flatMap_cons, hown,
    List.flatMap_eq_nil_iff.mpr fun e' he' => hother e' (List.mem_append_left after he'),
    List.flatMap_eq_nil_iff.mpr fun e' he' => hother e' (List.mem_append_right before he'),
    List.nil_append, List.append_nil]

/-- The page of a task, also when it times the task out, is that of its entry. -/
theorem Shows.getTask (now : DateTime) : ∃ detail, (LanAgent.getTask db e.taskId now).2 =
    .ok detail ∧ taskIdentity detail.task = e.identity ∧
      detail.results.map (fun row => (⟨row.1.id, row.1.deviceId⟩ : Target)) = e.targets := by
  obtain ⟨t, hfind, _⟩ := h.find?
  have hlate := timeoutFallback_shows h t now
  obtain ⟨t', hfind', hidentity⟩ := hlate.find?
  unfold LanAgent.getTask
  rw [hfind]
  refine ⟨_, rfl, ?_, ?_⟩
  · dsimp only
    rw [hfind']
    exact hidentity
  · dsimp only
    have htargets := congrArg (List.map Prod.snd) hlate.resultsOf
    rw [Entry.rows, List.map_map, List.map_map] at htargets
    rw [List.map_map]
    exact htargets.trans (List.map_id _)

end Entries

/-- **The page of a task**: at any time after an accepted creation it shows the task of the answer,
with one result for each device that was listed and existed then, in the order of the list. -/
theorem creation_shown {settings : Settings} {before after : List Request} {payload : TaskCreate}
    {draw : TaskDraw} {db db' : Database} {task : Task}
    (hbefore : exec (serve settings) .empty before = some db)
    (hcreated : (createTask db payload draw).2 = .ok task)
    (hafter : exec (serve settings) db (.createTask payload draw :: after) = some db')
    (now : DateTime) : ∃ detail, (getTask db' task.id now).2 = .ok detail ∧
      taskIdentity detail.task = taskIdentity task ∧
        detail.results.map (fun row => (⟨row.1.id, row.1.deviceId⟩ : Target)) =
          targets db.devices payload draw := by
  have hshows := run_shows (history_shown hbefore) hafter
  rw [history, entered, hcreated] at hshows
  exact hshows.getTask now

/-- The page of a shutdown when the agent has answered and its device is deleted. -/
theorem shutdown_shown : ∃ db detail, exec (serve exampleSettings) .empty (oneSent ++
    [.frame issuedDraw.id.val answer 3 true, .deleteDevice issuedDraw.id.val true true 4]) =
      some db ∧ (getTask db sentDraw.id.val 5).2 = .ok detail ∧
        taskIdentity detail.task = (sentDraw.id.val, .shutdown, 1) ∧
          detail.results.map (fun row => (⟨row.1.id, row.1.deviceId⟩ : Target)) =
            targets (createDevice .empty {} issuedDraw).1 ⟨"shutdown", [issuedDraw.id.val]⟩
              sentDraw := by
  have hbefore : exec (serve exampleSettings) .empty [.createDevice {} issuedDraw] =
      some (handle exampleSettings .empty (.createDevice {} issuedDraw)) := rfl
  have hcreated : (createTask (handle exampleSettings .empty (.createDevice {} issuedDraw))
      ⟨"shutdown", [issuedDraw.id.val]⟩ sentDraw).2 =
        .ok ⟨sentDraw.id.val, .shutdown, .running, 1⟩ := by decide +kernel
  have hafter : exec (serve exampleSettings)
      (handle exampleSettings .empty (.createDevice {} issuedDraw))
      [.createTask ⟨"shutdown", [issuedDraw.id.val]⟩ sentDraw,
        .frame issuedDraw.id.val answer 3 true, .deleteDevice issuedDraw.id.val true true 4] =
          some _ := rfl
  obtain ⟨detail, hdetail⟩ := creation_shown hbefore hcreated hafter 5
  exact ⟨_, detail, rfl, hdetail⟩

end LanAgent.Ledger
