import LanAgent.CommandFrames
import LanAgent.DispatchAccounts
import LanAgent.Library.Runs
import LanAgent.Terminal

/-!
# The protocol — tasks, commands and answers between the server and its agents

A run is any interleaving of requests to the server, of commands that an agent takes from its
socket and answers, of answers the server takes from theirs, and of losses.  A message is the text
on the wire: both ends see nothing else of it.

The runs are those of whole requests: a creation is one event, so no answer overtakes the commits of
its own task's creation, and no row is seen in the status `pending` that it has between them.  An
answer that does overtake them is lost, and its task does not end well: those interleavings are the
subject of `Dispatch`, where by `exec_creation` such a creation is the run without replies.

* `executed_at_most_once`: no command is executed twice, and each by the agent of its device;
* `reports_are_own`: what a result holds was stored for a lost contact, or its own agent said it;
* `exchange_ends_well`: once nothing is on its way, every task whose messages arrived has ended as
  its results say, and these are what the agents reported.
-/

namespace LanAgent.Protocol

open Library Library.Runs Sqlite Python Go Commands

/-! ## Messages and states -/

/-- A command on its way to the agent of a device. -/
structure Sent where
  deviceId : String
  row : String
  taskType : TaskType
  params : List (Str × Json)

/-- A result on its way back, and the command it answers. -/
structure Answered where
  deviceId : String
  command : Command
  result : CommandResult

def Answered.row (answered : Answered) : String := answered.command.id

structure State where
  db : Database
  agents : String → Process
  commands : List Sent
  replies : List Answered
  /-- Every answer that was given, the last one first. -/
  given : List Answered
  /-- The rows whose command or answer did not arrive. -/
  lost : List String

/-- A new installation, and the processes of its agents. -/
def start (agents : String → Process) : State where
  db := .empty
  agents := agents
  commands := []
  replies := []
  given := []
  lost := []

/-! ## Events -/

inductive Event where
  /-- A request that sends no command and is no frame. -/
  | request (request : Request)
  | create (payload : TaskCreate) (params : List (Str × Json)) (draw : TaskDraw)
  /-- The agent of the device takes its next command. -/
  | execute (deviceId : String) (machine : PlainMachine)
  /-- The server takes the next answer from the socket of the device. -/
  | deliver (deviceId : String) (now : DateTime) (broadcastOk : Bool)
  | loseCommands (deviceId : String)
  | loseReplies (deviceId : String)
  /-- The process of the agent is started anew, with whatever it finds. -/
  | restart (deviceId : String) (p : Process)

/-- The two requests that are events of their own. -/
def isExchange : Request → Bool
  | .createTask _ _ => true
  | .frame _ _ _ _ => true
  | _ => false

/-- What the dispatch of a creation puts on the wire. -/
def dispatched (db : Database) (payload : TaskCreate) (taskType : TaskType)
    (params : List (Str × Json)) (draw : TaskDraw) : List Sent :=
  (DispatchAccounts.transmitted db payload draw).map fun tr =>
    ⟨tr.deviceId, tr.id, taskType, params⟩

section Step

variable (settings : Settings) (shortest : Python.Float → FloatLiteral)

def execute (s : State) (deviceId : String) (machine : PlainMachine) : Option State :=
  match s.commands.find? (fun m => m.deviceId = deviceId) with
  | none => none
  | some sent =>
      let s := { s with commands := s.commands.eraseP (fun m => m.deviceId = deviceId) }
      match readCommand (commandText shortest sent.row sent.taskType sent.params) with
      -- the message is logged and left
      | none => some { s with lost := sent.row :: s.lost }
      | some cmd =>
          let (p, _, result) := handleCommand machine.env (s.agents deviceId) cmd
          let answered : Answered := ⟨deviceId, cmd, result⟩
          some { s with
            agents := Function.update s.agents deviceId p
            replies := s.replies ++ [answered]
            given := answered :: s.given }

def deliver (s : State) (deviceId : String) (now : DateTime) (broadcastOk : Bool) :
    Option State :=
  match s.replies.find? (fun a => a.deviceId = deviceId) with
  | none => none
  | some answered =>
      some { s with
        db := (handleFrame settings.runtime s.db deviceId (resultText answered.result) now
          broadcastOk).1
        replies := s.replies.eraseP (fun a => a.deviceId = deviceId) }

def step (s : State) : Event → Option State
  | .request request =>
      if isExchange request then none
      else some { s with db := handle settings s.db request }
  | .create payload params draw =>
      match createTask s.db payload draw with
      | (db, .error _) => some { s with db := db }
      | (db, .ok task) =>
          some { s with
            db := db
            commands := s.commands ++ dispatched s.db payload task.taskType params draw }
  | .execute deviceId machine => execute shortest s deviceId machine
  | .deliver deviceId now broadcastOk => deliver settings s deviceId now broadcastOk
  | .loseCommands deviceId =>
      some { s with
        commands := s.commands.filter (fun m => m.deviceId ≠ deviceId)
        lost := (s.commands.filter (fun m => m.deviceId = deviceId)).map Sent.row ++ s.lost }
  | .loseReplies deviceId =>
      some { s with
        replies := s.replies.filter (fun a => a.deviceId ≠ deviceId)
        lost := (s.replies.filter (fun a => a.deviceId = deviceId)).map Answered.row ++ s.lost }
  | .restart deviceId p => some { s with agents := Function.update s.agents deviceId p }

end Step

/-! ## What holds of a state -/

/-- The status `_sync_parent_task` gives a task when all its results have ended; a task without
results has failed. -/
def verdictOf (db : Database) (taskId : String) : TaskStatus :=
  (syncVerdict ((db.resultsOf taskId).map TaskResult.status)).getD .failed

/-- No agent has answered for the result. -/
def Unanswered (r : TaskResult) : Prop := r.status ∈ ["sent", "cancelled", "timeout"]

def Offline (r : TaskResult) : Prop := r.status = "failed" ∧ r.output = some "Agent offline"

/-- The result holds what the agent of its device has answered. -/
def Reported (given : List Answered) (r : TaskResult) : Prop :=
  ∃ a ∈ given, a.row = r.id ∧ a.deviceId = r.deviceId ∧ r.status = a.result.status ∧
    r.output = some (storedOutput a.result.output)

/-- The command of a row, or the answer to it, is on its way. -/
def OnItsWay (s : State) (row : String) : Prop :=
  row ∈ s.commands.map Sent.row ∨ row ∈ s.replies.map Answered.row

/-- Nothing more is heard of a row, and nothing was lost. -/
def Settled (s : State) (row : String) : Prop := ¬OnItsWay s row ∧ row ∉ s.lost

/-- The row is one of this device, and of a task with this action. -/
def Addressed (db : Database) (deviceId row action : String) : Prop :=
  ∃ r ∈ db.results, r.id = row ∧ r.deviceId = deviceId ∧
    ∃ t ∈ db.tasks, t.id = r.taskId ∧ t.taskType.value = action

structure Inv (s : State) : Prop where
  parents : Terminal.Parents s.db
  named : ∀ r ∈ s.db.results, r.id ≠ ""
  commands : ∀ m ∈ s.commands, Addressed s.db m.deviceId m.row m.taskType.value
  given : ∀ a ∈ s.given, Addressed s.db a.deviceId a.row a.command.action ∧
    ∃ (machine : PlainMachine) (p : Process), a.result = (handleCommand machine.env p a.command).2.2
  replies : ∀ a ∈ s.replies, a ∈ s.given
  once : (s.commands.map Sent.row ++ s.given.map Answered.row).Nodup
  held : ∀ r ∈ s.db.results, Unanswered r ∨ Offline r ∨ Reported s.given r
  settled : ∀ r ∈ s.db.results, Settled s r.id → Offline r ∨ Reported s.given r
  verdict : ∀ t ∈ s.db.tasks, (∀ r ∈ s.db.resultsOf t.id, Settled s r.id) →
    t.status = verdictOf s.db t.id

theorem inv_start (agents : String → Process) : Inv (start agents) where
  parents := Terminal.parents_empty
  named r hr := absurd hr (Table.not_mem_empty r)
  commands _ hm := absurd hm List.not_mem_nil
  given _ ha := absurd ha List.not_mem_nil
  replies _ ha := absurd ha List.not_mem_nil
  once := List.nodup_nil
  held r hr := absurd hr (Table.not_mem_empty r)
  settled r hr := absurd hr (Table.not_mem_empty r)
  verdict t ht := absurd ht (Table.not_mem_empty t)

/-! ## Verdicts -/

theorem syncVerdict_congr {statuses statuses' : List String}
    (h : ∀ status, status ∈ statuses ↔ status ∈ statuses') :
    syncVerdict statuses = syncVerdict statuses' := by
  have hnil : statuses = [] ↔ statuses' = [] := by
    rw [List.eq_nil_iff_forall_not_mem, List.eq_nil_iff_forall_not_mem]
    exact forall_congr' fun status => not_congr (h status)
  simp only [syncVerdict, hnil, h]

/-- The verdict depends on no more than which statuses the results have. -/
theorem verdictOf_congr {db db' : Database} {taskId : String}
    (h : ∀ status, (∃ r ∈ db.results, r.taskId = taskId ∧ r.status = status) ↔
      ∃ r ∈ db'.results, r.taskId = taskId ∧ r.status = status) :
    verdictOf db taskId = verdictOf db' taskId := by
  have hmem : ∀ (db : Database) (status : String),
      status ∈ (db.resultsOf taskId).map TaskResult.status ↔
        ∃ r ∈ db.results, r.taskId = taskId ∧ r.status = status := by
    intro db status
    simp only [List.mem_map, Database.mem_resultsOf, and_assoc]
  have hverdict := syncVerdict_congr fun status =>
    (hmem db status).trans ((h status).trans (hmem db' status).symm)
  rw [verdictOf, verdictOf, hverdict]

theorem verdictOf_of_rows {db db' : Database} {taskId : String}
    (h : ∀ r, r.taskId = taskId → (r ∈ db'.results ↔ r ∈ db.results)) :
    verdictOf db' taskId = verdictOf db taskId := by
  apply verdictOf_congr
  intro status
  refine exists_congr fun r => ?_
  apply Iff.intro
  · exact fun ⟨hr, hparent, hstatus⟩ => ⟨(h r hparent).mp hr, hparent, hstatus⟩
  · exact fun ⟨hr, hparent, hstatus⟩ => ⟨(h r hparent).mpr hr, hparent, hstatus⟩

theorem verdictOf_isFinal (db : Database) (taskId : String) :
    (verdictOf db taskId).isFinal = true := by
  unfold verdictOf
  cases hverdict : syncVerdict ((db.resultsOf taskId).map TaskResult.status) with
  | none => rfl
  | some verdict => exact (syncVerdict_eq_some hverdict).1

/-! ## Requests -/

/-- What a request does to the tasks and the results: it may end a task that is open, and those of
its results that are outstanding, and leaves the rest. -/
structure Outside (db db' : Database) : Prop where
  results : ∀ r' ∈ db'.results, ∃ r ∈ db.results, r'.id = r.id ∧ r'.deviceId = r.deviceId ∧
    r'.taskId = r.taskId ∧ (r' = r ∨ (isOutstanding r = true ∧ Unanswered r'))
  results_kept : ∀ r ∈ db.results, ∃ r' ∈ db'.results, r'.id = r.id ∧ r'.deviceId = r.deviceId ∧
    r'.taskId = r.taskId
  tasks : ∀ t' ∈ db'.tasks, ∃ t ∈ db.tasks, t'.id = t.id ∧ (t.status.isFinal = false ∨
    (t'.status = t.status ∧ ∀ r, r.taskId = t.id → (r ∈ db'.results ↔ r ∈ db.results)))
  tasks_kept : ∀ t ∈ db.tasks, ∃ t' ∈ db'.tasks, t'.id = t.id ∧ t'.taskType = t.taskType

theorem outside_of_eq {db db' : Database} (htasks : db'.tasks = db.tasks)
    (hresults : db'.results = db.results) : Outside db db' where
  results r hr := ⟨r, hresults ▸ hr, rfl, rfl, rfl, .inl rfl⟩
  results_kept r hr := ⟨r, hresults ▸ hr, rfl, rfl, rfl⟩
  tasks t ht := ⟨t, htasks ▸ ht, rfl, .inr ⟨rfl, fun r _ => by rw [hresults]⟩⟩
  tasks_kept t ht := ⟨t, htasks ▸ ht, rfl, rfl⟩

theorem outside_of_ends {db db' : Database} {task : Task} {ending : TaskResult → Bool}
    {change : TaskResult → TaskResult} (h : Terminal.Ends db db' task.id ending change)
    (htask : task ∈ db.tasks) (hopen : task.status.isFinal = false)
    (hending : ∀ r, ending r = true → isOutstanding r = true)
    (hchange : ∀ r, (change r).id = r.id ∧ (change r).deviceId = r.deviceId ∧
      Unanswered (change r)) : Outside db db' := by
  obtain ⟨status, -, htasks⟩ := h.mem_tasks
  refine ⟨fun r' hr' => ?_, fun r hr => ?_, fun t' ht' => ?_, fun t ht => ?_⟩
  · obtain ⟨r, hr, heq⟩ := (h.mem_results r').mp hr'
    refine ⟨r, hr, ?_⟩
    rw [← heq]
    split
    · rename_i hselected
      rw [Bool.and_eq_true] at hselected
      obtain ⟨hid, hdevice, hstatus⟩ := hchange r
      exact ⟨hid, hdevice, h.taskId_change r, .inr ⟨hending r hselected.2, hstatus⟩⟩
    · exact ⟨rfl, rfl, rfl, .inl rfl⟩
  · refine ⟨_, (h.mem_results _).mpr ⟨r, hr, rfl⟩, ?_⟩
    split
    · exact ⟨(hchange r).1, (hchange r).2.1, h.taskId_change r⟩
    · exact ⟨rfl, rfl, rfl⟩
  · obtain ⟨t, ht, rfl⟩ := (htasks t').mp ht'
    by_cases hid : t.id = task.id
    · rw [if_pos hid]
      rw [db.tasks.eq_of_key_eq ht htask hid]
      exact ⟨task, htask, rfl, .inl hopen⟩
    · rw [if_neg hid]
      refine ⟨t, ht, rfl, .inr ⟨rfl, fun r hparent => ?_⟩⟩
      have hother : r.taskId ≠ task.id := fun heq => hid (hparent.symm.trans heq)
      apply Iff.intro
      · intro hr
        obtain ⟨r₀, hr₀, heq⟩ := (h.mem_results r).mp hr
        have hother₀ : r₀.taskId ≠ task.id := h.taskId_eq heq ▸ hother
        rw [if_neg (by simp [hother₀])] at heq
        exact heq ▸ hr₀
      · exact fun hr => h.other hr hother
  · refine ⟨_, (htasks _).mpr ⟨t, ht, rfl⟩, ?_⟩
    split <;> exact ⟨rfl, rfl⟩

theorem outside_handle (settings : Settings) (db : Database) {request : Request}
    (h : isExchange request = false) : Outside db (handle settings db request) := by
  cases request with
  | createTask payload draw => cases h
  | frame deviceId data now broadcastOk => cases h
  | cancelTask taskId now =>
      show Outside db (cancelTask db taskId now).1
      by_cases hopen : ∃ t, db.tasks.find? taskId = some t ∧ t.status.isFinal = false
      · obtain ⟨task, htask, hopen⟩ := hopen
        have hid : task.id = taskId := Table.key_of_find? htask
        subst hid
        have hends : Terminal.Ends db (cancelTask db task.id now).1 task.id isOutstanding
            (fun r => cancelResult r now) := Terminal.cancelTask_ends htask hopen
        refine outside_of_ends hends (Table.mem_of_find? htask) hopen (fun _ hr => hr)
          fun r => ⟨rfl, rfl, ?_⟩
        show "cancelled" ∈ _
        decide
      · push Not at hopen
        rw [Terminal.cancelTask_of_final fun t ht => by simpa using hopen t ht]
        exact outside_of_eq rfl rfl
  | getTask taskId now =>
      show Outside db (getTask db taskId now).1
      by_cases hlate : ∃ t, db.tasks.find? taskId = some t ∧ (t.taskType = .upgrade ∧
          t.status = .running ∧ ∃ r ∈ db.resultsOf t.id, timedOut now r = true)
      · obtain ⟨task, htask, hlate⟩ := hlate
        have hopen : task.status.isFinal = false := by
          rw [hlate.2.1]
          rfl
        have hends := Terminal.getTask_ends htask hlate
        have hid : task.id = taskId := Table.key_of_find? htask
        subst hid
        refine outside_of_ends hends (Table.mem_of_find? htask) hopen (fun r hr => ?_)
          fun r => ⟨rfl, rfl, ?_⟩
        · rw [timedOut, Bool.and_eq_true] at hr
          exact hr.1
        · show "timeout" ∈ _
          decide
      · rw [Terminal.getTask_of_not_late fun t ht hlate' => hlate ⟨t, ht, hlate'⟩]
        exact outside_of_eq rfl rfl
  -- the other requests write no task and no result
  | _ => exact outside_of_eq rfl rfl

theorem Outside.addressed {db db' : Database} (h : Outside db db') {deviceId row action : String}
    (haddressed : Addressed db deviceId row action) : Addressed db' deviceId row action := by
  obtain ⟨r, hr, hid, hdevice, t, ht, hparent, htype⟩ := haddressed
  obtain ⟨r', hr', hid', hdevice', htask'⟩ := h.results_kept r hr
  obtain ⟨t', ht', hparent', htype'⟩ := h.tasks_kept t ht
  exact ⟨r', hr', hid'.trans hid, hdevice'.trans hdevice, t', ht',
    (hparent'.trans hparent).trans htask'.symm, by rw [htype', htype]⟩

theorem status_of_reported {s : State} (hinv : Inv s) {r : TaskResult}
    (h : Reported s.given r) : r.status = "success" ∨ r.status = "failed" := by
  obtain ⟨a, ha, -, -, hstatus, -⟩ := h
  obtain ⟨-, machine, p, hresult⟩ := hinv.given a ha
  rw [hstatus, hresult]
  exact handleCommand_status machine.env p a.command

/-- A result that has been heard of is not outstanding. -/
theorem not_outstanding {s : State} (hinv : Inv s) {r : TaskResult}
    (h : Offline r ∨ Reported s.given r) : isOutstanding r = false := by
  have hstatus : r.status = "success" ∨ r.status = "failed" := by
    rcases h with hoffline | hreported
    · exact .inr hoffline.1
    · exact status_of_reported hinv hreported
  unfold isOutstanding
  rcases hstatus with hstatus | hstatus <;> (rw [hstatus]; rfl)

theorem inv_outside {s : State} (hinv : Inv s) {db' : Database} (h : Outside s.db db') :
    Inv { s with db := db' } where
  parents r' hr' := by
    obtain ⟨r, hr, -, -, htask, -⟩ := h.results r' hr'
    obtain ⟨t, ht, hparent⟩ := hinv.parents r hr
    obtain ⟨t', ht', hid, -⟩ := h.tasks_kept t ht
    exact ⟨t', ht', (hid.trans hparent).trans htask.symm⟩
  named r' hr' := by
    obtain ⟨r, hr, hid, -⟩ := h.results r' hr'
    rw [hid]
    exact hinv.named r hr
  commands m hm := h.addressed (hinv.commands m hm)
  given a ha := ⟨h.addressed (hinv.given a ha).1, (hinv.given a ha).2⟩
  replies := hinv.replies
  once := hinv.once
  held r' hr' := by
    obtain ⟨r, hr, -, -, -, hsame | ⟨-, hended⟩⟩ := h.results r' hr'
    · rw [hsame]
      exact hinv.held r hr
    · exact .inl hended
  settled r' hr' hsettled := by
    obtain ⟨r, hr, hid, -, -, hsame | ⟨hout, -⟩⟩ := h.results r' hr'
    · rw [hsame] at hsettled ⊢
      exact hinv.settled r hr hsettled
    -- nothing that is settled is outstanding
    · rw [hid] at hsettled
      have hnot := not_outstanding hinv (hinv.settled r hr hsettled)
      rw [hnot] at hout
      cases hout
  verdict t' ht' hsettled := by
    obtain ⟨t, ht, hid, hchange⟩ := h.tasks t' ht'
    have hsettled₀ : ∀ r ∈ s.db.resultsOf t.id, Settled s r.id := by
      intro r hr
      obtain ⟨hr, hparent⟩ := Database.mem_resultsOf.mp hr
      obtain ⟨r', hr', hid', -, htask'⟩ := h.results_kept r hr
      have hmem : r' ∈ db'.resultsOf t'.id :=
        Database.mem_resultsOf.mpr ⟨hr', by rw [htask', hparent, hid]⟩
      exact hid' ▸ hsettled r' hmem
    have hverdict := hinv.verdict t ht hsettled₀
    rcases hchange with hopen | ⟨hstatus, hrows⟩
    -- an open task has a result that is still to come
    · rw [hverdict, verdictOf_isFinal] at hopen
      cases hopen
    · show t'.status = verdictOf db' t'.id
      rw [hstatus, hverdict, hid, verdictOf_of_rows hrows]

/-! ## Creations -/

/-- What a creation adds: a task, its results, and a command for each result that is sent. -/
structure Transmits (db db' : Database) (task : Task) (commands : List Sent) : Prop where
  created : Created db db' task
  status : commands = [] → task.status = .failed
  fresh : ∀ m ∈ commands, ∀ r ∈ db.results, r.id ≠ m.row
  nodup : (commands.map Sent.row).Nodup
  rows : ∀ r ∈ db'.results, r ∈ db.results ∨ (r.taskId = task.id ∧ r.id ≠ "" ∧
    (Offline r ∨ (r.status = "sent" ∧ r.id ∈ commands.map Sent.row)))
  addressed : ∀ m ∈ commands, ∃ r ∈ db'.results, r.id = m.row ∧ r.deviceId = m.deviceId ∧
    r.taskId = task.id ∧ task.taskType = m.taskType

section Creation

variable {db : Database} {payload : TaskCreate} {draw : TaskDraw}

open DispatchAccounts

theorem row_of_transmitted {tr : TaskResult} (h : tr ∈ transmitted db payload draw) :
    ∃ r ∈ createdResults db payload draw, r.id = tr.id ∧ r.deviceId = tr.deviceId := by
  obtain ⟨⟨_, i⟩, hmem, rfl⟩ := List.mem_map.mp h
  obtain ⟨hmem, -⟩ := List.mem_filter.mp hmem
  obtain ⟨hi, hget⟩ := List.getElem?_eq_some_iff.mp (List.mem_zipIdx_iff_getElem?.mp hmem)
  have hlength : (createdResults db payload draw).length =
      (newResults db.devices payload.deviceIds draw).length := by
    rw [length_createdResults, newResults, List.length_mapIdx]
  have hi' : i < (createdResults db payload draw).length := hlength ▸ hi
  have hvalid : i < (validIds db.devices payload.deviceIds).length := by
    rwa [length_createdResults] at hi'
  refine ⟨_, List.getElem_mem hi', ?_⟩
  rw [getElem_createdResults hi' hvalid, dispatch_id, deviceId_dispatch]
  dsimp only at hget ⊢
  rw [← hget]
  simp [newResults, pendingResult]

theorem row_of_created (hfresh : FreshDraw db payload draw) {r : TaskResult}
    (hr : r ∈ createdResults db payload draw) : r.id ≠ "" ∧ (Offline r ∨
      (r.status = "sent" ∧ r.id ∈ (transmitted db payload draw).map TaskResult.id)) := by
  obtain ⟨i, hi, rfl⟩ := List.getElem_of_mem hr
  have hi' : i < (validIds db.devices payload.deviceIds).length := by
    rwa [length_createdResults] at hi
  have hid := resultId_mem_transmitted hfresh.distinct hi'
  rw [getElem_createdResults hi hi', dispatch_id]
  refine ⟨(draw.resultId i).ne_empty, ?_⟩
  by_cases hsent : draw.sent i = true
  · rw [dispatch, if_pos hsent]
    exact .inr ⟨rfl, hid.mpr hsent⟩
  · rw [dispatch, if_neg hsent]
    exact .inl ⟨rfl, rfl⟩

/-- **One creation** that succeeds. -/
theorem createTask_transmits {task : Task} (h : (createTask db payload draw).2 = .ok task)
    (params : List (Str × Json)) : Transmits db (createTask db payload draw).1 task
      (dispatched db payload task.taskType params draw) := by
  obtain ⟨htype, hlimit, hfresh⟩ := accepted_iff.mp ⟨task, h⟩
  obtain ⟨taskType, htype⟩ := Option.isSome_iff_exists.mp htype
  obtain ⟨task', hanswer, hid, hstatus, -, hrows⟩ := createTask_of_fresh htype hlimit hfresh
  obtain rfl : task' = task := by
    rw [h] at hanswer
    cases hanswer
    rfl
  have hnew : ∀ r, r ∈ (createTask db payload draw).1.results ↔
      r ∈ db.results ∨ r ∈ createdResults db payload draw := by
    intro r
    rw [Table.mem_def, hrows, List.mem_append, Table.mem_def]
  have hmap : (dispatched db payload task'.taskType params draw).map Sent.row =
      (transmitted db payload draw).map TaskResult.id := by
    rw [dispatched, List.map_map]
    rfl
  have hsub : ∀ tr ∈ transmitted db payload draw,
      tr ∈ newResults db.devices payload.deviceIds draw :=
    fun tr htr => (transmitted_sublist db payload draw).subset htr
  refine ⟨?_, fun hnil => ?_, fun m hm r hr => ?_, ?_, fun r hr => ?_, fun m hm => ?_⟩
  · rcases createTask_created db payload draw with ⟨-, e, he⟩ | ⟨created, hok, -, hcreated⟩
    · rw [h] at he
      cases he
    · rw [h] at hok
      cases hok
      exact hcreated
  · rw [dispatched, List.map_eq_nil_iff] at hnil
    rw [hstatus, sentCountStatus_eq, if_pos hnil]
  · obtain ⟨tr, htr, rfl⟩ := List.mem_map.mp hm
    exact hfresh.results tr (hsub tr htr) r hr
  · rw [hmap]
    exact hfresh.distinct.sublist ((transmitted_sublist db payload draw).map _)
  · rcases (hnew r).mp hr with hold | hcreated
    · exact .inl hold
    · refine .inr ⟨?_, ?_⟩
      · rw [(outcome_created hfresh hcreated).1, hid]
      · rw [hmap]
        exact row_of_created hfresh hcreated
  · obtain ⟨tr, htr, rfl⟩ := List.mem_map.mp hm
    obtain ⟨r, hr, hrid, hdevice⟩ := row_of_transmitted htr
    refine ⟨r, (hnew r).mpr (.inr hr), hrid, hdevice, ?_, rfl⟩
    rw [(outcome_created hfresh hr).1, hid]

end Creation

/-- A task whose results have all failed has failed, with no result too. -/
theorem verdictOf_failed {db : Database} {taskId : String}
    (h : ∀ r ∈ db.results, r.taskId = taskId → r.status = "failed") :
    verdictOf db taskId = .failed := by
  have hall : ∀ status ∈ (db.resultsOf taskId).map TaskResult.status, status = "failed" := by
    intro status hstatus
    obtain ⟨r, hr, rfl⟩ := List.mem_map.mp hstatus
    obtain ⟨hr, hparent⟩ := Database.mem_resultsOf.mp hr
    exact h r hr hparent
  unfold verdictOf
  generalize (db.resultsOf taskId).map TaskResult.status = statuses at hall ⊢
  cases statuses with
  | nil => rfl
  | cons status statuses =>
      have hcongr : syncVerdict (status :: statuses) = syncVerdict ["failed"] := by
        apply syncVerdict_congr
        intro other
        rw [List.mem_singleton]
        apply Iff.intro
        · exact hall other
        · rintro rfl
          rw [← hall status List.mem_cons_self]
          exact List.mem_cons_self
      rw [hcongr]
      decide

theorem Transmits.addressed_old {db db' : Database} {task : Task} {commands : List Sent}
    (h : Transmits db db' task commands) {deviceId row action : String}
    (haddressed : Addressed db deviceId row action) : Addressed db' deviceId row action := by
  obtain ⟨r, hr, hid, hdevice, t, ht, hparent, htype⟩ := haddressed
  exact ⟨r, h.created.kept r hr, hid, hdevice, t, (h.created.mem_tasks t).mpr (.inl ht), hparent,
    htype⟩

theorem Inv.once_append {s : State} (hinv : Inv s) {commands : List Sent}
    (hnodup : (commands.map Sent.row).Nodup)
    (hfresh : ∀ m ∈ commands, ∀ r ∈ s.db.results, r.id ≠ m.row) :
    ((s.commands ++ commands).map Sent.row ++ s.given.map Answered.row).Nodup := by
  rw [List.map_append, List.append_assoc,
    (List.perm_append_comm_assoc _ _ _).nodup_iff, List.nodup_append']
  refine ⟨hnodup, hinv.once, ?_⟩
  -- what was sent before is about rows that were there
  intro row hrow hold
  obtain ⟨m, hm, rfl⟩ := List.mem_map.mp hrow
  have hknown : ∃ r ∈ s.db.results, r.id = m.row := by
    rcases List.mem_append.mp hold with hold | hold
    · obtain ⟨m', hm', heq⟩ := List.mem_map.mp hold
      obtain ⟨r, hr, hid, -⟩ := hinv.commands m' hm'
      exact ⟨r, hr, hid.trans heq⟩
    · obtain ⟨a, ha, heq⟩ := List.mem_map.mp hold
      obtain ⟨⟨r, hr, hid, -⟩, -⟩ := hinv.given a ha
      exact ⟨r, hr, hid.trans heq⟩
  obtain ⟨r, hr, hid⟩ := hknown
  exact hfresh m hm r hr hid

theorem inv_create {s : State} (hinv : Inv s) {db' : Database} {task : Task}
    {commands : List Sent} (h : Transmits s.db db' task commands) :
    Inv { s with db := db', commands := s.commands ++ commands } := by
  have hway : ∀ row, OnItsWay { s with db := db', commands := s.commands ++ commands } row ↔
      OnItsWay s row ∨ row ∈ commands.map Sent.row := by
    intro row
    simp only [OnItsWay, List.map_append, List.mem_append]
    exact or_right_comm
  have hold : ∀ row, Settled { s with db := db', commands := s.commands ++ commands } row →
      Settled s row ∧ row ∉ commands.map Sent.row := by
    intro row hsettled
    have hnot := hsettled.1
    rw [hway, not_or] at hnot
    exact ⟨⟨hnot.1, hsettled.2⟩, hnot.2⟩
  refine
    { parents := Terminal.created_parents hinv.parents h.created
      named := fun r hr => ?_
      commands := fun m hm => ?_
      given := fun a ha => ⟨h.addressed_old (hinv.given a ha).1, (hinv.given a ha).2⟩
      replies := hinv.replies
      once := hinv.once_append h.nodup h.fresh
      held := fun r hr => ?_
      settled := fun r hr hsettled => ?_
      verdict := fun t ht hsettled => ?_ }
  · rcases h.rows r hr with hr | ⟨-, hnamed, -⟩
    · exact hinv.named r hr
    · exact hnamed
  · rcases List.mem_append.mp hm with hm | hm
    · exact h.addressed_old (hinv.commands m hm)
    · obtain ⟨r, hr, hid, hdevice, hparent, htype⟩ := h.addressed m hm
      exact ⟨r, hr, hid, hdevice, task, (h.created.mem_tasks task).mpr (.inr rfl), hparent.symm,
        congrArg TaskType.value htype⟩
  · rcases h.rows r hr with hr | ⟨-, -, hoffline | ⟨hsent, -⟩⟩
    · exact hinv.held r hr
    · exact .inr (.inl hoffline)
    · refine .inl ?_
      show r.status ∈ _
      rw [hsent]
      decide
  · rcases h.rows r hr with hr | ⟨-, -, hoffline | ⟨-, hcommand⟩⟩
    · exact hinv.settled r hr (hold r.id hsettled).1
    · exact .inl hoffline
    · exact absurd hcommand (hold r.id hsettled).2
  · rcases (h.created.mem_tasks t).mp ht with ht | rfl
    · have hother : t.id ≠ task.id := h.created.fresh t ht
      have hrows : ∀ r, r.taskId = t.id → (r ∈ db'.results ↔ r ∈ s.db.results) := by
        intro r hparent
        apply Iff.intro
        · intro hr
          rcases h.rows r hr with hr | ⟨hnew, -⟩
          · exact hr
          · exact absurd (hparent.symm.trans hnew) hother
        · exact h.created.kept r
      have hverdict := hinv.verdict t ht fun r hr => by
        obtain ⟨hr, hparent⟩ := Database.mem_resultsOf.mp hr
        exact (hold r.id (hsettled r
          (Database.mem_resultsOf.mpr ⟨(hrows r hparent).mpr hr, hparent⟩))).1
      rw [hverdict]
      exact (verdictOf_of_rows hrows).symm
    -- the new task has failed when nothing of it is on its way
    · have hnone : commands = [] := by
        rw [List.eq_nil_iff_forall_not_mem]
        intro m hm
        obtain ⟨r, hr, hid, -, hparent, -⟩ := h.addressed m hm
        have hset := hold r.id (hsettled r (Database.mem_resultsOf.mpr ⟨hr, hparent⟩))
        exact hset.2 (hid ▸ List.mem_map_of_mem hm)
      rw [h.status hnone]
      refine (verdictOf_failed fun r hr hparent => ?_).symm
      rcases h.rows r hr with hr | ⟨-, -, hoffline | ⟨-, hcommand⟩⟩
      · obtain ⟨t', ht', hid⟩ := hinv.parents r hr
        exact absurd (hid.trans hparent) (h.created.fresh t' ht')
      · exact hoffline.1
      · rw [hnone] at hcommand
        exact absurd hcommand List.not_mem_nil

/-! ## Commands on their way -/

/-- What is taken from a list and what is left. -/
theorem perm_eraseP {α : Type} {p : α → Bool} {l : List α} {a : α} (h : l.find? p = some a) :
    l.Perm (a :: l.eraseP p) := by
  induction l with
  | nil => cases h
  | cons b l ih =>
      by_cases hb : p b = true
      · rw [List.find?_cons_of_pos hb] at h
        cases h
        rw [List.eraseP_cons_of_pos hb]
      · rw [List.find?_cons_of_neg hb] at h
        rw [List.eraseP_cons_of_neg hb]
        exact ((ih h).cons b).trans (.swap a b _)

/-- What is no longer on its way has been lost. -/
theorem inv_lose {s : State} (hinv : Inv s) {agents : String → Process} {commands : List Sent}
    {replies : List Answered} {lost : List String} (hcommands : commands.Sublist s.commands)
    (hreplies : ∀ a ∈ replies, a ∈ s.replies) (hlost : ∀ row ∈ s.lost, row ∈ lost)
    (hway : ∀ row, OnItsWay s row → (row ∈ commands.map Sent.row ∨
      row ∈ replies.map Answered.row) ∨ row ∈ lost) :
    Inv { s with agents := agents, commands := commands, replies := replies, lost := lost } := by
  have hsettled : ∀ row, Settled { s with
      agents := agents, commands := commands, replies := replies, lost := lost } row →
        Settled s row := by
    intro row h
    refine ⟨fun hon => ?_, fun hold => h.2 (hlost row hold)⟩
    rcases hway row hon with hstill | hgone
    · exact h.1 hstill
    · exact h.2 hgone
  exact
    { parents := hinv.parents
      named := hinv.named
      commands := fun m hm => hinv.commands m (hcommands.subset hm)
      given := hinv.given
      replies := fun a ha => hinv.replies a (hreplies a ha)
      once := hinv.once.sublist ((hcommands.map _).append_right _)
      held := hinv.held
      settled := fun r hr h => hinv.settled r hr (hsettled r.id h)
      verdict := fun t ht h => hinv.verdict t ht fun r hr => hsettled r.id (h r hr) }

theorem Reported.mono {given given' : List Answered} {r : TaskResult}
    (hsub : ∀ a ∈ given, a ∈ given') (h : Reported given r) : Reported given' r := by
  obtain ⟨a, ha, hreport⟩ := h
  exact ⟨a, hsub a ha, hreport⟩

/-- An agent has answered the command it took. -/
theorem inv_answer {s : State} (hinv : Inv s) {agents : String → Process} {sent : Sent}
    {commands : List Sent} (hperm : s.commands.Perm (sent :: commands)) {machine : PlainMachine}
    {p : Process} {answered : Answered} (hdevice : answered.deviceId = sent.deviceId)
    (hrow : answered.row = sent.row) (haction : answered.command.action = sent.taskType.value)
    (hresult : answered.result = (handleCommand machine.env p answered.command).2.2) :
    Inv { s with
      agents := agents, commands := commands, replies := s.replies ++ [answered],
      given := answered :: s.given } := by
  have hrows := hperm.map Sent.row
  have hsent : sent ∈ s.commands := hperm.symm.subset List.mem_cons_self
  have hway : ∀ row, OnItsWay s row → row ∈ commands.map Sent.row ∨
      row ∈ (s.replies ++ [answered]).map Answered.row := by
    intro row hon
    rw [List.map_append, List.mem_append]
    rcases hon with hon | hon
    · rcases List.mem_cons.mp (hrows.subset hon) with rfl | hon
      · exact .inr (.inr (hrow ▸ List.mem_singleton_self _))
      · exact .inl hon
    · exact .inr (.inl hon)
  have hsettled : ∀ row, Settled { s with
      agents := agents, commands := commands, replies := s.replies ++ [answered],
      given := answered :: s.given } row → Settled s row :=
    fun row h => ⟨fun hon => h.1 (hway row hon), h.2⟩
  refine
    { parents := hinv.parents
      named := hinv.named
      commands := fun m hm => hinv.commands m (hperm.symm.subset (List.mem_cons_of_mem _ hm))
      given := fun a ha => ?_
      replies := fun a ha => ?_
      once := ?_
      held := fun r hr => ?_
      settled := fun r hr h => ?_
      verdict := fun t ht h => hinv.verdict t ht fun r hr => hsettled r.id (h r hr) }
  · rcases List.mem_cons.mp ha with rfl | ha
    · refine ⟨?_, machine, p, hresult⟩
      rw [hdevice, hrow, haction]
      exact hinv.commands sent hsent
    · exact hinv.given a ha
  · rcases List.mem_append.mp ha with ha | ha
    · exact List.mem_cons_of_mem _ (hinv.replies a ha)
    · rw [List.mem_singleton.mp ha]
      exact List.mem_cons_self
  · have honce := (hrows.append_right (s.given.map Answered.row)).nodup_iff.mp hinv.once
    rw [List.map_cons, hrow, List.perm_middle.nodup_iff]
    exact honce
  · rcases hinv.held r hr with hheld | hheld | hheld
    · exact .inl hheld
    · exact .inr (.inl hheld)
    · exact .inr (.inr (hheld.mono fun _ => List.mem_cons_of_mem _))
  · rcases hinv.settled r hr (hsettled r.id h) with hoffline | hreported
    · exact .inl hoffline
    · exact .inr (hreported.mono fun _ => List.mem_cons_of_mem _)

theorem inv_execute {shortest : Python.Float → FloatLiteral} {s s' : State} {deviceId : String}
    {machine : PlainMachine} (hinv : Inv s) (h : execute shortest s deviceId machine = some s') :
    Inv s' := by
  unfold execute at h
  split at h
  · cases h
  · rename_i sent hfind
    have hperm := perm_eraseP hfind
    have hdevice : sent.deviceId = deviceId := by simpa using List.find?_some hfind
    dsimp only at h
    rw [readCommand_commandText] at h
    split at h
    -- the agent could not read the command
    · cases h
      refine inv_lose hinv List.eraseP_sublist (fun _ ha => ha)
        (fun _ hrow => List.mem_cons_of_mem _ hrow) fun row hrow => ?_
      rcases hrow with hrow | hrow
      · rcases List.mem_cons.mp ((hperm.map Sent.row).subset hrow) with rfl | hrow
        · exact .inr List.mem_cons_self
        · exact .inl (.inl hrow)
      · exact .inl (.inr hrow)
    · rename_i cmd hcmd
      obtain ⟨value, -, rfl⟩ := Option.map_eq_some_iff.mp hcmd
      cases h
      exact inv_answer hinv hperm hdevice.symm rfl rfl rfl

/-! ## Answers that arrive -/

theorem syncParentTask_keeps_type {db : Database} {taskId : String} {t : Task}
    (ht : t ∈ db.tasks) : ∃ t' ∈ (syncParentTask db taskId).tasks, t'.id = t.id ∧
      t'.taskType = t.taskType := by
  unfold syncParentTask
  split
  · exact ⟨t, ht, rfl, rfl⟩
  · refine ⟨_, mem_setTaskStatus.mpr ⟨t, ht, rfl⟩, ?_⟩
    split <;> exact ⟨rfl, rfl⟩

/-- What an answer that is stored does to the results and the tasks. -/
structure Stored (db db' : Database) (row : TaskResult) (result : CommandResult) (now : DateTime) :
    Prop where
  results : ∀ r, r ∈ db'.results ↔
    (r ∈ db.results ∧ r.id ≠ row.id) ∨ r = answered row result now
  tasks : ∀ t' ∈ db'.tasks, ∃ t ∈ db.tasks, t'.id = t.id ∧ (t.id ≠ row.taskId → t' = t) ∧
    (t.id = row.taskId →
      ∀ verdict, syncVerdict ((db'.resultsOf row.taskId).map TaskResult.status) = some verdict →
        t'.status = verdict)
  tasks_kept : ∀ t ∈ db.tasks, ∃ t' ∈ db'.tasks, t'.id = t.id ∧ t'.taskType = t.taskType

theorem handleFrame_stored {rt : Runtime} (hlimit : 0 < rt.recursionLimit) {db : Database}
    (machine : PlainMachine) (p : Process) {cmd : Command} {row : TaskResult}
    (hrow : row ∈ db.results) (hkey : row.id = cmd.id) (hid : row.id ≠ "") (deviceId : String)
    (now : DateTime) (broadcastOk : Bool) :
    let result := (handleCommand machine.env p cmd).2.2
    Stored db (handleFrame rt db deviceId (resultText result) now broadcastOk).1 row result
      now := by
  intro result
  have hfind : db.results.find? cmd.id = some row := hkey ▸ Table.find?_key hrow
  obtain ⟨devices, hframe⟩ :=
    handleFrame_answer hlimit db machine p hfind (hkey ▸ hid) deviceId now broadcastOk
  rw [hframe]
  generalize hreply : (⟨row, (handleCommand machine.env p cmd).2.2.status,
    some (storedOutput (handleCommand machine.env p cmd).2.2.output)⟩ : Reply) = reply
  have hreplyRow : reply.row = row := by rw [← hreply]
  have hassigned : reply.assigned now = answered row result now := by
    rw [← hreply]
    rfl
  refine ⟨fun r => ?_, fun t' ht' => ?_, fun t ht => ?_⟩
  · rw [syncParentTask_results]
    show r ∈ (commitReply db reply now).results ↔ _
    rw [mem_commitReply (hreplyRow ▸ hrow), hreplyRow, hassigned]
  · rw [mem_syncParentTask] at ht'
    have hsame : (syncParentTask { commitReply db reply now with devices := devices }
        row.taskId).resultsOf row.taskId =
          ({ commitReply db reply now with devices := devices } : Database).resultsOf
            row.taskId := by
      rw [Database.resultsOf, syncParentTask_results]
      rfl
    rw [hsame]
    split at ht'
    · rename_i hnone
      refine ⟨t', ht', rfl, fun _ => rfl, fun _ verdict hverdict => ?_⟩
      rw [hnone] at hverdict
      cases hverdict
    · rename_i final hfinal
      obtain ⟨t, ht, heq⟩ := ht'
      refine ⟨t, ht, ?_, fun hother => ?_, fun hthis verdict hverdict => ?_⟩
      · rw [← heq]
        split <;> rfl
      · rw [← heq, if_neg hother]
      · rw [hfinal] at hverdict
        cases hverdict
        rw [← heq, if_pos hthis]
  · have ht' : t ∈ ({ commitReply db reply now with devices := devices } : Database).tasks := ht
    exact syncParentTask_keeps_type ht'

theorem Stored.addressed {db db' : Database} {row : TaskResult} {result : CommandResult}
    {now : DateTime} (h : Stored db db' row result now) (hrow : row ∈ db.results)
    {deviceId id action : String} (haddressed : Addressed db deviceId id action) :
    Addressed db' deviceId id action := by
  obtain ⟨r, hr, hid, hdevice, t, ht, hparent, htype⟩ := haddressed
  obtain ⟨t', ht', hid', htype'⟩ := h.tasks_kept t ht
  by_cases hsame : r.id = row.id
  · obtain rfl := db.results.eq_of_key_eq hr hrow hsame
    exact ⟨answered r result now, (h.results _).mpr (.inr rfl), hid, hdevice, t', ht',
      hid'.trans hparent, by rw [htype', htype]⟩
  · exact ⟨r, (h.results r).mpr (.inl ⟨hr, hsame⟩), hid, hdevice, t', ht', hid'.trans hparent,
      by rw [htype', htype]⟩

/-- An answer that is stored is one that was given, and it is no longer on its way. -/
theorem inv_stored {s : State} (hinv : Inv s) {db' : Database} {replies : List Answered}
    {a : Answered} {row : TaskResult} {now : DateTime} (hperm : s.replies.Perm (a :: replies))
    (hrow : row ∈ s.db.results) (hid : row.id = a.row) (hdevice : row.deviceId = a.deviceId)
    (h : Stored s.db db' row a.result now) : Inv { s with db := db', replies := replies } := by
  have hgiven : a ∈ s.given := hinv.replies a (hperm.symm.subset List.mem_cons_self)
  have hreported : Reported s.given (answered row a.result now) :=
    ⟨a, hgiven, hid.symm, hdevice.symm, rfl, rfl⟩
  have hsettled : ∀ id, Settled { s with db := db', replies := replies } id → id ≠ row.id →
      Settled s id := by
    intro id hset hother
    refine ⟨fun hon => ?_, hset.2⟩
    rcases hon with hon | hon
    · exact hset.1 (.inl hon)
    · rcases List.mem_cons.mp ((hperm.map Answered.row).subset hon) with heq | hon
      · exact hother (heq.trans hid.symm)
      · exact hset.1 (.inr hon)
  have hended : ∀ r ∈ db'.results, Settled { s with db := db', replies := replies } r.id →
      Offline r ∨ Reported s.given r := by
    intro r hr hset
    rcases (h.results r).mp hr with ⟨hr, hother⟩ | rfl
    · exact hinv.settled r hr (hsettled r.id hset hother)
    · exact .inr hreported
  refine
    { parents := fun r hr => ?_
      named := fun r hr => ?_
      commands := fun m hm => h.addressed hrow (hinv.commands m hm)
      given := fun b hb => ⟨h.addressed hrow (hinv.given b hb).1, (hinv.given b hb).2⟩
      replies := fun b hb => hinv.replies b (hperm.symm.subset (List.mem_cons_of_mem _ hb))
      once := hinv.once
      held := fun r hr => ?_
      settled := hended
      verdict := fun t' ht' hset => ?_ }
  · have hparent : ∃ t ∈ s.db.tasks, t.id = r.taskId := by
      rcases (h.results r).mp hr with ⟨hr, -⟩ | rfl
      · exact hinv.parents r hr
      · exact hinv.parents row hrow
    obtain ⟨t, ht, hparent⟩ := hparent
    obtain ⟨t', ht', hid', -⟩ := h.tasks_kept t ht
    exact ⟨t', ht', hid'.trans hparent⟩
  · rcases (h.results r).mp hr with ⟨hr, -⟩ | rfl
    · exact hinv.named r hr
    · exact hinv.named row hrow
  · rcases (h.results r).mp hr with ⟨hr, -⟩ | rfl
    · exact hinv.held r hr
    · exact .inr (.inr hreported)
  · obtain ⟨t, ht, hid', hother, hthis⟩ := h.tasks t' ht'
    by_cases hparent : t.id = row.taskId
    -- the last answer of the task: all its results have ended
    · have hmem : answered row a.result now ∈ db'.resultsOf row.taskId :=
        Database.mem_resultsOf.mpr ⟨(h.results _).mpr (.inr rfl), rfl⟩
      have hverdict : ∃ verdict, syncVerdict
          ((db'.resultsOf row.taskId).map TaskResult.status) = some verdict := by
        rw [← Option.ne_none_iff_exists']
        intro hnone
        rcases syncVerdict_eq_none_iff.mp hnone with hnil | hopen
        · rw [List.map_eq_nil_iff] at hnil
          rw [hnil] at hmem
          exact absurd hmem List.not_mem_nil
        · apply hopen
          intro status hstatus
          obtain ⟨r, hr, rfl⟩ := List.mem_map.mp hstatus
          have hset' := hset r (by rwa [hid', hparent])
          rcases hended r (Database.mem_resultsOf.mp hr).1 hset' with hoffline | hrep
          · rw [hoffline.1]
            decide
          · rcases status_of_reported hinv hrep with hsuccess | hfailed
            · rw [hsuccess]
              decide
            · rw [hfailed]
              decide
      obtain ⟨verdict, hverdict⟩ := hverdict
      show t'.status = verdictOf db' t'.id
      rw [hthis hparent verdict hverdict, verdictOf, hid', hparent, hverdict]
      rfl
    · obtain rfl := hother hparent
      have hrows : ∀ r, r.taskId = t'.id → (r ∈ db'.results ↔ r ∈ s.db.results) := by
        intro r hr
        rw [h.results]
        apply Iff.intro
        · rintro (⟨hmem, -⟩ | rfl)
          · exact hmem
          · exact absurd hr.symm hparent
        · intro hmem
          refine .inl ⟨hmem, fun hsame => hparent ?_⟩
          rw [← hr, s.db.results.eq_of_key_eq hmem hrow hsame]
      have hold := hinv.verdict t' ht fun r hr => by
        obtain ⟨hmem, htask⟩ := Database.mem_resultsOf.mp hr
        refine hsettled r.id
          (hset r (Database.mem_resultsOf.mpr ⟨(hrows r htask).mpr hmem, htask⟩)) fun hsame => ?_
        apply hparent
        rw [← htask, s.db.results.eq_of_key_eq hmem hrow hsame]
      rw [hold]
      exact (verdictOf_of_rows hrows).symm

theorem inv_deliver {settings : Settings} (hlimit : 0 < settings.runtime.recursionLimit)
    {s s' : State} {deviceId : String} {now : DateTime} {broadcastOk : Bool} (hinv : Inv s)
    (h : deliver settings s deviceId now broadcastOk = some s') : Inv s' := by
  unfold deliver at h
  split at h
  · cases h
  · rename_i a hfind
    obtain rfl := Option.some.inj h
    have hperm := perm_eraseP hfind
    have hgiven := hinv.given a (hinv.replies a (hperm.symm.subset List.mem_cons_self))
    obtain ⟨⟨row, hrow, hid, hdevice, -⟩, machine, p, hresult⟩ := hgiven
    have hstored := handleFrame_stored hlimit machine p hrow hid (hinv.named row hrow) deviceId now
      broadcastOk
    rw [← hresult] at hstored
    exact inv_stored hinv hperm hrow hid hdevice hstored

/-! ## Whole runs -/

/-- **One step** keeps the invariant. -/
theorem step_inv {settings : Settings} (hlimit : 0 < settings.runtime.recursionLimit)
    {shortest : Python.Float → FloatLiteral} {s s' : State} {e : Event}
    (h : step settings shortest s e = some s') (hinv : Inv s) : Inv s' := by
  cases e with
  | request request =>
      rw [step] at h
      split at h
      · cases h
      · rename_i hexchange
        cases h
        exact inv_outside hinv (outside_handle settings s.db (by simpa using hexchange))
  | create payload params draw =>
      rw [step] at h
      split at h
      · rename_i db e hcreate
        cases h
        rcases createTask_created s.db payload draw with ⟨hsame, -⟩ | ⟨task, hok, -, -⟩
        · rw [hcreate] at hsame
          obtain rfl : db = s.db := hsame
          exact hinv
        · rw [hcreate] at hok
          cases hok
      · rename_i db task hcreate
        cases h
        have hok : (createTask s.db payload draw).2 = .ok task := by rw [hcreate]
        have htransmits := createTask_transmits hok params
        rw [hcreate] at htransmits
        exact inv_create hinv htransmits
  | execute deviceId machine =>
      rw [step] at h
      exact inv_execute hinv h
  | deliver deviceId now broadcastOk =>
      rw [step] at h
      exact inv_deliver hlimit hinv h
  | loseCommands deviceId =>
      cases h
      refine inv_lose hinv List.filter_sublist (fun _ ha => ha)
        (fun row hrow => List.mem_append_right _ hrow) fun row hrow => ?_
      rcases hrow with hrow | hrow
      · obtain ⟨m, hm, rfl⟩ := List.mem_map.mp hrow
        by_cases hdevice : m.deviceId = deviceId
        · exact .inr (List.mem_append_left _
            (List.mem_map_of_mem (List.mem_filter.mpr ⟨hm, by simpa using hdevice⟩)))
        · exact .inl (.inl (List.mem_map_of_mem (List.mem_filter.mpr ⟨hm, by simpa using hdevice⟩)))
      · exact .inl (.inr hrow)
  | loseReplies deviceId =>
      cases h
      refine inv_lose hinv (.refl _) (fun a ha => (List.mem_filter.mp ha).1)
        (fun row hrow => List.mem_append_right _ hrow) fun row hrow => ?_
      rcases hrow with hrow | hrow
      · exact .inl (.inl hrow)
      · obtain ⟨a, ha, rfl⟩ := List.mem_map.mp hrow
        by_cases hdevice : a.deviceId = deviceId
        · exact .inr (List.mem_append_left _
            (List.mem_map_of_mem (List.mem_filter.mpr ⟨ha, by simpa using hdevice⟩)))
        · exact .inl (.inr (List.mem_map_of_mem (List.mem_filter.mpr ⟨ha, by simpa using hdevice⟩)))
  | restart deviceId p =>
      cases h
      exact inv_lose hinv (.refl _) (fun _ ha => ha) (fun _ hrow => hrow) fun _ hrow => .inl hrow

/-- A device is created, a command sent to it, executed, and answered. -/
def oneExchange : List Event :=
  [.request (.createDevice {} issuedDraw), .create ⟨"sysinfo", [issuedDraw.id.val]⟩ forced sentDraw,
    .execute issuedDraw.id.val exampleMachine, .deliver issuedDraw.id.val 3 true]

def exampleAgents : String → Process := fun _ => exampleProcess

/-- The whole exchange takes place. -/
example : (exec (step exampleSettings exampleRepr.shortest) (start exampleAgents)
    oneExchange).isSome = true := by decide +kernel

/-! ### At most once -/

/-- No command was executed twice, nor is one on its way that was, and each was executed by the
agent of the device it is for, with the action of its task. -/
structure ExecutedOnce (s : State) : Prop where
  once : (s.given.map Answered.row).Nodup
  waiting : ∀ m ∈ s.commands, m.row ∉ s.given.map Answered.row
  addressed : ∀ a ∈ s.given, Addressed s.db a.deviceId a.row a.command.action

/-- **Every command is executed at most once**, in every state of every run, whatever is lost. -/
theorem executed_at_most_once (settings : Settings) (hlimit : 0 < settings.runtime.recursionLimit)
    (shortest : Python.Float → FloatLiteral) (agents : String → Process) (events : List Event) :
    Along (step settings shortest) (fun _ _ s => ExecutedOnce s) (start agents) events := by
  have hstep : ∀ s e s', step settings shortest s e = some s' → Inv s →
      Inv s' ∧ ExecutedOnce s' := by
    intro s e s' hs hinv
    have hinv' := step_inv hlimit hs hinv
    have honce := List.nodup_append'.mp hinv'.once
    exact ⟨hinv', honce.2.1, fun m hm => honce.2.2 (List.mem_map_of_mem hm),
      fun a ha => (hinv'.given a ha).1⟩
  exact along_of_step hstep (inv_start agents)

theorem one_exchange_once : Along (step exampleSettings exampleRepr.shortest)
    (fun _ _ s => ExecutedOnce s) (start exampleAgents) oneExchange :=
  executed_at_most_once exampleSettings (by decide) exampleRepr.shortest exampleAgents oneExchange

/-! ### Reports -/

/-- A result waits for its agent, or its agent could not be reached, or it holds what its own agent
has answered. -/
def OwnReports (s : State) : Prop :=
  ∀ r ∈ s.db.results, Unanswered r ∨ Offline r ∨ Reported s.given r

/-- **No result holds the report of another agent**, or one that was never made. -/
theorem reports_are_own (settings : Settings) (hlimit : 0 < settings.runtime.recursionLimit)
    (shortest : Python.Float → FloatLiteral) (agents : String → Process) (events : List Event) :
    Along (step settings shortest) (fun _ _ s => OwnReports s) (start agents) events := by
  have hstep : ∀ s e s', step settings shortest s e = some s' → Inv s → Inv s' ∧ OwnReports s' := by
    intro s e s' hs hinv
    have hinv' := step_inv hlimit hs hinv
    exact ⟨hinv', hinv'.held⟩
  exact along_of_step hstep (inv_start agents)

theorem one_exchange_own : Along (step exampleSettings exampleRepr.shortest)
    (fun _ _ s => OwnReports s) (start exampleAgents) oneExchange :=
  reports_are_own exampleSettings (by decide) exampleRepr.shortest exampleAgents oneExchange

/-! ### The end of the exchange -/

/-- A task has completed when it has results and all of them are successes. -/
def outcomeOf (results : List TaskResult) : TaskStatus :=
  if results ≠ [] ∧ ∀ r ∈ results, r.status = "success" then .completed else .failed

theorem verdictOf_eq_outcomeOf {db : Database} {taskId : String}
    (h : ∀ r ∈ db.resultsOf taskId, r.status = "success" ∨ r.status = "failed") :
    verdictOf db taskId = outcomeOf (db.resultsOf taskId) := by
  have hall : ∀ status ∈ (db.resultsOf taskId).map TaskResult.status,
      status = "success" ∨ status = "failed" := by
    intro status hstatus
    obtain ⟨r, hr, rfl⟩ := List.mem_map.mp hstatus
    exact h r hr
  have hterminal : ∀ status ∈ (db.resultsOf taskId).map TaskResult.status,
      status ∈ terminalStatuses := by
    intro status hstatus
    rcases hall status hstatus with rfl | rfl <;> decide
  have hcancelled : ¬("cancelled" ∈ (db.resultsOf taskId).map TaskResult.status) := by
    intro hmem
    rcases hall _ hmem with heq | heq <;> exact absurd heq (by decide)
  unfold verdictOf syncVerdict outcomeOf
  by_cases hempty : db.resultsOf taskId = []
  · rw [hempty]
    rfl
  · have hne : (db.resultsOf taskId).map TaskResult.status ≠ [] :=
      fun hnil => hempty (List.map_eq_nil_iff.mp hnil)
    rw [if_neg hne, if_neg (not_not.mpr hterminal)]
    by_cases hdone : ∀ r ∈ db.resultsOf taskId, r.status = "success"
    · rw [if_pos (List.forall_mem_map.mpr hdone), if_pos ⟨hempty, hdone⟩]
      rfl
    · rw [if_neg (mt List.forall_mem_map.mp hdone), if_neg fun h => hcancelled h.1,
        if_neg fun h => hdone h.2]
      rfl

/-- When nothing is on its way, a task of which nothing was lost has ended, and its results hold
what their agents have answered, or that they could not be reached. -/
def EndsWell (s : State) : Prop :=
  s.commands = [] → s.replies = [] → ∀ t ∈ s.db.tasks,
    (∀ r ∈ s.db.resultsOf t.id, r.id ∉ s.lost) →
      t.status = outcomeOf (s.db.resultsOf t.id) ∧
        ∀ r ∈ s.db.resultsOf t.id, Offline r ∨ Reported s.given r

/-- **The exchange ends well** where no answer overtakes the commits of a creation, whatever the
order of the messages, and with any requests in between: when they have all arrived the task has
completed or failed as its agents reported it, even if it was cancelled or timed out on the way. -/
theorem exchange_ends_well (settings : Settings) (hlimit : 0 < settings.runtime.recursionLimit)
    (shortest : Python.Float → FloatLiteral) (agents : String → Process) (events : List Event) :
    Along (step settings shortest) (fun _ _ s => EndsWell s) (start agents) events := by
  have hstep : ∀ s e s', step settings shortest s e = some s' → Inv s → Inv s' ∧ EndsWell s' := by
    intro s e s' hs hinv
    have hinv' := step_inv hlimit hs hinv
    refine ⟨hinv', fun hcommands hreplies t ht hlost => ?_⟩
    have hsettled : ∀ r ∈ s'.db.resultsOf t.id, Settled s' r.id := by
      intro r hr
      refine ⟨?_, hlost r hr⟩
      rw [OnItsWay, hcommands, hreplies]
      rintro (hway | hway) <;> exact absurd hway List.not_mem_nil
    have hheard : ∀ r ∈ s'.db.resultsOf t.id, Offline r ∨ Reported s'.given r :=
      fun r hr => hinv'.settled r (Database.mem_resultsOf.mp hr).1 (hsettled r hr)
    refine ⟨?_, hheard⟩
    rw [hinv'.verdict t ht hsettled]
    refine verdictOf_eq_outcomeOf fun r hr => ?_
    rcases hheard r hr with hoffline | hreported
    · exact .inr hoffline.1
    · exact status_of_reported hinv' hreported
  exact along_of_step hstep (inv_start agents)

theorem one_exchange_ends_well : Along (step exampleSettings exampleRepr.shortest)
    (fun _ _ s => EndsWell s) (start exampleAgents) oneExchange :=
  exchange_ends_well exampleSettings (by decide) exampleRepr.shortest exampleAgents oneExchange

end LanAgent.Protocol
