import LanAgent.Library.Runs
import LanAgent.Server

/-!
# Terminal is final — tasks and results that have ended

Runs of the server, one request or frame after the other.  A task that has ended should have
results that have all ended, and neither should change any more.  `terminal_final_iff` says which
runs keep that.
-/

namespace LanAgent.Terminal

open Library Library.Runs

/-! ## The property -/

/-- All results of a final task are in a terminal status. -/
def FinalOk (db : Database) : Prop :=
  ∀ t ∈ db.tasks, t.status.isFinal = true →
    ∀ r ∈ db.results, r.taskId = t.id → r.status ∈ terminalStatuses

/-- A final task and its results keep their statuses. -/
def Frozen (db db' : Database) : Prop :=
  ∀ t ∈ db.tasks, t.status.isFinal = true →
    (∃ t' ∈ db'.tasks, t'.id = t.id ∧ t'.status = t.status) ∧
      ∀ r ∈ db.results, r.taskId = t.id → ∃ r' ∈ db'.results, r'.id = r.id ∧ r'.status = r.status

def TerminalFinal (db db' : Database) : Prop := FinalOk db' ∧ Frozen db db'

instance (db : Database) : Decidable (FinalOk db) := by
  unfold FinalOk
  infer_instance

instance (db db' : Database) : Decidable (Frozen db db') := by
  unfold Frozen
  infer_instance

instance (db db' : Database) : Decidable (TerminalFinal db db') :=
  inferInstanceAs (Decidable (_ ∧ _))

/-! ## The condition -/

/-- The results of the task are terminal, but for those the request is about to end. -/
def OthersEnded (db : Database) (taskId : String) (ending : TaskResult → Bool) : Prop :=
  ∀ r ∈ db.results, r.taskId = taskId → r.status ∈ terminalStatuses ∨ ending r = true

/-- Cancelling meets only results that have ended, are pending or are sent; the time-out of an
upgrade meets only results that have ended or time out together; and a reply that is accepted for a
result of a final task repeats the stored status, and the stored statuses give the task's status
(unless its hardware information makes the handler raise before it looks at the task). -/
def Respectful (settings : Settings) (db : Database) : Request → Database → Prop
  -- `cancel_task` ends a task that is not final, whatever the statuses of its results
  | .cancelTask taskId _, _ =>
      ∀ t, db.tasks.find? taskId = some t → t.status.isFinal = false →
        OthersEnded db taskId isOutstanding
  -- the fallback of `get_task` fails the whole task as soon as one result times out
  | .getTask taskId now, _ =>
      ∀ t, db.tasks.find? taskId = some t → t.taskType = .upgrade ∧ t.status = .running ∧
        (∃ r ∈ db.resultsOf t.id, timedOut now r = true) → OthersEnded db taskId (timedOut now)
  -- the handler looks at neither the stored status nor the task
  | .frame deviceId data now _, _ =>
      ∀ reply, readReply settings.runtime db.results data = .ok (some reply) →
        ∀ t ∈ db.tasks, t.id = reply.row.taskId → t.status.isFinal = true →
          reply.status = reply.row.status ∧
            ((∃ e, storeReplySysinfo settings.runtime db.devices deviceId reply now = .error e) ∨
              syncVerdict ((db.resultsOf t.id).map TaskResult.status) = some t.status)
  | _, _ => True

/-! ## The invariant -/

/-- Every result belongs to a task. -/
def Parents (db : Database) : Prop := ∀ r ∈ db.results, ∃ t ∈ db.tasks, t.id = r.taskId

theorem parents_empty : Parents .empty := fun r hr => absurd hr (Table.not_mem_empty r)

structure Inv (db : Database) : Prop where
  finalOk : FinalOk db
  parents : ∀ r ∈ db.results, ∃ t ∈ db.tasks, t.id = r.taskId

theorem inv_empty : Inv .empty where
  finalOk t ht := absurd ht (Table.not_mem_empty t)
  parents := parents_empty

/-- The two tables of results have the same rows, to what a task can tell from their statuses. -/
structure SameStatuses (results results' : TaskResults) : Prop where
  kept : ∀ r ∈ results, ∃ r' ∈ results',
    r'.id = r.id ∧ r'.taskId = r.taskId ∧ r'.status = r.status
  origin : ∀ r' ∈ results', ∃ r ∈ results, r.taskId = r'.taskId ∧ r.status = r'.status

theorem SameStatuses.refl (results : TaskResults) : SameStatuses results results :=
  ⟨fun r hr => ⟨r, hr, rfl, rfl, rfl⟩, fun r hr => ⟨r, hr, rfl, rfl⟩⟩

/-- A request that keeps all statuses keeps the terminal ones. -/
theorem terminalFinal_of_same {db db' : Database} (hinv : Inv db)
    (hresults : SameStatuses db.results db'.results)
    (hkept : ∀ t ∈ db.tasks, ∃ t' ∈ db'.tasks, t'.id = t.id ∧ t'.status = t.status)
    (horigin : ∀ t' ∈ db'.tasks, ∃ t ∈ db.tasks, t.id = t'.id ∧ t.status = t'.status) :
    TerminalFinal db db' := by
  refine ⟨fun t' ht' hfinal r' hr' hof => ?_, fun t ht hfinal => ⟨hkept t ht, fun r hr _ => ?_⟩⟩
  · rcases horigin t' ht' with ⟨t, ht, hid, hstatus⟩
    rcases hresults.origin r' hr' with ⟨r, hr, hof', hstatus'⟩
    rw [← hstatus']
    exact hinv.finalOk t ht (hstatus ▸ hfinal) r hr (hof'.trans (hof.trans hid.symm))
  · rcases hresults.kept r hr with ⟨r', hr', hid, _, hstatus⟩
    exact ⟨r', hr', hid, hstatus⟩

theorem terminalFinal_of_eq {db db' : Database} (hinv : Inv db) (htasks : db'.tasks = db.tasks)
    (hresults : db'.results = db.results) : TerminalFinal db db' := by
  apply terminalFinal_of_same hinv
  · rw [hresults]
    exact .refl db.results
  · rw [htasks]
    exact fun t ht => ⟨t, ht, rfl, rfl⟩
  · rw [htasks]
    exact fun t ht => ⟨t, ht, rfl, rfl⟩

/-! ## Creations -/

theorem created_terminalFinal {db db' : Database} {task : Task} (hinv : Inv db)
    (hstatus : task.status = .running ∨ task.status = .failed) (h : Created db db' task) :
    TerminalFinal db db' := by
  refine ⟨fun t ht hfinal r hr hparent => ?_, fun t ht hfinal => ⟨?_, fun r hr _ => ?_⟩⟩
  · rcases h.origin r hr with hold | ⟨hnew, hended⟩
    -- an old result belongs to an old task
    · rcases (h.mem_tasks t).mp ht with ht | rfl
      · exact hinv.finalOk t ht hfinal r hold hparent
      · rcases hinv.parents r hold with ⟨t₀, ht₀, hid⟩
        exact absurd (hid.trans hparent) (h.fresh t₀ ht₀)
    -- a new result belongs to the new task, which is final only if all its results failed
    · rcases (h.mem_tasks t).mp ht with ht | rfl
      · exact absurd (hparent.symm.trans hnew) (h.fresh t ht)
      · rcases hended with hfailed | ⟨_, hrunning⟩
        · rw [hfailed]
          decide
        · rw [hrunning] at hfinal
          cases hfinal
  · exact ⟨t, (h.mem_tasks t).mpr (.inl ht), rfl, rfl⟩
  · exact ⟨r, h.kept r hr, rfl, rfl⟩

theorem created_parents {db db' : Database} {task : Task} (hparents : Parents db)
    (h : Created db db' task) : Parents db' := by
  intro r hr
  rcases h.origin r hr with hold | ⟨hnew, _⟩
  · rcases hparents r hold with ⟨t, ht, hid⟩
    exact ⟨t, (h.mem_tasks t).mpr (.inl ht), hid⟩
  · exact ⟨task, (h.mem_tasks task).mpr (.inr rfl), hnew.symm⟩

/-! ## Requests that end a task -/

/-- The task gets a final status, and those of its results that `ending` selects get a terminal one
by `change`. -/
structure Ends (db db' : Database) (taskId : String) (ending : TaskResult → Bool)
    (change : TaskResult → TaskResult) : Prop where
  taskId_change : ∀ r, (change r).taskId = r.taskId
  status_change : ∀ r, (change r).status ∈ terminalStatuses
  mem_tasks : ∃ status : TaskStatus, status.isFinal = true ∧ ∀ t, t ∈ db'.tasks ↔
    ∃ t₀ ∈ db.tasks, (if t₀.id = taskId then { t₀ with status := status } else t₀) = t
  mem_results : ∀ r, r ∈ db'.results ↔ ∃ r₀ ∈ db.results,
    (if (r₀.taskId = taskId && ending r₀) = true then change r₀ else r₀) = r

section Ends

variable {db db' : Database} {taskId : String} {ending : TaskResult → Bool}
  {change : TaskResult → TaskResult} (hinv : Inv db) (h : Ends db db' taskId ending change)
  {task : Task} (htask : task ∈ db.tasks) (hid : task.id = taskId)

include h

theorem Ends.other {r : TaskResult} (hr : r ∈ db.results) (hother : r.taskId ≠ taskId) :
    r ∈ db'.results :=
  (h.mem_results r).mpr ⟨r, hr, if_neg (by simp [hother])⟩

theorem Ends.taskId_eq {r₀ r : TaskResult}
    (hr : (if (r₀.taskId = taskId && ending r₀) = true then change r₀ else r₀) = r) :
    r.taskId = r₀.taskId := by
  rw [← hr]
  split
  · exact h.taskId_change r₀
  · rfl

theorem Ends.parents (hparents : Parents db) : Parents db' := by
  intro r hr
  rcases (h.mem_results r).mp hr with ⟨r₀, hr₀, heq⟩
  rcases hparents r₀ hr₀ with ⟨t, ht, hparent⟩
  rcases h.mem_tasks with ⟨status, _, htasks⟩
  refine ⟨_, (htasks _).mpr ⟨t, ht, rfl⟩, ?_⟩
  rw [h.taskId_eq heq, ← hparent]
  split <;> rfl

include hinv htask hid

/-- **Ending a task** keeps terminal tasks final exactly when the other results have ended. -/
theorem Ends.terminalFinal_iff (hopen : task.status.isFinal = false) :
    TerminalFinal db db' ↔ OthersEnded db taskId ending := by
  rcases h.mem_tasks with ⟨status, hfinal, htasks⟩
  apply Iff.intro
  · intro hterminal r hr hparent
    by_cases hending : ending r = true
    · exact .inr hending
    -- a result the request leaves alone belongs to a task that is final now
    · have htask' : { task with status := status } ∈ db'.tasks :=
        (htasks _).mpr ⟨task, htask, if_pos hid⟩
      have hr' : r ∈ db'.results :=
        (h.mem_results r).mpr ⟨r, hr, if_neg (by simp [hending])⟩
      exact .inl (hterminal.1 _ htask' hfinal r hr' (hparent.trans hid.symm))
  · intro hended
    refine ⟨fun t ht htfinal r hr hparent => ?_, fun t ht htfinal => ⟨?_, fun r hr hparent => ?_⟩⟩
    · rcases (htasks t).mp ht with ⟨t₀, ht₀, rfl⟩
      rcases (h.mem_results r).mp hr with ⟨r₀, hr₀, heq⟩
      have hsame := h.taskId_eq heq
      -- split on whether the final task is the one the request ends
      by_cases hthis : t₀.id = taskId
      · rw [if_pos hthis] at hparent
        have hr₀' : r₀.taskId = taskId := (hsame.symm.trans hparent).trans hthis
        by_cases hending : ending r₀ = true
        · rw [if_pos (by simp [hr₀', hending])] at heq
          rw [← heq]
          exact h.status_change r₀
        · rw [if_neg (by simp [hending])] at heq
          rw [← heq]
          exact (hended r₀ hr₀ hr₀').resolve_right hending
      · rw [if_neg hthis] at hparent htfinal
        have hr₀' : r₀.taskId ≠ taskId := fun hsame' =>
          hthis (hparent.symm.trans (hsame.trans hsame'))
        rw [if_neg (by simp [hr₀'])] at heq
        rw [← heq] at hparent ⊢
        exact hinv.finalOk t₀ ht₀ htfinal r₀ hr₀ hparent
    -- the ended task was open, so what was final before is another task
    · have hother : t.id ≠ taskId := by
        intro hthis
        have hsame := db.tasks.eq_of_key_eq ht htask (hthis.trans hid.symm)
        rw [hsame, hopen] at htfinal
        cases htfinal
      exact ⟨t, (htasks t).mpr ⟨t, ht, if_neg hother⟩, rfl, rfl⟩
    · have hother : r.taskId ≠ taskId := by
        intro hthis
        have hsame := db.tasks.eq_of_key_eq ht htask ((hparent.symm.trans hthis).trans hid.symm)
        rw [hsame, hopen] at htfinal
        cases htfinal
      exact ⟨r, h.other hr hother, rfl, rfl⟩

end Ends

theorem cancelTask_ends {db : Database} {taskId : String} {now : DateTime} {task : Task}
    (htask : db.tasks.find? taskId = some task) (hopen : task.status.isFinal = false) :
    Ends db (cancelTask db taskId now).1 taskId isOutstanding (fun r => cancelResult r now) := by
  have hstatus : task.status = .pending ∨ task.status = .running := by
    revert hopen
    cases task.status <;> simp [TaskStatus.isFinal]
  unfold cancelTask
  rw [htask]
  dsimp only
  rw [if_pos hstatus]
  refine ⟨fun _ => rfl, fun _ => ?_, ⟨.cancelled, rfl, fun t => ?_⟩, fun r => ?_⟩
  · show "cancelled" ∈ terminalStatuses
    decide
  · show t ∈ db.tasks.updateKey taskId _ ↔ _
    rw [Table.mem_updateKey]
  · show r ∈ db.results.update _ _ (fun r => cancelResult_id r now) ↔ _
    rw [Table.mem_update]

theorem cancelTask_of_final {db : Database} {taskId : String} {now : DateTime}
    (h : ∀ t, db.tasks.find? taskId = some t → t.status.isFinal = true) :
    (cancelTask db taskId now).1 = db := by
  unfold cancelTask
  cases htask : db.tasks.find? taskId with
  | none => rfl
  | some task =>
      have hfinal := h task htask
      have hstatus : ¬(task.status = .pending ∨ task.status = .running) := by
        revert hfinal
        cases task.status <;> simp [TaskStatus.isFinal]
      dsimp only
      rw [if_neg hstatus]

theorem getTask_ends {db : Database} {taskId : String} {now : DateTime} {task : Task}
    (htask : db.tasks.find? taskId = some task) (hlate : task.taskType = .upgrade ∧
      task.status = .running ∧ ∃ r ∈ db.resultsOf task.id, timedOut now r = true) :
    Ends db (getTask db taskId now).1 taskId (timedOut now) (fun r => timeoutResult r now) := by
  have hid := Table.key_of_find? htask
  unfold getTask
  rw [htask]
  dsimp only
  unfold timeoutFallback
  rw [if_pos hlate, hid]
  refine ⟨fun _ => rfl, fun _ => ?_, ⟨.failed, rfl, fun t => ?_⟩, fun r => ?_⟩
  · show "timeout" ∈ terminalStatuses
    decide
  · show t ∈ db.tasks.updateKey taskId _ ↔ _
    rw [Table.mem_updateKey]
  · show r ∈ db.results.update _ _ (fun r => timeoutResult_id r now) ↔ _
    rw [Table.mem_update]

theorem getTask_of_not_late {db : Database} {taskId : String} {now : DateTime}
    (h : ∀ t, db.tasks.find? taskId = some t → ¬(t.taskType = .upgrade ∧ t.status = .running ∧
      ∃ r ∈ db.resultsOf t.id, timedOut now r = true)) : (getTask db taskId now).1 = db := by
  unfold getTask
  cases htask : db.tasks.find? taskId with
  | none => rfl
  | some task =>
      dsimp only
      rw [timeoutFallback, if_neg (h task htask)]

/-! ## Replies -/

theorem sameStatuses_commitReply {db : Database} {reply : Reply} (now : DateTime)
    (hrow : reply.row ∈ db.results) (hsame : reply.status = reply.row.status) :
    SameStatuses db.results (commitReply db reply now).results where
  kept r hr := by
    by_cases hid : r.id = reply.row.id
    · rw [db.results.eq_of_key_eq hr hrow hid]
      exact ⟨reply.assigned now, (mem_commitReply hrow).mpr (.inr rfl), rfl, rfl, hsame⟩
    · exact ⟨r, (mem_commitReply hrow).mpr (.inl ⟨hr, hid⟩), rfl, rfl, rfl⟩
  origin r' hr' := by
    rcases (mem_commitReply hrow).mp hr' with ⟨hr, _⟩ | rfl
    · exact ⟨r', hr, rfl, rfl⟩
    · exact ⟨reply.row, hrow, rfl, hsame.symm⟩

section Reply

variable {db : Database} {reply : Reply} {now : DateTime} (hrow : reply.row ∈ db.results)
  {task : Task} (htask : task ∈ db.tasks) (hparent : task.id = reply.row.taskId) {db' : Database}
  (hresults : db'.results = (commitReply db reply now).results)

include hrow htask hparent hresults

theorem repeat_of_frozen (hfinal : task.status.isFinal = true) (hfrozen : Frozen db db') :
    reply.status = reply.row.status := by
  rcases (hfrozen task htask hfinal).2 reply.row hrow hparent.symm with ⟨r, hr, hid, hstatus⟩
  rw [hresults] at hr
  rcases (mem_commitReply hrow).mp hr with ⟨_, hother⟩ | rfl
  · exact absurd hid hother
  · exact hstatus

theorem terminalFinal_of_open (hinv : Inv db) (hopen : task.status.isFinal = false)
    (hkept : ∀ t ∈ db.tasks, t.id ≠ task.id → t ∈ db'.tasks)
    (hended : ∀ t ∈ db'.tasks, t.status.isFinal = true → (t ∈ db.tasks ∧ t.id ≠ task.id) ∨
      (t.id = task.id ∧ ∀ r ∈ db'.results, r.taskId = task.id → r.status ∈ terminalStatuses)) :
    TerminalFinal db db' := by
  refine ⟨fun t ht hfinal r hr hof => ?_, fun t ht hfinal => ?_⟩
  · rcases hended t ht hfinal with ⟨ht, hother⟩ | ⟨hthis, hterminal⟩
    · rw [hresults] at hr
      rcases (mem_commitReply hrow).mp hr with ⟨hr, _⟩ | rfl
      · exact hinv.finalOk t ht hfinal r hr hof
      · exact absurd (hof.symm.trans hparent.symm) hother
    · exact hterminal r hr (hof.trans hthis)
  · have hother : t.id ≠ task.id := by
      intro hsame
      rw [db.tasks.eq_of_key_eq ht htask hsame, hopen] at hfinal
      cases hfinal
    refine ⟨⟨t, hkept t ht hother, rfl, rfl⟩, fun r hr hof => ⟨r, ?_, rfl, rfl⟩⟩
    rw [hresults]
    refine (mem_commitReply hrow).mpr (.inl ⟨hr, fun hsame => hother ?_⟩)
    rw [← hof, db.results.eq_of_key_eq hr hrow hsame, hparent]

theorem reply_parents (hparents : Parents db)
    (hkept : ∀ t ∈ db.tasks, ∃ t' ∈ db'.tasks, t'.id = t.id) : Parents db' := by
  intro r hr
  rw [hresults] at hr
  rcases (mem_commitReply hrow).mp hr with ⟨hr, _⟩ | rfl
  · rcases hparents r hr with ⟨t, ht, hid⟩
    rcases hkept t ht with ⟨t', ht', hid'⟩
    exact ⟨t', ht', hid'.trans hid⟩
  · rcases hkept task htask with ⟨t', ht', hid'⟩
    exact ⟨t', ht', hid'.trans hparent⟩

end Reply

/-- **A reply whose handler raises** before it looks at the task. -/
theorem unsynced_iff {db : Database} {reply : Reply} {now : DateTime} (hinv : Inv db)
    (hrow : reply.row ∈ db.results) {task : Task} (htask : task ∈ db.tasks)
    (hparent : task.id = reply.row.taskId) : TerminalFinal db (commitReply db reply now) ↔
      (task.status.isFinal = true → reply.status = reply.row.status) := by
  apply Iff.intro
  · intro hterminal hfinal
    exact repeat_of_frozen hrow htask hparent rfl hfinal hterminal.2
  · intro hrepeat
    by_cases hfinal : task.status.isFinal = true
    · exact terminalFinal_of_same hinv (sameStatuses_commitReply now hrow (hrepeat hfinal))
        (fun t ht => ⟨t, ht, rfl, rfl⟩) fun t ht => ⟨t, ht, rfl, rfl⟩
    · have hopen : task.status.isFinal = false := by simpa using hfinal
      refine terminalFinal_of_open hrow htask hparent rfl hinv hopen (fun t ht _ => ht) ?_
      intro t ht htfinal
      refine .inl ⟨ht, fun hsame => ?_⟩
      rw [db.tasks.eq_of_key_eq ht htask hsame, hopen] at htfinal
      cases htfinal

section Stored

/-- The database when the reply is committed and the task of its row is synchronised. -/
def stored (db : Database) (reply : Reply) (now : DateTime) (devices : Devices) : Database :=
  syncParentTask { commitReply db reply now with devices := devices } reply.row.taskId

variable {db : Database} {reply : Reply} {now : DateTime} {devices : Devices}

theorem stored_results :
    (stored db reply now devices).results = (commitReply db reply now).results :=
  syncParentTask_results _ _

theorem mem_stored_of_none {t : Task}
    (h : syncVerdict (((commitReply db reply now).resultsOf reply.row.taskId).map
      TaskResult.status) = none) :
    t ∈ (stored db reply now devices).tasks ↔ t ∈ db.tasks := by
  have hmem : t ∈ (stored db reply now devices).tasks ↔ _ := mem_syncParentTask
  have hverdict : syncVerdict ((({ commitReply db reply now with devices := devices } :
      Database).resultsOf reply.row.taskId).map TaskResult.status) = none := h
  rwa [hverdict] at hmem

theorem mem_stored_of_some {t : Task} {verdict : TaskStatus}
    (h : syncVerdict (((commitReply db reply now).resultsOf reply.row.taskId).map
      TaskResult.status) = some verdict) :
    t ∈ (stored db reply now devices).tasks ↔ ∃ t₀ ∈ db.tasks,
      (if t₀.id = reply.row.taskId then { t₀ with status := verdict } else t₀) = t := by
  have hmem : t ∈ (stored db reply now devices).tasks ↔ _ := mem_syncParentTask
  have hverdict : syncVerdict ((({ commitReply db reply now with devices := devices } :
      Database).resultsOf reply.row.taskId).map TaskResult.status) = some verdict := h
  rwa [hverdict] at hmem

variable (hinv : Inv db) (hrow : reply.row ∈ db.results) {task : Task} (htask : task ∈ db.tasks)
  (hparent : task.id = reply.row.taskId)

include hinv hrow htask hparent

/-- The results of a final task have all ended, and there is one of them: they have a verdict. -/
theorem exists_verdict (hfinal : task.status.isFinal = true) :
    ∃ verdict, syncVerdict ((db.resultsOf task.id).map TaskResult.status) = some verdict := by
  have hended : ∀ s ∈ (db.resultsOf task.id).map TaskResult.status, s ∈ terminalStatuses := by
    intro s hs
    rcases List.mem_map.mp hs with ⟨r, hr, rfl⟩
    have hr' := Database.mem_resultsOf.mp hr
    exact hinv.finalOk task htask hfinal r hr'.1 hr'.2
  have hnonempty : (db.resultsOf task.id).map TaskResult.status ≠ [] := by
    have hmem : reply.row ∈ db.resultsOf task.id :=
      Database.mem_resultsOf.mpr ⟨hrow, hparent.symm⟩
    exact List.ne_nil_of_mem (List.mem_map_of_mem hmem)
  cases hverdict : syncVerdict ((db.resultsOf task.id).map TaskResult.status) with
  | some verdict => exact ⟨verdict, rfl⟩
  | none =>
      rcases syncVerdict_eq_none_iff.mp hverdict with hnil | hopen
      · exact absurd hnil hnonempty
      · exact absurd hended hopen

/-- A final task is left alone by a reply that repeats what its row and the task say already. -/
theorem stored_final_iff (hfinal : task.status.isFinal = true) :
    TerminalFinal db (stored db reply now devices) ↔
      reply.status = reply.row.status ∧
        syncVerdict ((db.resultsOf task.id).map TaskResult.status) = some task.status := by
  apply Iff.intro
  · intro hterminal
    have hsame := repeat_of_frozen hrow htask hparent stored_results hfinal hterminal.2
    refine ⟨hsame, ?_⟩
    obtain ⟨verdict, hverdict⟩ := exists_verdict hinv hrow htask hparent hfinal
    -- the verdict was written, and the status has stayed
    rcases (hterminal.2 task htask hfinal).1 with ⟨t', ht', hid, hstatus⟩
    rw [hparent, ← statuses_commitReply reply.row.taskId hrow hsame] at hverdict
    rcases (mem_stored_of_some hverdict).mp ht' with ⟨t₀, ht₀, rfl⟩
    have hthis : t₀.id = reply.row.taskId := by
      by_cases h : t₀.id = reply.row.taskId
      · exact h
      · rw [if_neg h] at hid
        exact hid.trans hparent
    rw [if_pos hthis] at hstatus
    rw [hparent, ← statuses_commitReply reply.row.taskId hrow hsame, hverdict]
    exact congrArg some hstatus
  · rintro ⟨hsame, hverdict⟩
    rw [hparent, ← statuses_commitReply reply.row.taskId hrow hsame] at hverdict
    -- the verdict is the status the task has
    have hthis : ∀ t ∈ db.tasks,
        (if t.id = reply.row.taskId then { t with status := task.status } else t) = t := by
      intro t ht
      by_cases h : t.id = reply.row.taskId
      · rw [if_pos h, ← db.tasks.eq_of_key_eq ht htask (h.trans hparent.symm)]
      · rw [if_neg h]
    refine terminalFinal_of_same hinv ?_ (fun t ht => ?_) fun t' ht' => ?_
    · rw [stored_results]
      exact sameStatuses_commitReply now hrow hsame
    · exact ⟨t, (mem_stored_of_some hverdict).mpr ⟨t, ht, hthis t ht⟩, rfl, rfl⟩
    · rcases (mem_stored_of_some hverdict).mp ht' with ⟨t, ht, rfl⟩
      rw [hthis t ht]
      exact ⟨t, ht, rfl, rfl⟩

/-- A task that is still open may end with the reply. -/
theorem stored_open (hopen : task.status.isFinal = false) :
    TerminalFinal db (stored db reply now devices) := by
  cases hverdict : syncVerdict (((commitReply db reply now).resultsOf reply.row.taskId).map
      TaskResult.status) with
  -- some result is still open, and the parent is not written
  | none =>
      refine terminalFinal_of_open hrow htask hparent stored_results hinv hopen
        (fun t ht _ => (mem_stored_of_none hverdict).mpr ht) fun t ht htfinal => ?_
      have ht := (mem_stored_of_none hverdict).mp ht
      refine .inl ⟨ht, fun hsame => ?_⟩
      rw [db.tasks.eq_of_key_eq ht htask hsame, hopen] at htfinal
      cases htfinal
  | some verdict =>
      have hterminal := (syncVerdict_eq_some hverdict).2
      refine terminalFinal_of_open hrow htask hparent stored_results hinv hopen
        (fun t ht hother => (mem_stored_of_some hverdict).mpr
          ⟨t, ht, if_neg fun h => hother (h.trans hparent.symm)⟩) fun t ht _ => ?_
      rcases (mem_stored_of_some hverdict).mp ht with ⟨t₀, ht₀, rfl⟩
      by_cases hthis : t₀.id = reply.row.taskId
      · rw [if_pos hthis]
        refine .inr ⟨hthis.trans hparent.symm, fun r hr hof => ?_⟩
        refine hterminal r.status (List.mem_map_of_mem ?_)
        exact Database.mem_resultsOf.mpr ⟨stored_results ▸ hr, hof.trans hparent⟩
      · rw [if_neg hthis]
        exact .inl ⟨ht₀, fun h => hthis (h.trans hparent)⟩

/-- **A reply that is handled to the end.** -/
theorem stored_iff : TerminalFinal db (stored db reply now devices) ↔
    (task.status.isFinal = true → reply.status = reply.row.status ∧
      syncVerdict ((db.resultsOf task.id).map TaskResult.status) = some task.status) := by
  by_cases hfinal : task.status.isFinal = true
  · exact (stored_final_iff hinv hrow htask hparent hfinal).trans
      ⟨fun h _ => h, fun h => h hfinal⟩
  · exact iff_of_true (stored_open hinv hrow htask hparent (by simpa using hfinal))
      fun h => absurd h hfinal

end Stored

/-- What a frame does: nothing, or the commit of a reply, with or without the parent's status. -/
theorem frame_iff {settings : Settings} {db : Database} {deviceId data : String} {now : DateTime}
    {broadcastOk : Bool} (hinv : Inv db) :
    TerminalFinal db (handleFrame settings.runtime db deviceId data now broadcastOk).1 ↔
      Respectful settings db (.frame deviceId data now broadcastOk) db := by
  have hcase := handleFrame_outcome settings.runtime db deviceId data now broadcastOk
  simp only [Respectful]
  generalize handleFrame settings.runtime db deviceId data now broadcastOk = result at hcase
  -- the condition on the parent, of which there is one
  have hthe : ∀ {reply : Reply} {task : Task} {P : Task → Prop}, task ∈ db.tasks →
      task.id = reply.row.taskId → ((∀ t ∈ db.tasks, t.id = reply.row.taskId → P t) ↔ P task) := by
    intro reply task P htask hid
    refine ⟨fun h => h task htask hid, fun h t ht hid' => ?_⟩
    rw [db.tasks.eq_of_key_eq ht htask (hid'.trans hid.symm)]
    exact h
  cases hcase with
  | rejected e hread =>
      apply iff_of_true (terminalFinal_of_eq hinv rfl rfl)
      intro reply hreply
      rw [hread] at hreply
      cases hreply
  | unnamed hread =>
      apply iff_of_true (terminalFinal_of_eq hinv rfl rfl)
      intro reply hreply
      rw [hread] at hreply
      cases hreply
  | unsynced reply hread e hsysinfo =>
      have hrow := readReply_mem hread
      -- the invariant gives the result its task
      rcases hinv.parents reply.row hrow with ⟨task, htask, hid⟩
      rw [unsynced_iff hinv hrow htask hid]
      apply Iff.intro
      · intro h reply' hread'
        rw [hread, Except.ok.injEq, Option.some.injEq] at hread'
        rw [← hread']
        exact (hthe htask hid).mpr fun hfinal => ⟨h hfinal, .inl ⟨e, hsysinfo⟩⟩
      · intro h hfinal
        exact (h reply hread task htask hid hfinal).1
  | stored reply hread devices hsysinfo =>
      have hrow := readReply_mem hread
      rcases hinv.parents reply.row hrow with ⟨task, htask, hid⟩
      rw [← stored, stored_iff hinv hrow htask hid]
      apply Iff.intro
      · intro h reply' hread'
        rw [hread, Except.ok.injEq, Option.some.injEq] at hread'
        rw [← hread']
        exact (hthe htask hid).mpr fun hfinal => ⟨(h hfinal).1, .inr (h hfinal).2⟩
      · intro h hfinal
        have hboth := h reply hread task htask hid hfinal
        refine ⟨hboth.1, hboth.2.resolve_left fun herror => ?_⟩
        rcases herror with ⟨e, he⟩
        rw [hsysinfo] at he
        cases he

theorem frame_parents {settings : Settings} {db : Database} {deviceId data : String}
    {now : DateTime} {broadcastOk : Bool} (hparents : Parents db) :
    Parents (handleFrame settings.runtime db deviceId data now broadcastOk).1 := by
  have hcase := handleFrame_outcome settings.runtime db deviceId data now broadcastOk
  generalize handleFrame settings.runtime db deviceId data now broadcastOk = result at hcase
  cases hcase with
  | rejected => exact hparents
  | unnamed => exact hparents
  | unsynced reply hread e hsysinfo =>
      have hrow := readReply_mem hread
      rcases hparents reply.row hrow with ⟨task, htask, hid⟩
      exact reply_parents hrow htask hid rfl hparents fun t ht => ⟨t, ht, rfl⟩
  | stored reply hread devices hsysinfo =>
      have hrow := readReply_mem hread
      rcases hparents reply.row hrow with ⟨task, htask, hid⟩
      refine reply_parents hrow htask hid (syncParentTask_results _ _) hparents fun t ht => ?_
      have ht' : t ∈ ({ commitReply db reply now with devices := devices } : Database).tasks := ht
      exact syncParentTask_keeps ht'

/-! ## One request -/

theorem step_iff {settings : Settings} {db db' : Database} {request : Request}
    (h : serve settings db request = some db') (hinv : Inv db) :
    TerminalFinal db db' ↔ Respectful settings db request db' := by
  rw [serve, Option.some.injEq] at h
  rw [← h]
  cases request with
  | createTask payload draw =>
      refine iff_of_true ?_ trivial
      rcases createTask_created db payload draw with ⟨hsame, _⟩ | ⟨task, _, hstatus, hcreated⟩
      · have hdb : handle settings db (.createTask payload draw) = db := hsame
        rw [hdb]
        exact terminalFinal_of_eq hinv rfl rfl
      · exact created_terminalFinal hinv hstatus hcreated
  | cancelTask taskId now =>
      show TerminalFinal db (cancelTask db taskId now).1 ↔ _
      by_cases hopen : ∃ t, db.tasks.find? taskId = some t ∧ t.status.isFinal = false
      · rcases hopen with ⟨task, htask, hopen⟩
        rw [(cancelTask_ends htask hopen).terminalFinal_iff hinv (Table.mem_of_find? htask)
          (Table.key_of_find? htask) hopen]
        refine ⟨fun h t _ _ => h, fun h => h task htask hopen⟩
      · push Not at hopen
        rw [cancelTask_of_final fun t ht => by simpa using hopen t ht]
        exact iff_of_true (terminalFinal_of_eq hinv rfl rfl) fun t ht hfalse =>
          absurd hfalse (hopen t ht)
  | getTask taskId now =>
      show TerminalFinal db (getTask db taskId now).1 ↔ _
      by_cases hlate : ∃ t, db.tasks.find? taskId = some t ∧ (t.taskType = .upgrade ∧
          t.status = .running ∧ ∃ r ∈ db.resultsOf t.id, timedOut now r = true)
      · rcases hlate with ⟨task, htask, hlate⟩
        have hopen : task.status.isFinal = false := by
          rw [hlate.2.1]
          rfl
        rw [(getTask_ends htask hlate).terminalFinal_iff hinv (Table.mem_of_find? htask)
          (Table.key_of_find? htask) hopen]
        exact ⟨fun h t _ _ => h, fun h => h task htask hlate⟩
      · have hnone : ∀ t, db.tasks.find? taskId = some t → ¬(t.taskType = .upgrade ∧
            t.status = .running ∧ ∃ r ∈ db.resultsOf t.id, timedOut now r = true) :=
          fun t ht hlate' => hlate ⟨t, ht, hlate'⟩
        rw [getTask_of_not_late hnone]
        exact iff_of_true (terminalFinal_of_eq hinv rfl rfl) fun t ht hlate' =>
          absurd hlate' (hnone t ht)
  | frame deviceId data now broadcastOk => exact frame_iff hinv
  -- the other requests write no task and no result
  | _ => exact iff_of_true (terminalFinal_of_eq hinv rfl rfl) trivial

theorem step_parents {settings : Settings} {db db' : Database} {request : Request}
    (h : serve settings db request = some db') (hparents : Parents db) : Parents db' := by
  rw [serve, Option.some.injEq] at h
  rw [← h]
  cases request with
  | createTask payload draw =>
      rcases createTask_created db payload draw with ⟨hsame, _⟩ | ⟨task, _, _, hcreated⟩
      · have hdb : handle settings db (.createTask payload draw) = db := hsame
        rw [hdb]
        exact hparents
      · exact created_parents hparents hcreated
  | cancelTask taskId now =>
      show Parents (cancelTask db taskId now).1
      by_cases hopen : ∃ t, db.tasks.find? taskId = some t ∧ t.status.isFinal = false
      · rcases hopen with ⟨task, htask, hopen⟩
        exact (cancelTask_ends htask hopen).parents hparents
      · push Not at hopen
        rw [cancelTask_of_final fun t ht => by simpa using hopen t ht]
        exact hparents
  | getTask taskId now =>
      show Parents (getTask db taskId now).1
      by_cases hlate : ∃ t, db.tasks.find? taskId = some t ∧ (t.taskType = .upgrade ∧
          t.status = .running ∧ ∃ r ∈ db.resultsOf t.id, timedOut now r = true)
      · rcases hlate with ⟨task, htask, hlate⟩
        exact (getTask_ends htask hlate).parents hparents
      · rw [getTask_of_not_late fun t ht hlate' => hlate ⟨t, ht, hlate'⟩]
        exact hparents
  | frame deviceId data now broadcastOk => exact frame_parents hparents
  | _ => exact hparents

theorem parents_reached {settings : Settings} {requests : List Request} {db : Database}
    (h : exec (serve settings) .empty requests = some db) : Parents db := by
  have hstep : ∀ db request db', serve settings db request = some db' → Parents db →
      Parents db' := fun _ _ _ h hparents => step_parents h hparents
  exact exec_of_step hstep parents_empty h

theorem step_inv {settings : Settings} {db db' : Database} {request : Request}
    (h : serve settings db request = some db') (hinv : Inv db)
    (hrespectful : Respectful settings db request db') : Inv db' where
  finalOk := ((step_iff h hinv).mpr hrespectful).1
  parents := step_parents h hinv.parents

/-! ## Whole runs -/

/-- **Terminal is final** in exactly the runs whose requests are respectful: after every request
the results of each final task are terminal, and no request changes the status of a task that was
final before it or of one of its results. -/
theorem terminal_final_iff (settings : Settings) (requests : List Request) :
    Along (serve settings) (fun db _ db' => TerminalFinal db db') .empty requests ↔
      Along (serve settings) (Respectful settings) .empty requests := by
  have hiff : ∀ db request db', serve settings db request = some db' → Inv db →
      (TerminalFinal db db' ↔ Respectful settings db request db') :=
    fun _ _ _ h hinv => step_iff h hinv
  have hkeep : ∀ db request db', serve settings db request = some db' → Inv db →
      Respectful settings db request db' → Inv db' :=
    fun _ _ _ h hinv hrespectful => step_inv h hinv hrespectful
  exact along_iff hiff hkeep inv_empty

/-- The agent answers a command after the administrator has cancelled the task. -/
def lateReply : List Request :=
  oneSent ++ [.cancelTask sentDraw.id.val 3, .frame issuedDraw.id.val answer 4 true]

/-- The cancelled result becomes a success. -/
theorem cancelled_overwritten :
    ¬Along (serve exampleSettings) (fun db _ db' => TerminalFinal db db') .empty lateReply := by
  decide +kernel

end LanAgent.Terminal
