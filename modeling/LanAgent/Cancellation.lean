import LanAgent.TaskRoutes
import LanAgent.WsRoutes

/-!
# Two verdicts on a cancelled task — `cancel_task` and `_sync_parent_task`

`cancel_task` ends what is outstanding of a task and sets the task CANCELLED itself; a later reply
has the verdict computed from the statuses of the results.  `verdicts_agree_iff` says for which
results the two are the same.
-/

namespace LanAgent.Cancellation

open Library

/-- The status `cancel_task` leaves is the one `_sync_parent_task` would compute from the results it
leaves. -/
def VerdictsAgree (db : Database) (taskId : String) (now : DateTime) : Prop :=
  ∃ task, (cancelTask db taskId now).1.tasks.find? taskId = some task ∧
    syncVerdict (((cancelTask db taskId now).1.resultsOf taskId).map TaskResult.status) =
      some task.status

/-! ## The results after the cancellation -/

def cancelledStatus (status : String) : String :=
  if status = "pending" ∨ status = "sent" then "cancelled" else status

theorem cancelledStatus_eq_cancelled_iff {status : String} :
    cancelledStatus status = "cancelled" ↔
      status = "pending" ∨ status = "sent" ∨ status = "cancelled" := by
  unfold cancelledStatus
  by_cases hout : status = "pending" ∨ status = "sent"
  · rw [if_pos hout, ← or_assoc]
    exact iff_of_true rfl (.inl hout)
  · rw [if_neg hout, ← or_assoc]
    exact (or_iff_right hout).symm

theorem cancelledStatus_eq_success_iff {status : String} :
    cancelledStatus status = "success" ↔ status = "success" := by
  unfold cancelledStatus
  by_cases hout : status = "pending" ∨ status = "sent"
  · rw [if_pos hout]
    refine iff_of_false (by decide) fun hsuccess => ?_
    rw [hsuccess] at hout
    exact absurd hout (by decide)
  · rw [if_neg hout]

variable {db : Database} {taskId : String} {now : DateTime} {task : Task}

section Accepted

variable (htask : db.tasks.find? taskId = some task)
  (hopen : task.status = .pending ∨ task.status = .running)
include htask hopen

theorem cancelTask_of_open :
    (cancelTask db taskId now).1 =
      { setTaskStatus db taskId .cancelled with
        results := db.results.update (fun r => r.taskId = taskId && isOutstanding r)
          (fun r => cancelResult r now) (fun r => cancelResult_id r now) } := by
  rw [cancelTask, htask]
  dsimp only
  rw [if_pos hopen]

theorem find?_cancelTask :
    (cancelTask db taskId now).1.tasks.find? taskId =
      some { task with status := .cancelled } := by
  rw [cancelTask_of_open htask hopen]
  show (db.tasks.updateKey taskId fun t => { t with status := .cancelled }).find? taskId = _
  rw [Table.find?_updateKey_self, htask, Option.map_some]

theorem statuses_cancelTask :
    ((cancelTask db taskId now).1.resultsOf taskId).map TaskResult.status =
      (db.resultsOf taskId).map (fun r => cancelledStatus r.status) := by
  rw [cancelTask_of_open htask hopen, Database.resultsOf, Database.resultsOf]
  dsimp only [Table.update]
  rw [List.filter_map, List.map_map]
  -- the cancellation writes no `task_id`, so the same rows are selected
  have hrows : ((fun r : TaskResult => decide (r.taskId = taskId)) ∘ fun r =>
      if (decide (r.taskId = taskId) && isOutstanding r) = true then cancelResult r now else r) =
        fun r => decide (r.taskId = taskId) := by
    funext r
    simp only [Function.comp_apply]
    split <;> rfl
  rw [hrows]
  apply List.map_congr_left
  intro r hr
  have htaskId : r.taskId = taskId := of_decide_eq_true (List.mem_filter.mp hr).2
  simp only [Function.comp_apply, htaskId, decide_true, Bool.true_and, cancelledStatus,
    isOutstanding, Bool.or_eq_true, decide_eq_true_eq]
  by_cases hout : r.status = "pending" ∨ r.status = "sent"
  · rw [if_pos hout, if_pos hout]
    rfl
  · rw [if_neg hout, if_neg hout]

end Accepted

/-! ## The verdicts -/

theorem syncVerdict_eq_cancelled_iff {statuses : List String} :
    syncVerdict statuses = some .cancelled ↔
      "cancelled" ∈ statuses ∧ ∀ s ∈ statuses, s = "cancelled" ∨ s = "success" := by
  have hpair : (∀ s ∈ statuses, s ∈ ["cancelled", "success"]) ↔
      ∀ s ∈ statuses, s = "cancelled" ∨ s = "success" := by
    simp only [List.mem_cons, List.not_mem_nil, or_false]
  rw [← hpair]
  apply Iff.intro
  · intro h
    unfold syncVerdict at h
    split at h
    · cases h
    · split at h
      · cases h
      · split at h
        · cases h
        · split at h
          · assumption
          · cases h
  · intro h
    have hnil : statuses ≠ [] := List.ne_nil_of_mem h.1
    have hterm : ∀ s ∈ statuses, s ∈ terminalStatuses := by
      intro s hs
      rcases hpair.mp h.2 s hs with rfl | rfl
      · decide
      · decide
    have hmixed : ¬∀ s ∈ statuses, s = "success" := fun hall => by
      have heq := hall "cancelled" h.1
      exact absurd heq (by decide)
    rw [syncVerdict, if_neg hnil, if_neg (not_not.mpr hterm), if_neg hmixed, if_pos h]

/-- **Cancelling and synchronising.**  The two verdicts on a task that could be cancelled are the
same exactly when no result has ended other than by success or cancellation, and one of them has
not succeeded. -/
theorem verdicts_agree_iff (htask : db.tasks.find? taskId = some task)
    (hopen : task.status = .pending ∨ task.status = .running) :
    VerdictsAgree db taskId now ↔
      (∀ r ∈ db.resultsOf taskId, r.status = "pending" ∨ r.status = "sent" ∨
        r.status = "cancelled" ∨ r.status = "success") ∧
      ∃ r ∈ db.resultsOf taskId, r.status = "pending" ∨ r.status = "sent" ∨
        r.status = "cancelled" := by
  unfold VerdictsAgree
  rw [find?_cancelTask htask hopen, statuses_cancelTask htask hopen]
  simp only [Option.some.injEq, exists_eq_left']
  rw [syncVerdict_eq_cancelled_iff, List.forall_mem_map, List.mem_map]
  simp only [cancelledStatus_eq_cancelled_iff, cancelledStatus_eq_success_iff, or_assoc]
  exact and_comm

/-! ## A task with a failed device -/

/-- A command that was refused and one that is running. -/
def halfFailed : Database where
  devices := .empty
  tasks := ⟨[⟨"t", .shutdown, .running, 0⟩], by decide +kernel⟩
  results := ⟨[⟨"r1", "t", "d1", "failed", some "Agent offline", none, some 1⟩,
    ⟨"r2", "t", "d2", "sent", none, some 1, none⟩], by decide +kernel⟩

theorem verdicts_agree_oneSent :
    VerdictsAgree ⟨.empty, halfFailed.tasks,
      ⟨[⟨"r2", "t", "d2", "sent", none, some 1, none⟩], by decide +kernel⟩⟩ "t" 2 := by
  obtain ⟨task, htask, hrunning⟩ :
      ∃ task, halfFailed.tasks.find? "t" = some task ∧ task.status = .running :=
    ⟨⟨"t", .shutdown, .running, 0⟩, by decide, rfl⟩
  refine (verdicts_agree_iff ?_ (.inr hrunning)).mpr ?_
  · exact htask
  · decide

/-- The task is left CANCELLED, and the next synchronisation makes it FAILED. -/
theorem cancelled_then_failed :
    (cancelTask halfFailed "t" 2).1.tasks.find? "t" = some ⟨"t", .shutdown, .cancelled, 0⟩ ∧
      ¬VerdictsAgree halfFailed "t" 2 ∧
      (syncParentTask (cancelTask halfFailed "t" 2).1 "t").tasks.find? "t" =
        some ⟨"t", .shutdown, .failed, 0⟩ := by
  refine ⟨by decide, ?_, by decide⟩
  rintro ⟨task, hfind, hverdict⟩
  have hfound : (cancelTask halfFailed "t" 2).1.tasks.find? "t" =
      some ⟨"t", .shutdown, .cancelled, 0⟩ := by decide
  rw [hfound] at hfind
  cases hfind
  exact absurd hverdict (by decide)

end LanAgent.Cancellation
