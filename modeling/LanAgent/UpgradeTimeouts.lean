import LanAgent.Terminal
import Mathlib.Tactic.Linarith

/-!
# The time-out of upgrades — `get_task` polled over and over

After `create_task` has dispatched an upgrade, its agents reply and the task is polled, at any
times. A poll that comes when all results have been out for too long should leave none of them in
the status `sent`.  `timeouts_complete_iff` says which runs keep that.
-/

namespace LanAgent.UpgradeTimeouts

open Library Library.Runs

/-! ## The system -/

structure State where
  clock : DateTime
  db : Database

inductive Event where
  /-- A frame arrives on the socket of a device. -/
  | receive (deviceId data : String) (now : DateTime) (broadcastOk : Bool)
  | poll (now : DateTime)

def Event.now : Event → DateTime
  | .receive _ _ now _ => now
  | .poll now => now

def after (rt : Runtime) (taskId : String) (db : Database) : Event → Database
  | .receive deviceId data now broadcastOk => (handleFrame rt db deviceId data now broadcastOk).1
  | .poll now => (getTask db taskId now).1

/-- The clock does not go back. -/
def step (rt : Runtime) (taskId : String) (s : State) (e : Event) : Option State :=
  if s.clock ≤ e.now then some ⟨e.now, after rt taskId s.db e⟩ else none

theorem step_eq_some {rt : Runtime} {taskId : String} {s s' : State} {e : Event}
    (h : step rt taskId s e = some s') : s' = ⟨e.now, after rt taskId s.db e⟩ := by
  unfold step at h
  split at h
  · cases h
    rfl
  · cases h

/-! ## Completeness of the time-out -/

/-- Every result that was sent has been out for longer than the time-out. -/
def AllExpired (now : DateTime) (results : List TaskResult) : Prop :=
  ∀ r ∈ results, ∀ started ∈ r.startedAt, started < now - seconds upgradeTimeoutSeconds

def NoneSent (results : List TaskResult) : Prop := ∀ r ∈ results, r.status ≠ "sent"

instance (now : DateTime) (results : List TaskResult) : Decidable (AllExpired now results) :=
  inferInstanceAs (Decidable (∀ r ∈ results, ∀ started ∈ r.startedAt, _))

instance (results : List TaskResult) : Decidable (NoneSent results) :=
  inferInstanceAs (Decidable (∀ r ∈ results, _))

/-- Whenever the task is polled from this state on, at a moment by which all its results have
expired, none of them is left as sent. -/
def Complete (taskId : String) (s : State) : Prop :=
  ∀ now, s.clock ≤ now → AllExpired now (s.db.resultsOf taskId) →
    NoneSent ((getTask s.db taskId now).1.resultsOf taskId)

def Running (taskId : String) (db : Database) : Prop :=
  ∃ task ∈ db.tasks.find? taskId, task.status = .running

/-- What an event may not do: a poll that ends the running task leaves no result that has not
expired, and a reply does not say `sent` of a result that no poll would end. -/
def EndsTogether (rt : Runtime) (taskId : String) (s : State) : Event → State → Prop
  | .poll now, _ => Running taskId s.db → (∃ r ∈ s.db.resultsOf taskId, timedOut now r = true) →
      ∀ r ∈ s.db.resultsOf taskId, r.status = "sent" → timedOut now r = true
  | .receive _ data _ _, _ => ∀ reply, readReply rt s.db.results data = .ok (some reply) →
      reply.row.taskId = taskId → reply.status = "sent" →
        Running taskId s.db ∧ reply.row.startedAt.isSome = true

/-! ## The invariant -/

def AllStarted (results : List TaskResult) : Prop :=
  ∀ r ∈ results, r.status = "sent" → r.startedAt.isSome = true

def IsUpgrade (taskId : String) (db : Database) : Prop :=
  ∃ task ∈ db.tasks.find? taskId, task.taskType = .upgrade

/-- No result is sent, or the fallback is still going to run for those that are. -/
def Settled (taskId : String) (db : Database) : Prop :=
  NoneSent (db.resultsOf taskId) ∨ (Running taskId db ∧ AllStarted (db.resultsOf taskId))

structure Inv (taskId : String) (db : Database) : Prop where
  upgrade : IsUpgrade taskId db
  settled : Settled taskId db

section Polls

variable {taskId : String} {db : Database} {now : DateTime}

theorem timedOut_of_sent {r : TaskResult} (hsent : r.status = "sent") :
    timedOut now r = true ↔
      ∃ started ∈ r.startedAt, started < now - seconds upgradeTimeoutSeconds := by
  unfold timedOut isOutstanding
  rw [hsent]
  cases r.startedAt <;> simp

/-- The poll runs the fallback: what has expired times out, and the task fails. -/
theorem getTask_fires (hupgrade : IsUpgrade taskId db) (hrunning : Running taskId db)
    (hlate : ∃ r ∈ db.resultsOf taskId, timedOut now r = true) :
    Terminal.Ends db (getTask db taskId now).1 taskId (timedOut now)
      (fun r => timeoutResult r now) := by
  obtain ⟨task, htask, htype⟩ := hupgrade
  obtain ⟨task', htask', hstatus⟩ := hrunning
  have hsame : task' = task := Option.mem_unique htask' htask
  have hid : task.id = taskId := Table.key_of_find? (Option.mem_def.mp htask)
  exact Terminal.getTask_ends htask ⟨htype, hsame ▸ hstatus, hid.symm ▸ hlate⟩

theorem getTask_idle (h : ¬(Running taskId db ∧ ∃ r ∈ db.resultsOf taskId, timedOut now r = true)) :
    (getTask db taskId now).1 = db := by
  refine Terminal.getTask_of_not_late fun task htask hlate => h ⟨⟨task, htask, hlate.2.1⟩, ?_⟩
  rw [← Table.key_of_find? htask]
  exact hlate.2.2

theorem noneSent_of_ends (h : Terminal.Ends db (getTask db taskId now).1 taskId (timedOut now)
    (fun r => timeoutResult r now)) :
    NoneSent ((getTask db taskId now).1.resultsOf taskId) ↔
      ∀ r ∈ db.resultsOf taskId, r.status = "sent" → timedOut now r = true := by
  apply Iff.intro
  · intro hnone r hr hsent
    obtain ⟨hmem, hof⟩ := Database.mem_resultsOf.mp hr
    by_contra hyoung
    -- a result that has not expired is left as it is
    have hr' : r ∈ (getTask db taskId now).1.results :=
      (h.mem_results r).mpr ⟨r, hmem, if_neg (by simp [hyoung])⟩
    exact hnone r (Database.mem_resultsOf.mpr ⟨hr', hof⟩) hsent
  · intro hall r hr hsent
    obtain ⟨hmem, hof⟩ := Database.mem_resultsOf.mp hr
    rcases (h.mem_results r).mp hmem with ⟨r₀, hr₀, heq⟩
    have hof₀ : r₀.taskId = taskId := (h.taskId_eq heq).symm.trans hof
    split at heq
    · rw [← heq] at hsent
      exact absurd hsent (show ¬"timeout" = "sent" by decide)
    · rename_i hkept
      subst heq
      have hlate := hall r₀ (Database.mem_resultsOf.mpr ⟨hr₀, hof₀⟩) hsent
      exact hkept (by simp [hof₀, hlate])

/-- There is a moment by which all results have expired. -/
theorem exists_allExpired (clock : DateTime) (results : List TaskResult) :
    ∃ now, clock ≤ now ∧ AllExpired now results := by
  induction results with
  | nil => exact ⟨clock, le_rfl, fun r hr => absurd hr List.not_mem_nil⟩
  | cons r results ih =>
      obtain ⟨now, hclock, hall⟩ := ih
      let late := r.startedAt.getD 0 + seconds upgradeTimeoutSeconds + 1
      refine ⟨max now late, hclock.trans (le_max_left now late), ?_⟩
      intro r' hr' started hstarted
      rcases List.mem_cons.mp hr' with rfl | hr'
      · have hlate : late = started + seconds upgradeTimeoutSeconds + 1 := by
          rw [← Option.getD_some (a := started) (b := 0), ← Option.mem_def.mp hstarted]
        have hle := le_max_right now late
        linarith
      · have hlt := hall r' hr' started hstarted
        have hle := le_max_left now late
        linarith

/-- **Completeness of the next polls** is the invariant. -/
theorem complete_iff (hupgrade : IsUpgrade taskId db) {clock : DateTime} :
    Complete taskId ⟨clock, db⟩ ↔ Settled taskId db := by
  apply Iff.intro
  · intro hcomplete
    obtain ⟨now, hclock, hexpired⟩ := exists_allExpired clock (db.resultsOf taskId)
    have hnone := hcomplete now hclock hexpired
    by_cases hfires : Running taskId db ∧ ∃ r ∈ db.resultsOf taskId, timedOut now r = true
    · have hends := getTask_fires hupgrade hfires.1 hfires.2
      refine .inr ⟨hfires.1, fun r hr hsent => ?_⟩
      obtain ⟨started, hstarted, _⟩ :=
        (timedOut_of_sent hsent).mp ((noneSent_of_ends hends).mp hnone r hr hsent)
      exact Option.isSome_iff_exists.mpr ⟨started, hstarted⟩
    · dsimp only at hnone
      rw [getTask_idle hfires] at hnone
      exact .inl hnone
  · intro hsettled now _ hexpired
    have hlate : AllStarted (db.resultsOf taskId) →
        ∀ r ∈ db.resultsOf taskId, r.status = "sent" → timedOut now r = true := by
      intro hstarted r hr hsent
      obtain ⟨started, hsome⟩ := Option.isSome_iff_exists.mp (hstarted r hr hsent)
      exact (timedOut_of_sent hsent).mpr ⟨started, hsome, hexpired r hr started hsome⟩
    by_cases hfires : Running taskId db ∧ ∃ r ∈ db.resultsOf taskId, timedOut now r = true
    · refine (noneSent_of_ends (getTask_fires hupgrade hfires.1 hfires.2)).mpr ?_
      rcases hsettled with hnone | ⟨_, hstarted⟩
      · exact fun r hr hsent => absurd hsent (hnone r hr)
      · exact hlate hstarted
    · dsimp only
      rw [getTask_idle hfires]
      rcases hsettled with hnone | ⟨hrunning, hstarted⟩
      · exact hnone
      · exact fun r hr hsent => hfires ⟨hrunning, r, hr, hlate hstarted r hr hsent⟩

/-- A poll that ends the task leaves it with another status. -/
theorem not_running_of_ends (h : Terminal.Ends db (getTask db taskId now).1 taskId (timedOut now)
    (fun r => timeoutResult r now)) : ¬Running taskId (getTask db taskId now).1 := by
  rintro ⟨task, htask, hstatus⟩
  obtain ⟨status, hfinal, htasks⟩ := h.mem_tasks
  rcases (htasks task).mp (Table.mem_of_find? (Option.mem_def.mp htask)) with ⟨t₀, _, rfl⟩
  have hid := Table.key_of_find? (Option.mem_def.mp htask)
  by_cases hthis : t₀.id = taskId
  · rw [if_pos hthis] at hstatus
    dsimp only at hstatus
    rw [hstatus] at hfinal
    cases hfinal
  · rw [if_neg hthis] at hid
    exact hthis hid

theorem isUpgrade_of_ends (hupgrade : IsUpgrade taskId db)
    (h : Terminal.Ends db (getTask db taskId now).1 taskId (timedOut now)
      (fun r => timeoutResult r now)) : IsUpgrade taskId (getTask db taskId now).1 := by
  obtain ⟨task, htask, htype⟩ := hupgrade
  obtain ⟨status, _, htasks⟩ := h.mem_tasks
  have hid := Table.key_of_find? (Option.mem_def.mp htask)
  have hmem : { task with status := status } ∈ (getTask db taskId now).1.tasks :=
    (htasks _).mpr ⟨task, Table.mem_of_find? (Option.mem_def.mp htask), if_pos hid⟩
  exact ⟨_, Table.find?_eq_some_iff.mpr ⟨hmem, hid⟩, htype⟩

theorem poll_settled_iff (hinv : Inv taskId db) :
    Settled taskId (getTask db taskId now).1 ↔
      (Running taskId db → (∃ r ∈ db.resultsOf taskId, timedOut now r = true) →
        ∀ r ∈ db.resultsOf taskId, r.status = "sent" → timedOut now r = true) := by
  by_cases hfires : Running taskId db ∧ ∃ r ∈ db.resultsOf taskId, timedOut now r = true
  · have hends := getTask_fires hinv.upgrade hfires.1 hfires.2
    rw [imp_iff_right hfires.1, imp_iff_right hfires.2, ← noneSent_of_ends hends]
    exact or_iff_left fun h => not_running_of_ends hends h.1
  · rw [getTask_idle hfires]
    exact iff_of_true hinv.settled fun hrunning hlate => absurd ⟨hrunning, hlate⟩ hfires

theorem poll_isUpgrade (hupgrade : IsUpgrade taskId db) :
    IsUpgrade taskId (getTask db taskId now).1 := by
  by_cases hfires : Running taskId db ∧ ∃ r ∈ db.resultsOf taskId, timedOut now r = true
  · exact isUpgrade_of_ends hupgrade (getTask_fires hupgrade hfires.1 hfires.2)
  · rw [getTask_idle hfires]
    exact hupgrade

end Polls

/-! ## Replies -/

section Replies

variable {taskId : String} {db : Database} {reply : Reply} {now : DateTime}

theorem mem_resultsOf_commitReply (hrow : reply.row ∈ db.results) {r : TaskResult} :
    r ∈ (commitReply db reply now).resultsOf taskId ↔
      (r ∈ db.resultsOf taskId ∧ r.id ≠ reply.row.id) ∨
        (r = reply.assigned now ∧ reply.row.taskId = taskId) := by
  rw [Database.mem_resultsOf, mem_commitReply hrow, Database.mem_resultsOf, or_and_right]
  refine or_congr and_right_comm (and_congr_right fun heq => ?_)
  rw [heq]
  rfl

/-- A reply keeps the invariant unless it says `sent` of a result that no poll would end. -/
theorem commitReply_settled_iff (hrow : reply.row ∈ db.results) (hsettled : Settled taskId db) :
    Settled taskId (commitReply db reply now) ↔
      (reply.row.taskId = taskId → reply.status = "sent" →
        Running taskId db ∧ reply.row.startedAt.isSome = true) := by
  have hrunning : Running taskId (commitReply db reply now) ↔ Running taskId db := Iff.rfl
  unfold Settled
  rw [hrunning]
  apply Iff.intro
  · intro hafter hof hsent
    have hmem : reply.assigned now ∈ (commitReply db reply now).resultsOf taskId :=
      (mem_resultsOf_commitReply hrow).mpr (.inr ⟨rfl, hof⟩)
    rcases hafter with hnone | ⟨hrun, hstarted⟩
    · exact absurd hsent (hnone _ hmem)
    · exact ⟨hrun, hstarted (reply.assigned now) hmem hsent⟩
  · intro hguard
    by_cases hsays : reply.row.taskId = taskId ∧ reply.status = "sent"
    · obtain ⟨hrun, hstarted⟩ := hguard hsays.1 hsays.2
      refine .inr ⟨hrun, fun r hr hsent => ?_⟩
      rcases (mem_resultsOf_commitReply hrow).mp hr with ⟨hr, _⟩ | ⟨rfl, _⟩
      · rcases hsettled with hnone | ⟨_, hall⟩
        · exact absurd hsent (hnone r hr)
        · exact hall r hr hsent
      · exact hstarted
    -- the replied row is not sent any more, and the others are as they were
    · have hother : ∀ r ∈ (commitReply db reply now).resultsOf taskId, r.status = "sent" →
          r ∈ db.resultsOf taskId := by
        intro r hr hsent
        rcases (mem_resultsOf_commitReply hrow).mp hr with ⟨hr, _⟩ | ⟨rfl, hof⟩
        · exact hr
        · exact absurd ⟨hof, hsent⟩ hsays
      rcases hsettled with hnone | ⟨hrun, hall⟩
      · exact .inl fun r hr hsent => hnone r (hother r hr hsent) hsent
      · exact .inr ⟨hrun, fun r hr hsent => hall r (hother r hr hsent) hsent⟩

theorem running_setTaskStatus_of_ne {other : String} {status : TaskStatus} (h : taskId ≠ other) :
    Running taskId (setTaskStatus db other status) ↔ Running taskId db := by
  unfold Running setTaskStatus
  dsimp only
  rw [Table.find?_updateKey_of_ne h]

/-- The synchronisation ends a task only when none of its results is sent. -/
theorem syncParentTask_settled_iff (other : String) :
    Settled taskId (syncParentTask db other) ↔ Settled taskId db := by
  have hresults : (syncParentTask db other).resultsOf taskId = db.resultsOf taskId := by
    rw [Database.resultsOf, syncParentTask_results, Database.resultsOf]
  cases hverdict : syncVerdict ((db.resultsOf other).map TaskResult.status) with
  | none => rw [syncParentTask, hverdict]
  | some final =>
      by_cases hthis : taskId = other
      · subst hthis
        have hnone : NoneSent (db.resultsOf taskId) := by
          intro r hr hsent
          have hterm := (syncVerdict_eq_some hverdict).2 r.status (List.mem_map_of_mem hr)
          rw [hsent] at hterm
          exact absurd hterm (by decide)
        refine iff_of_true (.inl ?_) (.inl hnone)
        rw [hresults]
        exact hnone
      · unfold Settled
        rw [hresults, syncParentTask, hverdict]
        dsimp only
        rw [running_setTaskStatus_of_ne hthis]

theorem isUpgrade_setTaskStatus {other : String} {status : TaskStatus}
    (h : IsUpgrade taskId db) : IsUpgrade taskId (setTaskStatus db other status) := by
  obtain ⟨task, htask, htype⟩ := h
  unfold IsUpgrade setTaskStatus
  dsimp only
  rw [Table.find?_updateKey, Option.mem_def.mp htask]
  split
  · exact ⟨_, rfl, htype⟩
  · exact ⟨task, rfl, htype⟩

theorem isUpgrade_syncParentTask {other : String} (h : IsUpgrade taskId db) :
    IsUpgrade taskId (syncParentTask db other) := by
  unfold syncParentTask
  split
  · exact h
  · exact isUpgrade_setTaskStatus h

variable {rt : Runtime} {deviceId data : String} {broadcastOk : Bool}

theorem receive_settled_iff (hinv : Inv taskId db) :
    Settled taskId (handleFrame rt db deviceId data now broadcastOk).1 ↔
      ∀ reply, readReply rt db.results data = .ok (some reply) → reply.row.taskId = taskId →
        reply.status = "sent" → Running taskId db ∧ reply.row.startedAt.isSome = true := by
  have hcase := handleFrame_outcome rt db deviceId data now broadcastOk
  generalize handleFrame rt db deviceId data now broadcastOk = outcome at hcase
  cases hcase with
  | rejected e hread =>
      refine iff_of_true hinv.settled fun reply hreply => ?_
      rw [hread] at hreply
      cases hreply
  | unnamed hread =>
      refine iff_of_true hinv.settled fun reply hreply => ?_
      rw [hread] at hreply
      cases hreply
  | unsynced reply hread e hsysinfo =>
      rw [commitReply_settled_iff (readReply_mem hread) hinv.settled, hread]
      simp
  | stored reply hread devices hsysinfo =>
      rw [syncParentTask_settled_iff]
      -- the devices are no part of what is settled
      have hdevices : Settled taskId { commitReply db reply now with devices := devices } ↔
          Settled taskId (commitReply db reply now) := Iff.rfl
      rw [hdevices, commitReply_settled_iff (readReply_mem hread) hinv.settled, hread]
      simp

theorem receive_isUpgrade (h : IsUpgrade taskId db) :
    IsUpgrade taskId (handleFrame rt db deviceId data now broadcastOk).1 := by
  have hcase := handleFrame_outcome rt db deviceId data now broadcastOk
  generalize handleFrame rt db deviceId data now broadcastOk = outcome at hcase
  cases hcase with
  | rejected => exact h
  | unnamed => exact h
  | unsynced => exact h
  | stored => exact isUpgrade_syncParentTask h

end Replies

/-! ## Whole runs -/

theorem step_iff {rt : Runtime} {taskId : String} {s s' : State} {e : Event}
    (h : step rt taskId s e = some s') (hinv : Inv taskId s.db) :
    Complete taskId s' ↔ EndsTogether rt taskId s e s' := by
  rw [step_eq_some h]
  cases e with
  | poll now => exact (complete_iff (poll_isUpgrade hinv.upgrade)).trans (poll_settled_iff hinv)
  | receive deviceId data now broadcastOk =>
      exact (complete_iff (receive_isUpgrade hinv.upgrade)).trans (receive_settled_iff hinv)

theorem step_inv {rt : Runtime} {taskId : String} {s s' : State} {e : Event}
    (h : step rt taskId s e = some s') (hinv : Inv taskId s.db)
    (htogether : EndsTogether rt taskId s e s') : Inv taskId s'.db := by
  have hupgrade : IsUpgrade taskId s'.db := by
    rw [step_eq_some h]
    cases e with
    | poll now => exact poll_isUpgrade hinv.upgrade
    | receive deviceId data now broadcastOk => exact receive_isUpgrade hinv.upgrade
  exact ⟨hupgrade, (complete_iff hupgrade).mp ((step_iff h hinv).mpr htogether)⟩

/-- What `create_task` leaves: the results that were sent have a start, and the task is running if
there are any. -/
theorem inv_start {db : Database} {payload : TaskCreate} {draw : TaskDraw} {task : Task}
    (hparents : Terminal.Parents db) (hanswer : (createTask db payload draw).2 = .ok task)
    (htype : task.taskType = .upgrade) : Inv task.id (createTask db payload draw).1 := by
  rcases createTask_created db payload draw with ⟨_, e, herror⟩ | ⟨task', htask, _, hcreated⟩
  · rw [hanswer] at herror
    cases herror
  · rw [hanswer] at htask
    cases htask
    have hfound : (createTask db payload draw).1.tasks.find? task.id = some task :=
      Table.find?_key ((hcreated.mem_tasks task).mpr (.inr rfl))
    have hnew : ∀ r ∈ (createTask db payload draw).1.resultsOf task.id, r ∉ db.results := by
      intro r hr hold
      -- the id of the task is new, so no older result is one of it
      obtain ⟨t, ht, hid⟩ := hparents r hold
      exact hcreated.fresh t ht (hid.trans (Database.mem_resultsOf.mp hr).2)
    refine ⟨⟨task, hfound, htype⟩, ?_⟩
    by_cases hnone : NoneSent ((createTask db payload draw).1.resultsOf task.id)
    · exact .inl hnone
    · unfold NoneSent at hnone
      push Not at hnone
      obtain ⟨r, hr, hsent⟩ := hnone
      have hrunning : task.status = .running := by
        rcases hcreated.origin r (Database.mem_resultsOf.mp hr).1 with hold | ⟨_, hfailed | hrun⟩
        · exact absurd hold (hnew r hr)
        · rw [hsent] at hfailed
          exact absurd hfailed (by decide)
        · exact hrun.2
      refine .inr ⟨⟨task, hfound, hrunning⟩, fun r hr hsent => ?_⟩
      rcases createTask_started (Database.mem_resultsOf.mp hr).1 hsent with hold | hstarted
      · exact absurd hold (hnew r hr)
      · exact hstarted

/-- **The time-out is complete** in exactly the runs whose polls end the running task with all its
results at once, and whose replies say `sent` of no result that no poll would end. -/
theorem timeouts_complete_iff {settings : Settings} {requests : List Request} {db : Database}
    {payload : TaskCreate} {draw : TaskDraw} {task : Task}
    (hreached : exec (serve settings) .empty requests = some db)
    (hanswer : (createTask db payload draw).2 = .ok task) (htype : task.taskType = .upgrade)
    (now : DateTime) (events : List Event) :
    (Complete task.id ⟨now, (createTask db payload draw).1⟩ ∧
      Along (step settings.runtime task.id) (fun _ _ s' => Complete task.id s')
        ⟨now, (createTask db payload draw).1⟩ events) ↔
      Along (step settings.runtime task.id) (EndsTogether settings.runtime task.id)
        ⟨now, (createTask db payload draw).1⟩ events := by
  have hinv := inv_start (Terminal.parents_reached hreached) hanswer htype
  have hiff : ∀ s e s', step settings.runtime task.id s e = some s' → Inv task.id s.db →
      (Complete task.id s' ↔ EndsTogether settings.runtime task.id s e s') :=
    fun _ _ _ h hinv => step_iff h hinv
  have hkeep : ∀ s e s', step settings.runtime task.id s e = some s' → Inv task.id s.db →
      EndsTogether settings.runtime task.id s e s' → Inv task.id s'.db :=
    fun _ _ _ h hinv htogether => step_inv h hinv htogether
  have hrun : Along (step settings.runtime task.id) (fun _ _ s' => Complete task.id s')
      ⟨now, (createTask db payload draw).1⟩ events ↔
        Along (step settings.runtime task.id) (EndsTogether settings.runtime task.id)
          ⟨now, (createTask db payload draw).1⟩ events := along_iff hiff hkeep hinv
  rw [hrun]
  exact and_iff_right ((complete_iff hinv.upgrade).mpr hinv.settled)

/-! ### Two devices, the second one reached later -/

/-- Two devices are created. -/
def twoCreated : List Request :=
  [.createDevice {} issuedDraw,
    .createDevice {} { issuedDraw with id := issuedDraw.token, token := issuedDraw.id }]

def twoDevices : Database :=
  (exec (serve exampleSettings) .empty twoCreated).getD .empty

def bothUpgrade : TaskCreate := ⟨"upgrade", [issuedDraw.id.val, issuedDraw.token.val]⟩

/-- The second command waits for its turn for 200 seconds. -/
def throttled : TaskDraw where
  maxVariables := 32766
  now := 0
  id := sentDraw.id
  resultId := fun i => if i = 0 then firstUuid else secondUuid
  sent := fun _ => true
  returned := fun i => if i = 0 then 0 else seconds 200

def upgradeTask : Task := ⟨sentDraw.id.val, .upgrade, .running, 0⟩

theorem timeouts_complete_once :
    Complete upgradeTask.id ⟨0, (createTask twoDevices bothUpgrade throttled).1⟩ ∧
      Along (step exampleSettings.runtime upgradeTask.id)
        (fun _ _ s' => Complete upgradeTask.id s')
        ⟨0, (createTask twoDevices bothUpgrade throttled).1⟩ [.poll (seconds 1000)] := by
  have hreached : exec (serve exampleSettings) .empty twoCreated = some twoDevices := rfl
  have hanswer : (createTask twoDevices bothUpgrade throttled).2 = .ok upgradeTask := rfl
  rw [timeouts_complete_iff hreached hanswer rfl, along_cons]
  intro s' _
  have htogether : ∀ r ∈ (createTask twoDevices bothUpgrade throttled).1.resultsOf upgradeTask.id,
      r.status = "sent" → timedOut (seconds 1000) r = true := by decide
  exact ⟨fun _ _ => htogether, along_nil _ _⟩

/-- Both results have expired when the task is polled for the second time, and one is left sent. -/
theorem second_left_sent :
    (createTask twoDevices bothUpgrade throttled).2 = .ok upgradeTask ∧
      AllExpired (seconds 1000) ((getTask (createTask twoDevices bothUpgrade throttled).1
        upgradeTask.id (seconds 400)).1.resultsOf upgradeTask.id) ∧
      ¬NoneSent ((getTask (getTask (createTask twoDevices bothUpgrade throttled).1
        upgradeTask.id (seconds 400)).1 upgradeTask.id (seconds 1000)).1.resultsOf
          upgradeTask.id) := by
  decide

end LanAgent.UpgradeTimeouts
