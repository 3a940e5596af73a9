import LanAgent.Dispatch
import LanAgent.Terminal
import LanAgent.WholeFrames

/-!
# The parent task — `_sync_parent_task` under interleaved replies

After `create_task` has returned, the agents that were sent a command reply, each once and in any
order.  A handler commits its own result, stores the hardware information a success may carry, reads
all results of the task and writes the task, and other handlers run in between.  `Follows` is what
the task's status should say whenever no handler is at work; `parent_follows_iff` says which runs
keep it.
-/

namespace LanAgent.ParentTask

open Library Library.Runs

/-! ## The system -/

/-- Where the handler of the reply to a command is. -/
inductive Stage where
  | waiting
  | fetched (deviceId : String) (reply : Reply)
  /-- The reply is committed; `row` is what the session holds of it. -/
  | stored (deviceId : String) (reply : Reply) (row : TaskResult)
  /-- The hardware information is stored, or there is none. -/
  | informed (row : TaskResult)
  | judged (verdict : TaskStatus)
  | finished
  deriving DecidableEq, Repr

def Stage.midway : Stage → Bool
  | .waiting => false
  | .finished => false
  | _ => true

structure State where
  db : Database
  /-- The stage of each command, by its id. -/
  stages : String → Stage

/-- `create_task` has returned, and no agent has replied. -/
def start (db : Database) : State := ⟨db, fun _ => .waiting⟩

inductive Event where
  /-- A frame arrives on the socket of the device, and its handler loads the row it names. -/
  | receive (deviceId data : String)
  | storeReply (commandId : String) (now : DateTime)
  | storeSysinfo (commandId : String) (now : DateTime)
  | readSiblings (commandId : String)
  | writeParent (commandId : String)

def State.setStage (s : State) (commandId : String) (stage : Stage) : State :=
  { s with stages := Function.update s.stages commandId stage }

/-- The first reply to a command of the task that was sent, from its own device. -/
def FirstReply (taskId : String) (s : State) (deviceId : String) (reply : Reply) : Prop :=
  reply.row.taskId = taskId ∧ reply.row.deviceId = deviceId ∧ reply.row.status = "sent" ∧
    s.stages reply.row.id = .waiting ∧ (reply.status = "success" ∨ reply.status = "failed")

instance (taskId : String) (s : State) (deviceId : String) (reply : Reply) :
    Decidable (FirstReply taskId s deviceId reply) :=
  inferInstanceAs (Decidable (_ ∧ _))

def step (rt : Runtime) (taskId : String) (s : State) : Event → Option State
  | .receive deviceId data =>
      match readReply rt s.db.results data with
      | .ok (some reply) =>
          if FirstReply taskId s deviceId reply then
            some (s.setStage reply.row.id (.fetched deviceId reply))
          else none
      | _ => none
  | .storeReply commandId now =>
      match s.stages commandId with
      | .fetched deviceId reply =>
          some { s.setStage commandId (.stored deviceId reply (reply.assigned now)) with
            db := commitReply s.db reply now }
      | _ => none
  | .storeSysinfo commandId now =>
      match s.stages commandId with
      | .stored deviceId reply row =>
          match storeReplySysinfo rt s.db.devices deviceId reply now with
          -- the exception ends the handler, and the socket with it
          | .error _ => some (s.setStage commandId .finished)
          | .ok devices =>
              some { s.setStage commandId (.informed row) with
                db := { s.db with devices := devices } }
      | _ => none
  | .readSiblings commandId =>
      match s.stages commandId with
      | .informed row =>
          match syncVerdict (Dispatch.siblingStatuses s.db row) with
          | none => some (s.setStage commandId .finished)
          | some verdict => some (s.setStage commandId (.judged verdict))
      | _ => none
  | .writeParent commandId =>
      match s.stages commandId with
      | .judged verdict =>
          some { s.setStage commandId .finished with db := setTaskStatus s.db taskId verdict }
      | _ => none

/-! ## What the task's status says -/

def AllEnded (results : List TaskResult) : Prop := ∀ r ∈ results, r.status ∈ terminalStatuses

instance (results : List TaskResult) : Decidable (AllEnded results) :=
  inferInstanceAs (Decidable (∀ r ∈ results, _))

/-- The status that the results of a task call for. -/
def calledFor (results : List TaskResult) : TaskStatus :=
  if ¬AllEnded results then .running
  else if ∀ r ∈ results, r.status = "success" then .completed
  else .failed

def parentStatus (taskId : String) (s : State) : Option TaskStatus :=
  (s.db.tasks.find? taskId).map Task.status

/-- No reply to a command of the task is being handled. -/
def Quiet (taskId : String) (s : State) : Prop :=
  ∀ r ∈ s.db.resultsOf taskId, (s.stages r.id).midway = false

/-- Whenever no handler is at work, the task has the status its results call for. -/
def Follows (taskId : String) (s : State) : Prop :=
  Quiet taskId s → parentStatus taskId s = some (calledFor (s.db.resultsOf taskId))

instance (taskId : String) (s : State) : Decidable (Quiet taskId s) :=
  inferInstanceAs (Decidable (∀ r ∈ s.db.resultsOf taskId, _))

instance (taskId : String) (s : State) : Decidable (Follows taskId s) :=
  inferInstanceAs (Decidable (_ → _))

/-- A handler whose hardware information is refused leaves a result that has not ended, or another
handler at work, or a task that has its final status. -/
def NotTheLast (rt : Runtime) (taskId : String) (s : State) : Event → State → Prop
  | .storeSysinfo commandId now, _ =>
      ∀ deviceId reply row, s.stages commandId = .stored deviceId reply row →
        (∃ e, storeReplySysinfo rt s.db.devices deviceId reply now = .error e) →
          ¬AllEnded (s.db.resultsOf taskId) ∨
            (∃ r ∈ s.db.resultsOf taskId, r.id ≠ commandId ∧ (s.stages r.id).midway = true) ∨
            parentStatus taskId s ≠ some .running
  | _, _ => True

/-! ## The invariant -/

def Reported (status : String) : Prop := status = "success" ∨ status = "failed"

/-- What a row holds while its reply is at the stage. -/
def RowOk (r : TaskResult) : Stage → Prop
  -- the command was not transmitted, or its agent has not replied
  | .waiting => r.status = "failed" ∨ r.status = "sent"
  | .fetched _ reply => reply.row = r ∧ r.status = "sent" ∧ Reported reply.status
  | .stored _ _ row => row = r ∧ Reported r.status
  | .informed row => row = r ∧ Reported r.status
  | .judged _ => Reported r.status
  | .finished => Reported r.status

theorem RowOk.status {r : TaskResult} {stage : Stage} (h : RowOk r stage) :
    r.status = "sent" ∨ Reported r.status := by
  cases stage with
  | waiting => exact h.elim (fun hfailed => .inr (.inr hfailed)) .inl
  | fetched deviceId reply => exact .inl h.2.1
  | stored deviceId reply row => exact .inr h.2
  | informed row => exact .inr h.2
  | judged verdict => exact .inr h
  | finished => exact .inr h

structure Inv (taskId : String) (s : State) : Prop where
  rows : ∀ r ∈ s.db.resultsOf taskId, RowOk r (s.stages r.id)
  nonempty : s.db.resultsOf taskId ≠ []
  owner : ∀ c, s.stages c ≠ .waiting → ∃ r ∈ s.db.resultsOf taskId, r.id = c
  /-- A verdict is reached from results that have all ended, which change no more. -/
  verdict : ∀ c v, s.stages c = .judged v →
    AllEnded (s.db.resultsOf taskId) ∧ v = calledFor (s.db.resultsOf taskId)
  parent : parentStatus taskId s = some .running ∨
    (AllEnded (s.db.resultsOf taskId) ∧
      parentStatus taskId s = some (calledFor (s.db.resultsOf taskId)))
  /-- While the task is still running, some handler is yet to see that all results have ended. -/
  last : AllEnded (s.db.resultsOf taskId) → parentStatus taskId s = some .running →
    ∃ c, (s.stages c).midway = true

theorem calledFor_of_not {results : List TaskResult} (h : ¬AllEnded results) :
    calledFor results = .running := if_pos h

theorem calledFor_of_all {results : List TaskResult} (h : AllEnded results) :
    calledFor results ≠ .running := by
  unfold calledFor
  rw [if_neg (not_not.mpr h)]
  split <;> decide

theorem Inv.follows {taskId : String} {s : State} (hinv : Inv taskId s) : Follows taskId s := by
  intro hquiet
  rcases hinv.parent with hrunning | ⟨_, hparent⟩
  · by_cases hall : AllEnded (s.db.resultsOf taskId)
    -- the handler that would still write the task is at work
    · obtain ⟨c, hmidway⟩ := hinv.last hall hrunning
      have hstarted : s.stages c ≠ .waiting := by
        intro hwaiting
        rw [hwaiting] at hmidway
        cases hmidway
      obtain ⟨r, hr, rfl⟩ := hinv.owner c hstarted
      rw [hquiet r hr] at hmidway
      cases hmidway
    · rw [calledFor_of_not hall]
      exact hrunning
  · exact hparent

/-! ## What a handler reads -/

theorem siblingStatuses_of_mem {db : Database} {row : TaskResult} (hrow : row ∈ db.results) :
    Dispatch.siblingStatuses db row = (db.resultsOf row.taskId).map TaskResult.status := by
  apply List.map_congr_left
  intro r hr
  by_cases hid : r.id = row.id
  · rw [if_pos hid, db.results.eq_of_key_eq (Database.mem_resultsOf.mp hr).1 hrow hid]
  · rw [if_neg hid]

/-- **The verdict** is there when all results have ended, and is the status they call for. -/
theorem syncVerdict_eq {results : List TaskResult} (hnonempty : results ≠ [])
    (hstatus : ∀ r ∈ results, r.status = "sent" ∨ Reported r.status) :
    syncVerdict (results.map TaskResult.status) =
      if AllEnded results then some (calledFor results) else none := by
  have hends : (∀ s ∈ results.map TaskResult.status, s ∈ terminalStatuses) ↔ AllEnded results :=
    List.forall_mem_map
  have hsuccess : (∀ s ∈ results.map TaskResult.status, s = "success") ↔
      ∀ r ∈ results, r.status = "success" := List.forall_mem_map
  -- no agent reports `cancelled`
  have hcancelled : "cancelled" ∉ results.map TaskResult.status := by
    intro hmem
    obtain ⟨r, hr, heq⟩ := List.mem_map.mp hmem
    rcases hstatus r hr with h | h | h <;> rw [h] at heq <;> exact absurd heq (by decide)
  by_cases hall : AllEnded results
  · have hnil : results.map TaskResult.status ≠ [] := by simpa using hnonempty
    rw [if_pos hall, syncVerdict, if_neg hnil, if_neg (not_not.mpr (hends.mpr hall)), calledFor,
      if_neg (not_not.mpr hall)]
    by_cases hdone : ∀ r ∈ results, r.status = "success"
    · rw [if_pos (hsuccess.mpr hdone), if_pos hdone]
    · rw [if_neg (mt hsuccess.mp hdone), if_neg fun h => hcancelled h.1, if_neg hdone]
  · rw [if_neg hall]
    exact syncVerdict_eq_none_iff.mpr (.inr (mt hends.mp hall))

/-! ## One step -/

theorem resultsOf_congr {db db' : Database} (h : db'.results = db.results) (taskId : String) :
    db'.resultsOf taskId = db.resultsOf taskId := by
  rw [Database.resultsOf, Database.resultsOf, h]

section Steps

variable {rt : Runtime} {taskId : String} {s : State} (hinv : Inv taskId s)

include hinv

/-- A step of one handler that writes neither results nor tasks. -/
theorem Inv.setStage {commandId : String} {stage : Stage} {db : Database}
    (hresults : db.results = s.db.results) (htasks : db.tasks = s.db.tasks)
    (howner : ∃ r ∈ s.db.resultsOf taskId, r.id = commandId)
    (hrow : ∀ r ∈ s.db.resultsOf taskId, r.id = commandId → RowOk r stage)
    (hverdict : ∀ v, stage = .judged v →
      AllEnded (s.db.resultsOf taskId) ∧ v = calledFor (s.db.resultsOf taskId))
    (hlast : AllEnded (s.db.resultsOf taskId) → parentStatus taskId s = some .running →
      stage.midway = true ∨ ∃ c, c ≠ commandId ∧ (s.stages c).midway = true) :
    Inv taskId { s.setStage commandId stage with db := db } := by
  have hrows := resultsOf_congr hresults taskId
  have hparent : parentStatus taskId { s.setStage commandId stage with db := db } =
      parentStatus taskId s := by
    show (db.tasks.find? taskId).map Task.status = _
    rw [htasks, parentStatus]
  have hself : Function.update s.stages commandId stage commandId = stage :=
    Function.update_self commandId stage s.stages
  have hother : ∀ c, c ≠ commandId → Function.update s.stages commandId stage c = s.stages c :=
    fun c hc => Function.update_of_ne hc stage s.stages
  refine ⟨?_, ?_, ?_, ?_, ?_, ?_⟩
  · show ∀ r ∈ db.resultsOf taskId, RowOk r (Function.update s.stages commandId stage r.id)
    rw [hrows]
    intro r hr
    by_cases hid : r.id = commandId
    · rw [hid, hself]
      exact hrow r hr hid
    · rw [hother r.id hid]
      exact hinv.rows r hr
  · show db.resultsOf taskId ≠ []
    rw [hrows]
    exact hinv.nonempty
  · intro c hc
    show ∃ r ∈ db.resultsOf taskId, r.id = c
    rw [hrows]
    by_cases hid : c = commandId
    · rw [hid]
      exact howner
    · exact hinv.owner c (by rwa [← hother c hid])
  · intro c v hc
    show AllEnded (db.resultsOf taskId) ∧ v = calledFor (db.resultsOf taskId)
    rw [hrows]
    by_cases hid : c = commandId
    · rw [hid] at hc
      exact hverdict v (hself.symm.trans hc)
    · exact hinv.verdict c v (by rwa [← hother c hid])
  · rw [hparent]
    show _ ∨ AllEnded (db.resultsOf taskId) ∧ _ = some (calledFor (db.resultsOf taskId))
    rw [hrows]
    exact hinv.parent
  · rw [hparent]
    show AllEnded (db.resultsOf taskId) → _
    rw [hrows]
    intro hall hrunning
    rcases hlast hall hrunning with hmidway | ⟨c, hc, hmidway⟩
    · exact ⟨commandId, (congrArg Stage.midway hself).trans hmidway⟩
    · exact ⟨c, (congrArg Stage.midway (hother c hc)).trans hmidway⟩

/-- The row whose reply is being handled. -/
theorem Inv.row_of_stage {commandId : String} {stage : Stage} (hstage : s.stages commandId = stage)
    (hstarted : stage ≠ .waiting) :
    ∃ r ∈ s.db.resultsOf taskId, r.id = commandId ∧ RowOk r stage := by
  obtain ⟨r, hr, hid⟩ := hinv.owner commandId (by rwa [hstage])
  have hrow := hinv.rows r hr
  rw [hid, hstage] at hrow
  exact ⟨r, hr, hid, hrow⟩

theorem Inv.receive {deviceId : String} {reply : Reply} (hmem : reply.row ∈ s.db.results)
    (hfirst : FirstReply taskId s deviceId reply) :
    Inv taskId (s.setStage reply.row.id (.fetched deviceId reply)) := by
  have hrow : reply.row ∈ s.db.resultsOf taskId := Database.mem_resultsOf.mpr ⟨hmem, hfirst.1⟩
  refine hinv.setStage rfl rfl ⟨reply.row, hrow, rfl⟩ ?_ (fun v h => by cases h)
    fun _ _ => .inl rfl
  intro r hr hid
  have hsame := s.db.results.eq_of_key_eq hmem (Database.mem_resultsOf.mp hr).1 hid.symm
  exact ⟨hsame, hsame ▸ hfirst.2.2.1, hfirst.2.2.2.2⟩

/-- **The commit of a reply.**  The row was the last that had not ended, or another one is left. -/
theorem Inv.storeReply {commandId deviceId : String} {reply : Reply} (now : DateTime)
    (hstage : s.stages commandId = .fetched deviceId reply) :
    Inv taskId { s.setStage commandId (.stored deviceId reply (reply.assigned now)) with
      db := commitReply s.db reply now } := by
  obtain ⟨r, hr, rfl, hsame, hsent, hreported⟩ := hinv.row_of_stage hstage (by simp)
  subst hsame
  obtain ⟨hmem, htask⟩ := Database.mem_resultsOf.mp hr
  have hself := Function.update_self reply.row.id
    (Stage.stored deviceId reply (reply.assigned now)) s.stages
  have hother : ∀ c, c ≠ reply.row.id → Function.update s.stages reply.row.id
      (.stored deviceId reply (reply.assigned now)) c = s.stages c :=
    fun c hc => Function.update_of_ne hc _ s.stages
  have hrows : ∀ r', r' ∈ (commitReply s.db reply now).resultsOf taskId ↔
      (r' ∈ s.db.resultsOf taskId ∧ r'.id ≠ reply.row.id) ∨ r' = reply.assigned now := by
    intro r'
    rw [Database.mem_resultsOf, mem_commitReply hmem, Database.mem_resultsOf]
    apply Iff.intro
    · intro h
      rcases h with ⟨⟨hr', hid⟩ | hr', htask'⟩
      · exact .inl ⟨⟨hr', htask'⟩, hid⟩
      · exact .inr hr'
    · intro h
      rcases h with ⟨⟨hr', htask'⟩, hid⟩ | rfl
      · exact ⟨.inl ⟨hr', hid⟩, htask'⟩
      · exact ⟨.inr rfl, htask⟩
  -- before the commit this row had not ended
  have hopen : ¬AllEnded (s.db.resultsOf taskId) := by
    intro hall
    have hended := hall reply.row hr
    rw [hsent] at hended
    exact absurd hended (by decide)
  refine ⟨?_, ?_, ?_, ?_, .inl ?_, ?_⟩
  · intro r' hr'
    rcases (hrows r').mp hr' with ⟨hr', hid⟩ | rfl
    · show RowOk r' (Function.update s.stages reply.row.id _ r'.id)
      rw [hother r'.id hid]
      exact hinv.rows r' hr'
    · show RowOk _ (Function.update s.stages reply.row.id _ reply.row.id)
      rw [hself]
      exact ⟨rfl, hreported⟩
  · exact List.ne_nil_of_mem ((hrows _).mpr (.inr rfl))
  · intro c hc
    by_cases hid : c = reply.row.id
    · exact ⟨reply.assigned now, (hrows _).mpr (.inr rfl), hid.symm⟩
    · obtain ⟨r', hr', hid'⟩ := hinv.owner c (by rwa [← hother c hid])
      exact ⟨r', (hrows r').mpr (.inl ⟨hr', by rwa [hid']⟩), hid'⟩
  · intro c v hc
    by_cases hid : c = reply.row.id
    · rw [hid] at hc
      exact absurd (hself.symm.trans hc) (by simp)
    · exact absurd (hinv.verdict c v (by rwa [← hother c hid])).1 hopen
  · exact hinv.parent.resolve_right fun h => hopen h.1
  · exact fun _ _ => ⟨reply.row.id, congrArg Stage.midway hself⟩

theorem Inv.sysinfoStored {commandId deviceId : String} {reply : Reply} {row : TaskResult}
    (devices : Devices) (hstage : s.stages commandId = .stored deviceId reply row) :
    Inv taskId { s.setStage commandId (.informed row) with
      db := { s.db with devices := devices } } := by
  obtain ⟨r, hr, hid, hrow⟩ := hinv.row_of_stage hstage (by simp)
  refine hinv.setStage rfl rfl ⟨r, hr, hid⟩ ?_ (fun v h => by cases h) fun _ _ => .inl rfl
  intro r' hr' hid'
  rw [s.db.results.eq_of_key_eq (Database.mem_resultsOf.mp hr').1 (Database.mem_resultsOf.mp hr).1
    (hid'.trans hid.symm)]
  exact hrow

theorem Inv.sysinfoRefused {commandId deviceId : String} {reply : Reply} {row : TaskResult}
    (hstage : s.stages commandId = .stored deviceId reply row)
    (hlast : ¬AllEnded (s.db.resultsOf taskId) ∨
      (∃ r ∈ s.db.resultsOf taskId, r.id ≠ commandId ∧ (s.stages r.id).midway = true) ∨
      parentStatus taskId s ≠ some .running) : Inv taskId (s.setStage commandId .finished) := by
  obtain ⟨r, hr, hid, hrow⟩ := hinv.row_of_stage hstage (by simp)
  refine hinv.setStage rfl rfl ⟨r, hr, hid⟩ ?_ (fun v h => by cases h) ?_
  · intro r' hr' hid'
    have hsame := s.db.results.eq_of_key_eq (Database.mem_resultsOf.mp hr').1
      (Database.mem_resultsOf.mp hr).1 (hid'.trans hid.symm)
    exact hsame ▸ hrow.2
  · intro hall hrunning
    rcases hlast with hopen | ⟨r', _, hne, hmidway⟩ | hfinal
    · exact absurd hall hopen
    · exact .inr ⟨r'.id, hne, hmidway⟩
    · exact absurd hrunning hfinal

/-- **The siblings**, read when the own result has been committed. -/
theorem Inv.readSiblings {commandId : String} {row : TaskResult} {stage : Stage}
    (hstage : s.stages commandId = .informed row)
    (hnext : stage = match syncVerdict (Dispatch.siblingStatuses s.db row) with
      | none => .finished
      | some verdict => .judged verdict) : Inv taskId (s.setStage commandId stage) := by
  obtain ⟨r, hr, hid, rfl, hreported⟩ := hinv.row_of_stage hstage (by simp)
  obtain ⟨hmem, htask⟩ := Database.mem_resultsOf.mp hr
  rw [siblingStatuses_of_mem hmem, htask,
    syncVerdict_eq hinv.nonempty fun r' hr' => (hinv.rows r' hr').status] at hnext
  have hsame : ∀ r' ∈ s.db.resultsOf taskId, r'.id = commandId → r' = row := fun r' hr' hid' =>
    s.db.results.eq_of_key_eq (Database.mem_resultsOf.mp hr').1 hmem (hid'.trans hid.symm)
  by_cases hall : AllEnded (s.db.resultsOf taskId)
  · rw [if_pos hall] at hnext
    refine hinv.setStage rfl rfl ⟨row, hr, hid⟩ ?_ ?_ ?_
    · intro r' hr' hid'
      rw [hsame r' hr' hid', hnext]
      exact hreported
    · intro v hv
      rw [hnext] at hv
      exact ⟨hall, (Stage.judged.inj hv).symm⟩
    · intro _ _
      rw [hnext]
      exact .inl rfl
  -- another reply is still to come, and its handler will look again
  · rw [if_neg hall] at hnext
    refine hinv.setStage rfl rfl ⟨row, hr, hid⟩ ?_ ?_ fun h => absurd h hall
    · intro r' hr' hid'
      rw [hsame r' hr' hid', hnext]
      exact hreported
    · intro v hv
      rw [hnext] at hv
      cases hv

theorem Inv.writeParent {commandId : String} {verdict : TaskStatus}
    (hstage : s.stages commandId = .judged verdict) :
    Inv taskId { s.setStage commandId .finished with db := setTaskStatus s.db taskId verdict } := by
  obtain ⟨r, hr, hid, hreported⟩ := hinv.row_of_stage hstage (by simp)
  obtain ⟨hall, hverdict⟩ := hinv.verdict commandId verdict hstage
  have hself := Function.update_self commandId Stage.finished s.stages
  have hother : ∀ c, c ≠ commandId →
      Function.update s.stages commandId .finished c = s.stages c :=
    fun c hc => Function.update_of_ne hc _ s.stages
  have hparent : parentStatus taskId
      { s.setStage commandId .finished with db := setTaskStatus s.db taskId verdict } =
        some (calledFor (s.db.resultsOf taskId)) := by
    have hsome : ∃ t, s.db.tasks.find? taskId = some t := by
      rcases hinv.parent with h | ⟨_, h⟩ <;>
        · obtain ⟨t, ht, _⟩ := Option.map_eq_some_iff.mp h
          exact ⟨t, ht⟩
    obtain ⟨t, ht⟩ := hsome
    show ((s.db.tasks.updateKey taskId _).find? taskId).map Task.status = _
    rw [Table.find?_updateKey_self, ht, ← hverdict]
    rfl
  refine ⟨?_, hinv.nonempty, ?_, ?_, .inr ⟨hall, hparent⟩, ?_⟩
  · intro r' hr'
    show RowOk r' (Function.update s.stages commandId .finished r'.id)
    by_cases hid' : r'.id = commandId
    · rw [hid', hself, s.db.results.eq_of_key_eq (Database.mem_resultsOf.mp hr').1
        (Database.mem_resultsOf.mp hr).1 (hid'.trans hid.symm)]
      exact hreported
    · rw [hother r'.id hid']
      exact hinv.rows r' hr'
  · intro c hc
    by_cases hid' : c = commandId
    · exact ⟨r, hr, hid.trans hid'.symm⟩
    · exact hinv.owner c (by rwa [← hother c hid'])
  · intro c v hc
    by_cases hid' : c = commandId
    · rw [hid'] at hc
      exact absurd (hself.symm.trans hc) (by simp)
    · exact hinv.verdict c v (by rwa [← hother c hid'])
  · intro _ hrunning
    rw [hparent, Option.some.injEq] at hrunning
    exact absurd hrunning (calledFor_of_all hall)

end Steps

/-- Steps that leave somebody to write the task keep the invariant. -/
theorem step_inv {rt : Runtime} {taskId : String} {s s' : State} {e : Event}
    (h : step rt taskId s e = some s') (hinv : Inv taskId s) (hlast : NotTheLast rt taskId s e s') :
    Inv taskId s' := by
  cases e with
  | receive deviceId data =>
      simp only [step] at h
      split at h
      · rename_i reply hread
        split at h
        · rename_i hfirst
          cases h
          exact hinv.receive (readReply_mem hread) hfirst
        · cases h
      · cases h
  | storeReply commandId now =>
      simp only [step] at h
      split at h
      · rename_i deviceId reply hstage
        cases h
        exact hinv.storeReply now hstage
      · cases h
  | storeSysinfo commandId now =>
      simp only [step] at h
      split at h
      · rename_i deviceId reply row hstage
        split at h
        · rename_i e herror
          cases h
          exact hinv.sysinfoRefused hstage (hlast deviceId reply row hstage ⟨e, herror⟩)
        · rename_i devices _
          cases h
          exact hinv.sysinfoStored devices hstage
      · cases h
  | readSiblings commandId =>
      simp only [step] at h
      split at h
      · rename_i row hstage
        split at h
        · rename_i hverdict
          cases h
          exact hinv.readSiblings hstage (by rw [hverdict])
        · rename_i verdict hverdict
          cases h
          exact hinv.readSiblings hstage (by rw [hverdict])
      · cases h
  | writeParent commandId =>
      simp only [step] at h
      split at h
      · rename_i verdict hstage
        cases h
        exact hinv.writeParent hstage
      · cases h

/-- **One step** keeps the task in agreement with its results exactly when it leaves somebody to
write the task. -/
theorem step_iff {rt : Runtime} {taskId : String} {s s' : State} {e : Event}
    (h : step rt taskId s e = some s') (hinv : Inv taskId s) :
    Follows taskId s' ↔ NotTheLast rt taskId s e s' := by
  refine ⟨fun hfollows => ?_, fun hlast => (step_inv h hinv hlast).follows⟩
  cases e with
  | storeSysinfo commandId now =>
      intro deviceId reply row hstage hrefused
      obtain ⟨e, herror⟩ := hrefused
      simp only [step, hstage, herror] at h
      cases h
      by_cases hall : AllEnded (s.db.resultsOf taskId)
      · by_cases hmidway : ∃ r ∈ s.db.resultsOf taskId, r.id ≠ commandId ∧
            (s.stages r.id).midway = true
        · exact .inr (.inl hmidway)
        -- nobody is at work any more, so the task has its final status already
        · refine .inr (.inr fun hrunning => calledFor_of_all hall ?_)
          have hquiet : Quiet taskId (s.setStage commandId .finished) := by
            intro r hr
            show (Function.update s.stages commandId Stage.finished r.id).midway = false
            by_cases hid : r.id = commandId
            · rw [hid, Function.update_self]
              rfl
            · rw [Function.update_of_ne hid, ← Bool.not_eq_true]
              exact fun h => hmidway ⟨r, hr, hid, h⟩
          have hparent := hfollows hquiet
          exact Option.some.inj (hparent.symm.trans hrunning)
      · exact .inl hall
  | _ => exact trivial

/-! ## The creation -/

/-- When `create_task` has transmitted a command, the task is running and no agent has replied. -/
theorem inv_start {db : Database} {payload : TaskCreate} {draw : TaskDraw} {task : Task}
    (hparents : Terminal.Parents db) (hanswer : (createTask db payload draw).2 = .ok task)
    (hsent : ∃ r ∈ (createTask db payload draw).1.resultsOf task.id, r.status = "sent") :
    Inv task.id (start (createTask db payload draw).1) := by
  rcases createTask_created db payload draw with ⟨_, e, herror⟩ | ⟨task', htask, _, hcreated⟩
  · rw [hanswer] at herror
    cases herror
  · rw [hanswer] at htask
    cases htask
    -- the id of the task is new, so all its results are new
    have horigin : ∀ r ∈ (createTask db payload draw).1.resultsOf task.id,
        r.status = "failed" ∨ (r.status = "sent" ∧ task.status = .running) := by
      intro r hr
      obtain ⟨hmem, hof⟩ := Database.mem_resultsOf.mp hr
      rcases hcreated.origin r hmem with hold | ⟨_, hnew⟩
      · obtain ⟨t, ht, hid⟩ := hparents r hold
        exact absurd (hid.trans hof) (hcreated.fresh t ht)
      · exact hnew
    obtain ⟨r, hr, hstatus⟩ := hsent
    have hrunning : task.status = .running := by
      rcases horigin r hr with hfailed | ⟨_, hrunning⟩
      · rw [hstatus] at hfailed
        exact absurd hfailed (by decide)
      · exact hrunning
    have hparent : parentStatus task.id (start (createTask db payload draw).1) =
        some .running := by
      show ((createTask db payload draw).1.tasks.find? task.id).map Task.status = _
      rw [Table.find?_key ((hcreated.mem_tasks task).mpr (.inr rfl)), Option.map_some, hrunning]
    refine ⟨fun r hr => ?_, List.ne_nil_of_mem hr, fun c hc => absurd rfl hc,
      fun c v hc => ?_, .inl hparent, fun hall _ => ?_⟩
    · exact (horigin r hr).imp_right And.left
    · cases hc
    · have hended := hall r hr
      rw [hstatus] at hended
      exact absurd hended (by decide)

/-! ## Whole runs -/

/-- **The parent task follows its results** under exactly the interleavings in which no handler is
stopped by the hardware information of its reply as the last one that would have written the
task. -/
theorem parent_follows_iff {settings : Settings} {requests : List Request} {db : Database}
    {payload : TaskCreate} {draw : TaskDraw} {task : Task}
    (hreached : exec (serve settings) .empty requests = some db)
    (hanswer : (createTask db payload draw).2 = .ok task)
    (hsent : ∃ r ∈ (createTask db payload draw).1.resultsOf task.id, r.status = "sent")
    (events : List Event) :
    (Follows task.id (start (createTask db payload draw).1) ∧
      Along (step settings.runtime task.id) (fun _ _ s' => Follows task.id s')
        (start (createTask db payload draw).1) events) ↔
      Along (step settings.runtime task.id) (NotTheLast settings.runtime task.id)
        (start (createTask db payload draw).1) events := by
  have hinv := inv_start (Terminal.parents_reached hreached) hanswer hsent
  have hiff : ∀ s e s', step settings.runtime task.id s e = some s' → Inv task.id s →
      (Follows task.id s' ↔ NotTheLast settings.runtime task.id s e s') :=
    fun _ _ _ h hinv => step_iff h hinv
  have hkeep : ∀ s e s', step settings.runtime task.id s e = some s' → Inv task.id s →
      NotTheLast settings.runtime task.id s e s' → Inv task.id s' :=
    fun _ _ _ h hinv hlast => step_inv h hinv hlast
  rw [along_iff hiff hkeep hinv]
  exact and_iff_right hinv.follows

/-- One device, and a command that is sent to it. -/
def oneDevice : Database := handle exampleSettings .empty (.createDevice {} issuedDraw)

def oneCommand : TaskCreate := ⟨"shutdown", [issuedDraw.id.val]⟩

def shutdownTask : Task := ⟨sentDraw.id.val, .shutdown, .running, 1⟩

/-- The only agent reports success, and its handler runs to the end. -/
def handledReply : List Event :=
  [.receive issuedDraw.id.val answer, .storeReply (sentDraw.resultId 0).val 3,
    .storeSysinfo (sentDraw.resultId 0).val 4, .readSiblings (sentDraw.resultId 0).val,
    .writeParent (sentDraw.resultId 0).val]

theorem parent_follows_oneCommand :
    (exec (step exampleSettings.runtime shutdownTask.id)
        (start (createTask oneDevice oneCommand sentDraw).1) handledReply).map
          (parentStatus shutdownTask.id) = some (some .completed) ∧
      Along (step exampleSettings.runtime shutdownTask.id)
        (NotTheLast exampleSettings.runtime shutdownTask.id)
        (start (createTask oneDevice oneCommand sentDraw).1) handledReply := by
  have hreached : exec (serve exampleSettings) .empty [.createDevice {} issuedDraw] =
      some oneDevice := rfl
  have hanswer : (createTask oneDevice oneCommand sentDraw).2 = .ok shutdownTask := by
    rfl
  refine ⟨by decide +kernel, ?_⟩
  rw [← parent_follows_iff hreached hanswer (by decide +kernel) handledReply]
  decide +kernel

/-- The only agent reports success, and the commit of its hardware information fails. -/
def refusedLast : List Event :=
  [.receive issuedDraw.id.val WholeFrames.listedModel,
    .storeReply (sentDraw.resultId 0).val 3, .storeSysinfo (sentDraw.resultId 0).val 4]

/-- The task stays RUNNING, although its only result is a success and no handler is at work. -/
theorem parent_left_running :
    ¬Along (step exampleSettings.runtime shutdownTask.id)
      (fun _ _ s' => Follows shutdownTask.id s')
      (start (createTask oneDevice oneCommand sentDraw).1) refusedLast := by
  decide +kernel

end LanAgent.ParentTask
