import LanAgent.Library.Runs
import LanAgent.Server
import Mathlib.Logic.Function.Basic

/-!
# Dispatch and replies — `create_task` interleaved with the reply handlers

The steps of `create_task` between its await points, and those of the socket handlers that process
the agents' replies meanwhile.  Both sides work on rows they have loaded into their sessions: a
dispatch coroutine assigns `sent` or `failed` to its row in memory, and all these assignments are
written in one commit, when the slowest send has returned.

`RepliesHeld` is what the replies are owed.  `replies_held_iff` says which runs keep it, and
`exec_creation` that `createTask` is the run in which there are none.
-/

namespace LanAgent.Dispatch

open Library Library.Runs

/-! ## The system -/

/-- Where `create_task` is. -/
inductive Phase where
  | started
  | inserted
  | sending
  | dispatched
  | finished
  deriving DecidableEq, Repr

/-- Where the handler of a socket is with the reply it has received. -/
inductive Handler where
  | idle
  | fetched (reply : Reply)
  /-- The reply is committed; `row` is what the session holds of it. -/
  | stored (row : TaskResult)
  /-- The sibling results are read; the verdict is to be written to the parent. -/
  | judged (taskId : String) (verdict : TaskStatus)

structure State where
  db : Database
  phase : Phase
  /-- The rows whose `send_command` is suspended, each with a permit of the semaphore. -/
  inFlight : List String
  /-- The assignments of the coroutines that are done. -/
  outcomes : List Dispatched
  /-- Any number of sockets; several of them may have a reply for the same row. -/
  handlers : Nat → Handler
  /-- The statuses in the replies committed so far for each row, the latest first. -/
  reported : String → List String

/-- The server before the request, with no handler at work. -/
def start (db : Database) : State where
  db := db
  phase := .started
  inFlight := []
  outcomes := []
  handlers := fun _ => .idle
  reported := fun _ => []

structure Creation where
  taskType : TaskType
  deviceIds : List String
  draw : TaskDraw

def Creation.taskId (c : Creation) : String := c.draw.id.val

def Creation.rows (c : Creation) (devices : Devices) : List TaskResult :=
  newResults devices c.deviceIds c.draw

def reportedText (success : Bool) : String := if success then "success" else "failed"

/-- A coroutine assigns a reported status only where both mean failure. -/
theorem Dispatched.status_eq_reportedText {outcome : Dispatched} {success : Bool} :
    outcome.status = reportedText success ↔
      outcome.success = false ∧ reportedText success = reportedText false := by
  unfold Dispatched.status
  -- `sent` is no report, so only `failed` and `failed` agree
  cases outcome.success <;> cases success <;> decide

inductive Event where
  | commitPending
  | commitRunning
  | beginSend (row : String)
  | endSend (outcome : Dispatched)
  | commitOutcomes
  | commitSentCount
  /-- A reply for the row arrives at the socket `k`, and its handler loads the row. -/
  | receive (k : Nat) (row : String) (success : Bool) (output : String)
  | storeReply (k : Nat) (now : DateTime)
  | readSiblings (k : Nat)
  | writeParent (k : Nat)

/-- The step is one of `create_task`. -/
def Event.ofCreation : Event → Bool
  | .receive _ _ _ _ => false
  | .storeReply _ _ => false
  | .readSiblings _ => false
  | .writeParent _ => false
  | _ => true

def maxConcurrentTasks : Nat := 10

/-- The statuses of the results of the task, the own one as the session holds it. -/
def siblingStatuses (db : Database) (row : TaskResult) : List String :=
  (db.resultsOf row.taskId).map (fun r => if r.id = row.id then row.status else r.status)

def State.setHandler (s : State) (k : Nat) (handler : Handler) : State :=
  { s with handlers := Function.update s.handlers k handler }

theorem setHandler_self (s : State) (k : Nat) (handler : Handler) :
    (s.setHandler k handler).handlers k = handler := by
  simp [State.setHandler]

theorem setHandler_of_ne (s : State) {k k' : Nat} (h : k' ≠ k) (handler : Handler) :
    (s.setHandler k handler).handlers k' = s.handlers k' := by
  simp [State.setHandler, h]

/-- The state after the commit of the outcomes. -/
def State.commitOutcomes (s : State) : State :=
  { s with db := LanAgent.commitOutcomes s.db s.outcomes, phase := .dispatched }

/-- The state after the commit of a reply. -/
def State.storeReply (s : State) (k : Nat) (reply : Reply) (now : DateTime) : State :=
  { s.setHandler k (.stored (reply.assigned now)) with
    db := commitReply s.db reply now
    reported := Function.update s.reported reply.row.id
      (reply.status :: s.reported reply.row.id) }

def step (c : Creation) (s : State) : Event → Option State
  -- `session.add` of the task and of its results, and the first commit
  | .commitPending =>
      if s.phase = .started then
        (commitPending s.db (pendingTask c.taskId c.taskType c.draw.now)
          (c.rows s.db.devices)).map (fun db => { s with db := db, phase := .inserted })
      else none
  | .commitRunning =>
      if s.phase = .inserted then
        some { s with db := setTaskStatus s.db c.taskId .running, phase := .sending }
      else none
  -- one coroutine per row; `asyncio.gather` leaves open which of them runs next
  | .beginSend row =>
      if s.phase = .sending ∧ row ∈ (c.rows s.db.devices).map TaskResult.id ∧
          row ∉ s.inFlight ∧ row ∉ s.outcomes.map Dispatched.row ∧
          s.inFlight.length < maxConcurrentTasks then
        some { s with inFlight := row :: s.inFlight }
      else none
  | .endSend outcome =>
      if s.phase = .sending ∧ outcome.row ∈ s.inFlight then
        some { s with
          inFlight := s.inFlight.erase outcome.row
          outcomes := outcome :: s.outcomes }
      else none
  -- `gather` has returned: every coroutine has assigned its status to its row in memory
  | .commitOutcomes =>
      if s.phase = .sending ∧
          ∀ row ∈ (c.rows s.db.devices).map TaskResult.id, row ∈ s.outcomes.map Dispatched.row then
        some s.commitOutcomes
      else none
  | .commitSentCount =>
      if s.phase = .dispatched then
        some { s with db := commitSentCount s.db c.taskId s.outcomes, phase := .finished }
      else none
  -- the handler of the agent's socket loads the row into a session of its own
  | .receive k row success output =>
      match s.handlers k, s.db.results.find? row with
      | .idle, some r => some (s.setHandler k (.fetched ⟨r, reportedText success, some output⟩))
      | _, _ => none
  | .storeReply k now =>
      match s.handlers k with
      | .fetched reply => some (s.storeReply k reply now)
      | _ => none
  -- `_sync_parent_task`, up to the update of the parent
  | .readSiblings k =>
      match s.handlers k with
      | .stored r =>
          match syncVerdict (siblingStatuses s.db r) with
          | none => some (s.setHandler k .idle)
          | some verdict => some (s.setHandler k (.judged r.taskId verdict))
      | _ => none
  | .writeParent k =>
      match s.handlers k with
      | .judged taskId verdict =>
          some { s.setHandler k .idle with db := setTaskStatus s.db taskId verdict }
      | _ => none

/-- What a step does, one case for each way it can go. -/
inductive Step (c : Creation) (s : State) : Event → State → Prop
  | commitPending {db : Database} (hphase : s.phase = .started)
      (hdb : commitPending s.db (pendingTask c.taskId c.taskType c.draw.now)
        (c.rows s.db.devices) = some db) :
      Step c s .commitPending { s with db := db, phase := .inserted }
  | commitRunning (hphase : s.phase = .inserted) :
      Step c s .commitRunning
        { s with db := setTaskStatus s.db c.taskId .running, phase := .sending }
  | beginSend {row : String} (hphase : s.phase = .sending)
      (hrow : row ∈ (c.rows s.db.devices).map TaskResult.id) (hidle : row ∉ s.inFlight)
      (hundone : row ∉ s.outcomes.map Dispatched.row)
      (hroom : s.inFlight.length < maxConcurrentTasks) :
      Step c s (.beginSend row) { s with inFlight := row :: s.inFlight }
  | endSend {outcome : Dispatched} (hphase : s.phase = .sending)
      (hrow : outcome.row ∈ s.inFlight) :
      Step c s (.endSend outcome)
        { s with
          inFlight := s.inFlight.erase outcome.row
          outcomes := outcome :: s.outcomes }
  | commitOutcomes (hphase : s.phase = .sending)
      (hall : ∀ row ∈ (c.rows s.db.devices).map TaskResult.id,
        row ∈ s.outcomes.map Dispatched.row) :
      Step c s .commitOutcomes s.commitOutcomes
  | commitSentCount (hphase : s.phase = .dispatched) :
      Step c s .commitSentCount
        { s with db := commitSentCount s.db c.taskId s.outcomes, phase := .finished }
  | receive {k : Nat} {row output : String} {success : Bool} {r : TaskResult}
      (hidle : s.handlers k = .idle) (hr : s.db.results.find? row = some r) :
      Step c s (.receive k row success output)
        (s.setHandler k (.fetched ⟨r, reportedText success, some output⟩))
  | storeReply {k : Nat} {now : DateTime} {reply : Reply} (hreply : s.handlers k = .fetched reply) :
      Step c s (.storeReply k now) (s.storeReply k reply now)
  | readRunning {k : Nat} {r : TaskResult} (hr : s.handlers k = .stored r)
      (hverdict : syncVerdict (siblingStatuses s.db r) = none) :
      Step c s (.readSiblings k) (s.setHandler k .idle)
  | readEnded {k : Nat} {r : TaskResult} {verdict : TaskStatus} (hr : s.handlers k = .stored r)
      (hverdict : syncVerdict (siblingStatuses s.db r) = some verdict) :
      Step c s (.readSiblings k) (s.setHandler k (.judged r.taskId verdict))
  | writeParent {k : Nat} {taskId : String} {verdict : TaskStatus}
      (hverdict : s.handlers k = .judged taskId verdict) :
      Step c s (.writeParent k)
        { s.setHandler k .idle with db := setTaskStatus s.db taskId verdict }

theorem step_cases {c : Creation} {s s' : State} {e : Event} (h : step c s e = some s') :
    Step c s e s' := by
  cases e with
  | commitPending =>
      simp only [step] at h
      split at h
      · rename_i hphase
        rcases Option.map_eq_some_iff.mp h with ⟨db, hdb, rfl⟩
        exact .commitPending hphase hdb
      · cases h
  | commitRunning =>
      simp only [step] at h
      split at h
      · rename_i hphase
        cases h
        exact .commitRunning hphase
      · cases h
  | beginSend row =>
      simp only [step] at h
      split at h
      · rename_i hcond
        cases h
        obtain ⟨hphase, hrow, hidle, hundone, hroom⟩ := hcond
        exact .beginSend hphase hrow hidle hundone hroom
      · cases h
  | endSend outcome =>
      simp only [step] at h
      split at h
      · rename_i hcond
        cases h
        exact .endSend hcond.1 hcond.2
      · cases h
  | commitOutcomes =>
      simp only [step] at h
      split at h
      · rename_i hcond
        cases h
        exact .commitOutcomes hcond.1 hcond.2
      · cases h
  | commitSentCount =>
      simp only [step] at h
      split at h
      · rename_i hphase
        cases h
        exact .commitSentCount hphase
      · cases h
  | receive k row success output =>
      simp only [step] at h
      split at h
      · rename_i r hidle hr
        cases h
        exact .receive hidle hr
      · cases h
  | storeReply k now =>
      simp only [step] at h
      split at h
      · rename_i reply hreply
        cases h
        exact .storeReply hreply
      · cases h
  | readSiblings k =>
      simp only [step] at h
      split at h
      · rename_i r hr
        split at h
        · rename_i hverdict
          cases h
          exact .readRunning hr hverdict
        · rename_i verdict hverdict
          cases h
          exact .readEnded hr hverdict
      · cases h
  | writeParent k =>
      simp only [step] at h
      split at h
      · rename_i taskId verdict hverdict
        cases h
        exact .writeParent hverdict
      · cases h

/-! ## What the replies are owed -/

def statusOf (s : State) (row : String) : Option String :=
  (s.db.results.find? row).map TaskResult.status

/-- Every row whose agent's reply has been committed holds a reported status. -/
def Held (s : State) : Prop :=
  ∀ row, s.reported row ≠ [] → ∃ status ∈ s.reported row, statusOf s row = some status

/-- `create_task` leaves the rows whose replies have been committed, and these rows hold a status
that their agent has reported. -/
structure RepliesHeld (s : State) (e : Event) (s' : State) : Prop where
  unchanged : e.ofCreation = true →
    ∀ row, s.reported row ≠ [] → statusOf s' row = statusOf s row
  held : Held s'

/-- The commit of the dispatch outcomes comes before the commit of every reply for a row of the
task, except where the row holds the report of a failure and its command was not transmitted. -/
def OutcomesFirst (s : State) : Event → State → Prop
  | .commitOutcomes, _ =>
      ∀ outcome ∈ s.outcomes, s.reported outcome.row ≠ [] →
        outcome.success = false ∧ statusOf s outcome.row = some (reportedText false)
  | _, _ => True

/-! ## One step -/

/-- What is known of the row a handler has loaded: it is stored, and where the flush will not write
the status, because it is the one that was loaded, a reported status is there already. -/
structure Loaded (status : String → Option String) (reported : String → List String)
    (reply : Reply) : Prop where
  stored : (status reply.row.id).isSome
  text : ∃ success, reply.status = reportedText success
  unchanged : reply.status = reply.row.status →
    status reply.row.id = some reply.status ∨ reported reply.row.id ≠ []

/-- What is true of every run whose steps so far kept the replies. -/
structure Inv (c : Creation) (s : State) : Prop where
  held : Held s
  texts : ∀ row, ∀ status ∈ s.reported row, ∃ success, status = reportedText success
  /-- A send is for a row of the task, and no row is sent twice. -/
  targets : ∀ row ∈ s.inFlight ++ s.outcomes.map Dispatched.row,
    row ∈ (c.rows s.db.devices).map TaskResult.id
  once : (s.inFlight ++ s.outcomes.map Dispatched.row).Nodup
  idle : s.phase = .started ∨ s.phase = .inserted → s.inFlight = [] ∧ s.outcomes = []
  /-- From the first commit on, the rows are in the table. -/
  inserted : s.phase ≠ .started →
    ∀ row ∈ (c.rows s.db.devices).map TaskResult.id, (statusOf s row).isSome
  /-- Until the outcomes are committed, a row of the task is pending or has had a reply. -/
  untouched : s.phase = .inserted ∨ s.phase = .sending →
    ∀ row ∈ (c.rows s.db.devices).map TaskResult.id, ∀ status, statusOf s row = some status →
      status = "pending" ∨ s.reported row ≠ []
  loaded : ∀ k reply, s.handlers k = .fetched reply → Loaded (statusOf s) s.reported reply

theorem inv_start (c : Creation) (db : Database) : Inv c (start db) where
  held row h := absurd rfl h
  texts row status h := by cases h
  targets row h := by cases h
  once := List.nodup_nil
  idle _ := ⟨rfl, rfl⟩
  inserted h := absurd rfl h
  untouched h := by rcases h with h | h <;> cases h
  loaded k reply h := by cases h

theorem statusOf_congr {s s' : State} (h : s'.db.results = s.db.results) :
    statusOf s' = statusOf s := by
  funext row
  rw [statusOf, statusOf, h]

theorem Inv.of_handler {c : Creation} {s s' : State} (hinv : Inv c s)
    (hdevices : s'.db.devices = s.db.devices) (hresults : s'.db.results = s.db.results)
    (hphase : s'.phase = s.phase) (hinFlight : s'.inFlight = s.inFlight)
    (houtcomes : s'.outcomes = s.outcomes) (hreported : s'.reported = s.reported)
    (hloaded : ∀ k reply, s'.handlers k = .fetched reply →
      Loaded (statusOf s) s.reported reply) : Inv c s' := by
  have hstatus := statusOf_congr hresults
  refine ⟨?_, ?_, ?_, ?_, ?_, ?_, ?_, ?_⟩
  · intro row
    rw [hreported, hstatus]
    exact hinv.held row
  · rw [hreported]
    exact hinv.texts
  · rw [hinFlight, houtcomes, hdevices]
    exact hinv.targets
  · rw [hinFlight, houtcomes]
    exact hinv.once
  · rw [hphase, hinFlight, houtcomes]
    exact hinv.idle
  · rw [hphase, hdevices, hstatus]
    exact hinv.inserted
  · rw [hphase, hdevices, hstatus, hreported]
    exact hinv.untouched
  · rw [hstatus, hreported]
    exact hloaded

theorem loaded_setHandler {c : Creation} {s : State} (hinv : Inv c s) {k : Nat}
    {handler : Handler} (hhandler : ∀ reply, handler ≠ .fetched reply) :
    ∀ k' reply, (s.setHandler k handler).handlers k' = .fetched reply →
      Loaded (statusOf s) s.reported reply := by
  intro k' reply h
  by_cases hk : k' = k
  -- this handler: it is not in `fetched`
  · rw [hk, setHandler_self] at h
    exact absurd h (hhandler reply)
  -- the other handlers have not moved
  · rw [setHandler_of_ne s hk] at h
    exact hinv.loaded k' reply h

/-! ### The commit of the outcomes -/

theorem statusOf_commitOutcomes_of_mem {s : State} (hnodup : (s.outcomes.map Dispatched.row).Nodup)
    {outcome : Dispatched} (houtcome : outcome ∈ s.outcomes)
    (hrow : (statusOf s outcome.row).isSome) :
    statusOf s.commitOutcomes outcome.row = some outcome.status := by
  have hfind := Table.find?_updateEach_of_mem (t := s.db.results) (h := dispatch_id) hnodup houtcome
  rw [statusOf, State.commitOutcomes, commitOutcomes, hfind]
  rw [statusOf, Option.isSome_map] at hrow
  rcases Option.isSome_iff_exists.mp hrow with ⟨r, hr⟩
  rw [hr, Option.map_some, Option.map_some, dispatch_status]

theorem statusOf_commitOutcomes_of_not_mem {s : State} {row : String}
    (hrow : row ∉ s.outcomes.map Dispatched.row) :
    statusOf s.commitOutcomes row = statusOf s row := by
  rw [statusOf, State.commitOutcomes, commitOutcomes, Table.find?_updateEach_of_not_mem, statusOf]
  intro outcome houtcome heq
  exact hrow (heq ▸ List.mem_map_of_mem houtcome)

section Outcomes

variable {c : Creation} {s : State} (hinv : Inv c s) (hphase : s.phase = .sending)

include hinv

theorem Inv.outcomes_nodup : (s.outcomes.map Dispatched.row).Nodup :=
  (List.nodup_append.mp hinv.once).2.1

theorem Inv.outcome_target {outcome : Dispatched} (houtcome : outcome ∈ s.outcomes) :
    outcome.row ∈ (c.rows s.db.devices).map TaskResult.id :=
  hinv.targets _ (List.mem_append_right _ (List.mem_map_of_mem houtcome))

include hphase

theorem Inv.statusOf_outcome {outcome : Dispatched} (houtcome : outcome ∈ s.outcomes) :
    statusOf s.commitOutcomes outcome.row = some outcome.status :=
  statusOf_commitOutcomes_of_mem hinv.outcomes_nodup houtcome
    (hinv.inserted (by simp [hphase]) _ (hinv.outcome_target houtcome))

/-- **The commit of the outcomes leaves the rows with replies** exactly when it assigns what they
hold. -/
theorem unchanged_commitOutcomes_iff :
    (∀ row, s.reported row ≠ [] → statusOf s.commitOutcomes row = statusOf s row) ↔
      OutcomesFirst s .commitOutcomes s.commitOutcomes := by
  apply Iff.intro
  · intro hunchanged outcome houtcome hreplied
    have hsame := hunchanged outcome.row hreplied
    rw [hinv.statusOf_outcome hphase houtcome] at hsame
    -- the row holds a reported status, so that is the assigned one
    rcases hinv.held outcome.row hreplied with ⟨status, hstatus, hholds⟩
    rcases hinv.texts outcome.row status hstatus with ⟨success, rfl⟩
    rw [hholds, Option.some.injEq] at hsame
    have hfailed := Dispatched.status_eq_reportedText.mp hsame
    exact ⟨hfailed.1, hfailed.2 ▸ hholds⟩
  · intro hfirst row hreplied
    by_cases hrow : row ∈ s.outcomes.map Dispatched.row
    -- a row the commit writes: it writes the reported `failed` again
    · rcases List.mem_map.mp hrow with ⟨outcome, houtcome, rfl⟩
      have hfailed := hfirst outcome houtcome hreplied
      rw [hinv.statusOf_outcome hphase houtcome, hfailed.2,
        Dispatched.status_eq_reportedText.mpr ⟨hfailed.1, rfl⟩]
    -- a row it does not write
    · exact statusOf_commitOutcomes_of_not_mem hrow

theorem held_commitOutcomes (hfirst : OutcomesFirst s .commitOutcomes s.commitOutcomes) :
    Held s.commitOutcomes := by
  intro row hreplied
  rcases hinv.held row hreplied with ⟨status, hstatus, hholds⟩
  have hsame := (unchanged_commitOutcomes_iff hinv hphase).mpr hfirst row hreplied
  exact ⟨status, hstatus, hsame.trans hholds⟩

theorem inv_commitOutcomes (hfirst : OutcomesFirst s .commitOutcomes s.commitOutcomes) :
    Inv c s.commitOutcomes := by
  have hunchanged := (unchanged_commitOutcomes_iff hinv hphase).mpr hfirst
  refine ⟨held_commitOutcomes hinv hphase hfirst, hinv.texts, hinv.targets, hinv.once,
    ?_, ?_, ?_, ?_⟩
  · intro h
    rcases h with h | h <;> cases h
  · intro _ row hrow
    by_cases hmem : row ∈ s.outcomes.map Dispatched.row
    · rcases List.mem_map.mp hmem with ⟨outcome, houtcome, rfl⟩
      rw [hinv.statusOf_outcome hphase houtcome]
      rfl
    · rw [statusOf_commitOutcomes_of_not_mem hmem]
      exact hinv.inserted (by simp [hphase]) row hrow
  · intro h
    rcases h with h | h <;> cases h
  · intro k reply hreply
    have hloaded := hinv.loaded k reply hreply
    by_cases hmem : reply.row.id ∈ s.outcomes.map Dispatched.row
    · rcases List.mem_map.mp hmem with ⟨outcome, houtcome, hrow⟩
      have hnew := hinv.statusOf_outcome hphase houtcome
      rw [hrow] at hnew
      refine ⟨?_, hloaded.text, fun heq => .inr ?_⟩
      · rw [hnew]
        rfl
      -- the loaded status is a reported one, so the row is no longer pending and has had a reply
      · rcases hloaded.unchanged heq with hold | hreplied
        · have htarget := hrow ▸ hinv.outcome_target houtcome
          rcases hinv.untouched (.inr hphase) _ htarget _ hold with hpending | hreplied
          · rcases hloaded.text with ⟨success, htext⟩
            rw [htext] at hpending
            cases success <;> exact absurd hpending (by decide)
          · exact hreplied
        · exact hreplied
    · refine ⟨?_, hloaded.text, ?_⟩
      · rw [statusOf_commitOutcomes_of_not_mem hmem]
        exact hloaded.stored
      · rw [statusOf_commitOutcomes_of_not_mem hmem]
        exact hloaded.unchanged

end Outcomes

/-! ### The commit of a reply -/

section StoreReply

variable {s : State} {k : Nat} {reply : Reply} (now : DateTime)

theorem reported_storeReply_self : (s.storeReply k reply now).reported reply.row.id =
    reply.status :: s.reported reply.row.id :=
  Function.update_self reply.row.id _ s.reported

theorem reported_storeReply_of_ne {row : String} (hne : row ≠ reply.row.id) :
    (s.storeReply k reply now).reported row = s.reported row :=
  Function.update_of_ne hne _ s.reported

theorem replied_storeReply : (s.storeReply k reply now).reported reply.row.id ≠ [] := by
  rw [reported_storeReply_self]
  exact List.cons_ne_nil _ _

theorem statusOf_storeReply_of_ne {row : String} (hne : row ≠ reply.row.id) :
    statusOf (s.storeReply k reply now) row = statusOf s row := by
  have hfind := find?_commitReply s.db reply now row
  rw [if_neg hne] at hfind
  exact congrArg (Option.map TaskResult.status) hfind

/-- The flush writes the reported status, or finds it to be the one that was loaded. -/
theorem statusOf_storeReply_self {status : String} (h : statusOf s reply.row.id = some status) :
    statusOf (s.storeReply k reply now) reply.row.id =
      some (flushed reply.row.status reply.status status) := by
  rcases Option.map_eq_some_iff.mp h with ⟨r, hr, rfl⟩
  have hfind := find?_commitReply s.db reply now reply.row.id
  rw [if_pos rfl, hr, Option.map_some] at hfind
  show ((commitReply s.db reply now).results.find? reply.row.id).map TaskResult.status = _
  rw [hfind]
  rfl

theorem statusOf_storeReply_isSome (row : String) (h : (statusOf s row).isSome) :
    (statusOf (s.storeReply k reply now) row).isSome := by
  by_cases hne : row = reply.row.id
  · rw [hne] at h ⊢
    rcases Option.isSome_iff_exists.mp h with ⟨status, hstatus⟩
    rw [statusOf_storeReply_self now hstatus]
    rfl
  · rw [statusOf_storeReply_of_ne now hne]
    exact h

/-- After its commit the row of the reply holds a reported status. -/
theorem held_storeReply_self {c : Creation} (hinv : Inv c s)
    (hloaded : Loaded (statusOf s) s.reported reply) :
    ∃ status ∈ (s.storeReply k reply now).reported reply.row.id,
      statusOf (s.storeReply k reply now) reply.row.id = some status := by
  rcases Option.isSome_iff_exists.mp hloaded.stored with ⟨status, hstatus⟩
  rw [reported_storeReply_self, statusOf_storeReply_self now hstatus]
  refine ⟨_, ?_, rfl⟩
  unfold flushed
  by_cases heq : reply.status = reply.row.status
  -- the column is not written: what is stored is the reported status, or an earlier one
  · rw [if_pos heq]
    rcases hloaded.unchanged heq with hsame | hreplied
    · rw [hstatus, Option.some.injEq] at hsame
      rw [hsame]
      exact List.mem_cons_self
    · rcases hinv.held reply.row.id hreplied with ⟨status', hmem, hholds⟩
      rw [hstatus, Option.some.injEq] at hholds
      rw [hholds]
      exact List.mem_cons_of_mem _ hmem
  -- the column is written
  · rw [if_neg heq]
    exact List.mem_cons_self

theorem inv_storeReply {c : Creation} (hinv : Inv c s)
    (hloaded : Loaded (statusOf s) s.reported reply) : Inv c (s.storeReply k reply now) := by
  refine ⟨?_, ?_, hinv.targets, hinv.once, hinv.idle, ?_, ?_, ?_⟩
  · intro row hreplied
    by_cases hne : row = reply.row.id
    · rw [hne]
      exact held_storeReply_self now hinv hloaded
    · rw [reported_storeReply_of_ne now hne] at hreplied ⊢
      rw [statusOf_storeReply_of_ne now hne]
      exact hinv.held row hreplied
  · intro row status hstatus
    by_cases hne : row = reply.row.id
    · rw [hne, reported_storeReply_self] at hstatus
      rcases List.mem_cons.mp hstatus with rfl | hstatus
      · exact hloaded.text
      · exact hinv.texts _ status hstatus
    · rw [reported_storeReply_of_ne now hne] at hstatus
      exact hinv.texts row status hstatus
  · intro hphase row hrow
    exact statusOf_storeReply_isSome now row (hinv.inserted hphase row hrow)
  · intro hphase row hrow status hstatus
    by_cases hne : row = reply.row.id
    · rw [hne]
      exact .inr (replied_storeReply now)
    · rw [statusOf_storeReply_of_ne now hne] at hstatus
      rw [reported_storeReply_of_ne now hne]
      exact hinv.untouched hphase row hrow status hstatus
  · intro k' reply' h
    have hbefore : Loaded (statusOf s) s.reported reply' := by
      by_cases hk : k' = k
      -- the handler is past `fetched`
      · have hhandler : (s.storeReply k reply now).handlers k = .stored (reply.assigned now) :=
          setHandler_self s k _
        rw [hk, hhandler] at h
        cases h
      · have hhandler : (s.storeReply k reply now).handlers k' = s.handlers k' :=
          setHandler_of_ne s hk _
        rw [hhandler] at h
        exact hinv.loaded k' reply' h
    refine ⟨statusOf_storeReply_isSome now _ hbefore.stored, hbefore.text, fun heq => ?_⟩
    by_cases hne : reply'.row.id = reply.row.id
    -- two handlers with a reply for one row
    · rw [hne]
      exact .inr (replied_storeReply now)
    · rw [statusOf_storeReply_of_ne now hne, reported_storeReply_of_ne now hne]
      exact hbefore.unchanged heq

end StoreReply

/-! ### The other steps -/

section Pending

variable {c : Creation} {s : State} {db : Database}
  (hdb : commitPending s.db (pendingTask c.taskId c.taskType c.draw.now) (c.rows s.db.devices) =
    some db)

include hdb

/-- The rows that are there keep their status. -/
theorem statusOf_commitPending {row : String} (hrow : (statusOf s row).isSome) :
    (db.results.find? row).map TaskResult.status = statusOf s row := by
  have hinsert := (commitPending_eq_some hdb).2.2
  rw [statusOf, Option.isSome_map] at hrow
  rcases Option.isSome_iff_exists.mp hrow with ⟨r, hr⟩
  have hmem : r ∈ db.results :=
    (Table.mem_insertAll? hinsert).mpr (.inl (Table.mem_of_find? hr))
  rw [statusOf, hr, ← Table.key_of_find? hr, Table.find?_key hmem]

theorem statusOf_commitPending_new {row : String}
    (hrow : row ∈ (c.rows s.db.devices).map TaskResult.id) :
    (db.results.find? row).map TaskResult.status = some "pending" := by
  have hinsert := (commitPending_eq_some hdb).2.2
  rcases List.mem_map.mp hrow with ⟨r, hr, rfl⟩
  have hmem : r ∈ db.results := (Table.mem_insertAll? hinsert).mpr (.inr hr)
  rw [Table.find?_key hmem, Option.map_some, (mem_newResults hr).1]

variable (hinv : Inv c s)

include hinv

theorem unchanged_commitPending {row : String} (hreplied : s.reported row ≠ []) :
    (db.results.find? row).map TaskResult.status = statusOf s row := by
  rcases hinv.held row hreplied with ⟨status, _, hholds⟩
  apply statusOf_commitPending hdb
  rw [hholds]
  rfl

theorem inv_commitPending (hphase : s.phase = .started) :
    Inv c { s with db := db, phase := .inserted } := by
  have hdevices := (commitPending_eq_some hdb).1
  have hempty := hinv.idle (.inl hphase)
  refine ⟨?_, hinv.texts, ?_, hinv.once, fun _ => hempty, ?_, ?_, ?_⟩
  · intro row hreplied
    rcases hinv.held row hreplied with ⟨status, hstatus, hholds⟩
    exact ⟨status, hstatus, (unchanged_commitPending hdb hinv hreplied).trans hholds⟩
  · intro row hrow
    rw [hempty.1, hempty.2] at hrow
    cases hrow
  · intro _ row hrow
    rw [hdevices] at hrow
    have hpending := statusOf_commitPending_new hdb hrow
    rw [statusOf, hpending]
    rfl
  · intro _ row hrow status h
    rw [hdevices] at hrow
    have hpending := statusOf_commitPending_new hdb hrow
    rw [statusOf, hpending, Option.some.injEq] at h
    exact .inl h.symm
  · intro k reply h
    have hloaded := hinv.loaded k reply h
    have hsame := statusOf_commitPending hdb hloaded.stored
    refine ⟨?_, hloaded.text, ?_⟩
    · rw [statusOf, hsame]
      exact hloaded.stored
    · rw [statusOf, hsame]
      exact hloaded.unchanged

end Pending

theorem inv_commitRunning {c : Creation} {s : State} (hinv : Inv c s)
    (hphase : s.phase = .inserted) :
    Inv c { s with db := setTaskStatus s.db c.taskId .running, phase := .sending } := by
  have hempty := hinv.idle (.inr hphase)
  refine ⟨hinv.held, hinv.texts, hinv.targets, hinv.once, fun _ => hempty, ?_, ?_, hinv.loaded⟩
  · intro _
    exact hinv.inserted (by simp [hphase])
  · intro _
    exact hinv.untouched (.inl hphase)

theorem inv_beginSend {c : Creation} {s : State} (hinv : Inv c s) (hphase : s.phase = .sending)
    {row : String} (hrow : row ∈ (c.rows s.db.devices).map TaskResult.id)
    (hidle : row ∉ s.inFlight) (hundone : row ∉ s.outcomes.map Dispatched.row) :
    Inv c { s with inFlight := row :: s.inFlight } := by
  refine ⟨hinv.held, hinv.texts, ?_, ?_, ?_, hinv.inserted, hinv.untouched, hinv.loaded⟩
  · intro row' hrow'
    rcases List.mem_cons.mp hrow' with rfl | hrow'
    · exact hrow
    · exact hinv.targets row' hrow'
  · rw [List.cons_append, List.nodup_cons]
    refine ⟨?_, hinv.once⟩
    rw [List.mem_append, not_or]
    exact ⟨hidle, hundone⟩
  · intro h
    rw [hphase] at h
    rcases h with h | h <;> cases h

theorem inv_endSend {c : Creation} {s : State} (hinv : Inv c s) (hphase : s.phase = .sending)
    {outcome : Dispatched} (hrow : outcome.row ∈ s.inFlight) :
    Inv c { s with
      inFlight := s.inFlight.erase outcome.row
      outcomes := outcome :: s.outcomes } := by
  -- the row only moves from one list to the other
  have hperm : (s.inFlight.erase outcome.row ++ (outcome :: s.outcomes).map Dispatched.row).Perm
      (s.inFlight ++ s.outcomes.map Dispatched.row) := by
    rw [List.map_cons]
    exact List.perm_middle.trans
      (List.Perm.append_right _ (List.perm_cons_erase hrow).symm)
  refine ⟨hinv.held, hinv.texts, ?_, ?_, ?_, hinv.inserted, hinv.untouched, hinv.loaded⟩
  · intro row' hrow'
    exact hinv.targets row' (hperm.mem_iff.mp hrow')
  · exact hperm.nodup_iff.mpr hinv.once
  · intro h
    rw [hphase] at h
    rcases h with h | h <;> cases h

theorem loaded_receive {s : State} {row : String} {r : TaskResult}
    (hr : s.db.results.find? row = some r) (success : Bool) (output : String) :
    Loaded (statusOf s) s.reported ⟨r, reportedText success, some output⟩ where
  stored := by
    rw [statusOf, Table.key_of_find? hr, hr]
    rfl
  text := ⟨success, rfl⟩
  unchanged heq := by
    rw [statusOf, Table.key_of_find? hr, hr, heq]
    exact .inl rfl

theorem statusOf_commitSentCount (c : Creation) (s : State) : statusOf { s with
    db := commitSentCount s.db c.taskId s.outcomes, phase := .finished } = statusOf s :=
  statusOf_congr (commitSentCount_results s.db c.taskId s.outcomes)

theorem inv_commitSentCount {c : Creation} {s : State} (hinv : Inv c s)
    (hphase : s.phase = .dispatched) :
    Inv c { s with db := commitSentCount s.db c.taskId s.outcomes, phase := .finished } := by
  have hstatus := statusOf_commitSentCount c s
  refine ⟨?_, hinv.texts, ?_, hinv.once, ?_, ?_, ?_, ?_⟩
  · intro row hreplied
    rw [hstatus]
    exact hinv.held row hreplied
  · rw [commitSentCount_devices]
    exact hinv.targets
  · intro h
    rcases h with h | h <;> cases h
  · intro _
    rw [commitSentCount_devices, hstatus]
    exact hinv.inserted (by simp [hphase])
  · intro h
    rcases h with h | h <;> cases h
  · rw [hstatus]
    exact hinv.loaded

/-- **One step.**  Under the invariant, a step that keeps the order keeps the invariant. -/
theorem step_inv {c : Creation} {s s' : State} {e : Event} (h : step c s e = some s')
    (hinv : Inv c s) (hfirst : OutcomesFirst s e s') : Inv c s' := by
  cases step_cases h with
  | commitPending hphase hdb => exact inv_commitPending hdb hinv hphase
  | commitRunning hphase => exact inv_commitRunning hinv hphase
  | beginSend hphase hrow hidle hundone _ => exact inv_beginSend hinv hphase hrow hidle hundone
  | endSend hphase hrow => exact inv_endSend hinv hphase hrow
  | commitOutcomes hphase _ => exact inv_commitOutcomes hinv hphase hfirst
  | commitSentCount hphase => exact inv_commitSentCount hinv hphase
  | @receive k row output success r hidle hr =>
      refine hinv.of_handler rfl rfl rfl rfl rfl rfl fun k' reply hreply => ?_
      by_cases hk : k' = k
      · rw [hk, setHandler_self] at hreply
        cases hreply
        exact loaded_receive hr success output
      · rw [setHandler_of_ne s hk] at hreply
        exact hinv.loaded k' reply hreply
  | @storeReply k now reply hreply =>
      exact inv_storeReply now hinv (hinv.loaded k reply hreply)
  | readRunning _ _ | readEnded _ _ | writeParent _ =>
      exact hinv.of_handler rfl rfl rfl rfl rfl rfl
        (loaded_setHandler hinv fun reply => Handler.noConfusion)

/-- In that order, the steps of `create_task` leave the rows with replies. -/
theorem step_unchanged {c : Creation} {s s' : State} {e : Event} (h : step c s e = some s')
    (hinv : Inv c s) (hfirst : OutcomesFirst s e s') (hcreation : e.ofCreation = true)
    {row : String} (hreplied : s.reported row ≠ []) : statusOf s' row = statusOf s row := by
  cases step_cases h with
  | commitPending hphase hdb => exact unchanged_commitPending hdb hinv hreplied
  | commitOutcomes hphase _ =>
      exact (unchanged_commitOutcomes_iff hinv hphase).mpr hfirst row hreplied
  | commitSentCount _ => rw [statusOf_commitSentCount]
  -- RUNNING, and the sends: no result is written
  | commitRunning _ => rfl
  | beginSend _ _ _ _ _ => rfl
  | endSend _ _ => rfl
  | _ => cases hcreation

/-- Under the invariant, a step keeps the replies exactly when it keeps the order. -/
theorem step_held_iff {c : Creation} {s s' : State} {e : Event} (h : step c s e = some s')
    (hinv : Inv c s) : RepliesHeld s e s' ↔ OutcomesFirst s e s' := by
  apply Iff.intro
  · intro hheld
    cases step_cases h with
    | commitOutcomes hphase _ =>
        exact (unchanged_commitOutcomes_iff hinv hphase).mp (hheld.unchanged rfl)
    | _ => trivial
  · intro hfirst
    refine ⟨fun hcreation row hreplied => ?_, (step_inv h hinv hfirst).held⟩
    exact step_unchanged h hinv hfirst hcreation hreplied

/-! ## A creation with no reply in between -/

/-- The sends of the outcomes, one coroutine after the other. -/
def sends : List Dispatched → List Event
  | [] => []
  | outcome :: outcomes => sends outcomes ++ [.beginSend outcome.row, .endSend outcome]

def creation (outcomes : List Dispatched) : List Event :=
  [.commitPending, .commitRunning] ++ (sends outcomes ++ [.commitOutcomes, .commitSentCount])

theorem ofCreation_of_mem_sends {outcomes : List Dispatched} {e : Event} (he : e ∈ sends outcomes) :
    e.ofCreation = true := by
  induction outcomes with
  | nil => cases he
  | cons outcome outcomes ih =>
      rcases List.mem_append.mp he with he | he
      · exact ih he
      · have hends : ∀ e ∈ [Event.beginSend outcome.row, .endSend outcome],
            e.ofCreation = true := by
          simp [Event.ofCreation]
        exact hends e he

theorem ofCreation_of_mem_creation {outcomes : List Dispatched} :
    ∀ e ∈ creation outcomes, e.ofCreation = true := by
  intro e he
  unfold creation at he
  simp only [List.mem_append, List.mem_cons, List.not_mem_nil, or_false] at he
  rcases he with (rfl | rfl) | he | rfl | rfl
  · rfl
  · rfl
  · exact ofCreation_of_mem_sends he
  · rfl
  · rfl

/-- The two commits in front of the sends. -/
theorem exec_commits {c : Creation} {db db' : Database}
    (hpending : LanAgent.commitPending db (pendingTask c.taskId c.taskType c.draw.now)
      (c.rows db.devices) = some db') :
    exec (step c) (start db) [.commitPending, .commitRunning] =
      some { start db with db := setTaskStatus db' c.taskId .running, phase := .sending } := by
  have hphase : (start db).phase = .started := rfl
  have hcommit : step c (start db) .commitPending =
      some { start db with db := db', phase := .inserted } := by
    rw [step, if_pos hphase]
    exact congrArg (Option.map _) hpending
  rw [exec, hcommit]
  rfl

theorem exec_sends {c : Creation} {s : State} (hphase : s.phase = .sending)
    (hidle : s.inFlight = []) (hnone : s.outcomes = []) {outcomes : List Dispatched}
    (hrows : ∀ row ∈ outcomes.map Dispatched.row, row ∈ (c.rows s.db.devices).map TaskResult.id)
    (hnodup : (outcomes.map Dispatched.row).Nodup) :
    exec (step c) s (sends outcomes) = some { s with outcomes := outcomes } := by
  induction outcomes with
  | nil => rw [sends, exec, ← hnone]
  | cons outcome outcomes ih =>
      rw [List.map_cons, List.nodup_cons] at hnodup
      rw [List.map_cons, List.forall_mem_cons] at hrows
      rw [sends, exec_append, ih hrows.2 hnodup.2, Option.bind_some]
      have hbegin : s.phase = .sending ∧ outcome.row ∈ (c.rows s.db.devices).map TaskResult.id ∧
          outcome.row ∉ s.inFlight ∧ outcome.row ∉ outcomes.map Dispatched.row ∧
          s.inFlight.length < maxConcurrentTasks := by
        rw [hidle]
        exact ⟨hphase, hrows.1, List.not_mem_nil, hnodup.1, by decide⟩
      rw [exec, step, if_pos hbegin]
      dsimp only
      rw [exec, step, if_pos ⟨hphase, List.mem_cons_self⟩]
      dsimp only
      rw [exec, List.erase_cons_head]

/-- **A creation as one step**: `createTask` is the run of these steps with no reply among them. -/
theorem exec_creation {db : Database} {payload : TaskCreate} {draw : TaskDraw} {task : Task}
    {taskType : TaskType} (htype : TaskType.ofValue? payload.taskType = some taskType)
    (h : (createTask db payload draw).2 = .ok task) :
    ∃ s, exec (step ⟨taskType, payload.deviceIds, draw⟩) (start db)
        (creation (dispatchAll (newResults db.devices payload.deviceIds draw) draw)) = some s ∧
      s.phase = .finished ∧ s.db = (createTask db payload draw).1 := by
  set c : Creation := ⟨taskType, payload.deviceIds, draw⟩
  set outcomes := dispatchAll (newResults db.devices payload.deviceIds draw) draw with houtcomes
  unfold createTask at h ⊢
  rw [htype] at h ⊢
  dsimp only at h ⊢
  split_ifs at h ⊢ with hlimit
  cases hpending : commitPending db (pendingTask draw.id.val taskType draw.now)
      (newResults db.devices payload.deviceIds draw) with
  | none =>
      rw [hpending] at h
      cases h
  | some db' =>
      obtain ⟨hdevices, -, hinsert⟩ := commitPending_eq_some hpending
      have htargets : outcomes.map Dispatched.row = (c.rows db'.devices).map TaskResult.id := by
        rw [houtcomes, dispatchAll_rows, hdevices]
        rfl
      set sending : State :=
        { start db with db := setTaskStatus db' c.taskId .running, phase := .sending }
      have hbegun : exec (step c) (start db) [.commitPending, .commitRunning] = some sending :=
        exec_commits hpending
      have hsent : exec (step c) sending (sends outcomes) =
          some { sending with outcomes := outcomes } := by
        refine exec_sends rfl rfl rfl (fun row hrow => ?_) ?_
        · exact htargets ▸ hrow
        · rw [houtcomes, dispatchAll_rows]
          exact (Table.insertAll?_keys hinsert).1
      have hall : ∀ row ∈ (c.rows sending.db.devices).map TaskResult.id,
          row ∈ outcomes.map Dispatched.row := fun row hrow => htargets ▸ hrow
      rw [creation, exec_append, hbegun, Option.bind_some, exec_append, hsent, Option.bind_some,
        exec, step, if_pos ⟨rfl, hall⟩]
      exact ⟨_, rfl, rfl, rfl⟩

/-! ## Whole runs -/

/-- **No reply is lost to the dispatcher** in exactly the runs that commit the outcomes before the
replies: for every database, every creation and every interleaving, `create_task` leaves every row
with a committed reply, and such a row holds a reported status in each state reached, if and only
if no step commits an outcome over a committed reply that says something else. -/
theorem replies_held_iff (c : Creation) (db : Database) (events : List Event) :
    Along (step c) RepliesHeld (start db) events ↔
      Along (step c) OutcomesFirst (start db) events := by
  have hiff : ∀ s e s', step c s e = some s' → Inv c s →
      (RepliesHeld s e s' ↔ OutcomesFirst s e s') := fun _ _ _ h hinv => step_held_iff h hinv
  have hkeep : ∀ s e s', step c s e = some s' → Inv c s → OutcomesFirst s e s' → Inv c s' :=
    fun _ _ _ h hinv hfirst => step_inv h hinv hfirst
  exact along_iff hiff hkeep (inv_start c db)

/-! ### A reply that is lost -/

def firstRow : Uuid := firstUuid

def secondRow : Uuid := secondUuid

def shutdownBoth : Creation where
  taskType := .shutdown
  deviceIds := [firstRow.val, secondRow.val]
  draw :=
    { maxVariables := 32766
      now := 0
      id := firstRow
      resultId := fun i => if i = 0 then firstRow else secondRow
      sent := fun _ => true
      returned := fun _ => 0 }

def bothDevices : Database :=
  { Database.empty with
    devices :=
      ⟨[Device.new firstRow firstRow 0, Device.new secondRow secondRow 0], by decide +kernel⟩ }

/-- The first device answers while the command is still on its way to the second. -/
def quickAnswer : List Event :=
  [.commitPending, .commitRunning, .beginSend firstRow.val, .beginSend secondRow.val,
    .endSend ⟨firstRow.val, true, 1⟩, .receive 7 firstRow.val true "", .storeReply 7 2,
    .readSiblings 7, .endSend ⟨secondRow.val, true, 3⟩, .commitOutcomes, .commitSentCount]

/-- The answer of the first device is overwritten with `sent`. -/
theorem reply_lost :
    ¬Along (step shutdownBoth) RepliesHeld (start bothDevices) quickAnswer := by
  intro h
  -- it is enough to follow the row of the first device
  have hrow : Along (step shutdownBoth) (fun _ _ s' => s'.reported firstRow.val ≠ [] →
      ∃ status ∈ s'.reported firstRow.val, statusOf s' firstRow.val = some status)
        (start bothDevices) quickAnswer :=
    h.mono fun _ _ _ _ hheld => hheld.held firstRow.val
  exact absurd hrow (by decide)

end LanAgent.Dispatch
