import LanAgent.Library.Runs
import LanAgent.WsRoutes

/-!
# The task page — `viewTask` of `views/Tasks.vue` and `task_websocket` of `api/ws_routes.py`

The page takes a copy of a task, opens a socket for its results and derives the status from them, as
the server does.  It sends no token with the socket, and the server accepts none without: such a
page gets no message and keeps the status it was opened with.  A page with a subscribed socket still
knows no `timeout`, and it has no verdict `cancelled`.  `displays_iff` says which replies of the
agents keep page and server in agreement.
-/

namespace LanAgent.TaskPage

open Library.Runs

/-! ## The page -/

/-- A result as the page holds it; a message without a status leaves it without one. -/
structure ResultRow where
  id : String
  status : Option String
  output : Option String
  finishedAt : Option DateTime
  deriving DecidableEq, Repr

/-- `detailTask.value`. -/
structure TaskView where
  status : TaskStatus
  results : List ResultRow
  deriving DecidableEq, Repr

structure Message where
  type : String
  commandId : String
  status : Option String
  output : Option String
  deriving DecidableEq, Repr

/-- `results[idx]` with what the message says. -/
def ResultRow.receive (row : ResultRow) (data : Message) (now : DateTime) : ResultRow :=
  { row with status := data.status, output := data.output, finishedAt := some now }

/-- The results with what the message says of the one it names. -/
def receive (results : List ResultRow) (data : Message) (now : DateTime) : List ResultRow :=
  -- an index beyond the end changes nothing
  results.modify (results.findIdx (fun r => r.id = data.commandId)) (fun r => r.receive data now)

/-- The statuses at which the page takes a result for done. -/
def doneStatuses : List (Option String) := [some "success", some "failed", some "cancelled"]

/-- `taskWs.onmessage` on an open view. -/
def onMessage (view : TaskView) (data : Message) (now : DateTime) : TaskView :=
  if data.type = "result" then
    let results := receive view.results data now
    let allDone := ∀ r ∈ results, r.status ∈ doneStatuses
    { results := results
      status :=
        if allDone then
          if ∀ r ∈ results, r.status = some "success" then .completed else .failed
        else view.status }
  else view

/-! ## The page and the server -/

structure State where
  view : TaskView
  /-- Whether the page's socket is among the subscribers of the task. -/
  subscribed : Bool
  /-- The results of the task on the server. -/
  results : List ResultRow

/-- The query of the URL `/ws/tasks/${row.id}` has no `token`. -/
def queryToken : Option String := none

/-- `task_websocket` up to `subscribe_task`; `decodes` is whether `decode_token` returns. -/
def taskWebsocket (decodes : String → Bool) (token : Option String) : Bool :=
  -- `Query(default="")`; the socket is closed with 4001 before it was accepted
  decodes (token.getD "")

/-- `viewTask`: the page holds what `get_task` has answered, and opens its socket. -/
def viewTask (decodes : String → Bool) (status : TaskStatus) (results : List ResultRow) :
    State where
  view := ⟨status, results⟩
  subscribed := taskWebsocket decodes queryToken
  results := results

/-- The reply of an agent to a command of the task, and when it is handled. -/
structure Report where
  commandId : String
  status : Option String
  output : Option String
  now : DateTime

/-- What the server broadcasts. -/
def Report.message (report : Report) : Message :=
  ⟨"result", report.commandId, report.status, report.output⟩

/-- The server stores the reply in the row it names, and tells the subscribers. -/
def step (s : State) (report : Report) : Option State :=
  some { s with
    results := receive s.results report.message report.now
    view := if s.subscribed then onMessage s.view report.message report.now else s.view }

/-- The statuses as the server stores them: `msg.get("status", "unknown")`. -/
def statuses (results : List ResultRow) : List String :=
  results.map (fun r => r.status.getD "unknown")

/-- All results are done for the page. -/
def Done (statuses : List String) : Prop := ∀ s ∈ statuses, some s ∈ doneStatuses

instance (statuses : List String) : Decidable (Done statuses) :=
  inferInstanceAs (Decidable (∀ s ∈ statuses, _))

/-- All results are terminal for the server. -/
def Ended (statuses : List String) : Prop := ∀ s ∈ statuses, s ∈ terminalStatuses

instance (statuses : List String) : Decidable (Ended statuses) :=
  inferInstanceAs (Decidable (∀ s ∈ statuses, _))

def Succeeded (statuses : List String) : Prop := ∀ s ∈ statuses, s = "success"

instance (statuses : List String) : Decidable (Succeeded statuses) :=
  inferInstanceAs (Decidable (∀ s ∈ statuses, _))

/-- Some result has failed for the server. -/
def Broken (statuses : List String) : Prop := "failed" ∈ statuses ∨ "timeout" ∈ statuses

instance (statuses : List String) : Decidable (Broken statuses) :=
  inferInstanceAs (Decidable (_ ∨ _))

/-- The page shows the server's verdict once there is one, and no final status before. -/
def Displays (s : State) : Prop :=
  syncVerdict (statuses s.results) = some s.view.status ∨
    syncVerdict (statuses s.results) = none ∧ s.view.status.isFinal = false

instance (s : State) : Decidable (Displays s) := inferInstanceAs (Decidable (_ ∨ _ ∧ _))

/-- A reply that takes the results from `old` to `new` neither ends nor reopens the task, and leaves
one that has ended as successful and as broken as it was. -/
def Unmoved (old new : List String) : Prop :=
  (Ended new ↔ Ended old) ∧
    (Ended new → (Succeeded new ↔ Succeeded old) ∧ (Broken new ↔ Broken old))

instance (old new : List String) : Decidable (Unmoved old new) :=
  inferInstanceAs (Decidable (_ ∧ (_ → _)))

/-- A reply that a subscribed page follows: where the page decides, no result is `cancelled` without
one that has failed; and where it does not, the reply neither ends nor reopens the task, and a task
that has ended was broken before. -/
def Agreeable (old new : List String) : Prop :=
  (Done new → Succeeded new ∨ "failed" ∈ new) ∧
    (¬Done new → (Ended new ↔ Ended old) ∧ (Ended new → Broken old))

instance (old new : List String) : Decidable (Agreeable old new) :=
  inferInstanceAs (Decidable ((Done new → _) ∧ (¬Done new → _ ∧ _)))

/-- A reply keeps page and server in agreement: the page follows it, or, without a socket, there is
nothing to follow. -/
def AgreeableStep (s : State) (_ : Report) (s' : State) : Prop :=
  if s.subscribed then Agreeable (statuses s.results) (statuses s'.results)
  else Unmoved (statuses s.results) (statuses s'.results)

instance (s : State) (report : Report) (s' : State) : Decidable (AgreeableStep s report s') :=
  inferInstanceAs (Decidable (ite _ _ _))

/-! ## The two verdicts -/

/-- The verdict on results that have all ended. -/
def endVerdict (statuses : List String) : TaskStatus :=
  if Succeeded statuses then .completed
  else if Broken statuses then .failed
  else .cancelled

theorem endVerdict_isFinal (statuses : List String) : (endVerdict statuses).isFinal = true := by
  unfold endVerdict
  split
  · rfl
  · split <;> rfl

theorem endVerdict_eq_failed_iff {statuses : List String} :
    endVerdict statuses = .failed ↔ Broken statuses := by
  unfold endVerdict
  split
  · rename_i hsuccess
    refine iff_of_false (by decide) ?_
    rintro (hmem | hmem)
    · exact absurd (hsuccess _ hmem) (by decide)
    · exact absurd (hsuccess _ hmem) (by decide)
  · split
    · exact iff_of_true rfl ‹_›
    · exact iff_of_false (by decide) ‹_›

theorem syncVerdict_of_ended {statuses : List String} (hne : statuses ≠ [])
    (h : Ended statuses) : syncVerdict statuses = some (endVerdict statuses) := by
  have hended : ∀ s ∈ statuses, s ∈ terminalStatuses := h
  rw [syncVerdict, if_neg hne, if_neg (not_not.mpr hended), endVerdict]
  by_cases hsuccess : ∀ s ∈ statuses, s = "success"
  · have hsucceeded : Succeeded statuses := hsuccess
    rw [if_pos hsuccess, if_pos hsucceeded]
  · have hsucceeded : ¬Succeeded statuses := hsuccess
    rw [if_neg hsuccess, if_neg hsucceeded]
    by_cases hfailed : Broken statuses
    · rw [if_pos hfailed, if_neg]
      rintro ⟨-, hall⟩
      rcases hfailed with hfailed | hfailed
      · exact absurd (hall _ hfailed) (by decide)
      · exact absurd (hall _ hfailed) (by decide)
    · have hall : ∀ s ∈ statuses, s ∈ ["cancelled", "success"] := by
        intro s hs
        have hterminal := h s hs
        simp only [terminalStatuses, List.mem_cons, List.not_mem_nil, or_false] at hterminal ⊢
        rcases hterminal with rfl | rfl | rfl | rfl
        · exact .inr rfl
        · exact absurd (.inl hs) hfailed
        · exact .inl rfl
        · exact absurd (.inr hs) hfailed
      have hcancelled : "cancelled" ∈ statuses := by
        push Not at hsuccess
        obtain ⟨s, hs, hne'⟩ := hsuccess
        have hmem := hall s hs
        simp only [List.mem_cons, List.not_mem_nil, or_false] at hmem
        obtain rfl := hmem.resolve_right hne'
        exact hs
      rw [if_neg hfailed, if_pos ⟨hcancelled, hall⟩]

theorem ended_of_done {statuses : List String} (h : Done statuses) : Ended statuses := by
  intro s hs
  have hdone := h s hs
  simp only [doneStatuses, List.mem_cons, Option.some.injEq, List.not_mem_nil, or_false] at hdone
  rcases hdone with rfl | rfl | rfl <;> decide

/-- What keeps a task that has ended from being done for the page. -/
theorem timeout_mem_of_not_done {statuses : List String} (h : Ended statuses)
    (hdone : ¬Done statuses) : "timeout" ∈ statuses := by
  unfold Done at hdone
  push Not at hdone
  obtain ⟨s, hs, hopen⟩ := hdone
  have hterminal := h s hs
  simp only [terminalStatuses, List.mem_cons, List.not_mem_nil, or_false] at hterminal
  rcases hterminal with rfl | rfl | rfl | rfl
  · exact absurd (by decide) hopen
  · exact absurd (by decide) hopen
  · exact absurd (by decide) hopen
  · exact hs

theorem endVerdict_eq_completed_iff {statuses : List String} :
    endVerdict statuses = .completed ↔ Succeeded statuses := by
  unfold endVerdict
  split
  · exact iff_of_true rfl ‹_›
  · split
    · exact iff_of_false (by decide) ‹_›
    · exact iff_of_false (by decide) ‹_›

theorem endVerdict_eq_iff {old new : List String} : endVerdict new = endVerdict old ↔
    (Succeeded new ↔ Succeeded old) ∧ (Broken new ↔ Broken old) := by
  apply Iff.intro
  · intro h
    rw [← endVerdict_eq_completed_iff, ← endVerdict_eq_completed_iff, ← endVerdict_eq_failed_iff,
      ← endVerdict_eq_failed_iff, h]
    exact ⟨Iff.rfl, Iff.rfl⟩
  · rintro ⟨hsucceeded, hbroken⟩
    simp only [endVerdict, hsucceeded, hbroken]

theorem displays_of_ended {s : State} (hne : statuses s.results ≠ [])
    (h : Ended (statuses s.results)) :
    Displays s ↔ s.view.status = endVerdict (statuses s.results) := by
  rw [Displays, syncVerdict_of_ended hne h, Option.some.injEq, eq_comm]
  exact or_iff_left fun hnone => absurd hnone.1 (Option.some_ne_none _)

theorem displays_of_not_ended {s : State} (h : ¬Ended (statuses s.results)) :
    Displays s ↔ s.view.status.isFinal = false := by
  rw [Displays, syncVerdict_eq_none_iff.mpr (.inr h), or_iff_right (Option.some_ne_none _).symm]
  exact and_iff_right rfl

/-! ## One reply -/

theorem status_mem_doneStatuses {r : ResultRow} :
    r.status ∈ doneStatuses ↔ some (r.status.getD "unknown") ∈ doneStatuses := by
  cases r.status with
  | none => decide
  | some s => rfl

theorem status_eq_success {r : ResultRow} :
    r.status = some "success" ↔ r.status.getD "unknown" = "success" := by
  cases r.status with
  | none => decide
  | some s => simp

/-- What the page shows after a result, in terms of the statuses alone. -/
theorem status_onMessage (view : TaskView) {data : Message} (now : DateTime)
    (htype : data.type = "result") :
    (onMessage view data now).status =
      if Done (statuses (receive view.results data now)) then
        if Succeeded (statuses (receive view.results data now)) then .completed else .failed
      else view.status := by
  simp only [onMessage, htype, if_true, Done, Succeeded, statuses, List.forall_mem_map,
    status_mem_doneStatuses, status_eq_success]

theorem results_onMessage (view : TaskView) {data : Message} (now : DateTime)
    (htype : data.type = "result") :
    (onMessage view data now).results = receive view.results data now := by
  rw [onMessage, if_pos htype]

theorem statuses_ne_nil {results : List ResultRow} (h : results ≠ []) : statuses results ≠ [] := by
  rwa [statuses, ne_eq, List.map_eq_nil_iff]

theorem receive_ne_nil {results : List ResultRow} (hne : results ≠ []) (data : Message)
    (now : DateTime) : receive results data now ≠ [] := by
  intro hnil
  have hlength : (receive results data now).length = results.length := List.length_modify _ _ _
  rw [hnil] at hlength
  exact hne (List.length_eq_zero_iff.mp hlength.symm)

/-- The page decides: it knows the verdicts `completed` and `failed` only. -/
theorem displays_of_done {s : State} (hne : statuses s.results ≠ [])
    (hdone : Done (statuses s.results))
    (hstatus : s.view.status =
      if Succeeded (statuses s.results) then .completed else .failed) :
    Displays s ↔ Succeeded (statuses s.results) ∨ "failed" ∈ statuses s.results := by
  have htimeout : "timeout" ∉ statuses s.results := fun hmem =>
    absurd (hdone _ hmem) (by decide)
  rw [displays_of_ended hne (ended_of_done hdone), hstatus]
  by_cases hsuccess : Succeeded (statuses s.results)
  · rw [if_pos hsuccess, endVerdict, if_pos hsuccess]
    exact iff_of_true rfl (.inl hsuccess)
  · rw [if_neg hsuccess, eq_comm, endVerdict_eq_failed_iff, Broken, or_iff_left htimeout,
      or_iff_right hsuccess]

/-- The page shows what it has shown before. -/
theorem displays_of_same_status {s s' : State} (hne : statuses s.results ≠ [])
    (hne' : statuses s'.results ≠ []) (h : Displays s) (hstatus : s'.view.status = s.view.status) :
    Displays s' ↔ (Ended (statuses s'.results) ↔ Ended (statuses s.results)) ∧
      (Ended (statuses s'.results) →
        endVerdict (statuses s'.results) = endVerdict (statuses s.results)) := by
  by_cases hended' : Ended (statuses s'.results)
  · rw [displays_of_ended hne' hended', hstatus, iff_true_left hended', forall_prop_of_true hended']
    by_cases hended : Ended (statuses s.results)
    · rw [(displays_of_ended hne hended).mp h, and_iff_right hended]
      exact eq_comm
    · -- a verdict is final, and the page shows no final status yet
      have hopen := (displays_of_not_ended hended).mp h
      refine iff_of_false (fun hfinal => ?_) fun hand => hended hand.1
      rw [hfinal, endVerdict_isFinal] at hopen
      cases hopen
  · rw [displays_of_not_ended hended', hstatus, iff_false_left hended',
      and_iff_left fun hend => absurd hend hended']
    by_cases hended : Ended (statuses s.results)
    · rw [(displays_of_ended hne hended).mp h, endVerdict_isFinal]
      exact iff_of_false (by decide) (not_not.mpr hended)
    · exact iff_of_true ((displays_of_not_ended hended).mp h) hended

/-- A subscribed page that does not decide keeps its status, and for the server a result has timed
out if all have ended. -/
theorem displays_of_not_done {s s' : State} (hne : statuses s.results ≠ [])
    (hne' : statuses s'.results ≠ []) (h : Displays s) (hdone : ¬Done (statuses s'.results))
    (hstatus : s'.view.status = s.view.status) :
    Displays s' ↔ (Ended (statuses s'.results) ↔ Ended (statuses s.results)) ∧
      (Ended (statuses s'.results) → Broken (statuses s.results)) := by
  rw [displays_of_same_status hne hne' h hstatus]
  refine and_congr_right fun _ => forall_congr' fun hended' => ?_
  have hfailed : endVerdict (statuses s'.results) = .failed :=
    endVerdict_eq_failed_iff.mpr (.inr (timeout_mem_of_not_done hended' hdone))
  rw [hfailed, eq_comm, endVerdict_eq_failed_iff]

/-- The page and the server hold results, the same ones if the page is subscribed, and agree. -/
structure Inv (s : State) : Prop where
  nonempty : s.results ≠ []
  synced : s.subscribed = true → s.view.results = s.results
  displays : Displays s

variable {s s' : State} {report : Report}

/-- From agreement, a reply keeps it exactly when it is agreeable. -/
theorem displays_step_iff (h : step s report = some s') (hinv : Inv s) :
    Displays s' ↔ AgreeableStep s report s' := by
  obtain rfl := Option.some.inj h
  have hne := statuses_ne_nil hinv.nonempty
  have hne' := statuses_ne_nil (receive_ne_nil hinv.nonempty report.message report.now)
  unfold AgreeableStep
  by_cases hsubscribed : s.subscribed = true
  · have hstatus := status_onMessage s.view report.now (rfl : report.message.type = "result")
    rw [hinv.synced hsubscribed] at hstatus
    rw [if_pos hsubscribed, if_pos hsubscribed, Agreeable]
    by_cases hdone : Done (statuses (receive s.results report.message report.now))
    · rw [if_pos hdone] at hstatus
      rw [and_iff_left fun hnot => absurd hdone hnot, forall_prop_of_true hdone]
      exact displays_of_done hne' hdone hstatus
    · rw [if_neg hdone] at hstatus
      rw [and_iff_right fun hyes => absurd hyes hdone, forall_prop_of_true hdone]
      exact displays_of_not_done hne hne' hinv.displays hdone hstatus
  · rw [if_neg hsubscribed, if_neg hsubscribed, Unmoved, ← endVerdict_eq_iff]
    exact displays_of_same_status hne hne' hinv.displays rfl

/-- An agreeable reply keeps the invariant. -/
theorem inv_step (h : step s report = some s') (hinv : Inv s)
    (hguard : AgreeableStep s report s') : Inv s' := by
  have hdisplays := (displays_step_iff h hinv).mpr hguard
  obtain rfl := Option.some.inj h
  refine ⟨receive_ne_nil hinv.nonempty _ _, fun hsubscribed => ?_, hdisplays⟩
  dsimp only at hsubscribed ⊢
  rw [if_pos hsubscribed, results_onMessage _ _ rfl, hinv.synced hsubscribed]

/-- **The task page.**  A page that opens in agreement with the server stays so while the agents
reply exactly when every reply is agreeable in its turn; where `decode_token` refuses the empty
text, the page has no socket, and that is when no reply changes the verdict. -/
theorem displays_iff (decodes : String → Bool) (status : TaskStatus) (results : List ResultRow)
    (reports : List Report) (hne : results ≠ []) :
    (Displays (viewTask decodes status results) ∧
      Along step (fun _ _ s' => Displays s') (viewTask decodes status results) reports) ↔
      Displays (viewTask decodes status results) ∧
        Along step AgreeableStep (viewTask decodes status results) reports := by
  apply and_congr_right
  intro hopened
  have hinv : Inv (viewTask decodes status results) := ⟨hne, fun _ => rfl, hopened⟩
  refine along_iff ?_ ?_ hinv
  · intro s report s' h hinv
    exact displays_step_iff h hinv
  · intro s report s' h hinv hguard
    exact inv_step h hinv hguard

/-- One result for each of the statuses, numbered from 0 on. -/
def rowsOf (statuses : List String) : List ResultRow :=
  statuses.zipIdx.map fun (s, i) => ⟨toString i, some s, none, none⟩

def reportOf (commandId status : String) : Report := ⟨commandId, some status, some "", 0⟩

/-- `decode_token` refuses the empty text at least. -/
def decodesNonempty (token : String) : Bool := token ≠ ""

theorem displays_first_reply :
    Displays (viewTask decodesNonempty .running (rowsOf ["sent", "sent"])) ∧
      Along step (fun _ _ s' => Displays s')
        (viewTask decodesNonempty .running (rowsOf ["sent", "sent"])) [reportOf "0" "success"] :=
  (displays_iff decodesNonempty .running (rowsOf ["sent", "sent"]) [reportOf "0" "success"]
    (by decide)).mpr (by decide)

/-- The view of a running task is open while its only command succeeds: the server completes the
task, and the page goes on showing that it runs. -/
theorem page_keeps_running :
    Displays (viewTask decodesNonempty .running (rowsOf ["sent"])) ∧
      ¬Along step (fun _ _ s' => Displays s')
        (viewTask decodesNonempty .running (rowsOf ["sent"])) [reportOf "0" "success"] ∧
      (exec step (viewTask decodesNonempty .running (rowsOf ["sent"]))
        [reportOf "0" "success"]).map (fun s => (s.view.status, syncVerdict (statuses s.results))) =
          some (.running, some .completed) := by
  decide

/-- With a socket, a late success in a cancelled task is shown as a failure. -/
example : (onMessage ⟨.cancelled, rowsOf ["success", "cancelled", "cancelled"]⟩
      (reportOf "1" "success").message 0).status = .failed ∧
    syncVerdict ["success", "success", "cancelled"] = some .cancelled := by
  decide

end LanAgent.TaskPage
