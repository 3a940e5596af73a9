import LanAgent.Library.Runs
import LanAgent.Server

/-!
# Isolation — the results a frame can write

A frame that arrives on the socket of one device names the result it reports on.  It should reach
only results of that device and the tasks these belong to.  `frames_isolated_iff` says which frames
keep to that.
-/

namespace LanAgent.Isolation

open Library Library.Runs

/-! ## The property -/

/-- The result has the status, output and finish time it had. -/
def Kept (db' : Database) (r : TaskResult) : Prop :=
  ∃ r' ∈ db'.results, r'.id = r.id ∧ r'.status = r.status ∧ r'.output = r.output ∧
    r'.finishedAt = r.finishedAt

instance (db' : Database) (r : TaskResult) : Decidable (Kept db' r) := by
  unfold Kept
  infer_instance

def TaskKept (db' : Database) (t : Task) : Prop :=
  ∃ t' ∈ db'.tasks, t'.id = t.id ∧ t'.status = t.status

/-- The device has a result of the task. -/
def Takes (db : Database) (deviceId : String) (t : Task) : Prop :=
  ∃ r ∈ db.results, r.taskId = t.id ∧ r.deviceId = deviceId

/-- At most one result is written, and it is one of the device; at most one task changes its
status, and the device takes part in it. -/
structure Isolated (db : Database) (deviceId : String) (db' : Database) : Prop where
  results : ∀ r ∈ db.results, Kept db' r ∨ r.deviceId = deviceId
  one_result : ∀ r ∈ db.results, ∀ s ∈ db.results, ¬Kept db' r → ¬Kept db' s → r = s
  tasks : ∀ t ∈ db.tasks, TaskKept db' t ∨ Takes db deviceId t
  one_task : ∀ t ∈ db.tasks, ∀ u ∈ db.tasks, ¬TaskKept db' t → ¬TaskKept db' u → t = u

theorem Isolated.refl (db : Database) (deviceId : String) : Isolated db deviceId db where
  results r hr := .inl ⟨r, hr, rfl, rfl, rfl, rfl⟩
  one_result r hr _ _ hlost := absurd ⟨r, hr, rfl, rfl, rfl, rfl⟩ hlost
  tasks t ht := .inl ⟨t, ht, rfl, rfl⟩
  one_task t ht _ _ hlost := absurd ⟨t, ht, rfl, rfl⟩ hlost

/-! ## The condition -/

/-- The reply says what the row holds, at the moment the row has been finished. -/
def Repeats (reply : Reply) (now : DateTime) : Prop :=
  reply.status = reply.row.status ∧ reply.output = reply.row.output ∧
    reply.row.finishedAt = some now

/-- An accepted reply is for a result of the device; or it repeats what is stored, and the parent
task is one the device takes part in or is left alone. -/
def OwnFrame (rt : Runtime) (db : Database) (deviceId data : String) (now : DateTime) : Prop :=
  ∀ reply, readReply rt db.results data = .ok (some reply) →
    reply.row.deviceId = deviceId ∨ (Repeats reply now ∧
      ∀ t ∈ db.tasks, t.id = reply.row.taskId → Takes db deviceId t ∨
        (∃ e, storeReplySysinfo rt db.devices deviceId reply now = .error e) ∨
        syncVerdict ((db.resultsOf t.id).map TaskResult.status) = none ∨
        syncVerdict ((db.resultsOf t.id).map TaskResult.status) = some t.status)

/-! ## Replies -/

section Reply

variable {db db' : Database} {reply : Reply} {now : DateTime} (hrow : reply.row ∈ db.results)
  (hresults : db'.results = (commitReply db reply now).results)

include hrow hresults

theorem kept_other {r : TaskResult} (hr : r ∈ db.results) (hother : r.id ≠ reply.row.id) :
    Kept db' r := by
  refine ⟨r, ?_, rfl, rfl, rfl, rfl⟩
  rw [hresults]
  exact (mem_commitReply hrow).mpr (.inl ⟨hr, hother⟩)

theorem kept_row_iff : Kept db' reply.row ↔ Repeats reply now := by
  unfold Kept
  rw [hresults]
  apply Iff.intro
  · intro h
    rcases h with ⟨r, hr, hid, hstatus, houtput, hfinished⟩
    rcases (mem_commitReply hrow).mp hr with ⟨_, hother⟩ | rfl
    -- the row with this id has been replaced by the reply
    · exact absurd hid hother
    · exact ⟨hstatus, houtput, hfinished.symm⟩
  · intro h
    exact ⟨reply.assigned now, (mem_commitReply hrow).mpr (.inr rfl), rfl, h.1, h.2.1, h.2.2.symm⟩

/-- **The commit of a reply** and whatever becomes of its parent task. -/
theorem isolated_iff {deviceId : String}
    (htasks : ∀ t ∈ db.tasks, t.id ≠ reply.row.taskId → TaskKept db' t) :
    Isolated db deviceId db' ↔ reply.row.deviceId = deviceId ∨ (Repeats reply now ∧
      ∀ t ∈ db.tasks, t.id = reply.row.taskId → TaskKept db' t ∨ Takes db deviceId t) := by
  apply Iff.intro
  · intro h
    by_cases hown : reply.row.deviceId = deviceId
    · exact .inl hown
    · refine .inr ⟨?_, fun t ht _ => h.tasks t ht⟩
      exact (kept_row_iff hrow hresults).mp ((h.results reply.row hrow).resolve_right hown)
  · intro h
    -- only the row of the reply and its parent are written at all
    have hthis : ∀ r ∈ db.results, ¬Kept db' r → r = reply.row := by
      intro r hr hlost
      by_cases hid : r.id = reply.row.id
      · exact db.results.eq_of_key_eq hr hrow hid
      · exact absurd (kept_other hrow hresults hr hid) hlost
    have hparent : ∀ t ∈ db.tasks, ¬TaskKept db' t → t.id = reply.row.taskId := by
      intro t ht hlost
      by_contra hid
      exact hlost (htasks t ht hid)
    refine ⟨fun r hr => ?_, fun r hr s hs hlost hlost' => ?_, fun t ht => ?_,
      fun t ht u hu hlost hlost' => ?_⟩
    · by_cases hkept : Kept db' r
      · exact .inl hkept
      · have hsame := hthis r hr hkept
        rw [hsame] at hkept ⊢
        refine .inr (h.resolve_right fun hrepeats => hkept ?_)
        exact (kept_row_iff hrow hresults).mpr hrepeats.1
    · rw [hthis r hr hlost, hthis s hs hlost']
    · by_cases hlost : TaskKept db' t
      · exact .inl hlost
      · have hid := hparent t ht hlost
        rcases h with hown | hrepeats
        · exact .inr ⟨reply.row, hrow, hid.symm, hown⟩
        · exact hrepeats.2 t ht hid
    · exact db.tasks.eq_of_key_eq ht hu ((hparent t ht hlost).trans (hparent u hu hlost').symm)

end Reply

/-! ## The parent task -/

section Parent

variable {db : Database} {taskId : String} {t : Task} (ht : t ∈ db.tasks)

include ht

theorem taskKept_syncParentTask_of_ne (hother : t.id ≠ taskId) :
    TaskKept (syncParentTask db taskId) t := by
  refine ⟨t, ?_, rfl, rfl⟩
  rw [mem_syncParentTask]
  split
  · exact ht
  · exact ⟨t, ht, if_neg hother⟩

theorem taskKept_syncParentTask_iff (hid : t.id = taskId) :
    TaskKept (syncParentTask db taskId) t ↔
      syncVerdict ((db.resultsOf taskId).map TaskResult.status) = none ∨
        syncVerdict ((db.resultsOf taskId).map TaskResult.status) = some t.status := by
  unfold TaskKept
  simp only [mem_syncParentTask]
  cases hverdict : syncVerdict ((db.resultsOf taskId).map TaskResult.status) with
  -- without a verdict nothing is written
  | none => exact iff_of_true ⟨t, ht, rfl, rfl⟩ (.inl rfl)
  | some verdict =>
      apply Iff.intro
      · intro h
        rcases h with ⟨t', ⟨t₀, ht₀, rfl⟩, hid', hstatus⟩
        -- the row that stands for the task is the one the verdict was written to
        have hthis : t₀.id = taskId := by
          by_contra hother
          rw [if_neg hother] at hid'
          exact hother (hid'.trans hid)
        rw [if_pos hthis] at hstatus
        exact .inr (congrArg some hstatus)
      · intro h
        rcases h with h | h
        · cases h
        · exact ⟨_, ⟨t, ht, if_pos hid⟩, rfl, Option.some.inj h⟩

end Parent

/-! ## Frames -/

/-- **One frame** on the socket of a device, in any database. -/
theorem frame_isolated_iff {rt : Runtime} {db : Database} {deviceId data : String}
    {now : DateTime} {broadcastOk : Bool} :
    Isolated db deviceId (handleFrame rt db deviceId data now broadcastOk).1 ↔
      OwnFrame rt db deviceId data now := by
  have hcase := handleFrame_outcome rt db deviceId data now broadcastOk
  generalize handleFrame rt db deviceId data now broadcastOk = result at hcase
  unfold OwnFrame
  cases hcase with
  | rejected e hread =>
      apply iff_of_true (.refl db deviceId)
      intro reply hreply
      rw [hread] at hreply
      cases hreply
  | unnamed hread =>
      apply iff_of_true (.refl db deviceId)
      intro reply hreply
      rw [hread] at hreply
      cases hreply
  | unsynced reply hread e hsysinfo =>
      -- the handler raises before it looks at the parent
      have hkept : ∀ t ∈ db.tasks, TaskKept (commitReply db reply now) t :=
        fun t ht => ⟨t, ht, rfl, rfl⟩
      rw [isolated_iff (readReply_mem hread) rfl fun t ht _ => hkept t ht]
      simp only [hread, Except.ok.injEq, Option.some.injEq, forall_eq']
      refine or_congr_right (and_congr_right fun _ => ?_)
      refine iff_of_true (fun t ht _ => .inl (hkept t ht)) fun t _ _ => ?_
      exact .inr (.inl ⟨e, hsysinfo⟩)
  | stored reply hread devices hsysinfo =>
      have hrow := readReply_mem hread
      let stored : Database := { commitReply db reply now with devices := devices }
      have hkept : ∀ t ∈ db.tasks, t.id ≠ reply.row.taskId →
          TaskKept (syncParentTask stored reply.row.taskId) t :=
        fun t ht hother => taskKept_syncParentTask_of_ne (show t ∈ stored.tasks from ht) hother
      apply (isolated_iff hrow (syncParentTask_results stored _) hkept).trans
      simp only [hread, Except.ok.injEq, Option.some.injEq, forall_eq']
      refine or_congr_right (and_congr_right fun hrepeats => ?_)
      refine forall_congr' fun t => imp_congr_right fun ht => imp_congr_right fun hid => ?_
      -- a repetition leaves the statuses the verdict is about
      have hverdict : (stored.resultsOf reply.row.taskId).map TaskResult.status =
          (db.resultsOf t.id).map TaskResult.status := by
        rw [hid]
        exact statuses_commitReply reply.row.taskId hrow hrepeats.1
      rw [taskKept_syncParentTask_iff (show t ∈ stored.tasks from ht) hid, hverdict, or_comm]
      refine or_congr_right (or_iff_right fun hfailed => ?_).symm
      -- the hardware information has been stored, so it did not raise
      rcases hfailed with ⟨e, he⟩
      rw [hsysinfo] at he
      cases he

/-! ## Whole runs -/

def FrameIsolated (db : Database) : Request → Database → Prop
  | .frame deviceId _ _ _, db' => Isolated db deviceId db'
  | _, _ => True

def Own (settings : Settings) (db : Database) : Request → Database → Prop
  | .frame deviceId data now _, _ => OwnFrame settings.runtime db deviceId data now
  | _, _ => True

/-- **Results are isolated per device** in exactly the runs, from any database on, whose frames
report on results of their own device or repeat what is stored. -/
theorem frames_isolated_iff (settings : Settings) (db : Database) (requests : List Request) :
    Along (serve settings) FrameIsolated db requests ↔
      Along (serve settings) (Own settings) db requests := by
  have hiff : ∀ db request db', serve settings db request = some db' → True →
      (FrameIsolated db request db' ↔ Own settings db request db') := by
    intro db request db' h _
    rw [serve, Option.some.injEq] at h
    rw [← h]
    cases request with
    | frame deviceId data now broadcastOk => exact frame_isolated_iff
    | _ => exact Iff.rfl
  exact along_iff hiff (fun _ _ _ _ _ _ => trivial) trivial

/-- A second device. -/
def secondDraw : Draw where
  now := 0
  id := ⟨"55555555-5555-4555-8555-555555555555", by decide +kernel⟩
  token := ⟨"66666666-6666-4666-8666-666666666666", by decide +kernel⟩

/-- The agent of the second device, which may connect with its token, answers the command that the
first one has been sent. -/
theorem other_device_overwrites : ¬∀ db, exec (serve exampleSettings) .empty
    (oneSent ++ [.createDevice {} secondDraw]) = some db →
      socketAuthorized db.devices secondDraw.id.val secondDraw.token.val = some true →
        Isolated db secondDraw.id.val (handleFrame exampleSettings.runtime db secondDraw.id.val
          answer 3 true).1 := by
  intro h
  -- one run reaches the database, and the socket of the second device is authorised there
  have hisolated := h _ rfl (by decide +kernel)
  exact absurd hisolated.results (by decide +kernel)

end LanAgent.Isolation
