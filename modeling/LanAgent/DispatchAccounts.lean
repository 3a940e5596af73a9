import LanAgent.TaskRoutes

/-!
# What a dispatch accounts for — `create_task` with nothing in between

The requested ids are compared with the ids that exist, but they are gone through as they were
requested: an id that is requested twice has two results and is sent two commands.  All of them are
parameters of one query, and the database binds only so many.
-/

namespace LanAgent.DispatchAccounts

open Library

/-- The results the creation leaves, in the order of the commands. -/
def createdResults (db : Database) (payload : TaskCreate) (draw : TaskDraw) : List TaskResult :=
  List.zipWith dispatch (dispatchAll (newResults db.devices payload.deviceIds draw) draw)
    (newResults db.devices payload.deviceIds draw)

/-- The rows whose commands were transmitted. -/
def transmitted (db : Database) (payload : TaskCreate) (draw : TaskDraw) : List TaskResult :=
  ((newResults db.devices payload.deviceIds draw).zipIdx.filter (fun item => draw.sent item.2)).map
    Prod.fst

/-- The ids drawn are new, and those of the results are distinct. -/
structure FreshDraw (db : Database) (payload : TaskCreate) (draw : TaskDraw) : Prop where
  task : ∀ t ∈ db.tasks, t.id ≠ draw.id.val
  distinct : ((newResults db.devices payload.deviceIds draw).map TaskResult.id).Nodup
  results : ∀ r ∈ newResults db.devices payload.deviceIds draw, ∀ r' ∈ db.results, r'.id ≠ r.id

/-- The creation goes through: its type is known, the database can bind its ids, and the ids drawn
are new. -/
structure Accepted (db : Database) (payload : TaskCreate) (draw : TaskDraw) : Prop where
  taskType : (TaskType.ofValue? payload.taskType).isSome = true
  few : ¬Sqlite.TooManyVariables draw.maxVariables payload.deviceIds
  fresh : FreshDraw db payload draw

/-- A requested device that exists. -/
def Requested (db : Database) (payload : TaskCreate) (deviceId : String) : Prop :=
  deviceId ∈ payload.deviceIds ∧ (db.devices.find? deviceId).isSome

/-- The result of a command: sent with its start, or failed with its finish. -/
def ResultOf (wasTransmitted : Prop) (r : TaskResult) : Prop :=
  (wasTransmitted → r.status = "sent" ∧ r.startedAt.isSome = true) ∧
    (¬wasTransmitted → r.status = "failed" ∧ r.finishedAt.isSome = true)

/-- The creation accounts for every requested device once. -/
structure Accounts (db : Database) (payload : TaskCreate) (hasParams : Bool) (draw : TaskDraw)
    (result : Database × Except HttpError Task) (task : Task) (created : List TaskResult) :
    Prop where
  answer : result.2 = .ok task
  rows : result.1.results.rows = db.results.rows ++ created
  ofTask : ∀ r ∈ created, r.taskId = task.id
  once : ∀ deviceId, Requested db payload deviceId →
    (created.map TaskResult.deviceId).count deviceId = 1
  noOther : ∀ r ∈ created, Requested db payload r.deviceId
  oneCommand : ((transmitted db payload draw).map TaskResult.deviceId).Nodup
  skipped : ∀ deviceId,
    deviceId ∈ (taskAudit db.devices payload hasParams).skippedUnknownDevices.getD [] ↔
      deviceId ∈ payload.deviceIds ∧ db.devices.find? deviceId = none
  outcome : ∀ r ∈ created, ResultOf (r.id ∈ (transmitted db payload draw).map TaskResult.id) r
  status : task ∈ result.1.tasks ∧
    task.status = if transmitted db payload draw = [] then .failed else .running

variable {db : Database} {payload : TaskCreate} {draw : TaskDraw} {taskType : TaskType}

/-! ## The created rows -/

theorem mem_validIds {devices : Devices} {deviceIds : List String} {deviceId : String} :
    deviceId ∈ validIds devices deviceIds ↔
      deviceId ∈ deviceIds ∧ (devices.find? deviceId).isSome := by
  rw [validIds, List.mem_filter]

theorem deviceId_dispatch (outcome : Dispatched) (tr : TaskResult) :
    (dispatch outcome tr).deviceId = tr.deviceId := by
  unfold dispatch
  split <;> rfl

theorem length_createdResults (db : Database) (payload : TaskCreate) (draw : TaskDraw) :
    (createdResults db payload draw).length = (validIds db.devices payload.deviceIds).length := by
  simp [createdResults, dispatchAll, newResults]

theorem getElem_createdResults {i : Nat} (hi : i < (createdResults db payload draw).length)
    (hi' : i < (validIds db.devices payload.deviceIds).length) :
    (createdResults db payload draw)[i] =
      dispatch ⟨(draw.resultId i).val, draw.sent i, draw.returned i⟩
        (pendingResult draw.id.val (draw.resultId i).val
          (validIds db.devices payload.deviceIds)[i]) := by
  simp [createdResults, dispatchAll, newResults, pendingResult]

theorem map_deviceId_createdResults (db : Database) (payload : TaskCreate) (draw : TaskDraw) :
    (createdResults db payload draw).map TaskResult.deviceId =
      validIds db.devices payload.deviceIds := by
  apply List.ext_getElem
  · rw [List.length_map, length_createdResults]
  · intro i hi hi'
    rw [List.length_map] at hi
    rw [List.getElem_map, getElem_createdResults hi hi', deviceId_dispatch]
    rfl

theorem map_deviceId_newResults (devices : Devices) (deviceIds : List String)
    (draw : TaskDraw) :
    (newResults devices deviceIds draw).map TaskResult.deviceId = validIds devices deviceIds := by
  apply List.ext_getElem
  · simp [newResults]
  · intro i hi hi'
    simp [newResults, pendingResult]

theorem transmitted_sublist (db : Database) (payload : TaskCreate) (draw : TaskDraw) :
    (transmitted db payload draw).Sublist (newResults db.devices payload.deviceIds draw) := by
  have hfilter : ((newResults db.devices payload.deviceIds draw).zipIdx.filter
      (fun item => draw.sent item.2)).Sublist
        (newResults db.devices payload.deviceIds draw).zipIdx := List.filter_sublist
  have hmap := hfilter.map Prod.fst
  rwa [List.zipIdx_map_fst] at hmap

/-- The `i`-th command was transmitted exactly when its result is among those transmitted. -/
theorem resultId_mem_transmitted
    (hdistinct : ((newResults db.devices payload.deviceIds draw).map TaskResult.id).Nodup) {i : Nat}
    (hi : i < (validIds db.devices payload.deviceIds).length) :
    (draw.resultId i).val ∈ (transmitted db payload draw).map TaskResult.id ↔
      draw.sent i = true := by
  have hlength : (newResults db.devices payload.deviceIds draw).length =
      (validIds db.devices payload.deviceIds).length := by simp [newResults]
  have hid : ∀ j (hj : j < (newResults db.devices payload.deviceIds draw).length),
      (newResults db.devices payload.deviceIds draw)[j].id = (draw.resultId j).val := by
    intro j hj
    simp [newResults, pendingResult]
  simp only [transmitted, List.map_map, List.mem_map, List.mem_filter, Function.comp_apply,
    Prod.exists, List.mem_zipIdx_iff_getElem?]
  apply Iff.intro
  · rintro ⟨r, j, ⟨hr, hsent⟩, heq⟩
    obtain ⟨hj, rfl⟩ := List.getElem?_eq_some_iff.mp hr
    -- no two results have the same id
    have hids : ((newResults db.devices payload.deviceIds draw).map TaskResult.id).length =
        (newResults db.devices payload.deviceIds draw).length := List.length_map _
    have hi' : i < ((newResults db.devices payload.deviceIds draw).map TaskResult.id).length := by
      omega
    have hj' : j < ((newResults db.devices payload.deviceIds draw).map TaskResult.id).length := by
      omega
    have hval : ((newResults db.devices payload.deviceIds draw).map TaskResult.id)[i] =
        ((newResults db.devices payload.deviceIds draw).map TaskResult.id)[j] := by
      rw [List.getElem_map, List.getElem_map, hid i, hid j, ← heq, hid j]
    have hsame : i = j := (List.Nodup.getElem_inj_iff hdistinct).mp hval
    rwa [hsame]
  · intro hsent
    exact ⟨_, i, ⟨List.getElem?_eq_getElem (hlength ▸ hi), hsent⟩, hid i (hlength ▸ hi)⟩

/-! ## The creation -/

/-- A creation with fresh ids. -/
theorem createTask_of_fresh (htype : TaskType.ofValue? payload.taskType = some taskType)
    (hlimit : ¬Sqlite.TooManyVariables draw.maxVariables payload.deviceIds)
    (hfresh : FreshDraw db payload draw) :
    ∃ task, (createTask db payload draw).2 = .ok task ∧ task.id = draw.id.val ∧
      task.status = sentCountStatus
        (dispatchAll (newResults db.devices payload.deviceIds draw) draw) ∧
      task ∈ (createTask db payload draw).1.tasks ∧
      (createTask db payload draw).1.results.rows =
        db.results.rows ++ createdResults db payload draw := by
  set rows := newResults db.devices payload.deviceIds draw with hrows
  have hfree : ∀ t ∈ db.tasks, t.id ≠ (pendingTask draw.id.val taskType draw.now).id :=
    hfresh.task
  obtain ⟨tasks, htasks⟩ := Option.isSome_iff_exists.mp (Table.insert?_isSome_iff.mpr hfree)
  obtain ⟨results, hresults⟩ := Table.exists_insertAll? hfresh.distinct hfresh.results
  have hpending : commitPending db (pendingTask draw.id.val taskType draw.now) rows =
      some { db with tasks := tasks, results := results } := by
    rw [commitPending, htasks, hresults]
  have heq := mem_tasks_commitSentCount hpending (dispatchAll rows draw)
    (t := { pendingTask draw.id.val taskType draw.now with
      status := sentCountStatus (dispatchAll rows draw) })
  rw [createTask, htype]
  dsimp only
  rw [if_neg hlimit, ← hrows, hpending]
  refine ⟨_, rfl, rfl, rfl, heq.mpr (.inr rfl), ?_⟩
  rw [commitSentCount_results]
  exact Table.rows_updateEach (Table.rows_insertAll? hresults) (dispatchAll_rows rows draw)

theorem any_success_iff (rows : List TaskResult) (draw : TaskDraw) :
    (dispatchAll rows draw).any Dispatched.success = true ↔
      ∃ i, i < rows.length ∧ draw.sent i = true := by
  rw [List.any_eq_true]
  apply Iff.intro
  · rintro ⟨outcome, houtcome, hsuccess⟩
    obtain ⟨i, hi, rfl⟩ := List.mem_mapIdx.mp houtcome
    exact ⟨i, hi, hsuccess⟩
  · rintro ⟨i, hi, hsent⟩
    exact ⟨_, List.mem_mapIdx.mpr ⟨i, hi, rfl⟩, hsent⟩

theorem transmitted_eq_nil_iff : transmitted db payload draw = [] ↔
    ¬∃ i, i < (newResults db.devices payload.deviceIds draw).length ∧ draw.sent i = true := by
  rw [transmitted, List.map_eq_nil_iff, List.filter_eq_nil_iff]
  apply Iff.intro
  · rintro h ⟨i, hi, hsent⟩
    exact h (_, i) (List.mem_zipIdx_iff_getElem?.mpr (List.getElem?_eq_getElem hi)) hsent
  · rintro h ⟨r, i⟩ hmem hsent
    have hi := (List.getElem?_eq_some_iff.mp (List.mem_zipIdx_iff_getElem?.mp hmem)).1
    exact h ⟨i, hi, hsent⟩

theorem sentCountStatus_eq (db : Database) (payload : TaskCreate) (draw : TaskDraw) :
    sentCountStatus (dispatchAll (newResults db.devices payload.deviceIds draw) draw) =
      if transmitted db payload draw = [] then .failed else .running := by
  rw [sentCountStatus]
  by_cases hany : ∃ i, i < (newResults db.devices payload.deviceIds draw).length ∧
      draw.sent i = true
  · rw [if_pos ((any_success_iff _ draw).mpr hany),
      if_neg fun hnil => transmitted_eq_nil_iff.mp hnil hany]
  · rw [if_neg (mt (any_success_iff _ draw).mp hany), if_pos (transmitted_eq_nil_iff.mpr hany)]

theorem mem_skipped_iff (devices : Devices) (payload : TaskCreate) (hasParams : Bool)
    (deviceId : String) :
    deviceId ∈ (taskAudit devices payload hasParams).skippedUnknownDevices.getD [] ↔
      deviceId ∈ payload.deviceIds ∧ devices.find? deviceId = none := by
  have hskipped : deviceId ∈ skippedIds devices payload.deviceIds ↔
      deviceId ∈ payload.deviceIds ∧ devices.find? deviceId = none := by
    rw [skippedIds, List.mem_filter, Option.isNone_iff_eq_none]
  rw [← hskipped, taskAudit]
  dsimp only
  split
  · rfl
  · rename_i hnone
    rw [not_or, not_not] at hnone
    rw [hnone.2]
    rfl

theorem outcome_created (hfresh : FreshDraw db payload draw) {r : TaskResult}
    (hr : r ∈ createdResults db payload draw) :
    r.taskId = draw.id.val ∧
      ResultOf (r.id ∈ (transmitted db payload draw).map TaskResult.id) r := by
  obtain ⟨i, hi, rfl⟩ := List.getElem_of_mem hr
  have hi' : i < (validIds db.devices payload.deviceIds).length := by
    rwa [length_createdResults] at hi
  rw [getElem_createdResults hi hi', dispatch_taskId]
  refine ⟨rfl, ?_⟩
  have hid := resultId_mem_transmitted hfresh.distinct hi'
  rw [dispatch_id]
  apply And.intro
  · intro hmem
    rw [dispatch, if_pos (hid.mp hmem)]
    exact ⟨rfl, rfl⟩
  · intro hmem
    rw [dispatch, if_neg (mt hid.mpr hmem)]
    exact ⟨rfl, rfl⟩

theorem accepted_iff :
    (∃ task, (createTask db payload draw).2 = .ok task) ↔ Accepted db payload draw := by
  apply Iff.intro
  · rintro ⟨task, h⟩
    unfold createTask at h
    split at h
    · cases h
    · rename_i taskType htype
      dsimp only at h
      by_cases hlimit : Sqlite.TooManyVariables draw.maxVariables payload.deviceIds
      · rw [if_pos hlimit] at h
        cases h
      rw [if_neg hlimit] at h
      split at h
      · cases h
      · rename_i hpending
        obtain ⟨-, htask, hrows⟩ := commitPending_eq_some hpending
        have hkeys := Table.insertAll?_keys hrows
        exact ⟨Option.isSome_of_eq_some htype, hlimit,
          (Table.insert?_eq_some htask).2, hkeys.1, hkeys.2⟩
  · rintro ⟨htype, hlimit, hfresh⟩
    obtain ⟨taskType, htype⟩ := Option.isSome_iff_exists.mp htype
    obtain ⟨task, hanswer, -⟩ := createTask_of_fresh htype hlimit hfresh
    exact ⟨task, hanswer⟩

/-- The devices whose commands are transmitted, by the place of each among the existing ones. -/
theorem mem_transmitted_deviceId {deviceId : String} :
    deviceId ∈ (transmitted db payload draw).map TaskResult.deviceId ↔
      ∃ i, (validIds db.devices payload.deviceIds)[i]? = some deviceId ∧ draw.sent i = true := by
  simp only [transmitted, List.mem_map, List.mem_filter, Prod.exists, List.mem_zipIdx_iff_getElem?]
  rw [← map_deviceId_newResults db.devices payload.deviceIds draw]
  simp only [List.getElem?_map, Option.map_eq_some_iff]
  apply Iff.intro
  · rintro ⟨tr, ⟨_, i, ⟨hget, hsent⟩, rfl⟩, rfl⟩
    exact ⟨i, ⟨_, hget, rfl⟩, hsent⟩
  · rintro ⟨i, ⟨tr, hget, rfl⟩, hsent⟩
    exact ⟨tr, ⟨tr, i, ⟨hget, hsent⟩, rfl⟩, rfl⟩

/-- A request with too many ids is answered with an error. -/
theorem createTask_of_tooMany (htype : TaskType.ofValue? payload.taskType = some taskType)
    (hlimit : Sqlite.TooManyVariables draw.maxVariables payload.deviceIds) :
    createTask db payload draw = (db, .error internalServerError) := by
  rw [createTask, htype]
  exact if_pos hlimit

/-- **The accounts of a dispatch.**  A creation accounts for every requested device once exactly
when no existing device is requested twice, and no more ids are requested than the database binds in
a statement. -/
theorem accounts_iff (db : Database) (payload : TaskCreate) (hasParams : Bool) (draw : TaskDraw)
    (htype : (TaskType.ofValue? payload.taskType).isSome) (hfresh : FreshDraw db payload draw) :
    (∃ task created,
        Accounts db payload hasParams draw (createTask db payload draw) task created) ↔
      (validIds db.devices payload.deviceIds).Nodup ∧
        payload.deviceIds.length ≤ draw.maxVariables := by
  obtain ⟨taskType, htype⟩ := Option.isSome_iff_exists.mp htype
  by_cases hlimit : Sqlite.TooManyVariables draw.maxVariables payload.deviceIds
  · refine iff_of_false ?_ fun h => absurd hlimit (not_lt.mpr h.2)
    rintro ⟨task, created, haccounts⟩
    have hanswer := haccounts.answer
    rw [createTask_of_tooMany htype hlimit] at hanswer
    cases hanswer
  rw [and_iff_left (not_lt.mp hlimit)]
  obtain ⟨task, hanswer, hid, hstatus, hstored, hrows⟩ := createTask_of_fresh htype hlimit hfresh
  apply Iff.intro
  · rintro ⟨task', created, haccounts⟩
    have hsame : created = createdResults db payload draw :=
      List.append_cancel_left (haccounts.rows.symm.trans hrows)
    rw [List.nodup_iff_count_le_one]
    intro deviceId
    by_cases hrequested : Requested db payload deviceId
    · have honce := haccounts.once deviceId hrequested
      rw [hsame, map_deviceId_createdResults] at honce
      exact honce.le
    · rw [List.count_eq_zero_of_not_mem (mt mem_validIds.mp hrequested)]
      exact Nat.zero_le 1
  · intro hnodup
    refine ⟨task, createdResults db payload draw, hanswer, hrows, ?_, ?_, ?_, ?_,
      mem_skipped_iff db.devices payload hasParams, ?_, hstored, ?_⟩
    · intro r hr
      rw [hid]
      exact (outcome_created hfresh hr).1
    · intro deviceId hrequested
      rw [map_deviceId_createdResults]
      exact List.count_eq_one_of_mem hnodup (mem_validIds.mpr hrequested)
    · intro r hr
      have hmem : r.deviceId ∈ (createdResults db payload draw).map TaskResult.deviceId :=
        List.mem_map_of_mem hr
      rw [map_deviceId_createdResults] at hmem
      exact mem_validIds.mp hmem
    · rw [← map_deviceId_newResults db.devices payload.deviceIds draw] at hnodup
      exact hnodup.sublist ((transmitted_sublist db payload draw).map _)
    · intro r hr
      exact (outcome_created hfresh hr).2
    · rw [hstatus, sentCountStatus_eq]

/-- One device that exists, and the payload that asks for it and for one that does not. -/
def oneDevice : Database := { Database.empty with
  devices := ⟨[Device.new firstUuid secondUuid 0], by decide +kernel⟩ }

def requestFor (deviceIds : List String) : TaskCreate := ⟨"shutdown", deviceIds⟩

/-- A draw with two results; only the first command is transmitted. -/
def twoResultsDraw : TaskDraw where
  maxVariables := 32766
  now := 1
  id := firstUuid
  resultId := fun i => if i = 0 then firstUuid else secondUuid
  sent := fun i => i = 0
  returned := fun _ => 2

theorem accounts_one_device :
    ∃ task created, Accounts oneDevice (requestFor [firstUuid.val, secondUuid.val]) false
      twoResultsDraw (createTask oneDevice (requestFor [firstUuid.val, secondUuid.val])
        twoResultsDraw) task created :=
  (accounts_iff oneDevice (requestFor [firstUuid.val, secondUuid.val]) false twoResultsDraw
    (by decide) ⟨by decide, by decide, by decide⟩).mpr
    (by decide)

/-- The device is requested twice: it has two results, and with both commands transmitted it is
shut down twice. -/
theorem requested_twice :
    (¬∃ task created, Accounts oneDevice (requestFor [firstUuid.val, firstUuid.val]) false
      twoResultsDraw (createTask oneDevice (requestFor [firstUuid.val, firstUuid.val])
        twoResultsDraw) task created) ∧
    (transmitted oneDevice (requestFor [firstUuid.val, firstUuid.val])
      { twoResultsDraw with sent := fun _ => true }).map TaskResult.deviceId =
        [firstUuid.val, firstUuid.val] := by
  refine ⟨?_, by decide⟩
  rintro ⟨task, created, haccounts⟩
  have hrows : (createTask oneDevice (requestFor [firstUuid.val, firstUuid.val])
      twoResultsDraw).1.results.rows.map TaskResult.deviceId =
        [firstUuid.val, firstUuid.val] := by decide
  have honce := haccounts.once firstUuid.val ⟨by decide, by decide⟩
  rw [haccounts.rows] at hrows
  have hcreated : created.map TaskResult.deviceId = [firstUuid.val, firstUuid.val] := hrows
  rw [hcreated] at honce
  exact absurd honce (by decide)

end LanAgent.DispatchAccounts
