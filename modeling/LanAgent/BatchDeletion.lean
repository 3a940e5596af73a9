import LanAgent.AuditPurge
import LanAgent.DeviceRoutes

/-!
# Deletions one by one and together — `delete_device` and `batch_delete_devices`

Both routes with the connection registry and the uninstall commands they try to send.  The batch
selects its devices by an explicit list of ids, and the database takes only so many bound parameters
in a statement.  `agrees_iff` says when a batch does the same as single deletions in any order.
-/

namespace LanAgent.BatchDeletion

open Library

/-! ## The connection manager -/

structure Manager where
  activeConnections : List String
  /-- Whether `send_text` raises no exception. -/
  sendOk : String → Bool

def Manager.isAgentOnline (manager : Manager) (deviceId : String) : Bool :=
  deviceId ∈ manager.activeConnections

/-- `send_command`, with the devices that something was sent to. -/
def Manager.sendCommand (manager : Manager) (deviceId : String) : Bool × List String :=
  if deviceId ∈ manager.activeConnections then (manager.sendOk deviceId, [deviceId])
  else (false, [])

/-- The uninstall command that both routes send in front of a deletion. -/
def Manager.uninstall (manager : Manager) (device : Device) : Bool × List String :=
  if device.status = .online ∧ manager.isAgentOnline device.id = true then
    manager.sendCommand device.id
  else (false, [])

/-! ## The routes -/

structure Outcome where
  devices : Devices
  /-- The devices that the command was sent to, whether or not it got there. -/
  attempts : List String

section Routes

variable (manager : Manager)

theorem id_softDelete (now : DateTime) (d : Device) : (softDelete d now).id = d.id := rfl

def deleteDevice (devices : Devices) (deviceId : String) (now : DateTime) :
    Outcome × Except HttpError Bool :=
  match devices.find? deviceId with
  | none => (⟨devices, []⟩, .error ⟨404, "Device not found"⟩)
  | some device =>
      let (uninstalled, attempts) := manager.uninstall device
      (⟨devices.updateKey deviceId (fun d => softDelete d now) (id_softDelete now), attempts⟩,
        .ok uninstalled)

/-- The ids one by one, each at its own time; an answer 404 ends nothing. -/
def deleteEach (now : String → DateTime) (devices : Devices) : List String → Outcome
  | [] => ⟨devices, []⟩
  | id :: ids =>
      let first := (deleteDevice manager devices id (now id)).1
      let rest := deleteEach now first.devices ids
      ⟨rest.devices, first.attempts ++ rest.attempts⟩

/-- The database takes up to `limit` bound parameters. -/
def batchDeleteDevices (limit : Nat) (devices : Devices) (deviceIds : List String)
    (now : String → DateTime) : Outcome × Except HttpError BatchDeleteAnswer :=
  if Sqlite.TooManyVariables limit deviceIds then (⟨devices, []⟩, .error internalServerError)
  else
    let selected := devices.rows.filter (fun d => deviceIds.contains d.id)
    let sent := selected.map manager.uninstall
    (⟨devices.update (fun d => deviceIds.contains d.id) (fun d => softDelete d (now d.id)),
        sent.flatMap Prod.snd⟩,
      .ok
        { deleted := selected.length
          requested := deviceIds.length
          uninstallSent := (sent.filter Prod.fst).length })

end Routes

/-! ## The property and its condition -/

/-- The record up to the time of its deletion. -/
def undated (d : Device) : Device := { d with deletedAt := d.deletedAt.map (fun _ => 0) }

/-- Deleted, and shown as offline. -/
def Gone (d : Device) : Prop := d.deletedAt.isSome = true ∧ d.status = .offline

structure Agrees (devices : Devices) (ids : List String) (batch each : Outcome) : Prop where
  records : ∀ id, (batch.devices.find? id).map undated = (each.devices.find? id).map undated
  gone : ∀ id ∈ ids, ∀ d ∈ batch.devices.find? id, Gone d
  others : ∀ id ∉ ids, batch.devices.find? id = devices.find? id ∧
    each.devices.find? id = devices.find? id
  attempts : batch.attempts.Perm each.attempts
  once : batch.attempts.Nodup

def Manager.reaches (manager : Manager) (devices : Devices) (id : String) : Bool :=
  (devices.find? id).any (fun d => d.status = .online) && manager.isAgentOnline id

section Deletion

variable {manager : Manager} {devices : Devices} {now : String → DateTime}

/-! ## One deletion -/

theorem uninstall_eq (manager : Manager) (d : Device) : manager.uninstall d =
    if d.status = .online ∧ manager.isAgentOnline d.id = true then (manager.sendOk d.id, [d.id])
    else (false, []) := by
  unfold Manager.uninstall Manager.sendCommand Manager.isAgentOnline
  by_cases hconnected : d.id ∈ manager.activeConnections
  · simp [hconnected]
  · simp [hconnected]

theorem uninstall_attempts (manager : Manager) (d : Device) : (manager.uninstall d).2 =
    if d.status = .online ∧ manager.isAgentOnline d.id = true then [d.id] else [] := by
  rw [uninstall_eq, apply_ite Prod.snd]

theorem uninstall_sent (manager : Manager) (d : Device) : (manager.uninstall d).1 =
    (d.status = .online && manager.isAgentOnline d.id && manager.sendOk d.id) := by
  rw [uninstall_eq, apply_ite Prod.fst]
  simp

theorem deleteDevice_of_none {id : String} (hfind : devices.find? id = none) (at_ : DateTime) :
    deleteDevice manager devices id at_ =
      (⟨devices, []⟩, .error ⟨404, "Device not found"⟩) := by
  unfold deleteDevice
  rw [hfind]

theorem deleteDevice_of_some {id : String} {device : Device}
    (hfind : devices.find? id = some device) (at_ : DateTime) :
    deleteDevice manager devices id at_ =
      (⟨devices.updateKey id (fun d => softDelete d at_), (manager.uninstall device).2⟩,
        .ok (manager.uninstall device).1) := by
  unfold deleteDevice
  rw [hfind]

theorem deleteDevice_attempts (id : String) (at_ : DateTime) :
    (deleteDevice manager devices id at_).1.attempts =
      if manager.reaches devices id then [id] else [] := by
  cases hfind : devices.find? id with
  | none =>
      have hreaches : manager.reaches devices id = false := by simp [Manager.reaches, hfind]
      rw [deleteDevice_of_none hfind, hreaches, if_neg Bool.false_ne_true]
  | some device =>
      rw [deleteDevice_of_some hfind, uninstall_attempts, Table.key_of_find? hfind]
      simp [Manager.reaches, hfind]

theorem deleteDevice_find? (id : String) (at_ : DateTime) (id' : String) :
    (deleteDevice manager devices id at_).1.devices.find? id' =
      if id' = id then (devices.find? id').map (fun d => softDelete d at_)
      else devices.find? id' := by
  cases hfind : devices.find? id with
  | none =>
      rw [deleteDevice_of_none hfind]
      by_cases heq : id' = id
      · rw [if_pos heq, heq, hfind]
        rfl
      · rw [if_neg heq]
  | some device =>
      rw [deleteDevice_of_some hfind]
      exact @Table.find?_updateKey _ _ _ devices (fun d => softDelete d at_) _ (fun _ => rfl) id id'

/-- **A single deletion** is the one among the requests to the server. -/
theorem deleteDevice_eq (id : String) (at_ : DateTime) :
    ((deleteDevice manager devices id at_).1.devices, (deleteDevice manager devices id at_).2) =
      LanAgent.deleteDevice devices id (manager.isAgentOnline id) (manager.sendOk id) at_ := by
  unfold LanAgent.deleteDevice
  cases hfind : devices.find? id with
  | none => rw [deleteDevice_of_none hfind]
  | some device =>
      rw [deleteDevice_of_some hfind, uninstall_sent, Table.key_of_find? hfind]

/-! ## One after the other -/

theorem deleteEach_find? (ids : List String) (id : String) :
    (deleteEach manager now devices ids).devices.find? id =
      if id ∈ ids then (devices.find? id).map (fun d => softDelete d (now id))
      else devices.find? id := by
  induction ids generalizing devices with
  | nil => rfl
  | cons first ids ih =>
      rw [deleteEach, ih, deleteDevice_find?]
      by_cases heq : id = first
      · -- deleting it once more at its time changes nothing
        rw [if_pos heq, heq, if_pos List.mem_cons_self, Option.map_map]
        split <;> rfl
      · simp only [List.mem_cons, heq, false_or, if_false]

/-- Marking one device has no influence on the command for another. -/
theorem reaches_deleteDevice {id id' : String} (h : id' ≠ id) (at_ : DateTime) :
    manager.reaches (deleteDevice manager devices id at_).1.devices id' =
      manager.reaches devices id' := by
  unfold Manager.reaches
  rw [deleteDevice_find?, if_neg h]

theorem deleteEach_attempts {ids : List String} (hnodup : ids.Nodup) :
    (deleteEach manager now devices ids).attempts = ids.filter (manager.reaches devices) := by
  induction ids generalizing devices with
  | nil => rfl
  | cons first ids ih =>
      rw [List.nodup_cons] at hnodup
      have hrest : ids.filter (manager.reaches
          (deleteDevice manager devices first (now first)).1.devices) =
            ids.filter (manager.reaches devices) := by
        apply List.filter_congr
        intro id hid
        have hne : id ≠ first := fun heq => hnodup.1 (heq ▸ hid)
        exact reaches_deleteDevice hne _
      rw [deleteEach, deleteDevice_attempts, ih hnodup.2, hrest, List.filter_cons]
      cases manager.reaches devices first <;> rfl

/-! ## All together -/

section Batch

variable {limit : Nat} {ids : List String}

theorem batch_of_le (h : ids.length ≤ limit) :
    (batchDeleteDevices manager limit devices ids now).1 =
      ⟨devices.update (fun d => ids.contains d.id) (fun d => softDelete d (now d.id)),
        (devices.rows.filter (fun d => ids.contains d.id)).flatMap
          (fun d => (manager.uninstall d).2)⟩ := by
  unfold batchDeleteDevices
  rw [if_neg (not_lt.mpr h)]
  dsimp only
  rw [List.flatMap_map]

theorem batch_find? (h : ids.length ≤ limit) (id : String) :
    (batchDeleteDevices manager limit devices ids now).1.devices.find? id =
      if id ∈ ids then (devices.find? id).map (fun d => softDelete d (now id))
      else devices.find? id := by
  rw [batch_of_le h]
  refine (@Table.find?_update _ _ _ devices (fun d => ids.contains d.id)
    (fun d => softDelete d (now d.id)) _ (fun _ => rfl) id).trans ?_
  cases hfind : devices.find? id with
  | none => simp
  | some d =>
      rw [Option.map_some, Table.key_of_find? hfind]
      by_cases hid : id ∈ ids
      · simp [hid]
      · simp [hid]

/-- The commands go to the selected devices that are reached. -/
theorem batch_attempts (h : ids.length ≤ limit) :
    (batchDeleteDevices manager limit devices ids now).1.attempts =
      ((devices.rows.filter (fun d => ids.contains d.id)).filter
        (fun d => manager.reaches devices d.id)).map Device.id := by
  rw [batch_of_le h]
  dsimp only
  have hsent : ∀ d ∈ devices.rows, (manager.uninstall d).2 =
      if manager.reaches devices d.id then [d.id] else [] := by
    intro d hd
    rw [uninstall_attempts, Manager.reaches, Table.find?_key hd]
    simp
  rw [List.flatMap_congr fun d hd => hsent d (List.mem_of_mem_filter hd)]
  induction devices.rows.filter (fun d => ids.contains d.id) with
  | nil => rfl
  | cons d selected ih =>
      rw [List.flatMap_cons, ih, List.filter_cons]
      cases manager.reaches devices d.id <;> rfl

theorem batch_nodup (h : ids.length ≤ limit) :
    (batchDeleteDevices manager limit devices ids now).1.attempts.Nodup := by
  rw [batch_attempts h]
  exact devices.nodup.sublist ((List.filter_sublist.trans List.filter_sublist).map _)

/-- **A batch** is the one among the requests to the server, if the statement is accepted. -/
theorem batchDeleteDevices_eq (h : ids.length ≤ limit) (at_ : DateTime) :
    ((batchDeleteDevices manager limit devices ids (fun _ => at_)).1.devices,
        (batchDeleteDevices manager limit devices ids (fun _ => at_)).2) =
      ((LanAgent.batchDeleteDevices devices ids manager.isAgentOnline manager.sendOk at_).1,
        .ok (LanAgent.batchDeleteDevices devices ids manager.isAgentOnline manager.sendOk
          at_).2) := by
  unfold batchDeleteDevices LanAgent.batchDeleteDevices
  rw [if_neg (not_lt.mpr h)]
  dsimp only
  rw [List.filter_map, List.length_map]
  have hpred : Prod.fst ∘ manager.uninstall = fun d =>
      (d.status = .online && manager.isAgentOnline d.id && manager.sendOk d.id) :=
    funext (uninstall_sent manager)
  rw [hpred]

end Batch

end Deletion

/-! ## The equivalence -/

section Agrees

variable {manager : Manager} {devices : Devices} {limit : Nat} {ids order : List String}
  {nowBatch nowEach : String → DateTime}

theorem agrees_of_le (hnodup : ids.Nodup) (horder : order.Perm ids) (h : ids.length ≤ limit) :
    Agrees devices ids (batchDeleteDevices manager limit devices ids nowBatch).1
      (deleteEach manager nowEach devices order) where
  records id := by
    rw [batch_find? h, deleteEach_find?]
    by_cases hid : id ∈ ids
    · rw [if_pos hid, if_pos (horder.mem_iff.mpr hid), Option.map_map, Option.map_map]
      rfl
    · rw [if_neg hid, if_neg fun hmem => hid (horder.mem_iff.mp hmem)]
  gone id hid d hd := by
    rw [batch_find? h, if_pos hid] at hd
    obtain ⟨d, -, rfl⟩ := Option.map_eq_some_iff.mp hd
    exact ⟨rfl, rfl⟩
  others id hid := by
    rw [batch_find? h, deleteEach_find?, if_neg hid,
      if_neg fun hmem => hid (horder.mem_iff.mp hmem)]
    exact ⟨rfl, rfl⟩
  attempts := by
    have horder' := horder.nodup_iff.mpr hnodup
    rw [deleteEach_attempts horder', List.perm_ext_iff_of_nodup (batch_nodup h) (horder'.filter _)]
    intro id
    rw [batch_attempts h]
    simp only [List.mem_map, List.mem_filter, List.contains_iff_mem, horder.mem_iff]
    constructor
    · rintro ⟨d, ⟨⟨-, hid⟩, hreaches⟩, rfl⟩
      exact ⟨hid, hreaches⟩
    · rintro ⟨hid, hreaches⟩
      -- a device that is reached has a record
      cases hfind : devices.find? id with
      | none => simp [Manager.reaches, hfind] at hreaches
      | some d =>
          obtain ⟨hd, rfl⟩ := Table.find?_eq_some_iff.mp hfind
          exact ⟨d, ⟨⟨hd, hid⟩, hreaches⟩, rfl⟩
  once := batch_nodup h

theorem batch_of_gt (h : limit < ids.length) :
    (batchDeleteDevices manager limit devices ids nowBatch).1 = ⟨devices, []⟩ := by
  rw [batchDeleteDevices, if_pos h]

theorem undated_softDelete {d : Device} (h : Gone d) (at_ : DateTime) :
    undated (softDelete d at_) = undated d := by
  obtain ⟨hdeleted, hstatus⟩ := h
  obtain ⟨time, htime⟩ := Option.isSome_iff_exists.mp hdeleted
  unfold undated softDelete
  rw [htime, ← hstatus]
  rfl

/-- A batch that the database refuses agrees with deletions of what is deleted already. -/
theorem agrees_of_gt (hnodup : ids.Nodup) (horder : order.Perm ids) (h : limit < ids.length)
    (hgone : ∀ id ∈ ids, ∀ d ∈ devices.find? id, Gone d) :
    Agrees devices ids (batchDeleteDevices manager limit devices ids nowBatch).1
      (deleteEach manager nowEach devices order) where
  records id := by
    rw [batch_of_gt h, deleteEach_find?]
    split
    · rename_i hid
      cases hfind : devices.find? id with
      | none => rfl
      | some d =>
          have hd := hgone id (horder.mem_iff.mp hid) d hfind
          rw [Option.map_some, Option.map_some, Option.map_some, undated_softDelete hd]
    · rfl
  gone id hid d hd := by
    rw [batch_of_gt h] at hd
    exact hgone id hid d hd
  others id hid := by
    rw [batch_of_gt h, deleteEach_find?, if_neg fun hmem => hid (horder.mem_iff.mp hmem)]
    exact ⟨rfl, rfl⟩
  attempts := by
    have hnone : order.filter (manager.reaches devices) = [] := by
      rw [List.filter_eq_nil_iff]
      intro id hid hreaches
      cases hfind : devices.find? id with
      | none => simp [Manager.reaches, hfind] at hreaches
      | some d =>
          have hoffline := (hgone id (horder.mem_iff.mp hid) d hfind).2
          simp [Manager.reaches, hfind, hoffline] at hreaches
    rw [batch_of_gt h, deleteEach_attempts (horder.nodup_iff.mpr hnodup), hnone]
  once := by
    rw [batch_of_gt h]
    exact List.nodup_nil

end Agrees

/-- **Batch deletion** agrees with single deletions in any order exactly when the database takes the
list of ids, or all that the ids name is deleted already. -/
theorem agrees_iff (manager : Manager) (limit : Nat) (devices : Devices) (ids : List String)
    (nowBatch nowEach : String → DateTime) (hnodup : ids.Nodup) :
    (∀ order, order.Perm ids →
        Agrees devices ids (batchDeleteDevices manager limit devices ids nowBatch).1
          (deleteEach manager nowEach devices order)) ↔
      ids.length ≤ limit ∨ ∀ id ∈ ids, ∀ d ∈ devices.find? id, Gone d := by
  constructor
  · intro h
    by_cases hlimit : ids.length ≤ limit
    · exact .inl hlimit
    · right
      have hgone := (h ids (List.Perm.refl ids)).gone
      rwa [batch_of_gt (not_le.mp hlimit)] at hgone
  · rintro (hlimit | hgone) order horder
    · exact agrees_of_le hnodup horder hlimit
    · rcases Nat.lt_or_ge limit ids.length with hlimit | hlimit
      · exact agrees_of_gt hnodup horder hlimit hgone
      · exact agrees_of_le hnodup horder hlimit

/-! ### More ids than the database takes -/

def listed : Devices := (createDevice .empty {} issuedDraw).1

def unconnected : Manager := ⟨[], fun _ => true⟩

/-- The device and as many unknown ids as there may be in a statement. -/
def longList : List String :=
  issuedDraw.id.val :: (List.range AuditPurge.maxVariables).map
    (fun n => issuedDraw.id.val ++ String.ofList ('+' :: Decimals.zeroPadded 5 n))

theorem longList_nodup : longList.Nodup := by
  rw [longList, List.nodup_cons]
  constructor
  · intro h
    obtain ⟨n, -, heq⟩ := List.mem_map.mp h
    have hlength := congrArg String.length heq
    rw [String.length_append, String.length_ofList, List.length_cons] at hlength
    omega
  · apply List.Nodup.map_on _ List.nodup_range
    intro m hm n hn heq
    have hchars := congrArg String.toList heq
    rw [String.toList_append, String.toList_append, String.toList_ofList,
      String.toList_ofList] at hchars
    have hdecimals := (List.cons.inj (List.append_cancel_left hchars)).2
    have hbound : AuditPurge.maxVariables < 10 ^ 5 := by decide
    exact Decimals.zeroPadded_inj (by decide) ((List.mem_range.mp hm).trans hbound)
      ((List.mem_range.mp hn).trans hbound) hdecimals

theorem long_batch_refused : longList.Nodup ∧
    ¬Agrees listed longList
      (batchDeleteDevices unconnected AuditPurge.maxVariables listed longList (fun _ => 0)).1
      (deleteEach unconnected (fun _ => 0) listed longList) := by
  refine ⟨longList_nodup, fun h => ?_⟩
  have hlong : AuditPurge.maxVariables < longList.length := by
    rw [longList, List.length_cons, List.length_map, List.length_range]
    exact Nat.lt_succ_self _
  have hfind : listed.find? issuedDraw.id.val =
      some (Device.new issuedDraw.id issuedDraw.token 0) := by
    decide
  have hgone := h.gone issuedDraw.id.val List.mem_cons_self
  rw [batch_of_gt hlong] at hgone
  exact absurd (hgone _ hfind).1 (by decide)

/-- Three ids of which one is unknown. -/
theorem short_batch_agrees : Agrees listed ["a", issuedDraw.id.val, "b"]
    (batchDeleteDevices unconnected AuditPurge.maxVariables listed
      ["a", issuedDraw.id.val, "b"] (fun _ => 0)).1
    (deleteEach unconnected (fun _ => 0) listed ["b", "a", issuedDraw.id.val]) :=
  (agrees_iff unconnected AuditPurge.maxVariables listed ["a", issuedDraw.id.val, "b"] (fun _ => 0)
    (fun _ => 0) (by decide)).mpr (.inl (by decide)) _ (by decide)

end LanAgent.BatchDeletion
