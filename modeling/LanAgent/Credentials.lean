import LanAgent.DeviceRoutes

/-!
# Credentials — which requests of agents the server refuses

An agent proves itself by the token of the record it is about or, for a heartbeat, by the
enrolment secret.  `uncredentialed_refused_iff` says for every table which requests without
either are refused.
-/

namespace LanAgent

open Library

inductive AgentRequest where
  | heartbeat (payload : HeartbeatRequest)
  | recover (payload : RecoverRequest)

namespace AgentRequest

/-- The record a request is about: by device id, a heartbeat else by address. -/
def record (devices : Devices) : AgentRequest → Option Device
  | heartbeat payload => matchDevice devices payload
  | recover payload => devices.find? payload.deviceId

/-- The handlers, with the device id of their answer. -/
def handle (config : Config) (devices : Devices) (headers : Headers) (draw : Draw) :
    AgentRequest → Devices × Except HttpError String
  | heartbeat payload =>
      let result := agentHeartbeat config devices payload headers draw
      (result.1, result.2.map HeartbeatAnswer.deviceId)
  | recover payload => agentRecover devices payload headers draw.now

/-- The request has no credential: its token is not the one of the record, and its enrolment secret
is not the configured one. -/
def Uncredentialed (config : Config) (devices : Devices) (headers : Headers)
    (request : AgentRequest) : Prop :=
  (∀ d, request.record devices = some d → bearerToken headers ≠ d.token) ∧
    enrollSecretValid config headers = false

/-- An error is answered and no record is created or modified. -/
def Refused (config : Config) (devices : Devices) (headers : Headers) (draw : Draw)
    (request : AgentRequest) : Prop :=
  (request.handle config devices headers draw).1 = devices ∧
    ∃ e, (request.handle config devices headers draw).2 = .error e

/-- What protects the record of an uncredentialed request: it has a token, and for a heartbeat it
is not soft-deleted either.  A heartbeat whose integers the driver refuses is also harmless. -/
def Protected (devices : Devices) (request : AgentRequest) : Prop :=
  match request with
  | heartbeat payload =>
      payload.binds = false ∨
        ∀ d, matchDevice devices payload = some d → d.token ≠ "" ∧ d.deletedAt = none
  | recover payload => ∀ d, devices.find? payload.deviceId = some d → d.token ≠ ""

end AgentRequest

open AgentRequest

/-- The record of a heartbeat that could be stored, without a token or soft-deleted. -/
theorem not_protected {devices : Devices} {payload : HeartbeatRequest} {device : Device}
    (hmatch : matchDevice devices payload = some device) (hbinds : payload.binds = true)
    (hexposed : device.token = "" ∨ device.deletedAt.isSome = true) :
    ¬Protected devices (.heartbeat payload) := by
  intro hprotected
  rcases hprotected with hbinds' | hprotected
  · rw [hbinds] at hbinds'
    cases hbinds'
  · obtain ⟨htoken, hlive⟩ := hprotected device hmatch
    rcases hexposed with hnone | hdeleted
    · exact htoken hnone
    · rw [hlive] at hdeleted
      cases hdeleted

theorem heartbeat_refused_iff {config : Config} {devices : Devices} {headers : Headers}
    (draw : Draw) {payload : HeartbeatRequest}
    (h : Uncredentialed config devices headers (.heartbeat payload)) :
    Refused config devices headers draw (.heartbeat payload) ↔
      Protected devices (.heartbeat payload) := by
  have htoken := h.1
  have hsecret := h.2
  have hcase := handleHeartbeat_outcome config devices payload headers (bearerToken headers) draw
  simp only [Refused, handle, agentHeartbeat, Protected]
  generalize handleHeartbeat config devices payload headers (bearerToken headers) draw = result
    at hcase
  cases hcase with
  | updated device hmatch hempty hbinds =>
      -- the stored token is empty, since the presented one is another
      have hnone : device.token = "" := hempty.resolve_right (htoken device hmatch)
      refine iff_of_false (fun hrefused => ?_) (not_protected hmatch hbinds (.inl hnone))
      rcases hrefused.2 with ⟨e, he⟩
      cases he
  | reEnrolled device hmatch _ hallowed hbinds =>
      -- without the secret only a soft-deleted record is handed over
      have hdeleted : device.deletedAt.isSome := by
        rcases hallowed with hdeleted | hvalid
        · exact hdeleted
        · rw [hsecret] at hvalid
          cases hvalid
      refine iff_of_false (fun hrefused => ?_) (not_protected hmatch hbinds (.inr hdeleted))
      rcases hrefused.2 with ⟨e, he⟩
      cases he
  | created devices' hmatch hvalid hbinds hinsert =>
      rw [hsecret] at hvalid
      cases hvalid
  | wrongToken device hmatch hother hrefused =>
      refine iff_of_true ⟨rfl, _, rfl⟩ (.inr fun d hd => ?_)
      rw [hmatch, Option.some.injEq] at hd
      rw [← hd]
      -- a refused request has met a record that is protected
      refine ⟨fun hempty => hother (.inl hempty), ?_⟩
      by_contra hdeleted
      exact hrefused (.inl (Option.isSome_iff_ne_none.mpr hdeleted))
  | wrongSecret hmatch _ =>
      refine iff_of_true ⟨rfl, _, rfl⟩ (.inr fun d hd => ?_)
      rw [hmatch] at hd
      cases hd
  | notBound hbinds => exact iff_of_true ⟨rfl, _, rfl⟩ (.inl hbinds)
  | idTaken hmatch hvalid hbinds hinsert =>
      rw [hsecret] at hvalid
      cases hvalid

theorem recover_refused_iff {config : Config} {devices : Devices} {headers : Headers}
    (draw : Draw) {payload : RecoverRequest}
    (h : Uncredentialed config devices headers (.recover payload)) :
    Refused config devices headers draw (.recover payload) ↔
      Protected devices (.recover payload) := by
  have htoken := h.1
  simp only [Refused, handle, agentRecover, Protected]
  simp only [record] at htoken
  cases hfind : devices.find? payload.deviceId with
  | none => exact iff_of_true ⟨rfl, _, rfl⟩ fun d hd => by cases hd
  | some device =>
      dsimp only
      have hother := htoken device hfind
      by_cases hempty : device.token = ""
      -- a record without a token accepts everybody
      · have hshortcut : ¬(device.token ≠ "" ∧ bearerToken headers ≠ device.token) :=
          fun hboth => hboth.1 hempty
        rw [if_neg hshortcut]
        refine iff_of_false (fun hrefused => ?_) fun hprotected => hprotected device rfl hempty
        rcases hrefused.2 with ⟨e, he⟩
        cases he
      · rw [if_pos ⟨hempty, hother⟩]
        apply iff_of_true ⟨rfl, _, rfl⟩
        intro d hd
        rw [Option.some.injEq] at hd
        exact hd ▸ hempty

/-- **Requests without a credential.**  In every table, a heartbeat or recover request without a
credential is refused and changes nothing exactly when its record, if it has one, is protected. -/
theorem uncredentialed_refused_iff (config : Config) (devices : Devices) (headers : Headers)
    (draw : Draw) (request : AgentRequest) (h : Uncredentialed config devices headers request) :
    Refused config devices headers draw request ↔ Protected devices request := by
  cases request with
  | heartbeat payload => exact heartbeat_refused_iff draw h
  | recover payload => exact recover_refused_iff draw h

def issued : Devices := (createDevice .empty {} issuedDraw).1

def retired : Devices := (deleteDevice issued issuedDraw.id.val false false 1).1

def anonymousHeartbeat : HeartbeatRequest where
  deviceId := some issuedDraw.id.val
  hostname := "h"
  os := "w"
  ip := "10.0.0.9"
  rearmCount := 0
  status := "online"
  agentVersion := "1"
  timestamp := 0

theorem uncredentialed_refused_iff_issued :
    Uncredentialed exampleConfig issued {} (.heartbeat anonymousHeartbeat) ∧
      (Refused exampleConfig issued {} issuedDraw (.heartbeat anonymousHeartbeat) ↔
        Protected issued (.heartbeat anonymousHeartbeat)) := by
  have h : Uncredentialed exampleConfig issued {} (.heartbeat anonymousHeartbeat) := by
    refine ⟨fun d hd htoken => ?_, by decide⟩
    -- no header, so the token to match would be empty
    have hempty : (record issued (.heartbeat anonymousHeartbeat)).map Device.token = some "" := by
      rw [hd, Option.map_some, ← htoken]
      decide
    exact absurd hempty (by decide)
  exact ⟨h, uncredentialed_refused_iff exampleConfig issued {} issuedDraw _ h⟩

/-- Anybody who knows its id takes a soft-deleted record over. -/
theorem retired_taken_over :
    ¬(Uncredentialed exampleConfig retired {} (.heartbeat anonymousHeartbeat) →
      Refused exampleConfig retired {} issuedDraw (.heartbeat anonymousHeartbeat)) := by
  intro h
  have huncredentialed :
      Uncredentialed exampleConfig retired {} (.heartbeat anonymousHeartbeat) := by
    refine ⟨fun d hd htoken => ?_, by decide⟩
    have hempty : (record retired (.heartbeat anonymousHeartbeat)).map Device.token = some "" := by
      rw [hd, Option.map_some, ← htoken]
      decide
    exact absurd hempty (by decide)
  -- the record is restored, so the table has changed
  have hsame := (h huncredentialed).1
  exact absurd hsame (by decide)

end LanAgent
