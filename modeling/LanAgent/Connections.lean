import LanAgent.Library.Runs
import LanAgent.WsRoutes
import Mathlib.Logic.Function.Basic

/-!
# Agent connections — `ConnectionManager` and the life of `agent_websocket`

Any number of sockets of any number of devices go through their handlers: `connect_agent` under
the manager's lock, the commit of ONLINE, the receive loop, `disconnect_agent` with the check
behind it, and the commit of OFFLINE.  `LatestWins` is the agreement of the manager, the sockets
and the stored status; `latest_connection_wins` keeps it along every run in which no handler cleans
up after a newer socket of its device.
-/

namespace LanAgent.Connections

open Library Library.Runs

/-! ## The system -/

/-- Where the handler of a socket is. -/
inductive Phase where
  /-- The token is checked and the socket accepted; it waits for the lock. -/
  | accepted
  /-- It holds the lock and waits for the close of the socket it replaces. -/
  | closing (old : Nat)
  /-- It is in the map; ONLINE is not committed yet. -/
  | registered
  | receiving
  /-- The receive loop has ended; it waits for the lock. -/
  | leaving
  /-- It has removed the device's entry; OFFLINE is not committed yet. -/
  | goingOffline
  | finished
  deriving DecidableEq, Repr

structure Socket where
  device : String
  phase : Phase
  superseded : Bool
  deriving DecidableEq, Repr

namespace Socket

/-- It is registered and has not ended: nobody has replaced it and its handler has not left. -/
def live (c : Socket) : Bool :=
  !c.superseded && (c.phase = .registered || c.phase = .receiving || c.phase = .leaving)

/-- Its commit of ONLINE is done and its cleanup is not. -/
def committedOnline (c : Socket) : Bool := c.phase = .receiving || c.phase = .leaving

/-- Its commit of ONLINE is done and its commit of OFFLINE is not. -/
def owesOffline (c : Socket) : Bool := c.committedOnline || c.phase = .goingOffline

def isNew (c : Socket) : Bool :=
  match c.phase with
  | .accepted => true
  | .closing _ => true
  | _ => false

theorem isNew_of_closing {c : Socket} {old : Nat} (h : c.phase = .closing old) :
    c.isNew = true := by
  rw [isNew, h]

theorem not_live_of_isNew {c : Socket} (h : c.isNew = true) : c.live = false := by
  rcases c with ⟨device, phase, superseded⟩
  cases phase <;> simp_all [isNew, live]

theorem not_owesOffline_of_isNew {c : Socket} (h : c.isNew = true) : c.owesOffline = false := by
  rcases c with ⟨device, phase, superseded⟩
  cases phase <;> simp_all [isNew, owesOffline, committedOnline]

end Socket

structure State where
  devices : Devices
  active : String → Option Nat
  /-- The holder of `_lock` while it is suspended. -/
  lock : Option Nat
  sockets : Nat → Option Socket
  /-- The sockets in the order of their registration, the latest first. -/
  history : List Nat

def start (devices : Devices) : State where
  devices := devices
  active := fun _ => none
  lock := none
  sockets := fun _ => none
  history := []

inductive Event where
  | accept (k : Nat) (device token : String)
  | acquire (k : Nat)
  | closed (k : Nat)
  | setOnline (k : Nat) (now : DateTime)
  | leave (k : Nat)
  /-- `disconnect_agent` and the check behind it. -/
  | remove (k : Nat)
  | setOffline (k : Nat) (now : DateTime)

namespace State

def setSocket (s : State) (k : Nat) (c : Socket) : State :=
  { s with sockets := Function.update s.sockets k (some c) }

def setActive (s : State) (device : String) (k : Option Nat) : State :=
  { s with active := Function.update s.active device k }

def isAgentOnline (s : State) (device : String) : Bool := (s.active device).isSome

/-- The commit of a status at one end of a connection. -/
def commitStatus (s : State) (device : String) (status : DeviceStatus) (now : DateTime) : State :=
  { s with
    devices := s.devices.updateKey device (fun d =>
      { d with status := status, lastHeartbeat := now }) }

/-- `active_connections[device_id] = websocket`, and the release of the lock. -/
def register (s : State) (k : Nat) (c : Socket) : State :=
  { s with
    active := Function.update s.active c.device (some k)
    sockets := Function.update s.sockets k (some { c with phase := .registered })
    history := k :: s.history
    lock := none }

/-- The socket `k` is closed because of a newer one. -/
def supersede (s : State) (k : Nat) : State :=
  match s.sockets k with
  | none => s
  | some c => s.setSocket k { c with superseded := true }

end State

def step (s : State) : Event → Option State
  | .accept k device token =>
      -- an unknown device or a wrong token ends the handler before `connect_agent`
      if s.sockets k = none ∧ socketAuthorized s.devices device token = some true then
        some (s.setSocket k ⟨device, .accepted, false⟩)
      else none
  | .acquire k =>
      match s.sockets k, s.lock with
      | some c, none =>
          if c.phase = .accepted then
            match s.active c.device with
            -- nothing to close: the lock is taken and released without an await in between
            | none => some (s.register k c)
            -- `await old.close()` inside the lock
            | some old =>
                some { s.setSocket k { c with phase := .closing old } with lock := some k }
          else none
      | _, _ => none
  | .closed k =>
      match s.sockets k with
      | some c =>
          match c.phase with
          | .closing old => some ((s.supersede old).register k c)
          | _ => none
      | none => none
  | .setOnline k now =>
      match s.sockets k with
      | some c =>
          if c.phase = .registered then
            some ((s.setSocket k { c with phase := .receiving }).commitStatus c.device .online now)
          else none
      | none => none
  | .leave k =>
      match s.sockets k with
      | some c =>
          if c.phase = .receiving then some (s.setSocket k { c with phase := .leaving }) else none
      | none => none
  | .remove k =>
      match s.sockets k, s.lock with
      | some c, none =>
          if c.phase = .leaving then
            -- `pop(device_id)`, whatever socket is stored there, and the check behind it
            let s := s.setActive c.device none
            some (s.setSocket k
              { c with phase := if s.isAgentOnline c.device then .finished else .goingOffline })
          else none
      | _, _ => none
  | .setOffline k now =>
      match s.sockets k with
      | some c =>
          if c.phase = .goingOffline then
            some ((s.setSocket k { c with phase := .finished }).commitStatus c.device .offline now)
          else none
      | none => none

/-- What a step does, one case for each way the handlers can go on. -/
inductive Step (s : State) : Event → State → Prop
  | accept {k : Nat} {device token : String} (hnone : s.sockets k = none)
      (hauth : socketAuthorized s.devices device token = some true) :
      Step s (.accept k device token) (s.setSocket k ⟨device, .accepted, false⟩)
  | acquireFree {k : Nat} {c : Socket} (hc : s.sockets k = some c) (hlock : s.lock = none)
      (hphase : c.phase = .accepted) (hfree : s.active c.device = none) :
      Step s (.acquire k) (s.register k c)
  | acquireTaken {k old : Nat} {c : Socket} (hc : s.sockets k = some c) (hlock : s.lock = none)
      (hphase : c.phase = .accepted) (htaken : s.active c.device = some old) :
      Step s (.acquire k) { s.setSocket k { c with phase := .closing old } with lock := some k }
  | closed {k old : Nat} {c : Socket} (hc : s.sockets k = some c)
      (hphase : c.phase = .closing old) :
      Step s (.closed k) ((s.supersede old).register k c)
  | setOnline {k : Nat} {c : Socket} {now : DateTime} (hc : s.sockets k = some c)
      (hphase : c.phase = .registered) :
      Step s (.setOnline k now)
        ((s.setSocket k { c with phase := .receiving }).commitStatus c.device .online now)
  | leave {k : Nat} {c : Socket} (hc : s.sockets k = some c) (hphase : c.phase = .receiving) :
      Step s (.leave k) (s.setSocket k { c with phase := .leaving })
  -- the check right behind the removal finds no entry
  | remove {k : Nat} {c : Socket} (hc : s.sockets k = some c) (hlock : s.lock = none)
      (hphase : c.phase = .leaving) :
      Step s (.remove k) ((s.setActive c.device none).setSocket k { c with phase := .goingOffline })
  | setOffline {k : Nat} {c : Socket} {now : DateTime} (hc : s.sockets k = some c)
      (hphase : c.phase = .goingOffline) :
      Step s (.setOffline k now)
        ((s.setSocket k { c with phase := .finished }).commitStatus c.device .offline now)

theorem step_cases {s s' : State} {e : Event} (h : step s e = some s') : Step s e s' := by
  cases e with
  | accept k device token =>
      simp only [step] at h
      split at h
      · rename_i hcond
        cases h
        exact .accept hcond.1 hcond.2
      · cases h
  | acquire k =>
      simp only [step] at h
      split at h
      · rename_i c hc hlock
        split at h
        · rename_i hphase
          split at h
          · rename_i hfree
            cases h
            exact .acquireFree hc hlock hphase hfree
          · rename_i old htaken
            cases h
            exact .acquireTaken hc hlock hphase htaken
        · cases h
      · cases h
  | closed k =>
      simp only [step] at h
      split at h
      · rename_i c hc
        split at h
        · rename_i old hphase
          cases h
          exact .closed hc hphase
        · cases h
      · cases h
  | setOnline k now =>
      simp only [step] at h
      split at h
      · rename_i c hc
        split at h
        · rename_i hphase
          cases h
          exact .setOnline hc hphase
        · cases h
      · cases h
  | leave k =>
      simp only [step] at h
      split at h
      · rename_i c hc
        split at h
        · rename_i hphase
          cases h
          exact .leave hc hphase
        · cases h
      · cases h
  | remove k =>
      simp only [step] at h
      split at h
      · rename_i c hc hlock
        split at h
        · rename_i hphase
          have hempty : (s.setActive c.device none).isAgentOnline c.device = false := by
            simp [State.setActive, State.isAgentOnline]
          rw [hempty, Option.some.injEq] at h
          rw [← h]
          exact .remove hc hlock hphase
        · cases h
      · cases h
  | setOffline k now =>
      simp only [step] at h
      split at h
      · rename_i c hc
        split at h
        · rename_i hphase
          cases h
          exact .setOffline hc hphase
        · cases h
      · cases h

theorem supersede_devices (s : State) (k : Nat) : (s.supersede k).devices = s.devices := by
  unfold State.supersede
  split <;> rfl

/-- The table after a step of a socket: as before, or with one status committed. -/
theorem step_devices {s s' : State} {event : Event} (h : step s event = some s') :
    (s'.devices = s.devices ∧ ∀ k now, event ≠ .setOnline k now) ∨
      ∃ k c now, s.sockets k = some c ∧
        ((event = .setOnline k now ∧
            s'.devices = (s.commitStatus c.device .online now).devices) ∨
          (event = .setOffline k now ∧
            s'.devices = (s.commitStatus c.device .offline now).devices)) := by
  cases step_cases h with
  | setOnline hc hphase => exact .inr ⟨_, _, _, hc, .inl ⟨rfl, rfl⟩⟩
  | setOffline hc hphase => exact .inr ⟨_, _, _, hc, .inr ⟨rfl, rfl⟩⟩
  | @closed k old c hc hphase =>
      exact .inl ⟨supersede_devices s old, fun _ _ => Event.noConfusion⟩
  | _ => exact .inl ⟨rfl, fun _ _ => Event.noConfusion⟩

/-! ## The property -/

def Has (s : State) (k : Nat) (device : String) (p : Socket → Bool) : Prop :=
  ∃ c, s.sockets k = some c ∧ c.device = device ∧ p c = true

def isLive (s : State) (device : String) (k : Nat) : Bool :=
  match s.sockets k with
  | none => false
  | some c => c.device = device && c.live

/-- The most recently registered socket of the device that has not ended. -/
def latest (s : State) (device : String) : Option Nat := s.history.find? (isLive s device)

def statusOf (s : State) (device : String) : Option DeviceStatus :=
  (s.devices.find? device).map Device.status

/-- No handler of the device is between two of its steps: it has finished, or it waits in its
receive loop on a socket that is still open. -/
def Settled (s : State) (device : String) : Prop :=
  ∀ k c, s.sockets k = some c → c.device = device →
    c.phase = .finished ∨ (c.phase = .receiving ∧ c.superseded = false)

structure LatestWins (s : State) : Prop where
  active : ∀ device, s.active device = latest s device
  status : ∀ device, Settled s device →
    (statusOf s device = some .online ↔ ∃ k, Has s k device Socket.live)

/-! ## The condition -/

def otherRegistered (s : State) (device : String) (k : Nat) : Bool :=
  match s.active device with
  | none => false
  | some k' => k' ≠ k

def otherOnline (s : State) (device : String) : Bool :=
  match s.active device with
  | none => false
  | some k =>
      match s.sockets k with
      | none => false
      | some c => c.phase ≠ .registered

/-- No handler removes the entry of another socket, or commits OFFLINE after another socket of its
device has committed ONLINE. -/
def CleansUpAlone (s : State) : Event → State → Prop
  | .remove k, _ =>
      match s.sockets k with
      | none => True
      | some c => otherRegistered s c.device k = false
  | .setOffline k _, _ =>
      match s.sockets k with
      | none => True
      | some c => otherOnline s c.device = false
  | _, _ => True

/-! ## Frames -/

section Frames

variable {s : State} {k k' : Nat} {c : Socket} {device : String} {p : Socket → Bool}

theorem Has.of_eq (hc : s.sockets k = some c) :
    Has s k device p ↔ c.device = device ∧ p c = true := by
  unfold Has
  rw [hc]
  simp

theorem not_has_of_none (hc : s.sockets k = none) : ¬Has s k device p := by
  intro h
  rcases h with ⟨c, hc', _⟩
  rw [hc] at hc'
  cases hc'

theorem setSocket_self : (s.setSocket k c).sockets k = some c := by
  simp [State.setSocket]

theorem setSocket_of_ne (hne : k' ≠ k) : (s.setSocket k c).sockets k' = s.sockets k' := by
  simp [State.setSocket, hne]

theorem forall_setSocket {P : Nat → Socket → Prop} (hk : P k c)
    (hrest : ∀ k' d, k' ≠ k → s.sockets k' = some d → P k' d) (k' : Nat) (d : Socket)
    (hd : (s.setSocket k c).sockets k' = some d) : P k' d := by
  by_cases hne : k' = k
  · rw [hne, setSocket_self, Option.some.injEq] at hd
    rw [hne, ← hd]
    exact hk
  · rw [setSocket_of_ne hne] at hd
    exact hrest k' d hne hd

theorem has_setSocket_self : Has (s.setSocket k c) k device p ↔ c.device = device ∧ p c = true :=
  Has.of_eq setSocket_self

theorem has_setSocket_of_ne (hne : k' ≠ k) :
    Has (s.setSocket k c) k' device p ↔ Has s k' device p := by
  unfold Has
  rw [setSocket_of_ne hne]

theorem has_setSocket_congr (hsame : Has s k device p ↔ c.device = device ∧ p c = true) :
    Has (s.setSocket k c) k' device p ↔ Has s k' device p := by
  by_cases hne : k' = k
  · rw [hne, has_setSocket_self, hsame]
  · exact has_setSocket_of_ne hne

theorem statusOf_commitStatus_self {status : DeviceStatus} {now : DateTime}
    (hknown : (s.devices.find? device).isSome) :
    statusOf (s.commitStatus device status now) device = some status := by
  rcases Option.isSome_iff_exists.mp hknown with ⟨d, hd⟩
  rw [statusOf, State.commitStatus, Table.find?_updateKey_self, hd, Option.map_some,
    Option.map_some]

theorem statusOf_commitStatus_of_ne {device' : String} {status : DeviceStatus} {now : DateTime}
    (hne : device' ≠ device) :
    statusOf (s.commitStatus device status now) device' = statusOf s device' := by
  rw [statusOf, State.commitStatus, Table.find?_updateKey_of_ne hne, statusOf]

theorem find?_commitStatus_isSome {device' : String} {status : DeviceStatus} {now : DateTime}
    (h : (s.devices.find? device').isSome) :
    ((s.commitStatus device status now).devices.find? device').isSome := by
  rw [State.commitStatus, Table.find?_updateKey]
  split
  · rw [Option.isSome_map]
    exact h
  · exact h

theorem isLive_eq_true_iff : isLive s device k = true ↔ Has s k device Socket.live := by
  unfold isLive
  cases hc : s.sockets k with
  | none => simpa using not_has_of_none hc
  | some c => simp [Has.of_eq hc]

end Frames

/-! ## The invariant -/

/-- The part of the invariant that does not mention the manager. -/
structure Core (s : State) : Prop where
  history : ∀ device k, Has s k device Socket.live → k ∈ s.history
  /-- Only registered sockets are superseded. -/
  fresh : ∀ k c, s.sockets k = some c → c.isNew = true → c.superseded = false
  online : ∀ device k, Has s k device (fun c => c.live && c.committedOnline) →
    statusOf s device = some .online
  /-- ONLINE is always followed by a commit of OFFLINE that is still to come. -/
  owed : ∀ device, statusOf s device = some .online → ∃ k, Has s k device Socket.owesOffline
  known : ∀ k c, s.sockets k = some c → (s.devices.find? c.device).isSome

structure Inv (s : State) : Prop extends Core s where
  active : ∀ device k, s.active device = some k ↔ Has s k device Socket.live
  /-- The socket that is being closed stays in the map, since its closer has the lock. -/
  lock : ∀ k c, s.sockets k = some c → ∀ old, c.phase = .closing old →
    s.lock = some k ∧ s.active c.device = some old

theorem inv_start {devices : Devices} (hdevices : ∀ d ∈ devices, d.status ≠ .online) :
    Inv (start devices) where
  history device k h := absurd h (not_has_of_none rfl)
  fresh k c h := by cases h
  online device k h := absurd h (not_has_of_none rfl)
  owed device h := by
    rcases Option.map_eq_some_iff.mp h with ⟨d, hd, hstatus⟩
    exact absurd hstatus (hdevices d (Table.mem_of_find? hd))
  known k c h := by cases h
  active device k := by
    refine iff_of_false (fun h => ?_) (not_has_of_none rfl)
    cases h
  lock k c h := by cases h

theorem Inv.latestWins {s : State} (hinv : Inv s) : LatestWins s where
  active device := by
    unfold latest
    cases hactive : s.active device with
    | none =>
        symm
        rw [List.find?_eq_none]
        intro k _ hlive
        -- a live socket would be in the map
        have hk := (hinv.active device k).mpr (isLive_eq_true_iff.mp hlive)
        rw [hactive] at hk
        cases hk
    | some k =>
        have hlive := (hinv.active device k).mp hactive
        symm
        cases hfind : s.history.find? (isLive s device) with
        | none =>
            -- the registered socket is live, so the search does find one
            have hdead := List.find?_eq_none.mp hfind k (hinv.history device k hlive)
            exact absurd (isLive_eq_true_iff.mpr hlive) hdead
        | some k' =>
            -- what it finds is live, and the map has one socket a device
            have hlive' := isLive_eq_true_iff.mp (List.find?_some hfind)
            have hk' := (hinv.active device k').mpr hlive'
            rw [hactive] at hk'
            exact hk'.symm
  status device hsettled := by
    apply Iff.intro
    · intro hstatus
      rcases hinv.owed device hstatus with ⟨k, c, hc, hdevice, howes⟩
      rcases hsettled k c hc hdevice with hphase | ⟨hphase, hopen⟩
      -- a finished handler owes nothing
      · rw [Socket.owesOffline, Socket.committedOnline, hphase] at howes
        exact absurd howes (by decide)
      -- a handler in its receive loop has a live socket
      · refine ⟨k, c, hc, hdevice, ?_⟩
        rw [Socket.live, hopen, hphase]
        rfl
    · intro hlive
      rcases hlive with ⟨k, c, hc, hdevice, hlive⟩
      apply hinv.online device k
      refine ⟨c, hc, hdevice, ?_⟩
      rcases hsettled k c hc hdevice with hphase | ⟨hphase, _⟩
      · rw [Socket.live, hphase] at hlive
        simp at hlive
      · show (c.live && c.committedOnline) = true
        rw [hlive, Socket.committedOnline, hphase]
        rfl

/-! ## One step -/

section Rewrite

variable {s : State} {k : Nat} {c : Socket} (c' : Socket) (hc : s.sockets k = some c)
  (hdevice : c'.device = c.device)

include hc hdevice

theorem has_rewrite {p : Socket → Bool} (hp : p c' = p c) (device : String) (k' : Nat) :
    Has (s.setSocket k c') k' device p ↔ Has s k' device p := by
  apply has_setSocket_congr
  rw [Has.of_eq hc, hdevice, hp]

/-- The sockets of another device stay as they are. -/
theorem has_of_device_ne {p : Socket → Bool} {device : String} (hne : device ≠ c.device)
    (k' : Nat) : Has (s.setSocket k c') k' device p ↔ Has s k' device p := by
  apply has_setSocket_congr
  rw [Has.of_eq hc, hdevice]
  exact iff_of_false (fun h => hne h.1.symm) fun h => hne h.1.symm

/-- A handler goes on without a change of what the others see of its socket. -/
theorem core_rewrite (hcore : Core s) (hlive : c'.live = c.live)
    (honline : c'.committedOnline = c.committedOnline) (howes : c'.owesOffline = c.owesOffline)
    (hfresh : c'.isNew = true → c'.superseded = false) : Core (s.setSocket k c') where
  history device k' h := hcore.history device k' ((has_rewrite c' hc hdevice hlive device k').mp h)
  fresh := forall_setSocket hfresh fun k' d _ => hcore.fresh k' d
  online device k' h := by
    apply hcore.online device k'
    refine (has_rewrite c' hc hdevice ?_ device k').mp h
    show (c'.live && c'.committedOnline) = (c.live && c.committedOnline)
    rw [hlive, honline]
  owed device h := by
    rcases hcore.owed device h with ⟨k', hk'⟩
    exact ⟨k', (has_rewrite c' hc hdevice howes device k').mpr hk'⟩
  known := forall_setSocket (hdevice ▸ hcore.known k c hc) fun k' d _ => hcore.known k' d

end Rewrite

theorem Inv.not_closing {s : State} (hinv : Inv s) (hlock : s.lock = none) {k old : Nat}
    {c : Socket} (hc : s.sockets k = some c) : c.phase ≠ .closing old := by
  intro hphase
  have hheld := (hinv.lock k c hc old hphase).1
  rw [hlock] at hheld
  cases hheld

theorem inv_accept {s : State} (hinv : Inv s) {k : Nat} {device : String}
    (hnone : s.sockets k = none) (hknown : (s.devices.find? device).isSome) :
    Inv (s.setSocket k ⟨device, .accepted, false⟩) := by
  -- a socket that is only accepted has none of the properties of the invariant
  have hhas : ∀ {p : Socket → Bool}, p ⟨device, .accepted, false⟩ = false → ∀ device' k',
      Has (s.setSocket k ⟨device, .accepted, false⟩) k' device' p ↔ Has s k' device' p := by
    intro p hp device' k'
    apply has_setSocket_congr
    apply iff_of_false (not_has_of_none hnone)
    intro h
    rw [hp] at h
    exact absurd h.2 (by decide)
  refine ⟨⟨?_, ?_, ?_, ?_, ?_⟩, ?_, ?_⟩
  · intro device' k' h
    exact hinv.history device' k' ((hhas rfl device' k').mp h)
  · exact forall_setSocket (fun _ => rfl) fun k' d _ => hinv.fresh k' d
  · intro device' k' h
    exact hinv.online device' k' ((hhas rfl device' k').mp h)
  · intro device' h
    rcases hinv.owed device' h with ⟨k', hk'⟩
    exact ⟨k', (hhas rfl device' k').mpr hk'⟩
  · exact forall_setSocket hknown fun k' d _ => hinv.known k' d
  · intro device' k'
    rw [hhas rfl]
    exact hinv.active device' k'
  · exact forall_setSocket (fun old h => by cases h) fun k' d _ => hinv.lock k' d

theorem inv_rewrite {s : State} (hinv : Inv s) {k : Nat} {c c' : Socket}
    (hc : s.sockets k = some c) (hdevice : c'.device = c.device) (hlive : c'.live = c.live)
    (honline : c'.committedOnline = c.committedOnline) (howes : c'.owesOffline = c.owesOffline)
    (hfresh : c'.isNew = true → c'.superseded = false)
    (hphase : ∀ old, c'.phase ≠ .closing old) : Inv (s.setSocket k c') where
  toCore := core_rewrite c' hc hdevice hinv.toCore hlive honline howes hfresh
  active device k' := by
    rw [has_rewrite c' hc hdevice hlive]
    exact hinv.active device k'
  lock := forall_setSocket (fun old h => absurd h (hphase old)) fun k' d _ => hinv.lock k' d

/-! ### Registration -/

theorem register_self (s : State) (k : Nat) (c : Socket) :
    (s.register k c).sockets k = some { c with phase := .registered } := by
  simp [State.register]

theorem register_of_ne (s : State) {k k' : Nat} (c : Socket) (hne : k' ≠ k) :
    (s.register k c).sockets k' = s.sockets k' := by
  simp [State.register, hne]

theorem has_register_of_ne {s : State} {k k' : Nat} {c : Socket} {device : String}
    {p : Socket → Bool} (hne : k' ≠ k) :
    Has (s.register k c) k' device p ↔ Has s k' device p := by
  unfold Has
  rw [register_of_ne s c hne]

section Register

variable {s : State} {k : Nat} {c : Socket} (hcore : Core s) (hc : s.sockets k = some c)
  (hnew : c.isNew = true)

include hcore hc hnew

theorem live_register_self (device : String) :
    Has (s.register k c) k device Socket.live ↔ c.device = device := by
  rw [Has.of_eq (register_self s k c), and_iff_left]
  rw [Socket.live, hcore.fresh k c hc hnew]
  rfl

theorem core_register : Core (s.register k c) where
  history device k' h := by
    by_cases hne : k' = k
    · rw [hne]
      exact List.mem_cons_self
    · exact List.mem_cons_of_mem k (hcore.history device k' ((has_register_of_ne hne).mp h))
  fresh k' d hd hnew' := by
    by_cases hne : k' = k
    · rw [hne, register_self, Option.some.injEq] at hd
      rw [← hd] at hnew'
      cases hnew'
    · rw [register_of_ne s c hne] at hd
      exact hcore.fresh k' d hd hnew'
  online device k' h := by
    by_cases hne : k' = k
    -- the new socket has not committed ONLINE yet
    · rw [hne, Has.of_eq (register_self s k c)] at h
      exact absurd h.2 (by simp [Socket.committedOnline])
    · exact hcore.online device k' ((has_register_of_ne hne).mp h)
  owed device h := by
    rcases hcore.owed device h with ⟨k', hk'⟩
    -- the one that owes OFFLINE has been registered before, so it is another one
    have hne : k' ≠ k := by
      intro heq
      rw [heq, Has.of_eq hc, Socket.not_owesOffline_of_isNew hnew] at hk'
      exact absurd hk'.2 (by decide)
    exact ⟨k', (has_register_of_ne hne).mpr hk'⟩
  known k' d hd := by
    by_cases hne : k' = k
    · rw [hne, register_self, Option.some.injEq] at hd
      rw [← hd]
      exact hcore.known k c hc
    · rw [register_of_ne s c hne] at hd
      exact hcore.known k' d hd

theorem inv_register
    (hactive : ∀ device k', device ≠ c.device →
      (s.active device = some k' ↔ Has s k' device Socket.live))
    (hnone : ∀ k', ¬Has s k' c.device Socket.live)
    (hclosing : ∀ k' c' old, k' ≠ k → s.sockets k' = some c' → c'.phase ≠ .closing old) :
    Inv (s.register k c) where
  toCore := core_register hcore hc hnew
  active device k' := by
    show Function.update s.active c.device (some k) device = some k' ↔ _
    by_cases hdevice : device = c.device
    · rw [hdevice, Function.update_self, Option.some.injEq]
      by_cases hne : k' = k
      · rw [hne, live_register_self hcore hc hnew]
        exact iff_of_true rfl rfl
      · rw [has_register_of_ne hne]
        exact iff_of_false (fun h => hne h.symm) (hnone k')
    · rw [Function.update_of_ne hdevice, hactive device k' hdevice]
      by_cases hne : k' = k
      · rw [hne, live_register_self hcore hc hnew, Has.of_eq hc]
        exact iff_of_false (fun h => hdevice h.1.symm) (fun h => hdevice h.symm)
      · rw [has_register_of_ne hne]
  lock k' d hd old hphase := by
    by_cases hne : k' = k
    · rw [hne, register_self, Option.some.injEq] at hd
      rw [← hd] at hphase
      cases hphase
    · rw [register_of_ne s c hne] at hd
      exact absurd hphase (hclosing k' d old hne hd)

end Register

theorem inv_acquire_free {s : State} (hinv : Inv s) {k : Nat} {c : Socket}
    (hc : s.sockets k = some c) (hlock : s.lock = none) (hphase : c.phase = .accepted)
    (hfree : s.active c.device = none) : Inv (s.register k c) := by
  have hnew : c.isNew = true := by rw [Socket.isNew, hphase]
  refine inv_register hinv.toCore hc hnew (fun device k' _ => hinv.active device k') ?_ ?_
  · intro k' hlive
    have hk' := (hinv.active c.device k').mpr hlive
    rw [hfree] at hk'
    cases hk'
  · intro k' c' old _ hc'
    exact hinv.not_closing hlock hc'

theorem inv_acquire_taken {s : State} (hinv : Inv s) {k old : Nat} {c : Socket}
    (hc : s.sockets k = some c) (hlock : s.lock = none) (hphase : c.phase = .accepted)
    (htaken : s.active c.device = some old) :
    Inv { s.setSocket k { c with phase := .closing old } with lock := some k } := by
  have hfresh := hinv.fresh k c hc (by rw [Socket.isNew, hphase])
  have hlive : ({ c with phase := .closing old } : Socket).live = c.live := by
    simp [Socket.live, hphase]
  have honline : ({ c with phase := .closing old } : Socket).committedOnline =
      c.committedOnline := by
    simp [Socket.committedOnline, hphase]
  have howes : ({ c with phase := .closing old } : Socket).owesOffline = c.owesOffline := by
    simp [Socket.owesOffline, Socket.committedOnline, hphase]
  have hcore : Core (s.setSocket k { c with phase := .closing old }) :=
    core_rewrite { c with phase := .closing old } hc rfl hinv.toCore hlive honline howes
      fun _ => hfresh
  have hsame : ∀ device k', Has (s.setSocket k { c with phase := .closing old }) k' device
      Socket.live ↔ Has s k' device Socket.live :=
    has_rewrite { c with phase := .closing old } hc rfl hlive
  refine ⟨⟨hcore.history, hcore.fresh, hcore.online, hcore.owed, hcore.known⟩, ?_, ?_⟩
  · intro device k'
    exact (hinv.active device k').trans (hsame device k').symm
  · refine forall_setSocket (fun old' h => ?_) fun k' d _ hd old' h =>
      absurd h (hinv.not_closing hlock hd)
    cases h
    exact ⟨rfl, htaken⟩

theorem inv_closed {s : State} (hinv : Inv s) {k old : Nat} {c : Socket}
    (hc : s.sockets k = some c) (hphase : c.phase = .closing old) :
    Inv ((s.supersede old).register k c) := by
  have hnew := Socket.isNew_of_closing hphase
  have hheld := hinv.lock k c hc old hphase
  -- the lock has kept the old socket in the map, so it is live up to here
  rcases (hinv.active c.device old).mp hheld.2 with ⟨o, ho, _, holive⟩
  have hne : k ≠ old := by
    intro heq
    rw [← heq, hc, Option.some.injEq] at ho
    rw [← ho, Socket.not_live_of_isNew hnew] at holive
    exact absurd holive (by decide)
  have honew : o.isNew = false := by
    by_contra hnew'
    rw [Bool.not_eq_false] at hnew'
    rw [Socket.not_live_of_isNew hnew'] at holive
    exact absurd holive (by decide)
  have hsup : s.supersede old = s.setSocket old { o with superseded := true } := by
    rw [State.supersede, ho]
  rw [hsup]
  -- the replaced socket is no longer live, and nothing else changes
  have hdead : ∀ device, ¬Has (s.setSocket old { o with superseded := true }) old device
      Socket.live := by
    intro device h
    rw [has_setSocket_self] at h
    exact absurd h.2 (by simp [Socket.live])
  have hcore : Core (s.setSocket old { o with superseded := true }) := by
    refine ⟨?_, ?_, ?_, ?_, ?_⟩
    · intro device k' h
      by_cases hold : k' = old
      · exact absurd (hold ▸ h) (hdead device)
      · exact hinv.history device k' ((has_setSocket_of_ne hold).mp h)
    · exact forall_setSocket (fun hnew' => absurd (honew.symm.trans hnew') (by decide))
        fun k' d _ => hinv.fresh k' d
    · intro device k' h
      by_cases hold : k' = old
      · rw [hold, has_setSocket_self] at h
        exact absurd h.2 (by simp [Socket.live])
      · exact hinv.online device k' ((has_setSocket_of_ne hold).mp h)
    · intro device h
      rcases hinv.owed device h with ⟨k', hk'⟩
      exact ⟨k', (has_rewrite { o with superseded := true } ho rfl rfl device k').mpr hk'⟩
    · exact forall_setSocket (hinv.known old o ho) fun k' d _ => hinv.known k' d
  refine inv_register hcore ((setSocket_of_ne hne).trans hc) hnew ?_ ?_ ?_
  · intro device k' hdevice
    by_cases hold : k' = old
    -- the old socket was registered for this device only
    · refine iff_of_false (fun h => ?_) (hold ▸ hdead device)
      have hother := (hinv.active device k').mp h
      rw [hold, Has.of_eq ho] at hother
      have hsame := (hinv.active c.device old).mp hheld.2
      rw [Has.of_eq ho] at hsame
      exact hdevice (hother.1.symm.trans hsame.1)
    · rw [has_setSocket_of_ne hold]
      exact hinv.active device k'
  · intro k' h
    by_cases hold : k' = old
    · exact hdead _ (hold ▸ h)
    · have hk' := (hinv.active c.device k').mpr ((has_setSocket_of_ne hold).mp h)
      -- the device had one live socket, the old one
      rw [hheld.2, Option.some.injEq] at hk'
      exact hold hk'.symm
  · intro k' c' old' hne' hc' hclosing
    by_cases hold : k' = old
    · rw [hold, setSocket_self, Option.some.injEq] at hc'
      rw [← hc'] at hclosing
      have honew' : o.isNew = true := Socket.isNew_of_closing hclosing
      exact absurd (honew.symm.trans honew') (by decide)
    · rw [setSocket_of_ne hold] at hc'
      -- two sockets that are closing another one would both hold the lock
      have hlock := (hinv.lock k' c' hc' old' hclosing).1
      rw [hheld.1, Option.some.injEq] at hlock
      exact hne' hlock.symm

/-! ### The commits of the status, and the cleanup -/

theorem inv_setOnline {s : State} (hinv : Inv s) {k : Nat} {c : Socket} (now : DateTime)
    (hc : s.sockets k = some c) (hphase : c.phase = .registered) :
    Inv ((s.setSocket k { c with phase := .receiving }).commitStatus c.device .online now) := by
  have hknown := hinv.known k c hc
  have hlive : ({ c with phase := .receiving } : Socket).live = c.live := by
    simp [Socket.live, hphase]
  have hsame : ∀ device k', Has (s.setSocket k { c with phase := .receiving }) k' device
      Socket.live ↔ Has s k' device Socket.live :=
    has_rewrite { c with phase := .receiving } hc rfl hlive
  refine ⟨⟨?_, ?_, ?_, ?_, ?_⟩, ?_, ?_⟩
  · intro device k' h
    exact hinv.history device k' ((hsame device k').mp h)
  · exact forall_setSocket (fun h => by cases h) fun k' d _ => hinv.fresh k' d
  · intro device k' h
    by_cases hdevice : device = c.device
    · rw [hdevice]
      exact statusOf_commitStatus_self hknown
    -- a live socket of another device is not this one
    · rw [statusOf_commitStatus_of_ne hdevice]
      exact hinv.online device k'
        ((has_of_device_ne { c with phase := .receiving } hc rfl hdevice k').mp h)
  · intro device h
    by_cases hdevice : device = c.device
    · rw [hdevice]
      -- this handler now owes the OFFLINE that goes with its ONLINE
      exact ⟨k, has_setSocket_self.mpr ⟨rfl, by simp [Socket.owesOffline, Socket.committedOnline]⟩⟩
    · rw [statusOf_commitStatus_of_ne hdevice] at h
      rcases hinv.owed device h with ⟨k', hk'⟩
      exact ⟨k', (has_of_device_ne { c with phase := .receiving } hc rfl hdevice k').mpr hk'⟩
  · exact forall_setSocket (find?_commitStatus_isSome hknown)
      fun k' d _ hd => find?_commitStatus_isSome (hinv.known k' d hd)
  · intro device k'
    exact (hinv.active device k').trans (hsame device k').symm
  · exact forall_setSocket (fun old h => by cases h) fun k' d _ => hinv.lock k' d

theorem not_otherRegistered {s : State} {device : String} {k k' : Nat}
    (h : otherRegistered s device k = false) (hk' : s.active device = some k') : k' = k := by
  rw [otherRegistered, hk'] at h
  simpa using h

/-- A handler that finds no newer socket in the map removes its own entry or none. -/
theorem inv_remove {s : State} (hinv : Inv s) {k : Nat} {c : Socket} (hc : s.sockets k = some c)
    (hlock : s.lock = none) (hphase : c.phase = .leaving)
    (halone : otherRegistered s c.device k = false) :
    Inv ((s.setActive c.device none).setSocket k { c with phase := .goingOffline }) := by
  have hdead : ∀ device (p : Socket → Bool), p { c with phase := .goingOffline } = false →
      ¬Has (s.setSocket k { c with phase := .goingOffline }) k device p := by
    intro device p hp h
    rw [has_setSocket_self, hp] at h
    exact absurd h.2 (by decide)
  have hnotlive : ({ c with phase := .goingOffline } : Socket).live = false := by
    simp [Socket.live]
  refine ⟨⟨?_, ?_, ?_, ?_, ?_⟩, ?_, ?_⟩
  · intro device k' h
    by_cases hne : k' = k
    · exact absurd (hne ▸ h) (hdead device _ hnotlive)
    · exact hinv.history device k' ((has_setSocket_of_ne hne).mp h)
  · exact forall_setSocket (fun h => by cases h) fun k' d _ => hinv.fresh k' d
  · intro device k' h
    by_cases hne : k' = k
    · exact absurd (hne ▸ h) (hdead device _ (by simp [Socket.live]))
    · exact hinv.online device k' ((has_setSocket_of_ne hne).mp h)
  · intro device h
    rcases hinv.owed device h with ⟨k', hk'⟩
    -- the handler that leaves still owes its OFFLINE
    refine ⟨k', (has_rewrite { c with phase := .goingOffline } hc rfl ?_ device k').mpr hk'⟩
    simp [Socket.owesOffline, Socket.committedOnline, hphase]
  · exact forall_setSocket (hinv.known k c hc) fun k' d _ => hinv.known k' d
  · intro device k'
    show Function.update s.active c.device none device = some k' ↔ _
    by_cases hdevice : device = c.device
    · rw [hdevice, Function.update_self]
      refine iff_of_false (fun h => by cases h) fun h => ?_
      by_cases hne : k' = k
      · exact absurd (hne ▸ h) (hdead _ _ hnotlive)
      · have hk' := (hinv.active c.device k').mpr ((has_setSocket_of_ne hne).mp h)
        -- another live socket would be in the map, where the condition sees none
        exact hne (not_otherRegistered halone hk')
    · rw [Function.update_of_ne hdevice, hinv.active device k']
      exact (has_of_device_ne { c with phase := .goingOffline } hc rfl hdevice k').symm
  · exact forall_setSocket (fun old h => by cases h) fun k' d _ hd old h =>
      absurd h (hinv.not_closing hlock hd)

theorem not_otherOnline {s : State} {device : String} {k : Nat} {c : Socket}
    (h : otherOnline s device = false) (hk : s.active device = some k)
    (hc : s.sockets k = some c) : c.phase = .registered := by
  rw [otherOnline, hk] at h
  simpa [hc] using h

/-- OFFLINE is committed where no socket of the device has committed ONLINE and is still live. -/
theorem inv_setOffline {s : State} (hinv : Inv s) {k : Nat} {c : Socket} (now : DateTime)
    (hc : s.sockets k = some c) (hphase : c.phase = .goingOffline)
    (halone : otherOnline s c.device = false) :
    Inv ((s.setSocket k { c with phase := .finished }).commitStatus c.device .offline now) := by
  have hknown := hinv.known k c hc
  have hlive : ({ c with phase := .finished } : Socket).live = c.live := by
    simp [Socket.live, hphase]
  have hsame : ∀ device k', Has (s.setSocket k { c with phase := .finished }) k' device
      Socket.live ↔ Has s k' device Socket.live :=
    has_rewrite { c with phase := .finished } hc rfl hlive
  have honline : ∀ device k', Has (s.setSocket k { c with phase := .finished }) k' device
      (fun c => c.live && c.committedOnline) ↔
        Has s k' device (fun c => c.live && c.committedOnline) := by
    apply has_rewrite { c with phase := .finished } hc rfl
    simp [Socket.live, hphase]
  refine ⟨⟨?_, ?_, ?_, ?_, ?_⟩, ?_, ?_⟩
  · intro device k' h
    exact hinv.history device k' ((hsame device k').mp h)
  · exact forall_setSocket (fun h => by cases h) fun k' d _ => hinv.fresh k' d
  · intro device k' h
    have h' := (honline device k').mp h
    by_cases hdevice : device = c.device
    · rcases h' with ⟨d, hd, hdevice', hboth⟩
      rw [Bool.and_eq_true] at hboth
      have hactive := (hinv.active device k').mpr ⟨d, hd, hdevice', hboth.1⟩
      -- a live socket that has committed ONLINE is what the condition excludes
      have hregistered := not_otherOnline halone (hdevice ▸ hactive) hd
      rw [Socket.committedOnline, hregistered] at hboth
      exact absurd hboth.2 (by decide)
    · rw [statusOf_commitStatus_of_ne hdevice]
      exact hinv.online device k' h'
  · intro device h
    by_cases hdevice : device = c.device
    · have hoffline : statusOf ((s.setSocket k { c with phase := .finished }).commitStatus c.device
          .offline now) c.device = some .offline := statusOf_commitStatus_self hknown
      rw [hdevice, hoffline] at h
      cases h
    · rw [statusOf_commitStatus_of_ne hdevice] at h
      rcases hinv.owed device h with ⟨k', hk'⟩
      exact ⟨k', (has_of_device_ne { c with phase := .finished } hc rfl hdevice k').mpr hk'⟩
  · exact forall_setSocket (find?_commitStatus_isSome hknown)
      fun k' d _ hd => find?_commitStatus_isSome (hinv.known k' d hd)
  · intro device k'
    exact (hinv.active device k').trans (hsame device k').symm
  · exact forall_setSocket (fun old h => by cases h) fun k' d _ => hinv.lock k' d

/-- **One step.**  A step that cleans up alone keeps the invariant. -/
theorem step_inv {s s' : State} {e : Event} (h : step s e = some s') (hinv : Inv s)
    (halone : CleansUpAlone s e s') : Inv s' := by
  cases step_cases h with
  | accept hnone hauth =>
      apply inv_accept hinv hnone
      -- the token check has found the device
      by_contra hunknown
      rw [Option.not_isSome_iff_eq_none] at hunknown
      rw [socketAuthorized, hunknown] at hauth
      cases hauth
  | acquireFree hc hlock hphase hfree => exact inv_acquire_free hinv hc hlock hphase hfree
  | acquireTaken hc hlock hphase htaken => exact inv_acquire_taken hinv hc hlock hphase htaken
  | closed hc hphase => exact inv_closed hinv hc hphase
  | setOnline hc hphase => exact inv_setOnline hinv _ hc hphase
  | leave hc hphase =>
      refine inv_rewrite hinv hc rfl ?_ ?_ ?_ ?_ ?_
      · simp [Socket.live, hphase]
      · simp [Socket.committedOnline, hphase]
      · simp [Socket.owesOffline, Socket.committedOnline, hphase]
      · exact fun hnew => by cases hnew
      · exact fun old hclosing => by cases hclosing
  | remove hc hlock hphase =>
      simp only [CleansUpAlone, hc] at halone
      exact inv_remove hinv hc hlock hphase halone
  | setOffline hc hphase =>
      simp only [CleansUpAlone, hc] at halone
      exact inv_setOffline hinv _ hc hphase halone

/-! ## Whole runs -/

/-- **The latest connection wins** along every run in which no handler cleans up after a newer
socket of its device, started with no device ONLINE. -/
theorem latest_connection_wins (devices : Devices) (hdevices : ∀ d ∈ devices, d.status ≠ .online)
    (events : List Event) (halone : Along step CleansUpAlone (start devices) events) :
    Along step (fun _ _ s' => LatestWins s') (start devices) events := by
  have hstep : ∀ s e s', step s e = some s' → Inv s → CleansUpAlone s e s' →
      Inv s' ∧ LatestWins s' := by
    intro s e s' h hinv halone
    have hinv' := step_inv h hinv halone
    exact ⟨hinv', hinv'.latestWins⟩
  exact along_of_invariant hstep (inv_start hdevices) halone

def agentId : Uuid := firstUuid

def oneAgent : Devices := ⟨[Device.new agentId agentId 0], by decide +kernel⟩

def twoVisits : List Event :=
  [.accept 1 agentId.val agentId.val, .acquire 1, .setOnline 1 10, .leave 1, .remove 1,
    .setOffline 1 20, .accept 2 agentId.val agentId.val, .acquire 2, .setOnline 2 30]

instance (s s' : State) (e : Event) : Decidable (CleansUpAlone s e s') := by
  unfold CleansUpAlone
  split <;> first | infer_instance | (split <;> infer_instance)

theorem latest_connection_wins_twoVisits :
    (∀ d ∈ oneAgent, d.status ≠ .online) ∧
      Along step (fun _ _ s' => LatestWins s') (start oneAgent) twoVisits := by
  have hdevices : ∀ d ∈ oneAgent, d.status ≠ .online := by
    intro d hd
    rw [List.mem_singleton.mp hd]
    decide
  exact ⟨hdevices, latest_connection_wins oneAgent hdevices twoVisits (by decide)⟩

/-- A reconnect: the new socket closes the old one, whose handler then cleans up. -/
def reconnect : List Event :=
  [.accept 1 agentId.val agentId.val, .acquire 1, .setOnline 1 10,
    .accept 2 agentId.val agentId.val, .acquire 2, .closed 2, .setOnline 2 20, .leave 1, .remove 1,
    .setOffline 1 30]

/-- The cleanup of the old socket removes the new one from the map. -/
theorem reconnect_removes_newer :
    ¬Along step (fun _ _ s' => LatestWins s') (start oneAgent) reconnect := by
  intro h
  have hentry : Along step (fun _ _ s' => s'.active agentId.val = latest s' agentId.val)
      (start oneAgent) reconnect :=
    h.mono fun _ _ _ _ hwins => hwins.active agentId.val
  exact absurd hentry (by decide)

end LanAgent.Connections
