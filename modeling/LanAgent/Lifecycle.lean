import LanAgent.CommandRuns
import LanAgent.Library.Runs

/-!
# The service — `AgentService` of `agent/main.go` and `startHeartbeat` of `agent/heartbeat.go`

The goroutines of a running service: one sends heartbeats, one keeps the socket connected, each
connection has a reader of its own, and the service itself waits for a stop request.  An event is
what one of them does between two points where it can be delayed, so a run is any interleaving.

* `commands_in_turn`: nothing but the way connections follow each other keeps the readers apart, and
  it is enough: the commands are handled one after the other, and the mark of a running upgrade,
  which no lock protects, admits one upgrade;
* `offline_is_last`: a service that is stopped says once that it is offline, and nothing after it;
  it ends without a word only where an upgrade or an uninstallation makes the process exit;
* `can_always_stop`: no state is reached that a stop request cannot end, whatever a command does.
-/

namespace LanAgent.Lifecycle

open Commands Library.Runs

/-! ## States -/

inductive ReaderState where
  /-- In `conn.ReadMessage`. -/
  | reading
  /-- In `handleCommand`. -/
  | handling (cmd : Command)
  /-- In `conn.WriteMessage`. -/
  | writing

/-- Where the goroutine of `runHeartbeat` is. -/
inductive BeatPhase where
  /-- Before or in `checkAndRecover`. -/
  | recovering
  | registering
  | waiting
  | ended
  deriving DecidableEq

/-- Where the goroutine of `runWebSocket` is. -/
inductive SocketPhase where
  /-- In the pause before `runWebSocket`. -/
  | starting
  /-- At the head of the loop. -/
  | checking
  | loading
  | dialing
  /-- At the end of `handleConnection`. -/
  | connected
  /-- `handleConnection` has returned. -/
  | closing
  | ended
  deriving DecidableEq

inductive ServicePhase where
  | running
  /-- In `s.wg.Wait()`. -/
  | stopping
  | ended
  /-- The process has exited by itself. -/
  | exited
  deriving DecidableEq

structure State where
  service : ServicePhase
  beat : BeatPhase
  socket : SocketPhase
  /-- The number of the latest connection. -/
  connections : Nat
  /-- The readers that have not ended, by the numbers of their connections. -/
  readers : Nat → Option ReaderState
  process : Process
  /-- What was sent, begun, ended and done so far, the last one first. -/
  heartbeats : List String
  begun : List Command
  finished : List Command
  effects : List Effect

/-- `s.stopCh` is closed. -/
def State.stopRequested (s : State) : Bool := s.service ≠ .running

/-- `Execute`, when the goroutines are started. -/
def start (p : Process) : State where
  service := .running
  beat := .recovering
  socket := .starting
  connections := 0
  readers := fun _ => none
  process := p
  heartbeats := []
  begun := []
  finished := []
  effects := []

/-! ## Events -/

/-- A heartbeat, with the hardware it would collect and the device id of its answer. -/
structure Beat where
  now : DateTime
  reading : Collection
  answer : String

inductive Event where
  /-- `checkAndRecover`; the server accepts a report. -/
  | recover (accepted : Bool)
  | online (beat : Beat)
  | offline (beat : Beat)
  | wake
  | check
  /-- `LoadConfig` ends, with or without a device id. -/
  | load (known : Bool)
  | dial (ok : Bool)
  /-- `handleConnection` sees that the reader has ended. -/
  | done
  /-- `handleConnection` sees the stop request. -/
  | leave
  | close
  | receive (conn : Nat) (message : String)
  | finish (conn : Nat) (env : Env)
  | write (conn : Nat) (ok : Bool)
  | readError (conn : Nat)
  | stop
  /-- `s.wg.Wait()` returns, and with it the service. -/
  | exit
  /-- `os.Exit(0)` in the goroutine of an upgrade or an uninstallation. -/
  | osExit

/-- The command has started a goroutine that ends the process two seconds later. -/
def Effect.exits : Effect → Bool
  | .upgrade _ _ => true
  | .uninstall => true
  | _ => false

/-- What a heartbeat leaves of the process. -/
def sendBeat (p : Process) (beat : Beat) : Process :=
  { p with
    cache := (getSysInfo false p.cache beat.now beat.reading).2
    cfg := saveDeviceId p.cfg beat.answer }

/-- The goroutine of the heartbeats. -/
def stepBeat (s : State) : Event → Option State
  | .recover accepted =>
      if s.beat = .recovering then
        some { s with
          beat := .registering
          process := { s.process with needRecover := s.process.needRecover && !accepted } }
      else none
  | .online beat =>
      if s.beat = .registering ∨ s.beat = .waiting then
        some { s with
          beat := .waiting
          process := sendBeat s.process beat
          heartbeats := "online" :: s.heartbeats }
      else none
  | .offline beat =>
      if s.beat = .waiting ∧ s.stopRequested = true then
        some { s with
          beat := .ended
          process := sendBeat s.process beat
          heartbeats := "offline" :: s.heartbeats }
      else none
  | _ => none

/-- The goroutine of the socket. -/
def stepSocket (s : State) : Event → Option State
  | .wake => if s.socket = .starting then some { s with socket := .checking } else none
  | .check =>
      if s.socket = .checking then
        some { s with socket := if s.stopRequested then .ended else .loading }
      else none
  | .load known =>
      if s.socket = .loading then
        some { s with socket := if known then .dialing else .checking }
      else none
  | .dial ok =>
      if s.socket = .dialing then
        if ok then
          some { s with
            socket := .connected
            connections := s.connections + 1
            readers := Function.update s.readers (s.connections + 1) (some .reading) }
        else some { s with socket := .checking }
      else none
  | .done =>
      if s.socket = .connected ∧ (s.readers s.connections).isNone = true then
        some { s with socket := .closing }
      else none
  | .leave =>
      if s.socket = .connected ∧ s.stopRequested = true then some { s with socket := .closing }
      else none
  | .close =>
      if s.socket = .closing then
        some { s with socket := if s.stopRequested then .ended else .checking }
      else none
  | _ => none

def State.setReader (s : State) (conn : Nat) (reader : Option ReaderState) : State :=
  { s with readers := Function.update s.readers conn reader }

/-- The readers. -/
def stepReader (s : State) : Event → Option State
  | .receive conn message =>
      match s.readers conn with
      | some .reading =>
          match readCommand message with
          | none => some s
          | some cmd =>
              some { s.setReader conn (some (.handling cmd)) with begun := cmd :: s.begun }
      | _ => none
  | .finish conn env =>
      match s.readers conn with
      | some (.handling cmd) =>
          let handled := handleCommand env s.process cmd
          some { s.setReader conn (some .writing) with
            process := handled.1
            finished := cmd :: s.finished
            effects := s.effects ++ handled.2.1 }
      | _ => none
  | .write conn ok =>
      match s.readers conn with
      | some .writing => some (s.setReader conn (if ok then some .reading else none))
      | _ => none
  | .readError conn =>
      match s.readers conn with
      | some .reading => some (s.setReader conn none)
      | _ => none
  | _ => none

/-- `Execute` after its start. -/
def stepService (s : State) : Event → Option State
  | .stop => if s.service = .running then some { s with service := .stopping } else none
  | .exit =>
      if s.service = .stopping ∧ s.beat = .ended ∧ s.socket = .ended then
        some { s with service := .ended }
      else none
  | .osExit =>
      if s.effects.any Effect.exits then some { s with service := .exited } else none
  | _ => none

/-- With the service the process ends, and all of its goroutines. -/
def step (s : State) (e : Event) : Option State :=
  if s.service = .ended ∨ s.service = .exited then none
  else
    match e with
    | .recover _ | .online _ | .offline _ => stepBeat s e
    | .wake | .check | .load _ | .dial _ | .done | .leave | .close => stepSocket s e
    | .receive _ _ | .finish _ _ | .write _ _ | .readError _ => stepReader s e
    | .stop | .exit | .osExit => stepService s e

/-! ## What holds in every state -/

/-- The command that a reader is at. -/
def ReaderState.current : Option ReaderState → List Command
  | some (.handling cmd) => [cmd]
  | _ => []

/-- A connection is made only when the reader of the one before has ended, or not any more. -/
structure Inv (p : Process) (s : State) : Prop where
  /-- Only the latest connection has a reader. -/
  latest : ∀ conn, conn ≠ s.connections → s.readers conn = none
  /-- It has none between two connections. -/
  between : s.socket = .connected ∨ s.socket = .closing ∧ s.stopRequested = true ∨
    s.socket = .ended ∨ s.readers s.connections = none
  inTurn : s.begun = ReaderState.current (s.readers s.connections) ++ s.finished
  socketEnded : s.socket = .ended → s.stopRequested = true
  beatEnded : s.beat = .ended → s.stopRequested = true
  heartbeats : ∃ n, s.heartbeats =
    (if s.beat = .ended then ["offline"] else []) ++ List.replicate n "online"
  stopped : s.service = .ended → s.beat = .ended ∧ s.socket = .ended
  exited : s.service = .exited → s.effects.any Effect.exits = true
  upgrades : upgrades s.effects + running p = running s.process

theorem inv_start (p : Process) : Inv p (start p) where
  latest := fun _ _ => rfl
  between := .inr (.inr (.inr rfl))
  inTurn := rfl
  socketEnded := nofun
  beatEnded := nofun
  heartbeats := ⟨0, rfl⟩
  stopped := nofun
  exited := nofun
  upgrades := Nat.zero_add _

section Steps

variable {p : Process} {s s' : State} {e : Event} (h : Inv p s)

include h

/-- A reader that there is belongs to the latest connection. -/
theorem reader_latest {conn : Nat} {reader : ReaderState} (hreader : s.readers conn = some reader) :
    conn = s.connections := by
  by_contra hconn
  rw [h.latest conn hconn] at hreader
  cases hreader

/-- What a reader does leaves the goroutines alone. -/
theorem setReader_inv {reader : ReaderState} (hreader : s.readers s.connections = some reader)
    (next : Option ReaderState) (process : Process) (begun finished : List Command)
    (effects : List Effect) (hturn : begun = ReaderState.current next ++ finished)
    (hupgrades : Commands.upgrades effects + running p = running process)
    (hexited : s.service = .exited → effects.any Effect.exits = true) :
    Inv p { s.setReader s.connections next with
      process := process, begun := begun, finished := finished, effects := effects } := by
  refine { h with
    latest := fun conn hconn => ?_, between := ?_, inTurn := ?_, exited := hexited
    upgrades := hupgrades }
  · show Function.update s.readers s.connections next conn = none
    have hother : conn ≠ s.connections := hconn
    rw [Function.update_of_ne hother]
    exact h.latest conn hother
  · rcases h.between with hs | hs | hs | hs
    · exact .inl hs
    · exact .inr (.inl hs)
    · exact .inr (.inr (.inl hs))
    · rw [hs] at hreader
      cases hreader
  · show begun = ReaderState.current (Function.update s.readers s.connections next s.connections) ++
      finished
    rw [Function.update_self]
    exact hturn

theorem stepReader_inv (hstep : stepReader s e = some s') : Inv p s' := by
  unfold stepReader at hstep
  split at hstep
  · rename_i conn message
    split at hstep
    · rename_i hreader
      obtain rfl := reader_latest h hreader
      have hturn := h.inTurn
      rw [hreader] at hturn
      split at hstep
      · obtain rfl := Option.some.inj hstep
        exact h
      · rename_i cmd _
        obtain rfl := Option.some.inj hstep
        exact setReader_inv h hreader _ _ _ _ _ (congrArg (cmd :: ·) hturn) h.upgrades h.exited
    · cases hstep
  · rename_i conn env
    split at hstep
    · rename_i cmd hreader
      obtain rfl := reader_latest h hreader
      have hturn := h.inTurn
      rw [hreader] at hturn
      obtain rfl := Option.some.inj hstep
      refine setReader_inv h hreader _ _ _ _ _ hturn ?_ fun hexited => by
        rw [List.any_append, h.exited hexited, Bool.true_or]
      have hone := upgrades_handleCommand env s.process cmd
      have hbefore := h.upgrades
      rw [Commands.upgrades, List.countP_append]
      unfold Commands.upgrades at hone hbefore
      omega
    · cases hstep
  · rename_i conn ok
    split at hstep
    · rename_i hreader
      obtain rfl := reader_latest h hreader
      have hturn := h.inTurn
      rw [hreader] at hturn
      obtain rfl := Option.some.inj hstep
      refine setReader_inv h hreader _ _ _ _ _ ?_ h.upgrades h.exited
      cases ok <;> exact hturn
    · cases hstep
  · rename_i conn
    split at hstep
    · rename_i hreader
      obtain rfl := reader_latest h hreader
      have hturn := h.inTurn
      rw [hreader] at hturn
      obtain rfl := Option.some.inj hstep
      exact setReader_inv h hreader _ _ _ _ _ hturn h.upgrades h.exited
    · cases hstep
  · cases hstep

theorem stepService_inv (hstep : stepService s e = some s') : Inv p s' := by
  unfold stepService at hstep
  split at hstep
  · split at hstep
    · obtain rfl := Option.some.inj hstep
      have hrequested : ∀ s : State,
          ({ s with service := .stopping } : State).stopRequested = true :=
        fun _ => rfl
      refine { h with
        between := ?_, socketEnded := fun _ => hrequested s, beatEnded := fun _ => hrequested s
        stopped := nofun, exited := nofun }
      rcases h.between with hs | hs | hs | hs
      · exact .inl hs
      · exact .inr (.inl ⟨hs.1, hrequested s⟩)
      · exact .inr (.inr (.inl hs))
      · exact .inr (.inr (.inr hs))
    · cases hstep
  · split at hstep
    · rename_i hends
      obtain rfl := Option.some.inj hstep
      have hrequested : ∀ s : State, ({ s with service := .ended } : State).stopRequested = true :=
        fun _ => rfl
      exact { h with
        between := .inr (.inr (.inl hends.2.2)), socketEnded := fun _ => hrequested s
        beatEnded := fun _ => hrequested s, stopped := fun _ => hends.2, exited := nofun }
    · cases hstep
  · split at hstep
    · rename_i hexits
      obtain rfl := Option.some.inj hstep
      have hrequested : ∀ s : State, ({ s with service := .exited } : State).stopRequested = true :=
        fun _ => rfl
      refine { h with
        between := ?_, socketEnded := fun _ => hrequested s, beatEnded := fun _ => hrequested s
        stopped := nofun, exited := fun _ => hexits }
      rcases h.between with hs | hs | hs | hs
      · exact .inl hs
      · exact .inr (.inl ⟨hs.1, hrequested s⟩)
      · exact .inr (.inr (.inl hs))
      · exact .inr (.inr (.inr hs))
    · cases hstep
  · cases hstep

variable (hrunning : s.service ≠ .ended)

include hrunning

theorem stepBeat_inv (hstep : stepBeat s e = some s') : Inv p s' := by
  have hstopped : ∀ {beat}, s.service = .ended → beat = BeatPhase.ended ∧ s.socket = .ended :=
    fun hended => absurd hended hrunning
  obtain ⟨n, hn⟩ := h.heartbeats
  unfold stepBeat at hstep
  split at hstep
  · split at hstep
    · rename_i hphase
      obtain rfl := Option.some.inj hstep
      rw [if_neg (hphase ▸ nofun)] at hn
      exact { h with beatEnded := nofun, heartbeats := ⟨n, hn⟩, stopped := hstopped }
    · cases hstep
  · split at hstep
    · rename_i hphase
      obtain rfl := Option.some.inj hstep
      have hnot : s.beat ≠ .ended := by rcases hphase with hb | hb <;> (rw [hb]; nofun)
      rw [if_neg hnot] at hn
      refine { h with beatEnded := nofun, heartbeats := ⟨n + 1, ?_⟩, stopped := hstopped }
      show "online" :: s.heartbeats = _
      rw [hn]
      rfl
    · cases hstep
  · split at hstep
    · rename_i hphase
      obtain rfl := Option.some.inj hstep
      have hnot : s.beat ≠ .ended := by rw [hphase.1]; nofun
      rw [if_neg hnot] at hn
      refine { h with beatEnded := fun _ => hphase.2, heartbeats := ⟨n, ?_⟩, stopped := hstopped }
      show "offline" :: s.heartbeats = _
      rw [hn]
      rfl
    · cases hstep
  · cases hstep

/-- Between two connections there is no reader, so a new one is the only one. -/
theorem stepSocket_inv (hstep : stepSocket s e = some s') : Inv p s' := by
  have hstopped : ∀ {socket}, s.service = .ended → s.beat = .ended ∧ socket = SocketPhase.ended :=
    fun hended => absurd hended hrunning
  -- where the goroutine is at one of these points, there is no reader
  have hnone : s.socket ≠ .connected → s.socket ≠ .closing → s.socket ≠ .ended →
      s.readers s.connections = none := by
    intro hconnected hclosing hended
    rcases h.between with hs | hs | hs | hs
    · exact absurd hs hconnected
    · exact absurd hs.1 hclosing
    · exact absurd hs hended
    · exact hs
  unfold stepSocket at hstep
  split at hstep
  · split at hstep
    · rename_i hphase
      obtain rfl := Option.some.inj hstep
      have hidle := hnone (hphase ▸ nofun) (hphase ▸ nofun) (hphase ▸ nofun)
      exact { h with
        between := .inr (.inr (.inr hidle))
        socketEnded := nofun
        stopped := hstopped }
    · cases hstep
  · split at hstep
    · rename_i hphase
      obtain rfl := Option.some.inj hstep
      have hidle := hnone (hphase ▸ nofun) (hphase ▸ nofun) (hphase ▸ nofun)
      refine { h with
        between := .inr (.inr (.inr hidle)), socketEnded := fun hended => ?_, stopped := hstopped }
      dsimp only at hended
      split at hended
      · assumption
      · cases hended
    · cases hstep
  · split at hstep
    · rename_i hphase
      obtain rfl := Option.some.inj hstep
      have hidle := hnone (hphase ▸ nofun) (hphase ▸ nofun) (hphase ▸ nofun)
      refine { h with
        between := .inr (.inr (.inr hidle)), socketEnded := fun hended => ?_, stopped := hstopped }
      dsimp only at hended
      split at hended <;> cases hended
    · cases hstep
  · split at hstep
    · rename_i hphase
      have hidle := hnone (hphase ▸ nofun) (hphase ▸ nofun) (hphase ▸ nofun)
      split at hstep
      · obtain rfl := Option.some.inj hstep
        have hall : ∀ conn, s.readers conn = none := by
          intro conn
          by_cases hconn : conn = s.connections
          · rw [hconn, hidle]
          · exact h.latest conn hconn
        refine { h with
          latest := fun conn hconn => ?_, between := .inl rfl, inTurn := ?_
          socketEnded := nofun, stopped := hstopped }
        · show Function.update s.readers (s.connections + 1) (some .reading) conn = none
          have hother : conn ≠ s.connections + 1 := hconn
          rw [Function.update_of_ne hother]
          exact hall conn
        · have hturn := h.inTurn
          rw [hidle] at hturn
          show s.begun = ReaderState.current (Function.update s.readers (s.connections + 1)
            (some .reading) (s.connections + 1)) ++ s.finished
          rw [Function.update_self]
          exact hturn
      · obtain rfl := Option.some.inj hstep
        exact { h with
          between := .inr (.inr (.inr hidle)), socketEnded := nofun, stopped := hstopped }
    · cases hstep
  · split at hstep
    · rename_i hphase
      obtain rfl := Option.some.inj hstep
      exact { h with
        between := .inr (.inr (.inr (Option.isNone_iff_eq_none.mp hphase.2)))
        socketEnded := nofun, stopped := hstopped }
    · cases hstep
  · split at hstep
    · rename_i hphase
      obtain rfl := Option.some.inj hstep
      exact { h with
        between := .inr (.inl ⟨rfl, hphase.2⟩), socketEnded := nofun, stopped := hstopped }
    · cases hstep
  · split at hstep
    · rename_i hphase
      obtain rfl := Option.some.inj hstep
      by_cases hstop : s.stopRequested = true
      · rw [if_pos hstop]
        exact { h with
          between := .inr (.inr (.inl rfl)), socketEnded := fun _ => hstop, stopped := hstopped }
      · rw [if_neg hstop]
        have hidle : s.readers s.connections = none := by
          rcases h.between with hs | hs | hs | hs
          · rw [hphase] at hs
            cases hs
          · exact absurd hs.2 hstop
          · rw [hphase] at hs
            cases hs
          · exact hs
        exact { h with
          between := .inr (.inr (.inr hidle)), socketEnded := nofun, stopped := hstopped }
    · cases hstep
  · cases hstep

end Steps

theorem step_inv {p : Process} {s s' : State} {e : Event} (hstep : step s e = some s')
    (h : Inv p s) : Inv p s' := by
  unfold step at hstep
  split at hstep
  · cases hstep
  · rename_i hover
    have hrunning : s.service ≠ .ended := fun hended => hover (.inl hended)
    split at hstep
    · exact stepBeat_inv h hrunning hstep
    · exact stepBeat_inv h hrunning hstep
    · exact stepBeat_inv h hrunning hstep
    · exact stepSocket_inv h hrunning hstep
    · exact stepSocket_inv h hrunning hstep
    · exact stepSocket_inv h hrunning hstep
    · exact stepSocket_inv h hrunning hstep
    · exact stepSocket_inv h hrunning hstep
    · exact stepSocket_inv h hrunning hstep
    · exact stepSocket_inv h hrunning hstep
    · exact stepReader_inv h hstep
    · exact stepReader_inv h hstep
    · exact stepReader_inv h hstep
    · exact stepReader_inv h hstep
    · exact stepService_inv h hstep
    · exact stepService_inv h hstep
    · exact stepService_inv h hstep

theorem inv_reached {p : Process} {events : List Event} {s : State}
    (hrun : exec step (start p) events = some s) : Inv p s :=
  exec_of_step (fun _ _ _ hstep h => step_inv hstep h) (inv_start p) hrun

/-! ## Main results -/

/-- Of two readers that have not ended both are the same; the commands that were begun are those
that were finished, in their order, and the one that is being handled; and of their upgrades at most
one was started. -/
structure InTurn (p : Process) (s : State) : Prop where
  one : ∀ conn conn', s.readers conn ≠ none → s.readers conn' ≠ none → conn = conn'
  order : ∃ current, s.begun = current ++ s.finished ∧ current.length ≤ 1
  upgrade : OneUpgrade p s.process s.effects

/-- **Commands are handled one after the other**, in every interleaving of the goroutines and over
however many connections. -/
theorem commands_in_turn (p : Process) {events : List Event} {s : State}
    (hrun : exec step (start p) events = some s) : InTurn p s := by
  have hinv := inv_reached hrun
  have hlatest : ∀ conn, s.readers conn ≠ none → conn = s.connections := by
    intro conn hreader
    by_contra hconn
    exact hreader (hinv.latest conn hconn)
  refine ⟨fun conn conn' h h' => (hlatest conn h).trans (hlatest conn' h').symm,
    ⟨_, hinv.inTurn, ?_⟩, oneUpgrade_of_count hinv.upgrades⟩
  unfold ReaderState.current
  split
  · exact le_rfl
  · exact Nat.zero_le 1

def exampleBeat : Beat := ⟨0, exampleEnv.reading, "d"⟩

/-- A service that is started, handles an empty command, and is stopped. -/
def exampleEvents : List Event :=
  [.recover false, .online exampleBeat, .wake, .check, .load true, .dial true, .receive 1 "null",
    .finish 1 exampleEnv, .write 1 true, .stop, .offline exampleBeat, .leave, .close, .exit]

theorem exec_exampleEvents : (exec step (start exampleProcess) exampleEvents).isSome = true := by
  decide +kernel

theorem commands_in_turn_example :
    ∃ s, exec step (start exampleProcess) exampleEvents = some s ∧ InTurn exampleProcess s := by
  obtain ⟨s, hrun⟩ := Option.isSome_iff_exists.mp exec_exampleEvents
  exact ⟨s, hrun, commands_in_turn exampleProcess hrun⟩

/-- What the server hears of a service: that it is online, and, once its goroutine has ended, that
it is offline.  This is the last word of a service that was stopped, and one that has ended
otherwise has begun an upgrade or an uninstallation. -/
structure OfflineLast (s : State) : Prop where
  words : ∃ n, s.heartbeats.reverse =
    List.replicate n "online" ++ (if s.beat = .ended then ["offline"] else [])
  stopped : s.service = .ended → s.heartbeats.head? = some "offline"
  exited : s.service = .exited → s.effects.any Effect.exits = true

/-- **A stopped service says once that it is offline, and nothing after it.** -/
theorem offline_is_last (p : Process) {events : List Event} {s : State}
    (hrun : exec step (start p) events = some s) : OfflineLast s := by
  have hinv := inv_reached hrun
  obtain ⟨n, hn⟩ := hinv.heartbeats
  refine ⟨⟨n, ?_⟩, fun hended => ?_, hinv.exited⟩
  · rw [hn, List.reverse_append, List.reverse_replicate]
    split <;> rfl
  · rw [hn, if_pos (hinv.stopped hended).1]
    rfl

theorem offline_is_last_example :
    ∃ s, exec step (start exampleProcess) exampleEvents = some s ∧ OfflineLast s := by
  obtain ⟨s, hrun⟩ := Option.isSome_iff_exists.mp exec_exampleEvents
  exact ⟨s, hrun, offline_is_last exampleProcess hrun⟩

/-! ## Stopping -/

/-- Something that a reader does. -/
def Event.isReader : Event → Bool
  | .receive _ _ => true
  | .finish _ _ => true
  | .write _ _ => true
  | .readError _ => true
  | _ => false

/-- At most `n` steps lead on, none of them of a reader. -/
def Leads (n : Nat) (s s' : State) : Prop :=
  ∃ events, events.length ≤ n ∧ (∀ e ∈ events, e.isReader = false) ∧ exec step s events = some s'

theorem Leads.refl (s : State) : Leads 0 s s :=
  ⟨[], le_rfl, fun _ he => absurd he List.not_mem_nil, rfl⟩

theorem Leads.trans {m n : Nat} {s s' s'' : State} (h : Leads m s s') (h' : Leads n s' s'') :
    Leads (m + n) s s'' := by
  obtain ⟨events, hlength, hreader, hrun⟩ := h
  obtain ⟨more, hlength', hreader', hrun'⟩ := h'
  refine ⟨events ++ more, ?_, fun e he => ?_, ?_⟩
  · rw [List.length_append]
    omega
  · exact (List.mem_append.mp he).elim (hreader e) (hreader' e)
  · rw [exec_append, hrun]
    exact hrun'

theorem Leads.mono {m n : Nat} {s s' : State} (h : Leads m s s') (hle : m ≤ n) : Leads n s s' := by
  obtain ⟨events, hlength, hrest⟩ := h
  exact ⟨events, hlength.trans hle, hrest⟩

theorem leads_step {s s' : State} {e : Event} (hreader : e.isReader = false)
    (hstep : step s e = some s') : Leads 1 s s' := by
  refine ⟨[e], le_rfl, fun e' he' => ?_, ?_⟩
  · rw [List.mem_singleton.mp he']
    exact hreader
  · rw [exec, hstep]
    rfl

/-- The steps to the end of a goroutine, once the stop is requested. -/
def BeatPhase.left : BeatPhase → Nat
  | .recovering => 3
  | .registering => 2
  | .waiting => 1
  | .ended => 0

def SocketPhase.left : SocketPhase → Nat
  | .starting | .loading | .dialing | .connected => 2
  | .checking | .closing => 1
  | .ended => 0

def left (s : State) : Nat := s.beat.left + s.socket.left

section Stopping

variable (beat : Beat) {s : State} (hstopping : s.service = .stopping)

include hstopping

/-- A step of a goroutine that is nearer to its end afterwards. -/
def Nearer (s : State) : Prop :=
  ∃ e s', e.isReader = false ∧ step s e = some s' ∧ s'.service = .stopping ∧ left s' + 1 = left s

theorem step_stopping (e : Event) : step s e =
    match e with
    | .recover _ | .online _ | .offline _ => stepBeat s e
    | .wake | .check | .load _ | .dial _ | .done | .leave | .close => stepSocket s e
    | .receive _ _ | .finish _ _ | .write _ _ | .readError _ => stepReader s e
    | .stop | .exit | .osExit => stepService s e := by
  have hrunning : ¬(s.service = .ended ∨ s.service = .exited) := by
    rw [hstopping]
    exact fun hover => hover.elim nofun nofun
  unfold step
  exact if_neg hrunning

theorem stopRequested_stopping : s.stopRequested = true := by
  rw [State.stopRequested, hstopping]
  rfl

include beat in
theorem beat_nearer (hbeat : s.beat ≠ .ended) : Nearer s := by
  have hrequested := stopRequested_stopping hstopping
  cases hphase : s.beat with
  | recovering =>
      refine ⟨.recover false, _, rfl, (step_stopping hstopping _).trans (if_pos hphase), hstopping,
        ?_⟩
      rw [left, left, hphase]
      show 2 + s.socket.left + 1 = 3 + s.socket.left
      omega
  | registering =>
      refine ⟨.online beat, _, rfl, (step_stopping hstopping _).trans (if_pos (.inl hphase)),
        hstopping, ?_⟩
      rw [left, left, hphase]
      show 1 + s.socket.left + 1 = 2 + s.socket.left
      omega
  | waiting =>
      refine ⟨.offline beat, _, rfl,
        (step_stopping hstopping _).trans (if_pos ⟨hphase, hrequested⟩), hstopping, ?_⟩
      rw [left, left, hphase]
      show 0 + s.socket.left + 1 = 1 + s.socket.left
      omega
  | ended => exact absurd hphase hbeat

theorem socket_nearer (hsocket : s.socket ≠ .ended) : Nearer s := by
  have hrequested := stopRequested_stopping hstopping
  have hmoves : ∀ e socket, e.isReader = false → step s e = some { s with socket := socket } →
      socket.left + 1 = s.socket.left → Nearer s := by
    intro e socket hreader hstep hleft
    refine ⟨e, _, hreader, hstep, hstopping, ?_⟩
    show s.beat.left + socket.left + 1 = s.beat.left + s.socket.left
    omega
  cases hphase : s.socket with
  | starting =>
      exact hmoves .wake .checking rfl ((step_stopping hstopping _).trans (if_pos hphase))
        (hphase ▸ rfl)
  | checking =>
      refine hmoves .check .ended rfl ?_ (hphase ▸ rfl)
      rw [step_stopping hstopping]
      show stepSocket s .check = _
      rw [stepSocket, if_pos hphase, if_pos hrequested]
  | loading =>
      exact hmoves (.load false) .checking rfl ((step_stopping hstopping _).trans (if_pos hphase))
        (hphase ▸ rfl)
  | dialing =>
      exact hmoves (.dial false) .checking rfl ((step_stopping hstopping _).trans (if_pos hphase))
        (hphase ▸ rfl)
  | connected =>
      exact hmoves .leave .closing rfl
        ((step_stopping hstopping _).trans (if_pos ⟨hphase, hrequested⟩)) (hphase ▸ rfl)
  | closing =>
      refine hmoves .close .ended rfl ?_ (hphase ▸ rfl)
      rw [step_stopping hstopping]
      show stepSocket s .close = _
      rw [stepSocket, if_pos hphase, if_pos hrequested]
  | ended => exact absurd hphase hsocket

end Stopping

/-- Both goroutines get to their ends. -/
theorem goroutines_end (beat : Beat) {s : State} (hstopping : s.service = .stopping) :
    ∃ s', Leads (left s) s s' ∧ s'.service = .stopping ∧ s'.beat = .ended ∧ s'.socket = .ended := by
  generalize hn : left s = n
  induction n generalizing s with
  | zero =>
      refine ⟨s, Leads.refl s, hstopping, ?_⟩
      rw [left] at hn
      cases hbeat : s.beat <;> cases hsocket : s.socket <;>
        rw [hbeat, hsocket] at hn <;> cases hn
      exact ⟨rfl, rfl⟩
  | succ n ih =>
      have hnearer : Nearer s := by
        by_cases hbeat : s.beat = .ended
        · refine socket_nearer hstopping fun hsocket => ?_
          rw [left, hbeat, hsocket] at hn
          cases hn
        · exact beat_nearer beat hstopping hbeat
      obtain ⟨e, next, hreader, hstep, hnext, hless⟩ := hnearer
      obtain ⟨s', hleads, hend⟩ := ih hnext (by omega)
      exact ⟨s', ((leads_step hreader hstep).trans hleads).mono (by omega), hend⟩

/-- **The service can always be stopped**: wherever its goroutines are, a stop request and at most
six more steps lead to its end, and no reader has to take any of them, in whatever command it is. -/
theorem can_always_stop (beat : Beat) (s : State) :
    s.service = .exited ∨ ∃ s', Leads 7 s s' ∧ s'.service = .ended := by
  by_cases hexited : s.service = .exited
  · exact .inl hexited
  by_cases hended : s.service = .ended
  · exact .inr ⟨s, (Leads.refl s).mono (by decide), hended⟩
  have hstop : ∃ s', Leads 1 s s' ∧ s'.service = .stopping := by
    cases hservice : s.service with
    | running =>
        have hstep : step s .stop = some { s with service := .stopping } := by
          unfold step
          rw [if_neg (not_or.mpr ⟨hended, hexited⟩)]
          exact if_pos hservice
        exact ⟨_, leads_step rfl hstep, rfl⟩
    | stopping => exact ⟨s, (Leads.refl s).mono (by decide), hservice⟩
    | ended => exact absurd hservice hended
    | exited => exact absurd hservice hexited
  obtain ⟨s₁, hleads₁, hstopping₁⟩ := hstop
  obtain ⟨s₂, hleads₂, hstopping₂, hbeat, hsocket⟩ := goroutines_end beat hstopping₁
  have hexit : step s₂ .exit = some { s₂ with service := .ended } :=
    (step_stopping hstopping₂ _).trans (if_pos ⟨hstopping₂, hbeat, hsocket⟩)
  have hbound : left s₁ ≤ 5 := by
    rw [left]
    cases s₁.beat <;> cases s₁.socket <;> decide
  have hlast : Leads 1 s₂ { s₂ with service := .ended } := leads_step rfl hexit
  exact .inr ⟨_, ((hleads₁.trans hleads₂).trans hlast).mono (by omega), rfl⟩

end LanAgent.Lifecycle
