import LanAgent.Library.Runs
import LanAgent.Library.SetIterator
import Mathlib.Logic.Function.Basic

/-!
# Broadcasts — `ConnectionManager.broadcast_task_update`

Pages subscribe to the updates of a task, and every reply of an agent is broadcast to the
subscribers of its task.  A broadcast iterates over the live set of subscribers and is suspended in
every send, where pages come and go and other broadcasts of the task end.  `broadcasts_safe` says
that a broadcast does what it should along every run in which the set of a task keeps its members
while a broadcast of the task is suspended.
-/

namespace LanAgent.Broadcasts

open Library Library.Runs

/-! ## The system -/

/-- Where a call of `broadcast_task_update` is. -/
inductive Phase where
  | loop
  /-- Suspended in `ws.send_text`. -/
  | sending (ws : Nat)
  | returned
  | raised
  deriving DecidableEq, Repr

structure Broadcast where
  task : String
  iterator : SetIterator Nat
  phase : Phase
  dead : List Nat
  /-- The sends that have ended, with their success. -/
  log : List (Nat × Bool)
  /-- The sockets that have been subscribed all the time. -/
  throughout : Finset Nat

namespace Broadcast

def sentTo (b : Broadcast) : List Nat := b.log.map Prod.fst

def failed (b : Broadcast) : Finset Nat := ((b.log.filter (fun e => !e.2)).map Prod.fst).toFinset

def called (task : String) (order : List Nat) (subs : Finset Nat) : Broadcast where
  task := task
  iterator := .ofItems order
  phase := .loop
  dead := []
  log := []
  throughout := subs

def sent (b : Broadcast) (ws : Nat) (ok : Bool) : Broadcast :=
  { b with
    phase := .loop
    dead := if ok then b.dead else b.dead ++ [ws]
    log := b.log ++ [(ws, ok)] }

def isSending (b : Broadcast) : Bool :=
  match b.phase with
  | .sending _ => true
  | _ => false

/-- A suspended broadcast after the set of its task has become `new`. -/
def observe (b : Broadcast) (old new : Finset Nat) : Broadcast :=
  -- only a suspended call can meet a change: the loop itself never awaits between its other steps
  if b.isSending then
    { b with iterator := b.iterator.observe old new, throughout := b.throughout ∩ new }
  else b

end Broadcast

structure State where
  taskSubscribers : String → Option (Finset Nat)
  broadcasts : Nat → Option Broadcast

def start (taskSubscribers : String → Option (Finset Nat)) : State where
  taskSubscribers := taskSubscribers
  broadcasts := fun _ => none

inductive Event where
  | subscribe (task : String) (ws : Nat)
  | unsubscribe (task : String) (ws : Nat)
  /-- A broadcast begins; the iteration over the set has the order `order`. -/
  | begin (k : Nat) (task : String) (order : List Nat)
  /-- The send of a broadcast ends; `choice` is the next item where the order is lost. -/
  | resume (k : Nat) (ok : Bool) (choice : Option Nat)

namespace State

/-- `task_subscribers.get(task_id, set())`. -/
def subs (s : State) (task : String) : Finset Nat := (s.taskSubscribers task).getD ∅

/-- A write of the set of a task, under the eyes of the suspended broadcasts of the task. -/
def setSubs (s : State) (task : String) (new : Finset Nat) : State where
  taskSubscribers := Function.update s.taskSubscribers task (some new)
  broadcasts := fun k => (s.broadcasts k).map (fun b =>
    if b.task = task then b.observe (s.subs task) new else b)

def setBroadcast (s : State) (k : Nat) (b : Broadcast) : State :=
  { s with broadcasts := Function.update s.broadcasts k (some b) }

def subscribeTask (s : State) (task : String) (ws : Nat) : State :=
  s.setSubs task (insert ws (s.subs task))

/-- `subs.discard(ws)` for the given sockets, where the task has a set. -/
def discard (s : State) (task : String) (sockets : Finset Nat) : State :=
  match s.taskSubscribers task with
  | none => s
  | some subs => s.setSubs task (subs \ sockets)

def unsubscribeTask (s : State) (task : String) (ws : Nat) : State := s.discard task {ws}

/-- The loop of `broadcast_task_update` from its head to the next suspension, or to the end. -/
def advance (s : State) (k : Nat) (b : Broadcast) (choice : Option Nat) : Option State :=
  match b.iterator.next (s.subs b.task) choice with
  | none => none
  -- `RuntimeError`: the code behind the loop does not run
  | some .error => some (s.setBroadcast k { b with phase := .raised })
  -- `for ws in dead: subs.discard(ws)`
  | some .stop =>
      some ((s.setBroadcast k { b with phase := .returned }).discard b.task b.dead.toFinset)
  | some (.item ws iterator) =>
      some (s.setBroadcast k { b with iterator := iterator, phase := .sending ws })

end State

def step (s : State) : Event → Option State
  | .subscribe task ws => some (s.subscribeTask task ws)
  | .unsubscribe task ws => some (s.unsubscribeTask task ws)
  | .begin k task order =>
      if s.broadcasts k = none ∧ order.Nodup ∧ order.toFinset = s.subs task then
        s.advance k (.called task order (s.subs task)) none
      else none
  | .resume k ok choice =>
      match s.broadcasts k with
      | none => none
      | some b =>
          match b.phase with
          -- a failed send is caught and goes to `dead`; either way the loop goes on
          | .sending ws => s.advance k (b.sent ws ok) choice
          | _ => none

/-! ## The property -/

/-- The call an event is a part of. -/
def Event.call : Event → Option Nat
  | .begin k _ _ => some k
  | .resume k _ _ => some k
  | _ => none

/-- What the call removes from the set of a task when it returns in `s`. -/
def removedBy (s : State) (k : Nat) (task : String) : Finset Nat :=
  match s.broadcasts k with
  | none => ∅
  | some b => if b.phase = .returned ∧ b.task = task then b.failed else ∅

/-- No broadcast raises; one that returns has sent the update once to every socket that has been
subscribed all the time; and it removes the sockets whose send failed, and nothing else. -/
structure BroadcastSafe (s : State) (e : Event) (s' : State) : Prop where
  no_raise : ∀ k b, s'.broadcasts k = some b → b.phase ≠ .raised
  once : ∀ k b, s'.broadcasts k = some b → b.phase = .returned →
    ∀ ws ∈ b.throughout, b.sentTo.count ws = 1
  removed : ∀ k, e.call = some k → ∀ task, s'.subs task = s.subs task \ removedBy s' k task

/-! ## The condition -/

/-- No broadcast of the task is suspended, but for the call `k`. -/
def IdleBut (s : State) (task : String) (k : Option Nat) : Prop :=
  ∀ k' b, s.broadcasts k' = some b → b.task = task → some k' ≠ k → b.isSending = false

/-- Members of a set come and go only while no broadcast of the task is suspended. -/
def Quiet (s : State) : Event → State → Prop
  | .subscribe task ws, _ => ws ∈ s.subs task ∨ IdleBut s task none
  | .unsubscribe task ws, _ => ws ∉ s.subs task ∨ IdleBut s task none
  | .resume k ok _, _ => ∀ b ws, s.broadcasts k = some b → b.phase = .sending ws →
      b.iterator.rest = [] → (b.sent ws ok).dead = [] ∨ IdleBut s b.task (some k)
  | .begin _ _ _, _ => True

/-! ## Writes of the state -/

section Writes

variable (s : State) (task : String) (new : Finset Nat) (k : Nat) (b : Broadcast)

theorem Broadcast.observe_of_not_sending {b : Broadcast} {old new : Finset Nat}
    (h : b.isSending = false) : b.observe old new = b := by
  rw [observe, h]
  exact if_neg Bool.false_ne_true

theorem Broadcast.observe_self {b : Broadcast} {current : Finset Nat}
    (h : b.isSending = true → b.throughout ⊆ current) : b.observe current current = b := by
  unfold observe
  split
  · rename_i hsending
    rw [SetIterator.observe_self, Finset.inter_eq_left.mpr (h hsending)]
  · rfl

@[simp] theorem subs_setSubs (task' : String) :
    (s.setSubs task new).subs task' = if task' = task then new else s.subs task' := by
  show (Function.update s.taskSubscribers task (some new) task').getD ∅ = _
  by_cases h : task' = task
  · rw [if_pos h, h, Function.update_self, Option.getD_some]
  · rw [if_neg h, Function.update_of_ne h, State.subs]

@[simp] theorem subs_setBroadcast (task' : String) :
    (s.setBroadcast k b).subs task' = s.subs task' := rfl

theorem broadcasts_setBroadcast (k' : Nat) :
    (s.setBroadcast k b).broadcasts k' = if k' = k then some b else s.broadcasts k' := by
  show Function.update s.broadcasts k (some b) k' = _
  by_cases h : k' = k
  · rw [if_pos h, h, Function.update_self]
  · rw [if_neg h, Function.update_of_ne h]

@[simp] theorem subs_discard (sockets : Finset Nat) (task' : String) :
    (s.discard task sockets).subs task' =
      if task' = task then s.subs task \ sockets else s.subs task' := by
  unfold State.discard
  cases h : s.taskSubscribers task with
  | none =>
      by_cases htask : task' = task
      · rw [if_pos htask, htask, State.subs, h, Option.getD_none, Finset.empty_sdiff]
      · rw [if_neg htask]
  | some subs =>
      have hsubs : s.subs task = subs := by rw [State.subs, h, Option.getD_some]
      rw [hsubs]
      exact subs_setSubs s task (subs \ sockets) task'

end Writes

/-! ## The invariant -/

structure Sound (s : State) (b : Broadcast) : Prop where
  not_raised : b.phase ≠ .raised
  sending : ∀ ws, b.phase = .sending ws →
    b.iterator.Lists (b.sentTo ++ [ws]) (s.subs b.task) ∧ b.throughout = s.subs b.task ∧
      b.dead.toFinset = b.failed
  once : b.phase = .returned → ∀ ws ∈ b.throughout, b.sentTo.count ws = 1

def Inv (s : State) : Prop := ∀ k b, s.broadcasts k = some b → Sound s b

theorem isSending_iff {b : Broadcast} : b.isSending = true ↔ ∃ ws, b.phase = .sending ws := by
  unfold Broadcast.isSending
  cases b.phase <;> simp

theorem Sound.of_not_sending {s s' : State} {b : Broadcast} (h : Sound s b)
    (hsending : b.isSending = false) : Sound s' b where
  not_raised := h.not_raised
  sending ws hws := by
    have htrue := isSending_iff.mpr ⟨ws, hws⟩
    rw [hsending] at htrue
    cases htrue
  once := h.once

theorem Sound.of_subs_eq {s s' : State} {b : Broadcast} (h : Sound s b)
    (hsubs : s'.subs b.task = s.subs b.task) : Sound s' b where
  not_raised := h.not_raised
  sending := by
    rw [hsubs]
    exact h.sending
  once := h.once

/-- **A quiet write** of a set keeps the invariant. -/
theorem inv_setSubs {s : State} {task : String} {new : Finset Nat} (hinv : Inv s)
    (hquiet : new = s.subs task ∨ IdleBut s task none) : Inv (s.setSubs task new) := by
  intro k b' hb'
  rcases Option.map_eq_some_iff.mp hb' with ⟨b, hb, rfl⟩
  have hsound := hinv k b hb
  by_cases htask : b.task = task
  · rw [if_pos htask]
    rcases hquiet with hsame | hidle
    · have hthroughout : b.isSending = true → b.throughout ⊆ s.subs task := by
        intro hsending
        rcases isSending_iff.mp hsending with ⟨ws, hws⟩
        rw [(hsound.sending ws hws).2.1, htask]
      rw [hsame, Broadcast.observe_self hthroughout]
      apply hsound.of_subs_eq
      rw [subs_setSubs, htask, if_pos rfl]
    -- a call that is not suspended takes no notice of the write
    · have hnot := hidle k b hb htask (Option.some_ne_none k)
      rw [Broadcast.observe_of_not_sending hnot]
      exact hsound.of_not_sending hnot
  · rw [if_neg htask]
    apply hsound.of_subs_eq
    rw [subs_setSubs, if_neg htask]

theorem inv_discard {s : State} {task : String} {sockets : Finset Nat} (hinv : Inv s)
    (hquiet : s.subs task \ sockets = s.subs task ∨ IdleBut s task none) :
    Inv (s.discard task sockets) := by
  unfold State.discard
  cases h : s.taskSubscribers task with
  | none => exact hinv
  | some subs =>
      have hsubs : s.subs task = subs := by rw [State.subs, h, Option.getD_some]
      rw [hsubs] at hquiet
      apply inv_setSubs hinv
      rw [hsubs]
      exact hquiet

theorem inv_setBroadcast {s : State} {k : Nat} {b : Broadcast} (hinv : Inv s)
    (hb : Sound s b) : Inv (s.setBroadcast k b) := by
  intro k' b' hb'
  rw [broadcasts_setBroadcast] at hb'
  by_cases hk : k' = k
  · rw [if_pos hk, Option.some.injEq] at hb'
    rw [← hb']
    exact hb.of_subs_eq rfl
  · rw [if_neg hk] at hb'
    exact (hinv k' b' hb').of_subs_eq rfl

/-! ## The loop -/

structure Ready (s : State) (b : Broadcast) : Prop where
  lists : b.iterator.Lists b.sentTo (s.subs b.task)
  throughout : b.throughout = s.subs b.task
  dead : b.dead.toFinset = b.failed

theorem ready_called {s : State} {task : String} {order : List Nat} (hnodup : order.Nodup)
    (hcomplete : order.toFinset = s.subs task) : Ready s (.called task order (s.subs task)) :=
  ⟨SetIterator.lists_ofItems hnodup hcomplete, rfl, rfl⟩

theorem ready_sent {s : State} {b : Broadcast} {ws : Nat} (h : Sound s b)
    (hws : b.phase = .sending ws) (ok : Bool) : Ready s (b.sent ws ok) := by
  rcases h.sending ws hws with ⟨hlists, hthroughout, hdead⟩
  have hsentTo : (b.sent ws ok).sentTo = b.sentTo ++ [ws] := by
    simp [Broadcast.sentTo, Broadcast.sent]
  refine ⟨?_, hthroughout, ?_⟩
  · rw [hsentTo]
    exact hlists
  · unfold Broadcast.failed at hdead ⊢
    cases ok with
    | true => simpa [Broadcast.sent] using hdead
    | false => simp [Broadcast.sent, hdead]

theorem idle_of_returned {s : State} {k : Nat} {b : Broadcast} {task : String}
    (hidle : IdleBut s task (some k)) (hreturned : b.phase = .returned) :
    IdleBut (s.setBroadcast k b) task none := by
  intro k' b' hb' htask _
  rw [broadcasts_setBroadcast] at hb'
  by_cases hk : k' = k
  · rw [if_pos hk, Option.some.injEq] at hb'
    rw [← hb', Broadcast.isSending, hreturned]
  · rw [if_neg hk] at hb'
    exact hidle k' b' hb' htask fun h => hk (Option.some.inj h)

theorem broadcasts_discard {s : State} {k : Nat} {b : Broadcast} {task : String}
    {sockets : Finset Nat} (hb : s.broadcasts k = some b) (hsending : b.isSending = false) :
    (s.discard task sockets).broadcasts k = some b := by
  unfold State.discard
  cases s.taskSubscribers task with
  | none => exact hb
  | some subs =>
      show (s.broadcasts k).map _ = some b
      rw [hb, Option.map_some, Broadcast.observe_of_not_sending hsending, ite_self]

/-- **One round of the loop**, from its head to the next suspension or to the end. -/
theorem advance_safe {s s' : State} {k : Nat} {b : Broadcast} {choice : Option Nat} (hinv : Inv s)
    (hready : Ready s b)
    (hquiet : b.iterator.rest = [] → b.dead = [] ∨ IdleBut s b.task (some k))
    (h : s.advance k b choice = some s') :
    Inv s' ∧ ∀ task, s'.subs task = s.subs task \ removedBy s' k task := by
  unfold State.advance at h
  -- the set is as it was at the last step, so the iterator stops or has a next item
  rcases hready.lists.next_eq choice with ⟨hrest, hnext⟩ | ⟨ws, rest, hrest, hnext⟩
  · rw [hnext] at h
    cases h
    let returned : Broadcast := { b with phase := .returned }
    have hsound : Sound s returned := by
      refine ⟨(nomatch ·), (fun _ h => nomatch h), fun _ ws hws => ?_⟩
      -- the list of the sends is a list of the members, each once
      rw [show returned.throughout = s.subs b.task from hready.throughout] at hws
      exact hready.lists.count_eq_one hrest hws
    have hstill : (s.setBroadcast k returned).subs b.task \ b.dead.toFinset =
        (s.setBroadcast k returned).subs b.task ∨
          IdleBut (s.setBroadcast k returned) b.task none := by
      rcases hquiet hrest with hnone | hidle
      · exact .inl (by rw [hnone, List.toFinset_nil, Finset.sdiff_empty])
      · exact .inr (idle_of_returned hidle rfl)
    refine ⟨inv_discard (inv_setBroadcast hinv hsound) hstill, fun task => ?_⟩
    -- the discard removes the dead sockets, and they are the failed ones
    have hself : (s.setBroadcast k returned).broadcasts k = some returned := by
      rw [broadcasts_setBroadcast, if_pos rfl]
    rw [removedBy, broadcasts_discard hself rfl, subs_discard, subs_setBroadcast, subs_setBroadcast]
    dsimp only
    by_cases htask : task = b.task
    · rw [if_pos htask, if_pos ⟨rfl, htask.symm⟩, htask, hready.dead]
      rfl
    · rw [if_neg htask, if_neg fun h => htask h.2.symm, Finset.sdiff_empty]
  · rw [hnext] at h
    cases h
    refine ⟨inv_setBroadcast hinv ⟨(nomatch ·), fun ws' hws' => ?_, (nomatch ·)⟩, fun task => ?_⟩
    -- the next item comes behind the sends that have ended
    · cases hws'
      exact ⟨hready.lists.item hrest, hready.throughout, hready.dead⟩
    · rw [removedBy, broadcasts_setBroadcast, if_pos rfl]
      simp

/-! ## One step -/

/-- **A quiet step** is safe and keeps the invariant. -/
theorem step_safe {s s' : State} {e : Event} (h : step s e = some s') (hinv : Inv s)
    (hquiet : Quiet s e s') : Inv s' ∧ BroadcastSafe s e s' := by
  -- two of the three parts are read off the invariant
  have hsafe : Inv s' → (∀ k, e.call = some k → ∀ task,
      s'.subs task = s.subs task \ removedBy s' k task) → Inv s' ∧ BroadcastSafe s e s' :=
    fun hinv' hremoved => ⟨hinv', fun k b hb => (hinv' k b hb).not_raised,
      fun k b hb => (hinv' k b hb).once, hremoved⟩
  cases e with
  | subscribe task ws =>
      rw [step, Option.some.injEq] at h
      refine hsafe ?_ fun _ hk => nomatch hk
      rw [← h]
      apply inv_setSubs hinv
      rcases hquiet with hmem | hidle
      -- a member is added again: the set keeps its size
      · exact .inl (Finset.insert_eq_of_mem hmem)
      · exact .inr hidle
  | unsubscribe task ws =>
      rw [step, Option.some.injEq] at h
      refine hsafe ?_ fun _ hk => nomatch hk
      rw [← h]
      apply inv_discard hinv
      rcases hquiet with hmem | hidle
      · exact .inl ((Finset.sdiff_singleton_eq_erase ws _).trans (Finset.erase_eq_of_notMem hmem))
      · exact .inr hidle
  | begin k task order =>
      rw [step] at h
      split at h
      · rename_i hbegin
        have hround := advance_safe hinv (ready_called hbegin.2.1 hbegin.2.2)
          (fun _ => .inl rfl) h
        apply hsafe hround.1
        intro k' hk'
        cases hk'
        exact hround.2
      · cases h
  | resume k ok choice =>
      rw [step] at h
      split at h
      · cases h
      · rename_i b hb
        split at h
        · rename_i ws hws
          have hround := advance_safe hinv (ready_sent (hinv k b hb) hws ok)
            (hquiet b ws hb hws) h
          apply hsafe hround.1
          intro k' hk'
          cases hk'
          exact hround.2
        · cases h

/-! ## Whole runs -/

theorem inv_start (taskSubscribers : String → Option (Finset Nat)) :
    Inv (start taskSubscribers) := fun _ _ hb => nomatch hb

/-- **Broadcasts are safe** along every run, from any sets of subscribers on, in which the set of a
task keeps its members while a broadcast of the task is suspended. -/
theorem broadcasts_safe (taskSubscribers : String → Option (Finset Nat)) (events : List Event)
    (hquiet : Along step Quiet (start taskSubscribers) events) :
    Along step BroadcastSafe (start taskSubscribers) events := by
  have hstep : ∀ s e s', step s e = some s' → Inv s → Quiet s e s' →
      Inv s' ∧ BroadcastSafe s e s' := fun _ _ _ h hinv hq => step_safe h hinv hq
  exact along_of_invariant hstep (inv_start taskSubscribers) hquiet

def onePage (task : String) : Option (Finset Nat) := if task = "t" then some {1} else none

/-- A second page opens; an update reaches one of the two pages. -/
def secondPage : List Event :=
  [.subscribe "t" 2, .begin 0 "t" [2, 1], .resume 0 false none, .resume 0 true none]

theorem broadcasts_safe_secondPage : Along step Quiet (start onePage) secondPage ∧
    Along step BroadcastSafe (start onePage) secondPage := by
  have hquiet : Along step Quiet (start onePage) secondPage := by
    refine ⟨.inr (fun _ _ hb => nomatch hb), trivial, ?_, ?_, trivial⟩
    · intro b ws hb _ hrest
      cases hb
      cases hrest
    · intro b ws hb _ _
      refine .inr fun k' b' hb' _ hk => ?_
      cases k' with
      | zero => exact absurd rfl hk
      | succ k' => cases hb'
  exact ⟨hquiet, broadcasts_safe onePage secondPage hquiet⟩

/-- The page opens while the update is being sent: the iteration raises. -/
theorem page_opened_raises : ¬Along step BroadcastSafe (start onePage)
    [.begin 0 "t" [1], .subscribe "t" 2, .resume 0 true none] := by
  intro h
  have hraised : Along step (fun _ _ s' =>
      (s'.broadcasts 0).all (fun b => b.phase ≠ .raised) = true) (start onePage)
        [.begin 0 "t" [1], .subscribe "t" 2, .resume 0 true none] := by
    apply h.mono
    intro _ _ s' _ hsafe
    cases hb : s'.broadcasts 0 with
    | none => rfl
    | some b => exact decide_eq_true (hsafe.no_raise 0 b hb)
  exact absurd hraised (by decide)

end LanAgent.Broadcasts
