import Mathlib.Tactic.Common

/-!
# Runs — executions of a partial step function and guarded invariants

A system is a state type, an event type and a partial step function: `none` means that the event
is not enabled in the state.  Nondeterminism lives in the events, so an interleaving of several
parties is a list of events.  `exec` executes such a list, `Along` says that every transition of
the execution satisfies a predicate, and the rules below carry a step lemma to whole runs:
what holds under an invariant and a guard (`along_of_invariant`), and the equivalence of a property
of runs with a guard on their steps (`along_iff`).
-/

namespace Library.Runs

variable {State Event : Type*} (step : State → Event → Option State)

/-- The state after all of `events`, when each of them is enabled in its turn. -/
def exec : State → List Event → Option State
  | s, [] => some s
  | s, e :: events =>
      match step s e with
      | none => none
      | some s' => exec s' events

/-- Every transition of the execution of `events` from `s`, up to the first event that is not
enabled, satisfies `P`. -/
def Along (P : State → Event → State → Prop) : State → List Event → Prop
  | _, [] => True
  | s, e :: events =>
      match step s e with
      | none => True
      | some s' => P s e s' ∧ Along P s' events

instance Along.decidable (P : State → Event → State → Prop) [∀ s e s', Decidable (P s e s')] :
    ∀ (s : State) (events : List Event), Decidable (Along step P s events)
  | _, [] => inferInstanceAs (Decidable True)
  | s, e :: events => by
      unfold Along
      exact match step s e with
        | none => inferInstanceAs (Decidable True)
        | some s' =>
            have := Along.decidable P s' events
            inferInstanceAs (Decidable (_ ∧ _))

variable {step}

@[simp] theorem along_nil (P : State → Event → State → Prop) (s : State) :
    Along step P s [] := trivial

theorem along_cons {P : State → Event → State → Prop} {s : State} {e : Event}
    {events : List Event} :
    Along step P s (e :: events) ↔
      ∀ s', step s e = some s' → P s e s' ∧ Along step P s' events := by
  cases h : step s e <;> simp [Along, h]

theorem along_and {P Q : State → Event → State → Prop} {s : State} {events : List Event} :
    Along step (fun s e s' => P s e s' ∧ Q s e s') s events ↔
      Along step P s events ∧ Along step Q s events := by
  induction events generalizing s with
  | nil => simp
  | cons e events ih =>
      cases h : step s e with
      | none => simp [Along, h]
      | some s' =>
          simp only [Along, h, ih]
          exact and_and_and_comm

theorem Along.mono {P Q : State → Event → State → Prop} {s : State} {events : List Event}
    (hPQ : ∀ s e s', step s e = some s' → P s e s' → Q s e s') (h : Along step P s events) :
    Along step Q s events := by
  induction events generalizing s with
  | nil => exact along_nil Q s
  | cons e events ih =>
      rw [along_cons] at h ⊢
      intro s' hs'
      exact ⟨hPQ s e s' hs' (h s' hs').1, ih (h s' hs').2⟩

theorem exec_append (s : State) (events more : List Event) :
    exec step s (events ++ more) = (exec step s events).bind fun s' => exec step s' more := by
  induction events generalizing s with
  | nil => rfl
  | cons e events ih =>
      rw [List.cons_append, exec, exec]
      cases step s e with
      | none => rfl
      | some s' => exact ih s'

/-- **Guarded transitions.**  If under an invariant a step that meets the guard has the property
and keeps the invariant, every transition of a guarded run has the property. -/
theorem along_of_invariant {Inv : State → Prop} {Guard P : State → Event → State → Prop}
    (hstep : ∀ s e s', step s e = some s' → Inv s → Guard s e s' → Inv s' ∧ P s e s')
    {s : State} {events : List Event} (hs : Inv s) (hguard : Along step Guard s events) :
    Along step P s events := by
  induction events generalizing s with
  | nil => exact along_nil P s
  | cons e events ih =>
      rw [along_cons] at hguard ⊢
      intro s' hs'
      obtain ⟨hg, hrest⟩ := hguard s' hs'
      -- the step lemma gives the property here and the invariant for the rest
      obtain ⟨hinv, hp⟩ := hstep s e s' hs' hs hg
      exact ⟨hp, ih hinv hrest⟩

/-- **Invariants.**  If every step from a state with the invariant has the property and keeps the
invariant, every transition of a run has the property. -/
theorem along_of_step {Inv : State → Prop} {P : State → Event → State → Prop}
    (hstep : ∀ s e s', step s e = some s' → Inv s → Inv s' ∧ P s e s')
    {s : State} {events : List Event} (hs : Inv s) : Along step P s events := by
  induction events generalizing s with
  | nil => exact along_nil P s
  | cons e events ih =>
      rw [along_cons]
      intro s' hs'
      obtain ⟨hinv, hp⟩ := hstep s e s' hs' hs
      exact ⟨hp, ih hinv⟩

/-- **States.**  What every step keeps holds of the state after a run. -/
theorem exec_of_step {Inv : State → Prop}
    (hstep : ∀ s e s', step s e = some s' → Inv s → Inv s') {s s' : State} {events : List Event}
    (hs : Inv s) (h : exec step s events = some s') : Inv s' := by
  induction events generalizing s with
  | nil =>
      cases h
      exact hs
  | cons e events ih =>
      unfold exec at h
      cases hnext : step s e with
      | none =>
          rw [hnext] at h
          cases h
      | some next =>
          rw [hnext] at h
          exact ih (hstep s e next hnext hs) h

/-- **States of guarded runs.**  What every guarded step keeps holds of the state after a guarded
run. -/
theorem exec_of_along {Inv : State → Prop} {Guard : State → Event → State → Prop}
    (hstep : ∀ s e s', step s e = some s' → Inv s → Guard s e s' → Inv s')
    {s s' : State} {events : List Event} (hs : Inv s) (hguard : Along step Guard s events)
    (h : exec step s events = some s') : Inv s' := by
  induction events generalizing s with
  | nil =>
      cases h
      exact hs
  | cons e events ih =>
      rw [along_cons] at hguard
      unfold exec at h
      cases hnext : step s e with
      | none =>
          rw [hnext] at h
          cases h
      | some next =>
          rw [hnext] at h
          obtain ⟨hg, hrest⟩ := hguard next hnext
          exact ih (hstep s e next hnext hs hg) hrest h

/-- **Exact guard.**  If under an invariant the property of a transition is equivalent to the
guard, and guarded transitions keep the invariant, then a run has the property at every transition
exactly when all its steps meet the guard. -/
theorem along_iff {Inv : State → Prop} {Guard P : State → Event → State → Prop}
    (hiff : ∀ s e s', step s e = some s' → Inv s → (P s e s' ↔ Guard s e s'))
    (hkeep : ∀ s e s', step s e = some s' → Inv s → Guard s e s' → Inv s')
    {s : State} {events : List Event} (hs : Inv s) :
    Along step P s events ↔ Along step Guard s events := by
  induction events generalizing s with
  | nil => simp
  | cons e events ih =>
      rw [along_cons, along_cons]
      refine forall_congr' fun s' => imp_congr_right fun hs' => ?_
      rw [hiff s e s' hs' hs]
      -- the invariant of the rest is needed only where the guard has held so far
      exact and_congr_right fun hg => ih (hkeep s e s' hs' hs hg)

/-! ## Answers

A server that answers every event is a step function into the next state and the answer. -/

section Answers

variable {State' Answer : Type*} {serve : State → Event → State × Answer}
  {serve' : State' → Event → State' × Answer}

/-- The answers to the events, one after the other. -/
def answers (serve : State → Event → State × Answer) : State → List Event → List Answer
  | _, [] => []
  | s, e :: events => (serve s e).2 :: answers serve (serve s e).1 events

/-- **Simulation.**  If related states give the same answer and stay related, the two servers cannot
be told apart by their answers. -/
theorem answers_eq {R : State → State' → Prop}
    (hstep : ∀ s s' e, R s s' → (serve s e).2 = (serve' s' e).2 ∧ R (serve s e).1 (serve' s' e).1)
    {s : State} {s' : State'} (h : R s s') (events : List Event) :
    answers serve s events = answers serve' s' events := by
  induction events generalizing s s' with
  | nil => rfl
  | cons e events ih =>
      obtain ⟨hanswer, hnext⟩ := hstep s s' e h
      rw [answers, answers, hanswer, ih hnext]

end Answers

end Library.Runs
