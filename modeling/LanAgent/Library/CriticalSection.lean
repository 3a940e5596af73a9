import LanAgent.Library.Runs
import Mathlib.Algebra.Order.BigOperators.Group.Finset
import Mathlib.Logic.Function.Basic

/-!
# Critical sections — parties that work on shared data under one lock

Each of finitely many parties arrives, waits for the lock, works on the shared data in several
steps and leaves with an answer.  Between two steps of a party the others go on, but only its
holder works under the lock: every run is one of atomic operations, in the order in which the
parties leave (`step_atomic`), and what atomic operations preserve holds after it
(`exec_of_atomic`).  No run goes on for ever (`length_le_work`), and one that cannot be extended has
answered every party (`answered_of_final`).
-/

namespace Library.CriticalSection

open Library.Runs

/-- The code of the section: how party `k` begins, and its steps, of which the last one leaves
with the new shared data and an answer. -/
structure Code (Shared View Answer : Type) where
  enter : Nat → View
  advance : Nat → Shared → View → View ⊕ Shared × Answer

inductive Phase (View Answer : Type) where
  | absent
  | waiting
  | inside (view : View)
  | answered (answer : Answer)

structure State (Shared View Answer : Type) where
  shared : Shared
  lock : Option Nat
  phase : Nat → Phase View Answer

inductive Event where
  | arrive (k : Nat)
  | acquire (k : Nat)
  | advance (k : Nat)

variable {Shared View Answer : Type}

def Phase.answer? : Phase View Answer → Option Answer
  | .answered answer => some answer
  | _ => none

namespace State

def start (shared : Shared) : State Shared View Answer := ⟨shared, none, fun _ => .absent⟩

def setPhase (s : State Shared View Answer) (k : Nat) (phase : Phase View Answer) :
    State Shared View Answer :=
  { s with phase := Function.update s.phase k phase }

/-- The answers given so far. -/
def answers (s : State Shared View Answer) (k : Nat) : Option Answer := (s.phase k).answer?

@[simp] theorem setPhase_phase_self (s : State Shared View Answer) (k : Nat)
    (phase : Phase View Answer) : (s.setPhase k phase).phase k = phase := by
  simp [setPhase]

theorem setPhase_phase_of_ne (s : State Shared View Answer) {k k' : Nat} (h : k' ≠ k)
    (phase : Phase View Answer) : (s.setPhase k phase).phase k' = s.phase k' := by
  simp [setPhase, h]

theorem setPhase_answers (s : State Shared View Answer) (k : Nat) (phase : Phase View Answer) :
    (s.setPhase k phase).answers = Function.update s.answers k phase.answer? := by
  funext k'
  by_cases hk : k' = k
  · simp [answers, setPhase, hk]
  · simp [answers, setPhase, hk]

/-- A party that changes between phases without an answer leaves the answers as they are. -/
theorem setPhase_answers_of_none (s : State Shared View Answer) {k : Nat}
    {phase : Phase View Answer} (h : (s.phase k).answer? = none) (h' : phase.answer? = none) :
    (s.setPhase k phase).answers = s.answers := by
  rw [setPhase_answers, h', ← h]
  exact Function.update_eq_self k s.answers

end State

variable (code : Code Shared View Answer) (parties : Nat)

def step (s : State Shared View Answer) : Event → Option (State Shared View Answer)
  | .arrive k =>
      match s.phase k with
      | .absent => if k < parties then some (s.setPhase k .waiting) else none
      | _ => none
  | .acquire k =>
      match s.phase k, s.lock with
      | .waiting, none => some { s.setPhase k (.inside (code.enter k)) with lock := some k }
      | _, _ => none
  | .advance k =>
      match s.phase k with
      | .inside view =>
          match code.advance k s.shared view with
          | .inl view' => some (s.setPhase k (.inside view'))
          -- the last step releases the lock
          | .inr (shared, answer) =>
              some { s.setPhase k (.answered answer) with shared := shared, lock := none }
      | _ => none

/-- What party `k` has seen after some steps on data that did not change. -/
inductive Sees (k : Nat) (shared : Shared) : View → Prop
  | enter : Sees k shared (code.enter k)
  | advance (view view' : View) (hsees : Sees k shared view)
      (hnext : code.advance k shared view = .inl view') : Sees k shared view'

/-- The section of party `k` run at one go. -/
def Atomic (k : Nat) (shared shared' : Shared) (answer : Answer) : Prop :=
  ∃ view, Sees code k shared view ∧ code.advance k shared view = .inr (shared', answer)

variable {code parties}

/-- The holder of the lock is the one party inside, and what it has seen is still so. -/
structure Inv (code : Code Shared View Answer) (parties : Nat) (s : State Shared View Answer) :
    Prop where
  inside : ∀ k view, s.phase k = .inside view → s.lock = some k ∧ Sees code k s.shared view
  holder : ∀ k, s.lock = some k → ∃ view, s.phase k = .inside view
  bounded : ∀ k, s.phase k ≠ .absent → k < parties

theorem inv_start (shared : Shared) : Inv code parties (State.start shared) where
  inside := by
    intro k view h
    cases h
  holder := by
    intro k h
    cases h
  bounded := by
    intro k h
    exact absurd rfl h

/-- What a step is on the shared data and the answers: nothing, or one party's section. -/
inductive Effect (code : Code Shared View Answer) (parties : Nat)
    (s s' : State Shared View Answer) : Prop
  | silent (hshared : s'.shared = s.shared) (hanswers : s'.answers = s.answers)
  | answered (k : Nat) (answer : Answer) (hk : k < parties) (hopen : s.answers k = none)
      (hatomic : Atomic code k s.shared s'.shared answer)
      (hanswers : s'.answers = Function.update s.answers k (some answer))

variable {s s' : State Shared View Answer}

theorem arrive_inv {k : Nat} (h : step code parties s (.arrive k) = some s')
    (hinv : Inv code parties s) : Inv code parties s' ∧ Effect code parties s s' := by
  simp only [step] at h
  split at h
  · rename_i habsent
    split at h
    · rename_i hk
      rw [Option.some.injEq] at h
      rw [← h]
      refine ⟨⟨fun k' view hinside => ?_, fun k' hlock => ?_, fun k' hphase => ?_⟩, ?_⟩
      · by_cases hne : k' = k
        · rw [hne, State.setPhase_phase_self] at hinside
          cases hinside
        · rw [State.setPhase_phase_of_ne _ hne] at hinside
          exact hinv.inside k' view hinside
      · obtain ⟨view, hinside⟩ := hinv.holder k' hlock
        have hne : k' ≠ k := by
          intro heq
          rw [heq, habsent] at hinside
          cases hinside
        exact ⟨view, by rw [State.setPhase_phase_of_ne _ hne, hinside]⟩
      · by_cases hne : k' = k
        · exact hne ▸ hk
        · rw [State.setPhase_phase_of_ne _ hne] at hphase
          exact hinv.bounded k' hphase
      · exact .silent rfl (State.setPhase_answers_of_none s (by rw [habsent]; rfl) rfl)
    · cases h
  · cases h

theorem acquire_inv {k : Nat} (h : step code parties s (.acquire k) = some s')
    (hinv : Inv code parties s) : Inv code parties s' ∧ Effect code parties s s' := by
  simp only [step] at h
  split at h
  · rename_i hwaiting hfree
    rw [Option.some.injEq] at h
    rw [← h]
    refine ⟨⟨fun k' view hinside => ?_, fun k' hlock => ?_, fun k' hphase => ?_⟩, ?_⟩
    · by_cases hne : k' = k
      · have hview : code.enter k = view := by
          have hself := hne ▸ hinside
          simpa using hself
        exact ⟨by rw [hne], hview ▸ hne ▸ .enter⟩
      · -- nobody was inside while the lock was free
        have hbefore : s.phase k' = .inside view := by
          rw [← State.setPhase_phase_of_ne s hne]
          exact hinside
        rw [(hinv.inside k' view hbefore).1] at hfree
        cases hfree
    · obtain rfl := Option.some.inj hlock
      exact ⟨code.enter k, State.setPhase_phase_self s k _⟩
    · by_cases hne : k' = k
      · exact hinv.bounded k' (by rw [hne, hwaiting]; exact nofun)
      · refine hinv.bounded k' ?_
        rw [← State.setPhase_phase_of_ne s hne]
        exact hphase
    · exact .silent rfl (State.setPhase_answers_of_none s (by rw [hwaiting]; rfl) rfl)
  · cases h

theorem advance_inv {k : Nat} (h : step code parties s (.advance k) = some s')
    (hinv : Inv code parties s) : Inv code parties s' ∧ Effect code parties s s' := by
  simp only [step] at h
  split at h
  · rename_i view hview
    obtain ⟨hlock, hsees⟩ := hinv.inside k view hview
    have hk : k < parties := hinv.bounded k (by rw [hview]; exact nofun)
    -- the others are not inside
    have halone : ∀ k' view', k' ≠ k → s.phase k' ≠ .inside view' := by
      intro k' view' hne hinside
      have hlock' := (hinv.inside k' view' hinside).1
      rw [hlock, Option.some.injEq] at hlock'
      exact hne hlock'.symm
    split at h
    · rename_i view' hnext
      rw [Option.some.injEq] at h
      rw [← h]
      refine ⟨⟨fun k' view'' hinside => ?_, fun k' hlock' => ?_, fun k' hphase => ?_⟩, ?_⟩
      · by_cases hne : k' = k
        · have hsame : view' = view'' := by
            have hself := hne ▸ hinside
            simpa using hself
          rw [hne, ← hsame]
          exact ⟨hlock, .advance view view' hsees hnext⟩
        · rw [State.setPhase_phase_of_ne _ hne] at hinside
          exact absurd hinside (halone k' view'' hne)
      · have hsame : k = k' := Option.some.inj (hlock.symm.trans hlock')
        exact ⟨view', by rw [← hsame, State.setPhase_phase_self]⟩
      · by_cases hne : k' = k
        · exact hne ▸ hk
        · rw [State.setPhase_phase_of_ne _ hne] at hphase
          exact hinv.bounded k' hphase
      · exact .silent rfl (State.setPhase_answers_of_none s (by rw [hview]; rfl) rfl)
    · rename_i shared answer hlast
      rw [Option.some.injEq] at h
      rw [← h]
      refine ⟨⟨fun k' view' hinside => ?_, fun k' hlock' => ?_, fun k' hphase => ?_⟩, ?_⟩
      · by_cases hne : k' = k
        · have hself := hne ▸ hinside
          simp at hself
        · have hbefore : s.phase k' = .inside view' := by
            rw [← State.setPhase_phase_of_ne s hne]
            exact hinside
          exact absurd hbefore (halone k' view' hne)
      · cases hlock'
      · by_cases hne : k' = k
        · exact hne ▸ hk
        · refine hinv.bounded k' ?_
          rw [← State.setPhase_phase_of_ne s hne]
          exact hphase
      · refine .answered k answer hk ?_ ⟨view, hsees, hlast⟩ ?_
        · rw [State.answers, hview]
          rfl
        · exact State.setPhase_answers s k (.answered answer)
  · cases h

/-- **Atomicity.**  A step changes nothing that is shared or answered, or runs the section of one
party at one go on the data that are there. -/
theorem step_atomic {e : Event} (h : step code parties s e = some s') (hinv : Inv code parties s) :
    Inv code parties s' ∧ Effect code parties s s' := by
  cases e with
  | arrive k => exact arrive_inv h hinv
  | acquire k => exact acquire_inv h hinv
  | advance k => exact advance_inv h hinv

/-- **No deadlock.**  While a party is without its answer, some step is possible. -/
theorem exists_step (hinv : Inv code parties s) {k : Nat} (hk : k < parties)
    (hopen : s.answers k = none) : ∃ e, (step code parties s e).isSome := by
  cases hlock : s.lock with
  | some holder =>
      obtain ⟨view, hview⟩ := hinv.holder holder hlock
      refine ⟨.advance holder, ?_⟩
      simp only [step, hview]
      split <;> rfl
  | none =>
      cases hphase : s.phase k with
      | absent => exact ⟨.arrive k, by simp [step, hphase, hk]⟩
      | waiting => exact ⟨.acquire k, by simp [step, hphase, hlock]⟩
      | inside view =>
          have hheld := (hinv.inside k view hphase).1
          rw [hlock] at hheld
          cases hheld
      | answered answer => simp [State.answers, hphase, Phase.answer?] at hopen

/-- Where no step is possible, every party has its answer. -/
theorem answered_of_final (hinv : Inv code parties s) (hfinal : ∀ e, step code parties s e = none)
    {k : Nat} (hk : k < parties) : s.answers k ≠ none := by
  intro hopen
  obtain ⟨e, hsome⟩ := exists_step hinv hk hopen
  rw [hfinal e] at hsome
  cases hsome

/-- **Runs.**  What holds at the start and is preserved when one party after the other runs its
section at one go holds after every run of the parties. -/
theorem exec_of_atomic {P : Shared → (Nat → Option Answer) → Prop} {shared : Shared}
    (hstart : P shared fun _ => none)
    (hatomic : ∀ shared shared' answers k answer, P shared answers → k < parties →
      answers k = none → Atomic code k shared shared' answer →
      P shared' (Function.update answers k (some answer)))
    {events : List Event} (h : exec (step code parties) (State.start shared) events = some s') :
    Inv code parties s' ∧ P s'.shared s'.answers := by
  have hstep : ∀ s e s', step code parties s e = some s' →
      Inv code parties s ∧ P s.shared s.answers →
      Inv code parties s' ∧ P s'.shared s'.answers := by
    rintro s e s' h ⟨hinv, hP⟩
    obtain ⟨hinv', heffect⟩ := step_atomic h hinv
    refine ⟨hinv', ?_⟩
    cases heffect with
    | silent hshared hanswers =>
        rw [hshared, hanswers]
        exact hP
    | answered k answer hk hopen hsection hanswers =>
        rw [hanswers]
        exact hatomic s.shared s'.shared s.answers k answer hP hk hopen hsection
  exact exec_of_step hstep ⟨inv_start shared, hstart⟩ h

/-! ## Termination -/

section Work

variable (rank : View → Nat) (bound : Nat)

/-- The steps a party may still take, when every step of the section lowers `rank`. -/
def Phase.work : Phase View Answer → Nat
  | .absent => bound + 3
  | .waiting => bound + 2
  | .inside view => rank view + 1
  | .answered _ => 0

def State.work (parties : Nat) (s : State Shared View Answer) : Nat :=
  ∑ k ∈ Finset.range parties, (s.phase k).work rank bound

variable {rank bound}

theorem work_setPhase {k : Nat} (hk : k < parties) {phase : Phase View Answer}
    (h : phase.work rank bound < (s.phase k).work rank bound) :
    (s.setPhase k phase).work rank bound parties < s.work rank bound parties := by
  apply Finset.sum_lt_sum
  · intro k' _
    by_cases hne : k' = k
    · rw [hne, State.setPhase_phase_self]
      exact h.le
    · rw [State.setPhase_phase_of_ne s hne]
  · exact ⟨k, Finset.mem_range.mpr hk, by rwa [State.setPhase_phase_self]⟩

theorem step_work (hrank : ∀ k < parties, ∀ shared view view',
      code.advance k shared view = .inl view' → rank view' < rank view)
    (henter : ∀ k, rank (code.enter k) ≤ bound) {e : Event}
    (h : step code parties s e = some s') (hinv : Inv code parties s) :
    s'.work rank bound parties < s.work rank bound parties := by
  have hbounded := hinv.bounded
  cases e with
  | arrive k =>
      simp only [step] at h
      split at h
      · rename_i habsent
        split at h
        · rename_i hk
          rw [← Option.some.inj h]
          apply work_setPhase hk
          rw [habsent]
          exact Nat.lt_succ_self _
        · cases h
      · cases h
  | acquire k =>
      simp only [step] at h
      split at h
      · rename_i hwaiting _
        rw [← Option.some.inj h]
        refine work_setPhase (hbounded k (by rw [hwaiting]; exact nofun)) ?_
        rw [hwaiting]
        exact Nat.lt_succ_of_le (Nat.succ_le_succ (henter k))
      · cases h
  | advance k =>
      simp only [step] at h
      split at h
      · rename_i view hview
        have hk : k < parties := hbounded k (by rw [hview]; exact nofun)
        split at h
        · rename_i view' hnext
          rw [← Option.some.inj h]
          apply work_setPhase hk
          rw [hview]
          exact Nat.succ_lt_succ (hrank k hk s.shared view view' hnext)
        · rw [← Option.some.inj h]
          apply work_setPhase hk
          rw [hview]
          exact Nat.succ_pos _
      · cases h

/-- **Termination.**  A run takes no more steps than there is work at its start. -/
theorem length_le_work (hrank : ∀ k < parties, ∀ shared view view',
      code.advance k shared view = .inl view' → rank view' < rank view)
    (henter : ∀ k, rank (code.enter k) ≤ bound) {events : List Event}
    (h : exec (step code parties) s events = some s') (hinv : Inv code parties s) :
    events.length + s'.work rank bound parties ≤ s.work rank bound parties := by
  induction events generalizing s with
  | nil =>
      rw [exec, Option.some.injEq] at h
      simp [h]
  | cons e events ih =>
      rw [exec] at h
      split at h
      · cases h
      · rename_i s₁ hstep
        have hless := step_work hrank henter hstep hinv
        have hrest := ih h (step_atomic hstep hinv).1
        rw [List.length_cons]
        omega

end Work

end Library.CriticalSection
