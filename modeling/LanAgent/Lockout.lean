import LanAgent.Library.Runs
import LanAgent.RateLimit
import Mathlib.Data.Rat.Floor
import Mathlib.Data.List.Chain

/-!
# Locks over a run of logins — `check_allowed` and `record_failure`

Login attempts one after the other, for any keys.  The check of an attempt and the recording of its
failure read the clock separately, since the password is verified in between.
`locks_held_iff` says in which runs a locked key stays locked, and `back_off_iff` in which runs the
locks of a key grow the way they should.
-/

namespace LanAgent.Lockout

open Library Library.Runs

/-! ## The system -/

/-- One call of `login`. -/
structure Attempt (Time : Type*) where
  request : LoginRequest
  /-- When `check_allowed` reads the clock. -/
  checkedAt : Time
  /-- When `record_failure` does, if it comes to that. -/
  recordedAt : Time

structure State (Time : Type*) where
  clock : Time
  limiter : Limiter Time
  /-- The locks `record_failure` has returned for the key, in seconds, the latest last. -/
  durations : List Nat
  /-- A failure was recorded more than a window after the one before it, when the key had been
  locked. -/
  dropped : Bool

def start {Time : Type*} (now : Time) (limiter : Limiter Time) : State Time where
  clock := now
  limiter := limiter
  durations := []
  dropped := false

section System

variable {Time : Type*} [Field Time] [LinearOrder Time] [FloorRing Time]

/-- The attempt is allowed to verify its password. -/
def Passes (limiter : Limiter Time) (attempt : Attempt Time) : Prop :=
  loginCheck limiter attempt.request attempt.checkedAt = none

instance (limiter : Limiter Time) (attempt : Attempt Time) : Decidable (Passes limiter attempt) :=
  inferInstanceAs (Decidable (_ = none))

/-- `login`, its two halves together. -/
def login (accounts : Accounts) (limiter : Limiter Time) (attempt : Attempt Time) :
    Limiter Time × Except HttpError String :=
  match loginCheck limiter attempt.request attempt.checkedAt with
  | some e => (limiter, .error e)
  | none => loginVerify accounts limiter attempt.request attempt.recordedAt

/-- The attempt verifies a wrong password of the key, and its failure is recorded. -/
def Fails (accounts : Accounts) (key : String) (limiter : Limiter Time) (attempt : Attempt Time) :
    Prop :=
  attempt.request.key = key ∧ Passes limiter attempt ∧ accounts.refuses attempt.request = true

instance (accounts : Accounts) (key : String) (limiter : Limiter Time) (attempt : Attempt Time) :
    Decidable (Fails accounts key limiter attempt) :=
  inferInstanceAs (Decidable (_ ∧ _ ∧ _))

/-- What `record_failure` returns at the end of the attempt. -/
def lockedSeconds (limiter : Limiter Time) (attempt : Attempt Time) : Nat :=
  (recordFailure limiter (clientIp attempt.request) attempt.request.username
    attempt.recordedAt).2

/-- A failure at this moment makes the limiter forget that the key has been locked. -/
def Drops (key : String) (limiter : Limiter Time) (now : Time) : Prop :=
  ∃ st ∈ limiter key, 0 < st.lockLevel ∧ (failureWindowSeconds : Time) < now - st.lastAt

instance (key : String) (limiter : Limiter Time) (now : Time) : Decidable (Drops key limiter now) :=
  inferInstanceAs (Decidable (∃ st ∈ limiter key, _))

def State.attempt (accounts : Accounts) (key : String) (s : State Time) (attempt : Attempt Time) :
    State Time where
  clock := attempt.recordedAt
  limiter := (login accounts s.limiter attempt).1
  durations :=
    if Fails accounts key s.limiter attempt ∧ lockedSeconds s.limiter attempt ≠ 0 then
      s.durations ++ [lockedSeconds s.limiter attempt]
    else s.durations
  dropped := s.dropped ||
    decide (Fails accounts key s.limiter attempt ∧ Drops key s.limiter attempt.recordedAt)

/-- The clock does not go back. -/
def step (accounts : Accounts) (key : String) (s : State Time) (attempt : Attempt Time) :
    Option (State Time) :=
  if s.clock ≤ attempt.checkedAt ∧ attempt.checkedAt ≤ attempt.recordedAt then
    some (s.attempt accounts key attempt)
  else none

theorem step_eq_some {accounts : Accounts} {key : String} {s s' : State Time}
    {attempt : Attempt Time} (h : step accounts key s attempt = some s') :
    attempt.checkedAt ≤ attempt.recordedAt ∧ s' = s.attempt accounts key attempt := by
  unfold step at h
  split at h
  · rename_i htimes
    cases h
    exact ⟨htimes.2, rfl⟩
  · cases h

/-! ## A locked key stays locked -/

/-- An attempt for the key before the end of its lock is not allowed to verify a password. -/
def LockHeld (key : String) (s : State Time) (attempt : Attempt Time) (_ : State Time) : Prop :=
  attempt.request.key = key → ∀ st ∈ s.limiter key, attempt.checkedAt < st.lockedUntil →
    ¬Passes s.limiter attempt

/-- No attempt for the key is made in the last second of its lock. -/
def BeforeLastSecond (key : String) (s : State Time) (attempt : Attempt Time) (_ : State Time) :
    Prop :=
  attempt.request.key = key → ∀ st ∈ s.limiter key,
    attempt.checkedAt ≤ st.lockedUntil - 1 ∨ st.lockedUntil ≤ attempt.checkedAt

instance (key : String) (s s' : State Time) (attempt : Attempt Time) :
    Decidable (LockHeld key s attempt s') :=
  inferInstanceAs (Decidable (_ → ∀ st ∈ s.limiter key, _))

instance (key : String) (s s' : State Time) (attempt : Attempt Time) :
    Decidable (BeforeLastSecond key s attempt s') :=
  inferInstanceAs (Decidable (_ → ∀ st ∈ s.limiter key, _))

variable [IsStrictOrderedRing Time]

theorem lockHeld_iff {key : String} {s : State Time} {attempt : Attempt Time} (s' : State Time) :
    LockHeld key s attempt s' ↔ BeforeLastSecond key s attempt s' := by
  refine imp_congr_right fun hkey => forall₂_congr fun st hst => ?_
  rw [Passes, loginCheck_eq_none_iff, hkey]
  have hentry : (∀ st' ∈ s.limiter key, attempt.checkedAt < st'.lockedUntil →
      st'.lockedUntil - 1 < attempt.checkedAt) ↔
        (attempt.checkedAt < st.lockedUntil → st.lockedUntil - 1 < attempt.checkedAt) := by
    rw [Option.mem_def.mp hst]
    simp
  rw [hentry, Classical.not_imp, not_lt]
  apply Iff.intro
  · intro h
    rcases lt_or_ge attempt.checkedAt st.lockedUntil with hlt | hge
    · exact .inl (h hlt).2
    · exact .inr hge
  · intro h hlt
    exact ⟨hlt, h.resolve_right (not_le.mpr hlt)⟩

/-- **A locked key stays locked** in exactly the runs that make no attempt for it in the last second
of a lock: what is left of that second is truncated to 0, which stands for no lock. -/
theorem locks_held_iff (accounts : Accounts) (key : String) (s : State Time)
    (attempts : List (Attempt Time)) :
    Along (step accounts key) (LockHeld key) s attempts ↔
      Along (step accounts key) (BeforeLastSecond key) s attempts := by
  apply Iff.intro
  · intro h
    exact h.mono fun _ _ s' _ hheld => (lockHeld_iff s').mp hheld
  · intro h
    exact h.mono fun _ _ s' _ hbefore => (lockHeld_iff s').mpr hbefore

end System

/-! ## The locks grow -/

/-- The durations there should be: each twice the one before, until the longest is reached. -/
def backOff : Nat → Nat
  | 0 => baseLockSeconds
  | k + 1 => min (2 * backOff k) maxLockSeconds

theorem lockSeconds_eq_backOff (k : Nat) : lockSeconds (k + 1) = backOff k := by
  induction k with
  | zero => decide
  | succ k ih => rw [lockSeconds_succ, ih, backOff]

theorem backOff_le (k : Nat) : backOff k ≤ maxLockSeconds := by
  rw [← lockSeconds_eq_backOff]
  exact min_le_right _ _

theorem backOff_mono : Monotone backOff := by
  apply monotone_nat_of_le_succ
  intro k
  have hle := backOff_le k
  rw [backOff]
  omega

/-- Only the first of the durations is the base. -/
theorem backOff_succ_ne (k : Nat) : backOff (k + 1) ≠ baseLockSeconds := by
  have hle : backOff 1 ≤ backOff (k + 1) := backOff_mono (by omega)
  have hone : backOff 1 = 600 := by decide
  have hbase : baseLockSeconds = 300 := rfl
  omega

def Doubling (durations : List Nat) : Prop :=
  durations = (List.range durations.length).map backOff

instance (durations : List Nat) : Decidable (Doubling durations) :=
  inferInstanceAs (Decidable (_ = _))

/-- Durations that double never shrink. -/
theorem Doubling.sorted {durations : List Nat} (h : Doubling durations) :
    durations.Pairwise (· ≤ ·) := by
  rw [h, List.pairwise_map]
  exact List.pairwise_lt_range.imp fun hlt => backOff_mono (le_of_lt hlt)

theorem doubling_append_iff {durations : List Nat} (h : Doubling durations) (seconds : Nat) :
    Doubling (durations ++ [seconds]) ↔ seconds = backOff durations.length := by
  unfold Doubling
  rw [List.length_append, List.length_singleton, List.range_succ, List.map_append, ← h,
    List.map_singleton, List.append_cancel_left_eq, List.singleton_inj]

section BackOff

variable {Time : Type*}

/-- What the entry of the key says about the locks so far. -/
structure Inv (key : String) (s : State Time) : Prop where
  fresh : s.limiter key = none → s.durations = [] ∧ s.dropped = false
  level : ∀ st ∈ s.limiter key, st.lockLevel = if s.dropped then 0 else s.durations.length
  locked : s.dropped = true → s.durations ≠ []
  doubling : Doubling s.durations

theorem inv_start {key : String} (now : Time) {limiter : Limiter Time} (h : limiter key = none) :
    Inv key (start now limiter) where
  fresh _ := ⟨rfl, rfl⟩
  level st hst := by
    cases h.symm.trans hst
  locked hdropped := by cases hdropped
  doubling := rfl

variable [Field Time] [LinearOrder Time]

/-- The level of the entry a failure is added to. -/
theorem Inv.failureState_level {key : String} {s : State Time} (hinv : Inv key s) (now : Time) :
    (failureState s.limiter key now).lockLevel =
      if (s.dropped || decide (Drops key s.limiter now)) = true then 0
      else s.durations.length := by
  cases hst : s.limiter key with
  | none =>
      obtain ⟨hdurations, hdropped⟩ := hinv.fresh hst
      rw [failureState_of_none hst, hdurations]
      simp [FailureState.fresh]
  | some st =>
      have hlevel := hinv.level st hst
      have hdrops : Drops key s.limiter now ↔
          0 < st.lockLevel ∧ (failureWindowSeconds : Time) < now - st.lastAt := by
        unfold Drops
        rw [hst]
        simp
      by_cases hexpired : (failureWindowSeconds : Time) < now - st.lastAt
      · have hfresh : (failureState s.limiter key now).lockLevel = 0 := by
          rw [failureState, hst]
          dsimp only
          rw [if_pos hexpired]
          rfl
        rw [hfresh]
        -- an entry without a lock loses no level
        by_cases hlocked : 0 < st.lockLevel
        · rw [decide_eq_true (hdrops.mpr ⟨hlocked, hexpired⟩), Bool.or_true, if_pos rfl]
        · rw [decide_eq_false fun h => hlocked (hdrops.mp h).1, Bool.or_false, ← hlevel]
          omega
      · rw [failureState_of_window hst (not_lt.mp hexpired),
          decide_eq_false fun h => hexpired (hdrops.mp h).2, Bool.or_false]
        exact hlevel

variable [FloorRing Time]

/-- No attempt for the key succeeds. -/
def WrongPasswords (accounts : Accounts) (key : String) (s : State Time) (attempt : Attempt Time)
    (_ : State Time) : Prop :=
  attempt.request.key = key → Passes s.limiter attempt → accounts.refuses attempt.request = true

/-- The failure that sets a lock: the fifth of its entry. -/
def Locks (accounts : Accounts) (key : String) (s : State Time) (attempt : Attempt Time) : Prop :=
  Fails accounts key s.limiter attempt ∧
    (failureState s.limiter key attempt.recordedAt).count + 1 = maxFailures

/-- No lock is set once the limiter has forgotten an earlier one. -/
def NotDropped (accounts : Accounts) (key : String) (s : State Time) (attempt : Attempt Time)
    (_ : State Time) : Prop :=
  Locks accounts key s attempt → s.dropped = false

instance (accounts : Accounts) (key : String) (s s' : State Time) (attempt : Attempt Time) :
    Decidable (NotDropped accounts key s attempt s') :=
  inferInstanceAs (Decidable ((_ ∧ _) → _))

variable {accounts : Accounts} {key : String} {s s' : State Time} {attempt : Attempt Time}

/-- An attempt without a failure of the key leaves the key as it was. -/
theorem attempt_of_not_fails (hwrong : WrongPasswords accounts key s attempt s')
    (h : ¬Fails accounts key s.limiter attempt) :
    (s.attempt accounts key attempt).limiter key = s.limiter key ∧
      (s.attempt accounts key attempt).durations = s.durations ∧
      (s.attempt accounts key attempt).dropped = s.dropped := by
  refine ⟨?_, if_neg fun hfails => h hfails.1, ?_⟩
  · show (login accounts s.limiter attempt).1 key = s.limiter key
    unfold login
    split
    · rfl
    · rename_i hpasses
      apply loginVerify_of_ne
      intro hkey
      exact h ⟨hkey.symm, hpasses, hwrong hkey.symm hpasses⟩
  · show (s.dropped || decide _) = s.dropped
    rw [decide_eq_false fun hfails => h hfails.1, Bool.or_false]

section Failure

variable (h : Fails accounts key s.limiter attempt)
include h

theorem attempt_limiter : (s.attempt accounts key attempt).limiter key =
    some ((failureState s.limiter key attempt.recordedAt).failed attempt.recordedAt).1 := by
  show (login accounts s.limiter attempt).1 key = _
  obtain ⟨hkey, hpasses, hrefuses⟩ := h
  unfold Passes at hpasses
  rw [login, hpasses]
  dsimp only
  rw [loginVerify_of_refuses hrefuses, ← hkey]
  exact recordFailure_self _ _ _ _

theorem lockedSeconds_of_fails : lockedSeconds s.limiter attempt =
    if (failureState s.limiter key attempt.recordedAt).count + 1 = maxFailures then
      lockSeconds ((failureState s.limiter key attempt.recordedAt).lockLevel + 1) else 0 := by
  rw [← failed_snd, ← h.1]
  rfl

theorem attempt_durations : (s.attempt accounts key attempt).durations =
    if (failureState s.limiter key attempt.recordedAt).count + 1 = maxFailures then
      s.durations ++ [lockSeconds ((failureState s.limiter key attempt.recordedAt).lockLevel + 1)]
    else s.durations := by
  show (if _ ∧ _ then _ else _) = _
  rw [lockedSeconds_of_fails h]
  split <;> simp [h, (lockSeconds_pos _).ne']

theorem attempt_dropped : (s.attempt accounts key attempt).dropped =
    (s.dropped || decide (Drops key s.limiter attempt.recordedAt)) := by
  show (s.dropped || decide _) = _
  rw [decide_eq_decide.mpr (and_iff_right h)]

end Failure

/-- A failure that sets no lock. -/
theorem Inv.attempt_counted (hinv : Inv key s) (h : Fails accounts key s.limiter attempt)
    (hcount : (failureState s.limiter key attempt.recordedAt).count + 1 ≠ maxFailures) :
    Inv key (s.attempt accounts key attempt) := by
  have hentry := hinv.failureState_level attempt.recordedAt
  have hlimiter := attempt_limiter h
  have hdurations := attempt_durations h
  have hdropped := attempt_dropped h
  rw [if_neg hcount] at hdurations
  have hlt : (failureState s.limiter key attempt.recordedAt).count + 1 < maxFailures :=
    lt_of_le_of_ne (failureState s.limiter key attempt.recordedAt).count_lt hcount
  refine ⟨fun hnone => ?_, fun st hst => ?_, fun hlost => ?_, ?_⟩
  · rw [hlimiter] at hnone
    cases hnone
  · rw [hlimiter] at hst
    cases hst
    rw [(failed_of_lt _ hlt).2, hentry, hdropped, hdurations]
  · rw [hdurations]
    rw [hdropped, Bool.or_eq_true, decide_eq_true_eq] at hlost
    rcases hlost with hlost | ⟨st, hst, hlevel, _⟩
    · exact hinv.locked hlost
    · -- only an entry with a level is dropped, and the level counts the locks
      intro hnil
      rw [hinv.level st hst, hnil] at hlevel
      simp at hlevel
  · rw [hdurations]
    exact hinv.doubling

/-- A failure that sets a lock is the fifth of its entry, so the entry was not dropped with it. -/
theorem not_drops_of_locks (h : Locks accounts key s attempt) :
    ¬Drops key s.limiter attempt.recordedAt := by
  rintro ⟨st, hst, _, hexpired⟩
  have hcount := h.2
  rw [failureState, Option.mem_def.mp hst] at hcount
  dsimp only at hcount
  rw [if_pos hexpired] at hcount
  exact absurd (show 0 + 1 = maxFailures from hcount) (by decide)

/-- A lock has the duration it should have exactly when none was forgotten. -/
theorem Inv.attempt_locks (hinv : Inv key s) (h : Locks accounts key s attempt) :
    Doubling (s.attempt accounts key attempt).durations ↔ s.dropped = false := by
  have hentry := hinv.failureState_level attempt.recordedAt
  rw [decide_eq_false (not_drops_of_locks h), Bool.or_false] at hentry
  rw [attempt_durations h.1, if_pos h.2, doubling_append_iff hinv.doubling,
    lockSeconds_eq_backOff, hentry]
  cases hdropped : s.dropped with
  | false => simp
  | true =>
      obtain ⟨k, hk⟩ := Nat.exists_eq_succ_of_ne_zero
        fun h => hinv.locked hdropped (List.length_eq_zero_iff.mp h)
      rw [if_pos rfl, hk]
      exact iff_of_false (fun heq => backOff_succ_ne k heq.symm) (by decide)

theorem Inv.attempt_locked (hinv : Inv key s) (h : Locks accounts key s attempt)
    (hdropped : s.dropped = false) : Inv key (s.attempt accounts key attempt) := by
  have hentry := hinv.failureState_level attempt.recordedAt
  have hlimiter := attempt_limiter h.1
  have hkept : (s.attempt accounts key attempt).dropped = false := by
    rw [attempt_dropped h.1, hdropped, decide_eq_false (not_drops_of_locks h), Bool.or_false]
  refine ⟨fun hnone => ?_, fun st hst => ?_, fun hlost => ?_, (hinv.attempt_locks h).mpr hdropped⟩
  · rw [hlimiter] at hnone
    cases hnone
  · rw [hlimiter] at hst
    cases hst
    rw [decide_eq_false (not_drops_of_locks h), hdropped] at hentry
    rw [(failed_of_last _ h.2).1, hentry, hkept, attempt_durations h.1, if_pos h.2]
    simp
  · rw [hkept] at hlost
    cases hlost

/-- **One attempt** keeps the invariant when it sets no lock that comes after a forgotten one. -/
theorem Inv.next (hinv : Inv key s) (hwrong : WrongPasswords accounts key s attempt s')
    (hguard : NotDropped accounts key s attempt s') : Inv key (s.attempt accounts key attempt) := by
  by_cases hfails : Fails accounts key s.limiter attempt
  · by_cases hcount : (failureState s.limiter key attempt.recordedAt).count + 1 = maxFailures
    · exact hinv.attempt_locked ⟨hfails, hcount⟩ (hguard ⟨hfails, hcount⟩)
    · exact hinv.attempt_counted hfails hcount
  · obtain ⟨hlimiter, hdurations, hdropped⟩ := attempt_of_not_fails hwrong hfails
    refine ⟨?_, ?_, ?_, ?_⟩
    · rw [hlimiter, hdurations, hdropped]
      exact hinv.fresh
    · rw [hlimiter, hdurations, hdropped]
      exact hinv.level
    · rw [hdurations, hdropped]
      exact hinv.locked
    · rw [hdurations]
      exact hinv.doubling

/-- The durations stay right exactly when the attempt sets no such lock. -/
theorem Inv.doubling_iff (hinv : Inv key s) (hwrong : WrongPasswords accounts key s attempt s') :
    Doubling (s.attempt accounts key attempt).durations ↔
      NotDropped accounts key s attempt s' := by
  apply Iff.intro
  · intro h hlocks
    exact (hinv.attempt_locks hlocks).mp h
  · intro h
    exact (hinv.next hwrong h).doubling

/-- **The back-off** of a key under attack grows as it should in exactly the runs that set no lock
after the limiter has forgotten an earlier one. -/
theorem back_off_iff (accounts : Accounts) {key : String} (now : Time) {limiter : Limiter Time}
    (hfresh : limiter key = none) {attempts : List (Attempt Time)}
    (hwrong : Along (step accounts key) (WrongPasswords accounts key) (start now limiter)
      attempts) :
    Along (step accounts key) (fun _ _ s' => Doubling s'.durations) (start now limiter) attempts ↔
      Along (step accounts key) (NotDropped accounts key) (start now limiter) attempts := by
  have hiff : ∀ (s : State Time) a s', step accounts key s a = some s' → Inv key s →
      ((WrongPasswords accounts key s a s' ∧ Doubling s'.durations) ↔
        (WrongPasswords accounts key s a s' ∧ NotDropped accounts key s a s')) := by
    intro s a s' h hinv
    rw [(step_eq_some h).2]
    exact and_congr_right fun hwrong => hinv.doubling_iff hwrong
  have hkeep : ∀ (s : State Time) a s', step accounts key s a = some s' → Inv key s →
      (WrongPasswords accounts key s a s' ∧ NotDropped accounts key s a s') → Inv key s' := by
    intro s a s' h hinv hboth
    rw [(step_eq_some h).2]
    exact hinv.next hboth.1 hboth.2
  calc Along (step accounts key) (fun _ _ s' => Doubling s'.durations) (start now limiter) attempts
      ↔ Along (step accounts key) (fun s a s' => WrongPasswords accounts key s a s' ∧
          Doubling s'.durations) (start now limiter) attempts := by
            rw [along_and, and_iff_right hwrong]
    _ ↔ Along (step accounts key) (fun s a s' => WrongPasswords accounts key s a s' ∧
          NotDropped accounts key s a s') (start now limiter) attempts :=
            along_iff hiff hkeep (inv_start now hfresh)
    _ ↔ Along (step accounts key) (NotDropped accounts key) (start now limiter) attempts := by
            rw [along_and, and_iff_right hwrong]

/-! ### Where the back-off ends -/

/-- No more than three locks, and the third outlasts the window of the limiter. -/
def Capped (key : String) (s : State Time) : Prop :=
  s.durations.length ≤ 3 ∧ (s.dropped = false → s.durations.length = 3 →
    ∀ st ∈ s.limiter key, st.lockedUntil = st.lastAt + (lockSeconds 3 : Time))

variable [IsStrictOrderedRing Time]

/-- A failure after the third lock is recorded when the window is over. -/
theorem Inv.drops_of_capped (hinv : Inv key s) (hcapped : Capped key s)
    (hfails : Fails accounts key s.limiter attempt)
    (htimes : attempt.checkedAt ≤ attempt.recordedAt) (hdropped : s.dropped = false)
    (hthree : s.durations.length = 3) : Drops key s.limiter attempt.recordedAt := by
  obtain ⟨hkey, hpasses, _⟩ := hfails
  cases hst : s.limiter key with
  | none =>
      rw [(hinv.fresh hst).1] at hthree
      cases hthree
  | some st =>
      refine ⟨st, hst, ?_, ?_⟩
      · rw [hinv.level st hst, hdropped, hthree]
        decide
      · rw [Passes, loginCheck_eq_none_iff, hkey] at hpasses
        have huntil := hcapped.2 hdropped hthree st hst
        have hlate : st.lockedUntil - 1 < attempt.checkedAt := by
          rcases lt_or_ge attempt.checkedAt st.lockedUntil with hlt | hge
          · exact hpasses st hst hlt
          · exact (sub_one_lt _).trans_le hge
        have hthird : (lockSeconds 3 : Time) = 1200 := by
          rw [show lockSeconds 3 = 1200 by decide]
          norm_num
        have hwindow : (failureWindowSeconds : Time) = 900 := by
          rw [failureWindowSeconds]
          norm_num
        rw [huntil, hthird] at hlate
        rw [hwindow]
        linarith

theorem Inv.capped (hinv : Inv key s) (hcapped : Capped key s)
    (hwrong : WrongPasswords accounts key s attempt s')
    (hguard : NotDropped accounts key s attempt s')
    (htimes : attempt.checkedAt ≤ attempt.recordedAt) :
    Capped key (s.attempt accounts key attempt) := by
  by_cases hfails : Fails accounts key s.limiter attempt
  · have hdurations := attempt_durations hfails
    have hdropped := attempt_dropped hfails
    by_cases hcount : (failureState s.limiter key attempt.recordedAt).count + 1 = maxFailures
    · have hkept : s.dropped = false := hguard ⟨hfails, hcount⟩
      have hlt : s.durations.length < 3 := by
        refine lt_of_le_of_ne hcapped.1 fun hthree => ?_
        exact not_drops_of_locks ⟨hfails, hcount⟩
          (hinv.drops_of_capped hcapped hfails htimes hkept hthree)
      rw [if_pos hcount] at hdurations
      have hlength : (s.attempt accounts key attempt).durations.length =
          s.durations.length + 1 := by simp [hdurations]
      refine ⟨by omega, fun _ hthree st hst => ?_⟩
      have hentry := hinv.failureState_level attempt.recordedAt
      rw [decide_eq_false (not_drops_of_locks ⟨hfails, hcount⟩), hkept] at hentry
      rw [attempt_limiter hfails] at hst
      cases hst
      rw [(failed_of_last _ hcount).2, failed_lastAt, hentry]
      have htwo : s.durations.length = 2 := by omega
      rw [if_neg (by decide), htwo]
    · rw [if_neg hcount] at hdurations
      rw [Capped, hdurations]
      refine ⟨hcapped.1, fun hkept hthree => ?_⟩
      -- the window after the third lock is over, so this failure has dropped it
      rw [hdropped, Bool.or_eq_false_iff, decide_eq_false_iff_not] at hkept
      exact absurd (hinv.drops_of_capped hcapped hfails htimes hkept.1 hthree) hkept.2
  · obtain ⟨hlimiter, hdurations, hdropped⟩ := attempt_of_not_fails hwrong hfails
    rw [Capped, hlimiter, hdurations, hdropped]
    exact hcapped

/-- **Three locks at most.**  While the back-off grows as it should, the key is never locked a
fourth time: the third lock is longer than the window in which the limiter remembers it. -/
theorem three_locks_at_most {accounts : Accounts} {key : String} (now : Time)
    {limiter : Limiter Time} (hfresh : limiter key = none) {attempts : List (Attempt Time)}
    (hrun : Along (step accounts key) (fun s a s' => WrongPasswords accounts key s a s' ∧
      NotDropped accounts key s a s') (start now limiter) attempts) :
    Along (step accounts key) (fun _ _ s' => s'.durations.length ≤ 3) (start now limiter)
      attempts := by
  have hstep : ∀ (s : State Time) a s', step accounts key s a = some s' →
      (Inv key s ∧ Capped key s) →
        (WrongPasswords accounts key s a s' ∧ NotDropped accounts key s a s') →
          (Inv key s' ∧ Capped key s') ∧ s'.durations.length ≤ 3 := by
    intro s a s' h hinv hguard
    obtain ⟨htimes, rfl⟩ := step_eq_some h
    have hcapped := hinv.1.capped hinv.2 hguard.1 hguard.2 htimes
    exact ⟨⟨hinv.1.next hguard.1 hguard.2, hcapped⟩, hcapped.1⟩
  have hstart : Inv key (start now limiter) ∧ Capped key (start now limiter) :=
    ⟨inv_start now hfresh, Nat.zero_le 3, fun _ hthree => by cases hthree⟩
  exact along_of_invariant hstep hstart hrun

end BackOff

/-! ## Two runs against one key -/

/-- A user whose password nobody guesses. -/
def guarded : Accounts := ⟨fun username => if username = "admin" then some "h" else none,
  fun _ _ => false⟩

theorem guarded_refuses (request : LoginRequest) : guarded.refuses request = true := by
  unfold Accounts.refuses guarded
  dsimp only
  split <;> simp

/-- A guess whose password is verified at once. -/
def guess (t : ℚ) : Attempt ℚ := ⟨⟨"", some "10.0.0.9", "admin", "guess"⟩, t, t⟩

def attackedKey : String := "10.0.0.9|admin"

def noFailures : Limiter ℚ := fun _ => none

theorem guesses_wrong (s : State ℚ) (attempts : List (Attempt ℚ)) :
    Along (step guarded attackedKey) (WrongPasswords guarded attackedKey) s attempts := by
  have hstep : ∀ (s : State ℚ) attempt s', step guarded attackedKey s attempt = some s' → True →
      True ∧ WrongPasswords guarded attackedKey s attempt s' :=
    fun _ attempt _ _ _ => ⟨trivial, fun _ _ => guarded_refuses attempt.request⟩
  exact along_of_step hstep trivial

theorem locks_held_early :
    Along (step guarded attackedKey) (LockHeld attackedKey) (start 0 noFailures)
      ([1, 2, 3, 4, 5, 304].map guess) :=
  (locks_held_iff guarded attackedKey (start 0 noFailures)
    ([1, 2, 3, 4, 5, 304].map guess)).mpr (by decide +kernel)

/-- Five failures lock the key until 305, and half a second before that an attempt is allowed. -/
theorem last_second_passes :
    ¬Along (step guarded attackedKey) (LockHeld attackedKey) (start 0 noFailures)
      ([1, 2, 3, 4, 5, 304.5].map guess) := by
  decide +kernel

/-- Five failures, an attempt that is refused, and after 900 seconds more five failures again. -/
def patient : List (Attempt ℚ) :=
  [1, 2, 3, 4, 5, 304, 1204, 1205, 1206, 1207, 1208].map guess

theorem back_off_iff_patient :
    Along (step guarded attackedKey) (fun _ _ s' => Doubling s'.durations) (start 0 noFailures)
        patient ↔
      Along (step guarded attackedKey) (NotDropped guarded attackedKey) (start 0 noFailures)
        patient :=
  back_off_iff guarded 0 rfl (guesses_wrong _ _)

/-- The attempts are never more than a window apart, and the key is locked for 300 seconds twice. -/
theorem same_lock_twice :
    patient.IsChain (fun a b => b.checkedAt - a.checkedAt ≤ (failureWindowSeconds : ℚ)) ∧
      (exec (step guarded attackedKey) (start 0 noFailures) patient).map State.durations =
        some [300, 300] ∧
      ¬Along (step guarded attackedKey) (fun _ _ s' => Doubling s'.durations)
        (start 0 noFailures) patient := by
  decide +kernel

end LanAgent.Lockout
