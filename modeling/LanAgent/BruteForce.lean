import LanAgent.Library.Runs
import LanAgent.RateLimit
import Mathlib.Data.Rat.Floor

/-!
# Guessing a password — concurrent logins of one key

Any number of login requests, each of them suspended at its query between the check of the limiter
and the verification of its password.  The passwords for one key are wrong; the requests of other
keys are arbitrary.  At most `maxFailures` of the passwords should be verified before the first lock
of the key has expired; `brute_force_bounded_iff` says which runs keep that.
-/

namespace LanAgent.BruteForce

open Library Library.Runs

/-! ## The system -/

inductive Stage where
  | arrived
  /-- The limiter has let the request pass, and its query is not answered yet. -/
  | checked
  | finished
  deriving DecidableEq, Repr

/-- The requests of a run, with wrong passwords in those of one key. -/
structure Attack where
  accounts : Accounts
  requests : Nat → LoginRequest
  key : String
  wrong : ∀ k, (requests k).key = key → accounts.refuses (requests k) = true

structure State (Time : Type*) where
  now : Time
  limiter : Limiter Time
  stages : Nat → Stage
  /-- When passwords for the key were verified, the latest first. -/
  verified : List Time
  /-- When the first lock of the key expires, once there is one. -/
  firstLock : Option Time

inductive Event (Time : Type*) where
  | wait (duration : Time)
  | check (k : Nat)
  | verify (k : Nat)

def start {Time : Type*} (now : Time) (limiter : Limiter Time) : State Time where
  now := now
  limiter := limiter
  stages := fun _ => .arrived
  verified := []
  firstLock := none

/-- When the lock of the key ends, if it has been locked. -/
def lockEnd {Time : Type*} (limiter : Limiter Time) (key : String) : Option Time :=
  match limiter key with
  | none => none
  | some st => if 0 < st.lockLevel then some st.lockedUntil else none

/-- The failures the limiter holds against the key. -/
def counted {Time : Type*} (limiter : Limiter Time) (key : String) : Nat :=
  match limiter key with
  | none => 0
  | some st => st.count

section System

variable {Time : Type*} [Field Time] [LinearOrder Time]

/-- The state after the query of the request `k` is answered. -/
def State.verify (a : Attack) (s : State Time) (k : Nat) : State Time :=
  let limiter := (loginVerify a.accounts s.limiter (a.requests k) s.now).1
  { s with
    limiter := limiter
    stages := Function.update s.stages k .finished
    verified := if (a.requests k).key = a.key then s.now :: s.verified else s.verified
    firstLock := s.firstLock.or (lockEnd limiter a.key) }

def step [FloorRing Time] (a : Attack) (s : State Time) : Event Time → Option (State Time)
  | .wait duration => if 0 ≤ duration then some { s with now := s.now + duration } else none
  | .check k =>
      if s.stages k = .arrived then
        match loginCheck s.limiter (a.requests k) s.now with
        | some _ => some { s with stages := Function.update s.stages k .finished }
        | none => some { s with stages := Function.update s.stages k .checked }
      else none
  | .verify k => if s.stages k = .checked then some (s.verify a k) else none

/-- What a step does: time passes, a request passes or fails the check, a password is verified. -/
inductive Step [FloorRing Time] (a : Attack) (s : State Time) : Event Time → State Time → Prop
  | wait {duration : Time} (hduration : 0 ≤ duration) :
      Step a s (.wait duration) { s with now := s.now + duration }
  | checkFailed {k : Nat} (hstage : s.stages k = .arrived)
      (hcheck : (loginCheck s.limiter (a.requests k) s.now).isSome) :
      Step a s (.check k) { s with stages := Function.update s.stages k .finished }
  | checkPassed {k : Nat} (hstage : s.stages k = .arrived)
      (hcheck : loginCheck s.limiter (a.requests k) s.now = none) :
      Step a s (.check k) { s with stages := Function.update s.stages k .checked }
  | verify {k : Nat} (hstage : s.stages k = .checked) : Step a s (.verify k) (s.verify a k)

theorem step_cases [FloorRing Time] {a : Attack} {s s' : State Time} {e : Event Time}
    (h : step a s e = some s') : Step a s e s' := by
  cases e with
  | wait duration =>
      simp only [step] at h
      split at h
      · rename_i hduration
        cases h
        exact .wait hduration
      · cases h
  | check k =>
      simp only [step] at h
      split at h
      · rename_i hstage
        split at h
        · rename_i hcheck
          cases h
          exact .checkFailed hstage (by rw [hcheck]; rfl)
        · rename_i hcheck
          cases h
          exact .checkPassed hstage hcheck
      · cases h
  | verify k =>
      simp only [step] at h
      split at h
      · rename_i hstage
        cases h
        exact .verify hstage
      · cases h

end System

/-! ## The bound -/

section Bound

variable {Time : Type*} [LinearOrder Time]

/-- The first lock of the key, if there is one yet, has not expired by the moment. -/
def BeforeExpiry (firstLock : Option Time) (t : Time) : Prop := ∀ e ∈ firstLock, t < e

instance (firstLock : Option Time) : DecidablePred (BeforeExpiry firstLock) :=
  fun _ => inferInstanceAs (Decidable (∀ e ∈ firstLock, _))

/-- Until the first lock has expired, no more passwords are verified than the limiter has failures
to give. -/
def Bounded (s : State Time) : Prop :=
  (s.verified.filter (fun t => BeforeExpiry s.firstLock t)).length ≤ maxFailures

instance (s : State Time) : Decidable (Bounded s) := inferInstanceAs (Decidable (_ ≤ _))

/-- No password is verified while the first lock of the key lasts. -/
def NotLocked (a : Attack) (s : State Time) : Event Time → State Time → Prop
  | .verify k, _ => (a.requests k).key = a.key → ∀ e ∈ s.firstLock, e ≤ s.now
  | _, _ => True

variable [Field Time]

/-- The moments, the latest first, follow each other within the window of the limiter. -/
def NoPause (times : List Time) : Prop :=
  times.IsChain fun later earlier => later - earlier ≤ (failureWindowSeconds : Time)

/-- As many of the earliest as the limiter has failures to give. -/
def firstFailures {α : Type*} (times : List α) : List α := times.drop (times.length - maxFailures)

/-- No password is verified after the first five, if there was a pause among these that made the
limiter count anew. -/
def NotForgotten (a : Attack) (s : State Time) : Event Time → State Time → Prop
  | .verify k, _ => (a.requests k).key = a.key → maxFailures ≤ s.verified.length →
      NoPause (firstFailures s.verified)
  | _, _ => True

theorem firstFailures_of_le {α : Type*} {times : List α} (h : times.length ≤ maxFailures) :
    firstFailures times = times := by
  rw [firstFailures, Nat.sub_eq_zero_of_le h, List.drop_zero]

theorem firstFailures_cons {α : Type*} {times : List α} (h : maxFailures ≤ times.length) (t : α) :
    firstFailures (t :: times) = firstFailures times := by
  rw [firstFailures, firstFailures, List.length_cons, Nat.succ_sub h, List.drop_succ_cons]

theorem noPause_cons {t : Time} {times : List Time} : NoPause (t :: times) ↔
    (∀ earlier ∈ times.head?, t - earlier ≤ (failureWindowSeconds : Time)) ∧ NoPause times :=
  List.isChain_cons

end Bound

/-! ## The invariant -/

section Limiter

variable {Time : Type*} {limiter limiter' : Limiter Time} {key : String}

theorem lockEnd_congr (h : limiter' key = limiter key) :
    lockEnd limiter' key = lockEnd limiter key := by
  rw [lockEnd, lockEnd, h]

theorem counted_congr (h : limiter' key = limiter key) :
    counted limiter' key = counted limiter key := by
  rw [counted, counted, h]

theorem lockEnd_of_none (h : limiter key = none) : lockEnd limiter key = none := by
  rw [lockEnd, h]

theorem counted_of_none (h : limiter key = none) : counted limiter key = 0 := by
  rw [counted, h]

theorem lockEnd_of_some {st : FailureState Time} (h : limiter key = some st) :
    lockEnd limiter key = if 0 < st.lockLevel then some st.lockedUntil else none := by
  rw [lockEnd, h]

theorem counted_of_some {st : FailureState Time} (h : limiter key = some st) :
    counted limiter key = st.count := by
  rw [counted, h]

theorem counted_lt : counted limiter key < maxFailures := by
  cases hst : limiter key with
  | none =>
      rw [counted_of_none hst]
      decide
  | some st =>
      rw [counted_of_some hst]
      exact st.count_lt

variable [Field Time] [LinearOrder Time] {now : Time}

/-- A key that has no lock has no level. -/
theorem lockLevel_failureState (h : lockEnd limiter key = none) :
    (failureState limiter key now).lockLevel = 0 := by
  unfold failureState
  cases hst : limiter key with
  | none => rfl
  | some st =>
      rw [lockEnd_of_some hst, ite_eq_right_iff] at h
      have hlevel : st.lockLevel = 0 := by
        by_contra hlevel
        exact absurd (h (Nat.pos_of_ne_zero hlevel)) (by simp)
      dsimp only
      split
      · rfl
      · exact hlevel

/-- Within the window none is dropped. -/
theorem count_failureState_of_window
    (h : ∀ st ∈ limiter key, now - st.lastAt ≤ (failureWindowSeconds : Time)) :
    (failureState limiter key now).count = counted limiter key := by
  cases hst : limiter key with
  | none => rw [failureState_of_none hst, counted_of_none hst, FailureState.fresh]
  | some st => rw [failureState_of_window hst (h st hst), counted_of_some hst]

/-- After a pause all are. -/
theorem count_failureState_of_pause {st : FailureState Time} (hst : limiter key = some st)
    (hpause : (failureWindowSeconds : Time) < now - st.lastAt) :
    (failureState limiter key now).count = 0 := by
  rw [failureState, hst]
  dsimp only
  rw [if_pos hpause, FailureState.fresh]

end Limiter

section Invariant

variable {Time : Type*}

variable [LinearOrder Time] [Field Time]

/-- So many of the failures are counted: all of them, if there was no pause. -/
def Counts (times : List Time) (n : Nat) : Prop :=
  (NoPause times → n = times.length) ∧ (¬NoPause times → n < times.length)

theorem Counts.le {times : List Time} {n : Nat} (h : Counts times n) : n ≤ times.length := by
  by_cases hpause : NoPause times
  · exact (h.1 hpause).le
  · exact (h.2 hpause).le

structure Inv (a : Attack) (s : State Time) : Prop where
  past : ∀ t ∈ s.verified, t ≤ s.now
  unlocked : s.firstLock = none → lockEnd s.limiter a.key = none
  last : s.firstLock = none → (s.limiter a.key).map FailureState.lastAt = s.verified.head?
  counts : s.firstLock = none → Counts s.verified (counted s.limiter a.key)
  /-- The first lock is for five failures in a row. -/
  inRow : s.firstLock ≠ none →
    maxFailures ≤ s.verified.length ∧ NoPause (firstFailures s.verified)
  spare : s.firstLock = none → s.verified.length ≤ maxFailures
  locked : ∀ e, s.firstLock = some e →
    (s.verified.filter (fun t => BeforeExpiry (some e) t)).length = maxFailures

theorem inv_start {a : Attack} (now : Time) {limiter : Limiter Time} (h : limiter a.key = none) :
    Inv a (start now limiter) where
  past t ht := absurd ht List.not_mem_nil
  unlocked _ := lockEnd_of_none h
  last _ := congrArg (Option.map _) h
  counts _ := ⟨fun _ => counted_of_none h, fun hpause => absurd List.isChain_nil hpause⟩
  inRow hlock := absurd rfl hlock
  spare _ := Nat.zero_le _
  locked e he := by cases he

omit [Field Time] in
theorem filter_none (times : List Time) :
    times.filter (fun t => BeforeExpiry none t) = times := by
  rw [List.filter_eq_self]
  intro t _
  exact decide_eq_true fun e he => by cases he

theorem Inv.bounded {a : Attack} {s : State Time} (hinv : Inv a s) : Bounded s := by
  unfold Bounded
  cases hlock : s.firstLock with
  | none =>
      rw [filter_none]
      exact hinv.spare hlock
  | some e => exact (hinv.locked e hlock).le

/-- A step that leaves the entry of the key, and what is known of it, as they were. -/
theorem Inv.of_same {a : Attack} {s s' : State Time} (hinv : Inv a s)
    (hlimiter : s'.limiter a.key = s.limiter a.key) (hverified : s'.verified = s.verified)
    (hlock : s'.firstLock = s.firstLock) (hnow : s.now ≤ s'.now) : Inv a s' where
  past t ht := by
    rw [hverified] at ht
    exact (hinv.past t ht).trans hnow
  unlocked hnone := by
    rw [lockEnd_congr hlimiter]
    exact hinv.unlocked (hlock.symm.trans hnone)
  last hnone := by
    rw [hlimiter, hverified]
    exact hinv.last (hlock.symm.trans hnone)
  counts hnone := by
    rw [counted_congr hlimiter, hverified]
    exact hinv.counts (hlock.symm.trans hnone)
  inRow hsome := by
    rw [hverified]
    exact hinv.inRow (hlock ▸ hsome)
  spare hnone := by
    rw [hverified]
    exact hinv.spare (hlock.symm.trans hnone)
  locked e he := by
    rw [hverified]
    exact hinv.locked e (hlock.symm.trans he)

/-- Where nothing was forgotten, the limiter has a failure to give until the first lock. -/
theorem Inv.length_lt {a : Attack} {s : State Time} (hinv : Inv a s) (hlock : s.firstLock = none)
    (hrow : maxFailures ≤ s.verified.length → NoPause (firstFailures s.verified)) :
    s.verified.length < maxFailures := by
  by_contra hfull
  have hlength : s.verified.length = maxFailures := le_antisymm (hinv.spare hlock) (not_lt.mp hfull)
  have hcounted : counted s.limiter a.key = s.verified.length := by
    apply (hinv.counts hlock).1
    rw [← firstFailures_of_le hlength.le]
    exact hrow hlength.ge
  have hlt : counted s.limiter a.key < maxFailures := counted_lt
  omega

end Invariant

/-! ## One step -/

section Steps

variable {Time : Type*} [LinearOrder Time] [Field Time]

/-- A login of another key changes nothing that is known of the key. -/
theorem verify_of_ne {a : Attack} {s : State Time} {k : Nat} (hkey : (a.requests k).key ≠ a.key)
    (hunlocked : s.firstLock = none → lockEnd s.limiter a.key = none) :
    (s.verify a k).limiter a.key = s.limiter a.key ∧ (s.verify a k).verified = s.verified ∧
      (s.verify a k).firstLock = s.firstLock := by
  have hlimiter : (loginVerify a.accounts s.limiter (a.requests k) s.now).1 a.key =
      s.limiter a.key := loginVerify_of_ne (Ne.symm hkey)
  refine ⟨hlimiter, if_neg hkey, ?_⟩
  show s.firstLock.or (lockEnd _ a.key) = s.firstLock
  rw [lockEnd_congr hlimiter]
  cases hlock : s.firstLock with
  | none => rw [hunlocked hlock, Option.or_none]
  | some e => rfl

/-- The failure of a wrong password is recorded for the key. -/
theorem verify_limiter {a : Attack} {s : State Time} {k : Nat}
    (hkey : (a.requests k).key = a.key) : (s.verify a k).limiter a.key =
      some ((failureState s.limiter a.key s.now).failed s.now).1 := by
  show (loginVerify a.accounts s.limiter (a.requests k) s.now).1 a.key = _
  rw [loginVerify_of_refuses (a.wrong k hkey), ← hkey]
  exact recordFailure_self _ _ _ _

theorem verify_verified {a : Attack} {s : State Time} {k : Nat}
    (hkey : (a.requests k).key = a.key) : (s.verify a k).verified = s.now :: s.verified :=
  if_pos hkey

theorem verify_firstLock_of_locked {a : Attack} {s : State Time} {k : Nat} {e : Time}
    (hlock : s.firstLock = some e) : (s.verify a k).firstLock = some e := by
  show s.firstLock.or _ = _
  rw [hlock, Option.some_or]

/-- The lock that a failure sets when there was none. -/
theorem verify_firstLock {a : Attack} {s : State Time} {k : Nat}
    (hkey : (a.requests k).key = a.key) (hlock : s.firstLock = none)
    (hunlocked : lockEnd s.limiter a.key = none) : (s.verify a k).firstLock =
      if (failureState s.limiter a.key s.now).count + 1 = maxFailures then
        some (s.now + (lockSeconds 1 : Time)) else none := by
  have hlevel : (failureState s.limiter a.key s.now).lockLevel = 0 :=
    lockLevel_failureState hunlocked
  have hfirst : (s.verify a k).firstLock = lockEnd (s.verify a k).limiter a.key := by
    show s.firstLock.or _ = _
    rw [hlock, Option.none_or]
    rfl
  rw [hfirst, lockEnd_of_some (verify_limiter hkey)]
  generalize failureState s.limiter a.key s.now = st at hlevel
  by_cases hlast : st.count + 1 = maxFailures
  · obtain ⟨hlevel', huntil⟩ := failed_of_last s.now hlast
    rw [hlevel', huntil, hlevel, if_pos (by omega), if_pos hlast]
  · have hlt : st.count + 1 < maxFailures := by
      have := st.count_lt
      omega
    rw [(failed_of_lt s.now hlt).2, hlevel, if_neg (by omega), if_neg hlast]

/-- A failure that sets no lock is counted. -/
theorem verify_counts {a : Attack} {s : State Time} {k : Nat}
    (hkey : (a.requests k).key = a.key) (hlock : s.firstLock = none)
    (hunlocked : lockEnd s.limiter a.key = none) (hnone : (s.verify a k).firstLock = none) :
    lockEnd (s.verify a k).limiter a.key = none ∧
      counted (s.verify a k).limiter a.key =
        (failureState s.limiter a.key s.now).count + 1 := by
  have hlast : (failureState s.limiter a.key s.now).count + 1 ≠ maxFailures := by
    intro hlast
    rw [verify_firstLock hkey hlock hunlocked, if_pos hlast] at hnone
    cases hnone
  have hlt : (failureState s.limiter a.key s.now).count + 1 < maxFailures := by
    have := (failureState s.limiter a.key s.now).count_lt
    omega
  obtain ⟨hcount, hlevel⟩ := failed_of_lt s.now hlt
  rw [lockEnd_of_some (verify_limiter hkey), counted_of_some (verify_limiter hkey), hcount, hlevel,
    lockLevel_failureState hunlocked]
  exact ⟨rfl, rfl⟩

section Verify

variable {a : Attack} {s : State Time} {k : Nat} (hinv : Inv a s)
  (hkey : (a.requests k).key = a.key)

include hinv hkey

theorem Inv.verify_past : ∀ t ∈ (s.verify a k).verified, t ≤ s.now := by
  rw [verify_verified hkey]
  exact List.forall_mem_cons.mpr ⟨le_rfl, hinv.past⟩

/-- A password that is verified when the first lock has expired is not counted. -/
theorem Inv.verify_expired {e : Time} (hlock : s.firstLock = some e) (hexpired : e ≤ s.now) :
    Inv a (s.verify a k) := by
  have hfirst : (s.verify a k).firstLock = some e := verify_firstLock_of_locked hlock
  have hsome : (s.verify a k).firstLock ≠ none := by
    rw [hfirst]
    exact Option.some_ne_none e
  have hlocked : s.firstLock ≠ none := by
    rw [hlock]
    exact Option.some_ne_none e
  obtain ⟨hfive, hrow⟩ := hinv.inRow hlocked
  refine ⟨hinv.verify_past hkey, fun hnone => absurd hnone hsome, fun hnone => absurd hnone hsome,
    fun hnone => absurd hnone hsome, fun _ => ?_, fun hnone => absurd hnone hsome, fun e' he' => ?_⟩
  · rw [verify_verified hkey, firstFailures_cons hfive, List.length_cons]
    exact ⟨hfive.trans (Nat.le_succ _), hrow⟩
  rw [hfirst, Option.some.injEq] at he'
  have hlate : ¬BeforeExpiry (some e') s.now := fun h =>
    absurd (h e' rfl) (not_lt.mpr (he' ▸ hexpired))
  rw [verify_verified hkey, List.filter_cons_of_neg (by simpa using hlate)]
  exact hinv.locked e' (he' ▸ hlock)

/-- While the first lock lasts, one password more is one too many. -/
theorem Inv.verify_locked {e : Time} (hlock : s.firstLock = some e) (hlasts : s.now < e) :
    ¬Bounded (s.verify a k) := by
  have hearly : BeforeExpiry (some e) s.now := by
    intro e' he'
    rwa [← Option.some.inj he']
  unfold Bounded
  rw [verify_firstLock_of_locked hlock, verify_verified hkey,
    List.filter_cons_of_pos (by simpa using hearly), List.length_cons, hinv.locked e hlock]
  omega

variable [IsStrictOrderedRing Time]

/-- A lock that is set now has not expired for what was verified so far. -/
theorem Inv.verify_counted (hlock : s.firstLock = none) :
    (s.verify a k).verified.filter (fun t => BeforeExpiry (s.verify a k).firstLock t) =
      (s.verify a k).verified := by
  rw [List.filter_eq_self]
  intro t ht
  apply decide_eq_true
  intro e he
  have hpos : (0 : Time) < (lockSeconds 1 : Time) := Nat.cast_pos.mpr (lockSeconds_pos _)
  rw [verify_firstLock hkey hlock (hinv.unlocked hlock)] at he
  split at he
  · cases he
    exact (hinv.verify_past hkey t ht).trans_lt (lt_add_of_pos_right s.now hpos)
  · cases he

omit [IsStrictOrderedRing Time] in
/-- A failure is counted with those before it, unless a pause has made the limiter forget them. -/
theorem Inv.counts_verify (hlock : s.firstLock = none) :
    Counts (s.verify a k).verified ((failureState s.limiter a.key s.now).count + 1) := by
  obtain ⟨hall, hsome⟩ := hinv.counts hlock
  have hlast := hinv.last hlock
  rw [verify_verified hkey, Counts, noPause_cons, ← hlast, List.length_cons]
  by_cases hwindow : ∀ st ∈ s.limiter a.key, s.now - st.lastAt ≤ (failureWindowSeconds : Time)
  · have hrow : ∀ earlier ∈ (s.limiter a.key).map FailureState.lastAt,
        s.now - earlier ≤ (failureWindowSeconds : Time) := by
      intro earlier hearlier
      obtain ⟨st, hst, rfl⟩ := Option.map_eq_some_iff.mp hearlier
      exact hwindow st hst
    rw [count_failureState_of_window hwindow, and_iff_right hrow]
    exact ⟨fun h => congrArg Nat.succ (hall h), fun h => Nat.succ_lt_succ (hsome h)⟩
  · push Not at hwindow
    obtain ⟨st, hst, hpause⟩ := hwindow
    have hhead : s.verified.head? = some st.lastAt := by
      rw [← hlast, hst, Option.map_some]
    have hlength : 0 < s.verified.length :=
      List.length_pos_of_mem (List.mem_of_head? hhead)
    rw [count_failureState_of_pause hst hpause]
    refine ⟨fun h => absurd (h.1 st.lastAt ?_) (not_le.mpr hpause), fun _ => by omega⟩
    rw [hst]
    exact rfl

/-- **Up to the fifth failure** every password is counted, and the fifth one sets the lock. -/
theorem Inv.verify_unlocked (hlock : s.firstLock = none)
    (hspare : s.verified.length < maxFailures) : Inv a (s.verify a k) := by
  have hunlocked := hinv.unlocked hlock
  have hcounted := hinv.verify_counted hkey hlock
  have hlength : (s.verify a k).verified.length = s.verified.length + 1 := by
    rw [verify_verified hkey, List.length_cons]
  have hcounts := hinv.counts_verify hkey hlock
  have hle := hcounts.le
  refine ⟨hinv.verify_past hkey, fun hnone => ?_, fun _ => ?_, fun hnone => ?_, fun hsome => ?_,
    fun _ => ?_, fun e he => ?_⟩
  · exact (verify_counts hkey hlock hunlocked hnone).1
  · rw [verify_limiter hkey, Option.map_some, failed_lastAt, verify_verified hkey, List.head?_cons]
  · rw [(verify_counts hkey hlock hunlocked hnone).2]
    exact hcounts
  -- the lock is set by the fifth failure in a row
  · rw [verify_firstLock hkey hlock hunlocked, ne_eq, ite_eq_right_iff, Classical.not_imp] at hsome
    have hlast := hsome.1
    have hfive : (s.verify a k).verified.length = maxFailures := by omega
    rw [firstFailures_of_le hfive.le]
    refine ⟨hfive.ge, by_contra fun hpause => ?_⟩
    have hlt := hcounts.2 hpause
    omega
  · omega
  -- no more than five were verified
  · rw [he] at hcounted
    rw [hcounted, hlength]
    rw [verify_firstLock hkey hlock hunlocked] at he
    split at he
    · omega
    · cases he

end Verify

variable [FloorRing Time]

variable [IsStrictOrderedRing Time]

theorem step_inv {a : Attack} {s s' : State Time} {e : Event Time} (h : step a s e = some s')
    (hinv : Inv a s) (hlocked : NotLocked a s e s') (hrow : NotForgotten a s e s') : Inv a s' := by
  cases step_cases h with
  | wait hduration => exact hinv.of_same rfl rfl rfl (le_add_of_nonneg_right hduration)
  | checkFailed _ _ => exact hinv.of_same rfl rfl rfl le_rfl
  | checkPassed _ _ => exact hinv.of_same rfl rfl rfl le_rfl
  | @verify k _ =>
      by_cases hkey : (a.requests k).key = a.key
      · cases hlock : s.firstLock with
        | none => exact hinv.verify_unlocked hkey hlock (hinv.length_lt hlock (hrow hkey))
        | some e => exact hinv.verify_expired hkey hlock (hlocked hkey e hlock)
      · obtain ⟨hlimiter, hverified, hlock⟩ := verify_of_ne hkey hinv.unlocked
        exact hinv.of_same hlimiter hverified hlock le_rfl

/-- **One step** keeps the bound exactly when it verifies nothing under the first lock, and nothing
more after five failures with a pause. -/
theorem step_iff {a : Attack} {s s' : State Time} {e : Event Time} (h : step a s e = some s')
    (hinv : Inv a s) : Bounded s' ↔ (NotLocked a s e s' ∧ NotForgotten a s e s') := by
  refine ⟨fun hbounded => ?_, fun hboth => (step_inv h hinv hboth.1 hboth.2).bounded⟩
  cases step_cases h with
  | verify _ =>
      refine ⟨fun hkey e he => ?_, fun hkey hfive => ?_⟩
      · by_contra hlasts
        exact hinv.verify_locked hkey he (not_le.mp hlasts) hbounded
      · by_cases hlock : s.firstLock = none
        · unfold Bounded at hbounded
          rw [hinv.verify_counted hkey hlock, verify_verified hkey, List.length_cons] at hbounded
          omega
        · exact (hinv.inRow hlock).2
  | _ => exact ⟨trivial, trivial⟩

/-! ## Whole runs -/

/-- **The bound on guesses** holds, for a key without failures, in exactly the runs that verify no
password while the first lock lasts, and none after the first five if there was a pause of more than
a window among these. -/
theorem brute_force_bounded_iff (a : Attack) (now : Time) {limiter : Limiter Time}
    (hfresh : limiter a.key = none) (events : List (Event Time)) :
    Along (step a) (fun _ _ s' => Bounded s') (start now limiter) events ↔
      Along (step a) (fun s e s' => NotLocked a s e s' ∧ NotForgotten a s e s') (start now limiter)
        events := by
  have hiff : ∀ (s : State Time) e s', step a s e = some s' → Inv a s →
      (Bounded s' ↔ (NotLocked a s e s' ∧ NotForgotten a s e s')) :=
    fun _ _ _ h hinv => step_iff h hinv
  have hkeep : ∀ (s : State Time) e s', step a s e = some s' → Inv a s →
      (NotLocked a s e s' ∧ NotForgotten a s e s') → Inv a s' :=
    fun _ _ _ h hinv hboth => step_inv h hinv hboth.1 hboth.2
  exact along_iff hiff hkeep (inv_start now hfresh)

end Steps

/-! ### Six requests at once -/

/-- A user exists, and every request tries another password than hers. -/
def guesses : Attack where
  accounts := ⟨fun username => if username = "admin" then some "h" else none, fun _ _ => false⟩
  requests := fun k => ⟨"", some "10.0.0.9", "admin", "guess" ++ toString k⟩
  key := "10.0.0.9|admin"
  wrong _ _ := rfl

/-- All requests pass the check before the first password is verified. -/
def allAtOnce (n : Nat) : List (Event ℚ) :=
  (List.range n).map .check ++ (List.range n).map .verify

def noFailures : Limiter ℚ := fun _ => none

theorem brute_force_bounded_five :
    Along (step guesses) (fun _ _ s' => Bounded s') (start 1 noFailures) (allAtOnce 5) ↔
      Along (step guesses) (fun s e s' => NotLocked guesses s e s' ∧ NotForgotten guesses s e s')
        (start 1 noFailures) (allAtOnce 5) :=
  brute_force_bounded_iff guesses 1 rfl (allAtOnce 5)

/-- The sixth password is verified under the lock the fifth has set. -/
theorem sixth_verified :
    ¬Along (step guesses) (fun _ _ s' => Bounded s') (start 1 noFailures) (allAtOnce 6) := by
  decide +kernel

end LanAgent.BruteForce
