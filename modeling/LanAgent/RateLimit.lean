import LanAgent.Models
import LanAgent.Python.IpAddress
import Mathlib.Algebra.Order.Floor.Ring
import Mathlib.Algebra.Order.Field.Basic

/-!
# Logins — `api/ratelimit.py` and `login` of `api/auth_routes.py`

The limiter counts the failures of each key, locks the key at the fifth and counts from the start
again; a key that has had no failure for a whole window starts anew.  `login` is two steps: up to
its query of the users, and from there to the end.  A moment is a number of seconds of any ordered
field.
-/

namespace LanAgent

open Python

/-! ## The limiter -/

def maxFailures : Nat := 5

def baseLockSeconds : Nat := 300

def maxLockSeconds : Nat := 3600

def failureWindowSeconds : Nat := 900

/-- An entry of `_state`.  Its count never stays at the threshold. -/
structure FailureState (Time : Type*) where
  count : Nat
  count_lt : count < maxFailures
  firstAt : Time
  lastAt : Time
  lockedUntil : Time
  lockLevel : Nat

/-- `_state`. -/
abbrev Limiter (Time : Type*) := String → Option (FailureState Time)

def limitKey (ip username : String) : String := ip ++ "|" ++ username

def lockSeconds (level : Nat) : Nat := min (baseLockSeconds * 2 ^ (level - 1)) maxLockSeconds

theorem lockSeconds_pos (level : Nat) : 0 < lockSeconds level := by
  have hbase : 0 < baseLockSeconds * 2 ^ (level - 1) := Nat.mul_pos (by decide) (by positivity)
  have hmax : 0 < maxLockSeconds := by decide
  unfold lockSeconds
  omega

/-- A lock is twice as long as the one before it, up to the longest. -/
theorem lockSeconds_succ (level : Nat) :
    lockSeconds (level + 2) = min (2 * lockSeconds (level + 1)) maxLockSeconds := by
  have hdouble : baseLockSeconds * 2 ^ (level + 1) = 2 * (baseLockSeconds * 2 ^ level) := by
    rw [pow_succ, ← Nat.mul_assoc, Nat.mul_comm]
  show min (baseLockSeconds * 2 ^ (level + 1)) _ = min (2 * min (baseLockSeconds * 2 ^ level) _) _
  omega

section Limiter

variable {Time : Type*}

def recordSuccess (state : Limiter Time) (ip username : String) : Limiter Time :=
  Function.update state (limitKey ip username) none

theorem recordSuccess_of_ne (state : Limiter Time) {ip username key : String}
    (h : key ≠ limitKey ip username) : recordSuccess state ip username key = state key :=
  Function.update_of_ne h _ _

theorem mem_of_mem_recordSuccess {state : Limiter Time} {ip username key : String}
    {st : FailureState Time} (h : st ∈ recordSuccess state ip username key) : st ∈ state key := by
  by_cases hkey : key = limitKey ip username
  · rw [hkey, recordSuccess, Function.update_self] at h
    cases h
  · rwa [recordSuccess_of_ne state hkey] at h

variable [Field Time]

def FailureState.fresh (now : Time) : FailureState Time where
  count := 0
  count_lt := by decide
  firstAt := now
  lastAt := now
  lockedUntil := 0
  lockLevel := 0

/-- The entry with one failure more, and the seconds it is locked for. -/
def FailureState.failed (st : FailureState Time) (now : Time) : FailureState Time × Nat :=
  if h : maxFailures ≤ st.count + 1 then
    let seconds := lockSeconds (st.lockLevel + 1)
    ({ st with
        count := 0
        count_lt := by decide
        lastAt := now
        lockedUntil := now + (seconds : Time)
        lockLevel := st.lockLevel + 1 }, seconds)
  else
    ({ st with count := st.count + 1, count_lt := Nat.lt_of_not_le h, lastAt := now }, 0)

/-- The fifth failure locks. -/
theorem failed_of_last {st : FailureState Time} (now : Time) (h : st.count + 1 = maxFailures) :
    (st.failed now).1.lockLevel = st.lockLevel + 1 ∧
      (st.failed now).1.lockedUntil = now + (lockSeconds (st.lockLevel + 1) : Time) := by
  rw [FailureState.failed, dif_pos h.ge]
  exact ⟨rfl, rfl⟩

theorem failed_of_lt {st : FailureState Time} (now : Time) (h : st.count + 1 < maxFailures) :
    (st.failed now).1.count = st.count + 1 ∧ (st.failed now).1.lockLevel = st.lockLevel := by
  rw [FailureState.failed, dif_neg (not_le.mpr h)]
  exact ⟨rfl, rfl⟩

theorem failed_lockedUntil_of_lt {st : FailureState Time} (now : Time)
    (h : st.count + 1 < maxFailures) : (st.failed now).1.lockedUntil = st.lockedUntil := by
  rw [FailureState.failed, dif_neg (not_le.mpr h)]

@[simp] theorem failed_lastAt (st : FailureState Time) (now : Time) :
    (st.failed now).1.lastAt = now := by
  unfold FailureState.failed
  split <;> rfl

/-- A failure returns the seconds of a lock when it is the fifth. -/
theorem failed_snd (st : FailureState Time) (now : Time) :
    (st.failed now).2 =
      if st.count + 1 = maxFailures then lockSeconds (st.lockLevel + 1) else 0 := by
  by_cases hlast : maxFailures ≤ st.count + 1
  · have heq : st.count + 1 = maxFailures := le_antisymm st.count_lt hlast
    rw [FailureState.failed, dif_pos hlast, if_pos heq]
  · rw [FailureState.failed, dif_neg hlast, if_neg fun heq => hlast heq.ge]

variable [LinearOrder Time]

/-- `int(x)`. -/
def truncate [FloorRing Time] (x : Time) : Int := if 0 ≤ x then ⌊x⌋ else ⌈x⌉

theorem truncate_pos_iff [FloorRing Time] [IsStrictOrderedRing Time] (x : Time) :
    0 < truncate x ↔ 1 ≤ x := by
  unfold truncate
  by_cases hx : 0 ≤ x
  · rw [if_pos hx]
    exact Int.floor_pos
  · rw [if_neg hx]
    have hceil : ⌈x⌉ ≤ 0 := Int.ceil_le.mpr (by simpa using (not_le.mp hx).le)
    exact iff_of_false (not_lt.mpr hceil) fun h => hx (zero_le_one.trans h)

def checkAllowed [FloorRing Time] (state : Limiter Time) (ip username : String) (now : Time) :
    Int :=
  match state (limitKey ip username) with
  | none => 0
  | some st =>
      -- the last second of a lock is truncated to 0 too
      if now < st.lockedUntil then truncate (st.lockedUntil - now) else 0

/-- The entry a failure is added to. -/
def failureState (state : Limiter Time) (key : String) (now : Time) : FailureState Time :=
  match state key with
  | none => .fresh now
  | some st => if (failureWindowSeconds : Time) < now - st.lastAt then .fresh now else st

def recordFailure (state : Limiter Time) (ip username : String) (now : Time) :
    Limiter Time × Nat :=
  let key := limitKey ip username
  let next := (failureState state key now).failed now
  (Function.update state key (some next.1), next.2)

theorem recordFailure_self (state : Limiter Time) (ip username : String) (now : Time) :
    (recordFailure state ip username now).1 (limitKey ip username) =
      some ((failureState state (limitKey ip username) now).failed now).1 :=
  Function.update_self _ _ _

/-- A failure of one key leaves the others alone. -/
theorem recordFailure_of_ne (state : Limiter Time) {ip username key : String} (now : Time)
    (h : key ≠ limitKey ip username) : (recordFailure state ip username now).1 key = state key :=
  Function.update_of_ne h _ _

/-- Within the window a failure is added to the entry there is. -/
theorem failureState_of_window {state : Limiter Time} {key : String} {now : Time}
    {st : FailureState Time} (hst : state key = some st)
    (hwindow : now - st.lastAt ≤ (failureWindowSeconds : Time)) :
    failureState state key now = st := by
  rw [failureState, hst]
  exact if_neg (not_lt.mpr hwindow)

theorem failureState_of_none {state : Limiter Time} {key : String} {now : Time}
    (hst : state key = none) : failureState state key now = .fresh now := by
  rw [failureState, hst]

end Limiter

/-! ## `login` -/

structure LoginRequest where
  /-- The `X-Forwarded-For` header, empty where there is none. -/
  forwarded : String
  /-- The peer of the connection. -/
  client : Option String
  username : String
  password : String

def clientIp (request : LoginRequest) : String :=
  if request.forwarded ≠ "" then strip (beforeFirst request.forwarded ',')
  else request.client.getD "unknown"

def LoginRequest.key (request : LoginRequest) : String :=
  limitKey (clientIp request) request.username

def lockedError (wait : Int) : HttpError := ⟨429, "登录失败次数过多，请 " ++ toString wait ++ " 秒后重试"⟩

/-- The stored hash of each user, and the comparison of a password with a hash. -/
structure Accounts where
  passwordHash : String → Option String
  verify : String → String → Bool

/-- `not user or not verify_password(payload.password, user.password_hash)`. -/
def Accounts.refuses (accounts : Accounts) (request : LoginRequest) : Bool :=
  match accounts.passwordHash request.username with
  | none => true
  | some hash => !accounts.verify request.password hash

section Login

variable {Time : Type*} [Field Time] [LinearOrder Time]

/-- `login` up to its query; `none` where it goes on. -/
def loginCheck [FloorRing Time] (state : Limiter Time) (request : LoginRequest) (now : Time) :
    Option HttpError :=
  let wait := checkAllowed state (clientIp request) request.username now
  if 0 < wait then some (lockedError wait) else none

/-- The check lets a request pass when its key is not locked, and in the last second of a lock. -/
theorem loginCheck_eq_none_iff [FloorRing Time] [IsStrictOrderedRing Time] {state : Limiter Time}
    {request : LoginRequest} {now : Time} :
    loginCheck state request now = none ↔
      ∀ st ∈ state request.key, now < st.lockedUntil → st.lockedUntil - 1 < now := by
  have hwait : loginCheck state request now = none ↔
      ¬0 < checkAllowed state (clientIp request) request.username now := by
    unfold loginCheck
    dsimp only
    split <;> simp_all
  rw [hwait, checkAllowed, ← LoginRequest.key]
  cases hst : state request.key with
  | none => simp
  | some st =>
      simp only [Option.mem_some_iff, forall_eq']
      by_cases hlocked : now < st.lockedUntil
      · rw [if_pos hlocked, truncate_pos_iff, imp_iff_right hlocked, not_le, sub_lt_comm]
      · rw [if_neg hlocked]
        exact iff_of_true (lt_irrefl 0) fun h => absurd h hlocked

/-- `login` from the answer of its query on; it returns the user the token is made for. -/
def loginVerify (accounts : Accounts) (state : Limiter Time) (request : LoginRequest) (now : Time) :
    Limiter Time × Except HttpError String :=
  let ip := clientIp request
  if accounts.refuses request then
    let (state, lockedSeconds) := recordFailure state ip request.username now
    (state, .error (if lockedSeconds ≠ 0 then lockedError lockedSeconds
      else ⟨401, "用户名或密码错误"⟩))
  else (recordSuccess state ip request.username, .ok request.username)

theorem loginVerify_of_refuses {accounts : Accounts} {state : Limiter Time}
    {request : LoginRequest} {now : Time} (h : accounts.refuses request = true) :
    (loginVerify accounts state request now).1 =
      (recordFailure state (clientIp request) request.username now).1 := by
  rw [loginVerify, if_pos h]

/-- A login of one key leaves the others alone. -/
theorem loginVerify_of_ne {accounts : Accounts} {state : Limiter Time} {request : LoginRequest}
    {now : Time} {key : String} (h : key ≠ request.key) :
    (loginVerify accounts state request now).1 key = state key := by
  unfold loginVerify
  dsimp only
  split
  · exact recordFailure_of_ne state now h
  · exact recordSuccess_of_ne state h

end Login

end LanAgent
