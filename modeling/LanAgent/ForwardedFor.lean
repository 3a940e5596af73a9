import LanAgent.RateLimit
import Mathlib.Data.List.Chain
import Mathlib.Data.List.Nodup
import Mathlib.Data.Rat.Floor

/-!
# Chosen headers — `_client_ip` and the limiter

The same logins, with the same peers, users, passwords and moments, under the `X-Forwarded-For`
headers the clients choose.  `unsteerable_iff` says for which logins no choice of headers makes a
difference to who is refused.
-/

namespace LanAgent.ForwardedFor

/-! ## The system -/

/-- What a header can hold; the server has removed the blanks around it. -/
def IsFieldValue (s : String) : Prop :=
  (∀ c ∈ s.toList, c = '\t' ∨ (0x20 ≤ c.toNat ∧ c.toNat < 0x100 ∧ c.toNat ≠ 0x7f)) ∧
    (∀ c ∈ s.toList.head?, c ≠ ' ' ∧ c ≠ '\t') ∧ ∀ c ∈ s.toList.getLast?, c ≠ ' ' ∧ c ≠ '\t'

abbrev FieldValue := { s : String // IsFieldValue s }

/-- The logins of a run but for their headers. -/
structure Logins where
  accounts : Accounts
  client : Nat → Option String
  username : Nat → String
  password : Nat → String

def Logins.request (logins : Logins) (headers : Nat → FieldValue) (k : Nat) : LoginRequest where
  forwarded := (headers k).val
  client := logins.client k
  username := logins.username k
  password := logins.password k

/-- Headers have no part in the verification of a password. -/
theorem Logins.refuses_request (logins : Logins) (headers headers' : Nat → FieldValue) (k : Nat) :
    logins.accounts.refuses (logins.request headers k) =
      logins.accounts.refuses (logins.request headers' k) := rfl

inductive Stage where
  | arrived
  /-- The limiter has let the request pass, and its query is not answered yet. -/
  | checked
  | finished (answer : Except HttpError String)

def Stage.ofCheck : Option HttpError → Stage
  | some e => .finished (.error e)
  | none => .checked

def Stage.refused : Stage → Bool
  | .finished (.error e) => e.statusCode = 429
  | _ => false

/-- The two halves of `login`, each at the moment its clock is read. -/
inductive Event (Time : Type*) [Zero Time] [LE Time] where
  | check (k : Nat) (now : { t : Time // 0 ≤ t })
  | verify (k : Nat) (now : { t : Time // 0 ≤ t })

structure State (Time : Type*) where
  limiter : Limiter Time
  stages : Nat → Stage

def start (Time : Type*) : State Time where
  limiter := fun _ => none
  stages := fun _ => .arrived

section Schedule

variable {Time : Type*} [Zero Time] [LE Time]

def Event.request : Event Time → Nat
  | .check k _ => k
  | .verify k _ => k

/-- A request is checked once, and verified at most once after that. -/
def Follows (before : List (Event Time)) : Event Time → Prop
  | .check k _ => ∀ e ∈ before, e.request ≠ k
  | .verify k _ => (∃ now, .check k now ∈ before) ∧ ∀ now, .verify k now ∉ before

structure Schedule (Time : Type*) [Zero Time] [LE Time] where
  events : List (Event Time)
  follows : ∀ before e, before ++ [e] <+: events → Follows before e

/-- A request and the moment it is verified. -/
abbrev Verification (Time : Type*) [Zero Time] [LE Time] := Nat × { t : Time // 0 ≤ t }

def verifications (events : List (Event Time)) : List (Verification Time) :=
  events.filterMap fun
    | .check _ _ => none
    | .verify k now => some (k, now)

variable {schedule : Schedule Time}

/-- **Induction** over what has happened so far. -/
theorem Schedule.induct {P : List (Event Time) → Prop} (hnil : P [])
    (hsnoc : ∀ before e, before ++ [e] <+: schedule.events → P before → P (before ++ [e])) :
    P schedule.events := by
  have hpre : ∀ before, before <+: schedule.events → P before := by
    intro before
    induction before using List.reverseRecOn with
    | nil => exact fun _ => hnil
    | append_singleton before e ih =>
        intro h
        exact hsnoc before e h (ih ((List.prefix_append before [e]).trans h))
  exact hpre _ List.prefix_rfl

@[simp] theorem verifications_check (before : List (Event Time)) (k : Nat)
    (now : { t : Time // 0 ≤ t }) :
    verifications (before ++ [.check k now]) = verifications before := by
  simp [verifications]

@[simp] theorem verifications_verify (before : List (Event Time)) (k : Nat)
    (now : { t : Time // 0 ≤ t }) :
    verifications (before ++ [.verify k now]) = verifications before ++ [(k, now)] := by
  simp [verifications]

theorem mem_verifications {events : List (Event Time)} {k : Nat} {now : { t : Time // 0 ≤ t }} :
    (k, now) ∈ verifications events ↔ .verify k now ∈ events := by
  unfold verifications
  rw [List.mem_filterMap]
  apply Iff.intro
  · rintro ⟨e, he, hsome⟩
    cases e with
    | check k now => cases hsome
    | verify k now =>
        cases hsome
        exact he
  · exact fun h => ⟨_, h, rfl⟩

theorem verifications_mono {before events : List (Event Time)} (h : before <+: events) :
    (verifications before).Sublist (verifications events) := h.sublist.filterMap _

/-- Each request is verified once. -/
theorem Schedule.nodup (schedule : Schedule Time) :
    ((verifications schedule.events).map Prod.fst).Nodup := by
  refine Schedule.induct (P := fun events => ((verifications events).map Prod.fst).Nodup)
    List.nodup_nil ?_
  intro before e hpre ih
  cases e with
  | check k now => rwa [verifications_check]
  | verify k now =>
      rw [verifications_verify, List.map_append, List.nodup_append]
      refine ⟨ih, List.nodup_singleton k, ?_⟩
      intro i hi j hj
      obtain rfl : j = k := List.mem_singleton.mp hj
      obtain ⟨f, hf, rfl⟩ := List.mem_map.mp hi
      rintro rfl
      exact (schedule.follows before _ hpre).2 f.2 (mem_verifications.mp hf)

end Schedule

/-! ## Failures under one key -/

section Failures

variable {Time : Type*} [Field Time] [LinearOrder Time]

/-- Wrong passwords of one key, each recorded within the window after the one before it. -/
structure Streak (logins : Logins) (headers : Nat → FieldValue) (key : String)
    (events : List (Event Time)) (failures : List (Verification Time)) : Prop where
  verified : failures.Sublist (verifications events)
  keys : ∀ f ∈ failures, (logins.request headers f.1).key = key
  wrong : ∀ f ∈ failures, logins.accounts.refuses (logins.request headers f.1) = true
  window : failures.IsChain fun f g => g.2.val - f.2.val ≤ (failureWindowSeconds : Time)

/-- Headers can bring enough failures for a lock under one key. -/
def Poolable (logins : Logins) (events : List (Event Time)) : Prop :=
  ∃ headers key failures, Streak logins headers key events failures ∧
    failures.length = maxFailures

variable {logins : Logins} {headers : Nat → FieldValue} {key : String}
  {before events : List (Event Time)} {failures : List (Verification Time)}

theorem streak_nil : Streak logins headers key events [] where
  verified := List.nil_sublist _
  keys _ hf := nomatch hf
  wrong _ hf := nomatch hf
  window := .nil

theorem Streak.mono (h : Streak logins headers key before failures) (hpre : before <+: events) :
    Streak logins headers key events failures where
  verified := h.verified.trans (verifications_mono hpre)
  keys := h.keys
  wrong := h.wrong
  window := h.window

/-- One more failure. -/
theorem Streak.snoc (h : Streak logins headers key before failures) {k : Nat}
    {now : { t : Time // 0 ≤ t }} (hkey : (logins.request headers k).key = key)
    (hwrong : logins.accounts.refuses (logins.request headers k) = true)
    (hwindow : ∀ f ∈ failures.getLast?, now.val - f.2.val ≤ (failureWindowSeconds : Time)) :
    Streak logins headers key (before ++ [.verify k now]) (failures ++ [(k, now)]) where
  verified := by
    rw [verifications_verify]
    exact h.verified.append_right _
  keys f hf := by
    rcases List.mem_append.mp hf with hf | hf
    · exact h.keys f hf
    · rwa [List.mem_singleton.mp hf]
  wrong f hf := by
    rcases List.mem_append.mp hf with hf | hf
    · exact h.wrong f hf
    · rwa [List.mem_singleton.mp hf]
  window := by
    refine List.isChain_append.mpr ⟨h.window, .singleton _, fun f hf g hg => ?_⟩
    cases hg
    exact hwindow f hf

/-- A wrong password is refused with 429 when it is the fifth. -/
theorem refused_of_refuses {limiter : Limiter Time} {request : LoginRequest} (now : Time)
    (h : logins.accounts.refuses request = true) :
    (Stage.finished (loginVerify logins.accounts limiter request now).2).refused = true ↔
      (failureState limiter request.key now).count + 1 = maxFailures := by
  have hseconds : (recordFailure limiter (clientIp request) request.username now).2 =
      if (failureState limiter request.key now).count + 1 = maxFailures then
        lockSeconds ((failureState limiter request.key now).lockLevel + 1) else 0 :=
    failed_snd _ _
  rw [loginVerify, if_pos h]
  dsimp only
  rw [hseconds]
  by_cases hlast : (failureState limiter request.key now).count + 1 = maxFailures
  · rw [if_pos hlast, if_pos (lockSeconds_pos _).ne']
    exact iff_of_true rfl hlast
  · rw [if_neg hlast, if_neg (not_not.mpr rfl)]
    exact iff_of_false (by decide) hlast

theorem refused_of_accepts {limiter : Limiter Time} {request : LoginRequest} (now : Time)
    (h : logins.accounts.refuses request = false) :
    (Stage.finished (loginVerify logins.accounts limiter request now).2).refused = false := by
  rw [loginVerify, if_neg (Bool.not_eq_true _ ▸ h)]
  rfl

/-! ## Runs without a refusal -/

/-- An entry counts a streak of failures, the last of which it remembers. -/
structure Counted (logins : Logins) (headers : Nat → FieldValue) (key : String)
    (before : List (Event Time)) (st : FailureState Time) : Prop where
  unlocked : st.lockedUntil = 0
  streak : ∃ failures, Streak logins headers key before failures ∧ failures.length = st.count ∧
    ∀ f ∈ failures.getLast?, f.2.val = st.lastAt

/-- What holds as long as nobody is refused. -/
structure Quiet (logins : Logins) (headers : Nat → FieldValue) (before : List (Event Time))
    (s : State Time) : Prop where
  refused : ∀ k, (s.stages k).refused = false
  counted : ∀ key, ∀ st ∈ s.limiter key, Counted logins headers key before st

theorem quiet_start : Quiet logins headers [] (start Time) where
  refused _ := rfl
  counted _ _ hst := nomatch hst

theorem refused_update {stages : Nat → Stage} (h : ∀ k, (stages k).refused = false) {stage : Stage}
    (hstage : stage.refused = false) (k i : Nat) :
    (Function.update stages k stage i).refused = false := by
  by_cases hi : i = k
  · rw [hi, Function.update_self]
    exact hstage
  · rw [Function.update_of_ne hi]
    exact h i

variable {s : State Time}

theorem Counted.mono {st : FailureState Time} (h : Counted logins headers key before st)
    (e : Event Time) : Counted logins headers key (before ++ [e]) st where
  unlocked := h.unlocked
  streak := by
    obtain ⟨failures, hstreak, hlast⟩ := h.streak
    exact ⟨failures, hstreak.mono (List.prefix_append before [e]), hlast⟩

theorem Quiet.mono (h : Quiet logins headers before s) (e : Event Time) :
    Quiet logins headers (before ++ [e]) s where
  refused := h.refused
  counted key st hst := (h.counted key st hst).mono e

/-- The entry a failure is added to counts a streak that the failure goes on with. -/
theorem Quiet.failureState (h : Quiet logins headers before s) (key : String) (now : Time) :
    (failureState s.limiter key now).lockedUntil = 0 ∧
      ∃ failures, Streak logins headers key before failures ∧
        failures.length = (LanAgent.failureState s.limiter key now).count ∧
        ∀ f ∈ failures.getLast?, now - f.2.val ≤ (failureWindowSeconds : Time) := by
  have hfresh : (FailureState.fresh now).lockedUntil = 0 ∧
      ∃ failures, Streak logins headers key before failures ∧
        failures.length = (FailureState.fresh now).count ∧
        ∀ f ∈ failures.getLast?, now - f.2.val ≤ (failureWindowSeconds : Time) :=
    ⟨rfl, [], streak_nil, rfl, fun _ hf => nomatch hf⟩
  cases hst : s.limiter key with
  | none =>
      rw [failureState_of_none hst]
      exact hfresh
  | some st =>
      by_cases hwindow : now - st.lastAt ≤ (failureWindowSeconds : Time)
      · rw [failureState_of_window hst hwindow]
        obtain ⟨hunlocked, failures, hstreak, hlength, hlast⟩ := h.counted key st hst
        refine ⟨hunlocked, failures, hstreak, hlength, fun f hf => ?_⟩
        rw [hlast f hf]
        exact hwindow
      · have hexpired : LanAgent.failureState s.limiter key now = .fresh now := by
          rw [LanAgent.failureState, hst]
          exact if_pos (not_le.mp hwindow)
        rw [hexpired]
        exact hfresh

/-- A failure that is not the fifth. -/
theorem Quiet.failed (h : Quiet logins headers before s) {k : Nat} {now : { t : Time // 0 ≤ t }}
    (hwrong : logins.accounts.refuses (logins.request headers k) = true)
    (hno : ∀ failures, Streak logins headers (logins.request headers k).key
      (before ++ [.verify k now]) failures → failures.length ≠ maxFailures) :
    (LanAgent.failureState s.limiter (logins.request headers k).key now.val).count + 1 ≠
        maxFailures ∧
      Counted logins headers (logins.request headers k).key (before ++ [.verify k now])
        ((LanAgent.failureState s.limiter (logins.request headers k).key now.val).failed
          now.val).1 := by
  obtain ⟨hunlocked, failures, hstreak, hlength, hwindow⟩ :=
    h.failureState (logins.request headers k).key now.val
  have hsnoc := hstreak.snoc rfl hwrong hwindow
  have hcount := hno _ hsnoc
  rw [List.length_append, List.length_singleton, hlength] at hcount
  have hlt := lt_of_le_of_ne (LanAgent.failureState s.limiter _ now.val).count_lt hcount
  refine ⟨hcount, ?_, _, hsnoc, ?_, ?_⟩
  · rw [failed_lockedUntil_of_lt _ hlt]
    exact hunlocked
  · rw [(failed_of_lt _ hlt).1, List.length_append, List.length_singleton, hlength]
  · intro f hf
    rw [List.getLast?_append_cons, List.getLast?_singleton] at hf
    cases hf
    exact (failed_lastAt _ _).symm

end Failures

/-! ## A run -/

section Step

variable {Time : Type*} [Field Time] [LinearOrder Time] [FloorRing Time]

def step (logins : Logins) (headers : Nat → FieldValue) (s : State Time) :
    Event Time → State Time
  | .check k now =>
      match s.stages k with
      | .arrived =>
          let answer := loginCheck s.limiter (logins.request headers k) now.val
          { s with stages := Function.update s.stages k (.ofCheck answer) }
      | _ => s
  | .verify k now =>
      match s.stages k with
      | .checked =>
          let (limiter, answer) :=
            loginVerify logins.accounts s.limiter (logins.request headers k) now.val
          { limiter := limiter, stages := Function.update s.stages k (.finished answer) }
      | _ => s

def run (logins : Logins) (headers : Nat → FieldValue) (events : List (Event Time)) : State Time :=
  events.foldl (step logins headers) (start Time)

theorem statusCode_of_check {limiter : Limiter Time} {request : LoginRequest} {now : Time}
    {e : HttpError} (h : loginCheck limiter request now = some e) : e.statusCode = 429 := by
  unfold loginCheck at h
  dsimp only at h
  split at h
  · cases h
    rfl
  · cases h

variable {logins : Logins} {headers : Nat → FieldValue}

theorem run_append (before : List (Event Time)) (e : Event Time) :
    run logins headers (before ++ [e]) = step logins headers (run logins headers before) e := by
  rw [run, List.foldl_append]
  rfl

variable {s : State Time} {k : Nat} {now : { t : Time // 0 ≤ t }}

theorem step_check (h : s.stages k = .arrived) : step logins headers s (.check k now) =
    { s with
      stages := Function.update s.stages k
        (.ofCheck (loginCheck s.limiter (logins.request headers k) now.val)) } := by
  rw [step, h]

theorem step_check_of_ne (h : s.stages k ≠ .arrived) :
    step logins headers s (.check k now) = s := by
  rw [step]
  split
  · rename_i hstage
    exact absurd hstage h
  · rfl

theorem step_verify (h : s.stages k = .checked) : step logins headers s (.verify k now) =
    { limiter := (loginVerify logins.accounts s.limiter (logins.request headers k) now.val).1
      stages := Function.update s.stages k (.finished
        (loginVerify logins.accounts s.limiter (logins.request headers k) now.val).2) } := by
  rw [step, h]

theorem step_verify_of_ne (h : s.stages k ≠ .checked) :
    step logins headers s (.verify k now) = s := by
  rw [step]
  split
  · rename_i hstage
    exact absurd hstage h
  · rfl

variable {before : List (Event Time)} [IsStrictOrderedRing Time]

theorem Quiet.check (h : Quiet logins headers before s) (k : Nat) (now : { t : Time // 0 ≤ t }) :
    Quiet logins headers (before ++ [.check k now]) (step logins headers s (.check k now)) := by
  by_cases harrived : s.stages k = .arrived
  · have hpasses : loginCheck s.limiter (logins.request headers k) now.val = none := by
      rw [loginCheck_eq_none_iff]
      intro st hst hlocked
      rw [(h.counted _ st hst).unlocked] at hlocked
      exact absurd now.property (not_le.mpr hlocked)
    rw [step_check harrived, hpasses]
    exact { h.mono _ with refused := refused_update h.refused rfl k }
  · rw [step_check_of_ne harrived]
    exact h.mono _

omit [IsStrictOrderedRing Time] in
theorem Quiet.verify (h : Quiet logins headers before s) (k : Nat) (now : { t : Time // 0 ≤ t })
    (hno : ∀ key failures, Streak logins headers key (before ++ [.verify k now]) failures →
      failures.length ≠ maxFailures) :
    Quiet logins headers (before ++ [.verify k now]) (step logins headers s (.verify k now)) := by
  have hmono := h.mono (.verify k now)
  by_cases hchecked : s.stages k = .checked
  · rw [step_verify hchecked]
    cases hrefuses : logins.accounts.refuses (logins.request headers k) with
    | false =>
        refine ⟨refused_update h.refused (refused_of_accepts _ hrefuses) k, fun key st hst => ?_⟩
        rw [loginVerify, if_neg (Bool.not_eq_true _ ▸ hrefuses)] at hst
        exact hmono.counted key st (mem_of_mem_recordSuccess hst)
    | true =>
        obtain ⟨hcount, hcounted⟩ := h.failed hrefuses (hno _)
        have hanswer := mt (refused_of_refuses now.val hrefuses).mp hcount
        rw [Bool.not_eq_true] at hanswer
        refine ⟨refused_update h.refused hanswer k, fun key st hst => ?_⟩
        dsimp only at hst
        rw [loginVerify_of_refuses hrefuses] at hst
        by_cases hkey : key = (logins.request headers k).key
        · rw [hkey, LoginRequest.key, recordFailure_self] at hst
          cases hst
          rw [hkey]
          exact hcounted
        · rw [recordFailure_of_ne _ _ hkey] at hst
          exact hmono.counted key st hst
  · rw [step_verify_of_ne hchecked]
    exact hmono

/-- **Without enough failures under one key** nobody is refused. -/
theorem quiet_run {schedule : Schedule Time}
    (hno : ∀ key failures, Streak logins headers key schedule.events failures →
      failures.length ≠ maxFailures) :
    Quiet logins headers schedule.events (run logins headers schedule.events) := by
  refine Schedule.induct
    (P := fun before => Quiet logins headers before (run logins headers before)) quiet_start ?_
  intro before e hpre ih
  rw [run_append]
  cases e with
  | check k now => exact ih.check k now
  | verify k now => exact ih.verify k now fun key failures h => hno key failures (h.mono hpre)

end Step

/-! ## Failures that are brought together -/

section Pooled

variable {Time : Type*} [Field Time] [LinearOrder Time]

/-- The verifications of the requests under the key. -/
def pooled (logins : Logins) (headers : Nat → FieldValue) (key : String)
    (events : List (Event Time)) : List (Verification Time) :=
  (verifications events).filter fun f => (logins.request headers f.1).key = key

/-- What holds, until somebody is refused, when all passwords under the key are wrong. -/
structure Counting (logins : Logins) (headers : Nat → FieldValue) (key : String)
    (before : List (Event Time)) (s : State Time) : Prop where
  arrived : ∀ k, (∀ e ∈ before, e.request ≠ k) → s.stages k = .arrived
  checked : ∀ k now, .check k now ∈ before → (∀ now', .verify k now' ∉ before) →
    s.stages k = .checked
  fresh : pooled logins headers key before = [] → s.limiter key = none
  counts : ∀ f ∈ (pooled logins headers key before).getLast?, ∃ st ∈ s.limiter key,
    st.count = (pooled logins headers key before).length ∧ st.lastAt = f.2.val

variable {logins : Logins} {headers : Nat → FieldValue} {key : String}
  {before : List (Event Time)} {s : State Time} {k : Nat} {now : { t : Time // 0 ≤ t }}

theorem counting_start : Counting logins headers key [] (start Time) where
  arrived _ _ := rfl
  checked _ _ h := nomatch h
  fresh _ := rfl
  counts _ hf := nomatch hf

@[simp] theorem pooled_check : pooled logins headers key (before ++ [.check k now]) =
    pooled logins headers key before := by
  rw [pooled, verifications_check, pooled]

theorem pooled_verify_of_ne (h : (logins.request headers k).key ≠ key) :
    pooled logins headers key (before ++ [.verify k now]) = pooled logins headers key before := by
  simp [pooled, h]

theorem pooled_verify (h : (logins.request headers k).key = key) :
    pooled logins headers key (before ++ [.verify k now]) =
      pooled logins headers key before ++ [(k, now)] := by
  simp [pooled, h]

/-- The entry the next failure is added to. -/
theorem Counting.count (h : Counting logins headers key before s) (now : Time)
    (hwindow : ∀ f ∈ (pooled logins headers key before).getLast?,
      now - f.2.val ≤ (failureWindowSeconds : Time)) :
    (failureState s.limiter key now).count = (pooled logins headers key before).length := by
  cases hlast : (pooled logins headers key before).getLast? with
  | none =>
      have hnil := List.getLast?_eq_none_iff.mp hlast
      rw [failureState_of_none (h.fresh hnil), hnil]
      rfl
  | some f =>
      obtain ⟨st, hst, hcount, hlastAt⟩ := h.counts f hlast
      rw [failureState_of_window hst (hlastAt ▸ hwindow f hlast), hcount]

/-- An event about one request leaves the stages of the others. -/
theorem Counting.arrived_update (h : Counting logins headers key before s) (e : Event Time)
    (stage : Stage) (i : Nat) (hi : ∀ e' ∈ before ++ [e], e'.request ≠ i) :
    Function.update s.stages e.request stage i = .arrived := by
  have hne : i ≠ e.request := (hi e (List.mem_append_right before List.mem_cons_self)).symm
  rw [Function.update_of_ne hne]
  exact h.arrived i fun e' he => hi e' (List.mem_append_left _ he)

theorem Counting.checked_update (h : Counting logins headers key before s) (e : Event Time)
    (stage : Stage) {i : Nat} (hne : i ≠ e.request) (hi : .check i now ∈ before ++ [e])
    (hverify : ∀ now', .verify i now' ∉ before ++ [e]) :
    Function.update s.stages e.request stage i = .checked := by
  rw [Function.update_of_ne hne]
  refine h.checked i now ?_ fun now' hmem => hverify now' (List.mem_append_left _ hmem)
  rcases List.mem_append.mp hi with hi | hi
  · exact hi
  · exact absurd (congrArg Event.request (List.mem_singleton.mp hi)) hne

variable [FloorRing Time]

/-- An answer is final. -/
theorem refused_step {i : Nat} (h : (s.stages i).refused = true) (e : Event Time) :
    ((step logins headers s e).stages i).refused = true := by
  have hupdate : ∀ {k : Nat} {stage stage' : Stage}, s.stages k = stage → stage.refused = false →
      (Function.update s.stages k stage' i).refused = true := by
    intro k stage stage' hk hstage
    have hi : i ≠ k := by
      rintro rfl
      rw [hk, hstage] at h
      cases h
    rwa [Function.update_of_ne hi]
  cases e with
  | check k now =>
      by_cases harrived : s.stages k = .arrived
      · rw [step_check harrived]
        exact hupdate harrived rfl
      · rwa [step_check_of_ne harrived]
  | verify k now =>
      by_cases hchecked : s.stages k = .checked
      · rw [step_verify hchecked]
        exact hupdate hchecked rfl
      · rwa [step_verify_of_ne hchecked]

theorem Counting.check (h : Counting logins headers key before s)
    (hfollows : Follows before (.check k now)) :
    (∃ i, ((step logins headers s (.check k now)).stages i).refused = true) ∨
      Counting logins headers key (before ++ [.check k now])
        (step logins headers s (.check k now)) := by
  rw [step_check (h.arrived k hfollows)]
  cases hcheck : loginCheck s.limiter (logins.request headers k) now.val with
  | some e =>
      refine .inl ⟨k, ?_⟩
      dsimp only
      rw [Function.update_self]
      exact decide_eq_true (statusCode_of_check hcheck)
  | none =>
      refine .inr ⟨h.arrived_update (.check k now) _, fun i now' hi hverify => ?_,
        fun hnil => ?_, ?_⟩
      · dsimp only
        by_cases hne : i = k
        · rw [hne, Function.update_self]
          rfl
        · exact h.checked_update (.check k now) _ hne hi hverify
      · rw [pooled_check] at hnil
        exact h.fresh hnil
      · rw [pooled_check]
        exact h.counts

theorem Counting.verify (h : Counting logins headers key before s)
    (hfollows : Follows before (.verify k now))
    (hwrong : (logins.request headers k).key = key →
      logins.accounts.refuses (logins.request headers k) = true)
    (hwindow : (logins.request headers k).key = key →
      ∀ f ∈ (pooled logins headers key before).getLast?,
        now.val - f.2.val ≤ (failureWindowSeconds : Time)) :
    (∃ i, ((step logins headers s (.verify k now)).stages i).refused = true) ∨
      Counting logins headers key (before ++ [.verify k now])
        (step logins headers s (.verify k now)) := by
  obtain ⟨⟨checkedAt, hcheck⟩, hnotVerified⟩ := hfollows
  rw [step_verify (h.checked k checkedAt hcheck hnotVerified)]
  have hchecked : ∀ stage i now', .check i now' ∈ before ++ [.verify k now] →
      (∀ now'', .verify i now'' ∉ before ++ [.verify k now]) →
      Function.update s.stages k stage i = .checked := by
    intro stage i now' hi hverify
    have hne : i ≠ k := by
      rintro rfl
      exact hverify now (List.mem_append_right before List.mem_cons_self)
    exact h.checked_update (.verify k now) stage hne hi hverify
  by_cases hkey : (logins.request headers k).key = key
  · have hcount := h.count now.val (hwindow hkey)
    by_cases hlast : (failureState s.limiter key now.val).count + 1 = maxFailures
    · refine .inl ⟨k, ?_⟩
      dsimp only
      rw [Function.update_self, refused_of_refuses now.val (hwrong hkey), hkey]
      exact hlast
    · have hlt := lt_of_le_of_ne (failureState s.limiter key now.val).count_lt hlast
      have hentry : (loginVerify logins.accounts s.limiter (logins.request headers k) now.val).1 key
          = some ((failureState s.limiter key now.val).failed now.val).1 := by
        rw [loginVerify_of_refuses (hwrong hkey), ← hkey]
        exact recordFailure_self _ _ _ _
      refine .inr ⟨h.arrived_update (.verify k now) _, hchecked _, fun hnil => ?_, fun f hf => ?_⟩
      · rw [pooled_verify hkey] at hnil
        exact absurd hnil (List.append_ne_nil_of_right_ne_nil _ (List.cons_ne_nil _ _))
      · rw [pooled_verify hkey, List.getLast?_append_cons, List.getLast?_singleton] at hf
        cases hf
        refine ⟨_, hentry, ?_, failed_lastAt _ _⟩
        rw [(failed_of_lt _ hlt).1, hcount, pooled_verify hkey, List.length_append,
          List.length_singleton]
  · have hentry : (loginVerify logins.accounts s.limiter (logins.request headers k) now.val).1 key
        = s.limiter key := loginVerify_of_ne (Ne.symm hkey)
    refine .inr ⟨h.arrived_update (.verify k now) _, hchecked _, fun hnil => ?_, fun f hf => ?_⟩
    · rw [pooled_verify_of_ne hkey] at hnil
      exact hentry.trans (h.fresh hnil)
    · rw [pooled_verify_of_ne hkey] at hf ⊢
      obtain ⟨st, hst, hcounts⟩ := h.counts f hf
      exact ⟨st, hentry.trans hst, hcounts⟩

/-- **With a lock's worth of failures under the key**, somebody is refused. -/
theorem refused_of_pooled {schedule : Schedule Time}
    (hstreak : Streak logins headers key schedule.events
      (pooled logins headers key schedule.events))
    (hlength : (pooled logins headers key schedule.events).length = maxFailures) :
    ∃ k, ((run logins headers schedule.events).stages k).refused = true := by
  have hpre : ∀ {before : List (Event Time)}, before <+: schedule.events →
      pooled logins headers key before <+: pooled logins headers key schedule.events :=
    fun h => (h.filterMap _).filter _
  have hrun : (∃ k, ((run logins headers schedule.events).stages k).refused = true) ∨
      Counting logins headers key schedule.events (run logins headers schedule.events) := by
    refine Schedule.induct
      (P := fun before => (∃ k, ((run logins headers before).stages k).refused = true) ∨
        Counting logins headers key before (run logins headers before))
      (.inr counting_start) ?_
    rintro before e hbefore (⟨k, hrefused⟩ | ih)
    · rw [run_append]
      exact .inl ⟨k, refused_step hrefused e⟩
    · rw [run_append]
      have hfollows := schedule.follows before e hbefore
      cases e with
      | check k now => exact ih.check hfollows
      | verify k now =>
          -- the new failure is one of the streak, behind those that were before it
          have hnew : (logins.request headers k).key = key →
              pooled logins headers key before ++ [(k, now)] <+:
                pooled logins headers key schedule.events := by
            intro hkey
            rw [← pooled_verify hkey]
            exact hpre hbefore
          refine ih.verify hfollows (fun hkey => ?_) fun hkey f hf => ?_
          · refine hstreak.wrong (k, now) ((hnew hkey).mem ?_)
            exact List.mem_append_right _ List.mem_cons_self
          · have hchain := hstreak.window.prefix (hnew hkey)
            exact (List.isChain_append.mp hchain).2.2 f hf _ rfl
  rcases hrun with hrefused | hcounting
  · exact hrefused
  · cases hlast : (pooled logins headers key schedule.events).getLast? with
    | none =>
        rw [List.getLast?_eq_none_iff.mp hlast] at hlength
        cases hlength
    | some f =>
        obtain ⟨st, _, hcount, _⟩ := hcounting.counts f hlast
        exact absurd (hcount.trans hlength) st.count_lt.ne

end Pooled

/-! ## Choosing headers -/

/-- A header that no other request has. -/
def ownHeader (n : Nat) : FieldValue :=
  ⟨String.ofList (List.replicate n 'x'), by
    have hx : ∀ c ∈ List.replicate n 'x', c = 'x' := fun c hc => List.eq_of_mem_replicate hc
    rw [IsFieldValue, String.toList_ofList]
    refine ⟨fun c hc => ?_, fun c hc => ?_, fun c hc => ?_⟩
    · rw [hx c hc]
      decide
    · rw [hx c (List.mem_of_mem_head? hc)]
      decide
    · rw [hx c (List.mem_of_mem_getLast? hc)]
      decide⟩

theorem toList_ownKey (request : LoginRequest) (n : Nat)
    (h : request.forwarded = (ownHeader (n + 1)).val) :
    request.key.toList = List.replicate (n + 1) 'x' ++ '|' :: request.username.toList := by
  have hx : ∀ c ∈ List.replicate (n + 1) 'x', c = 'x' := fun c hc => List.eq_of_mem_replicate hc
  have hne : request.forwarded ≠ "" := by
    rw [h]
    intro heq
    have hlist := congrArg String.toList heq
    rw [ownHeader, String.toList_ofList] at hlist
    cases hlist
  have hfirst : Python.beforeFirst request.forwarded ',' = request.forwarded := by
    apply Python.beforeFirst_of_not_mem
    rw [h, ownHeader, String.toList_ofList]
    exact fun hmem => absurd (hx _ hmem) (by decide)
  have hstrip : Python.strip request.forwarded = request.forwarded := by
    have hspace : Python.isWhitespace 'x' = false := by decide
    have hdrop : ∀ m, (List.replicate m 'x').dropWhile Python.isWhitespace =
        List.replicate m 'x' := by
      intro m
      rw [List.dropWhile_replicate, hspace]
      rfl
    rw [Python.strip, h, ownHeader, String.toList_ofList, hdrop, List.reverse_replicate, hdrop,
      List.reverse_replicate]
  rw [LoginRequest.key, limitKey, clientIp, if_pos hne, hfirst, hstrip, h, ownHeader,
    String.toList_append, String.toList_append, String.toList_ofList]
  simp

theorem ownKey_injective {request request' : LoginRequest} {n n' : Nat}
    (h : request.forwarded = (ownHeader (n + 1)).val)
    (h' : request'.forwarded = (ownHeader (n' + 1)).val) (hkey : request.key = request'.key) :
    n = n' := by
  have hbar : ∀ (m : Nat) (rest : List Char),
      ((List.replicate m 'x' ++ '|' :: rest).takeWhile (fun c => c ≠ '|')).length = m := by
    intro m rest
    rw [List.takeWhile_append_of_pos (by simp)]
    simp
  have hlength := congrArg
    (fun key : String => (key.toList.takeWhile (fun c => c ≠ '|')).length) hkey
  rw [toList_ownKey request n h, toList_ownKey request' n' h', hbar, hbar] at hlength
  exact Nat.succ.inj hlength

/-- The given headers for some requests, and for each of the others one of its own that makes a
longer key than the given one. -/
def gathered (headers : Nat → FieldValue) (requests : List Nat) (key : String) (k : Nat) :
    FieldValue :=
  if k ∈ requests then headers k else ownHeader (key.toList.length + k + 1)

section Steering

variable {Time : Type*} [Field Time] [LinearOrder Time] {logins : Logins}
  {headers : Nat → FieldValue} {key : String} {schedule : Schedule Time}
  {failures : List (Verification Time)}

/-- A request of the streak has the same key under the gathered headers, and no other has. -/
theorem gathered_key_iff (h : Streak logins headers key schedule.events failures) (k : Nat) :
    (logins.request (gathered headers (failures.map Prod.fst) key) k).key = key ↔
      k ∈ failures.map Prod.fst := by
  by_cases hmem : k ∈ failures.map Prod.fst
  · refine iff_of_true ?_ hmem
    obtain ⟨f, hf, rfl⟩ := List.mem_map.mp hmem
    rw [← h.keys f hf, Logins.request, Logins.request, gathered, if_pos hmem]
  · refine iff_of_false (fun hkey => ?_) hmem
    have hown := toList_ownKey
      (logins.request (gathered headers (failures.map Prod.fst) key) k) (key.toList.length + k) (by
        rw [Logins.request, gathered, if_neg hmem])
    have hlength := congrArg List.length hown
    rw [hkey, List.length_append, List.length_replicate] at hlength
    omega

theorem pooled_gathered (h : Streak logins headers key schedule.events failures) :
    pooled logins (gathered headers (failures.map Prod.fst) key) key schedule.events =
      failures := by
  have hsublist : failures.Sublist
      (pooled logins (gathered headers (failures.map Prod.fst) key) key schedule.events) := by
    have hall : failures.filter (fun f =>
        (logins.request (gathered headers (failures.map Prod.fst) key) f.1).key = key) =
          failures := by
      refine List.filter_eq_self.mpr fun f hf => decide_eq_true ?_
      exact (gathered_key_iff h f.1).mpr (List.mem_map_of_mem hf)
    have hfilter := h.verified.filter fun f =>
      (logins.request (gathered headers (failures.map Prod.fst) key) f.1).key = key
    rwa [hall] at hfilter
  refine (hsublist.eq_of_length_le ?_).symm
  -- no request is verified twice, so there are no more verifications than requests of the streak
  have hnodup : ((pooled logins (gathered headers (failures.map Prod.fst) key) key
      schedule.events).map Prod.fst).Nodup :=
    schedule.nodup.sublist (List.filter_sublist.map _)
  have hsubset : (pooled logins (gathered headers (failures.map Prod.fst) key) key
      schedule.events).map Prod.fst ⊆ failures.map Prod.fst := by
    intro k hk
    obtain ⟨f, hf, rfl⟩ := List.mem_map.mp hk
    exact (gathered_key_iff h f.1).mp (of_decide_eq_true (List.mem_filter.mp hf).2)
  have hle := (hnodup.subperm hsubset).length_le
  rwa [List.length_map, List.length_map] at hle

theorem streak_gathered (h : Streak logins headers key schedule.events failures) :
    Streak logins (gathered headers (failures.map Prod.fst) key) key schedule.events failures where
  verified := h.verified
  keys f hf := (gathered_key_iff h f.1).mpr (List.mem_map_of_mem hf)
  wrong f hf := (logins.refuses_request _ headers f.1).trans (h.wrong f hf)
  window := h.window

/-- Under headers of their own, no two requests share a key. -/
theorem length_of_own {key : String}
    (h : Streak logins (fun k => ownHeader (k + 1)) key schedule.events failures) :
    failures.length ≠ maxFailures := by
  intro hlength
  have hnodup := schedule.nodup.sublist (h.verified.map Prod.fst)
  cases failures with
  | nil => cases hlength
  | cons f failures =>
      cases failures with
      | nil => cases hlength
      | cons g failures =>
          have hkey : (logins.request (fun k => ownHeader (k + 1)) f.1).key =
              (logins.request (fun k => ownHeader (k + 1)) g.1).key :=
            (h.keys f List.mem_cons_self).trans
              (h.keys g (List.mem_cons_of_mem _ List.mem_cons_self)).symm
          have hsame := ownKey_injective rfl rfl hkey
          rw [List.map_cons, List.map_cons, hsame] at hnodup
          exact (List.nodup_cons.mp hnodup).1 List.mem_cons_self

variable [FloorRing Time]

/-- The same requests are refused with 429. -/
def SameRefusals (s s' : State Time) : Prop := ∀ k, (s.stages k).refused = (s'.stages k).refused

/-- **Headers do not steer the limiter** exactly when none can bring five failures, each within the
window after the one before it, under one key. -/
theorem unsteerable_iff [IsStrictOrderedRing Time] (logins : Logins) (schedule : Schedule Time) :
    (∀ headers headers', SameRefusals (run logins headers schedule.events)
        (run logins headers' schedule.events)) ↔
      ¬Poolable logins schedule.events := by
  apply Iff.intro
  · rintro hsame ⟨headers, key, failures, hstreak, hlength⟩
    have hpooled := pooled_gathered hstreak
    obtain ⟨k, hrefused⟩ := refused_of_pooled (hpooled.symm ▸ streak_gathered hstreak)
      ((congrArg List.length hpooled).trans hlength)
    have hquiet : Quiet logins (fun k => ownHeader (k + 1)) schedule.events
        (run logins (fun k => ownHeader (k + 1)) schedule.events) :=
      quiet_run fun _ _ h => length_of_own h
    have heq := hsame (gathered headers (failures.map Prod.fst) key) (fun k => ownHeader (k + 1)) k
    rw [hrefused, hquiet.refused k] at heq
    cases heq
  · intro hno headers headers' k
    have hquiet : ∀ headers, Quiet logins headers schedule.events
        (run logins headers schedule.events) := fun headers =>
      quiet_run fun key failures hstreak hlength =>
        hno ⟨headers, key, failures, hstreak, hlength⟩
    rw [(hquiet headers).refused k, (hquiet headers').refused k]

end Steering

/-! ## Logins in turn -/

section InTurn

variable {Time : Type*} [Zero Time] [LE Time]

def Schedule.snoc (schedule : Schedule Time) (e : Event Time)
    (h : Follows schedule.events e) : Schedule Time where
  events := schedule.events ++ [e]
  follows before e' hpre := by
    rcases List.prefix_concat_iff.mp hpre with heq | hpre
    · obtain ⟨hbefore, he⟩ := List.append_inj' heq rfl
      rw [hbefore, List.singleton_inj.mp he]
      exact h
    · exact schedule.follows before e' hpre

/-- Requests one after the other. -/
def inTurn (moment : Nat → { t : Time // 0 ≤ t }) :
    (n : Nat) → { schedule : Schedule Time // ∀ e ∈ schedule.events, e.request < n }
  | 0 => ⟨⟨[], fun before e h => absurd h (by simp)⟩, fun _ he => nomatch he⟩
  | n + 1 =>
      let earlier := inTurn moment n
      let checked := earlier.val.snoc (.check n (moment n)) fun e he => (earlier.property e he).ne
      let verified := checked.snoc (.verify n (moment n)) (by
        refine ⟨⟨moment n, List.mem_append_right _ List.mem_cons_self⟩, fun now hmem => ?_⟩
        rcases List.mem_append.mp hmem with hmem | hmem
        · exact absurd (earlier.property _ hmem) (Nat.lt_irrefl n)
        · cases List.mem_singleton.mp hmem)
      ⟨verified, fun e he => by
        rcases List.mem_append.mp he with he | he
        · rcases List.mem_append.mp he with he | he
          · exact Nat.lt_succ_of_lt (earlier.property e he)
          · rw [List.mem_singleton.mp he]
            exact Nat.lt_succ_self n
        · rw [List.mem_singleton.mp he]
          exact Nat.lt_succ_self n⟩

end InTurn

/-- One peer that does not know the password. -/
def guesses : Logins where
  accounts := ⟨fun _ => none, fun _ _ => false⟩
  client _ := some "10.0.0.9"
  username _ := "admin"
  password _ := "guess"

def noHeader : FieldValue := ⟨"", by simp [IsFieldValue]⟩

/-- A request every second. -/
def everySecond (n : Nat) : Schedule ℚ := (inTurn (fun k => ⟨(k : ℚ), Nat.cast_nonneg k⟩) n).val

theorem unsteerable_four :
    SameRefusals (run guesses (fun _ => noHeader) (everySecond 4).events)
      (run guesses (fun k => ownHeader (k + 1)) (everySecond 4).events) := by
  refine (unsteerable_iff guesses (everySecond 4)).mpr ?_ _ _
  rintro ⟨headers, key, failures, hstreak, hlength⟩
  have hle := hstreak.verified.length_le
  rw [hlength] at hle
  exact absurd hle (by decide)

/-- The fifth of five requests without a header is refused, and with headers of their own none. -/
theorem fifth_steered : ¬∀ headers headers', SameRefusals
    (run guesses headers (everySecond 5).events) (run guesses headers' (everySecond 5).events) := by
  intro h
  have hsame := h (fun _ => noHeader) (fun k => ownHeader (k + 1)) 4
  have hdifferent :
      ((run guesses (fun _ => noHeader) (everySecond 5).events).stages 4).refused ≠
        ((run guesses (fun k => ownHeader (k + 1)) (everySecond 5).events).stages 4).refused := by
    decide +kernel
  exact hdifferent hsame

end LanAgent.ForwardedFor
