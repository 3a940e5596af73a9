import LanAgent.CommandFrames

/-!
# The reader of a socket — the loop of `handleConnection` in `agent/main.go`

One message after the other is read, handled and answered; a message that is no command is passed
over, and a result that cannot be written ends the loop.  The process, and with it the mark of a
running upgrade, outlives the connection.
-/

namespace LanAgent.Commands

/-- A message, what its command meets outside, and whether the result can be written. -/
structure Incoming where
  text : String
  env : Env
  writes : Bool

/-- The commands of a connection: the process after it, what was done, and the frames written. -/
def readMessages (p : Process) : List Incoming → Process × List Effect × List String
  | [] => (p, [], [])
  | message :: messages =>
      match readCommand message.text with
      | none => readMessages p messages
      | some cmd =>
          let (p, effects, result) := handleCommand message.env p cmd
          if message.writes then
            let (p, laterEffects, frames) := readMessages p messages
            (p, effects ++ laterEffects, resultText result :: frames)
          else (p, effects, [])

/-- The connections of a process, one after the other. -/
def serveConnections (p : Process) : List (List Incoming) → Process × List Effect
  | [] => (p, [])
  | connection :: connections =>
      let (p, effects, _) := readMessages p connection
      let (p, laterEffects) := serveConnections p connections
      (p, effects ++ laterEffects)

def Effect.isUpgrade : Effect → Bool
  | .upgrade _ _ => true
  | _ => false

def upgrades (effects : List Effect) : Nat := effects.countP Effect.isUpgrade

def running (p : Process) : Nat := if p.upgradeRunning then 1 else 0

theorem upgrades_of_noUpgrade {p : Process} {outcome : Outcome} (h : NoUpgrade p outcome) :
    upgrades outcome.2.1 = 0 := by
  rw [upgrades, List.countP_eq_zero]
  intro effect heffect
  cases effect with
  | upgrade download version => exact absurd heffect (h.effects download version)
  | _ => exact Bool.false_ne_true

/-- **One command** starts an upgrade exactly when it marks one as running. -/
theorem upgrades_handleCommand (env : Env) (p : Process) (cmd : Command) :
    upgrades (handleCommand env p cmd).2.1 + running p = running (handleCommand env p cmd).1 := by
  show upgrades (perform env p cmd.params cmd.action).2.1 + running p =
    running (perform env p cmd.params cmd.action).1
  rcases perform_upgrades env p cmd.params cmd.action with hnone | hstarts
  · rw [upgrades_of_noUpgrade hnone, Nat.zero_add, running, running, hnone.running]
  · obtain ⟨download, -, heffects⟩ := hstarts.started
    rw [heffects, running, running, hstarts.idle, hstarts.running]
    rfl

theorem upgrades_readMessages (p : Process) (messages : List Incoming) :
    upgrades (readMessages p messages).2.1 + running p = running (readMessages p messages).1 := by
  induction messages generalizing p with
  | nil => exact Nat.zero_add _
  | cons message messages ih =>
      rw [readMessages]
      split
      · exact ih p
      · rename_i cmd _
        have hone := upgrades_handleCommand message.env p cmd
        generalize handleCommand message.env p cmd = handled at hone ⊢
        obtain ⟨after, effects, result⟩ := handled
        dsimp only at hone ⊢
        split
        · have hlater := ih after
          generalize readMessages after messages = rest at hlater ⊢
          show upgrades (effects ++ rest.2.1) + running p = running rest.1
          rw [upgrades, List.countP_append]
          unfold upgrades at hone hlater
          omega
        · exact hone

theorem upgrades_serveConnections (p : Process) (connections : List (List Incoming)) :
    upgrades (serveConnections p connections).2 + running p =
      running (serveConnections p connections).1 := by
  induction connections generalizing p with
  | nil => exact Nat.zero_add _
  | cons connection connections ih =>
      have hone := upgrades_readMessages p connection
      rw [serveConnections]
      generalize readMessages p connection = read at hone ⊢
      obtain ⟨after, effects, frames⟩ := read
      dsimp only at hone ⊢
      have hlater := ih after
      generalize serveConnections after connections = rest at hlater ⊢
      show upgrades (effects ++ rest.2) + running p = running rest.1
      rw [upgrades, List.countP_append]
      unfold upgrades at hone hlater
      omega

/-- At most one upgrade is started, none if one is running; and one is running afterwards exactly
when one was before or one has been started. -/
structure OneUpgrade (p after : Process) (effects : List Effect) : Prop where
  atMostOne : upgrades effects ≤ 1
  none_running : p.upgradeRunning = true → upgrades effects = 0
  running_iff : after.upgradeRunning = true ↔ p.upgradeRunning = true ∨ upgrades effects = 1

theorem oneUpgrade_of_count {p after : Process} {effects : List Effect}
    (hcount : upgrades effects + running p = running after) : OneUpgrade p after effects := by
  unfold running at hcount
  cases hbefore : p.upgradeRunning <;> cases hafter : after.upgradeRunning <;>
    rw [hbefore, hafter] at hcount <;> simp at hcount
  · exact ⟨by omega, by simp [hbefore], by simp [hbefore, hafter, hcount]⟩
  · exact ⟨by omega, by simp [hbefore], by simp [hbefore, hafter, hcount]⟩
  · exact ⟨by omega, fun _ => hcount, by simp [hbefore, hafter]⟩

/-- **A process starts at most one upgrade**, whatever it is sent, over however many connections,
and however its commands end. -/
theorem one_upgrade (p : Process) (connections : List (List Incoming)) :
    OneUpgrade p (serveConnections p connections).1 (serveConnections p connections).2 :=
  oneUpgrade_of_count (upgrades_serveConnections p connections)

end LanAgent.Commands
