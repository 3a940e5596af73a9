import Mathlib.Logic.Function.Basic

/-!
# Batch — command scripts whose commands may fail

A script is a list of lines over file paths and labels.  Every command that touches the outside
carries the name of the step it is, and `outcome` says of each step whether it takes full effect
or fails without effect.  `cmd` looks for the label of a `goto` from the current line on, so one
pass from the first line to the last executes a script whose jumps all go forward: `pass` carries
the label that is still looked for.
-/

namespace Library.Batch

inductive ServiceCommand where
  | stop
  | start
  deriving DecidableEq, Repr

/-- The files at the paths, the exit code, the commands issued to the service and the log. -/
structure Machine (Path Content : Type) where
  files : Path → Option Content
  errorlevel : Nat
  issued : List ServiceCommand
  log : List String

inductive Command (Path : Type) where
  | sc (command : ServiceCommand)
  /-- `sc query … | findstr …`. -/
  | query
  | del (path : Path)
  | move (source destination : Path)
  | copy (source destination : Path)

/-- A test: `exist`, `not exist` and `errorlevel`, which holds from the given exit code on. -/
inductive Test (Path : Type) where
  | exist (path : Path)
  | notExist (path : Path)
  | errorlevel (code : Nat)

inductive Action (Path Step Label : Type) where
  | run (step : Step) (command : Command Path)
  | echo (text : String)
  | goto (label : Label)

inductive Line (Path Step Label : Type) where
  | label (label : Label)
  | action (action : Action Path Step Label)
  | ifThen (test : Test Path) (block : List (Action Path Step Label))

variable {Path Content Step Label : Type}

/-! ## Commands and tests -/

section Effects

variable [DecidableEq Path]

def Command.effect (m : Machine Path Content) (succeeds : Bool) :
    Command Path → Machine Path Content
  -- a command to the service is issued even where the service does not obey
  | .sc command => { m with issued := m.issued ++ [command] }
  | .query => { m with errorlevel := if succeeds then 0 else 1 }
  | .del path => if succeeds then { m with files := Function.update m.files path none } else m
  | .move source destination =>
      if succeeds ∧ (m.files source).isSome then
        { m with
          files := Function.update (Function.update m.files source none) destination
            (m.files source) }
      else m
  | .copy source destination =>
      if succeeds ∧ (m.files source).isSome then
        { m with files := Function.update m.files destination (m.files source) }
      else m

def Test.holds (m : Machine Path Content) : Test Path → Bool
  | .exist path => (m.files path).isSome
  | .notExist path => (m.files path).isNone
  | .errorlevel code => code ≤ m.errorlevel

section Frames

variable (m : Machine Path Content) (succeeds : Bool)

theorem del_files (path p : Path) :
    ((Command.del path).effect m succeeds).files p =
      if succeeds ∧ p = path then none else m.files p := by
  by_cases hp : p = path <;> cases succeeds <;> simp [Command.effect, hp]

theorem move_files (source destination p : Path) :
    ((Command.move source destination).effect m succeeds).files p =
      if succeeds ∧ (m.files source).isSome then
        if p = destination then m.files source else if p = source then none else m.files p
      else m.files p := by
  rw [Command.effect]
  split
  · simp only [Function.update_apply]
  · rfl

theorem copy_files (source destination p : Path) :
    ((Command.copy source destination).effect m succeeds).files p =
      if succeeds ∧ (m.files source).isSome ∧ p = destination then m.files source
      else m.files p := by
  rw [Command.effect]
  by_cases h : succeeds ∧ (m.files source).isSome
  · simp [h, Function.update_apply]
  · rw [if_neg h, if_neg (fun h' => h ⟨h'.1, h'.2.1⟩)]

/-- Only a command to the service is issued to it. -/
theorem effect_issued (command : Command Path) :
    (command.effect m succeeds).issued =
      match command with
      | .sc command => m.issued ++ [command]
      | _ => m.issued := by
  cases command <;> simp only [Command.effect] <;> split <;> rfl

@[simp] theorem effect_log (command : Command Path) :
    (command.effect m succeeds).log = m.log := by
  cases command <;> simp only [Command.effect] <;> split <;> rfl

end Frames

end Effects

/-! ## Scripts -/

section Pass

variable [DecidableEq Path] [DecidableEq Label] (outcome : Step → Bool)

/-- The actions of a block up to its first `goto`, and the label that one names. -/
def doBlock : List (Action Path Step Label) → Machine Path Content →
    Machine Path Content × Option Label
  | [], m => (m, none)
  | .run step command :: block, m => doBlock block (command.effect m (outcome step))
  | .echo text :: block, m => doBlock block { m with log := m.log ++ [text] }
  | .goto label :: _, m => (m, some label)

def Line.exec (m : Machine Path Content) :
    Line Path Step Label → Machine Path Content × Option Label
  | .label _ => (m, none)
  | .action a => doBlock outcome [a] m
  | .ifThen test block => if test.holds m then doBlock outcome block m else (m, none)

def Line.isLabel (sought : Label) : Line Path Step Label → Bool
  | .label l => l = sought
  | _ => false

/-- One pass over the lines; the last component is the label that is looked for. -/
def pass : List (Line Path Step Label) → Machine Path Content → Option Label →
    Machine Path Content × Option Label
  | [], m, sought => (m, sought)
  | line :: lines, m, none => pass lines (line.exec outcome m).1 (line.exec outcome m).2
  | line :: lines, m, some label =>
      if line.isLabel label then pass lines m none else pass lines m (some label)

/-- The run of a script; `none` when a jump leads backwards or nowhere. -/
def run (script : List (Line Path Step Label)) (m : Machine Path Content) :
    Option (Machine Path Content) :=
  match pass outcome script m none with
  | (m', none) => some m'
  | (_, some _) => none

variable {outcome}

/-! ### Rules of the lines -/

section Rules

variable (lines : List (Line Path Step Label)) (m : Machine Path Content)

@[simp] theorem pass_nil (sought : Option Label) :
    pass outcome ([] : List (Line Path Step Label)) m sought = (m, sought) := rfl

@[simp] theorem pass_label (label : Label) :
    pass outcome (.label label :: lines) m none = pass outcome lines m none := rfl

@[simp] theorem pass_run (step : Step) (command : Command Path) :
    pass outcome (.action (.run step command) :: lines) m none =
      pass outcome lines (command.effect m (outcome step)) none := rfl

@[simp] theorem pass_echo (text : String) :
    pass outcome (.action (.echo text) :: lines) m none =
      pass outcome lines { m with log := m.log ++ [text] } none := rfl

@[simp] theorem pass_goto (label : Label) :
    pass outcome (.action (.goto label) :: lines) m none = pass outcome lines m (some label) := rfl

theorem pass_ifThen (test : Test Path) (block : List (Action Path Step Label)) :
    pass outcome (.ifThen test block :: lines) m none =
      if test.holds m then
        pass outcome lines (doBlock outcome block m).1 (doBlock outcome block m).2
      else pass outcome lines m none := by
  by_cases h : test.holds m = true <;> simp [pass, Line.exec, h]

end Rules

/-- **Composition.**  A script made of two parts is the second run after the first. -/
theorem pass_append (part rest : List (Line Path Step Label)) (m : Machine Path Content)
    (sought : Option Label) :
    pass outcome (part ++ rest) m sought =
      pass outcome rest (pass outcome part m sought).1 (pass outcome part m sought).2 := by
  induction part generalizing m sought with
  | nil => rfl
  | cons line lines ih =>
      cases sought with
      | none =>
          show pass outcome (lines ++ rest) (line.exec outcome m).1 (line.exec outcome m).2 = _
          rw [ih]
          rfl
      | some label =>
          simp only [List.cons_append, pass]
          split <;> rw [ih]

/-- A jump passes over a part that does not have its label. -/
theorem pass_skip {part : List (Line Path Step Label)} {label : Label}
    (h : part.any (Line.isLabel label) = false) (m : Machine Path Content) :
    pass outcome part m (some label) = (m, some label) := by
  induction part with
  | nil => rfl
  | cons line lines ih =>
      rw [List.any_cons, Bool.or_eq_false_iff] at h
      rw [pass, if_neg (by simp [h.1]), ih h.2]

theorem run_eq_some {script : List (Line Path Step Label)} {m m' : Machine Path Content}
    (h : pass outcome script m none = (m', none)) : run outcome script m = some m' := by
  rw [run, h]

end Pass

end Library.Batch
