import LanAgent.Library.Batch

/-!
# The upgrade script — `buildUpgradeBat` of `agent/upgrade.go`

The script stops the service, moves the installed program to the backup path, copies the downloaded
one in its place, starts the service again and asks whether it runs; two exits handle a step that
went wrong.  Whether a step went wrong is read off the files that exist, never off the exit code of
`del`, `move` or `copy`.
-/

namespace LanAgent

open Library.Batch

/-- The paths the script is built for. -/
inductive UpgradeFile where
  | destExe
  | backupExe
  | newExe
  | batPath
  deriving DecidableEq, Repr

/-- The commands of the script, in its order. -/
inductive UpgradeStep where
  | stopOld
  | deleteBackup
  | moveOld
  | copyNew
  | startNew
  | findRunning
  | deleteNew
  | stopNew
  | restoreOld
  | startOld
  | deleteBat
  deriving DecidableEq, Repr

inductive UpgradeLabel where
  | rollback
  | rollbackFailed
  | done
  deriving DecidableEq, Repr

abbrev UpgradeLine := Line UpgradeFile UpgradeStep UpgradeLabel

abbrev UpgradeMachine (Content : Type) := Library.Batch.Machine UpgradeFile Content

/-! ## The script

The pauses (`ping`) and the output that the commands append to the log are left out. -/

/-- Section 1: stop the service, so that the program's file is released. -/
def stopService : List UpgradeLine :=
  [.action (.echo "===== upgrade started ====="),
    .action (.run .stopOld (.sc .stop))]

/-- Section 2: back the old version up. -/
def backUpOld : List UpgradeLine :=
  [.ifThen (.exist .backupExe) [.run .deleteBackup (.del .backupExe)],
    .action (.run .moveOld (.move .destExe .backupExe)),
    .ifThen (.notExist .backupExe)
      [.echo "ERROR: backup old exe failed", .goto .rollbackFailed]]

/-- Section 3: write the new version. -/
def writeNew : List UpgradeLine :=
  [.action (.run .copyNew (.copy .newExe .destExe)),
    .ifThen (.notExist .destExe)
      [.echo "ERROR: copy new exe failed", .goto .rollback]]

/-- Section 4: start the service and verify that it runs. -/
def startAndVerify : List UpgradeLine :=
  [.action (.run .startNew (.sc .start)),
    .action (.run .findRunning .query),
    .ifThen (.errorlevel 1)
      [.echo "ERROR: service not RUNNING, rolling back", .goto .rollback]]

def succeed : List UpgradeLine :=
  [.action (.echo "upgrade SUCCESS"),
    .action (.run .deleteNew (.del .newExe)),
    .action (.goto .done)]

def rollBack : List UpgradeLine :=
  [.label .rollback,
    .action (.run .stopNew (.sc .stop)),
    .action (.run .restoreOld (.copy .backupExe .destExe)),
    .action (.run .startOld (.sc .start)),
    .action (.echo "rolled back to previous version"),
    .action (.goto .done)]

def rollBackFailed : List UpgradeLine :=
  [.label .rollbackFailed,
    .action (.echo "no backup available, manual intervention required")]

def finish : List UpgradeLine :=
  [.label .done,
    .action (.echo "===== upgrade finished ====="),
    .action (.run .deleteBat (.del .batPath))]

def buildUpgradeBat : List UpgradeLine :=
  stopService ++ (backUpOld ++ (writeNew ++ (startAndVerify ++ (succeed ++
    (rollBack ++ (rollBackFailed ++ finish))))))

variable {Content : Type}

/-- The script run on `files`. -/
def upgrade (outcome : UpgradeStep → Bool) (files : UpgradeFile → Option Content) :
    Option (UpgradeMachine Content) :=
  run outcome buildUpgradeBat ⟨files, 0, [], []⟩

/-! ## What the sections do -/

section Sections

variable (outcome : UpgradeStep → Bool) (m : UpgradeMachine Content)

def logged (text : String) : UpgradeMachine Content := { m with log := m.log ++ [text] }

def stopped : UpgradeMachine Content :=
  Command.effect (logged m "===== upgrade started =====") (outcome .stopOld) (.sc .stop)

def deleted : UpgradeMachine Content :=
  if (m.files .backupExe).isSome then Command.effect m (outcome .deleteBackup) (.del .backupExe)
  else m

/-- The machine when the script looks whether there is a backup. -/
def backedUp : UpgradeMachine Content :=
  Command.effect (deleted outcome m) (outcome .moveOld) (.move .destExe .backupExe)

/-- The machine when the script looks whether there is a target. -/
def written : UpgradeMachine Content :=
  Command.effect m (outcome .copyNew) (.copy .newExe .destExe)

def started : UpgradeMachine Content :=
  Command.effect (Command.effect m (outcome .startNew) (.sc .start)) (outcome .findRunning) .query

def succeeded : UpgradeMachine Content :=
  Command.effect (logged m "upgrade SUCCESS") (outcome .deleteNew) (.del .newExe)

def rolledBack : UpgradeMachine Content :=
  logged
    (Command.effect
      (Command.effect (Command.effect m (outcome .stopNew) (.sc .stop))
        (outcome .restoreOld) (.copy .backupExe .destExe))
      (outcome .startOld) (.sc .start))
    "rolled back to previous version"

def finished : UpgradeMachine Content :=
  Command.effect (logged m "===== upgrade finished =====") (outcome .deleteBat) (.del .batPath)

theorem pass_stopService :
    pass outcome stopService m none = (stopped outcome m, none) := rfl

theorem pass_backUpOld :
    pass outcome backUpOld m none =
      if ((backedUp outcome m).files .backupExe).isSome then (backedUp outcome m, none)
      else (logged (backedUp outcome m) "ERROR: backup old exe failed", some .rollbackFailed) := by
  have hdelete : ∀ lines : List UpgradeLine,
      pass outcome (.ifThen (.exist .backupExe) [.run .deleteBackup (.del .backupExe)] :: lines)
        m none = pass outcome lines (deleted outcome m) none := by
    intro lines
    rw [pass_ifThen, deleted]
    split <;> simp_all [Test.holds, doBlock]
  rw [backUpOld, hdelete, pass_run, ← backedUp, pass_ifThen]
  cases h : (backedUp outcome m).files .backupExe <;> simp [Test.holds, h, doBlock, logged]

theorem pass_writeNew :
    pass outcome writeNew m none =
      if ((written outcome m).files .destExe).isSome then (written outcome m, none)
      else (logged (written outcome m) "ERROR: copy new exe failed", some .rollback) := by
  rw [writeNew, pass_run, ← written, pass_ifThen]
  cases h : (written outcome m).files .destExe <;> simp [Test.holds, h, doBlock, logged]

theorem pass_startAndVerify :
    pass outcome startAndVerify m none =
      if outcome .findRunning then (started outcome m, none)
      else (logged (started outcome m) "ERROR: service not RUNNING, rolling back",
        some .rollback) := by
  rw [startAndVerify, pass_run, pass_run, ← started, pass_ifThen]
  cases h : outcome .findRunning <;>
    simp [Test.holds, h, doBlock, logged, started, Command.effect]

theorem pass_succeed :
    pass outcome succeed m none = (succeeded outcome m, some .done) := rfl

/-- What a jump to `:done` executes, wherever it comes from. -/
theorem pass_done :
    pass outcome (rollBack ++ (rollBackFailed ++ finish)) m (some .done) =
      (finished outcome m, none) := by
  rw [pass_append, pass_skip rfl, pass_append, pass_skip rfl]
  rfl

theorem pass_rollBack :
    pass outcome (rollBack ++ (rollBackFailed ++ finish)) m (some .rollback) =
      (finished outcome (rolledBack outcome m), none) := by
  have hback : pass outcome rollBack m (some .rollback) = (rolledBack outcome m, some .done) := rfl
  rw [pass_append, hback, pass_append, pass_skip rfl]
  rfl

theorem pass_rollBackFailed :
    pass outcome (rollBack ++ (rollBackFailed ++ finish)) m (some .rollbackFailed) =
      (finished outcome (logged m "no backup available, manual intervention required"), none) := by
  rw [pass_append, pass_skip rfl, pass_append]
  rfl

end Sections

/-! ## The ends of a run -/

section Ends

variable (outcome : UpgradeStep → Bool) (files : UpgradeFile → Option Content)

/-- The `move` takes effect. -/
def movesOld : Bool := outcome .moveOld && (files .destExe).isSome

/-- The `copy` of the new version takes effect. -/
def copiesNew : Bool := outcome .copyNew && (files .newExe).isSome

/-- A backup of an earlier upgrade survives the `del`. -/
def keepsBackup : Bool := !outcome .deleteBackup && (files .backupExe).isSome

/-- What lies at the backup path when the script looks. -/
def backupContent : Option Content :=
  if movesOld outcome files then files .destExe
  else if keepsBackup outcome files then files .backupExe
  else none

/-- What lies at the target path when the script looks. -/
def targetContent : Option Content :=
  if copiesNew outcome files then files .newExe
  else if movesOld outcome files then none
  else files .destExe

variable {outcome} {files} in
theorem backupContent_isSome_iff :
    (backupContent outcome files).isSome ↔
      movesOld outcome files = true ∨ keepsBackup outcome files = true := by
  unfold backupContent
  cases hmove : movesOld outcome files with
  | true =>
      simp only [movesOld, Bool.and_eq_true] at hmove
      simp [hmove.2]
  | false =>
      cases hkept : keepsBackup outcome files with
      | true =>
          simp only [keepsBackup, Bool.and_eq_true] at hkept
          simp [hkept.2]
      | false => simp

variable {outcome} {files} in
theorem targetContent_isSome_iff :
    (targetContent outcome files).isSome ↔
      copiesNew outcome files = true ∨
        movesOld outcome files = false ∧ (files .destExe).isSome := by
  unfold targetContent
  cases hcopy : copiesNew outcome files with
  | true =>
      simp only [copiesNew, Bool.and_eq_true] at hcopy
      simp [hcopy.2]
  | false => cases movesOld outcome files <;> simp

/-- The exits of the script, with the guard of each and what it leaves behind. -/
inductive UpgradeEnd : UpgradeMachine Content → Prop
  | gaveUp (m : UpgradeMachine Content) (hbackup : backupContent outcome files = none)
      (hlog : "upgrade SUCCESS" ∉ m.log) (htarget : m.files .destExe = files .destExe)
      (hissued : m.issued = [.stop]) : UpgradeEnd m
  | notWritten (m : UpgradeMachine Content) (hbackup : (backupContent outcome files).isSome)
      (hcopied : targetContent outcome files = none)
      (hlog : "upgrade SUCCESS" ∉ m.log)
      (htarget : outcome .restoreOld = true → m.files .destExe = backupContent outcome files)
      (hissued : m.issued = [.stop, .stop, .start]) : UpgradeEnd m
  | notRunning (m : UpgradeMachine Content) (hbackup : (backupContent outcome files).isSome)
      (hcopied : (targetContent outcome files).isSome)
      (hrunning : outcome .findRunning = false) (hlog : "upgrade SUCCESS" ∉ m.log)
      (htarget : outcome .restoreOld = true → m.files .destExe = backupContent outcome files)
      (hissued : m.issued = [.stop, .start, .stop, .start]) : UpgradeEnd m
  | succeeded (m : UpgradeMachine Content) (hbackup : (backupContent outcome files).isSome)
      (hcopied : (targetContent outcome files).isSome)
      (hrunning : outcome .findRunning = true) (hlog : "upgrade SUCCESS" ∈ m.log)
      (htarget : m.files .destExe = targetContent outcome files)
      (hissued : m.issued = [.stop, .start]) : UpgradeEnd m

/-! ### The files after each section -/

section Files

variable (m : UpgradeMachine Content)

theorem deleted_files (file : UpgradeFile) :
    (deleted outcome m).files file =
      if outcome .deleteBackup ∧ file = .backupExe then none else m.files file := by
  rw [deleted]
  split
  · rw [del_files]
  · rename_i hnone
    -- without a backup there is nothing to delete
    split
    · rename_i h
      rw [h.2]
      simpa using hnone
    · rfl

theorem backedUp_files (file : UpgradeFile) :
    (backedUp outcome m).files file =
      if file = .backupExe then backupContent outcome m.files
      else if file = .destExe ∧ movesOld outcome m.files then none
      else m.files file := by
  rw [backedUp, move_files]
  simp only [deleted_files]
  cases file with
  | backupExe =>
      cases hdelete : outcome .deleteBackup <;> cases hbackup : m.files .backupExe <;>
        simp [backupContent, movesOld, keepsBackup, hdelete, hbackup]
  | destExe => simp [movesOld]
  | newExe => simp
  | batPath => simp

theorem backedUp_log : (backedUp outcome m).log = m.log := by
  rw [backedUp, effect_log, deleted]
  split <;> simp

theorem backedUp_issued : (backedUp outcome m).issued = m.issued := by
  rw [backedUp, effect_issued]
  show (deleted outcome m).issued = m.issued
  rw [deleted]
  split
  · rw [effect_issued]
  · rfl

/-- The target after the `copy`, seen from the files the script was started on. -/
theorem written_destExe :
    (written outcome (backedUp outcome m)).files .destExe = targetContent outcome m.files := by
  rw [written, copy_files, backedUp_files, backedUp_files]
  simp [targetContent, copiesNew]

theorem written_backupExe : (written outcome m).files .backupExe = m.files .backupExe := by
  rw [written, copy_files]
  simp

theorem started_files : (started outcome m).files = m.files := rfl

theorem succeeded_destExe : (succeeded outcome m).files .destExe = m.files .destExe := by
  rw [succeeded, del_files]
  simp [logged]

theorem finished_destExe : (finished outcome m).files .destExe = m.files .destExe := by
  rw [finished, del_files]
  simp [logged]

theorem finished_log :
    (finished outcome m).log = m.log ++ ["===== upgrade finished ====="] := by
  simp [finished, logged]

theorem finished_issued : (finished outcome m).issued = m.issued := by
  simp [finished, effect_issued, logged]

theorem rolledBack_destExe (hrestore : outcome .restoreOld = true)
    (hbackup : (m.files .backupExe).isSome) :
    (rolledBack outcome m).files .destExe = m.files .backupExe := by
  show (Command.effect (Command.effect m _ _) _ _).files .destExe = _
  rw [copy_files]
  simp [Command.effect, hrestore, hbackup]

end Files

section Exits

variable {outcome} {files} {m : UpgradeMachine Content}

theorem end_gaveUp (hbackup : backupContent outcome files = none)
    (htarget : m.files .destExe = files .destExe) (hissued : m.issued = [.stop])
    (hlog : m.log = ["===== upgrade started ====="]) :
    UpgradeEnd outcome files
      (finished outcome (logged (logged m "ERROR: backup old exe failed")
        "no backup available, manual intervention required")) := by
  apply UpgradeEnd.gaveUp _ hbackup
  · rw [finished_log]
    simp [logged, hlog]
  · rw [finished_destExe]
    exact htarget
  · rw [finished_issued]
    exact hissued

theorem restored (hsome : (backupContent outcome files).isSome)
    (hbackup : m.files .backupExe = backupContent outcome files)
    (hrestore : outcome .restoreOld = true) :
    (finished outcome (rolledBack outcome m)).files .destExe = backupContent outcome files := by
  rw [finished_destExe, rolledBack_destExe outcome _ hrestore, hbackup]
  rw [hbackup]
  exact hsome

/-- From the backup on: the script writes the new version, verifies it or rolls back. -/
theorem end_of_backup (hsome : (backupContent outcome files).isSome)
    (hbackup : m.files .backupExe = backupContent outcome files)
    (htarget : (written outcome m).files .destExe = targetContent outcome files)
    (hissued : m.issued = [.stop]) (hlog : m.log = ["===== upgrade started ====="]) :
    ∃ m', pass outcome (writeNew ++ (startAndVerify ++ (succeed ++
        (rollBack ++ (rollBackFailed ++ finish))))) m none = (m', none) ∧
      UpgradeEnd outcome files m' := by
  have hissued' : (written outcome m).issued = [.stop] := by rw [written, effect_issued, hissued]
  have hlog' : (written outcome m).log = ["===== upgrade started ====="] := by
    rw [written, effect_log, hlog]
  have hbackup' : (written outcome m).files .backupExe = backupContent outcome files := by
    rw [written_backupExe, hbackup]
  rw [pass_append, pass_writeNew, htarget]
  cases hcopied : targetContent outcome files with
  | none =>
      rw [Option.isSome_none, if_neg Bool.false_ne_true, pass_append, pass_skip rfl, pass_append,
        pass_skip rfl, pass_rollBack]
      refine ⟨_, rfl, .notWritten _ hsome hcopied ?_ ?_ ?_⟩
      · rw [finished_log]
        simp [rolledBack, logged, hlog']
      · exact restored hsome hbackup'
      · rw [finished_issued]
        simp [rolledBack, effect_issued, logged, hissued']
  | some content =>
      rw [Option.isSome_some, if_pos rfl, pass_append, pass_startAndVerify]
      have hcopied' : (targetContent outcome files).isSome := by rw [hcopied]; rfl
      cases hrunning : outcome .findRunning with
      | false =>
          rw [if_neg Bool.false_ne_true, pass_append, pass_skip rfl, pass_rollBack]
          refine ⟨_, rfl, .notRunning _ hsome hcopied' hrunning ?_ ?_ ?_⟩
          · rw [finished_log]
            simp [rolledBack, logged, started, hlog']
          · exact restored hsome hbackup'
          · rw [finished_issued]
            simp [rolledBack, effect_issued, logged, started, hissued']
      | true =>
          rw [if_pos rfl, pass_append, pass_succeed, pass_done]
          refine ⟨_, rfl, .succeeded _ hsome hcopied' hrunning ?_ ?_ ?_⟩
          · rw [finished_log]
            simp [succeeded, logged]
          · rw [finished_destExe, succeeded_destExe, started_files, htarget]
          · rw [finished_issued]
            simp [succeeded, effect_issued, logged, started, hissued']

end Exits

/-- **The run.**  The script always comes to its end, through one of its exits. -/
theorem upgrade_end : ∃ m, upgrade outcome files = some m ∧ UpgradeEnd outcome files m := by
  have hissued : (backedUp outcome (stopped outcome ⟨files, 0, [], []⟩)).issued = [.stop] :=
    backedUp_issued outcome _
  have hlog : (backedUp outcome (stopped outcome ⟨files, 0, [], []⟩)).log =
      ["===== upgrade started ====="] := backedUp_log outcome _
  have hbackup : (backedUp outcome (stopped outcome ⟨files, 0, [], []⟩)).files .backupExe =
      backupContent outcome files := backedUp_files outcome _ .backupExe
  have htarget : (backedUp outcome (stopped outcome ⟨files, 0, [], []⟩)).files .destExe =
      if movesOld outcome files then none else files .destExe := by
    rw [backedUp_files]
    simp [stopped, Command.effect, logged]
  have hwritten := written_destExe outcome (stopped outcome ⟨files, 0, [], []⟩)
  have hrun : ∀ m', pass outcome buildUpgradeBat ⟨files, 0, [], []⟩ none = (m', none) →
      upgrade outcome files = some m' := fun m' h => run_eq_some h
  rw [buildUpgradeBat, pass_append, pass_stopService, pass_append, pass_backUpOld, hbackup] at hrun
  cases hnone : backupContent outcome files with
  | none =>
      refine ⟨_, hrun _ ?_, end_gaveUp hnone ?_ hissued hlog⟩
      · rw [hnone, Option.isSome_none, if_neg Bool.false_ne_true, pass_append, pass_skip rfl,
          pass_append, pass_skip rfl, pass_append, pass_skip rfl, pass_rollBackFailed]
      · -- had the move taken effect, there would be a backup
        rw [htarget, if_neg]
        intro hmove
        rw [backupContent, if_pos hmove] at hnone
        simp [movesOld, hnone] at hmove
  | some content =>
      have hsome : (backupContent outcome files).isSome := by rw [hnone]; rfl
      obtain ⟨m', hpass, hend⟩ := end_of_backup hsome hbackup hwritten hissued hlog
      refine ⟨m', hrun m' ?_, hend⟩
      rw [if_pos hsome]
      exact hpass

/-! ## Success means the new version is installed -/

/-- A run that says SUCCESS leaves the downloaded program at the target. -/
def SuccessInstalls : Prop :=
  ∃ m, upgrade outcome files = some m ∧
    ("upgrade SUCCESS" ∈ m.log → m.files .destExe = files .newExe)

instance [DecidableEq Content] : Decidable (SuccessInstalls outcome files) :=
  inferInstanceAs (Decidable (∃ m ∈ upgrade outcome files, _))

/-- The old program stayed where it is, an older backup stands in for the one just taken, and the
service is found running. -/
def OldVersionAccepted : Prop :=
  movesOld outcome files = false ∧ copiesNew outcome files = false ∧
    keepsBackup outcome files = true ∧ (files .destExe).isSome ∧ files .destExe ≠ files .newExe ∧
    outcome .findRunning = true

instance [DecidableEq Content] : Decidable (OldVersionAccepted outcome files) :=
  inferInstanceAs (Decidable (_ ∧ _ ∧ _ ∧ _ ∧ _ ∧ _))

/-- **Installed programs.**  SUCCESS means the downloaded program is installed exactly when the run
does not go on with an old program behind an old backup. -/
theorem success_installs_iff :
    SuccessInstalls outcome files ↔ ¬OldVersionAccepted outcome files := by
  obtain ⟨m, hrun, hend⟩ := upgrade_end outcome files
  have hiff : SuccessInstalls outcome files ↔
      ("upgrade SUCCESS" ∈ m.log → m.files .destExe = files .newExe) := by
    rw [SuccessInstalls, hrun]
    simp
  rw [hiff]
  cases hend with
  | gaveUp hbackup hlog =>
      refine ⟨fun _ h => ?_, fun _ h => absurd h hlog⟩
      have hsome := backupContent_isSome_iff.mpr (.inr h.2.2.1)
      simp [hbackup] at hsome
  | notWritten hbackup hcopied hlog =>
      refine ⟨fun _ h => ?_, fun _ h => absurd h hlog⟩
      have hsome := targetContent_isSome_iff.mpr (.inr ⟨h.1, h.2.2.2.1⟩)
      simp [hcopied] at hsome
  | notRunning hbackup hcopied hrunning hlog =>
      refine ⟨fun _ h => ?_, fun _ h => absurd h hlog⟩
      rw [h.2.2.2.2.2] at hrunning
      cases hrunning
  | succeeded hbackup hcopied hrunning hlog htarget =>
      rw [backupContent_isSome_iff] at hbackup
      rw [targetContent_isSome_iff] at hcopied
      rw [htarget, OldVersionAccepted, targetContent]
      cases hcopy : copiesNew outcome files with
      | true => simp
      | false =>
          -- without the copy the target can only be the old program, which was not moved
          obtain ⟨hmove, htarget⟩ := hcopied.resolve_left (by simp [hcopy])
          have hkept := hbackup.resolve_left (by simp [hmove])
          simp [hmove, hkept, htarget, hrunning, hlog]

/-- The files of a second upgrade: the backup is the one of the first. -/
def secondUpgrade : UpgradeFile → Option String
  | .destExe => some "v2"
  | .backupExe => some "v1"
  | .newExe => some "v3"
  | .batPath => none

/-- The service does not stop, so that none of its files can be replaced: the old version is never
touched, and the run says SUCCESS. -/
theorem untouched_success : ¬SuccessInstalls (· = .findRunning) secondUpgrade := by
  decide

/-! ## A failed upgrade leaves the old version running -/

/-- A start has been issued since the last stop: there are no other commands. -/
def startedLast (issued : List ServiceCommand) : Prop := issued.getLast? = some .start

instance (issued : List ServiceCommand) : Decidable (startedLast issued) :=
  inferInstanceAs (Decidable (_ = _))

/-- A run that does not say SUCCESS leaves the program the target held at first, and starts it. -/
def FailureRestores : Prop :=
  ∃ m, upgrade outcome files = some m ∧
    ("upgrade SUCCESS" ∉ m.log → m.files .destExe = files .destExe ∧ startedLast m.issued)

instance [DecidableEq Content] : Decidable (FailureRestores outcome files) :=
  inferInstanceAs (Decidable (∃ m ∈ upgrade outcome files, _))

/-- The run passes the three checks of the script. -/
def PassesChecks : Prop :=
  (movesOld outcome files = true ∨ keepsBackup outcome files = true) ∧
    (copiesNew outcome files = true ∨
      movesOld outcome files = false ∧ (files .destExe).isSome) ∧
    outcome .findRunning = true

/-- What lies at the backup path is the program the target held at first. -/
def BackupIsCurrent : Prop :=
  movesOld outcome files = true ∨
    keepsBackup outcome files = true ∧ files .backupExe = files .destExe

instance : Decidable (PassesChecks outcome files) := inferInstanceAs (Decidable (_ ∧ _ ∧ _))

instance [DecidableEq Content] : Decidable (BackupIsCurrent outcome files) :=
  inferInstanceAs (Decidable (_ ∨ _))

variable {outcome} {files} in
theorem backupIsCurrent_iff (hsome : (backupContent outcome files).isSome) :
    BackupIsCurrent outcome files ↔ backupContent outcome files = files .destExe := by
  rw [backupContent_isSome_iff] at hsome
  unfold BackupIsCurrent backupContent
  cases hmove : movesOld outcome files with
  | true => simp
  | false =>
      have hkept := hsome.resolve_left (by simp [hmove])
      simp [hkept]

/-- **Restored programs.**  With a rollback whose own commands work, a failed upgrade restores and
starts the old program exactly when the backup is current; a run without a backup does not start
the service again. -/
theorem failure_restores_iff
    (hrollback : outcome .stopNew = true ∧ outcome .restoreOld = true ∧ outcome .startOld = true) :
    FailureRestores outcome files ↔
      PassesChecks outcome files ∨ BackupIsCurrent outcome files := by
  obtain ⟨m, hrun, hend⟩ := upgrade_end outcome files
  have hiff : FailureRestores outcome files ↔
      ("upgrade SUCCESS" ∉ m.log → m.files .destExe = files .destExe ∧ startedLast m.issued) := by
    rw [FailureRestores, hrun]
    simp
  rw [hiff]
  cases hend with
  | gaveUp hbackup hlog htarget hissued =>
      have hstopped : ¬startedLast m.issued := by simp [startedLast, hissued]
      have hnone : ¬(backupContent outcome files).isSome := by simp [hbackup]
      rw [backupContent_isSome_iff] at hnone
      refine ⟨fun h => absurd (h hlog).2 hstopped, fun h => absurd ?_ hnone⟩
      rcases h with h | h
      · exact h.1
      · exact h.imp_right And.left
  | notWritten hbackup hcopied hlog htarget hissued =>
      have hfails : ¬PassesChecks outcome files := by
        intro h
        have hsome := targetContent_isSome_iff.mpr h.2.1
        simp [hcopied] at hsome
      rw [or_iff_right hfails, backupIsCurrent_iff hbackup, htarget hrollback.2.1]
      simp [hlog, startedLast, hissued]
  | notRunning hbackup hcopied hrunning hlog htarget hissued =>
      have hfails : ¬PassesChecks outcome files := by
        intro h
        rw [h.2.2] at hrunning
        cases hrunning
      rw [or_iff_right hfails, backupIsCurrent_iff hbackup, htarget hrollback.2.1]
      simp [hlog, startedLast, hissued]
  | succeeded hbackup hcopied hrunning hlog =>
      have hpasses : PassesChecks outcome files :=
        ⟨backupContent_isSome_iff.mp hbackup, targetContent_isSome_iff.mp hcopied, hrunning⟩
      exact ⟨fun _ => .inl hpasses, fun _ h => absurd hlog h⟩

/-- A new version that does not come up is rolled back. -/
theorem failure_restores_notRunning : FailureRestores (· ≠ .findRunning) secondUpgrade :=
  (failure_restores_iff (· ≠ .findRunning) secondUpgrade ⟨rfl, rfl, rfl⟩).mpr (.inr (.inl rfl))

/-- Of a program that is still in use no backup is taken, and the service stays stopped; with a
backup of the upgrade before in its place, the version before is restored. -/
theorem old_version_lost :
    ¬FailureRestores (· ≠ .moveOld) (fun file => if file = .backupExe then none
      else secondUpgrade file) ∧
    ¬FailureRestores (fun step => step ≠ .deleteBackup && step ≠ .moveOld && step ≠ .findRunning)
      secondUpgrade := by
  decide

end Ends

end LanAgent
