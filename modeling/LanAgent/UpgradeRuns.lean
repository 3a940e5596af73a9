import LanAgent.CommandFrames
import LanAgent.Library.Runs
import LanAgent.Upgrade

/-!
# Upgrades one after the other — `startUpgrade` and its script

Every upgrade downloads a program of its own and leaves it to the script, whose commands may fail in
any way.  An agent runs from the program at the target path, so that an upgrade only begins where
there is one; what it finds at the backup path is whatever the upgrades before have left there.

* `program_kept`: however the commands end, one of the two paths holds a program, and it is one that
  was there at first or was downloaded in full;
* `versions_follow`: where the file commands work, the two paths are a register of versions.
-/

namespace LanAgent

open Library.Batch

/-! ## The files the script leaves -/

section Files

variable {Content : Type} (outcome : UpgradeStep → Bool)

section Frames

variable (m : UpgradeMachine Content)

theorem finished_files {file : UpgradeFile} (hfile : file ≠ .batPath) :
    (finished outcome m).files file = m.files file := by
  rw [finished, del_files, if_neg fun h => hfile h.2]
  rfl

theorem succeeded_files {file : UpgradeFile} (hfile : file ≠ .newExe) :
    (succeeded outcome m).files file = m.files file := by
  rw [succeeded, del_files, if_neg fun h => hfile h.2]
  rfl

theorem rolledBack_files (file : UpgradeFile) :
    (rolledBack outcome m).files file =
      if outcome .restoreOld ∧ (m.files .backupExe).isSome ∧ file = .destExe then
        m.files .backupExe
      else m.files file := by
  show (Command.effect (Command.effect m _ _) _ _).files file = _
  rw [copy_files]
  rfl

end Frames

variable (files : UpgradeFile → Option Content)

/-- What lies at the target path in the end. -/
def installedContent : Option Content :=
  if (backupContent outcome files).isNone then files .destExe
  else if (targetContent outcome files).isSome ∧ outcome .findRunning then
    targetContent outcome files
  else if outcome .restoreOld then backupContent outcome files
  else targetContent outcome files

variable {outcome} {files} in
theorem installedContent_of_backup (hsome : (backupContent outcome files).isSome) :
    installedContent outcome files =
      if (targetContent outcome files).isSome ∧ outcome .findRunning then
        targetContent outcome files
      else if outcome .restoreOld then backupContent outcome files
      else targetContent outcome files := by
  have hnone : ¬(backupContent outcome files).isNone = true := by
    rw [← Option.not_isSome, hsome]
    exact Bool.false_ne_true
  exact if_neg hnone

variable {outcome} {files} in
theorem backupContent_from {program : Content}
    (h : backupContent outcome files = some program) :
    files .destExe = some program ∨ files .backupExe = some program := by
  unfold backupContent at h
  split_ifs at h
  · exact .inl h
  · exact .inr h

variable {outcome} {files} in
theorem targetContent_from {program : Content}
    (h : targetContent outcome files = some program) :
    files .destExe = some program ∨ files .newExe = some program := by
  unfold targetContent at h
  split_ifs at h
  · exact .inr h
  · exact .inl h

variable {outcome} {files} in
/-- Programs are moved and copied, never changed. -/
theorem installedContent_from {program : Content}
    (h : installedContent outcome files = some program) :
    files .destExe = some program ∨ files .backupExe = some program ∨
      files .newExe = some program := by
  have htarget : targetContent outcome files = some program →
      files .destExe = some program ∨ files .backupExe = some program ∨
        files .newExe = some program :=
    fun h => (targetContent_from h).imp_right .inr
  unfold installedContent at h
  split_ifs at h
  · exact .inl h
  · exact htarget h
  · exact (backupContent_from h).imp_right .inl
  · exact htarget h

variable {outcome} {files} in
/-- Of an installed and a new program none is at the target path in the end exactly when the old one
was moved and both copies have failed. -/
theorem installedContent_eq_none_iff (hold : (files .destExe).isSome)
    (hnew : (files .newExe).isSome) :
    installedContent outcome files = none ↔
      outcome .moveOld = true ∧ outcome .copyNew = false ∧ outcome .restoreOld = false := by
  have hmoves : movesOld outcome files = outcome .moveOld := by rw [movesOld, hold, Bool.and_true]
  have hcopies : copiesNew outcome files = outcome .copyNew := by
    rw [copiesNew, hnew, Bool.and_true]
  have htarget : (targetContent outcome files).isSome ↔
      outcome .copyNew = true ∨ outcome .moveOld = false := by
    rw [targetContent_isSome_iff, hcopies, hmoves, and_iff_left hold]
  cases hbackup : backupContent outcome files with
  | none =>
      -- nothing was moved, and the script gives up
      have hmove : ¬outcome .moveOld = true := by
        intro hmove
        have hsome := backupContent_isSome_iff.mpr (.inl (hmoves.trans hmove))
        rw [hbackup] at hsome
        exact Bool.false_ne_true hsome
      rw [installedContent, hbackup, if_pos Option.isNone_none]
      exact iff_of_false (Option.isSome_iff_ne_none.mp hold) fun h => hmove h.1
  | some content =>
      have hsome : (backupContent outcome files).isSome := by rw [hbackup]; rfl
      rw [installedContent_of_backup hsome]
      split_ifs with hchecked hrestore
      · refine iff_of_false (Option.isSome_iff_ne_none.mp hchecked.1) fun h => ?_
        rcases htarget.mp hchecked.1 with hcopy | hmove
        · exact Bool.false_ne_true (h.2.1.symm.trans hcopy)
        · exact Bool.false_ne_true (hmove.symm.trans h.1)
      · refine iff_of_false (Option.isSome_iff_ne_none.mp hsome) fun h => ?_
        exact Bool.false_ne_true (h.2.2.symm.trans hrestore)
      · rw [← Option.not_isSome_iff_eq_none, htarget]
        simp [hrestore, and_comm]

/-- What the rollback leaves, whichever check has failed. -/
theorem rollback_files {m : UpgradeMachine Content}
    (hsome : (backupContent outcome files).isSome)
    (hbackup : m.files .backupExe = backupContent outcome files)
    (htarget : m.files .destExe = targetContent outcome files)
    (hfails : ¬((targetContent outcome files).isSome ∧ outcome .findRunning = true)) :
    (finished outcome (rolledBack outcome m)).files .destExe = installedContent outcome files ∧
      (finished outcome (rolledBack outcome m)).files .backupExe =
        backupContent outcome files := by
  rw [finished_files outcome _ (by decide), finished_files outcome _ (by decide),
    rolledBack_files, rolledBack_files, installedContent_of_backup hsome, if_neg hfails, hbackup,
    htarget]
  constructor
  · simp [hsome]
  · rw [if_neg fun h => absurd h.2.2 (by decide)]

/-- **The files.**  The script comes to its end, and what it leaves at the two paths is given by
what it found there. -/
theorem upgrade_files : ∃ m, upgrade outcome files = some m ∧
    m.files .destExe = installedContent outcome files ∧
      m.files .backupExe = backupContent outcome files := by
  have hbackup : (backedUp outcome (stopped outcome ⟨files, 0, [], []⟩)).files .backupExe =
      backupContent outcome files := backedUp_files outcome _ .backupExe
  have hmoved : (backedUp outcome (stopped outcome ⟨files, 0, [], []⟩)).files .destExe =
      if movesOld outcome files then none else files .destExe := by
    rw [backedUp_files]
    simp [stopped, Command.effect, logged]
  have hwritten : (written outcome (backedUp outcome (stopped outcome ⟨files, 0, [], []⟩))).files
      .destExe = targetContent outcome files := written_destExe outcome _
  have hkept : (written outcome (backedUp outcome (stopped outcome ⟨files, 0, [], []⟩))).files
      .backupExe = backupContent outcome files := (written_backupExe outcome _).trans hbackup
  have hrun : ∀ m, pass outcome buildUpgradeBat ⟨files, 0, [], []⟩ none = (m, none) →
      upgrade outcome files = some m := fun m h => run_eq_some h
  rw [buildUpgradeBat, pass_append, pass_stopService, pass_append, pass_backUpOld, hbackup] at hrun
  cases hnone : backupContent outcome files with
  | none =>
      rw [hnone, Option.isSome_none, if_neg Bool.false_ne_true, pass_append, pass_skip rfl,
        pass_append, pass_skip rfl, pass_append, pass_skip rfl, pass_rollBackFailed] at hrun
      refine ⟨_, hrun _ rfl, ?_, ?_⟩
      · -- had the move taken effect, there would be a backup
        have hmove : ¬movesOld outcome files = true := by
          intro hmove
          rw [backupContent, if_pos hmove] at hnone
          simp [movesOld, hnone] at hmove
        rw [finished_files outcome _ (by decide), installedContent, hnone]
        exact hmoved.trans (if_neg hmove)
      · rw [finished_files outcome _ (by decide)]
        exact hbackup.trans hnone
  | some content =>
      have hsome : (backupContent outcome files).isSome := by rw [hnone]; rfl
      rw [if_pos hsome, pass_append, pass_writeNew, hwritten] at hrun
      rw [← hnone]
      cases htarget : targetContent outcome files with
      | none =>
          rw [htarget, Option.isSome_none, if_neg Bool.false_ne_true, pass_append, pass_skip rfl,
            pass_append, pass_skip rfl, pass_rollBack] at hrun
          refine ⟨_, hrun _ rfl, rollback_files outcome files hsome hkept hwritten ?_⟩
          rw [htarget]
          exact fun h => Bool.false_ne_true h.1
      | some program =>
          rw [htarget, Option.isSome_some, if_pos rfl, pass_append, pass_startAndVerify] at hrun
          cases hrunning : outcome .findRunning with
          | false =>
              rw [hrunning, if_neg Bool.false_ne_true, pass_append, pass_skip rfl,
                pass_rollBack] at hrun
              refine ⟨_, hrun _ rfl, rollback_files outcome files hsome hkept hwritten ?_⟩
              exact fun h => Bool.false_ne_true (hrunning.symm.trans h.2)
          | true =>
              rw [hrunning, if_pos rfl, pass_append, pass_succeed, pass_done] at hrun
              refine ⟨_, hrun _ rfl, ?_, ?_⟩
              · have hchecked : (targetContent outcome files).isSome ∧
                    outcome .findRunning = true := ⟨by rw [htarget]; rfl, hrunning⟩
                rw [finished_files outcome _ (by decide), succeeded_files outcome _ (by decide),
                  started_files, hwritten, installedContent_of_backup hsome, if_pos hchecked]
              · rw [finished_files outcome _ (by decide), succeeded_files outcome _ (by decide),
                  started_files, hkept]

end Files

namespace UpgradeRuns

open Library.Runs Go Downloads Commands

/-! ## Runs -/

/-- What lies at the target and at the backup path. -/
structure Programs where
  installed : Option GoString
  backup : Option GoString
  deriving DecidableEq

/-- An upgrade that an agent is told to make. -/
structure Event where
  process : Process
  env : Env
  url : String
  /-- The text of the script, as it lies at its path. -/
  script : GoString
  outcome : UpgradeStep → Bool

/-- What the agent downloads and starts the script for. -/
def Event.program? (e : Event) : Option GoString :=
  match startUpgrade e.env e.process e.url with
  | .error _ => none
  | .ok download => some download.content

/-- The files the script finds. -/
def Event.files (e : Event) (s : Programs) (program : GoString) : UpgradeFile → Option GoString
  | .destExe => s.installed
  | .backupExe => s.backup
  | .newExe => some program
  | .batPath => some e.script

def step (s : Programs) (e : Event) : Option Programs :=
  -- without a program no agent runs
  if s.installed.isNone then none
  else
    match e.program? with
    | none => some s
    | some program =>
        (upgrade e.outcome (e.files s program)).map fun m =>
          ⟨m.files .destExe, m.files .backupExe⟩

/-- **One upgrade**: it begins where a program is installed, and either nothing is downloaded or the
script leaves what `upgrade_files` says. -/
theorem step_eq_some {s s' : Programs} {e : Event} :
    step s e = some s' ↔ s.installed.isSome ∧
      ((e.program? = none ∧ s' = s) ∨ ∃ program, e.program? = some program ∧
        s' = ⟨installedContent e.outcome (e.files s program),
          backupContent e.outcome (e.files s program)⟩) := by
  unfold step
  cases hinstalled : s.installed with
  | none => simp
  | some current =>
      rw [Option.isNone_some, if_neg Bool.false_ne_true]
      cases hprogram : e.program? with
      | none => simp [eq_comm]
      | some program =>
          obtain ⟨m, hrun, htarget, hbackup⟩ := upgrade_files e.outcome (e.files s program)
          dsimp only
          rw [hrun, Option.map_some, htarget, hbackup]
          simp [eq_comm]

/-! ## No run loses the last program -/

/-- What `downloadUpgrade` lets through. -/
def Complete (program : GoString) : Prop :=
  minExeSizeBytes ≤ program.length ∧ program.take 2 = ofString "MZ"

theorem complete_of_program {e : Event} {program : GoString} (h : e.program? = some program) :
    Complete program := by
  have hdownload : ∀ {fold cfg url tmpPath replies disk} {download : Download},
      downloadUpgrade fold cfg url tmpPath replies disk = .ok download →
        Complete download.content := by
    intro fold cfg url tmpPath replies disk download h
    unfold downloadUpgrade at h
    split at h
    · cases h
    · split at h
      · cases h
      · split_ifs at h with _ _ _ _ hlength hexecutable
        cases h
        refine ⟨Nat.le_of_not_lt hlength, ?_⟩
        rw [Bool.not_eq_false, isPEExecutable, Bool.and_eq_true] at hexecutable
        exact of_decide_eq_true hexecutable.2
  unfold Event.program? startUpgrade at h
  split at h
  · cases h
  · rename_i download hstart
    cases h
    split at hstart
    · cases hstart
    · rename_i downloaded hdownloaded
      split at hstart
      all_goals cases hstart
      exact hdownload hdownloaded

/-- The program was there at first, or one of the upgrades has downloaded it. -/
def Known (start : Programs) (events : List Event) (program : GoString) : Prop :=
  start.installed = some program ∨ start.backup = some program ∨
    ∃ e ∈ events, e.program? = some program ∧ Complete program

/-- The old program has been moved away, and neither the new one nor the old one is copied to its
place. -/
def Removes (e : Event) : Prop :=
  e.program?.isSome ∧ e.outcome .moveOld = true ∧ e.outcome .copyNew = false ∧
    e.outcome .restoreOld = false

structure Kept (start : Programs) (events : List Event) (s : Programs) : Prop where
  /-- A program is at one of the paths. -/
  present : s.installed.isSome ∨ s.backup.isSome
  missing : s.installed = none ↔ ∃ e ∈ events.getLast?, Removes e
  installed : ∀ program, s.installed = some program → Known start events program
  backup : ∀ program, s.backup = some program → Known start events program

section Steps

variable {start s s' : Programs} {events : List Event} {e : Event}

theorem Known.before {program : GoString} (h : Known start events program) :
    Known start (events ++ [e]) program := by
  rcases h with h | h | ⟨e', he', h⟩
  · exact .inl h
  · exact .inr (.inl h)
  · exact .inr (.inr ⟨e', List.mem_append_left _ he', h⟩)

theorem Known.downloaded {program : GoString} (h : e.program? = some program) :
    Known start (events ++ [e]) program :=
  .inr (.inr ⟨e, List.mem_append_right _ List.mem_cons_self, h, complete_of_program h⟩)

theorem kept_start (h : start.installed.isSome) : Kept start [] start where
  present := .inl h
  missing := by
    refine iff_of_false (Option.isSome_iff_ne_none.mp h) ?_
    rintro ⟨e, he, -⟩
    cases he
  installed _ hprogram := .inl hprogram
  backup _ hprogram := .inr (.inl hprogram)

theorem kept_step (h : Kept start events s) (hstep : step s e = some s') :
    Kept start (events ++ [e]) s' := by
  have hlast : (∃ e' ∈ (events ++ [e]).getLast?, Removes e') ↔ Removes e := by
    rw [List.getLast?_concat]
    simp
  rcases step_eq_some.mp hstep with ⟨hinstalled, ⟨hnone, rfl⟩ | ⟨program, hprogram, rfl⟩⟩
  · refine ⟨h.present, ?_, fun p hp => (h.installed p hp).before,
      fun p hp => (h.backup p hp).before⟩
    rw [hlast]
    refine iff_of_false (Option.isSome_iff_ne_none.mp hinstalled) fun hremoves => ?_
    rw [Removes, hnone] at hremoves
    exact Bool.false_ne_true hremoves.1
  · refine ⟨?_, ?_, ?_, ?_⟩
    · -- without a backup the installed program has stayed where it was
      rw [or_iff_not_imp_right]
      intro hbackup
      show (installedContent e.outcome (e.files s program)).isSome
      rw [installedContent,
        if_pos (Option.isNone_iff_eq_none.mpr (Option.not_isSome_iff_eq_none.mp hbackup))]
      exact hinstalled
    · rw [hlast, Removes, hprogram, installedContent_eq_none_iff hinstalled rfl,
        and_iff_right Option.isSome_some]
    · intro p hp
      rcases installedContent_from hp with hfound | hfound | hfound
      · exact (h.installed p hfound).before
      · exact (h.backup p hfound).before
      · exact Known.downloaded (hprogram.trans hfound)
    · intro p hp
      rcases backupContent_from hp with hfound | hfound
      · exact (h.installed p hfound).before
      · exact (h.backup p hfound).before

end Steps

/-- **Kept programs.**  After every sequence of upgrades, however their commands end, a program lies
at the target or at the backup path, and nothing lies there but what was there at first or was
downloaded in full; the target is empty exactly when the last upgrade has removed the program. -/
theorem program_kept {start s : Programs} {events : List Event}
    (hstart : start.installed.isSome) (hrun : exec step start events = some s) :
    Kept start events s := by
  induction events using List.reverseRecOn generalizing s with
  | nil =>
      cases hrun
      exact kept_start hstart
  | append_singleton events e ih =>
      rw [exec_append] at hrun
      obtain ⟨before, hbefore, hlast⟩ := Option.bind_eq_some_iff.mp hrun
      have hstep : step before e = some s := by
        unfold exec at hlast
        split at hlast
        · cases hlast
        · rename_i after hafter
          rw [hafter]
          exact hlast
      exact kept_step (ih hbefore) hstep

/-! ### An upgrade that removes the program -/

theorem Event.program?_of_start {e : Event} {download : Download}
    (hdownload : downloadUpgrade e.env.fold e.process.cfg e.url e.env.tempExe e.env.replies
      e.env.disk = .ok download)
    (hstarts : e.env.executable = none ∧ e.env.writeUpgradeBat = none ∧
      e.env.startUpgradeBat = none) : e.program? = some download.content := by
  obtain ⟨hexecutable, hwrite, hstart⟩ := hstarts
  unfold Event.program? startUpgrade
  rw [hdownload]
  dsimp only
  rw [hexecutable, hwrite, hstart]

def exampleUpgrade (outcome : UpgradeStep → Bool) : Event where
  process := exampleProcess
  env := { exampleEnv with replies := [some ⟨200, [], newProgram, true⟩] }
  url := "http://10.0.0.1:8080/api/upgrade/latest-download"
  script := ofString "@echo off"
  outcome := outcome

theorem exampleUpgrade_program (outcome : UpgradeStep → Bool) :
    (exampleUpgrade outcome).program? = some newProgram := by
  have hparse : parse (ofString "http://10.0.0.1:8080/api/upgrade/latest-download") =
      some ⟨ofString "http", ofString "10.0.0.1:8080"⟩ := by
    rw [ofString_ofList, ofString_ofList, ofString_ofList]
    rfl
  have hvalid := validate_of_fromServer hparse rfl fromServer_server
  have hget : httpGet (ofString "http://10.0.0.1:8080/api/upgrade/latest-download")
      [some ⟨200, [], newProgram, true⟩] =
        .ok (ofString "10.0.0.1:8080", ⟨200, [], newProgram, true⟩) := by
    rw [httpGet, hparse]
    exact clientDo_direct sendError_server rfl
  have hlength : ¬newProgram.length < minExeSizeBytes := by
    rw [newProgram, List.length_append, List.length_replicate]
    omega
  have hexecutable : isPEExecutable newProgram workingDisk = true := by
    have htake : newProgram.take 2 = ofString "MZ" := List.take_left' (by decide)
    rw [isPEExecutable, htake]
    rfl
  have hstored : downloadUpgrade id installed "http://10.0.0.1:8080/api/upgrade/latest-download"
      exampleEnv.tempExe [some ⟨200, [], newProgram, true⟩] workingDisk =
        .ok ⟨exampleEnv.tempExe, newProgram, ofString "10.0.0.1:8080"⟩ :=
    downloadUpgrade_stored hvalid hget rfl rfl ⟨rfl, rfl, rfl⟩ hlength hexecutable
  exact Event.program?_of_start (e := exampleUpgrade outcome) hstored ⟨rfl, rfl, rfl⟩

/-- No file can be copied. -/
def noCopies (command : UpgradeStep) : Bool := command ≠ .copyNew && command ≠ .restoreOld

theorem removed_kept :
    Kept ⟨some (ofString "MZ 1"), none⟩ [exampleUpgrade noCopies]
      ⟨none, some (ofString "MZ 1")⟩ := by
  refine program_kept rfl ?_
  have hstep : step ⟨some (ofString "MZ 1"), none⟩ (exampleUpgrade noCopies) =
      some ⟨none, some (ofString "MZ 1")⟩ := by
    refine step_eq_some.mpr ⟨rfl, .inr ⟨newProgram, exampleUpgrade_program _, ?_⟩⟩
    rw [(installedContent_eq_none_iff rfl rfl).mpr ⟨rfl, rfl, rfl⟩]
    rfl
  rw [exec, hstep]
  rfl

/-! ## A register of versions -/

/-- What the two paths are for: the version that runs, and the one before it. -/
structure Versions where
  current : GoString
  previous : Option GoString

/-- A version is tried: it stays if it runs. -/
def Versions.attempt (v : Versions) (program : GoString) (runs : Bool) : Versions where
  current := if runs then program else v.current
  previous := some v.current

def Versions.follow (v : Versions) (e : Event) : Versions :=
  match e.program? with
  | none => v
  | some program => v.attempt program (e.outcome .findRunning)

/-- Where the versions lie. -/
def Versions.programs (v : Versions) : Programs := ⟨some v.current, v.previous⟩

/-- The files are moved and copied as the script says. -/
def FilesObey (outcome : UpgradeStep → Bool) : Prop :=
  outcome .moveOld = true ∧ outcome .copyNew = true ∧ outcome .restoreOld = true

theorem step_versions (v : Versions) {e : Event} (hobey : FilesObey e.outcome) :
    step v.programs e = some (v.follow e).programs := by
  rw [step_eq_some]
  refine ⟨rfl, ?_⟩
  unfold Versions.follow
  cases hprogram : e.program? with
  | none => exact .inl ⟨rfl, rfl⟩
  | some program =>
      refine .inr ⟨program, rfl, ?_⟩
      have hbackup : backupContent e.outcome (e.files v.programs program) = some v.current := by
        rw [backupContent, if_pos]
        · rfl
        · rw [movesOld, hobey.1]
          rfl
      have htarget : targetContent e.outcome (e.files v.programs program) = some program := by
        rw [targetContent, if_pos]
        · rfl
        · rw [copiesNew, hobey.2.1]
          rfl
      have hinstalled : installedContent e.outcome (e.files v.programs program) =
          some (if e.outcome .findRunning then program else v.current) := by
        rw [installedContent, hbackup, htarget, hobey.2.2]
        cases e.outcome .findRunning <;> rfl
      rw [hinstalled, hbackup]
      rfl

/-- **Versions.**  Over every sequence of upgrades in which files are moved and copied as the script
says, the target path holds the last version that was found running and the backup path the one
before the last upgrade, whether the services start and stop and the files are deleted or not. -/
theorem versions_follow (v : Versions) {events : List Event}
    (hobey : ∀ e ∈ events, FilesObey e.outcome) :
    exec step v.programs events = some (events.foldl Versions.follow v).programs := by
  induction events generalizing v with
  | nil => rfl
  | cons e events ih =>
      rw [List.forall_mem_cons] at hobey
      rw [exec, step_versions v hobey.1]
      exact ih (v.follow e) hobey.2

/-- Nothing can be deleted, and the service is only found running. -/
def noDeletions (command : UpgradeStep) : Bool :=
  command = .moveOld || command = .copyNew || command = .restoreOld || command = .findRunning

theorem upgrade_followed :
    exec step (Versions.programs ⟨ofString "MZ 1", some (ofString "MZ 0")⟩)
      [exampleUpgrade noDeletions] = some ⟨some newProgram, some (ofString "MZ 1")⟩ := by
  have hobey : ∀ e ∈ [exampleUpgrade noDeletions], FilesObey e.outcome :=
    List.forall_mem_singleton.mpr ⟨rfl, rfl, rfl⟩
  have hruns : (exampleUpgrade noDeletions).outcome .findRunning = true := rfl
  rw [versions_follow _ hobey, List.foldl_cons, List.foldl_nil, Versions.follow,
    exampleUpgrade_program]
  dsimp only
  rw [hruns, Versions.attempt, Versions.programs, if_pos rfl]

end UpgradeRuns

end LanAgent
