import LanAgent.FilePush
import LanAgent.Go.FilePath

/-!
# Where a pushed file goes — `safeJoinUnder` of `agent/netutil.go` on Windows

The directory and the file name of a push may be any strings.  `pushTarget_within` shows that the
path that is created stays in `filesDir`, whatever separators, dots and volumes the two have.
-/

namespace LanAgent.PushedPaths

open Go Go.FilePath Library.Components Downloads FilePush

/-- `path/filepath` as the agent has it. -/
def windows : FilePath where
  clean name := String.ofList (clean name.toList)
  isAbs name := isAbs name.toList
  join dir name := String.ofList (join dir.toList name.toList)
  separator := "\\"

/-- The directory, or a path behind it through components of which none is `..`. -/
def Within (dir path : String) : Prop := ∃ names : List Name,
  path.toList = dir.toList ++ below '\\' names ∧
    ∀ name ∈ names, name ≠ [] ∧ Unbroken isPathSeparator name ∧ name ≠ dotdot

/-- The test of a prefix that the checks make. -/
def Under (base path : String) : Prop :=
  path = base ∨ hasPrefix path (base ++ windows.separator) = true

/-- The check turns the other paths away. -/
theorem not_outside_iff {base path : String} :
    ¬(path ≠ base ∧ hasPrefix path (base ++ windows.separator) = false) ↔ Under base path := by
  rw [Under, not_and_or, not_not, Bool.not_eq_false]

theorem under_iff {base path : String} :
    Under base path ↔ path = base ∨ ∃ rest, path.toList = base.toList ++ '\\' :: rest := by
  unfold Under hasPrefix
  rw [List.isPrefixOf_iff_prefix]
  apply or_congr_right
  constructor
  · rintro ⟨rest, heq⟩
    exact ⟨rest, by simp [← heq, windows]⟩
  · rintro ⟨rest, heq⟩
    exact ⟨rest, by simp [heq, windows]⟩

theorem Under.trans {base dir path : String} (hdir : Under base dir) (h : Under dir path) :
    Under base path := by
  rw [under_iff] at *
  rcases hdir with rfl | ⟨front, hfront⟩
  · exact h
  · rcases h with rfl | ⟨rest, hrest⟩
    · exact .inr ⟨front, hfront⟩
    · exact .inr ⟨front ++ '\\' :: rest, by rw [hrest, hfront, List.append_assoc]; rfl⟩

/-! ## The directory of the files -/

def fileNames : List Name :=
  ["Program Files".toList, "LanAgent".toList, "data".toList, "files".toList]

theorem filesDir_toList : filesDir.toList = 'C' :: ':' :: below '\\' fileNames := by decide

theorem clean_filesDir : windows.clean filesDir = filesDir := by decide

theorem fileNames_unbroken : ∀ name ∈ fileNames, Unbroken isPathSeparator name := by
  simp [fileNames, Unbroken, isPathSeparator]

/-- **A cleaned path** that begins with the directory is in it, and is left as it is. -/
theorem within_of_under {path : String} {text : List Char} (hclean : path.toList = clean text)
    (h : Under filesDir path) : Within filesDir path ∧ windows.clean path = path := by
  -- in either case the path goes on from the root of the drive
  have hbelow : ∃ rest, path.toList = 'C' :: ':' :: '\\' :: rest ∧
      (path = filesDir ∨
        ∃ behind, '\\' :: rest = below '\\' fileNames ++ '\\' :: behind) := by
    rcases under_iff.mp h with rfl | ⟨behind, heq⟩
    · exact ⟨_, filesDir_toList, .inl rfl⟩
    · refine ⟨_, heq.trans (congrArg (· ++ '\\' :: behind) filesDir_toList), .inr ⟨behind, rfl⟩⟩
  obtain ⟨rest, hdrive, hcases⟩ := hbelow
  obtain ⟨names, hnames, rfl⟩ := clean_drive rfl (by decide) (hclean.symm.trans hdrive)
  have hsame : windows.clean path = path := by
    apply String.toList_inj.mp
    rw [windows, String.toList_ofList, hdrive]
    exact clean_clean_drive rfl (by decide) hnames
  refine ⟨?_, hsame⟩
  rcases hcases with rfl | ⟨behind, heq⟩
  · exact ⟨[], by simp [below], fun _ h => nomatch h⟩
  · have hne : names ≠ [] := by
      rintro rfl
      exact absurd (congrArg List.length heq) (by simp [below, fileNames])
    rw [cons_intercalate hne] at heq hdrive
    have happend := eq_append_of_below isPathSeparator_backslash (fun name h => (hnames name h).2)
      fileNames_unbroken heq
    refine ⟨behind.splitOnP isPathSeparator, ?_, fun name hname => ?_⟩
    · rw [hdrive, filesDir_toList, happend]
      simp [below]
    · obtain ⟨hplain, hunbroken⟩ := hnames name (happend ▸ List.mem_append_right _ hname)
      exact ⟨hplain.1, hunbroken, hplain.2.2⟩

/-! ## The checks -/

theorem join_clean (dir name : List Char) :
    join dir name = [] ∨ ∃ text, join dir name = clean text := by
  unfold join
  split
  · split
    · exact .inl rfl
    · exact .inr ⟨_, rfl⟩
  · split
    · exact .inr ⟨_, rfl⟩
    · split
      · exact .inr ⟨_, rfl⟩
      · exact .inr ⟨_, rfl⟩

theorem safeJoinUnder_ok {dir name final : String}
    (h : safeJoinUnder windows dir name = .ok final) :
    final = windows.join dir (windows.clean name) ∧ Under (windows.clean dir) final := by
  unfold safeJoinUnder at h
  split at h
  · cases h
  split at h
  · cases h
  dsimp only at h
  split at h
  · cases h
  split at h
  · cases h
  · rename_i hunder
    cases h
    exact ⟨rfl, not_outside_iff.mp hunder⟩

theorem pushTarget_ok {fold : Nat → Nat} {cfg : AgentConfig} {params : PushParams}
    {destPath : String} (h : pushTarget fold windows cfg params = .ok destPath) :
    Under filesDir (windows.clean params.dir) ∧
      safeJoinUnder windows params.dir params.filename = .ok destPath := by
  unfold pushTarget at h
  split at h
  · cases h
  split at h
  · cases h
  dsimp only at h
  rw [clean_filesDir] at h
  split at h
  · cases h
  · rename_i hdir
    split at h
    · cases h
    · rename_i hjoin
      cases h
      exact ⟨not_outside_iff.mp hdir, hjoin⟩

/-- **File distribution** cannot leave its directory: what is created for a push, the directories in
front of the file and the file itself, is in `filesDir`. -/
theorem pushTarget_within (fold : Nat → Nat) (cfg : AgentConfig) (params : PushParams)
    (destPath : String) (h : pushTarget fold windows cfg params = .ok destPath) :
    Within filesDir (windows.clean params.dir) ∧ Within filesDir (windows.clean destPath) := by
  obtain ⟨hdir, hjoin⟩ := pushTarget_ok h
  obtain ⟨hfinal, hunder⟩ := safeJoinUnder_ok hjoin
  have hfiles := hdir.trans hunder
  refine ⟨(within_of_under (String.toList_ofList) hdir).1, ?_⟩
  rcases join_clean params.dir.toList (windows.clean params.filename).toList with
    hnil | ⟨text, hclean⟩
  · -- there is no path, and nothing is in front of it
    have hempty : destPath.toList = [] := by rw [hfinal, windows, String.toList_ofList, ← hnil]; rfl
    rcases under_iff.mp hfiles with rfl | ⟨rest, heq⟩
    · cases filesDir_toList.symm.trans hempty
    · rw [hempty, filesDir_toList] at heq
      cases heq
  · have htext : destPath.toList = clean text := by
      rw [hfinal, ← hclean, windows, String.toList_ofList]
    obtain ⟨hwithin, hsame⟩ := within_of_under htext hfiles
    rw [hsame]
    exact hwithin

/-- Both separators, dots and a `..` that is taken back. -/
def nested : PushParams where
  url := "http://10.0.0.1:8080/api/upgrade/file/a.exe"
  filename := "tools//./x\\..\\a.exe"
  destDir := "C:/Program Files/LanAgent\\data\\.\\files\\sub/"

theorem clean_nested : windows.clean nested.dir = filesDir ++ "\\sub" := by
  apply String.toList_inj.mp
  rw [String.toList_append, filesDir_toList, fileNames]
  show (String.ofList (clean "C:/Program Files/LanAgent\\data\\.\\files\\sub/".toList)).toList = _
  rw [String.toList_ofList, String.toList_ofList, String.toList_ofList, String.toList_ofList,
    String.toList_ofList, String.toList_ofList, String.toList_ofList]
  rfl

theorem clean_filename_nested : windows.clean nested.filename = "tools\\a.exe" := by
  apply String.toList_inj.mp
  show (String.ofList (clean "tools//./x\\..\\a.exe".toList)).toList = _
  rw [String.toList_ofList, String.toList_ofList, String.toList_ofList]
  rfl

theorem nested_within :
    pushTarget id windows installed nested = .ok (filesDir ++ "\\sub\\tools\\a.exe") ∧
      Within filesDir (windows.clean (filesDir ++ "\\sub\\tools\\a.exe")) := by
  have hvalid : ServerUrl.validateServerUrl id installed nested.url = .ok () :=
    validate_of_fromServer parse_pushed rfl fromServer_server
  have hjoin : windows.join nested.dir "tools\\a.exe" = filesDir ++ "\\sub\\tools\\a.exe" := by
    apply String.toList_inj.mp
    rw [String.toList_append, filesDir_toList, fileNames]
    show (String.ofList
      (join "C:/Program Files/LanAgent\\data\\.\\files\\sub/".toList _)).toList = _
    rw [String.toList_ofList, String.toList_ofList, String.toList_ofList, String.toList_ofList,
      String.toList_ofList, String.toList_ofList, String.toList_ofList, String.toList_ofList]
    rfl
  have hdir : Under filesDir (filesDir ++ "\\sub") :=
    under_iff.mpr (.inr ⟨"sub".toList, String.toList_append⟩)
  have hfile : Under (filesDir ++ "\\sub") (filesDir ++ "\\sub\\tools\\a.exe") :=
    under_iff.mpr (.inr ⟨"tools\\a.exe".toList, by
      rw [String.toList_append, String.toList_append, List.append_assoc]
      rfl⟩)
  have hsafe : safeJoinUnder windows nested.dir nested.filename =
      .ok (filesDir ++ "\\sub\\tools\\a.exe") := by
    refine safeJoinUnder_joined (by decide) (by decide) ?_ ?_ ?_
    · rw [clean_filename_nested]
      decide
    · rw [clean_filename_nested, hjoin]
    · rw [clean_nested]
      exact not_outside_iff.mpr hfile
  have h : pushTarget id windows installed nested =
      .ok (filesDir ++ "\\sub\\tools\\a.exe") := by
    refine pushTarget_joined (by decide) hvalid ?_ hsafe
    rw [clean_filesDir, clean_nested]
    exact not_outside_iff.mpr hdir
  exact ⟨h, (pushTarget_within id installed nested _ h).2⟩

end LanAgent.PushedPaths
