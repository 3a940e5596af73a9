import LanAgent.Library.Runs
import LanAgent.Library.Table
import LanAgent.StaticFiles
import Mathlib.Data.List.Sort
import Mathlib.Data.List.TakeWhile

/-!
# Uploads — `upload_agent_exe`, `upload_file` and `_cleanup_uploads` of `api/upgrade_routes.py`

The upload directory keeps the newest files by the times of their modification.  `retention` says
what is in it after any run of successful uploads, and what the download finds.
-/

namespace LanAgent.Uploads

open Library Library.Runs Library.Components Python.PosixPath StaticFiles

def maxUploadBytes : Nat := 500 * 1024 * 1024

def uploadKeep : Nat := 20

/-! ## The directory -/

structure StoredFile where
  name : List Char
  content : Bytes
  modifiedAt : DateTime
  deriving DecidableEq

abbrev UploadDir := Table StoredFile StoredFile.name

/-- What the file system decides: the order of `os.listdir` and the names it takes. -/
structure Storage where
  listdir : List StoredFile → List StoredFile
  perm : ∀ files, (listdir files).Perm files
  accepts : List Char → Bool

def newerFirst (a b : StoredFile) : Bool := b.modifiedAt ≤ a.modifiedAt

section Uploads

variable (storage : Storage)

/-- `_cleanup_uploads`; the sort keeps the order of equal times, also in reverse. -/
def cleanupUploads (keep : Nat) (dir : UploadDir) : UploadDir :=
  let entries := (storage.listdir dir.rows).mergeSort newerFirst
  ((entries.drop keep).map StoredFile.name).foldl Table.delete dir

/-- `open(save_path, "wb")` and the write; a NUL raises `ValueError`, other names `OSError`. -/
def writeFile (dir : UploadDir) (file : StoredFile) : Except HttpError UploadDir :=
  if '\x00' ∈ file.name ∨ storage.accepts file.name = false then .error internalServerError
  else .ok (dir.put file)

/-! ## The routes -/

def isPe (data : Bytes) : Bool :=
  if data.length < 0x40 ∨ data.take 2 ≠ ['M'.toUInt8, 'Z'.toUInt8] then false
  else
    let offset := ((data.drop 0x3c).take 4).foldr (fun b n => b.toNat + 256 * n) 0
    offset + 4 ≤ data.length && (data.drop offset).take 4 = ['P'.toUInt8, 'E'.toUInt8, 0, 0]

/-- `filename.lower().endswith(".exe")`: only the ASCII letters have these for lower case. -/
def endsWithExe (filename : List Char) : Bool :=
  ".exe".toList.isSuffixOf (filename.map Char.toLower)

/-- `uuid.uuid4().hex[:8]`. -/
def hexPrefix (uuid : Uuid) : List Char := uuid.val.toList.take 8

def agentName (uuid : Uuid) : List Char := "agent-".toList ++ hexPrefix uuid ++ ".exe".toList

/-- `filename.replace("/", "_").replace("\\", "_")`. -/
def safeName (filename : List Char) : List Char :=
  (filename.map (fun c => if c = '/' then '_' else c)).map (fun c => if c = '\\' then '_' else c)

def saveName (uuid : Uuid) (filename : List Char) : List Char :=
  "file-".toList ++ hexPrefix uuid ++ '-' :: safeName filename

structure UploadAnswer where
  filename : List Char
  originalName : Option (List Char)
  size : Nat
  deriving DecidableEq, Repr

def tooLarge : HttpError := ⟨413, "文件超过 500MB 上限"⟩

def uploadAgentExe (dir : UploadDir) (filename : List Char) (content : Bytes) (uuid : Uuid)
    (now : DateTime) : UploadDir × Except HttpError UploadAnswer :=
  if endsWithExe filename = false then (dir, .error ⟨400, "仅支持 .exe 文件"⟩)
  else if maxUploadBytes < content.length then (dir, .error tooLarge)
  else if isPe content = false then (dir, .error ⟨400, "不是有效的 Windows PE 可执行文件"⟩)
  else
    match writeFile storage dir ⟨agentName uuid, content, now⟩ with
    | .error e => (dir, .error e)
    | .ok dir => (cleanupUploads storage uploadKeep dir,
        .ok ⟨agentName uuid, none, content.length⟩)

def uploadFile (dir : UploadDir) (filename : List Char) (content : Bytes) (uuid : Uuid)
    (now : DateTime) : UploadDir × Except HttpError UploadAnswer :=
  if maxUploadBytes < content.length then (dir, .error tooLarge)
  else
    match writeFile storage dir ⟨saveName uuid filename, content, now⟩ with
    | .error e => (dir, .error e)
    | .ok dir => (cleanupUploads storage uploadKeep dir,
        .ok ⟨saveName uuid filename, some (safeName filename), content.length⟩)

/-! ## Runs -/

inductive Endpoint where
  | upload
  | fileUpload

/-- One call, with the name it draws and the time it writes at. -/
structure Call where
  endpoint : Endpoint
  filename : List Char
  content : Bytes
  uuid : Uuid
  now : DateTime

def Call.name (call : Call) : List Char :=
  match call.endpoint with
  | .upload => agentName call.uuid
  | .fileUpload => saveName call.uuid call.filename

def Call.file (call : Call) : StoredFile := ⟨call.name, call.content, call.now⟩

def answer (dir : UploadDir) (call : Call) : UploadDir × Except HttpError UploadAnswer :=
  match call.endpoint with
  | .upload => uploadAgentExe storage dir call.filename call.content call.uuid call.now
  | .fileUpload => uploadFile storage dir call.filename call.content call.uuid call.now

/-- The directory, and the answers given, the latest last. -/
structure State where
  dir : UploadDir
  answers : List UploadAnswer

def step (s : State) (call : Call) : Option State :=
  match answer storage s.dir call with
  | (dir, .ok given) => some ⟨dir, s.answers ++ [given]⟩
  | (_, .error _) => none

def start : State := ⟨.empty, []⟩

end Uploads

/-- The last uploads, as many as are kept. -/
def latest (calls : List Call) : List Call := calls.drop (calls.length - uploadKeep)

def older (calls : List Call) : List Call := calls.take (calls.length - uploadKeep)

/-- The upload directory in a file system. -/
structure Shown (files : Node) (uploadDir : List Char) (dir : UploadDir) : Prop where
  absolute : isabs uploadDir = true
  entries : ∃ root, realpath uploadDir = some root ∧
    files.lookup (names root) = some (.dir (dir.rows.map (fun f => (f.name, .file f.content))))

/-! ## The clean-up -/

section CleanUp

variable {storage : Storage} {dir : UploadDir}

theorem pairwise_newerFirst (files : List StoredFile) :
    (files.mergeSort newerFirst).Pairwise (fun a b => newerFirst a b = true) := by
  refine List.pairwise_mergeSort ?_ ?_ files
  · intro a b c hab hbc
    exact decide_eq_true ((of_decide_eq_true hbc).trans (of_decide_eq_true hab))
  · intro a b
    rw [Bool.or_eq_true]
    exact (le_total b.modifiedAt a.modifiedAt).imp decide_eq_true decide_eq_true

/-- Files with rising times are sorted to the newest first. -/
theorem sort_listdir {files : List StoredFile}
    (h : files.Pairwise (fun a b => a.modifiedAt < b.modifiedAt)) :
    (storage.listdir files).mergeSort newerFirst = files.reverse := by
  have htimes : (files.map StoredFile.modifiedAt).Nodup := List.pairwise_map.mpr (h.imp ne_of_lt)
  have hperm : ((storage.listdir files).mergeSort newerFirst).Perm files.reverse :=
    (List.mergeSort_perm _ _).trans ((storage.perm files).trans files.reverse_perm.symm)
  refine List.Perm.eq_of_pairwise ?_ (pairwise_newerFirst _) ?_ hperm
  · intro a b ha hb hab hba
    exact List.inj_on_of_nodup_map htimes (List.mem_reverse.mp (hperm.mem_iff.mp ha))
      (List.mem_reverse.mp hb) (le_antisymm (of_decide_eq_true hba) (of_decide_eq_true hab))
  · rw [List.pairwise_reverse]
    exact h.imp fun hlt => decide_eq_true hlt.le

/-- **The clean-up** leaves the last files. -/
theorem rows_cleanupUploads (keep : Nat)
    (h : dir.rows.Pairwise (fun a b => a.modifiedAt < b.modifiedAt)) :
    (cleanupUploads storage keep dir).rows = dir.rows.drop (dir.rows.length - keep) := by
  have hnodup := dir.nodup
  rw [← List.take_append_drop (dir.rows.length - keep) dir.rows] at hnodup
  have hkept := Table.filter_not_mem_keys hnodup
  rw [List.take_append_drop] at hkept
  unfold cleanupUploads
  dsimp only
  rw [sort_listdir h, Table.rows_foldl_delete, ← hkept]
  apply List.filter_congr
  intro file _
  rw [decide_eq_decide, List.drop_reverse, List.map_reverse, List.mem_reverse]

end CleanUp

/-! ## The names -/

theorem ne_slash_of_mem_hexPrefix {uuid : Uuid} {c : Char} (hc : c ∈ hexPrefix uuid) : c ≠ '/' := by
  rintro rfl
  exact absurd (Uuid.of_mem_toList (List.mem_of_mem_take hc)) (by decide)

theorem ne_slash_of_mem_safeName {filename : List Char} {c : Char} (hc : c ∈ safeName filename) :
    c ≠ '/' := by
  unfold safeName at hc
  obtain ⟨d, hd, rfl⟩ := List.mem_map.mp hc
  obtain ⟨e, -, rfl⟩ := List.mem_map.mp hd
  by_cases he : e = '/'
  · simp [he]
  · by_cases hback : e = '\\'
    · simp [hback]
    · simp [he, hback]

/-- Whatever the name of the uploaded file, no separator is in the name it is stored under. -/
theorem unbroken_name (call : Call) : Unbroken isSep call.name := by
  intro c hc
  have hne : c ≠ '/' := by
    unfold Call.name at hc
    split at hc
    · rcases List.mem_append.mp hc with hstart | hexe
      · rcases List.mem_append.mp hstart with hagent | hhex
        · rintro rfl
          exact absurd hagent (by decide)
        · exact ne_slash_of_mem_hexPrefix hhex
      · rintro rfl
        exact absurd hexe (by decide)
    · rcases List.mem_append.mp hc with hstart | hsafe
      · rcases List.mem_append.mp hstart with hfile | hhex
        · rintro rfl
          exact absurd hfile (by decide)
        · exact ne_slash_of_mem_hexPrefix hhex
      · rcases List.mem_cons.mp hsafe with rfl | hsafe
        · decide
        · exact ne_slash_of_mem_safeName hsafe
  exact decide_eq_false hne

theorem plain_name (call : Call) : Plain call.name := by
  have hlength : 2 < call.name.length := by
    unfold Call.name
    split
    · have hexe : ".exe".toList.length = 4 := by decide
      show 2 < ("agent-".toList ++ hexPrefix call.uuid ++ ".exe".toList).length
      rw [List.length_append, hexe]
      omega
    · have hfile : "file-".toList.length = 5 := by decide
      show 2 < ("file-".toList ++ hexPrefix call.uuid ++ '-' :: safeName call.filename).length
      rw [List.length_append, List.length_append, hfile]
      omega
  refine ⟨fun h => ?_, fun h => ?_, fun h => ?_⟩
  all_goals
    rw [h] at hlength
    exact absurd hlength (by decide)

/-! ## One call -/

section Step

variable {storage : Storage}

theorem writeFile_eq_ok {dir dir' : UploadDir} {file : StoredFile}
    (h : writeFile storage dir file = .ok dir') : '\x00' ∉ file.name ∧ dir' = dir.put file := by
  unfold writeFile at h
  split at h
  · cases h
  · rename_i hnames
    cases h
    exact ⟨fun hnul => hnames (.inl hnul), rfl⟩

/-- What both routes do with a file that has passed their checks. -/
theorem written_eq_ok {dir dir' : UploadDir} {file : StoredFile} {answer given : UploadAnswer}
    (h : (match writeFile storage dir file with
      | .error e => (dir, .error e)
      | .ok dir => (cleanupUploads storage uploadKeep dir, .ok answer)) =
        ((dir', .ok given) : UploadDir × Except HttpError UploadAnswer)) :
    '\x00' ∉ file.name ∧ dir' = cleanupUploads storage uploadKeep (dir.put file) ∧
      given = answer := by
  split at h
  · cases h
  · rename_i written hwritten
    cases h
    obtain ⟨hnul, rfl⟩ := writeFile_eq_ok hwritten
    exact ⟨hnul, rfl, rfl⟩

/-- **A successful call** writes its file, cleans up and returns the name. -/
theorem answer_eq_ok {dir dir' : UploadDir} {call : Call} {given : UploadAnswer}
    (h : answer storage dir call = (dir', .ok given)) :
    '\x00' ∉ call.name ∧ dir' = cleanupUploads storage uploadKeep (dir.put call.file) ∧
      given.filename = call.name := by
  unfold answer at h
  unfold Call.file Call.name
  split at h
  · unfold uploadAgentExe at h
    split at h
    · cases h
    split at h
    · cases h
    split at h
    · cases h
    obtain ⟨hnul, hdir, rfl⟩ := written_eq_ok h
    exact ⟨hnul, hdir, rfl⟩
  · unfold uploadFile at h
    split at h
    · cases h
    obtain ⟨hnul, hdir, rfl⟩ := written_eq_ok h
    exact ⟨hnul, hdir, rfl⟩

structure Retains (calls : List Call) (s : State) : Prop where
  rows : s.dir.rows = (latest calls).map Call.file
  answers : s.answers.map UploadAnswer.filename = calls.map Call.name
  names : ∀ call ∈ calls, '\x00' ∉ call.name

theorem latest_concat (calls : List Call) (call : Call) :
    latest (calls ++ [call]) =
      (latest calls ++ [call]).drop ((latest calls ++ [call]).length - uploadKeep) := by
  have hlatest : latest calls ++ [call] =
      (calls ++ [call]).drop (calls.length - uploadKeep) :=
    (List.drop_append_of_le_length (Nat.sub_le _ _)).symm
  rw [hlatest, List.drop_drop, latest, List.length_drop]
  congr 1
  simp only [List.length_append, List.length_singleton]
  omega

theorem step_retains {calls : List Call} {call : Call} {s s' : State} (hinv : Retains calls s)
    (h : step storage s call = some s')
    (htimes : (calls ++ [call]).Pairwise (fun a b => a.now < b.now))
    (hnames : ((calls ++ [call]).map Call.name).Nodup) : Retains (calls ++ [call]) s' := by
  unfold step at h
  split at h
  · rename_i dir given hanswer
    cases h
    obtain ⟨hnul, rfl, hgiven⟩ := answer_eq_ok hanswer
    have hsub : (latest calls ++ [call]).Sublist (calls ++ [call]) :=
      (List.drop_sublist _ _).append_right _
    have hput : (s.dir.put call.file).rows = (latest calls ++ [call]).map Call.file := by
      have hfresh : call.file.name ∉ s.dir.rows.map StoredFile.name := by
        rw [hinv.rows, List.map_map]
        have hnodup := hnames.sublist (hsub.map Call.name)
        rw [List.map_append, List.nodup_append'] at hnodup
        exact fun hmem => hnodup.2.2 hmem (List.mem_singleton_self _)
      rw [Table.rows_put hfresh, hinv.rows, List.map_append]
      rfl
    have hrising :
        (s.dir.put call.file).rows.Pairwise (fun a b => a.modifiedAt < b.modifiedAt) := by
      rw [hput, List.pairwise_map]
      exact htimes.sublist hsub
    constructor
    · rw [rows_cleanupUploads uploadKeep hrising, hput, latest_concat, List.map_drop,
        List.length_map]
    · rw [List.map_append, List.map_append, hinv.answers, List.map_singleton, List.map_singleton,
        hgiven]
    · intro other hother
      rcases List.mem_append.mp hother with hother | hother
      · exact hinv.names other hother
      · rw [List.mem_singleton.mp hother]
        exact hnul
  · cases h

theorem exec_retains {calls rest : List Call} {s s' : State} (hinv : Retains calls s)
    (h : exec (step storage) s rest = some s')
    (htimes : (calls ++ rest).Pairwise (fun a b => a.now < b.now))
    (hnames : ((calls ++ rest).map Call.name).Nodup) : Retains (calls ++ rest) s' := by
  induction rest generalizing calls s with
  | nil =>
      cases h
      rw [List.append_nil]
      exact hinv
  | cons call rest ih =>
      unfold exec at h
      split at h
      · cases h
      · rename_i next hnext
        rw [List.append_cons] at htimes hnames ⊢
        have hbefore : (calls ++ [call]).Sublist (calls ++ [call] ++ rest) :=
          List.sublist_append_left _ _
        exact ih (step_retains hinv hnext (htimes.sublist hbefore)
          (hnames.sublist (hbefore.map Call.name))) h htimes hnames

theorem start_retains : Retains [] start := ⟨rfl, rfl, fun _ h => nomatch h⟩

end Step

/-! ## Downloads -/

theorem lookup_append (node : Node) (path path' : List Name) :
    node.lookup (path ++ path') = (node.lookup path).bind (fun node => node.lookup path') := by
  induction path generalizing node with
  | nil => rfl
  | cons name path ih =>
      cases node with
      | file content => rfl
      | special => rfl
      | dir entries =>
          rw [List.cons_append, Node.lookup, Node.lookup]
          split
          · exact ih _
          · rfl

theorem basename_of_unbroken {name : List Char} (h : Unbroken isSep name) :
    basename name = name := by
  have hall : name.reverse.takeWhile (fun c => !isSep c) = name.reverse := by
    rw [List.takeWhile_eq_self_iff]
    intro c hc
    rw [h c (List.mem_reverse.mp hc)]
    rfl
  rw [basename, hall, List.reverse_reverse]

section Downloads

variable {files : Node} {uploadDir root : List Char} {name : List Char}

/-- A name without separators is looked up among the entries of the directory. -/
theorem downloadAgentExe_of_name (habs : isabs uploadDir = true)
    (hroot : realpath uploadDir = some root) (hplain : Plain name)
    (hunbroken : Unbroken isSep name) (hnul : '\x00' ∉ name) :
    downloadAgentExe files uploadDir name =
      match readFile files (join root name) with
      | some content => .ok ⟨join root name, content, none, some "application/octet-stream"⟩
      | none => .error fileNotFound := by
  have hreal := realpath_join_of_isabs habs hroot hplain hunbroken hnul
  have hbefore : names root <+: names (join root name) :=
    ⟨[name], (realpath_join hroot hplain hunbroken hnul).2.symm⟩
  have hcommon := (commonpath_realpath hreal hroot).mpr hbefore
  unfold downloadAgentExe
  dsimp only
  rw [basename_of_unbroken hunbroken, if_neg (by simpa using hplain.1), hreal, hroot]
  dsimp only
  rw [hcommon]
  exact if_neg (not_not.mpr rfl)

theorem readFile_entry {dir : UploadDir} (hroot : realpath uploadDir = some root)
    (hplain : Plain name) (hunbroken : Unbroken isSep name) (hnul : '\x00' ∉ name)
    (hentries : files.lookup (names root) =
      some (.dir (dir.rows.map (fun f => (f.name, .file f.content))))) :
    readFile files (join root name) = (dir.find? name).map StoredFile.content := by
  unfold readFile
  rw [(realpath_join hroot hplain hunbroken hnul).2, lookup_append, hentries, Option.bind_some,
    Node.lookup, List.find?_map]
  have hfind : dir.rows.find? ((fun entry : Name × Node => decide (entry.1 = name)) ∘
      fun f => (f.name, .file f.content)) = dir.find? name := rfl
  rw [hfind]
  cases dir.find? name with
  | none => rfl
  | some file => rfl

end Downloads

/-! ## The retention -/

/-- The file is found by its name, with the bytes of the upload. -/
def Found (files : Node) (uploadDir : List Char) (call : Call) : Prop :=
  ∃ response, downloadAgentExe files uploadDir call.name = .ok response ∧
    response.content = call.content

structure Retained (calls : List Call) (s : State) : Prop where
  count : (latest calls).length = min calls.length uploadKeep
  dir : s.dir.rows = (latest calls).map Call.file
  returned : s.answers.map UploadAnswer.filename = calls.map Call.name
  found : ∀ files uploadDir, Shown files uploadDir s.dir → ∀ call ∈ latest calls,
    Found files uploadDir call
  gone : ∀ files uploadDir, Shown files uploadDir s.dir → ∀ call ∈ older calls,
    downloadAgentExe files uploadDir call.name = .error fileNotFound

theorem length_latest (calls : List Call) :
    (latest calls).length = min calls.length uploadKeep := by
  rw [latest, List.length_drop]
  omega

/-- **Retention**: first in, first out. -/
theorem retention (storage : Storage) (calls : List Call) (s : State)
    (htimes : calls.Pairwise (fun a b => a.now < b.now)) (hnames : (calls.map Call.name).Nodup)
    (h : exec (step storage) start calls = some s) : Retained calls s := by
  have hinv := exec_retains start_retains h htimes hnames
  rw [List.nil_append] at hinv
  have hparts : older calls ++ latest calls = calls := List.take_append_drop _ _
  have hdownload : ∀ files uploadDir, Shown files uploadDir s.dir → ∀ call ∈ calls, ∃ root,
      downloadAgentExe files uploadDir call.name =
        match (s.dir.find? call.name).map StoredFile.content with
        | some content => .ok ⟨join root call.name, content, none, some "application/octet-stream"⟩
        | none => .error fileNotFound := by
    intro files uploadDir hshown call hcall
    obtain ⟨root, hroot, hentries⟩ := hshown.entries
    have hnul := hinv.names call hcall
    refine ⟨root, ?_⟩
    rw [downloadAgentExe_of_name hshown.absolute hroot (plain_name call) (unbroken_name call) hnul,
      readFile_entry hroot (plain_name call) (unbroken_name call) hnul hentries]
  constructor
  · exact length_latest calls
  · exact hinv.rows
  · exact hinv.answers
  · intro files uploadDir hshown call hcall
    obtain ⟨root, hresult⟩ := hdownload files uploadDir hshown call
      (hparts ▸ List.mem_append_right _ hcall)
    have hfind : s.dir.find? call.name = some call.file := by
      rw [Table.find?_eq_some_iff, Table.mem_def, hinv.rows]
      exact ⟨List.mem_map_of_mem hcall, rfl⟩
    rw [hfind] at hresult
    exact ⟨_, hresult, rfl⟩
  · intro files uploadDir hshown call hcall
    obtain ⟨root, hresult⟩ := hdownload files uploadDir hshown call
      (hparts ▸ List.mem_append_left _ hcall)
    have hfind : s.dir.find? call.name = none := by
      rw [Table.find?_eq_none_iff]
      intro file hfile heq
      rw [Table.mem_def, hinv.rows] at hfile
      obtain ⟨other, hother, rfl⟩ := List.mem_map.mp hfile
      rw [← hparts, List.map_append, List.nodup_append'] at hnames
      exact hnames.2.2 (List.mem_map_of_mem hcall) (heq ▸ List.mem_map_of_mem hother)
    rw [hfind] at hresult
    exact hresult

/-! ### Two uploads -/

def plainStorage : Storage where
  listdir files := files
  perm files := List.Perm.refl files
  accepts _ := true

/-- The second file has a path for a name. -/
def twoCalls : List Call :=
  [⟨.fileUpload, "notes.txt".toList, [1], firstUuid, 10⟩,
    ⟨.fileUpload, "../a\\b".toList, [2, 3], secondUuid, 20⟩]

example : twoCalls.map Call.name =
    ["file-11111111-notes.txt".toList, "file-22222222-.._a_b".toList] := by decide

/-- Two files more than are kept. -/
def manyCalls : List Call :=
  (List.range (uploadKeep + 2)).map fun k =>
    ⟨.fileUpload, List.replicate k 'a', [1], firstUuid, k⟩

theorem manyCalls_retained :
    ∃ s, exec (step plainStorage) start manyCalls = some s ∧ Retained manyCalls s := by
  have hrun : (exec (step plainStorage) start manyCalls).isSome = true := by decide +kernel
  obtain ⟨s, hs⟩ := Option.isSome_iff_exists.mp hrun
  exact ⟨s, hs, retention plainStorage manyCalls s (by decide +kernel) (by decide +kernel) hs⟩

end LanAgent.Uploads
