import LanAgent.Go.UrlPath
import LanAgent.PushedPaths
import LanAgent.Uploads

/-!
# File distribution from the upload to the agent's disk

The administrator uploads a file, the web client creates a task with the file's address, and the
agent asks the server for it and stores the answer.  `distributed_iff` says for which of the names
that a Windows directory can hold all of this ends with the uploaded bytes in the agent's directory,
and that under the other names the agent asks for something else.
-/

namespace LanAgent.Distribution

open Library Library.Runs Library.Components Go Go.FilePath ServerUrl Downloads FilePush PushedPaths
  StaticFiles Uploads

/-! ## A push -/

/-- The parameters of the task that `doFilePush` creates for an upload, with no directory given. -/
def doFilePush (serverUrl : String) (call : Call) : PushParams where
  url := (Push.file (String.ofList call.name)).url serverUrl
  -- the `original_name` of the answer
  filename := String.ofList (safeName call.filename)
  destDir := ""

/-- The response to a GET request for the URL is the answer of `download_agent_exe`, and all of it
arrives. -/
def Answers (files : Node) (uploadDir : List Char) (url : String) (response : Response) : Prop :=
  ∀ filename : List Char, '/' ∉ filename →
    urlPath (ofString url) = some (ofString (Push.file (String.ofList filename)).path) →
      match downloadAgentExe files uploadDir filename with
      | .ok file => response = ⟨200, [], file.content, true⟩
      | .error e => response.statusCode = e.statusCode

/-- The agent's disk takes the content. -/
structure Takes (storage : FilePush.Storage) (content : GoString) : Prop where
  creates : storage.creates = true
  room : ∀ n ∈ storage.room, content.length ≤ n
  closed : ∀ n ∈ storage.closed, content.length ≤ n

/-- An agent whose package was made for the address. -/
def agentOf (cfg : AgentConfig) (lan : LanAddress) (port : Option Nat) : AgentConfig :=
  { cfg with serverUrl := "http://" ++ hostHeader lan.val port }

/-- The agent asks for the stored file, and whatever the destination held, it has the uploaded
bytes behind the push. -/
structure Distributed (files : Node) (uploadDir : List Char) (call : Call) (fold : Nat → Nat)
    (cfg : AgentConfig) (lan : LanAddress) (port : Option Nat) : Prop where
  asked : urlPath (ofString (doFilePush ("http://" ++ hostHeader lan.val port) call).url) =
    some (ofString (Push.file (String.ofList call.name)).path)
  written : ∀ response storage before,
    Answers files uploadDir (doFilePush ("http://" ++ hostHeader lan.val port) call).url response →
      Takes storage call.content → pushFile fold windows (agentOf cfg lan port)
        (doFilePush ("http://" ++ hostHeader lan.val port) call) [some response] storage before =
          (some call.content, .ok ⟨filesDir ++ ("\\" ++ String.ofList (safeName call.filename)),
            call.content, ofString (hostHeader lan.val port)⟩)

/-! ## The name in the address -/

theorem isPathChar_hexPrefix {uuid : Uuid} {c : Char} (hc : c ∈ hexPrefix uuid) :
    isPathChar c = true := by
  have hle : ∀ {c d : Char}, c ≤ d → c.toNat ≤ d.toNat := fun h => h
  have hplain : ∀ {c : Char}, 0x26 ≤ c.toNat → c.toNat < 0x7f → c ≠ '?' → isPathChar c = true := by
    intro c hlow hhigh hquestion
    have hne : ∀ d : Char, d.toNat < 0x26 ∨ d.toNat = 0x7f → c ≠ d := by
      rintro d hd rfl
      omega
    have hcontrol : ¬c.toNat < 0x20 := by omega
    simp [isPathChar, hcontrol, hquestion, hne '\x7f' (by decide), hne '%' (by decide),
      hne '#' (by decide)]
  rcases Uuid.of_mem_toList (List.mem_of_mem_take hc) with rfl | ⟨hlow, hhigh⟩ | ⟨hlow, hhigh⟩
  · decide
  · have h0 : 0x30 ≤ c.toNat := hle hlow
    have h9 : c.toNat ≤ 0x39 := hle hhigh
    refine hplain (by omega) (by omega) ?_
    rintro rfl
    exact absurd h9 (by decide)
  · have ha : 0x61 ≤ c.toNat := hle hlow
    have hf : c.toNat ≤ 0x66 := hle hhigh
    refine hplain (by omega) (by omega) ?_
    rintro rfl
    exact absurd ha (by decide)

theorem isPathChar_safeName (filename : List Char) :
    (∀ c ∈ safeName filename, isPathChar c = true) ↔ ∀ c ∈ filename, isPathChar c = true := by
  unfold safeName
  rw [List.map_map, List.forall_mem_map]
  apply forall₂_congr
  intro c _
  by_cases hslash : c = '/'
  · rw [hslash]
    decide
  · by_cases hback : c = '\\'
    · rw [hback]
      decide
    · rw [Function.comp_apply, if_neg hslash, if_neg hback]

theorem isPathChar_path {call : Call} (hfile : call.endpoint = .fileUpload) :
    (∀ c ∈ (Push.file (String.ofList call.name)).path.toList, isPathChar c = true) ↔
      ∀ c ∈ call.filename, isPathChar c = true := by
  have hstart : ∀ c ∈ "/api/upgrade/file/".toList ++ "file-".toList, isPathChar c = true :=
    List.all_eq_true.mp (by decide)
  have hname : (String.ofList (saveName call.uuid call.filename)).toList =
      "file-".toList ++ (hexPrefix call.uuid ++ '-' :: safeName call.filename) := by
    rw [String.toList_ofList]
    exact List.append_assoc _ _ _
  have hpath : (Push.file (String.ofList call.name)).path.toList =
      ("/api/upgrade/file/".toList ++ "file-".toList) ++ (hexPrefix call.uuid ++
        '-' :: safeName call.filename) := by
    have hcall : call.name = saveName call.uuid call.filename := by rw [Call.name, hfile]
    rw [hcall]
    show ("/api/upgrade/file/" ++ String.ofList (saveName call.uuid call.filename)).toList = _
    rw [String.toList_append, hname]
    exact (List.append_assoc _ _ _).symm
  rw [hpath]
  generalize "/api/upgrade/file/".toList ++ "file-".toList = start at hstart
  rw [List.forall_mem_append, List.forall_mem_append, List.forall_mem_cons, isPathChar_safeName]
  exact ⟨fun h => h.2.2.2, fun h => ⟨hstart, fun c hc => isPathChar_hexPrefix hc, rfl, h⟩⟩

theorem unbroken_safeName (filename : List Char) :
    Unbroken isPathSeparator (safeName filename) := by
  intro c hc
  unfold safeName at hc
  rw [List.map_map] at hc
  obtain ⟨d, -, rfl⟩ := List.mem_map.mp hc
  by_cases hslash : d = '/'
  · rw [hslash]
    decide
  · rw [Function.comp_apply, if_neg hslash]
    by_cases hback : d = '\\'
    · rw [if_pos hback]
      decide
    · rw [if_neg hback]
      simp [isPathSeparator, hslash, hback]

theorem colon_not_mem_safeName {filename : List Char} (h : ':' ∉ filename) :
    ':' ∉ safeName filename := by
  intro hmem
  unfold safeName at hmem
  rw [List.map_map] at hmem
  obtain ⟨d, hd, heq⟩ := List.mem_map.mp hmem
  have hsame : d = ':' := by
    rw [Function.comp_apply] at heq
    split_ifs at heq <;> first | exact heq | exact absurd heq (by decide)
  exact h (hsame ▸ hd)

theorem asked_iff {call : Call} (hfile : call.endpoint = .fileUpload) (lan : LanAddress)
    (port : Option Nat) :
    urlPath (ofString (doFilePush ("http://" ++ hostHeader lan.val port) call).url) =
        some (ofString (Push.file (String.ofList call.name)).path) ↔
      ∀ c ∈ call.filename, isPathChar c = true := by
  have hurl : ofString (doFilePush ("http://" ++ hostHeader lan.val port) call).url =
      ofString "http://" ++ (ofString (hostHeader lan.val port) ++
        ofString (Push.file (String.ofList call.name)).path) := by
    show ofString ("http://" ++ hostHeader lan.val port ++ _) = _
    rw [ofString_append, ofString_append, List.append_assoc]
  rw [hurl, urlPath_eq_iff (hostHeader_address lan port) (hostHeader_port lan port)
    (Push.isTail _), isPathByte_ofString, isPathChar_path hfile]

/-! ## The destination -/

section Destination

variable {name : List Char} (hplain : Plain name) (hunbroken : Unbroken isPathSeparator name)
  (hcolon : ':' ∉ name)

include hplain hunbroken hcolon

theorem volumeNameLen_name : volumeNameLen name = 0 := by
  obtain ⟨c, rest, rfl⟩ := List.exists_cons_of_ne_nil hplain.1
  have hdrive : ¬(rest.head? = some ':' ∧ c.toNat < 0x80) := fun h =>
    hcolon (List.mem_cons_of_mem c (List.mem_of_head? h.1))
  unfold volumeNameLen
  dsimp only
  rw [if_neg hdrive, if_pos (hunbroken c List.mem_cons_self)]

theorem clean_name : clean name = name := by
  have hvolume := volumeNameLen_name hplain hunbroken hcolon
  have hsplit : name.splitOnP isPathSeparator = [name] :=
    List.splitOnP_eq_singleton hunbroken
  obtain ⟨c, rest, heq⟩ := List.exists_cons_of_ne_nil hplain.1
  have hrooted : name.head?.any isPathSeparator = false := by
    rw [heq]
    exact hunbroken c (heq ▸ List.mem_cons_self)
  have hnames : cleanNames name = name := by
    unfold cleanNames
    dsimp only
    rw [hrooted, hsplit, resolve_of_plain false (List.forall_mem_singleton.mpr hplain),
      if_neg Bool.false_ne_true, if_neg (List.cons_ne_nil _ _), List.intercalate_singleton]
  have hpost : postClean name (cleanNames name) = name := by
    rw [hnames, postClean, if_pos (List.isPrefixOf_iff_prefix.mpr (List.prefix_refl name))]
  unfold clean
  rw [hvolume, List.drop_zero, List.take_zero]
  rw [heq] at hpost ⊢
  exact hpost

theorem join_filesDir :
    join filesDir.toList name = filesDir.toList ++ '\\' :: name := by
  have hlast : filesDir.toList.getLast? = some 's' := by decide
  have hnames : ∀ n ∈ fileNames ++ [name], Plain n ∧ Unbroken isPathSeparator n := by
    intro n hn
    rcases List.mem_append.mp hn with hn | hn
    · have hfiles : ∀ n ∈ fileNames, Plain n := by decide
      exact ⟨hfiles n hn, fileNames_unbroken n hn⟩
    · obtain rfl := List.mem_singleton.mp hn
      exact ⟨hplain, hunbroken⟩
  have hpath : filesDir.toList ++ '\\' :: name =
      'C' :: ':' :: '\\' :: ['\\'].intercalate (fileNames ++ [name]) := by
    have hbelow : below '\\' [name] = '\\' :: name := by simp [below]
    rw [cons_intercalate (List.append_ne_nil_of_right_ne_nil _ (List.cons_ne_nil _ _)),
      below_append, hbelow, filesDir_toList]
    rfl
  unfold join
  rw [hlast]
  dsimp only
  rw [if_neg (by decide), if_neg (by decide), hpath]
  exact clean_clean_drive rfl (by decide) hnames

/-- A name without separators and colons is put right into the directory. -/
theorem safeJoinUnder_filesDir : safeJoinUnder windows filesDir (String.ofList name) =
    .ok (filesDir ++ ("\\" ++ String.ofList name)) := by
  have htext : (String.ofList name).toList = name := String.toList_ofList
  have hclean : windows.clean (String.ofList name) = String.ofList name := by
    show String.ofList (clean (String.ofList name).toList) = _
    rw [htext, clean_name hplain hunbroken hcolon]
  have hfinal : (filesDir ++ ("\\" ++ String.ofList name)).toList =
      filesDir.toList ++ '\\' :: name := by
    rw [String.toList_append, String.toList_append, htext]
    rfl
  apply safeJoinUnder_joined
  · intro h
    exact hplain.1 (htext ▸ h ▸ rfl)
  · show isAbs (String.ofList name).toList = false
    rw [htext, isAbs, if_pos (volumeNameLen_name hplain hunbroken hcolon)]
  · rw [hclean]
    rintro (h | h)
    · exact hplain.2.2 (htext ▸ congrArg String.toList h)
    · rw [hasPrefix, List.isPrefixOf_iff_prefix, htext] at h
      have hmem : '\\' ∈ name := h.subset (by decide)
      exact absurd (hunbroken _ hmem) (by decide)
  · rw [hclean]
    show String.ofList (join filesDir.toList (String.ofList name).toList) = _
    rw [htext, join_filesDir hplain hunbroken hcolon, ← hfinal, String.ofList_toList]
  · rw [clean_filesDir]
    exact not_outside_iff.mpr (under_iff.mpr (.inr ⟨name, hfinal⟩))

end Destination

/-! ## The download -/

section Download

variable {fold : Nat → Nat} {cfg : AgentConfig} {lan : LanAddress} {port : Option Nat}

theorem hostHeader_ne_nil : ofString (hostHeader lan.val port) ≠ [] := by
  have hne : (hostHeader lan.val port).toList ≠ [] := by
    have hlan : lan.val.toList ≠ [] := fun h => lan.ne_empty (String.toList_eq_nil_iff.mp h)
    cases port with
    | none => exact hlan
    | some p =>
        show (lan.val ++ (":" ++ toString p)).toList ≠ []
        rw [String.toList_append]
        exact List.append_ne_nil_of_left_ne_nil hlan _
  obtain ⟨c, rest, hc⟩ := List.exists_cons_of_ne_nil hne
  rw [ofString, hc, List.flatMap_cons]
  exact List.append_ne_nil_of_left_ne_nil (String.utf8EncodeChar_ne_nil) _

/-- An address under which a path is asked for is accepted, and the response is stored. -/
theorem get_pushed {push : Push} {path : GoString} (content : GoString)
    (hasked : urlPath (ofString (push.url ("http://" ++ hostHeader lan.val port))) = some path) :
    validateServerUrl fold (agentOf cfg lan port)
        (push.url ("http://" ++ hostHeader lan.val port)) = .ok () ∧
      httpGet (ofString (push.url ("http://" ++ hostHeader lan.val port)))
          [some ⟨200, [], content, true⟩] =
        .ok (ofString (hostHeader lan.val port), ⟨200, [], content, true⟩) := by
  have hparse := parse_serverUrl lan port push.path push.isTail
  have hparses : push.parses = true := by
    by_contra hrefused
    have hnone : parse (ofString (push.url ("http://" ++ hostHeader lan.val port))) = none :=
      hparse.trans (if_neg hrefused)
    rw [urlPath, hnone] at hasked
    cases hasked
  refine ⟨(validate_iff cfg lan port port push).mpr ⟨hparses, equalFold_refl fold _⟩, ?_⟩
  have hsome : parse (ofString (push.url ("http://" ++ hostHeader lan.val port))) =
      some ⟨ofString "http", ofString (hostHeader lan.val port)⟩ := hparse.trans (if_pos hparses)
  rw [httpGet, hsome]
  exact clientDo_direct (sendError_http hostHeader_ne_nil) rfl

theorem store_taken {storage : FilePush.Storage} {content : GoString} (h : Takes storage content)
    (before : Option GoString) (destPath : String) (host : GoString) :
    store storage before destPath host ⟨200, [], content, true⟩ =
      (some content, .ok ⟨destPath, content, host⟩) := by
  have harrives : Arrives storage ⟨200, [], content, true⟩ := ⟨rfl, h.room⟩
  unfold store
  rw [h.creates, if_neg (by decide), copyBody_of_arrives harrives]
  dsimp only
  rw [closeFile_eq_iff.mpr h.closed]
  rfl

end Download

/-! ## From the upload to the disk -/

/-- The checks of the agent are passed by the file of an upload. -/
theorem pushTarget_doFilePush {call : Call} (hplain : Plain (safeName call.filename))
    (hcolon : ':' ∉ call.filename) {fold : Nat → Nat} {cfg : AgentConfig} {lan : LanAddress}
    {port : Option Nat}
    (hvalid : validateServerUrl fold (agentOf cfg lan port)
      (doFilePush ("http://" ++ hostHeader lan.val port) call).url = .ok ()) :
    pushTarget fold windows (agentOf cfg lan port)
      (doFilePush ("http://" ++ hostHeader lan.val port) call) =
        .ok (filesDir ++ ("\\" ++ String.ofList (safeName call.filename))) := by
  have hdir : (doFilePush ("http://" ++ hostHeader lan.val port) call).dir = filesDir := if_pos rfl
  apply pushTarget_joined
  · rintro (hurl | hname)
    · have hstart : (doFilePush ("http://" ++ hostHeader lan.val port) call).url.toList.head? =
          some 'h' := by
        show ("http://" ++ hostHeader lan.val port ++ _).toList.head? = _
        rw [String.toList_append, String.toList_append]
        rfl
      rw [hurl] at hstart
      cases hstart
    · exact hplain.1 (String.ofList_eq_empty_iff.mp hname)
  · exact hvalid
  · rw [hdir]
    exact fun h => h.1 rfl
  · rw [hdir]
    exact safeJoinUnder_filesDir hplain (unbroken_safeName call.filename)
      (colon_not_mem_safeName hcolon)

/-- **File distribution**: of an upload that is still kept and whose name is a plain one without
colons, every agent of the address gets exactly the uploaded bytes, under the name of the file, if
and only if that name has no percent sign, question mark, number sign or control character; with one
of these in the name no agent asks for the file that was stored. -/
theorem distributed_iff {storage : Uploads.Storage} {calls : List Call} {s : Uploads.State}
    (htimes : calls.Pairwise (fun a b => a.now < b.now)) (hnames : (calls.map Call.name).Nodup)
    (hrun : exec (Uploads.step storage) Uploads.start calls = some s) {files : Node}
    {uploadDir : List Char} (hshown : Shown files uploadDir s.dir) {call : Call}
    (hcall : call ∈ Uploads.latest calls) (hfile : call.endpoint = .fileUpload)
    (hplain : Plain (safeName call.filename)) (hcolon : ':' ∉ call.filename) (fold : Nat → Nat)
    (cfg : AgentConfig) (lan : LanAddress) (port : Option Nat) :
    (Distributed files uploadDir call fold cfg lan port ↔
      ∀ c ∈ call.filename, isPathChar c = true) ∧
    ((∃ c ∈ call.filename, isPathChar c = false) →
      urlPath (ofString (doFilePush ("http://" ++ hostHeader lan.val port) call).url) ≠
        some (ofString (Push.file (String.ofList call.name)).path)) := by
  have hother : (∃ c ∈ call.filename, isPathChar c = false) →
      urlPath (ofString (doFilePush ("http://" ++ hostHeader lan.val port) call).url) ≠
        some (ofString (Push.file (String.ofList call.name)).path) := by
    rintro ⟨c, hc, hbad⟩ hasked
    have hgood := (asked_iff hfile lan port).mp hasked c hc
    rw [hbad] at hgood
    cases hgood
  refine ⟨?_, hother⟩
  rw [← asked_iff hfile lan port]
  refine ⟨fun h => h.asked, fun hasked => ⟨hasked, ?_⟩⟩
  intro response diskStorage before hanswers htakes
  -- the server still has the file under its name
  obtain ⟨found, hfound, hcontent⟩ :=
    (retention storage calls s htimes hnames hrun).found files uploadDir hshown call hcall
  have hslash : '/' ∉ call.name := fun hmem => absurd (unbroken_name call _ hmem) (by decide)
  have hresponse := hanswers call.name hslash hasked
  rw [hfound] at hresponse
  dsimp only at hresponse
  rw [hresponse, hcontent]
  -- the agent accepts the address and the name
  obtain ⟨hvalid, hget⟩ := get_pushed call.content hasked
  change httpGet (ofString (doFilePush ("http://" ++ hostHeader lan.val port) call).url) _ = _
    at hget
  have htarget := pushTarget_doFilePush hplain hcolon hvalid
  unfold pushFile
  rw [htarget]
  dsimp only
  rw [hget]
  exact store_taken htakes before _ _

/-! ### The first of two uploads -/

def uploads : Node :=
  .dir [("u".toList, .dir (twoCalls.map fun call => (call.name, .file call.content)))]

theorem shown_uploads {s : Uploads.State} (h : Retained twoCalls s) :
    Shown uploads "/u".toList s.dir where
  absolute := rfl
  entries := by
    refine ⟨"/u".toList, by decide +kernel, ?_⟩
    have hlatest : Uploads.latest twoCalls = twoCalls := rfl
    rw [h.dir, hlatest, List.map_map]
    rfl

theorem notes_distributed :
    Distributed uploads "/u".toList
      ⟨.fileUpload, "notes.txt".toList, [1], firstUuid, 10⟩ id installed exampleLan
      (some 8080) := by
  have hrun : exec (Uploads.step plainStorage) Uploads.start twoCalls = some _ := rfl
  have hretained := retention plainStorage twoCalls _ (by decide) (by decide) hrun
  refine (distributed_iff (by decide) (by decide) hrun (shown_uploads hretained) ?_ rfl
    (by decide) (by decide) id installed exampleLan (some 8080)).1.mpr
      (List.all_eq_true.mp (by decide))
  exact List.mem_cons_self

end LanAgent.Distribution
