import LanAgent.Downloads

/-!
# The pushed file on disk — `file_push` of `agent/handler.go`

The checks, the request, and the file that is created before the body is read into it.  A file that
was there is truncated first; the status of the response and the result of closing the file are not
looked at.  `allOrNothing_iff` says when a push writes the whole file or nothing.
-/

namespace LanAgent.FilePush

open Go ServerUrl Downloads

/-- What the file system does with the destination. -/
structure Storage where
  creates : Bool
  /-- Writing fails behind so many bytes. -/
  room : Option Nat
  /-- Closing fails, with so many bytes in the file. -/
  closed : Option Nat

/-! ## The command -/

section Command

variable (fold : Nat → Nat) (path : FilePath) (cfg : AgentConfig) (params : PushParams)

/-- The checks of the parameters; the path that is created when they are passed. -/
def pushTarget : Except PushError String :=
  if params.url = "" ∨ params.filename = "" then .error .missing
  else
    match validateServerUrl fold cfg params.url with
    | .error e => .error (.origin e)
    | .ok () =>
        let baseClean := path.clean filesDir
        let dirClean := path.clean params.dir
        if dirClean ≠ baseClean ∧ hasPrefix dirClean (baseClean ++ path.separator) = false then
          .error .directory
        else
          match safeJoinUnder path params.dir params.filename with
          | .error e => .error (.name e)
          | .ok destPath => .ok destPath

/-- `io.Copy`: the bytes written, and whether there was no error. -/
def copyBody (storage : Storage) (response : Response) : GoString × Bool :=
  match storage.room with
  | some n =>
      if n < response.body.length then (response.body.take n, false)
      else (response.body, response.complete)
  | none => (response.body, response.complete)

/-- `f.Close()`. -/
def closeFile (storage : Storage) (content : GoString) : GoString :=
  match storage.closed with
  | some n => content.take n
  | none => content

/-- What the destination holds, and the result, once the response is there. -/
def store (storage : Storage) (before : Option GoString) (destPath : String) (host : GoString)
    (response : Response) : Option GoString × Except PushError Download :=
  if storage.creates = false then (before, .error .create)
  else
    let (written, ok) := copyBody storage response
    (some (closeFile storage written),
      if ok then .ok ⟨destPath, response.body, host⟩ else .error .write)

/-- `handleCommand`, the case `file_push`, on a destination that holds `before`. -/
def pushFile (replies : List (Option Response)) (storage : Storage) (before : Option GoString) :
    Option GoString × Except PushError Download :=
  match pushTarget fold path cfg params with
  | .error e => (before, .error e)
  | .ok destPath =>
      match httpGet (ofString params.url) replies with
      | .error e => (before, .error (.fetch e))
      | .ok (host, response) => store storage before destPath host response

end Command

/-! ## The property and its condition -/

/-- The file is distributed or left alone. -/
structure AllOrNothing (fetched : Except FetchError (GoString × Response))
    (before : Option GoString) (result : Option GoString × Except PushError Download) : Prop where
  success : ∀ download, result.2 = .ok download → ∃ host response, fetched = .ok (host, response) ∧
    response.statusCode = 200 ∧ response.complete = true ∧ result.1 = some response.body
  failed : ∀ e, result.2 = .error e → result.1 = before

def Arrives (storage : Storage) (response : Response) : Prop :=
  response.complete = true ∧ ∀ n ∈ storage.room, response.body.length ≤ n

/-- How many of so many bytes are in the file at the end. -/
def Storage.kept (storage : Storage) (length : Nat) : Nat :=
  min (storage.closed.getD length) (min (storage.room.getD length) length)

/-- The response is the file and all of it stays on disk; or it breaks off, and the destination held
just the bytes that are in the file then. -/
def Sound (storage : Storage) (before : Option GoString) (response : Response) : Prop :=
  (Arrives storage response →
    response.statusCode = 200 ∧ ∀ n ∈ storage.closed, response.body.length ≤ n) ∧
  (¬Arrives storage response →
    before = some (response.body.take (storage.kept response.body.length)))

/-! ## What is stored -/

section Store

variable {storage : Storage} {before : Option GoString} {response : Response}

theorem copyBody_of_arrives (h : Arrives storage response) :
    copyBody storage response = (response.body, true) := by
  unfold copyBody
  split
  · rename_i n hroom
    rw [if_neg (not_lt.mpr (h.2 n hroom)), h.1]
  · rw [h.1]

theorem copyBody_of_not_arrives (h : ¬Arrives storage response) :
    (copyBody storage response).2 = false := by
  unfold copyBody
  split
  · rename_i n hroom
    split
    · rfl
    · rename_i hlength
      -- there is room for the body, so it has broken off
      rw [← Bool.not_eq_true]
      refine fun hcomplete => h ⟨hcomplete, fun m hm => ?_⟩
      rw [hroom, Option.mem_some_iff] at hm
      exact hm ▸ not_lt.mp hlength
  · rename_i hroom
    rw [← Bool.not_eq_true]
    refine fun hcomplete => h ⟨hcomplete, fun m hm => ?_⟩
    rw [hroom] at hm
    cases hm

theorem closeFile_eq_iff {content : GoString} :
    closeFile storage content = content ↔ ∀ n ∈ storage.closed, content.length ≤ n := by
  unfold closeFile
  cases storage.closed with
  | none => simp
  | some n => simp [List.take_eq_self_iff]

/-- The file ends with the first bytes of the body, whether it arrives or not. -/
theorem closeFile_copyBody : closeFile storage (copyBody storage response).1 =
    response.body.take (storage.kept response.body.length) := by
  have hwritten : (copyBody storage response).1 =
      response.body.take (min (storage.room.getD response.body.length) response.body.length) := by
    unfold copyBody
    cases storage.room with
    | none => simp
    | some n =>
        dsimp only [Option.getD_some]
        split
        · rename_i hroom
          rw [min_eq_left hroom.le]
        · rename_i hroom
          rw [min_eq_right (not_lt.mp hroom), List.take_length]
  rw [hwritten]
  unfold closeFile Storage.kept
  cases storage.closed with
  | none => simp
  | some n =>
      dsimp only [Option.getD_some]
      rw [List.take_take]

theorem allOrNothing_error (fetched : Except FetchError (GoString × Response))
    (before : Option GoString) (e : PushError) :
    AllOrNothing fetched before (before, .error e) where
  success _ h := nomatch h
  failed _ _ := rfl

theorem allOrNothing_store {destPath : String} {host : GoString} :
    AllOrNothing (.ok (host, response)) before (store storage before destPath host response) ↔
      (storage.creates = true → Sound storage before response) := by
  unfold store
  cases hcreates : storage.creates with
  | false => exact iff_of_true (allOrNothing_error _ _ _) fun h => nomatch h
  | true =>
      rw [if_neg (by decide), imp_iff_right rfl]
      by_cases harrives : Arrives storage response
      · rw [copyBody_of_arrives harrives]
        dsimp only
        rw [if_pos rfl]
        apply Iff.intro
        · intro h
          obtain ⟨host', response', hfetched, hstatus, -, hstored⟩ := h.success _ rfl
          cases hfetched
          refine ⟨fun _ => ⟨hstatus, ?_⟩, fun hnot => absurd harrives hnot⟩
          exact closeFile_eq_iff.mp (Option.some.inj hstored)
        · intro h
          obtain ⟨hstatus, hclosed⟩ := h.1 harrives
          refine ⟨fun _ _ => ⟨host, response, rfl, hstatus, harrives.1, ?_⟩,
            fun _ herror => nomatch herror⟩
          exact congrArg some (closeFile_eq_iff.mpr hclosed)
      · have hfailed := copyBody_of_not_arrives harrives
        unfold Sound
        rw [← closeFile_copyBody]
        generalize copyBody storage response = copied at hfailed
        obtain ⟨written, ok⟩ := copied
        dsimp only at hfailed ⊢
        rw [hfailed]
        apply Iff.intro
        · exact fun h => ⟨fun harrives' => absurd harrives' harrives,
            fun _ => (h.failed _ rfl).symm⟩
        · exact fun h => ⟨fun _ hok => (nomatch hok), fun _ _ => (h.2 harrives).symm⟩

end Store

/-! ## The checks of the origin -/

section Result

variable {fold : Nat → Nat} {path : FilePath} {cfg : AgentConfig} {params : PushParams}

/-- The storage as the result sees it: whether the body gets into the file. -/
def Storage.disk (storage : Storage) (body : GoString) : Disk where
  creates := storage.creates
  writes := match storage.room with
    | some n => body.length ≤ n
    | none => true
  closes := storage.closed.isNone
  opens := true

theorem store_result (storage : Storage) (before : Option GoString) (destPath : String)
    (host : GoString) (response : Response) :
    (store storage before destPath host response).2 =
      if (storage.disk response.body).creates = false then .error .create
      else if response.complete = false ∨ (storage.disk response.body).writes = false then
        .error .write
      else .ok ⟨destPath, response.body, host⟩ := by
  have hsame : (storage.disk response.body).creates = storage.creates := rfl
  rw [hsame]
  unfold store
  by_cases hcreates : storage.creates = false
  · rw [if_pos hcreates, if_pos hcreates]
  rw [if_neg hcreates, if_neg hcreates]
  have hcopied : (copyBody storage response).2 = false ↔
      response.complete = false ∨ (storage.disk response.body).writes = false := by
    unfold copyBody Storage.disk
    cases storage.room with
    | none => simp
    | some n => by_cases hroom : n < response.body.length <;> simp [hroom, not_le]
  by_cases hok : (copyBody storage response).2 = false
  · rw [if_pos (hcopied.mp hok)]
    simp [hok]
  · rw [if_neg fun h => hok (hcopied.mpr h)]
    simp [hok]

theorem pushTarget_joined {destPath : String}
    (hgiven : ¬(params.url = "" ∨ params.filename = ""))
    (hvalid : validateServerUrl fold cfg params.url = .ok ())
    (hdir : ¬(path.clean params.dir ≠ path.clean filesDir ∧
      hasPrefix (path.clean params.dir) (path.clean filesDir ++ path.separator) = false))
    (hjoin : safeJoinUnder path params.dir params.filename = .ok destPath) :
    pushTarget fold path cfg params = .ok destPath := by
  unfold pushTarget
  rw [if_neg hgiven, hvalid]
  dsimp only
  rw [if_neg hdir, hjoin]

theorem filePush_eq (replies : List (Option Response)) (disk : Disk) :
    filePush fold path cfg params replies disk =
      match pushTarget fold path cfg params with
      | .error e => .error e
      | .ok destPath =>
          match httpGet (ofString params.url) replies with
          | .error e => .error (.fetch e)
          | .ok (host, response) =>
              if disk.creates = false then .error .create
              else if response.complete = false ∨ disk.writes = false then .error .write
              else .ok ⟨destPath, response.body, host⟩ := by
  unfold filePush pushTarget
  by_cases hmissing : params.url = "" ∨ params.filename = ""
  · rw [if_pos hmissing, if_pos hmissing]
  rw [if_neg hmissing, if_neg hmissing]
  cases validateServerUrl fold cfg params.url with
  | error e => rfl
  | ok _ =>
      dsimp only
      by_cases hdirectory : path.clean params.dir ≠ path.clean filesDir ∧
          hasPrefix (path.clean params.dir) (path.clean filesDir ++ path.separator) = false
      · rw [if_pos hdirectory, if_pos hdirectory]
      rw [if_neg hdirectory, if_neg hdirectory]
      cases safeJoinUnder path params.dir params.filename with
      | error e => rfl
      | ok destPath => rfl

/-- **The result** of the command is that of `filePush`. -/
theorem pushFile_result {replies : List (Option Response)} (storage : Storage)
    (before : Option GoString) {host : GoString} {response : Response}
    (hget : httpGet (ofString params.url) replies = .ok (host, response)) :
    (pushFile fold path cfg params replies storage before).2 =
      filePush fold path cfg params replies (storage.disk response.body) := by
  rw [filePush_eq, pushFile, hget]
  cases pushTarget fold path cfg params with
  | error e => rfl
  | ok destPath => exact store_result storage before destPath host response

end Result

/-- **File distribution** is all or nothing exactly when every response that is stored is sound. -/
theorem allOrNothing_iff (fold : Nat → Nat) (path : FilePath) (cfg : AgentConfig)
    (params : PushParams) (replies : List (Option Response)) (storage : Storage)
    (before : Option GoString) :
    AllOrNothing (httpGet (ofString params.url) replies) before
        (pushFile fold path cfg params replies storage before) ↔
      ∀ destPath, pushTarget fold path cfg params = .ok destPath →
        ∀ host response, httpGet (ofString params.url) replies = .ok (host, response) →
          storage.creates = true → Sound storage before response := by
  unfold pushFile
  cases htarget : pushTarget fold path cfg params with
  | error e => exact iff_of_true (allOrNothing_error _ _ _) fun _ h => nomatch h
  | ok destPath =>
      cases hget : httpGet (ofString params.url) replies with
      | error e => exact iff_of_true (allOrNothing_error _ _ _) fun _ _ _ _ h => nomatch h
      | ok fetched =>
          obtain ⟨host, response⟩ := fetched
          dsimp only
          rw [allOrNothing_store]
          apply Iff.intro
          · rintro h destPath' - host' response' heq
            cases heq
            exact h
          · exact fun h => h destPath rfl host response rfl

/-! ### An error page -/

def plentiful : Storage := ⟨true, none, none⟩

def notFound : List (Option Response) :=
  [some ⟨404, [], ofString "\x7b\"detail\":\"File not found\"\x7d", true⟩]

/-- The error page is stored in place of the file, and reported as a success. -/
theorem error_page_stored :
    ¬AllOrNothing (httpGet (ofString pushed.url) notFound) (some (ofString "MZ"))
      (pushFile id plainPaths installed pushed notFound plentiful (some (ofString "MZ"))) := by
  intro h
  have hget : httpGet (ofString pushed.url) notFound = .ok (ofString "10.0.0.1:8080",
      ⟨404, [], ofString "\x7b\"detail\":\"File not found\"\x7d", true⟩) := by
    rw [httpGet, parse_pushed]
    exact clientDo_direct sendError_server rfl
  have htarget : pushTarget id plainPaths installed pushed = .ok (filesDir ++ "\\a.exe") :=
    pushTarget_joined pushed_given (validate_of_fromServer parse_pushed rfl fromServer_server)
      (fun h => h.1 rfl) safeJoin_pushed
  have hstored : (pushFile id plainPaths installed pushed notFound plentiful
      (some (ofString "MZ"))).2 = .ok ⟨filesDir ++ "\\a.exe",
        ofString "\x7b\"detail\":\"File not found\"\x7d", ofString "10.0.0.1:8080"⟩ := by
    rw [pushFile, htarget, hget]
    rfl
  obtain ⟨host, response, hfetched, hstatus, -⟩ := h.success _ hstored
  rw [hget] at hfetched
  cases hfetched
  exact absurd hstatus (by decide)

end LanAgent.FilePush
