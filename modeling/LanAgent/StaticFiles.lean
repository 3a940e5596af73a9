import LanAgent.Models
import LanAgent.Python.PosixPath

/-!
# Files that are served — `serve_spa` of `main.py`, `download_agent_exe` of `upgrade_routes.py`

Two routes without a login that take a path from the request.  `served_inside` shows that neither
sends anything but regular files behind its directory.
-/

namespace LanAgent.StaticFiles

open Python.PosixPath Library.Components

/-! ## The file system -/

abbrev Bytes := List UInt8

/-- A file system without symbolic links. -/
inductive Node where
  | file (content : Bytes)
  | dir (entries : List (Name × Node))
  | special

def Node.lookup : Node → List Name → Option Node
  | node, [] => some node
  | .dir entries, name :: path =>
      match entries.find? (fun entry => entry.1 = name) with
      | some entry => entry.2.lookup path
      | none => none
  | _, _ :: _ => none

/-- The regular file at a path, as `os.path.isfile` finds it and `FileResponse` reads it. -/
def readFile (files : Node) (path : List Char) : Option Bytes :=
  match files.lookup (names path) with
  | some (.file content) => some content
  | _ => none

/-- The absolute path of a directory: no regular file is in its place. -/
structure Directory (files : Node) where
  path : List Char
  absolute : isabs path = true
  notFile : ∀ root, realpath path = some root → readFile files root = none

/-! ## The routes -/

structure FileResponse where
  path : List Char
  content : Bytes
  cacheControl : Option String
  mediaType : Option String
  deriving DecidableEq, Repr

inductive SpaResponse where
  | file (response : FileResponse)
  | detail (text : String)
  deriving DecidableEq, Repr

section Routes

variable (files : Node)

def noCacheFile (path : List Char) (content : Bytes) : FileResponse :=
  ⟨path, content, some "no-cache", none⟩

/-- The file that the path of the request names, if it may be served. -/
def candidateFile (staticRoot fullPath : List Char) : Except HttpError (Option FileResponse) :=
  if fullPath = [] then .ok none
  else
    match realpath (join staticRoot fullPath) with
    | none => .error internalServerError
    | some candidate =>
        match commonpath candidate staticRoot with
        | none => .error internalServerError
        | some common =>
            if common = staticRoot then
              .ok ((readFile files candidate).map (noCacheFile candidate))
            else .ok none

def serveSpa (staticDir fullPath : List Char) : Except HttpError SpaResponse :=
  match realpath staticDir with
  | none => .error internalServerError
  | some staticRoot =>
      match candidateFile files staticRoot fullPath with
      | .error e => .error e
      | .ok (some response) => .ok (.file response)
      | .ok none =>
          let indexPath := join staticRoot "index.html".toList
          match readFile files indexPath with
          | some content => .ok (.file (noCacheFile indexPath content))
          | none => .ok (.detail "Not found")

def invalidFilename : HttpError := ⟨400, "Invalid filename"⟩

def fileNotFound : HttpError := ⟨404, "File not found"⟩

def downloadAgentExe (uploadDir filename : List Char) : Except HttpError FileResponse :=
  let safeName := basename filename
  if safeName ≠ filename ∨ safeName = [] then .error invalidFilename
  else
    match realpath (join uploadDir safeName), realpath uploadDir with
    | some path, some uploadRoot =>
        match commonpath path uploadRoot with
        | none => .error internalServerError
        | some common =>
            if common ≠ uploadRoot then .error invalidFilename
            else
              match readFile files path with
              | some content => .ok ⟨path, content, none, some "application/octet-stream"⟩
              | none => .error fileNotFound
    | _, _ => .error internalServerError

end Routes

/-! ## What is served -/

/-- A regular file, served under its normalised path, with the directory as a proper prefix of it by
components. -/
structure Inside {files : Node} (dir : Directory files) (response : FileResponse) : Prop where
  normalised : realpath response.path = some response.path
  regular : readFile files response.path = some response.content
  behind : ∃ root, realpath dir.path = some root ∧
    ∃ rest, rest ≠ [] ∧ names response.path = names root ++ rest

section Inside

variable {files : Node} {dir : Directory files} {root : List Char}

theorem commonpath_realpath {path path' : List Char} {real real' : List Char}
    (h : realpath path = some real) (h' : realpath path' = some real') :
    commonpath real real' = some real' ↔ names real' <+: names real := by
  obtain ⟨_, hentries, -, rfl⟩ := realpath_eq_some h
  obtain ⟨_, hentries', -, rfl⟩ := realpath_eq_some h'
  rw [commonpath_eq_iff hentries hentries', names_rooted hentries, names_rooted hentries']

theorem names_injective {path path' : List Char} {real real' : List Char}
    (h : realpath path = some real) (h' : realpath path' = some real')
    (heq : names real = names real') : real = real' := by
  obtain ⟨_, hentries, -, rfl⟩ := realpath_eq_some h
  obtain ⟨_, hentries', -, rfl⟩ := realpath_eq_some h'
  rw [names_rooted hentries, names_rooted hentries'] at heq
  rw [heq]

/-- A regular file whose path has the directory in front of it is not the directory itself. -/
theorem inside_of_prefix {path : List Char} {response : FileResponse}
    (hroot : realpath dir.path = some root) (hreal : realpath path = some response.path)
    (hbefore : names root <+: names response.path)
    (hfile : readFile files response.path = some response.content) : Inside dir response where
  normalised := by
    obtain ⟨_, hentries, hnul, heq⟩ := realpath_eq_some hreal
    rw [heq]
    exact realpath_rooted hentries hnul
  regular := hfile
  behind := by
    obtain ⟨rest, hrest⟩ := hbefore
    refine ⟨root, hroot, rest, ?_, hrest.symm⟩
    rintro rfl
    rw [List.append_nil] at hrest
    have hsame : root = response.path := names_injective hroot hreal hrest
    have hnone := dir.notFile root hroot
    rw [hsame, hfile] at hnone
    cases hnone

theorem candidateFile_inside {fullPath : List Char} {response : FileResponse}
    (hroot : realpath dir.path = some root)
    (h : candidateFile files root fullPath = .ok (some response)) : Inside dir response := by
  unfold candidateFile at h
  split at h
  · cases h
  split at h
  · cases h
  rename_i candidate hreal
  split at h
  · cases h
  rename_i common hcommon
  split at h
  · rename_i heq
    rw [heq, commonpath_realpath hreal hroot] at hcommon
    cases hfile : readFile files candidate with
    | none =>
        rw [hfile] at h
        cases h
    | some content =>
        rw [hfile] at h
        cases h
        exact inside_of_prefix hroot hreal hcommon hfile
  · cases h

theorem serveSpa_inside {fullPath : List Char} {response : FileResponse}
    (h : serveSpa files dir.path fullPath = .ok (.file response)) : Inside dir response := by
  unfold serveSpa at h
  split at h
  · cases h
  rename_i staticRoot hroot
  split at h
  · cases h
  · rename_i found hfound
    cases h
    exact candidateFile_inside hroot hfound
  · dsimp only at h
    split at h
    · rename_i content hfile
      cases h
      have hindex : Plain "index.html".toList := by decide
      obtain ⟨hreal, hnames⟩ := realpath_join hroot hindex (by simp [Unbroken, isSep]) (by decide)
      exact inside_of_prefix hroot hreal ⟨_, hnames.symm⟩ hfile
    · cases h

theorem downloadAgentExe_inside {filename : List Char} {response : FileResponse}
    (h : downloadAgentExe files dir.path filename = .ok response) : Inside dir response := by
  unfold downloadAgentExe at h
  dsimp only at h
  split at h
  · cases h
  split at h
  · rename_i path root hreal hroot
    split at h
    · cases h
    rename_i common hcommon
    split at h
    · cases h
    rename_i heq
    split at h
    · rename_i content hfile
      cases h
      rw [not_not.mp heq, commonpath_realpath hreal hroot] at hcommon
      exact inside_of_prefix hroot hreal hcommon hfile
    · cases h
  · cases h

end Inside

/-- **The web server** serves its static tree only, and of the uploads only what was uploaded. -/
theorem served_inside (files : Node) (static upload : Directory files) :
    (∀ fullPath response, serveSpa files static.path fullPath = .ok (.file response) →
      Inside static response) ∧
    ∀ filename response, downloadAgentExe files upload.path filename = .ok response →
      Inside upload response :=
  ⟨fun _ _ h => serveSpa_inside h, fun _ _ h => downloadAgentExe_inside h⟩

/-! ### A site with a sibling of the same beginning -/

def site : Node := .dir [("srv".toList, .dir
  [("static".toList, .dir [("app.js".toList, .file [1]), ("index.html".toList, .file [2])]),
    ("static-old".toList, .dir [("key".toList, .file [3])])])]

def staticDir : Directory site where
  path := "/srv/static".toList
  absolute := rfl
  notFile root hroot := by
    have hreal : realpath "/srv/static".toList = some "/srv/static".toList := by decide +kernel
    rw [hreal] at hroot
    cases hroot
    decide +kernel

theorem app_inside :
    serveSpa site staticDir.path "x/..//./app.js".toList =
        .ok (.file (noCacheFile "/srv/static/app.js".toList [1])) ∧
      Inside staticDir (noCacheFile "/srv/static/app.js".toList [1]) :=
  have h : serveSpa site staticDir.path "x/..//./app.js".toList =
      .ok (.file (noCacheFile "/srv/static/app.js".toList [1])) := by decide
  ⟨h, (served_inside site staticDir staticDir).1 _ _ h⟩

example : serveSpa site staticDir.path "../static-old/key".toList =
    .ok (.file (noCacheFile "/srv/static/index.html".toList [2])) := by decide

end LanAgent.StaticFiles
