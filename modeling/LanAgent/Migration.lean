import LanAgent.Library.Table

/-!
# The old data directory — `migrateOldData` of `agent/config.go`

At the start of the service every entry of the old directory is renamed into the new ones, and what
is left of the old tree is removed.  The results of the renames are not looked at: an entry that
stays behind is removed with the tree, and a file that stood in the new place is replaced.
`lossless_iff` says for which outcomes of the renames and removals no file is lost.
-/

namespace LanAgent.Migration

open Library

/-! ## The directories -/

/-- An entry of a directory; the files of a directory are given by the names that lead to them. -/
inductive Entry (Content : Type*) where
  | file (content : Content)
  | dir (files : String → List String → Option Content)

namespace Entry

variable {Content : Type*}

/-- The content of the file below the entry, of the entry itself where `below` is empty. -/
def at? : Entry Content → List String → Option Content
  | file content, [] => some content
  | file _, _ :: _ => none
  | dir _, [] => none
  | dir files, name :: below => files name below

def isDir : Entry Content → Bool
  | file _ => false
  | dir _ => true

end Entry

/-- An entry of the old directory, with its name as it is spelled. -/
structure OldEntry (Content : Type*) where
  name : String
  entry : Entry Content

inductive NewDir where
  | data
  | logs
  deriving DecidableEq, Repr

section Statements

variable {Content : Type*} (fold : String → String)

/-- The old directory: `fold` takes a name to the one that stands for all spellings of it. -/
abbrev OldDir (Content : Type*) :=
  Table (OldEntry Content) (fun e => fold e.name)

/-- What the new directories hold, by folded names. -/
abbrev NewDirs (Content : Type*) := NewDir → String → Option (Entry Content)

/-- How the calls to the file system end. -/
structure Outcomes where
  /-- `os.ReadDir` lists the old directory. -/
  lists : Bool
  /-- The rename of an entry takes effect unless a directory stands in its place. -/
  renames : String → Bool
  /-- `os.RemoveAll` removes this file of an entry. -/
  removes : String → List String → Bool

/-- The old directory, `none` where there is none, and the new ones. -/
structure Disk (Content : Type*) where
  old : Option (OldDir fold Content)
  new : NewDirs Content

/-! ## The migration -/

def newDir (name : String) : NewDir :=
  if name = "setup.log" ∨ name = "agent.log" then .logs else .data

variable (outcomes : Outcomes)

/-- What stands where the entry is to go. -/
def standing (new : NewDirs Content) (e : OldEntry Content) : Option (Entry Content) :=
  new (newDir e.name) (fold e.name)

/-- `os.Rename` takes effect. -/
def moves (new : NewDirs Content) (e : OldEntry Content) : Bool :=
  outcomes.renames e.name && !(standing fold new e).any Entry.isDir

def put (new : NewDirs Content) (e : OldEntry Content) : NewDirs Content :=
  Function.update new (newDir e.name)
    (Function.update (new (newDir e.name)) (fold e.name) (some e.entry))

/-- The loop over the entries: those that stay behind, and the new directories. -/
def moveAll (new : NewDirs Content) : List (OldEntry Content) →
    List (OldEntry Content) × NewDirs Content
  | [] => ([], new)
  | e :: entries =>
      if moves fold outcomes new e then moveAll (put fold new e) entries
      else
        let rest := moveAll new entries
        (e :: rest.1, rest.2)

abbrev Files (Content : Type*) := String → List String → Option Content

def filesOf (entries : List (OldEntry Content)) : Files Content := fun key below =>
  (entries.find? (fun e => fold e.name = key)).bind (fun e => e.entry.at? below)

/-- `os.RemoveAll`: the files it leaves. -/
def removeAll (entries : List (OldEntry Content)) : Files Content := fun key below =>
  (entries.find? (fun e => fold e.name = key)).bind (fun e =>
    if outcomes.removes e.name below then none else e.entry.at? below)

/-- The files in the old directory and the new directories after `migrateOldData`. -/
def migrateOldData (disk : Disk fold Content) : Files Content × NewDirs Content :=
  match disk.old with
  | none => (fun _ _ => none, disk.new)
  | some old =>
      if outcomes.lists = false then (filesOf fold old.rows, disk.new)
      else
        let moved := moveAll fold outcomes disk.new old.rows
        (removeAll fold outcomes moved.1, moved.2)

/-! ## The property and its condition -/

def fileAt (new : NewDirs Content) (d : NewDir) (key : String) (below : List String) :
    Option Content :=
  (new d key).bind (fun e => e.at? below)

/-- No file is lost: those of the old directory are in their new place or still in the old one, and
those of the new directories are as they were. -/
structure Lossless (disk : Disk fold Content) (result : Files Content × NewDirs Content) :
    Prop where
  old : ∀ old ∈ disk.old, ∀ e ∈ old, ∀ below content, e.entry.at? below = some content →
    fileAt result.2 (newDir e.name) (fold e.name) below = some content ∨
      result.1 (fold e.name) below = some content
  new : ∀ d key below content, fileAt disk.new d key below = some content →
    fileAt result.2 d key below = some content

/-- Nothing of the entry is lost, and nothing for it: it moves to a free place, or stays behind with
files that cannot be removed; files that are in the new place anyway apart. -/
def Harmless (new : NewDirs Content) (e : OldEntry Content) : Prop :=
  if moves fold outcomes new e then
    ∀ content, standing fold new e = some (.file content) → e.entry.at? [] = some content
  else
    ∀ below content, e.entry.at? below = some content →
      outcomes.removes e.name below = false ∨
        fileAt new (newDir e.name) (fold e.name) below = some content

end Statements

/-! ## One rename -/

section Moves

variable {Content : Type*} {fold : String → String} {outcomes : Outcomes}
  {new : NewDirs Content} {e e' : OldEntry Content}

@[simp] theorem standing_put_self : standing fold (put fold new e) e = some e.entry := by
  rw [standing, put, Function.update_self, Function.update_self]

theorem put_of_ne {d : NewDir} {key : String} (h : newDir e.name = d → fold e.name ≠ key) :
    put fold new e d key = new d key := by
  unfold put
  by_cases hd : d = newDir e.name
  · rw [hd, Function.update_self, Function.update_of_ne (h hd.symm).symm]
  · rw [Function.update_of_ne hd]

theorem standing_put_of_ne (h : fold e.name ≠ fold e'.name) :
    standing fold (put fold new e) e' = standing fold new e' :=
  put_of_ne fun _ => h

theorem moves_congr {new' : NewDirs Content} (h : standing fold new' e = standing fold new e) :
    moves fold outcomes new' e = moves fold outcomes new e := by
  rw [moves, moves, h]

/-- A directory is not replaced. -/
theorem exists_file_of_moves (h : moves fold outcomes new e = true) {s : Entry Content}
    (hs : standing fold new e = some s) : ∃ content, s = .file content := by
  cases s with
  | file content => exact ⟨content, rfl⟩
  | dir files =>
      rw [moves, hs] at h
      simp [Entry.isDir] at h

/-! ## The loop -/

variable {entries : List (OldEntry Content)}

theorem moveAll_of_untouched {d : NewDir} {key : String}
    (h : ∀ e ∈ entries, newDir e.name = d → fold e.name ≠ key) :
    (moveAll fold outcomes new entries).2 d key = new d key := by
  induction entries generalizing new with
  | nil => rfl
  | cons e entries ih =>
      have hrest : ∀ e ∈ entries, newDir e.name = d → fold e.name ≠ key := fun e he =>
        h e (List.mem_cons_of_mem _ he)
      unfold moveAll
      split
      · rw [ih hrest, put_of_ne (h e List.mem_cons_self)]
      · exact ih hrest

section Distinct

variable (hnodup : (entries.map (fun e => fold e.name)).Nodup)

include hnodup

/-- The renames do not get in each other's way: an entry finds its place as it was. -/
theorem moveAll_left : (moveAll fold outcomes new entries).1 =
    entries.filter (fun e => !moves fold outcomes new e) := by
  induction entries generalizing new with
  | nil => rfl
  | cons e entries ih =>
      rw [List.map_cons, List.nodup_cons] at hnodup
      unfold moveAll
      by_cases hmoves : moves fold outcomes new e = true
      · have hsame : ∀ e' ∈ entries, (!moves fold outcomes (put fold new e) e') =
            !moves fold outcomes new e' := by
          intro e' he'
          rw [moves_congr (standing_put_of_ne fun heq => hnodup.1 ?_)]
          rw [heq]
          exact List.mem_map_of_mem he'
        rw [if_pos hmoves, ih hnodup.2, List.filter_cons_of_neg (by simp [hmoves]),
          List.filter_congr hsame]
      · rw [if_neg hmoves, List.filter_cons_of_pos (by simpa using hmoves), ← ih hnodup.2]

theorem standing_moveAll (he : e ∈ entries) :
    standing fold (moveAll fold outcomes new entries).2 e =
      if moves fold outcomes new e then some e.entry else standing fold new e := by
  induction entries generalizing new with
  | nil => cases he
  | cons first entries ih =>
      rw [List.map_cons, List.nodup_cons] at hnodup
      unfold moveAll
      rcases List.mem_cons.mp he with rfl | he
      · -- no later entry has the same place
        have huntouched : ∀ new' : NewDirs Content,
            standing fold (moveAll fold outcomes new' entries).2 e = standing fold new' e := by
          intro new'
          refine moveAll_of_untouched fun e' he' _ heq => hnodup.1 ?_
          exact heq ▸ List.mem_map_of_mem he'
        split
        · rw [huntouched, standing_put_self]
        · exact huntouched new
      · have hne : fold first.name ≠ fold e.name := by
          intro heq
          rw [heq] at hnodup
          exact hnodup.1 (List.mem_map_of_mem he)
        split
        · rw [ih hnodup.2 he, moves_congr (standing_put_of_ne hne), standing_put_of_ne hne]
        · exact ih hnodup.2 he

end Distinct

end Moves

/-! ## The migration of a directory that is listed -/

section Listed

variable {Content : Type*} {fold : String → String} {outcomes : Outcomes}
  {old : OldDir fold Content} {new : NewDirs Content} {e : OldEntry Content}

/-- What the removal leaves of an entry. -/
theorem removeAll_moveAll (he : e ∈ old) (below : List String) :
    removeAll fold outcomes (moveAll fold outcomes new old.rows).1 (fold e.name) below =
      if moves fold outcomes new e ∨ outcomes.removes e.name below then none
      else e.entry.at? below := by
  rw [removeAll, moveAll_left old.nodup]
  cases hfind : (old.rows.filter (fun e => !moves fold outcomes new e)).find?
      (fun e' => fold e'.name = fold e.name) with
  | none =>
      -- an entry that has stayed behind would be found
      have hmoves : moves fold outcomes new e = true := by
        by_contra hstays
        have hnone := List.find?_eq_none.mp hfind e
          (List.mem_filter.mpr ⟨he, by simpa using hstays⟩)
        simp at hnone
      rw [if_pos (.inl hmoves), Option.bind_none]
  | some e' =>
      have hmem := List.mem_filter.mp (List.mem_of_find?_eq_some hfind)
      have hkey : fold e'.name = fold e.name := by simpa using List.find?_some hfind
      obtain rfl := old.eq_of_key_eq hmem.1 he hkey
      have hstays : ¬moves fold outcomes new e' = true := by simpa using hmem.2
      rw [Option.bind_some]
      simp [hstays]

theorem fileAt_moveAll (he : e ∈ old) (below : List String) :
    fileAt (moveAll fold outcomes new old.rows).2 (newDir e.name) (fold e.name) below =
      if moves fold outcomes new e then e.entry.at? below
      else fileAt new (newDir e.name) (fold e.name) below := by
  have hstanding : standing fold (moveAll fold outcomes new old.rows).2 e =
      if moves fold outcomes new e then some e.entry else standing fold new e :=
    standing_moveAll old.nodup he
  rw [standing] at hstanding
  rw [fileAt, hstanding]
  split
  · rw [Option.bind_some]
  · rfl

theorem harmless_of_lossless
    (h : Lossless fold ⟨some old, new⟩
      (removeAll fold outcomes (moveAll fold outcomes new old.rows).1,
      (moveAll fold outcomes new old.rows).2)) (he : e ∈ old) : Harmless fold outcomes new e := by
  unfold Harmless
  split
  · rename_i hmoves
    intro content hstanding
    -- the file that stood there is where the entry is now
    have hbefore : fileAt new (newDir e.name) (fold e.name) [] = some content := by
      rw [standing] at hstanding
      rw [fileAt, hstanding]
      rfl
    have hafter := h.new _ _ _ _ hbefore
    rwa [fileAt_moveAll he, if_pos hmoves] at hafter
  · rename_i hstays
    intro below content hfile
    rcases h.old old rfl e he below content hfile with hmoved | hleft
    · right
      rwa [fileAt_moveAll he, if_neg hstays] at hmoved
    · left
      dsimp only at hleft
      rw [removeAll_moveAll he] at hleft
      by_contra hremoved
      rw [if_pos (.inr (by simpa using hremoved))] at hleft
      cases hleft

theorem lossless_of_harmless (h : ∀ e ∈ old, Harmless fold outcomes new e) :
    Lossless fold ⟨some old, new⟩ (removeAll fold outcomes (moveAll fold outcomes new old.rows).1,
      (moveAll fold outcomes new old.rows).2) := by
  constructor
  · intro old' hold' e he below content hfile
    cases hold'
    have hharmless := h e he
    unfold Harmless at hharmless
    dsimp only
    rw [fileAt_moveAll he, removeAll_moveAll he]
    split at hharmless
    · rename_i hmoves
      left
      rwa [if_pos hmoves]
    · rename_i hstays
      rcases hharmless below content hfile with hremains | hthere
      · right
        rwa [if_neg]
        simp [hstays, hremains]
      · left
        rwa [if_neg hstays]
  · intro d key below content hfile
    by_cases hentry : ∃ e ∈ old, newDir e.name = d ∧ fold e.name = key
    · obtain ⟨e, he, rfl, rfl⟩ := hentry
      have hharmless := h e he
      unfold Harmless at hharmless
      rw [fileAt_moveAll he]
      split at hharmless
      · rename_i hmoves
        -- the file is the entry's place itself
        obtain ⟨s, hs, hat⟩ := Option.bind_eq_some_iff.mp hfile
        obtain ⟨content', rfl⟩ := exists_file_of_moves hmoves hs
        rw [if_pos hmoves]
        cases below with
        | nil =>
            cases hat
            exact hharmless content hs
        | cons name below => cases hat
      · rename_i hstays
        rwa [if_neg hstays]
    · rw [fileAt, moveAll_of_untouched]
      · exact hfile
      · exact fun e he hd hkey => hentry ⟨e, he, hd, hkey⟩

end Listed

/-- **The migration loses nothing** exactly when it does no harm to any entry: where a rename takes
effect, the new place is free or holds a file of the same content, and where it does not, the files
of the entry cannot be removed or are in the new place anyway. -/
theorem lossless_iff {Content : Type*} (fold : String → String) (outcomes : Outcomes)
    (disk : Disk fold Content) :
    Lossless fold disk (migrateOldData fold outcomes disk) ↔
      (outcomes.lists = true → ∀ old ∈ disk.old, ∀ e ∈ old, Harmless fold outcomes disk.new e) := by
  obtain ⟨old?, new⟩ := disk
  cases old? with
  | none =>
      refine iff_of_true ⟨?_, fun _ _ _ _ h => h⟩ ?_
      · exact fun _ hold => nomatch hold
      · exact fun _ _ hold => nomatch hold
  | some old =>
      cases hlists : outcomes.lists with
      | false =>
          refine iff_of_true ⟨?_, ?_⟩ fun h => nomatch h
          · intro old' hold' e he below content hfile
            cases hold'
            right
            have hfound : old.rows.find? (fun e' => fold e'.name = fold e.name) = some e :=
              Table.find?_key he
            rw [migrateOldData]
            dsimp only
            rw [if_pos hlists]
            dsimp only [filesOf]
            rw [hfound]
            exact hfile
          · intro d key below content hfile
            rw [migrateOldData]
            dsimp only
            rwa [if_pos hlists]
      | true =>
          have hmigrated : migrateOldData fold outcomes ⟨some old, new⟩ =
              (removeAll fold outcomes (moveAll fold outcomes new old.rows).1,
                (moveAll fold outcomes new old.rows).2) := by
            rw [migrateOldData]
            dsimp only
            rw [if_neg (by simp [hlists])]
          rw [hmigrated]
          apply Iff.intro
          · intro h _ old' hold' e he
            cases hold'
            exact harmless_of_lossless h he
          · exact fun h => lossless_of_harmless fun e he => h rfl old rfl e he

/-! ### A directory that is there already -/

def unlocked : Outcomes where
  lists := true
  renames _ := true
  removes _ _ := true

/-- `C:\LanAgent\files\report.txt`, and the new `data` has a directory `files`. -/
def twoFilesDirs : Disk id String where
  old := some ⟨[⟨"files", .dir fun name below =>
    if name = "report.txt" ∧ below = [] then some "report" else none⟩], by decide⟩
  new d key := if d = .data ∧ key = "files" then some (.dir fun _ _ => none) else none

/-- The rename fails and the old tree is removed. -/
theorem report_lost : ¬Lossless id twoFilesDirs (migrateOldData id unlocked twoFilesDirs) := by
  intro h
  have hreport := h.old _ rfl _ List.mem_cons_self ["report.txt"] "report" rfl
  revert hreport
  decide

end LanAgent.Migration
