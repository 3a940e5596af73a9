import LanAgent.Library.Components

/-!
# `os.path` on POSIX

Paths in a file system without symbolic links, where `realpath` is lexical and nothing is above the
root.  The common path of two paths goes by their names, not by their characters
(`commonpath_eq_iff`).
-/

namespace Python.PosixPath

open Library.Components

def isSep (c : Char) : Bool := c = '/'

def isabs (path : List Char) : Bool := path.head? = some '/'

/-- `os.path.join` of two paths; an absolute one drops what is in front of it. -/
def join (path name : List Char) : List Char :=
  if isabs name then name
  else if path = [] ∨ path.getLast? = some '/' then path ++ name
  else path ++ '/' :: name

def basename (path : List Char) : List Char :=
  (path.reverse.takeWhile (fun c => !isSep c)).reverse

def rooted (names : List Name) : List Char := '/' :: ['/'].intercalate names

/-- `os.path.realpath` of an absolute path; `none` where looking up a name with a NUL raises
`ValueError`. -/
def realpath (path : List Char) : Option (List Char) :=
  if '\x00' ∈ path then none else some (rooted (resolve true (path.splitOnP isSep)))

def names (path : List Char) : List Name :=
  (path.splitOnP isSep).filter (fun name => name ≠ [] ∧ name ≠ dot)

def commonNames : List Name → List Name → List Name
  | first :: firsts, second :: seconds =>
      if first = second then first :: commonNames firsts seconds else []
  | _, _ => []

/-- `os.path.commonpath` of two paths; `none` where one is absolute and the other is not.  The
source compares the smaller list of names with the larger one, which differ first where the two do.
-/
def commonpath (first second : List Char) : Option (List Char) :=
  if isabs first = isabs second then
    let common := ['/'].intercalate (commonNames (names first) (names second))
    some (if isabs first then '/' :: common else common)
  else none

/-! ## Entries -/

def Entries (path : List Name) : Prop := ∀ name ∈ path, Plain name ∧ Unbroken isSep name

theorem entries_resolve (path : List Char) : Entries (resolve true (path.splitOnP isSep)) := by
  intro name hname
  obtain ⟨hplain, hmem⟩ := plain_of_mem_resolve hname
  exact ⟨hplain, unbroken_of_mem_splitOnP hmem⟩

theorem splitOnP_rooted {path : List Name} (h : Entries path) :
    (rooted path).splitOnP isSep = if path = [] then [[], []] else [] :: path := by
  unfold rooted
  split
  · rename_i hnil
    rw [hnil]
    rfl
  · rename_i hne
    rw [cons_intercalate hne, splitOnP_below rfl fun name hname => (h name hname).2]

theorem names_rooted {path : List Name} (h : Entries path) : names (rooted path) = path := by
  unfold names
  rw [splitOnP_rooted h]
  split
  · rename_i hnil
    rw [hnil]
    rfl
  · rw [List.filter_cons_of_neg (by simp)]
    exact List.filter_eq_self.mpr fun name hname => by
      simpa using ⟨(h name hname).1.1, (h name hname).1.2.1⟩

theorem rooted_injective {path path' : List Name} (h : Entries path) (h' : Entries path')
    (heq : rooted path = rooted path') : path = path' := by
  rw [← names_rooted h, heq, names_rooted h']

theorem resolve_rooted {path : List Name} (h : Entries path) :
    resolve true ((rooted path).splitOnP isSep) = path := by
  rw [splitOnP_rooted h]
  split
  · rename_i hnil
    rw [hnil]
    rfl
  · rw [resolve_nil_cons, resolve_of_plain true fun name hname => (h name hname).1]

theorem rooted_eq_below {path : List Name} (h : path ≠ []) : rooted path = below '/' path :=
  cons_intercalate h

theorem realpath_eq_some {path real : List Char} (h : realpath path = some real) :
    ∃ path', Entries path' ∧ (∀ name ∈ path', '\x00' ∉ name) ∧ real = rooted path' := by
  unfold realpath at h
  split at h
  · cases h
  · rename_i hnul
    refine ⟨_, entries_resolve path, fun name hname hmem => hnul ?_, (Option.some.inj h).symm⟩
    exact (of_mem_splitOnP (plain_of_mem_resolve hname).2 _ hmem).1

/-- A path that is resolved is left as it is. -/
theorem realpath_rooted {path : List Name} (h : Entries path)
    (hnul : ∀ name ∈ path, '\x00' ∉ name) :
    realpath (rooted path) = some (rooted path) := by
  have hnul' : '\x00' ∉ rooted path := by
    intro hmem
    by_cases hnil : path = []
    · rw [hnil] at hmem
      exact absurd hmem (by decide)
    · rw [rooted_eq_below hnil, below, List.mem_flatMap] at hmem
      obtain ⟨name, hname, hmem⟩ := hmem
      exact hnul name hname (by simpa using hmem)
  rw [realpath, if_neg hnul', resolve_rooted h]

theorem isabs_eq_false {name : Name} (hname : Plain name) (hunbroken : Unbroken isSep name) :
    isabs name = false := by
  obtain ⟨c, name, rfl⟩ := List.exists_cons_of_ne_nil hname.1
  have hc := hunbroken c List.mem_cons_self
  simpa [isabs, isSep] using hc

theorem join_rooted {path : List Name} {name : Name} (hpath : Entries path) (hname : Plain name)
    (hunbroken : Unbroken isSep name) : join (rooted path) name = rooted (path ++ [name]) := by
  unfold join
  rw [isabs_eq_false hname hunbroken, if_neg Bool.false_ne_true]
  by_cases hnil : path = []
  · rw [hnil, if_pos (by decide)]
    simp [rooted]
  · -- the last character of a path with names is none of the separators
    have hlast : (rooted path).getLast? ≠ some '/' := by
      rcases List.eq_nil_or_concat path with rfl | ⟨front, last, rfl⟩
      · exact absurd rfl hnil
      · obtain ⟨hplain, hbroken⟩ := hpath last (by simp)
        have hend : below '/' [last] = '/' :: last := by simp [below]
        intro h
        rw [rooted_eq_below hnil, List.concat_eq_append, below_append, hend, List.getLast?_append,
          List.getLast?_cons_of_ne_nil hplain.1] at h
        have hmem : '/' ∈ last := by
          rw [List.getLast?_eq_some_getLast hplain.1] at h
          exact Option.some.inj h ▸ List.getLast_mem hplain.1
        exact absurd (hbroken '/' hmem) (by decide)
    have hne : rooted path ≠ [] := List.cons_ne_nil _ _
    rw [if_neg (not_or.mpr ⟨hne, hlast⟩), rooted_eq_below hnil,
      rooted_eq_below (by simp), below_append, below_cons]
    simp [below]

/-- **An entry** of a directory, from the path of the directory and the name. -/
theorem realpath_join {path root : List Char} {name : Name} (hroot : realpath path = some root)
    (hname : Plain name) (hunbroken : Unbroken isSep name) (hnul : '\x00' ∉ name) :
    realpath (join root name) = some (join root name) ∧
      names (join root name) = names root ++ [name] := by
  obtain ⟨path', hentries, hnuls, rfl⟩ := realpath_eq_some hroot
  have hall : Entries (path' ++ [name]) := by
    intro name' hname'
    rcases List.mem_append.mp hname' with hname' | hname'
    · exact hentries name' hname'
    · rw [List.mem_singleton.mp hname']
      exact ⟨hname, hunbroken⟩
  rw [join_rooted hentries hname hunbroken, names_rooted hall, names_rooted hentries]
  refine ⟨realpath_rooted hall fun name' hname' => ?_, rfl⟩
  rcases List.mem_append.mp hname' with hname' | hname'
  · exact hnuls name' hname'
  · rw [List.mem_singleton.mp hname']
    exact hnul

/-- The same entry, found before the path of the directory is resolved. -/
theorem realpath_join_of_isabs {path root : List Char} {name : Name} (habs : isabs path = true)
    (hroot : realpath path = some root) (hname : Plain name) (hunbroken : Unbroken isSep name)
    (hnul : '\x00' ∉ name) : realpath (join path name) = some (join root name) := by
  unfold realpath at hroot
  split at hroot
  · cases hroot
  rename_i hnuls
  have hsingle : name.splitOnP isSep = [name] := List.splitOnP_eq_singleton hunbroken
  have hjoin : '\x00' ∉ join path name ∧ resolve true ((join path name).splitOnP isSep) =
      resolve true (path.splitOnP isSep) ++ [name] := by
    have hne : path ≠ [] := by
      rintro rfl
      cases habs
    unfold join
    rw [isabs_eq_false hname hunbroken, if_neg Bool.false_ne_true]
    rcases List.eq_nil_or_concat path with rfl | ⟨front, last, rfl⟩
    · exact absurd rfl hne
    by_cases hlast : last = '/'
    · -- the path ends in a separator, behind which there is an empty name
      rw [hlast, List.concat_eq_append] at hnuls ⊢
      rw [if_pos (.inr (by simp)), List.append_assoc, List.singleton_append,
        List.splitOnP_append_cons _ _ rfl, List.splitOnP_append_cons _ _ rfl, hsingle,
        List.splitOnP_nil, resolve_concat true _ hname, resolve_concat_nil]
      exact ⟨by simpa [hnul] using hnuls, rfl⟩
    · rw [if_neg (not_or.mpr ⟨hne, by simpa using hlast⟩),
        List.splitOnP_append_cons _ _ rfl, hsingle,
        resolve_concat true _ hname]
      exact ⟨by simpa [hnul] using hnuls, rfl⟩
  obtain ⟨hnul', hresolve⟩ := hjoin
  rw [realpath, if_neg hnul', hresolve, ← Option.some.inj hroot,
    join_rooted (entries_resolve path) hname hunbroken]

/-! ## The common path -/

theorem commonNames_starts (firsts seconds : List Name) :
    commonNames firsts seconds <+: firsts := by
  induction firsts generalizing seconds with
  | nil => exact List.prefix_rfl
  | cons first firsts ih =>
      cases seconds with
      | nil => exact List.nil_prefix
      | cons second seconds =>
          unfold commonNames
          split
          · exact List.cons_prefix_cons.mpr ⟨rfl, ih seconds⟩
          · exact List.nil_prefix

theorem commonNames_of_starts {firsts seconds : List Name} (h : seconds <+: firsts) :
    commonNames firsts seconds = seconds := by
  induction seconds generalizing firsts with
  | nil => cases firsts <;> rfl
  | cons second seconds ih =>
      obtain ⟨rest, rfl⟩ := h
      rw [List.cons_append, commonNames, if_pos rfl, ih (List.prefix_append _ _)]

/-- **The common path** of two paths is the second exactly when its names come first in the other.
-/
theorem commonpath_eq_iff {path root : List Name} (hpath : Entries path) (hroot : Entries root) :
    commonpath (rooted path) (rooted root) = some (rooted root) ↔ root <+: path := by
  have hcommon : commonpath (rooted path) (rooted root) =
      some (rooted (commonNames path root)) := by
    have habs : ∀ path, isabs (rooted path) = true := fun _ => rfl
    unfold commonpath
    rw [habs, habs, if_pos rfl, names_rooted hpath, names_rooted hroot]
    rfl
  rw [hcommon, Option.some_inj]
  constructor
  · intro h
    have hentries : Entries (commonNames path root) := fun name hname =>
      hpath name ((commonNames_starts path root).subset hname)
    rw [← rooted_injective hentries hroot h]
    exact commonNames_starts path root
  · intro h
    rw [commonNames_of_starts h]

end Python.PosixPath
