import LanAgent.Library.Components

/-!
# `path/filepath` on Windows

Lexical paths with both slashes as separators: a volume, which is left as it is but for its slashes,
and the names behind it.  A path that is cleaned to one on a drive leads from the root of the drive
through names of entries (`clean_drive`), and cleaning it again changes nothing.
-/

namespace Go.FilePath

open Library.Components

def isPathSeparator (c : Char) : Bool := c = '\\' || c = '/'

def fromSlash (path : List Char) : List Char := path.map (fun c => if c = '/' then '\\' else c)

/-! ## The volume -/

/-- The path begins with `start`, in either case, and nothing or a separator follows. -/
def hasPrefixFold (path start : List Char) : Bool :=
  start.length ≤ path.length &&
    (path.zip start).all (fun (c, d) =>
      if isPathSeparator d then isPathSeparator c else c.toUpper = d.toUpper) &&
    (path[start.length]?).all isPathSeparator

/-- The length of a volume that ends in front of the second separator behind `start`. -/
def uncLen (path : List Char) (start : Nat) : Nat :=
  let host := (path.drop start).takeWhile (fun c => !isPathSeparator c)
  match (path.drop start).drop host.length with
  | [] => path.length
  | _ :: rest =>
      let share := rest.takeWhile (fun c => !isPathSeparator c)
      start + host.length + 1 + share.length

/-- The length of a device path, the name behind its prefix included. -/
def deviceLen (path : List Char) : Nat :=
  if path.length = 3 then 3
  else 4 + ((path.drop 4).takeWhile (fun c => !isPathSeparator c)).length

def volumeNameLen (path : List Char) : Nat :=
  match path with
  | [] => 0
  | c :: rest =>
      -- the drive letter is one byte
      if rest.head? = some ':' ∧ c.toNat < 0x80 then 2
      else if isPathSeparator c = false then 0
      else if hasPrefixFold path "\\\\.\\UNC".toList then uncLen path 8
      else if hasPrefixFold path "\\\\.".toList || hasPrefixFold path "\\\\?".toList ||
          hasPrefixFold path "\\??".toList then deviceLen path
      else if rest.head?.any isPathSeparator then uncLen path 2
      else 0

/-! ## `Clean` -/

/-- The names of a path without a volume, put together again. -/
def cleanNames (path : List Char) : List Char :=
  let rooted := path.head?.any isPathSeparator
  let names := resolve rooted (path.splitOnP isPathSeparator)
  if rooted then '\\' :: ['\\'].intercalate names
  else if names = [] then ['.']
  else ['\\'].intercalate names

/-- A cleaned path must not begin with what looks like a volume when the path had none.  Go leaves
the path as it is when it has not written a byte of its own; here it is when the result is a first
part of the path, which also holds where a byte was changed and then dropped for a `..`
(`ab:c/x/..`). -/
def postClean (path cleaned : List Char) : List Char :=
  if cleaned.isPrefixOf path then cleaned
  else if ':' ∈ cleaned.takeWhile (fun c => !isPathSeparator c) then '.' :: '\\' :: cleaned
  else if "\\??".toList.isPrefixOf cleaned then '\\' :: '.' :: cleaned
  else cleaned

/-- `filepath.Clean`. -/
def clean (path : List Char) : List Char :=
  let volume := path.take (volumeNameLen path)
  match path.drop (volumeNameLen path) with
  | [] =>
      -- a share, or a path that is empty but for a drive
      if volume.length > 1 ∧ (volume.take 2).all isPathSeparator then fromSlash path
      else path ++ ['.']
  | c :: rest =>
      if volume = [] then postClean path (cleanNames (c :: rest))
      else fromSlash volume ++ cleanNames (c :: rest)

/-- `filepath.IsAbs`. -/
def isAbs (path : List Char) : Bool :=
  if volumeNameLen path = 0 then false
  else if (path.take 2).all isPathSeparator then true
  else (path.drop (volumeNameLen path)).head?.any isPathSeparator

/-- `filepath.Join` of two elements. -/
def join (dir name : List Char) : List Char :=
  match dir.getLast? with
  | none => if name = [] then [] else clean name
  | some last =>
      if isPathSeparator last then
        let name := name.dropWhile isPathSeparator
        let start := if dir.length = 1 ∧ "??".toList.isPrefixOf name ∧
          (name[2]?).all isPathSeparator then ['.', '\\'] else []
        clean (dir ++ start ++ name)
      else if last = ':' then clean (dir ++ name)
      else clean (dir ++ '\\' :: name)

/-! ## Paths on a drive -/

theorem isPathSeparator_backslash : isPathSeparator '\\' = true := rfl

/-- Only a drive begins with something else than a separator. -/
theorem volume_cases {c : Char} {rest : List Char} (h : 0 < volumeNameLen (c :: rest)) :
    (volumeNameLen (c :: rest) = 2 ∧ rest.head? = some ':') ∨ isPathSeparator c = true := by
  unfold volumeNameLen at h ⊢
  dsimp only at h ⊢
  split
  · rename_i hdrive
    exact .inl ⟨rfl, hdrive.1⟩
  · rename_i hdrive
    rw [if_neg hdrive] at h
    split at h
    · cases h
    · rename_i hsep
      exact .inr (by simpa using hsep)

theorem volumeNameLen_drive {c : Char} (h : c.toNat < 0x80) (rest : List Char) :
    volumeNameLen (c :: ':' :: rest) = 2 := by
  unfold volumeNameLen
  exact if_pos ⟨rfl, h⟩

/-- What is left of a rooted path without a volume. -/
theorem cleanNames_rooted {path rest : List Char} (h : cleanNames path = '\\' :: rest) :
    ∃ names, (∀ name ∈ names, Plain name ∧ Unbroken isPathSeparator name) ∧
      rest = ['\\'].intercalate names := by
  have hunbroken : ∀ {rooted name}, name ∈ resolve rooted (path.splitOnP isPathSeparator) →
      name ≠ [] ∧ Unbroken isPathSeparator name := by
    intro rooted name hname
    rcases of_mem_resolve hname with ⟨hplain, hmem⟩ | ⟨-, rfl⟩
    · exact ⟨hplain.1, unbroken_of_mem_splitOnP hmem⟩
    · exact ⟨List.cons_ne_nil _ _, by simp [Unbroken, dotdot, isPathSeparator]⟩
  unfold cleanNames at h
  dsimp only at h
  split at h
  · rename_i hrooted
    rw [hrooted] at h
    refine ⟨_, fun name hname => ⟨(plain_of_mem_resolve hname).1, (hunbroken hname).2⟩, ?_⟩
    exact (List.cons.inj h).2.symm
  · split at h
    · cases h
    · -- the first name of a path that is not rooted begins with something else
      rename_i hnames
      obtain ⟨first, names, heq⟩ := List.exists_cons_of_ne_nil hnames
      obtain ⟨hfirst, hbroken⟩ := hunbroken (heq ▸ List.mem_cons_self)
      obtain ⟨c, first, rfl⟩ := List.exists_cons_of_ne_nil hfirst
      rw [heq] at h
      have hc : c = '\\' := by
        cases names with
        | nil => exact (List.cons.inj h).1
        | cons next names => exact (List.cons.inj (List.intercalate_cons_cons ▸ h)).1
      exact absurd (hbroken c List.mem_cons_self) (by rw [hc]; decide)

/-- **A path on a drive** is cleaned to the root of the drive and the names of entries. -/
theorem clean_drive {path rest : List Char} {d : Char} (hd : isPathSeparator d = false)
    (hlow : d.toNat < 0x80) (h : clean path = d :: ':' :: '\\' :: rest) :
    ∃ names, (∀ name ∈ names, Plain name ∧ Unbroken isPathSeparator name) ∧
      rest = ['\\'].intercalate names := by
  have hslash : ∀ {text : List Char}, '\\' :: text ≠ d :: ':' :: '\\' :: rest := by
    intro text heq
    rw [← (List.cons.inj heq).1] at hd
    cases hd
  have hfrom : ∀ {c : Char}, isPathSeparator c = true → (if c = '/' then '\\' else c) = '\\' := by
    intro c hc
    by_cases hforward : c = '/'
    · exact if_pos hforward
    · rw [if_neg hforward]
      simpa [isPathSeparator, hforward] using hc
  cases path with
  | nil => exact absurd h (by simp [clean, volumeNameLen])
  | cons c path =>
      unfold clean at h
      dsimp only at h
      rcases Nat.eq_zero_or_pos (volumeNameLen (c :: path)) with hnone | hvolume
      · -- without a volume, a path that is cleaned to one on a drive is taken as it is
        rw [hnone, List.drop_zero, List.take_zero] at h
        dsimp only at h
        rw [if_pos rfl] at h
        unfold postClean at h
        split at h
        · rename_i hpath
          rw [h] at hpath
          obtain ⟨behind, heq⟩ := List.isPrefixOf_iff_prefix.mp hpath
          rw [← heq] at hnone
          exact absurd hnone (by simp [volumeNameLen_drive hlow])
        · split at h
          · cases h
          · split at h
            · exact absurd h hslash
            · rename_i hvolume _
              rw [h] at hvolume
              have hcolon : isPathSeparator ':' = false := rfl
              exact absurd (by simp [List.takeWhile_cons, hd, hcolon]) hvolume
      rcases volume_cases hvolume with ⟨hdrive, hcolon⟩ | hsep
      · have hne : path ≠ [] := by
          rintro rfl
          cases hcolon
        obtain ⟨_, path, rfl⟩ := List.exists_cons_of_ne_nil hne
        obtain rfl := Option.some.inj hcolon
        rw [hdrive] at h
        cases path with
        | nil => exact absurd h (by simp [isPathSeparator])
        | cons next path =>
            rw [List.drop_succ_cons, List.drop_succ_cons, List.drop_zero] at h
            dsimp only at h
            rw [if_neg (show List.take 2 (c :: ':' :: next :: path) ≠ [] from
              List.cons_ne_nil _ _)] at h
            exact cleanNames_rooted (List.cons.inj (List.cons.inj h).2).2
      · -- the separator in front of any other volume stays
        obtain ⟨n, hn⟩ := Nat.exists_eq_add_of_lt hvolume
        rw [hn, Nat.zero_add, List.take_succ_cons] at h
        split at h
        · split at h
          · rw [fromSlash, List.map_cons, hfrom hsep] at h
            exact absurd h hslash
          · rw [List.cons_append] at h
            rw [(List.cons.inj h).1, hd] at hsep
            cases hsep
        · rw [if_neg (List.cons_ne_nil _ _), fromSlash, List.map_cons, hfrom hsep] at h
          exact absurd h hslash

/-- A cleaned path on a drive is not changed again. -/
theorem clean_clean_drive {d : Char} {names : List Name} (hd : isPathSeparator d = false)
    (hlow : d.toNat < 0x80) (h : ∀ name ∈ names, Plain name ∧ Unbroken isPathSeparator name) :
    clean (d :: ':' :: '\\' :: ['\\'].intercalate names) =
      d :: ':' :: '\\' :: ['\\'].intercalate names := by
  have hnames : cleanNames ('\\' :: ['\\'].intercalate names) =
      '\\' :: ['\\'].intercalate names := by
    have hresolve : resolve true (('\\' :: ['\\'].intercalate names).splitOnP isPathSeparator) =
        names := by
      by_cases hnil : names = []
      · rw [hnil]
        rfl
      · rw [cons_intercalate hnil]
        exact resolve_below isPathSeparator_backslash (fun name hname => (h name hname).1)
          fun name hname => (h name hname).2
    unfold cleanNames
    dsimp only [List.head?_cons, Option.any_some]
    rw [isPathSeparator_backslash, hresolve, if_pos rfl]
  have hdrive : fromSlash [d, ':'] = [d, ':'] := by
    have hne : d ≠ '/' := by
      rintro rfl
      cases hd
    simp [fromSlash, hne]
  unfold clean
  rw [volumeNameLen_drive hlow]
  rw [List.drop_succ_cons, List.drop_succ_cons, List.drop_zero]
  dsimp only
  rw [if_neg (show List.take 2 (d :: ':' :: '\\' :: ['\\'].intercalate names) ≠ [] from
    List.cons_ne_nil _ _), hnames]
  rw [List.take_succ_cons, List.take_succ_cons, List.take_zero, hdrive]
  rfl

end Go.FilePath
