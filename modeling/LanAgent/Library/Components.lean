import Mathlib.Data.List.Basic
import Mathlib.Tactic.Common

/-!
# Components — paths as lists of names

A path is split at its separators into names; `.` stands for the directory it is found in and `..`
for the one above.  `resolve` works the names off from the left.  What it leaves of a rooted path
has neither of the two, and a path that is put together from such names is split into them again.
-/

namespace Library.Components

abbrev Name := List Char

def dot : Name := ['.']

def dotdot : Name := ['.', '.']

/-- The next name behind the directories `above`, the deepest first.  From the root there is no way
up; elsewhere a `..` stays when there is nothing to take back. -/
def enter (rooted : Bool) (above : List Name) (name : Name) : List Name :=
  if name = [] ∨ name = dot then above
  else if name = dotdot then
    match above with
    | [] => if rooted then [] else [dotdot]
    | last :: rest => if last = dotdot then dotdot :: above else rest
  else name :: above

def resolve (rooted : Bool) (names : List Name) : List Name :=
  (names.foldl (enter rooted) []).reverse

/-- The name of an entry of a directory. -/
def Plain (name : Name) : Prop := name ≠ [] ∧ name ≠ dot ∧ name ≠ dotdot

instance (name : Name) : Decidable (Plain name) := inferInstanceAs (Decidable (_ ∧ _ ∧ _))

theorem enter_plain {rooted : Bool} {above : List Name} {name : Name} (h : Plain name) :
    enter rooted above name = name :: above := by
  unfold enter
  rw [if_neg (not_or.mpr ⟨h.1, h.2.1⟩), if_neg h.2.2]

theorem resolve_of_plain (rooted : Bool) {names : List Name} (h : ∀ name ∈ names, Plain name) :
    resolve rooted names = names := by
  have hfold : ∀ above, names.foldl (enter rooted) above = names.reverse ++ above := by
    induction names with
    | nil => exact fun _ => rfl
    | cons name names ih =>
        intro above
        rw [List.foldl_cons, enter_plain (h name List.mem_cons_self),
          ih fun name hname => h name (List.mem_cons_of_mem _ hname)]
        simp
  rw [resolve, hfold, List.append_nil, List.reverse_reverse]

theorem resolve_nil_cons (rooted : Bool) (names : List Name) :
    resolve rooted ([] :: names) = resolve rooted names := rfl

theorem resolve_concat (rooted : Bool) (names : List Name) {name : Name} (h : Plain name) :
    resolve rooted (names ++ [name]) = resolve rooted names ++ [name] := by
  rw [resolve, List.foldl_append, List.foldl_cons, List.foldl_nil, enter_plain h,
    List.reverse_cons]
  rfl

theorem resolve_concat_nil (rooted : Bool) (names : List Name) :
    resolve rooted (names ++ [[]]) = resolve rooted names := by
  rw [resolve, List.foldl_append]
  rfl

/-- The names above after one more: those that were there, the name itself, or a `..`. -/
theorem of_mem_enter {rooted : Bool} {above : List Name} {first name : Name}
    (h : name ∈ enter rooted above first) :
    name ∈ above ∨ (Plain name ∧ name = first) ∨
      (name = dotdot ∧ (rooted = false ∨ dotdot ∈ above)) := by
  unfold enter at h
  split at h
  · exact .inl h
  · rename_i hskip
    split at h
    · split at h
      · cases rooted with
        | true => cases h
        | false => exact .inr (.inr ⟨List.mem_singleton.mp h, .inl rfl⟩)
      · split at h
        · rename_i hlast
          rcases List.mem_cons.mp h with rfl | h
          · exact .inr (.inr ⟨rfl, .inr (hlast ▸ List.mem_cons_self)⟩)
          · exact .inl h
        · exact .inl (List.mem_cons_of_mem _ h)
    · rename_i hup
      rcases List.mem_cons.mp h with rfl | h
      · exact .inr (.inl ⟨⟨fun hnil => hskip (.inl hnil), fun hdot => hskip (.inr hdot), hup⟩, rfl⟩)
      · exact .inl h

/-- **What is left** of a rooted path are names of entries that were in it. -/
theorem of_mem_resolve {rooted : Bool} {names : List Name} {name : Name}
    (h : name ∈ resolve rooted names) :
    (Plain name ∧ name ∈ names) ∨ (rooted = false ∧ name = dotdot) := by
  have hfold : ∀ name ∈ names.foldl (enter rooted) [],
      (Plain name ∧ name ∈ names) ∨ (rooted = false ∧ name = dotdot) := by
    refine List.foldlRecOn names (enter rooted) (motive := fun above => ∀ name ∈ above,
      (Plain name ∧ name ∈ names) ∨ (rooted = false ∧ name = dotdot)) (fun _ h => nomatch h) ?_
    intro above ih first hfirst name hname
    rcases of_mem_enter hname with hname | ⟨hplain, rfl⟩ | ⟨rfl, hup | hup⟩
    · exact ih name hname
    · exact .inl ⟨hplain, hfirst⟩
    · exact .inr ⟨hup, rfl⟩
    · exact ih _ hup
  exact hfold name (List.mem_reverse.mp h)

theorem plain_of_mem_resolve {names : List Name} {name : Name} (h : name ∈ resolve true names) :
    Plain name ∧ name ∈ names := by
  rcases of_mem_resolve h with h | h
  · exact h
  · cases h.1

/-! ## Names and their separators -/

section Names

variable {isSep : Char → Bool} {sep : Char}

def Unbroken (isSep : Char → Bool) (name : Name) : Prop := ∀ c ∈ name, isSep c = false

/-- A name of a path has the characters of the path, the separators apart. -/
theorem of_mem_splitOnP {path : List Char} {name : Name} (h : name ∈ path.splitOnP isSep) :
    ∀ c ∈ name, c ∈ path ∧ isSep c = false := by
  induction path generalizing name with
  | nil =>
      rw [List.splitOnP_nil, List.mem_singleton] at h
      rw [h]
      exact fun _ h => nomatch h
  | cons c path ih =>
      have hbehind : ∀ {name}, name ∈ path.splitOnP isSep →
          ∀ d ∈ name, d ∈ c :: path ∧ isSep d = false := by
        intro name hname d hd
        exact ⟨List.mem_cons_of_mem _ (ih hname d hd).1, (ih hname d hd).2⟩
      rw [List.splitOnP_cons_eq_if_modifyHead] at h
      split at h
      · rcases List.mem_cons.mp h with rfl | h
        · exact fun _ h => nomatch h
        · exact hbehind h
      · rename_i hc
        cases hrest : path.splitOnP isSep with
        | nil => exact absurd hrest (List.splitOnP_ne_nil _ _)
        | cons first names =>
            rw [hrest, List.modifyHead_cons] at h
            rw [hrest] at hbehind
            rcases List.mem_cons.mp h with rfl | h
            · intro d hd
              rcases List.mem_cons.mp hd with rfl | hd
              · exact ⟨List.mem_cons_self, by simpa using hc⟩
              · exact hbehind List.mem_cons_self d hd
            · exact hbehind (List.mem_cons_of_mem _ h)

theorem unbroken_of_mem_splitOnP {path : List Char} {name : Name}
    (h : name ∈ path.splitOnP isSep) : Unbroken isSep name :=
  fun c hc => (of_mem_splitOnP h c hc).2

/-- The path that leads through the names, a separator in front of each. -/
def below (sep : Char) (names : List Name) : List Char := names.flatMap (fun name => sep :: name)

theorem below_cons (sep : Char) (name : Name) (names : List Name) :
    below sep (name :: names) = sep :: (name ++ below sep names) := by
  simp [below]

theorem below_append (sep : Char) (names names' : List Name) :
    below sep (names ++ names') = below sep names ++ below sep names' := List.flatMap_append

theorem cons_intercalate {names : List Name} (h : names ≠ []) :
    sep :: [sep].intercalate names = below sep names := by
  induction names with
  | nil => exact absurd rfl h
  | cons name names ih =>
      rw [below_cons]
      cases names with
      | nil => simp [below]
      | cons next names =>
          rw [← ih (List.cons_ne_nil _ _), List.intercalate_cons_cons]
          simp

variable (hsep : isSep sep = true)

include hsep

/-- **The names of a path** put together from names. -/
theorem splitOnP_below {names : List Name} (h : ∀ name ∈ names, Unbroken isSep name) :
    (below sep names).splitOnP isSep = [] :: names := by
  induction names with
  | nil => exact List.splitOnP_nil
  | cons name names ih =>
      have hrest := ih fun name hname => h name (List.mem_cons_of_mem _ hname)
      rw [below_cons, List.splitOnP_cons_eq_if_modifyHead, if_pos hsep]
      congr 1
      cases names with
      | nil =>
          rw [below, List.flatMap_nil, List.append_nil]
          exact List.splitOnP_eq_singleton (h name List.mem_cons_self)
      | cons next names =>
          rw [below_cons] at hrest ⊢
          rw [List.splitOnP_append_cons_of_forall_mem (h name List.mem_cons_self) _ hsep]
          rw [List.splitOnP_cons_eq_if_modifyHead, if_pos hsep] at hrest
          rw [(List.cons.inj hrest).2]

/-- A path that goes on behind another one goes through the names of the other. -/
theorem eq_append_of_below {names names' : List Name} {rest : List Char}
    (h : ∀ name ∈ names, Unbroken isSep name) (h' : ∀ name ∈ names', Unbroken isSep name)
    (heq : below sep names = below sep names' ++ sep :: rest) :
    names = names' ++ rest.splitOnP isSep := by
  have hsplit := splitOnP_below hsep h
  rw [heq, List.splitOnP_append_cons _ _ hsep, splitOnP_below hsep h', List.cons_append] at hsplit
  exact (List.cons.inj hsplit).2.symm

theorem resolve_below {rooted : Bool} {names : List Name} (hplain : ∀ name ∈ names, Plain name)
    (h : ∀ name ∈ names, Unbroken isSep name) :
    resolve rooted ((below sep names).splitOnP isSep) = names := by
  rw [splitOnP_below hsep h, resolve_nil_cons, resolve_of_plain rooted hplain]

end Names

end Library.Components
