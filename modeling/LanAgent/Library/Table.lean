import Mathlib.Tactic.Common
import Mathlib.Data.List.Nodup

/-!
# Tables — rows with a primary key

A table is the list of its rows together with the proof that no two rows carry the same key, so a
table that violates its primary key cannot be built.  The operations are those of a relational
store: look a key up, insert a row (refused when the key is taken), rewrite the rows a condition
selects.  Each operation comes with its membership and lookup lemmas.
-/

namespace Library

structure Table (Row : Type*) {Key : Type*} (key : Row → Key) where
  rows : List Row
  nodup : (rows.map key).Nodup

namespace Table

variable {Row Key : Type*} {key : Row → Key}

@[ext] theorem ext {t u : Table Row key} (h : t.rows = u.rows) : t = u := by
  cases t
  cases u
  simpa using h

instance [DecidableEq Row] : DecidableEq (Table Row key) := fun t u =>
  decidable_of_iff (t.rows = u.rows) ⟨ext, congrArg rows⟩

instance : Membership Row (Table Row key) := ⟨fun t r => r ∈ t.rows⟩

theorem mem_def {t : Table Row key} {r : Row} : r ∈ t ↔ r ∈ t.rows := Iff.rfl

instance [DecidableEq Row] (r : Row) (t : Table Row key) : Decidable (r ∈ t) :=
  inferInstanceAs (Decidable (r ∈ t.rows))

instance decidableForall (t : Table Row key) (P : Row → Prop) [DecidablePred P] :
    Decidable (∀ r ∈ t, P r) :=
  inferInstanceAs (Decidable (∀ r ∈ t.rows, P r))

instance decidableExists (t : Table Row key) (P : Row → Prop) [DecidablePred P] :
    Decidable (∃ r ∈ t, P r) :=
  inferInstanceAs (Decidable (∃ r ∈ t.rows, P r))

def empty : Table Row key := ⟨[], List.nodup_nil⟩

@[simp] theorem not_mem_empty (r : Row) : r ∉ (empty : Table Row key) := List.not_mem_nil

theorem eq_of_key_eq (t : Table Row key) {r r' : Row} (hr : r ∈ t) (hr' : r' ∈ t)
    (h : key r = key r') : r = r' :=
  List.inj_on_of_nodup_map t.nodup hr hr' h

/-! ## Lookup -/

section Lookup

variable [DecidableEq Key]

def find? (t : Table Row key) (k : Key) : Option Row := t.rows.find? (fun r => key r = k)

theorem find?_eq_some_iff {t : Table Row key} {k : Key} {r : Row} :
    t.find? k = some r ↔ r ∈ t ∧ key r = k := by
  apply Iff.intro
  · intro h
    exact ⟨List.mem_of_find?_eq_some h, by simpa using List.find?_some h⟩
  · rintro ⟨hr, hk⟩
    cases h : t.find? k with
    | none =>
        have hne := List.find?_eq_none.mp h r hr
        simp [hk] at hne
    | some r' =>
        have hr' : r' ∈ t := List.mem_of_find?_eq_some h
        have hk' : key r' = k := by simpa using List.find?_some h
        -- the search stops at the first row with the key, and there is no other
        rw [t.eq_of_key_eq hr' hr (hk'.trans hk.symm)]

theorem find?_eq_none_iff {t : Table Row key} {k : Key} :
    t.find? k = none ↔ ∀ r ∈ t, key r ≠ k := by
  simp [find?, mem_def]

theorem find?_key {t : Table Row key} {r : Row} (hr : r ∈ t) : t.find? (key r) = some r :=
  find?_eq_some_iff.mpr ⟨hr, rfl⟩

theorem mem_of_find? {t : Table Row key} {k : Key} {r : Row} (h : t.find? k = some r) : r ∈ t :=
  (find?_eq_some_iff.mp h).1

theorem key_of_find? {t : Table Row key} {k : Key} {r : Row} (h : t.find? k = some r) :
    key r = k :=
  (find?_eq_some_iff.mp h).2

end Lookup

/-! ## Insertion -/

section Insertion

variable [DecidableEq Key]

/-- The table with the row `r` added at the end; refused when the key of `r` is taken. -/
def insert? (t : Table Row key) (r : Row) : Option (Table Row key) :=
  if h : key r ∈ t.rows.map key then none
  else some ⟨t.rows ++ [r], by
    rw [List.map_append, List.map_singleton]
    exact List.Nodup.append t.nodup (List.nodup_singleton _) (by simpa using h)⟩

theorem insert?_eq_some {t t' : Table Row key} {r : Row} (h : t.insert? r = some t') :
    t'.rows = t.rows ++ [r] ∧ ∀ r' ∈ t, key r' ≠ key r := by
  unfold insert? at h
  split at h
  · cases h
  · rename_i hfresh
    cases h
    refine ⟨rfl, fun r' hr' heq => hfresh ?_⟩
    rw [← heq]
    exact List.mem_map_of_mem hr'

theorem insert?_isSome_iff {t : Table Row key} {r : Row} :
    (t.insert? r).isSome ↔ ∀ r' ∈ t, key r' ≠ key r := by
  unfold insert?
  split
  · rename_i htaken
    obtain ⟨r', hr', heq⟩ := List.mem_map.mp htaken
    simp only [Option.isSome_none, Bool.false_eq_true, false_iff, not_forall, not_not]
    exact ⟨r', hr', heq⟩
  · rename_i hfresh
    simp only [Option.isSome_some, true_iff]
    intro r' hr' heq
    exact hfresh (heq ▸ List.mem_map_of_mem hr')

theorem mem_insert? {t t' : Table Row key} {r x : Row} (h : t.insert? r = some t') :
    x ∈ t' ↔ x ∈ t ∨ x = r := by
  rw [mem_def, (insert?_eq_some h).1, List.mem_append, List.mem_singleton, mem_def]

theorem find?_insert?_of_ne {t t' : Table Row key} {r : Row} (h : t.insert? r = some t') {k : Key}
    (hk : k ≠ key r) : t'.find? k = t.find? k := by
  rw [find?, find?, (insert?_eq_some h).1, List.find?_append]
  simp [Ne.symm hk]

def insertAll? (t : Table Row key) : List Row → Option (Table Row key)
  | [] => some t
  | r :: rows =>
      match t.insert? r with
      | none => none
      | some t' => insertAll? t' rows

theorem mem_insertAll? {t t' : Table Row key} {rows : List Row} {x : Row}
    (h : t.insertAll? rows = some t') : x ∈ t' ↔ x ∈ t ∨ x ∈ rows := by
  induction rows generalizing t with
  | nil =>
      cases h
      simp
  | cons r rows ih =>
      unfold insertAll? at h
      split at h
      · cases h
      · rename_i m hinsert
        rw [ih h, mem_insert? hinsert, List.mem_cons, or_assoc]

/-- The keys of the rows added are pairwise distinct and were free. -/
theorem insertAll?_keys {t t' : Table Row key} {rows : List Row}
    (h : t.insertAll? rows = some t') :
    (rows.map key).Nodup ∧ ∀ r ∈ rows, ∀ r' ∈ t, key r' ≠ key r := by
  induction rows generalizing t with
  | nil => simp
  | cons r rows ih =>
      unfold insertAll? at h
      split at h
      · cases h
      · rename_i m hinsert
        have hfresh := (insert?_eq_some hinsert).2
        have hrest := ih h
        have hr : r ∈ m := (mem_insert? hinsert).mpr (.inr rfl)
        apply And.intro
        -- the first row is in the table when the others are added
        · rw [List.map_cons, List.nodup_cons]
          refine ⟨fun hmem => ?_, hrest.1⟩
          rcases List.mem_map.mp hmem with ⟨r', hr', heq⟩
          exact hrest.2 r' hr' r hr heq.symm
        · intro x hx y hy
          rcases List.mem_cons.mp hx with rfl | hx
          · exact hfresh y hy
          · exact hrest.2 x hx y ((mem_insert? hinsert).mpr (.inl hy))

theorem rows_insertAll? {t t' : Table Row key} {rows : List Row} (h : t.insertAll? rows = some t') :
    t'.rows = t.rows ++ rows := by
  induction rows generalizing t with
  | nil =>
      cases h
      exact (List.append_nil _).symm
  | cons r rows ih =>
      unfold insertAll? at h
      split at h
      · cases h
      · rename_i m hinsert
        rw [ih h, (insert?_eq_some hinsert).1, List.append_assoc, List.singleton_append]

/-- Rows with distinct keys that are free can be added. -/
theorem exists_insertAll? {t : Table Row key} {rows : List Row} (hnodup : (rows.map key).Nodup)
    (hfree : ∀ r ∈ rows, ∀ r' ∈ t, key r' ≠ key r) : ∃ t', t.insertAll? rows = some t' := by
  induction rows generalizing t with
  | nil => exact ⟨t, rfl⟩
  | cons r rows ih =>
      rw [List.map_cons, List.nodup_cons] at hnodup
      obtain ⟨m, hinsert⟩ := Option.isSome_iff_exists.mp
        (insert?_isSome_iff.mpr (hfree r List.mem_cons_self))
      rw [insertAll?, hinsert]
      apply ih hnodup.2
      intro x hx y hy
      rcases (mem_insert? hinsert).mp hy with hy | rfl
      · exact hfree x (List.mem_cons_of_mem _ hx) y hy
      · exact fun heq => hnodup.1 (heq ▸ List.mem_map_of_mem hx)

end Insertion

/-! ## Deletion -/

section Deletion

variable [DecidableEq Key]

/-- `DELETE … WHERE id = k`. -/
def delete (t : Table Row key) (k : Key) : Table Row key :=
  ⟨t.rows.filter (fun r => key r ≠ k), t.nodup.sublist (List.filter_sublist.map key)⟩

/-- One deletion after the other leaves the rows whose keys are not in the list, in their order. -/
theorem rows_foldl_delete (t : Table Row key) (ks : List Key) :
    (ks.foldl delete t).rows = t.rows.filter (fun r => key r ∉ ks) := by
  induction ks generalizing t with
  | nil => simp
  | cons k ks ih =>
      rw [List.foldl_cons, ih, delete, List.filter_filter]
      congr 1
      funext r
      simp [Bool.and_comm]

/-- `DELETE … WHERE p`. -/
def deleteWhere (t : Table Row key) (p : Row → Bool) : Table Row key :=
  ⟨t.rows.filter (fun r => !p r), t.nodup.sublist (List.filter_sublist.map key)⟩

omit [DecidableEq Key] in
theorem mem_deleteWhere {t : Table Row key} {p : Row → Bool} {r : Row} :
    r ∈ t.deleteWhere p ↔ r ∈ t ∧ p r = false := by
  simp [deleteWhere, mem_def]

/-- Of rows with different keys, those without the keys of the first ones are the others. -/
theorem filter_not_mem_keys {gone kept : List Row} (hnodup : ((gone ++ kept).map key).Nodup) :
    (gone ++ kept).filter (fun r => key r ∉ gone.map key) = kept := by
  rw [List.map_append, List.nodup_append'] at hnodup
  have hgone : gone.filter (fun r => key r ∉ gone.map key) = [] := by
    rw [List.filter_eq_nil_iff]
    intro r hr
    simpa using ⟨r, hr, rfl⟩
  have hkept : kept.filter (fun r => key r ∉ gone.map key) = kept := by
    rw [List.filter_eq_self]
    intro r hr
    rw [decide_eq_true_eq]
    exact fun hmem => hnodup.2.2 hmem (List.mem_map_of_mem hr)
  rw [List.filter_append, hgone, hkept, List.nil_append]

/-- What a deletion by the keys of some of the rows leaves. -/
theorem filter_key_perm (t : Table Row key) {gone kept : List Row}
    (h : t.rows.Perm (gone ++ kept)) :
    (t.rows.filter (fun r => key r ∉ gone.map key)).Perm kept := by
  have hnodup : ((gone ++ kept).map key).Nodup := (h.map key).nodup_iff.mp t.nodup
  have hperm := h.filter (fun r => key r ∉ gone.map key)
  rwa [filter_not_mem_keys hnodup] at hperm

/-- The row at the end, in the place of the one with its key. -/
def put (t : Table Row key) (r : Row) : Table Row key :=
  ⟨(t.delete (key r)).rows ++ [r], by
    rw [List.map_append, List.map_singleton]
    refine List.Nodup.append (t.delete (key r)).nodup (List.nodup_singleton _) ?_
    rw [List.disjoint_singleton]
    intro hmem
    obtain ⟨r', hr', heq⟩ := List.mem_map.mp hmem
    have hne : key r' ≠ key r := by simpa using (List.mem_filter.mp hr').2
    exact hne heq⟩

theorem rows_put {t : Table Row key} {r : Row} (h : key r ∉ t.rows.map key) :
    (t.put r).rows = t.rows ++ [r] := by
  have hsame : (t.delete (key r)).rows = t.rows := by
    rw [delete, List.filter_eq_self]
    intro r' hr'
    rw [decide_eq_true_eq]
    exact fun heq => h (heq ▸ List.mem_map_of_mem hr')
  exact congrArg (fun rows => rows ++ [r]) hsame

end Deletion

/-! ## Rewriting rows -/

/-- `UPDATE … WHERE p`: the rows that satisfy `p` are replaced by their image under `f`, which
keeps their key. -/
def update (t : Table Row key) (p : Row → Bool) (f : Row → Row)
    (hf : ∀ r, key (f r) = key r := by intros; rfl) : Table Row key :=
  ⟨t.rows.map (fun r => if p r then f r else r), by
    rw [List.map_map]
    -- the list of keys is untouched, so it stays free of repetitions
    have hkey : (key ∘ fun r => if p r then f r else r) = key := by
      funext r
      simp only [Function.comp_apply]
      split
      · exact hf r
      · rfl
    rw [hkey]
    exact t.nodup⟩

variable {t : Table Row key} {p : Row → Bool} {f : Row → Row}

theorem mem_update {hf : ∀ r, key (f r) = key r} {x : Row} :
    x ∈ t.update p f hf ↔ ∃ r ∈ t, (if p r then f r else r) = x := by
  simp [update, mem_def]

theorem mem_update_of_not {hf : ∀ r, key (f r) = key r} {r : Row} (hr : r ∈ t)
    (hp : p r = false) : r ∈ t.update p f hf :=
  mem_update.mpr ⟨r, hr, by simp [hp]⟩

theorem mem_update_of_pos {hf : ∀ r, key (f r) = key r} {r : Row} (hr : r ∈ t)
    (hp : p r = true) : f r ∈ t.update p f hf :=
  mem_update.mpr ⟨r, hr, by simp [hp]⟩

/-- What the update leaves of a row is read off all rows as before. -/
theorem map_rows_update {β : Type*} {g : Row → β} (hg : ∀ r, g (f r) = g r)
    (hf : ∀ r, key (f r) = key r) : (t.update p f hf).rows.map g = t.rows.map g := by
  rw [update, List.map_map]
  apply List.map_congr_left
  intro r _
  rw [Function.comp_apply]
  split
  · exact hg r
  · rfl

theorem find?_update [DecidableEq Key] {hf : ∀ r, key (f r) = key r} (k : Key) :
    (t.update p f hf).find? k = (t.find? k).map (fun r => if p r then f r else r) := by
  -- a row and what the update makes of it are found under the same key
  have hkey : ∀ r, key (if p r then f r else r) = key r := by
    intro r
    split
    · exact hf r
    · rfl
  cases hfind : t.find? k with
  | none =>
      rw [find?_eq_none_iff] at hfind
      rw [Option.map_none, find?_eq_none_iff]
      rintro x hx
      obtain ⟨r, hr, rfl⟩ := mem_update.mp hx
      rw [hkey]
      exact hfind r hr
  | some r =>
      obtain ⟨hr, hk⟩ := find?_eq_some_iff.mp hfind
      rw [Option.map_some, find?_eq_some_iff, hkey]
      exact ⟨mem_update.mpr ⟨r, hr, rfl⟩, hk⟩

section UpdateKey

variable [DecidableEq Key]

/-- `UPDATE … WHERE id = k`. -/
def updateKey (t : Table Row key) (k : Key) (f : Row → Row)
    (hf : ∀ r, key (f r) = key r := by intros; rfl) : Table Row key :=
  t.update (fun r => key r = k) f hf

theorem mem_updateKey {hf : ∀ r, key (f r) = key r} {k : Key} {x : Row} :
    x ∈ t.updateKey k f hf ↔ ∃ r ∈ t, (if key r = k then f r else r) = x := by
  simp [updateKey, mem_update]

theorem key_of_mem_updateKey (hf : ∀ r, key (f r) = key r) {k : Key} {x : Row}
    (hx : x ∈ t.updateKey k f hf) : ∃ r ∈ t, key r = key x := by
  obtain ⟨r, hr, rfl⟩ := mem_updateKey.mp hx
  refine ⟨r, hr, ?_⟩
  split
  · exact (hf r).symm
  · rfl

theorem mem_updateKey_of_ne {hf : ∀ r, key (f r) = key r} {k : Key} {r : Row} (hr : r ∈ t)
    (hk : key r ≠ k) : r ∈ t.updateKey k f hf :=
  mem_updateKey.mpr ⟨r, hr, by simp [hk]⟩

theorem mem_updateKey_self {hf : ∀ r, key (f r) = key r} {r : Row} (hr : r ∈ t) :
    f r ∈ t.updateKey (key r) f hf :=
  mem_updateKey.mpr ⟨r, hr, by simp⟩

/-- An update of one row leaves of a row its image or the row itself. -/
theorem exists_mem_updateKey {P : Row → Prop} {k : Key} {r : Row} (hf : ∀ r, key (f r) = key r)
    (hr : r ∈ t) (hsame : P r) (hself : key r = k → P (f r)) :
    ∃ r' ∈ t.updateKey k f hf, P r' := by
  by_cases hk : key r = k
  · exact ⟨f r, hk ▸ mem_updateKey_self hr, hself hk⟩
  · exact ⟨r, mem_updateKey_of_ne hr hk, hsame⟩

theorem find?_updateKey {hf : ∀ r, key (f r) = key r} (k k' : Key) :
    (t.updateKey k f hf).find? k' =
      if k' = k then (t.find? k').map f else t.find? k' := by
  rw [updateKey, find?_update]
  cases hfind : t.find? k' with
  | none => simp
  | some r =>
      have hk := key_of_find? hfind
      by_cases heq : k' = k
      · simp [heq, hk]
      · simp [heq, hk]

@[simp] theorem find?_updateKey_self {hf : ∀ r, key (f r) = key r} (k : Key) :
    (t.updateKey k f hf).find? k = (t.find? k).map f := by
  rw [find?_updateKey, if_pos rfl]

theorem find?_updateKey_of_ne {hf : ∀ r, key (f r) = key r} {k k' : Key} (h : k' ≠ k) :
    (t.updateKey k f hf).find? k' = t.find? k' := by
  rw [find?_updateKey, if_neg h]

/-- Of two updates of one row the second sees what the first has made of it. -/
theorem updateKey_updateKey {f g h : Row → Row} {hf : ∀ r, key (f r) = key r}
    {hg : ∀ r, key (g r) = key r} {hh : ∀ r, key (h r) = key r} {k : Key}
    (hgf : ∀ r, g (f r) = h r) : (t.updateKey k f hf).updateKey k g hg = t.updateKey k h hh := by
  apply ext
  simp only [updateKey, update, List.map_map]
  apply List.map_congr_left
  intro r _
  by_cases hk : key r = k
  · simp [hk, hf, hgf]
  · simp [hk]

/-! ## A batch of updates -/

section Batch

variable {Change : Type*} (target : Change → Key) (apply : Change → Row → Row)

/-- One `UPDATE … WHERE id = k` for every change, in order. -/
def updateEach (h : ∀ c r, key (apply c r) = key r) (t : Table Row key) :
    List Change → Table Row key
  | [] => t
  | c :: changes => updateEach h (t.updateKey (target c) (apply c) (h c)) changes

variable {target apply}

theorem map_rows_updateEach {β : Type*} {g : Row → β} {h : ∀ c r, key (apply c r) = key r}
    (hg : ∀ c r, g (apply c r) = g r) (changes : List Change) :
    (t.updateEach target apply h changes).rows.map g = t.rows.map g := by
  induction changes generalizing t with
  | nil => rfl
  | cons c changes ih => exact ih.trans (map_rows_update (hg c) (h c))

theorem find?_updateEach_of_not_mem {h : ∀ c r, key (apply c r) = key r} {changes : List Change}
    {k : Key} (hk : ∀ c ∈ changes, target c ≠ k) :
    (t.updateEach target apply h changes).find? k = t.find? k := by
  induction changes generalizing t with
  | nil => rfl
  | cons c changes ih =>
      rw [updateEach, ih fun c hc => hk c (List.mem_cons_of_mem _ hc)]
      exact find?_updateKey_of_ne (hk c List.mem_cons_self).symm

/-- When no two changes have the same target, each is applied to the row as it was. -/
theorem find?_updateEach_of_mem {h : ∀ c r, key (apply c r) = key r} {changes : List Change}
    (hnodup : (changes.map target).Nodup) {c : Change} (hc : c ∈ changes) :
    (t.updateEach target apply h changes).find? (target c) =
      (t.find? (target c)).map (apply c) := by
  induction changes generalizing t with
  | nil => cases hc
  | cons c' changes ih =>
      rw [List.map_cons, List.nodup_cons] at hnodup
      rw [updateEach]
      rcases List.mem_cons.mp hc with rfl | hc
      -- the first change is the one for this row; no later change touches it
      · rw [find?_updateEach_of_not_mem, find?_updateKey_self]
        intro c' hc' heq
        exact hnodup.1 (heq ▸ List.mem_map_of_mem hc')
      -- the first change is for another row
      · rw [ih hnodup.2 hc, find?_updateKey_of_ne]
        intro heq
        exact hnodup.1 (heq ▸ List.mem_map_of_mem hc)

theorem mem_updateEach_of_not_mem {h : ∀ c r, key (apply c r) = key r} {changes : List Change}
    {r : Row} (hr : r ∈ t) (hk : ∀ c ∈ changes, target c ≠ key r) :
    r ∈ t.updateEach target apply h changes := by
  apply mem_of_find?
  rw [find?_updateEach_of_not_mem hk]
  exact find?_key hr

/-- A row after the batch is an old one that is no target, or the image of its target. -/
theorem mem_updateEach {h : ∀ c r, key (apply c r) = key r} {changes : List Change}
    (hnodup : (changes.map target).Nodup) {x : Row}
    (hx : x ∈ t.updateEach target apply h changes) :
    (x ∈ t ∧ ∀ c ∈ changes, target c ≠ key x) ∨
      ∃ c ∈ changes, ∃ r ∈ t, key r = target c ∧ apply c r = x := by
  have hfind := find?_key hx
  by_cases hk : ∀ c ∈ changes, target c ≠ key x
  · rw [find?_updateEach_of_not_mem hk] at hfind
    exact .inl ⟨mem_of_find? hfind, hk⟩
  · push Not at hk
    rcases hk with ⟨c, hc, heq⟩
    rw [← heq, find?_updateEach_of_mem hnodup hc] at hfind
    rcases Option.map_eq_some_iff.mp hfind with ⟨r, hr, hx⟩
    exact .inr ⟨c, hc, r, mem_of_find? hr, key_of_find? hr, hx⟩

/-- Changes for the last rows, one for each in their order, are applied to these and to no other. -/
theorem rows_updateEach {h : ∀ c r, key (apply c r) = key r} {changes : List Change}
    {old new : List Row} (hrows : t.rows = old ++ new)
    (htargets : changes.map target = new.map key) :
    (t.updateEach target apply h changes).rows = old ++ List.zipWith apply changes new := by
  induction changes generalizing t old new with
  | nil =>
      rw [List.map_nil] at htargets
      obtain rfl := List.map_eq_nil_iff.mp htargets.symm
      rw [updateEach, hrows, List.zipWith_nil_left]
  | cons c changes ih =>
      cases new with
      | nil => cases htargets
      | cons r new =>
          obtain ⟨htarget, hrest⟩ := List.cons.inj htargets
          have hnodup := t.nodup
          rw [hrows, List.map_append, List.map_cons] at hnodup
          have hother : ∀ x, x ∈ old ∨ x ∈ new → key x ≠ target c := by
            intro x hx heq
            rw [htarget] at heq
            have hapart := List.nodup_middle.mp hnodup
            rw [List.nodup_cons, List.mem_append] at hapart
            apply hapart.1
            rw [← heq]
            exact hx.imp List.mem_map_of_mem List.mem_map_of_mem
          have hsame : ∀ xs : List Row, (∀ x ∈ xs, x ∈ old ∨ x ∈ new) →
              xs.map (fun x => if key x = target c then apply c x else x) = xs := by
            intro xs hxs
            rw [List.map_congr_left fun x hx => if_neg (hother x (hxs x hx)), List.map_id']
          have hupdated : (t.updateKey (target c) (apply c) (h c)).rows =
              (old ++ [apply c r]) ++ new := by
            simp only [updateKey, update, hrows, List.map_append, List.map_cons,
              decide_eq_true_eq, hsame old fun x hx => .inl hx, hsame new fun x hx => .inr hx]
            rw [if_pos htarget.symm, List.append_assoc, List.singleton_append]
          rw [updateEach, ih hupdated hrest, List.zipWith_cons_cons, List.append_assoc,
            List.singleton_append]

end Batch

end UpdateKey

end Table

end Library
