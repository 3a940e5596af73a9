import Mathlib.Data.List.Sort
import Mathlib.Tactic.Common

/-!
# Pages — slices of independently sorted lists

A list that is fetched anew for every page is sorted by a key and cut into pages of equal size.
The rows come back in any order each time, so rows with equal keys may change places between two
fetches.  `pages_perm_iff` says when the pages partition the rows all the same: exactly when no page
boundary falls among rows of one key.
-/

namespace Library.Pages

variable {Row Key : Type*} [LinearOrder Key] (key : Row → Key)

/-- A stable sort by a key. -/
def sortBy (rows : List Row) : List Row := rows.insertionSort (fun a b => key a ≤ key b)

/-- The page with the given number, from zero on. -/
def page (rows : List Row) (size number : Nat) : List Row := (rows.drop (number * size)).take size

/-- The first `n` pages one after the other, each of a list of its own. -/
def pages (lists : Nat → List Row) (size : Nat) : Nat → List Row
  | 0 => []
  | n + 1 => pages lists size n ++ page (lists n) size n

/-- The rows of some key begin before the place `b` of the sorted list and end behind it. -/
def Cut (rows : List Row) (b : Nat) : Prop :=
  ∃ x ∈ rows, rows.countP (fun y => key y < key x) < b ∧ b < rows.countP (fun y => key y ≤ key x)

abbrev Sorted (rows : List Row) : Prop := rows.Pairwise (fun a b => key a ≤ key b)

variable {key}

theorem sortBy_perm (rows : List Row) : (sortBy key rows).Perm rows :=
  List.perm_insertionSort _ rows

theorem sorted_sortBy (rows : List Row) : Sorted key (sortBy key rows) := by
  have htotal : Std.Total (fun a b : Row => key a ≤ key b) := ⟨fun a b => le_total _ _⟩
  have htrans : IsTrans Row (fun a b => key a ≤ key b) := ⟨fun _ _ _ => le_trans⟩
  exact List.pairwise_insertionSort _ rows

theorem sortBy_of_sorted {rows : List Row} (h : Sorted key rows) : sortBy key rows = rows :=
  h.insertionSort_eq

/-- Every row is on a page. -/
theorem exists_mem_page {rows : List Row} {size : Nat} (hsize : 0 < size) {r : Row}
    (hr : r ∈ rows) : ∃ number, r ∈ page rows size number := by
  obtain ⟨i, hi, rfl⟩ := List.getElem_of_mem hr
  refine ⟨i / size, ?_⟩
  have hstart : i / size * size + i % size = i := Nat.div_add_mod' i size
  have hwithin : i % size < size := Nat.mod_lt i hsize
  rw [page, List.mem_iff_getElem?]
  refine ⟨i % size, ?_⟩
  rw [List.getElem?_take_of_lt hwithin, List.getElem?_drop, hstart]
  exact List.getElem?_eq_getElem hi

/-! ## Where a key begins -/

/-- In a sorted list the rows of smaller keys come first. -/
theorem take_countP_lt {rows : List Row} (h : Sorted key rows) (k : Key) :
    rows.take (rows.countP (fun y => key y < k)) = rows.filter (fun y => key y < k) := by
  induction rows with
  | nil => rfl
  | cons a rows ih =>
      rw [Sorted, List.pairwise_cons] at h
      by_cases ha : key a < k
      · rw [List.countP_cons_of_pos (by simpa using ha),
          List.filter_cons_of_pos (by simpa using ha),
          List.take_succ_cons, ih h.2]
      · have hnone : ∀ y ∈ a :: rows, ¬key y < k := by
          intro y hy hlt
          rcases List.mem_cons.mp hy with rfl | hy
          · exact ha hlt
          · exact ha ((h.1 y hy).trans_lt hlt)
        rw [List.countP_eq_zero.mpr (by simpa using hnone), List.take_zero,
          List.filter_eq_nil_iff.mpr (by simpa using hnone)]

theorem countP_lt_le {rows : List Row} (h : Sorted key rows) {b : Nat} (hb : b < rows.length) :
    rows.countP (fun y => key y < key rows[b]) ≤ b := by
  by_contra hlt
  rw [not_le] at hlt
  have hmem : rows[b] ∈ rows.take (rows.countP (fun y => key y < key rows[b])) :=
    List.mem_take_iff_getElem.mpr ⟨b, by omega, rfl⟩
  rw [take_countP_lt h, List.mem_filter] at hmem
  exact absurd hmem.2 (by simp)

theorem lt_countP_le {rows : List Row} (h : Sorted key rows) {b : Nat} (hb : b < rows.length) :
    b < rows.countP (fun y => key y ≤ key rows[b]) := by
  -- the rows up to this one have keys that are not greater
  have hall : ∀ y ∈ rows.take (b + 1), key y ≤ key rows[b] := by
    intro y hy
    obtain ⟨i, hi, rfl⟩ := List.mem_take_iff_getElem.mp hy
    rcases Nat.lt_or_ge i b with hib | hib
    · exact List.pairwise_iff_getElem.mp h i b (by omega) hb hib
    · have heq : i = b := by omega
      subst heq
      exact le_rfl
  have hcount : (rows.take (b + 1)).countP (fun y => key y ≤ key rows[b]) = b + 1 := by
    rw [List.countP_eq_length.mpr (by simpa using hall), List.length_take]
    omega
  have hle := (List.take_sublist (b + 1) rows).countP_le
    (p := fun y => decide (key y ≤ key rows[b]))
  omega

/-- At a place that no key straddles, some key begins. -/
theorem exists_countP_lt {rows : List Row} (h : Sorted key rows) {b : Nat} (hb : b < rows.length)
    (hcut : ¬Cut key rows b) : ∃ k, rows.countP (fun y => key y < k) = b := by
  refine ⟨key rows[b], le_antisymm (countP_lt_le h hb) ?_⟩
  by_contra hlt
  exact hcut ⟨rows[b], List.getElem_mem hb, by omega, lt_countP_le h hb⟩

theorem Cut.perm {rows rows' : List Row} (h : rows.Perm rows') {b : Nat} (hcut : Cut key rows b) :
    Cut key rows' b := by
  rcases hcut with ⟨x, hx, hlt, hle⟩
  refine ⟨x, h.mem_iff.mp hx, ?_, ?_⟩
  · rwa [← h.countP_eq]
  · rwa [← h.countP_eq]

/-- **Up to such a place** two sorted lists of the same rows have the same rows. -/
theorem take_perm_take {rows rows' : List Row} (h : Sorted key rows) (h' : Sorted key rows')
    (hperm : rows.Perm rows') {b : Nat} (hcut : ¬Cut key rows b) :
    (rows.take b).Perm (rows'.take b) := by
  rcases Nat.lt_or_ge b rows.length with hb | hb
  · obtain ⟨k, hk⟩ := exists_countP_lt h hb hcut
    have hk' : rows'.countP (fun y => key y < k) = b := by rw [← hperm.countP_eq, hk]
    have htake := take_countP_lt h k
    have htake' := take_countP_lt h' k
    rw [hk] at htake
    rw [hk'] at htake'
    rw [htake, htake']
    exact hperm.filter _
  · rw [List.take_of_length_le hb, List.take_of_length_le (hperm.length_eq ▸ hb)]
    exact hperm

/-! ## The pages together -/

section Partition

variable {rows : List Row} {lists : Nat → List Row} (hperm : ∀ i, (lists i).Perm rows)
  (hsorted : ∀ i, Sorted key (lists i))

include hperm hsorted

/-- **The pages partition the rows** where no page boundary falls among rows of one key. -/
theorem pages_perm_take {size : Nat} (huncut : ∀ i, ¬Cut key rows (i * size)) (n : Nat)
    {all : List Row} (hall : all.Perm rows) (hsort : Sorted key all) :
    (pages lists size n).Perm (all.take (n * size)) := by
  induction n generalizing all with
  | zero => simp [pages]
  | succ n ih =>
      have hnext : (lists n).take ((n + 1) * size) =
          (lists n).take (n * size) ++ page (lists n) size n := by
        rw [Nat.succ_mul, List.take_add]
        rfl
      have hsame := take_perm_take (hsorted n) hsort ((hperm n).trans hall.symm)
        fun hcut => huncut (n + 1) (hcut.perm (hperm n))
      rw [hnext] at hsame
      exact (List.Perm.append_right _ (ih (hperm n) (hsorted n))).trans hsame

/-- The keys of the pages are in order, wherever the boundaries fall. -/
theorem map_key_pages (size n : Nat) {all : List Row} (hall : all.Perm rows)
    (hsort : Sorted key all) :
    (pages lists size n).map key = (all.map key).take (n * size) := by
  have hkeys : ∀ i, (lists i).map key = all.map key := by
    intro i
    refine List.Perm.eq_of_pairwise (fun _ _ _ _ => le_antisymm) ?_ ?_
      (((hperm i).trans hall.symm).map key)
    · exact List.pairwise_map.mpr (hsorted i)
    · exact List.pairwise_map.mpr hsort
  induction n with
  | zero => simp [pages]
  | succ n ih =>
      rw [pages, List.map_append, ih, page, List.map_take, List.map_drop, hkeys, Nat.succ_mul,
        List.take_add]

end Partition

/-! ## A boundary among rows of one key -/

/-- Between the places where a key begins and ends are its rows. -/
theorem key_getElem {rows : List Row} (h : Sorted key rows) {k : Key} {j : Nat}
    (hj : j < rows.length) (hlt : rows.countP (fun y => key y < k) ≤ j)
    (hle : j < rows.countP (fun y => key y ≤ k)) : key rows[j] = k := by
  apply le_antisymm
  · by_contra hgreater
    rw [not_le] at hgreater
    have hmono : rows.countP (fun y => key y ≤ k) ≤
        rows.countP (fun y => key y < key rows[j]) :=
      List.countP_mono_left fun y _ hy => by
        rw [decide_eq_true_eq] at hy ⊢
        exact hy.trans_lt hgreater
    have hbound := countP_lt_le h hj
    omega
  · by_contra hless
    rw [not_le] at hless
    have hmono : rows.countP (fun y => key y ≤ key rows[j]) ≤
        rows.countP (fun y => key y < k) :=
      List.countP_mono_left fun y _ hy => by
        rw [decide_eq_true_eq] at hy ⊢
        exact hy.trans_lt hless
    have hbound := lt_countP_le h hj
    omega

/-- A cut separates two neighbours of one key. -/
theorem Cut.neighbours {rows : List Row} (h : Sorted key rows) {b : Nat} (hcut : Cut key rows b) :
    ∃ before x y after, rows = before ++ x :: y :: after ∧ before.length + 1 = b ∧
      key x = key y := by
  rcases hcut with ⟨z, _, hlt, hle⟩
  have hb : b < rows.length := hle.trans_le List.countP_le_length
  refine ⟨rows.take (b - 1), rows[b - 1], rows[b], rows.drop (b + 1), ?_, ?_, ?_⟩
  · have hstep : b - 1 + 1 = b := by omega
    have hfirst := List.drop_eq_getElem_cons (l := rows) (i := b - 1) (by omega)
    have hsecond := List.drop_eq_getElem_cons (l := rows) (i := b) hb
    rw [hstep, hsecond] at hfirst
    rw [← hfirst, List.take_append_drop]
  · rw [List.length_take]
    omega
  · have hx : key rows[b - 1] = key z := key_getElem h (by omega) (by omega) (by omega)
    have hy : key rows[b] = key z := key_getElem h hb (by omega) hle
    exact hx.trans hy.symm

theorem pages_congr {lists lists' : Nat → List Row} {size n : Nat}
    (h : ∀ i, i < n → lists i = lists' i) : pages lists size n = pages lists' size n := by
  induction n with
  | zero => rfl
  | succ n ih =>
      rw [pages, pages, ih fun i hi => h i (by omega), h n (by omega)]

theorem pages_const (rows : List Row) (size n : Nat) :
    pages (fun _ => rows) size n = rows.take (n * size) := by
  induction n with
  | zero => simp [pages]
  | succ n ih => rw [pages, ih, page, Nat.succ_mul, List.take_add]

theorem pages_sublist (lists : Nat → List Row) (size : Nat) {m n : Nat} (h : m ≤ n) :
    (pages lists size m).Sublist (pages lists size n) := by
  induction h with
  | refl => exact .refl _
  | step _ ih => exact ih.trans (List.sublist_append_left _ _)

/-- **A row shown twice.**  At a cut, a page of one fetch ends with the row the next page of another
fetch begins with. -/
theorem Cut.not_nodup {rows : List Row} {i size : Nat} (hcut : Cut key rows (i * size)) :
    ∃ lists : Nat → List Row, (∀ j, (lists j).Perm rows) ∧
      ¬(pages (fun j => sortBy key (lists j)) size (i + 1)).Nodup := by
  have hsorted : Sorted key (sortBy key rows) := sorted_sortBy rows
  rcases (hcut.perm (sortBy_perm rows).symm).neighbours hsorted with
    ⟨before, x, y, after, heq, hlength, hkey⟩
  have hother : Sorted key (before ++ y :: x :: after) := by
    have hmap : (before ++ y :: x :: after).map key = (sortBy key rows).map key := by
      simp [heq, hkey]
    exact List.pairwise_map.mp (hmap ▸ List.pairwise_map.mpr hsorted)
  have hperm : (before ++ y :: x :: after).Perm rows := by
    refine (List.Perm.append_left before (List.Perm.swap x y after)).trans ?_
    rw [← heq]
    exact sortBy_perm rows
  refine ⟨fun j => if j < i then sortBy key rows else before ++ y :: x :: after, ?_, ?_⟩
  · intro j
    dsimp only
    split
    · exact sortBy_perm rows
    · exact hperm
  · have hfirst : pages (fun j => sortBy key
        (if j < i then sortBy key rows else before ++ y :: x :: after)) size i =
          before ++ [x] := by
      have hsame : ∀ j, j < i → sortBy key
          (if j < i then sortBy key rows else before ++ y :: x :: after) = sortBy key rows := by
        intro j hj
        rw [if_pos hj]
        exact sortBy_of_sorted hsorted
      rw [pages_congr hsame, pages_const, heq, ← hlength, List.take_append,
        List.take_of_length_le (by omega), Nat.add_sub_cancel_left, List.take_succ_cons,
        List.take_zero]
    have hsize : 0 < size := by
      by_contra hzero
      have : size = 0 := by omega
      rw [this, Nat.mul_zero] at hlength
      omega
    have hsecond : x ∈ page (before ++ y :: x :: after) size i := by
      rw [page, ← hlength, List.drop_append, List.drop_eq_nil_of_le (by omega), List.nil_append,
        Nat.add_sub_cancel_left, List.drop_one, List.tail_cons]
      cases size with
      | zero => cases hsize
      | succ size => exact List.mem_cons_self
    intro hnodup
    rw [pages, hfirst] at hnodup
    dsimp only at hnodup
    rw [if_neg (Nat.lt_irrefl i), sortBy_of_sorted hother] at hnodup
    exact (List.nodup_append.mp hnodup).2.2 x (by simp) x hsecond rfl

/-- The pages are a partition of the rows where these come back in one order, and where no page
boundary falls among rows of one key. -/
theorem pages_perm {rows : List Row} {lists : Nat → List Row} {size n : Nat}
    (hperm : ∀ i, (lists i).Perm rows)
    (hsteady : (∀ i, lists i = lists 0) ∨ ∀ i, ¬Cut key rows (i * size))
    (hlength : rows.length ≤ n * size) :
    (pages (fun i => sortBy key (lists i)) size n).Perm rows := by
  rcases hsteady with hsame | huncut
  · have hall : (sortBy key (lists 0)).Perm rows := (sortBy_perm _).trans (hperm 0)
    rw [pages_congr fun i _ => congrArg (sortBy key) (hsame i), pages_const,
      List.take_of_length_le (hall.length_eq ▸ hlength)]
    exact hall
  · have hall : (sortBy key rows).Perm rows := sortBy_perm rows
    have hsort := pages_perm_take (fun i => (sortBy_perm (lists i)).trans (hperm i))
      (fun i => sorted_sortBy (lists i)) huncut n hall (sorted_sortBy rows)
    rw [List.take_of_length_le (hall.length_eq ▸ hlength)] at hsort
    exact hsort.trans hall

/-- **Exactly then.**  Whatever order the rows come back in for each page, the pages are a partition
of the rows, if and only if no page boundary falls among rows of one key. -/
theorem pages_perm_iff {rows : List Row} (hnodup : rows.Nodup) (size : Nat) :
    (∀ lists : Nat → List Row, (∀ i, (lists i).Perm rows) → ∀ n, rows.length ≤ n * size →
      (pages (fun i => sortBy key (lists i)) size n).Perm rows) ↔
        ∀ i, ¬Cut key rows (i * size) := by
  apply Iff.intro
  · intro h i hcut
    obtain ⟨lists, hperm, htwice⟩ := hcut.not_nodup
    have hsize : 0 < size := by
      rcases hcut with ⟨_, _, hlt, _⟩
      exact Nat.pos_of_mul_pos_left (Nat.zero_lt_of_lt hlt)
    have hlength : rows.length ≤ (i + 1 + rows.length) * size :=
      (Nat.le_add_left _ _).trans (Nat.le_mul_of_pos_right _ hsize)
    have hall := h lists hperm (i + 1 + rows.length) hlength
    exact htwice ((hall.nodup_iff.mpr hnodup).sublist (pages_sublist _ _ (by omega)))
  · intro huncut lists hperm n hlength
    exact pages_perm hperm (.inr huncut) hlength

end Library.Pages
