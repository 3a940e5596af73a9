import Mathlib.Algebra.Group.Nat.Defs
import Mathlib.Data.List.Basic
import Mathlib.Data.Nat.Init
import Mathlib.Tactic.Common

/-!
# Decimals of a fixed width

Numbers written with leading zeros.  Between texts that start with such decimals of one width, the
lexicographic order is the order of the numbers, and what follows them decides between equal ones.
-/

namespace Library.Decimals

/-- Numbers compare as their quotients by one number do, and then as their remainders. -/
theorem div_mod_lt_iff {k s t : Nat} (P : Prop) :
    s / k < t / k ∨ (s / k = t / k ∧ (s % k < t % k ∨ (s % k = t % k ∧ P))) ↔
      s < t ∨ (s = t ∧ P) := by
  rcases Nat.lt_trichotomy (s / k) (t / k) with hlt | heq | hgt
  · exact iff_of_true (.inl hlt) (.inl (Nat.lt_of_div_lt_div hlt))
  · have hs := Nat.div_add_mod s k
    have ht := Nat.div_add_mod t k
    rw [heq] at hs
    have hrest : s % k < t % k ↔ s < t := by omega
    have hsame : s % k = t % k ↔ s = t := by omega
    have hnot : ¬s / k < t / k := by omega
    rw [hrest, hsame, or_iff_right hnot, and_iff_right heq]
  · have hlt := Nat.lt_of_div_lt_div hgt
    exact iff_of_false (by omega) (by omega)

/-- The decimal of `n`, filled up with zeros to `width` digits. -/
def zeroPadded (width n : Nat) : List Char := (Nat.toDigits 10 n).leftpad width '0'

theorem zeroPadded_one {n : Nat} (h : n < 10) : zeroPadded 1 n = [n.digitChar] := by
  rw [zeroPadded, Nat.toDigits_of_lt_base h]
  rfl

/-- The last digit of a longer decimal. -/
theorem zeroPadded_succ {width : Nat} (hwidth : 0 < width) (n : Nat) :
    zeroPadded (width + 1) n = zeroPadded width (n / 10) ++ [(n % 10).digitChar] := by
  obtain ⟨w, rfl⟩ := Nat.exists_eq_succ_of_ne_zero (Nat.pos_iff_ne_zero.mp hwidth)
  unfold zeroPadded List.leftpad
  rw [Nat.toDigits_eq_if (n := n) (by decide)]
  by_cases hn : n < 10
  · -- the decimal in front of the only digit is a zero, and a zero is what it is padded with
    have hzero : n / 10 = 0 := Nat.div_eq_of_lt hn
    rw [if_pos hn, hzero, Nat.toDigits_zero, Nat.mod_eq_of_lt hn]
    simp [List.replicate_succ']
  · rw [if_neg hn, List.length_append, List.length_singleton, Nat.add_sub_add_right,
      List.append_assoc]

theorem digitChar_lt_iff {m n : Nat} (hm : m < 10) (hn : n < 10) :
    m.digitChar < n.digitChar ↔ m < n := by
  have hall : ∀ m < 10, ∀ n < 10, (m.digitChar < n.digitChar ↔ m < n) := by decide
  exact hall m hm n hn

theorem digitChar_inj {m n : Nat} (hm : m < 10) (hn : n < 10) :
    m.digitChar = n.digitChar ↔ m = n := by
  have hall : ∀ m < 10, ∀ n < 10, (m.digitChar = n.digitChar ↔ m = n) := by decide
  exact hall m hm n hn

/-- **The order of decimals**, with whatever follows them. -/
theorem zeroPadded_append_lt_iff {width m n : Nat} (hwidth : 0 < width) (hm : m < 10 ^ width)
    (hn : n < 10 ^ width) {x y : List Char} :
    zeroPadded width m ++ x < zeroPadded width n ++ y ↔ m < n ∨ (m = n ∧ x < y) := by
  induction width, hwidth using Nat.le_induction generalizing m n x y with
  | base =>
      rw [zeroPadded_one hm, zeroPadded_one hn, List.singleton_append, List.singleton_append,
        List.cons_lt_cons_iff, digitChar_lt_iff hm hn, digitChar_inj hm hn]
  | succ width hwidth ih =>
      rw [zeroPadded_succ hwidth, zeroPadded_succ hwidth, List.append_assoc, List.append_assoc,
        ih (by rw [Nat.pow_succ] at hm; omega) (by rw [Nat.pow_succ] at hn; omega),
        List.singleton_append, List.singleton_append, List.cons_lt_cons_iff,
        digitChar_lt_iff (Nat.mod_lt m (by decide)) (Nat.mod_lt n (by decide)),
        digitChar_inj (Nat.mod_lt m (by decide)) (Nat.mod_lt n (by decide))]
      -- the number is ten times the one in front of its last digit, and that digit
      exact div_mod_lt_iff (x < y)

/-- Different numbers have different decimals. -/
theorem zeroPadded_inj {width m n : Nat} (hwidth : 0 < width) (hm : m < 10 ^ width)
    (hn : n < 10 ^ width) (h : zeroPadded width m = zeroPadded width n) : m = n := by
  have hlt := zeroPadded_append_lt_iff hwidth hm hn (x := []) (y := [])
  have hgt := zeroPadded_append_lt_iff hwidth hn hm (x := []) (y := [])
  rw [h] at hlt hgt
  have hnot : ¬zeroPadded width n ++ [] < zeroPadded width n ++ [] := List.lt_irrefl _
  have hle := mt hlt.mpr hnot
  have hge := mt hgt.mpr hnot
  omega

example : zeroPadded 4 999 = "0999".toList := by decide

end Library.Decimals
