import Mathlib.Data.List.Infix
import Mathlib.Tactic.Common

/-!
# `LIKE` — patterns over texts

`%` matches any text and `_` any single character; every other character matches itself.  A text
between two `%` is looked for anywhere (`like_contains`), and it is found as it stands when it has
no wildcard of its own (`like_iff_eq`).
-/

namespace Sqlite

/-- `text LIKE pattern`. -/
def like : List Char → List Char → Bool
  | [] => List.isEmpty
  | c :: pattern => fun text =>
      if c = '%' then text.tails.any (like pattern)
      else
        match text with
        | [] => false
        | d :: rest => (c = '_' || c = d) && like pattern rest

def isWildcard (c : Char) : Bool := c = '%' || c = '_'

theorem like_nil {text : List Char} : like [] text = true ↔ text = [] := by
  rw [like, List.isEmpty_iff]

theorem like_percent {pattern text : List Char} :
    like ('%' :: pattern) text = true ↔ ∃ rest, rest <:+ text ∧ like pattern rest = true := by
  rw [like]
  dsimp only
  rw [if_pos rfl, List.any_eq_true]
  simp only [List.mem_tails]

theorem like_cons {c : Char} (hc : c ≠ '%') {pattern text : List Char} :
    like (c :: pattern) text = true ↔
      ∃ d rest, text = d :: rest ∧ (c = '_' ∨ c = d) ∧ like pattern rest = true := by
  rw [like]
  dsimp only
  rw [if_neg hc]
  cases text with
  | nil => simp
  | cons d rest => simp

/-- A pattern that ends with `%` is matched by the texts with a beginning that matches the rest. -/
theorem like_append_percent {pattern text : List Char} :
    like (pattern ++ ['%']) text = true ↔ ∃ start, start <+: text ∧ like pattern start = true := by
  induction pattern generalizing text with
  | nil =>
      rw [List.nil_append, like_percent]
      apply Iff.intro
      · intro _
        exact ⟨[], List.nil_prefix, like_nil.mpr rfl⟩
      · intro _
        exact ⟨[], List.nil_suffix, like_nil.mpr rfl⟩
  | cons c pattern ih =>
      rw [List.cons_append]
      by_cases hc : c = '%'
      · subst hc
        rw [like_percent]
        apply Iff.intro
        -- what the first wildcard takes and what follows it are a beginning together
        · rintro ⟨rest, ⟨taken, rfl⟩, hrest⟩
          rcases ih.mp hrest with ⟨start, hstart, hlike⟩
          refine ⟨taken ++ start, (List.prefix_append_right_inj taken).mpr hstart, ?_⟩
          exact like_percent.mpr ⟨start, List.suffix_append taken start, hlike⟩
        · rintro ⟨start, ⟨after, rfl⟩, hstart⟩
          rcases like_percent.mp hstart with ⟨rest, ⟨taken, rfl⟩, hlike⟩
          refine ⟨rest ++ after, ?_, ih.mpr ⟨rest, List.prefix_append rest after, hlike⟩⟩
          rw [List.append_assoc]
          exact List.suffix_append taken _
      · rw [like_cons hc]
        apply Iff.intro
        · rintro ⟨d, rest, rfl, hd, hrest⟩
          rcases ih.mp hrest with ⟨start, hstart, hlike⟩
          exact ⟨d :: start, (List.prefix_cons_inj d).mpr hstart,
            (like_cons hc).mpr ⟨d, start, rfl, hd, hlike⟩⟩
        · rintro ⟨start, hstart, hlike⟩
          rcases (like_cons hc).mp hlike with ⟨d, rest, rfl, hd, hrest⟩
          rcases hstart with ⟨after, rfl⟩
          exact ⟨d, rest ++ after, rfl, hd, ih.mpr ⟨rest, List.prefix_append rest after, hrest⟩⟩

/-- **Between two wildcards** a pattern is looked for anywhere. -/
theorem like_contains {pattern text : List Char} :
    like ('%' :: (pattern ++ ['%'])) text = true ↔
      ∃ part, part <:+: text ∧ like pattern part = true := by
  rw [like_percent]
  apply Iff.intro
  · rintro ⟨rest, hrest, hlike⟩
    rcases like_append_percent.mp hlike with ⟨part, hpart, hlike⟩
    exact ⟨part, hpart.isInfix.trans hrest.isInfix, hlike⟩
  · rintro ⟨part, ⟨before, after, rfl⟩, hlike⟩
    refine ⟨part ++ after, ?_, like_append_percent.mpr ⟨part, List.prefix_append _ _, hlike⟩⟩
    rw [List.append_assoc]
    exact List.suffix_append before _

theorem like_self (pattern : List Char) : like pattern pattern = true := by
  induction pattern with
  | nil => rfl
  | cons c pattern ih =>
      by_cases hc : c = '%'
      · subst hc
        exact like_percent.mpr ⟨pattern, List.suffix_cons _ _, ih⟩
      · exact (like_cons hc).mpr ⟨c, pattern, rfl, .inr rfl, ih⟩

/-- Without wildcards a pattern matches itself only. -/
theorem like_iff_eq {pattern text : List Char} (h : ∀ c ∈ pattern, isWildcard c = false) :
    like pattern text = true ↔ text = pattern := by
  refine ⟨fun hlike => ?_, fun heq => heq ▸ like_self pattern⟩
  induction pattern generalizing text with
  | nil => exact like_nil.mp hlike
  | cons c pattern ih =>
      have hc := h c List.mem_cons_self
      rw [isWildcard, Bool.or_eq_false_iff, decide_eq_false_iff_not, decide_eq_false_iff_not] at hc
      rcases (like_cons hc.1).mp hlike with ⟨d, rest, rfl, hd | rfl, hrest⟩
      · exact absurd hd hc.2
      · rw [ih (fun c hc => h c (List.mem_cons_of_mem _ hc)) hrest]

/-- The pattern with `x` in the place of every wildcard. -/
def filled (pattern : List Char) : List Char :=
  pattern.map (fun c => if isWildcard c then 'x' else c)

theorem like_filled (pattern : List Char) : like pattern (filled pattern) = true := by
  induction pattern with
  | nil => rfl
  | cons c pattern ih =>
      rw [filled, List.map_cons]
      by_cases hc : c = '%'
      · rw [hc]
        exact like_percent.mpr ⟨filled pattern, List.suffix_cons _ _, ih⟩
      · refine (like_cons hc).mpr ⟨_, filled pattern, rfl, ?_, ih⟩
        by_cases hunderscore : c = '_'
        · exact .inl hunderscore
        · rw [if_neg (by simp [isWildcard, hc, hunderscore])]
          exact .inr rfl

theorem not_wildcard_of_mem_filled {pattern : List Char} {c : Char} (h : c ∈ filled pattern) :
    isWildcard c = false := by
  rcases List.mem_map.mp h with ⟨d, _, rfl⟩
  by_cases hd : isWildcard d = true
  · rw [if_pos hd]
    decide
  · rw [if_neg hd]
    simpa using hd

/-! ## `ILIKE` -/

/-- `lower(text)`, which knows the letters of ASCII. -/
def lower (text : String) : List Char := text.toList.map Char.toLower

/-- `column.ilike(pattern)`; it does not hold of NULL. -/
def ilike (column : Option String) (pattern : String) : Bool :=
  match column with
  | none => false
  | some text => like (lower pattern) (lower text)

theorem isWildcard_toLower (c : Char) : isWildcard c.toLower = isWildcard c := by
  unfold Char.toLower
  split
  -- a letter: neither it nor its lower case is a wildcard
  · rename_i hupper
    have hle : 65 ≤ c.toNat ∧ c.toNat ≤ 90 := hupper
    have hlower : (c.val + ('a'.val - 'A'.val)).toNat = c.toNat + 32 := by
      show (c.val.toNat + 32) % 4294967296 = c.val.toNat + 32
      have hc : c.val.toNat ≤ 90 := hle.2
      omega
    have hnone : ∀ d : Char, d.toNat ≠ 37 → d.toNat ≠ 95 → isWildcard d = false := by
      intro d hpercent hunderscore
      rw [isWildcard, Bool.or_eq_false_iff, decide_eq_false_iff_not, decide_eq_false_iff_not]
      exact ⟨fun h => hpercent (h ▸ rfl), fun h => hunderscore (h ▸ rfl)⟩
    rw [hnone c (by omega) (by omega)]
    apply hnone
    · show (c.val + ('a'.val - 'A'.val)).toNat ≠ 37
      omega
    · show (c.val + ('a'.val - 'A'.val)).toNat ≠ 95
      omega
  · rfl

theorem forall_lower_not_wildcard {text : String} :
    (∀ c ∈ lower text, isWildcard c = false) ↔ ∀ c ∈ text.toList, isWildcard c = false := by
  simp only [lower, List.forall_mem_map, isWildcard_toLower]

theorem lower_filled (text : String) :
    lower (String.ofList (filled text.toList)) = filled (lower text) := by
  rw [lower, String.toList_ofList, filled, filled, lower, List.map_map, List.map_map]
  refine List.map_congr_left fun c _ => ?_
  rw [Function.comp_apply, Function.comp_apply, isWildcard_toLower]
  split
  · decide
  · rfl

theorem ilike_contains {column : Option String} {text : String} :
    ilike column ("%" ++ text ++ "%") = true ↔
      ∃ value, column = some value ∧
        ∃ part, part <:+: lower value ∧ like (lower text) part = true := by
  have hpattern : lower ("%" ++ text ++ "%") = '%' :: (lower text ++ ['%']) := by
    simp only [lower, String.toList_append, List.map_append]
    rfl
  cases column with
  | none => simp [ilike]
  | some value =>
      rw [ilike, hpattern, like_contains]
      simp

example : ilike (some "PC-Alpha") "%a_p%" = true ∧ ilike (some "PC-Alpha") "%a_c%" = false ∧
    ilike none "%" = false := by decide +kernel

end Sqlite
