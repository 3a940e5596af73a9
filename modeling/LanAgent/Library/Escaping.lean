import Mathlib.Data.List.Basic
import Mathlib.Tactic.Common

/-!
# Escaping — characters replaced by texts, and back

A table of entities is worked off by one replacement over the whole string for each of them.  When
no character is replaced that an earlier replacement put in, the result is that of a map over the
characters (`foldl_substitute`).  Entities that begin with a marker and can be told apart are read
back by one pass from the left (`expand_escape`).
-/

namespace Library.Escaping

variable {α : Type} [DecidableEq α]

/-- A character and the text that stands for it. -/
structure Entity (α : Type) where
  char : α
  text : List α
  deriving DecidableEq

def Entity.substitute (e : Entity α) (s : List α) : List α :=
  s.flatMap (fun c => if c = e.char then e.text else [c])

def image (table : List (Entity α)) (c : α) : List α :=
  match table.find? (fun e => e.char = c) with
  | some e => e.text
  | none => [c]

def escape (table : List (Entity α)) (s : List α) : List α := s.flatMap (image table)

theorem escape_cons (table : List (Entity α)) (c : α) (s : List α) :
    escape table (c :: s) = image table c ++ escape table s := List.flatMap_cons

theorem image_cons (e : Entity α) (table : List (Entity α)) (c : α) :
    image (e :: table) c = if e.char = c then e.text else image table c := by
  unfold image
  by_cases hc : e.char = c
  · rw [List.find?_cons_of_pos (by simpa using hc), if_pos hc]
  · rw [List.find?_cons_of_neg (by simpa using hc), if_neg hc]

theorem image_cases (table : List (Entity α)) (c : α) :
    (∃ e ∈ table, e.char = c ∧ image table c = e.text) ∨
      (∀ e ∈ table, e.char ≠ c) ∧ image table c = [c] := by
  unfold image
  cases hfind : table.find? (fun e => e.char = c) with
  | some e =>
      have hchar := List.find?_some hfind
      exact .inl ⟨e, List.mem_of_find?_eq_some hfind, of_decide_eq_true hchar, rfl⟩
  | none =>
      refine .inr ⟨fun e he hchar => ?_, rfl⟩
      exact List.find?_eq_none.mp hfind e he (decide_eq_true hchar)

/-! ## One replacement after the other -/

theorem escape_of_plain {table : List (Entity α)} {s : List α} (h : ∀ e ∈ table, e.char ∉ s) :
    escape table s = s := by
  induction s with
  | nil => rfl
  | cons c s ih =>
      have htail := ih fun e he hmem => h e he (List.mem_cons_of_mem c hmem)
      rw [escape_cons, htail]
      rcases image_cases table c with ⟨e, he, hchar, -⟩ | ⟨-, himage⟩
      · exact absurd (hchar ▸ List.mem_cons_self) (h e he)
      · rw [himage]
        rfl

/-- **A sequence of replacements** that leaves alone what it put in is a map over the characters. -/
theorem foldl_substitute {table : List (Entity α)}
    (h : table.Pairwise fun e later => later.char ∉ e.text) (s : List α) :
    table.foldl (fun s e => e.substitute s) s = escape table s := by
  induction table generalizing s with
  | nil =>
      rw [escape_of_plain fun e he => absurd he List.not_mem_nil]
      rfl
  | cons e table ih =>
      rw [List.pairwise_cons] at h
      rw [List.foldl_cons, ih h.2, escape, escape, Entity.substitute, List.flatMap_assoc]
      refine List.flatMap_congr fun c _ => ?_
      by_cases hc : c = e.char
      · rw [if_pos hc, image_cons, if_pos hc.symm]
        exact escape_of_plain h.1
      · rw [if_neg hc, image_cons, if_neg (Ne.symm hc), List.flatMap_singleton]

/-! ## Reading back -/

/-- The entity that `s` begins with. -/
def entityAt (table : List (Entity α)) (s : List α) : Option (Entity α) :=
  table.find? (fun e => e.text.isPrefixOf s)

/-- `s` with its entities replaced by their characters; `skip` characters belong to an entity
already read. -/
def expandFrom (table : List (Entity α)) (skip : Nat) : List α → List α
  | [] => []
  | c :: rest =>
      match skip with
      | skip + 1 => expandFrom table skip rest
      | 0 =>
          match entityAt table (c :: rest) with
          | some e => e.char :: expandFrom table (e.text.length - 1) rest
          | none => c :: expandFrom table 0 rest

def expand (table : List (Entity α)) (s : List α) : List α := expandFrom table 0 s

/-- The entities begin with the marker, which is escaped itself, hold no other escaped character,
and none is the beginning of another. -/
structure Readable (marker : α) (table : List (Entity α)) : Prop where
  escaped : ∃ e ∈ table, e.char = marker
  marked : ∀ e ∈ table, e.text.head? = some marker ∧ ∀ e' ∈ table, e'.char ∉ e.text.tail
  apart : ∀ e ∈ table, ∀ e' ∈ table, e.text <+: e'.text → e = e'

theorem expandFrom_append (table : List (Entity α)) (s t : List α) :
    expandFrom table s.length (s ++ t) = expandFrom table 0 t := by
  induction s with
  | nil => rfl
  | cons c s ih => exact ih

section Readable

variable {marker : α} {table : List (Entity α)}

omit [DecidableEq α] in
theorem Readable.text_eq (h : Readable marker table) {e : Entity α} (he : e ∈ table) :
    ∃ body, e.text = marker :: body ∧ ∀ e' ∈ table, e'.char ∉ body := by
  obtain ⟨hhead, htail⟩ := h.marked e he
  cases htext : e.text with
  | nil =>
      rw [htext] at hhead
      cases hhead
  | cons c body =>
      rw [htext] at hhead htail
      cases hhead
      exact ⟨body, rfl, htail⟩

/-- Of the escaped characters only the marker is left. -/
theorem Readable.eq_marker (h : Readable marker table) {s : List α} {e : Entity α} (he : e ∈ table)
    (hmem : e.char ∈ escape table s) : e.char = marker := by
  obtain ⟨c, -, hc⟩ := List.mem_flatMap.mp hmem
  rcases image_cases table c with ⟨e', he', -, himage⟩ | ⟨hplain, himage⟩
  · obtain ⟨body, htext, hbody⟩ := h.text_eq he'
    rw [himage, htext] at hc
    rcases List.mem_cons.mp hc with hc | hc
    · exact hc
    · exact absurd hc (hbody e he)
  · rw [himage, List.mem_singleton] at hc
    exact absurd hc (hplain e he)

/-- **Every marker** that is left begins an entity. -/
theorem Readable.entity_of_marker (h : Readable marker table) {s before after : List α}
    (heq : escape table s = before ++ marker :: after) :
    ∃ e ∈ table, e.text <+: marker :: after := by
  induction s generalizing before with
  | nil =>
      have hlength := congrArg List.length heq
      rw [List.length_append, List.length_cons] at hlength
      exact absurd hlength (by simp [escape])
  | cons c s ih =>
      rw [escape_cons, List.append_eq_append_iff] at heq
      rcases heq with ⟨middle, -, hrest⟩ | ⟨middle, himage, hrest⟩
      · exact ih hrest
      · cases middle with
        | nil =>
            have hnil : escape table s = [] ++ marker :: after := hrest.symm
            exact ih hnil
        | cons m middle =>
            -- the marker is a character of the image of `c`, and so its first one
            obtain ⟨rfl, hafter⟩ := List.cons_eq_cons.mp hrest
            obtain ⟨emarker, hmarker, hchar⟩ := h.escaped
            rcases image_cases table c with ⟨e, he, -, htext⟩ | ⟨hplain, hsingle⟩
            · obtain ⟨body, hbody, hnot⟩ := h.text_eq he
              rw [htext, hbody] at himage
              cases before with
              | nil =>
                  rw [List.nil_append] at himage
                  refine ⟨e, he, escape table s, ?_⟩
                  rw [hbody, himage, hafter]
                  rfl
              | cons b before =>
                  have hmem : emarker.char ∈ body := by
                    rw [hchar, (List.cons_eq_cons.mp himage).2]
                    simp
                  exact absurd hmem (hnot emarker hmarker)
            · have hmem : marker ∈ image table c := by
                rw [himage]
                simp
              rw [hsingle, List.mem_singleton] at hmem
              exact absurd (hchar.trans hmem) (hplain emarker hmarker)

theorem Readable.entityAt_text (h : Readable marker table) {e : Entity α} (he : e ∈ table)
    (s : List α) : entityAt table (e.text ++ s) = some e := by
  have hpos : e.text.isPrefixOf (e.text ++ s) = true :=
    List.isPrefixOf_iff_prefix.mpr (List.prefix_append e.text s)
  unfold entityAt
  cases hfind : table.find? (fun e' => e'.text.isPrefixOf (e.text ++ s)) with
  | none => exact absurd hpos (List.find?_eq_none.mp hfind e he)
  | some found =>
      -- of two texts at one place the shorter one is the beginning of the other
      have hmem := List.mem_of_find?_eq_some hfind
      have hfound :=
        List.find?_some (p := fun e' : Entity α => e'.text.isPrefixOf (e.text ++ s)) hfind
      rw [List.isPrefixOf_iff_prefix] at hfound
      rcases List.prefix_or_prefix_of_prefix hfound (List.prefix_append e.text s) with hle | hle
      · rw [h.apart found hmem e he hle]
      · rw [h.apart e he found hmem hle]

theorem Readable.entityAt_plain (h : Readable marker table) {c : α}
    (hc : ∀ e ∈ table, e.char ≠ c) (s : List α) : entityAt table (c :: s) = none := by
  refine List.find?_eq_none.mpr fun e he hstart => ?_
  obtain ⟨body, htext, -⟩ := h.text_eq he
  obtain ⟨emarker, hmarker, hchar⟩ := h.escaped
  rw [htext, List.isPrefixOf_iff_prefix, List.cons_prefix_cons] at hstart
  exact hc emarker hmarker (hchar.trans hstart.1)

/-- **What is escaped is read back.** -/
theorem Readable.expand_escape (h : Readable marker table) (s : List α) :
    expand table (escape table s) = s := by
  unfold expand
  induction s with
  | nil => rfl
  | cons c s ih =>
      rw [escape_cons]
      rcases image_cases table c with ⟨e, he, hchar, himage⟩ | ⟨hplain, himage⟩
      · obtain ⟨body, htext, -⟩ := h.text_eq he
        have hat := h.entityAt_text he (escape table s)
        rw [himage, htext, List.cons_append]
        rw [htext, List.cons_append] at hat
        rw [expandFrom, hat]
        dsimp only
        rw [htext, List.length_cons, Nat.add_sub_cancel, expandFrom_append, ih, hchar]
      · rw [himage, List.singleton_append, expandFrom, h.entityAt_plain hplain]
        exact congrArg _ ih

end Readable

end Library.Escaping
