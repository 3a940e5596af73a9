import Mathlib.Data.List.TakeWhile
import Mathlib.Tactic.Common

/-!
# Go strings — bytes, runes and `strings.EqualFold`

A Go string is a sequence of bytes; text that comes from elsewhere is its UTF-8 encoding.  A loop
over the runes of a string reads U+FFFD for every byte that is not part of an encoding.
-/

namespace Go

abbrev GoString := List UInt8

def ofString (s : String) : GoString := s.toList.flatMap String.utf8EncodeChar

@[simp] theorem ofString_append (s t : String) : ofString (s ++ t) = ofString s ++ ofString t := by
  simp [ofString]

/-- Rewritten at a literal, this spares the kernel the decoding of its bytes. -/
theorem ofString_ofList (cs : List Char) :
    ofString (String.ofList cs) = cs.flatMap String.utf8EncodeChar := by
  rw [ofString, String.toList_ofList]

/-- Text of ASCII characters has one byte for each of them. -/
theorem ofString_ascii {s : String} (h : ∀ c ∈ s.toList, c.toNat < 128) :
    ofString s = s.toList.map Char.toUInt8 := by
  unfold ofString
  generalize s.toList = cs at h
  induction cs with
  | nil => rfl
  | cons c cs ih =>
      have hc : String.utf8EncodeChar c = [c.toUInt8] := by
        have hle : c.val.toNat ≤ 0x7f := Nat.lt_succ_iff.mp (h c List.mem_cons_self)
        unfold String.utf8EncodeChar
        exact if_pos hle
      rw [List.flatMap_cons, List.map_cons, hc, ih fun c hc => h c (List.mem_cons_of_mem _ hc)]
      rfl

/-- `strings.HasPrefix`. -/
def hasPrefix (s start : String) : Bool := start.toList.isPrefixOf s.toList

/-! ## Cutting -/

/-- `strings.Cut` at a byte, without the flag. -/
def cut (s : GoString) (sep : UInt8) : GoString × GoString :=
  (s.takeWhile (fun b => b ≠ sep), (s.dropWhile (fun b => b ≠ sep)).drop 1)

/-- The string before and after the last `sep`, where `strings.LastIndex` finds one. -/
def cutLast (s : GoString) (sep : UInt8) : Option (GoString × GoString) :=
  if sep ∈ s then
    let (after, before) := cut s.reverse sep
    some (before.reverse, after.reverse)
  else none

theorem cut_append {s : GoString} {sep : UInt8} (h : sep ∉ s) (t : GoString) :
    cut (s ++ t) sep = (s ++ (cut t sep).1, (cut t sep).2) := by
  have hall : ∀ b ∈ s, decide (b ≠ sep) = true := by
    intro b hb
    exact decide_eq_true fun heq => h (heq ▸ hb)
  rw [cut, List.takeWhile_append_of_pos hall, List.dropWhile_append_of_pos hall, cut]

theorem cut_sep (sep : UInt8) (t : GoString) : cut (sep :: t) sep = ([], t) := by
  simp [cut]

theorem cutLast_of_not_mem {s : GoString} {sep : UInt8} (h : sep ∉ s) : cutLast s sep = none :=
  if_neg h

theorem cutLast_append (s : GoString) {t : GoString} {sep : UInt8} (h : sep ∉ t) :
    cutLast (s ++ sep :: t) sep = some (s, t) := by
  have hmem : sep ∈ s ++ sep :: t := by simp
  have hrev : (s ++ sep :: t).reverse = t.reverse ++ sep :: s.reverse := by simp
  rw [cutLast, if_pos hmem, hrev, cut_append (by simpa using h), cut_sep]
  simp

/-- `strings.Split` at a byte. -/
def split (sep : UInt8) : GoString → List GoString
  | [] => [[]]
  | b :: rest =>
      if b = sep then [] :: split sep rest
      else
        match split sep rest with
        | [] => [[b]]
        | piece :: pieces => (b :: piece) :: pieces

theorem split_ne_nil (sep : UInt8) (s : GoString) : split sep s ≠ [] := by
  cases s with
  | nil => exact List.cons_ne_nil _ _
  | cons b rest =>
      rw [split]
      split
      · exact List.cons_ne_nil _ _
      · split <;> exact List.cons_ne_nil _ _

theorem split_append {sep : UInt8} {s : GoString} (h : sep ∉ s) (t : GoString) :
    split sep (s ++ sep :: t) = s :: split sep t := by
  induction s with
  | nil => rw [List.nil_append, split, if_pos rfl]
  | cons b s ih =>
      have hb : b ≠ sep := fun heq => h (heq ▸ List.mem_cons_self)
      rw [List.cons_append, split, if_neg hb, ih fun hmem => h (List.mem_cons_of_mem b hmem)]

/-- No piece contains the separator. -/
theorem sep_not_mem_split {sep : UInt8} {s piece : GoString} (h : piece ∈ split sep s) :
    sep ∉ piece := by
  induction s generalizing piece with
  | nil =>
      rw [split, List.mem_singleton] at h
      rw [h]
      exact List.not_mem_nil
  | cons b rest ih =>
      rw [split] at h
      split at h
      · rcases List.mem_cons.mp h with rfl | h
        · exact List.not_mem_nil
        · exact ih h
      · rename_i hb
        cases hrest : split sep rest with
        | nil => exact absurd hrest (split_ne_nil sep rest)
        | cons first pieces =>
            rw [hrest] at h ih
            rcases List.mem_cons.mp h with rfl | h
            · rw [List.mem_cons, not_or]
              exact ⟨Ne.symm hb, ih List.mem_cons_self⟩
            · exact ih (List.mem_cons_of_mem first h)

/-- `strings.SplitN` at a byte, into at most two pieces. -/
def splitTwo (s : GoString) (sep : UInt8) : List GoString :=
  if sep ∈ s then [(cut s sep).1, (cut s sep).2] else [s]

/-- `strings.Contains`. -/
def contains (s sub : GoString) : Bool := s.tails.any (fun t => sub.isPrefixOf t)

/-! ## Replacing -/

/-- `s` with each `old` replaced; the first `skip` bytes belong to one already read. -/
def replaceFrom (old new : GoString) (skip : Nat) : GoString → GoString
  | [] => []
  | b :: rest =>
      match skip with
      | skip + 1 => replaceFrom old new skip rest
      | 0 =>
          if old.isPrefixOf (b :: rest) then new ++ replaceFrom old new (old.length - 1) rest
          else b :: replaceFrom old new 0 rest

/-- `strings.ReplaceAll`, for an `old` that is not empty. -/
def replaceAll (s old new : GoString) : GoString := replaceFrom old new 0 s

/-- A single byte is replaced wherever it stands. -/
theorem replaceAll_byte (s new : GoString) (old : UInt8) :
    replaceAll s [old] new = s.flatMap (fun b => if b = old then new else [b]) := by
  unfold replaceAll
  induction s with
  | nil => rfl
  | cons b rest ih =>
      rw [replaceFrom, List.flatMap_cons, ← ih]
      by_cases hb : b = old
      · rw [if_pos hb, if_pos (by simp [List.isPrefixOf, hb])]
        rfl
      · rw [if_neg hb, if_neg (by simp [List.isPrefixOf, Ne.symm hb])]
        rfl

/-! ## White space -/

def isAsciiSpace (b : UInt8) : Bool := [0x09, 0x0a, 0x0b, 0x0c, 0x0d, 0x20].contains b

/-- The encodings of the runes `unicode.IsSpace` accepts. -/
def spaceCodes : List GoString :=
  [[0x09], [0x0a], [0x0b], [0x0c], [0x0d], [0x20], [0xc2, 0x85], [0xc2, 0xa0],
    [0xe1, 0x9a, 0x80], [0xe2, 0x80, 0x80], [0xe2, 0x80, 0x81], [0xe2, 0x80, 0x82],
    [0xe2, 0x80, 0x83], [0xe2, 0x80, 0x84], [0xe2, 0x80, 0x85], [0xe2, 0x80, 0x86],
    [0xe2, 0x80, 0x87], [0xe2, 0x80, 0x88], [0xe2, 0x80, 0x89], [0xe2, 0x80, 0x8a],
    [0xe2, 0x80, 0xa8], [0xe2, 0x80, 0xa9], [0xe2, 0x80, 0xaf], [0xe2, 0x81, 0x9f],
    [0xe3, 0x80, 0x80]]

/-- The bytes of the space that `s` starts with, 0 where it starts with none. -/
def spaceWidth (codes : List GoString) (s : GoString) : Nat :=
  match codes.find? (fun code => code.isPrefixOf s) with
  | none => 0
  | some code => code.length

/-- `s` behind the spaces it starts with, of whose first bytes `skip` belong to a space already
read. -/
def dropSpaces (codes : List GoString) (skip : Nat) : GoString → GoString
  | [] => []
  | b :: rest =>
      match skip with
      | skip + 1 => dropSpaces codes skip rest
      | 0 =>
          match spaceWidth codes (b :: rest) with
          | 0 => b :: rest
          | width + 1 => dropSpaces codes width rest

/-- `strings.TrimSpace`; the spaces at the end are those at the beginning of the reversed string. -/
def trimSpace (s : GoString) : GoString :=
  (dropSpaces (spaceCodes.map List.reverse) 0 (dropSpaces spaceCodes 0 s).reverse).reverse

/-- What is dropped are bytes of spaces. -/
theorem dropSpaces_dropped {codes : List GoString} {P : UInt8 → Prop}
    (hcodes : ∀ code ∈ codes, ∀ b ∈ code, P b) {skip : Nat} {s : GoString}
    (hskip : ∀ b ∈ s.take skip, P b) :
    ∃ lead, s = lead ++ dropSpaces codes skip s ∧ ∀ b ∈ lead, P b := by
  induction s generalizing skip with
  | nil => exact ⟨[], rfl, fun b hb => absurd hb List.not_mem_nil⟩
  | cons b rest ih =>
      have hcons : ∀ skip, P b → (∀ c ∈ rest.take skip, P c) →
          ∃ lead, b :: rest = lead ++ dropSpaces codes skip rest ∧ ∀ c ∈ lead, P c := by
        intro skip hb hrest
        obtain ⟨lead, heq, hlead⟩ := ih hrest
        refine ⟨b :: lead, congrArg (b :: ·) heq, fun c hc => ?_⟩
        rcases List.mem_cons.mp hc with rfl | hc
        · exact hb
        · exact hlead c hc
      cases skip with
      | succ skip =>
          rw [List.take_succ_cons] at hskip
          exact hcons skip (hskip b List.mem_cons_self)
            fun c hc => hskip c (List.mem_cons_of_mem b hc)
      | zero =>
          rw [dropSpaces]
          split
          · exact ⟨[], rfl, fun c hc => absurd hc List.not_mem_nil⟩
          · rename_i width hwidth
            unfold spaceWidth at hwidth
            split at hwidth
            · cases hwidth
            · rename_i code hcode
              have hall := hcodes code (List.mem_of_find?_eq_some hcode)
              have hstart :=
                List.find?_some (p := fun code : GoString => code.isPrefixOf (b :: rest)) hcode
              obtain ⟨behind, hbehind⟩ := List.isPrefixOf_iff_prefix.mp hstart
              have hlength : code.length = width + 1 := hwidth
              have htake : (b :: rest).take (width + 1) = code := by
                rw [← hbehind, ← hlength, List.take_left]
              rw [List.take_succ_cons] at htake
              rw [← htake] at hall
              exact hcons width (hall b List.mem_cons_self)
                fun c hc => hall c (List.mem_cons_of_mem b hc)

theorem dropSpaces_suffix (codes : List GoString) (skip : Nat) (s : GoString) :
    dropSpaces codes skip s <:+ s := by
  induction s generalizing skip with
  | nil => exact List.suffix_rfl
  | cons b rest ih =>
      cases skip with
      | succ skip => exact (ih skip).trans (List.suffix_cons b rest)
      | zero =>
          rw [dropSpaces]
          split
          · exact List.suffix_rfl
          · exact (ih _).trans (List.suffix_cons b rest)

/-- What is left does not start with a space. -/
theorem spaceWidth_dropSpaces (codes : List GoString) (skip : Nat) (s : GoString) :
    dropSpaces codes skip s = [] ∨ spaceWidth codes (dropSpaces codes skip s) = 0 := by
  induction s generalizing skip with
  | nil => exact .inl rfl
  | cons b rest ih =>
      cases skip with
      | succ skip => exact ih skip
      | zero =>
          rw [dropSpaces]
          split
          · rename_i hwidth
            exact .inr hwidth
          · exact ih _

theorem dropSpaces_of_width {codes : List GoString} {s : GoString}
    (h : spaceWidth codes s = 0) : dropSpaces codes 0 s = s := by
  cases s with
  | nil => rfl
  | cons b rest => rw [dropSpaces, h]

/-- A one-byte space is seen. -/
theorem not_space_of_width {codes : List GoString} (hcodes : ∀ code ∈ codes, code ≠ [])
    {b : UInt8} {rest : GoString} (h : spaceWidth codes (b :: rest) = 0) : [b] ∉ codes := by
  intro hmem
  unfold spaceWidth at h
  split at h
  · rename_i hnone
    have hno := List.find?_eq_none.mp hnone [b] hmem
    simp at hno
  · rename_i code hcode
    exact hcodes code (List.mem_of_find?_eq_some hcode) (List.length_eq_zero_iff.mp h)

/-- Text whose first byte is an ASCII character other than a space starts with no space. -/
theorem width_of_not_space {codes : List GoString} {b : UInt8} {rest : GoString}
    (hcodes : ∀ code ∈ codes, code.head? ≠ none ∧ code.head? ≠ some b) :
    spaceWidth codes (b :: rest) = 0 := by
  unfold spaceWidth
  split
  · rfl
  · rename_i code hcode
    have hpre := List.find?_some hcode
    obtain ⟨hnone, hb⟩ := hcodes code (List.mem_of_find?_eq_some hcode)
    cases code with
    | nil => exact absurd rfl hnone
    | cons c code =>
        simp only [List.isPrefixOf, Bool.and_eq_true, beq_iff_eq] at hpre
        exact absurd (congrArg some hpre.1) hb

/-- `s` neither begins nor ends with an ASCII space. -/
def Trimmed (s : GoString) : Prop :=
  (∀ b ∈ s.head?, isAsciiSpace b = false) ∧ ∀ b ∈ s.getLast?, isAsciiSpace b = false

theorem space_mem_codes {b : UInt8} (h : isAsciiSpace b = true) :
    [b] ∈ spaceCodes ∧ [b] ∈ spaceCodes.map List.reverse := by
  have hall : ∀ b ∈ ([0x09, 0x0a, 0x0b, 0x0c, 0x0d, 0x20] : List UInt8),
      [b] ∈ spaceCodes ∧ [b] ∈ spaceCodes.map List.reverse := by decide +kernel
  exact hall b (List.contains_iff_mem.mp h)

theorem codes_ne_nil : (∀ code ∈ spaceCodes, code ≠ []) ∧
    ∀ code ∈ spaceCodes.map List.reverse, code ≠ [] := by decide +kernel

/-- A space that is longer than a byte has no byte of an ASCII character at either end. -/
theorem head_of_code {b : UInt8} (hascii : b < 0x80) (h : isAsciiSpace b = false) :
    (∀ code ∈ spaceCodes, code.head? ≠ none ∧ code.head? ≠ some b) ∧
      ∀ code ∈ spaceCodes.map List.reverse, code.head? ≠ none ∧ code.head? ≠ some b := by
  have hheads : (∀ code ∈ spaceCodes, ∃ c, code.head? = some c ∧
      (isAsciiSpace c = true ∨ 0x80 ≤ c)) ∧
        ∀ code ∈ spaceCodes.map List.reverse, ∃ c, code.head? = some c ∧
          (isAsciiSpace c = true ∨ 0x80 ≤ c) := by
    simp [spaceCodes, isAsciiSpace]
  have hother : ∀ c, (isAsciiSpace c = true ∨ 0x80 ≤ c) → c ≠ b := by
    rintro c (hspace | hlarge) rfl
    · rw [h] at hspace
      cases hspace
    · exact absurd hascii (UInt8.not_lt.mpr hlarge)
  refine ⟨fun code hcode => ?_, fun code hcode => ?_⟩
  · obtain ⟨c, hhead, hc⟩ := hheads.1 code hcode
    rw [hhead]
    exact ⟨Option.some_ne_none c, fun heq => hother c hc (Option.some.inj heq)⟩
  · obtain ⟨c, hhead, hc⟩ := hheads.2 code hcode
    rw [hhead]
    exact ⟨Option.some_ne_none c, fun heq => hother c hc (Option.some.inj heq)⟩

theorem head_dropSpaces {codes : List GoString} (hcodes : ∀ code ∈ codes, code ≠ [])
    (hspace : ∀ b, isAsciiSpace b = true → [b] ∈ codes) (s : GoString) :
    ∀ b ∈ (dropSpaces codes 0 s).head?, isAsciiSpace b = false := by
  intro b hb
  by_contra h
  rw [Bool.not_eq_false] at h
  rcases spaceWidth_dropSpaces codes 0 s with hnil | hwidth
  · rw [hnil] at hb
    cases hb
  · cases hleft : dropSpaces codes 0 s with
    | nil =>
        rw [hleft] at hb
        cases hb
    | cons c rest =>
        rw [hleft] at hb hwidth
        cases hb
        exact not_space_of_width hcodes hwidth (hspace b h)

theorem trimSpace_start (s : GoString) : trimSpace s <+: dropSpaces spaceCodes 0 s := by
  have hsuffix := dropSpaces_suffix (spaceCodes.map List.reverse) 0
    (dropSpaces spaceCodes 0 s).reverse
  rw [← List.reverse_prefix, List.reverse_reverse] at hsuffix
  exact hsuffix

theorem mem_of_mem_trimSpace {s : GoString} {b : UInt8} (h : b ∈ trimSpace s) : b ∈ s :=
  (dropSpaces_suffix spaceCodes 0 s).mem ((trimSpace_start s).mem h)

/-- **What is trimmed** neither begins nor ends with a space. -/
theorem trimmed_trimSpace (s : GoString) : Trimmed (trimSpace s) := by
  refine ⟨fun b hb => ?_, fun b hb => ?_⟩
  · -- the trimmed string begins as the one whose beginning is trimmed already
    have hhead := head_dropSpaces codes_ne_nil.1 (fun b hb => (space_mem_codes hb).1) s
    obtain ⟨rest, hrest⟩ := trimSpace_start s
    refine hhead b ?_
    rw [← hrest]
    cases htrim : trimSpace s with
    | nil =>
        rw [htrim] at hb
        cases hb
    | cons c cs =>
        rw [htrim] at hb
        exact hb
  · have hhead := head_dropSpaces codes_ne_nil.2 (fun b hb => (space_mem_codes hb).2)
      (dropSpaces spaceCodes 0 s).reverse
    refine hhead b ?_
    rw [trimSpace, List.getLast?_reverse] at hb
    exact hb

/-- A trimmed string lies between the spaces that are taken off. -/
theorem trimSpace_between {P : UInt8 → Prop} (hcodes : ∀ code ∈ spaceCodes, ∀ b ∈ code, P b)
    (s : GoString) : ∃ lead trail, s = lead ++ trimSpace s ++ trail ∧
      (∀ b ∈ lead, P b) ∧ ∀ b ∈ trail, P b := by
  have hreverse : ∀ code ∈ spaceCodes.map List.reverse, ∀ b ∈ code, P b := by
    intro code hcode b hb
    obtain ⟨forward, hforward, rfl⟩ := List.mem_map.mp hcode
    exact hcodes forward hforward b (List.mem_reverse.mp hb)
  have hnone : ∀ s : GoString, ∀ b ∈ s.take 0, P b :=
    fun _ _ hb => absurd hb List.not_mem_nil
  obtain ⟨lead, hlead, hleadP⟩ := dropSpaces_dropped hcodes (hnone s)
  obtain ⟨trail, htrail, htrailP⟩ :=
    dropSpaces_dropped hreverse (hnone (dropSpaces spaceCodes 0 s).reverse)
  refine ⟨lead, trail.reverse, ?_, hleadP, fun b hb => htrailP b (List.mem_reverse.mp hb)⟩
  have hmiddle := congrArg List.reverse htrail
  rw [List.reverse_reverse, List.reverse_append] at hmiddle
  rw [trimSpace, List.append_assoc, ← hmiddle, ← hlead]

theorem dropSpaces_of_head {codes : List GoString} {s : GoString}
    (h : ∀ b ∈ s.head?, ∀ code ∈ codes, code.head? ≠ none ∧ code.head? ≠ some b) :
    dropSpaces codes 0 s = s := by
  cases s with
  | nil => rfl
  | cons b rest => exact dropSpaces_of_width (width_of_not_space (h b rfl))

/-- ASCII text without spaces at its ends is left as it is. -/
theorem trimSpace_of_trimmed {s : GoString} (hascii : ∀ b ∈ s, b < 0x80) (h : Trimmed s) :
    trimSpace s = s := by
  have hleft : dropSpaces spaceCodes 0 s = s := dropSpaces_of_head fun b hb =>
    (head_of_code (hascii b (List.mem_of_mem_head? hb)) (h.1 b hb)).1
  have hright : dropSpaces (spaceCodes.map List.reverse) 0 s.reverse = s.reverse := by
    refine dropSpaces_of_head fun b hb => ?_
    rw [List.head?_reverse] at hb
    exact (head_of_code (hascii b (List.mem_of_mem_getLast? hb)) (h.2 b hb)).2
  rw [trimSpace, hleft, hright, List.reverse_reverse]

/-! ## Runes -/

def isContinuation (b : UInt8) : Bool := 0x80 ≤ b && b ≤ 0xbf

/-- `utf8.DecodeRune` of a string that is not empty: the rune and its width. -/
def decodeRune (b : UInt8) (rest : GoString) : Nat × Nat :=
  let bits (c : UInt8) := c.toNat % 0x40
  if b < 0x80 then (b.toNat, 1)
  else
    match rest with
    | c :: d :: e :: _ =>
        if four b c && isContinuation d && isContinuation e then
          (((b.toNat % 8 * 0x40 + bits c) * 0x40 + bits d) * 0x40 + bits e, 4)
        else if three b c && isContinuation d then
          ((b.toNat % 16 * 0x40 + bits c) * 0x40 + bits d, 3)
        else if two b c then (b.toNat % 32 * 0x40 + bits c, 2)
        else (0xfffd, 1)
    | [c, d] =>
        if three b c && isContinuation d then
          ((b.toNat % 16 * 0x40 + bits c) * 0x40 + bits d, 3)
        else if two b c then (b.toNat % 32 * 0x40 + bits c, 2)
        else (0xfffd, 1)
    | [c] => if two b c then (b.toNat % 32 * 0x40 + bits c, 2) else (0xfffd, 1)
    | [] => (0xfffd, 1)
where
  two (b c : UInt8) : Bool := 0xc2 ≤ b && b ≤ 0xdf && isContinuation c
  -- no overlong forms and no surrogates
  three (b c : UInt8) : Bool :=
    0xe0 ≤ b && b ≤ 0xef && isContinuation c && (b ≠ 0xe0 || 0xa0 ≤ c) && (b ≠ 0xed || c ≤ 0x9f)
  four (b c : UInt8) : Bool :=
    0xf0 ≤ b && b ≤ 0xf4 && isContinuation c && (b ≠ 0xf0 || 0x90 ≤ c) && (b ≠ 0xf4 || c ≤ 0x8f)

/-- The runes of a string, of whose first bytes `skip` belong to a rune already read. -/
def runesFrom (skip : Nat) : GoString → List Nat
  | [] => []
  | b :: rest =>
      match skip with
      | skip + 1 => runesFrom skip rest
      | 0 =>
          let (rune, width) := decodeRune b rest
          rune :: runesFrom (width - 1) rest

def runes (s : GoString) : List Nat := runesFrom 0 s

theorem runes_ascii {s : GoString} (h : ∀ b ∈ s, b < 0x80) : runes s = s.map UInt8.toNat := by
  unfold runes
  induction s with
  | nil => rfl
  | cons b s ih =>
      have hb : decodeRune b s = (b.toNat, 1) := if_pos (h b List.mem_cons_self)
      rw [runesFrom, hb]
      exact congrArg _ (ih fun b hb => h b (List.mem_cons_of_mem _ hb))

section Wide

open decodeRune

/-- A rune that is no ASCII character, with the bytes behind its first one. -/
structure Wide (rest : GoString) (rune width : Nat) : Prop where
  rune : 0x80 ≤ rune
  bytes : ∀ c ∈ rest.take (width - 1), 0x80 ≤ c

variable {b c d e : UInt8}

theorem wide_invalid (rest : GoString) : Wide rest 0xfffd 1 :=
  ⟨by omega, fun c hc => absurd hc List.not_mem_nil⟩

theorem isContinuation_iff : isContinuation b = true ↔ 0x80 ≤ b.toNat ∧ b.toNat ≤ 0xbf := by
  simp [isContinuation, UInt8.le_iff_toNat_le]

theorem wide_two (h : two b c = true) (rest : GoString) :
    Wide (c :: rest) (b.toNat % 32 * 0x40 + c.toNat % 0x40) 2 := by
  simp only [two, Bool.and_eq_true, decide_eq_true_eq, isContinuation_iff,
    UInt8.le_iff_toNat_le] at h
  obtain ⟨⟨hlow, hhigh⟩, hc⟩ := h
  have hlow : 0xc2 ≤ b.toNat := hlow
  have hhigh : b.toNat ≤ 0xdf := hhigh
  refine ⟨by omega, fun x hx => ?_⟩
  rw [List.mem_singleton.mp hx, UInt8.le_iff_toNat_le]
  exact hc.1

theorem wide_three (h : (three b c && isContinuation d) = true) (rest : GoString) :
    Wide (c :: d :: rest) ((b.toNat % 16 * 0x40 + c.toNat % 0x40) * 0x40 + d.toNat % 0x40) 3 := by
  simp only [three, Bool.and_eq_true, Bool.or_eq_true, decide_eq_true_eq, isContinuation_iff,
    UInt8.le_iff_toNat_le, ne_eq, ← UInt8.toNat_inj] at h
  obtain ⟨⟨⟨⟨⟨hlow, hhigh⟩, hc⟩, hfirst⟩, -⟩, hd⟩ := h
  have hlow : 0xe0 ≤ b.toNat := hlow
  have hhigh : b.toNat ≤ 0xef := hhigh
  have hfirst : ¬b.toNat = 0xe0 ∨ 0xa0 ≤ c.toNat := hfirst
  refine ⟨by omega, fun x hx => ?_⟩
  simp only [Nat.add_one_sub_one, List.take_succ_cons, List.take_zero, List.mem_cons,
    List.not_mem_nil, or_false] at hx
  rw [UInt8.le_iff_toNat_le]
  rcases hx with rfl | rfl
  · exact hc.1
  · exact hd.1

theorem wide_four (h : (four b c && isContinuation d && isContinuation e) = true)
    (rest : GoString) : Wide (c :: d :: e :: rest)
      (((b.toNat % 8 * 0x40 + c.toNat % 0x40) * 0x40 + d.toNat % 0x40) * 0x40 + e.toNat % 0x40)
      4 := by
  simp only [four, Bool.and_eq_true, Bool.or_eq_true, decide_eq_true_eq, isContinuation_iff,
    UInt8.le_iff_toNat_le, ne_eq, ← UInt8.toNat_inj] at h
  obtain ⟨⟨⟨⟨⟨⟨hlow, hhigh⟩, hc⟩, hfirst⟩, -⟩, hd⟩, he⟩ := h
  have hlow : 0xf0 ≤ b.toNat := hlow
  have hhigh : b.toNat ≤ 0xf4 := hhigh
  have hfirst : ¬b.toNat = 0xf0 ∨ 0x90 ≤ c.toNat := hfirst
  refine ⟨by omega, fun x hx => ?_⟩
  simp only [Nat.add_one_sub_one, List.take_succ_cons, List.take_zero, List.mem_cons,
    List.not_mem_nil, or_false] at hx
  rw [UInt8.le_iff_toNat_le]
  rcases hx with rfl | rfl | rfl
  · exact hc.1
  · exact hd.1
  · exact he.1

/-- **A byte beyond ASCII** begins no ASCII character, and none is in the bytes read with it. -/
theorem decodeRune_wide (hb : ¬b < 0x80) (rest : GoString) :
    Wide rest (decodeRune b rest).1 (decodeRune b rest).2 := by
  unfold decodeRune
  dsimp only
  rw [if_neg hb]
  rcases rest with _ | ⟨c, _ | ⟨d, _ | ⟨e, rest⟩⟩⟩
  · exact wide_invalid []
  · dsimp only
    split_ifs with htwo
    · exact wide_two htwo []
    · exact wide_invalid [c]
  · dsimp only
    split_ifs with hthree htwo
    · exact wide_three hthree []
    · exact wide_two htwo [d]
    · exact wide_invalid [c, d]
  · dsimp only
    split_ifs with hfour hthree htwo
    · exact wide_four hfour rest
    · exact wide_three hthree (e :: rest)
    · exact wide_two htwo (d :: e :: rest)
    · exact wide_invalid (c :: d :: e :: rest)

end Wide

/-- `strings.ToLower`; `lower` is `unicode.ToLower`. -/
def stringsToLower (lower : Char → Char) (s : GoString) : GoString :=
  (runes s).flatMap (fun rune => String.utf8EncodeChar (lower (Char.ofNat rune)))

/-- `strings.EqualFold`; `fold` takes a rune to the one that stands for all runes it equals under
Unicode simple folding. -/
def equalFold (fold : Nat → Nat) (s t : GoString) : Bool :=
  (runes s).map fold = (runes t).map fold

theorem equalFold_refl (fold : Nat → Nat) (s : GoString) : equalFold fold s s = true :=
  decide_eq_true rfl

theorem length_eq_of_equalFold {fold : Nat → Nat} {s t : GoString} (hs : ∀ b ∈ s, b < 0x80)
    (ht : ∀ b ∈ t, b < 0x80) (h : equalFold fold s t = true) : s.length = t.length := by
  have heq : (runes s).map fold = (runes t).map fold := of_decide_eq_true h
  rw [runes_ascii hs, runes_ascii ht] at heq
  simpa using congrArg List.length heq

end Go
