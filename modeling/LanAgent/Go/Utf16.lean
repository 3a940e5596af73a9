import LanAgent.Go.Strings

/-!
# `syscall.UTF16FromString` — UTF-16 for the Windows API

A string is read rune by rune, with the encodings of single surrogates read as such.  A string has
at most as many units as bytes, and as many only if each of its characters is one byte long
(`length_utf16_eq_iff`).
-/

namespace Go

/-- A surrogate encoded like a rune of three bytes. -/
def encodedSurrogate (b : UInt8) (rest : GoString) : Option Nat :=
  match rest with
  | c :: d :: _ =>
      if b = 0xed ∧ 0xa0 ≤ c ∧ c ≤ 0xbf ∧ 0x80 ≤ d ∧ d ≤ 0xbf then
        some ((b.toNat % 16 * 0x40 + c.toNat % 0x40) * 0x40 + d.toNat % 0x40)
      else none
  | _ => none

/-- `utf16.AppendRune`: the units of a rune. -/
def runeUnits (r : Nat) : List UInt16 :=
  if r < 0xd800 ∨ 0xe000 ≤ r ∧ r < 0x10000 then [UInt16.ofNat r]
  else if 0x10000 ≤ r ∧ r ≤ 0x10ffff then
    [UInt16.ofNat (0xd800 + (r - 0x10000) / 0x400), UInt16.ofNat (0xdc00 + (r - 0x10000) % 0x400)]
  else [0xfffd]

/-- The units of the first character, and its width in bytes. -/
def firstUnits (b : UInt8) (rest : GoString) : List UInt16 × Nat :=
  let (rune, width) := decodeRune b rest
  match if rune = 0xfffd then encodedSurrogate b rest else none with
  | some surrogate => ([UInt16.ofNat surrogate], 3)
  | none => (runeUnits rune, width)

/-- `encodeWTF16` of a string of whose first bytes `skip` belong to a character already read. -/
def utf16From (skip : Nat) : GoString → List UInt16
  | [] => []
  | b :: rest =>
      match skip with
      | skip + 1 => utf16From skip rest
      | 0 => (firstUnits b rest).1 ++ utf16From ((firstUnits b rest).2 - 1) rest

def utf16 (s : GoString) : List UInt16 := utf16From 0 s

/-- `syscall.UTF16FromString`, the closing NUL included; `none` where it returns `EINVAL`. -/
def utf16FromString (s : GoString) : Option (List UInt16) :=
  if 0 ∈ s then none else some (utf16 s ++ [0])

def charWidth (b : UInt8) (rest : GoString) : Nat :=
  if (encodedSurrogate b rest).isSome then 3 else (decodeRune b rest).2

/-- Every character is one byte long: an ASCII character, or a byte that is part of no encoding. -/
def OneByte : GoString → Prop
  | [] => True
  | b :: rest => charWidth b rest = 1 ∧ OneByte rest

instance OneByte.decidable : ∀ s : GoString, Decidable (OneByte s)
  | [] => inferInstanceAs (Decidable True)
  | b :: rest =>
      have := OneByte.decidable rest
      inferInstanceAs (Decidable (charWidth b rest = 1 ∧ OneByte rest))

/-! ## Widths -/

/-- A rune of `width` bytes at the beginning of a byte and `rest`. -/
structure Decoded (rest : GoString) (rune width : Nat) : Prop where
  pos : 1 ≤ width
  fits : width - 1 ≤ rest.length
  small : width < 4 → rune < 0x10000

theorem decoded_decodeRune (b : UInt8) (rest : GoString) :
    Decoded rest (decodeRune b rest).1 (decodeRune b rest).2 := by
  have hinvalid : ∀ rest, Decoded rest 0xfffd 1 :=
    fun _ => ⟨le_rfl, Nat.zero_le _, fun _ => by omega⟩
  have htwo : ∀ c rest, Decoded (c :: rest) (b.toNat % 32 * 0x40 + c.toNat % 0x40) 2 :=
    fun _ _ => ⟨by omega, by simp, fun _ => by omega⟩
  have hthree : ∀ c d rest, Decoded (c :: d :: rest)
      ((b.toNat % 16 * 0x40 + c.toNat % 0x40) * 0x40 + d.toNat % 0x40) 3 :=
    fun _ _ _ => ⟨by omega, by simp, fun _ => by omega⟩
  have hfour : ∀ c d e rest rune, Decoded (c :: d :: e :: rest) rune 4 :=
    fun _ _ _ _ _ => ⟨by omega, by simp, fun h => absurd h (by omega)⟩
  unfold decodeRune
  dsimp only
  split
  · have hb := b.toNat_lt
    exact ⟨le_rfl, Nat.zero_le _, fun _ => by dsimp only; omega⟩
  · rcases rest with _ | ⟨c, _ | ⟨d, _ | ⟨e, rest⟩⟩⟩
    all_goals
      dsimp only
      repeat' split
    all_goals
      first
        | exact hinvalid _
        | exact htwo c _
        | exact hthree c d _
        | exact hfour c d e _ _

theorem length_runeUnits (r : Nat) :
    1 ≤ (runeUnits r).length ∧ (runeUnits r).length ≤ 2 ∧
      (r < 0x10000 → (runeUnits r).length = 1) := by
  unfold runeUnits
  split_ifs with hsingle hpair
  · exact ⟨le_rfl, Nat.le_succ 1, fun _ => rfl⟩
  · exact ⟨Nat.le_succ 1, le_rfl, fun h => absurd hpair.1 (not_le.mpr h)⟩
  · exact ⟨le_rfl, Nat.le_succ 1, fun _ => rfl⟩

/-- The encoding of a surrogate is none of a rune. -/
theorem decodeRune_of_encodedSurrogate {b : UInt8} {rest : GoString} {surrogate : Nat}
    (h : encodedSurrogate b rest = some surrogate) :
    decodeRune b rest = (0xfffd, 1) ∧ 2 ≤ rest.length := by
  unfold encodedSurrogate at h
  split at h
  · rename_i c d tail
    split at h
    · rename_i hbytes
      obtain ⟨rfl, hc, -⟩ := hbytes
      have hhigh : ¬c ≤ 0x9f := by
        rw [UInt8.le_iff_toNat_le] at hc ⊢
        exact fun hle => absurd (hc.trans hle) (by decide)
      refine ⟨?_, by simp⟩
      unfold decodeRune
      cases tail with
      | nil => simp [decodeRune.three, decodeRune.two, hhigh]
      | cons e tail => simp [decodeRune.four, decodeRune.three, decodeRune.two, hhigh]
    · cases h
  · cases h

/-- **The first character** of one byte makes one unit, a longer one less units than bytes. -/
theorem firstUnits_width (b : UInt8) (rest : GoString) :
    (firstUnits b rest).2 = charWidth b rest ∧ charWidth b rest - 1 ≤ rest.length ∧
      (charWidth b rest = 1 ∧ (firstUnits b rest).1.length = 1 ∨
        1 < charWidth b rest ∧ (firstUnits b rest).1.length < charWidth b rest) := by
  have hdecoded := decoded_decodeRune b rest
  unfold firstUnits charWidth
  cases hsurrogate : encodedSurrogate b rest with
  | some surrogate =>
      obtain ⟨hrune, hlength⟩ := decodeRune_of_encodedSurrogate hsurrogate
      rw [hrune]
      exact ⟨rfl, hlength, .inr ⟨(by decide : 1 < 3), (by decide : 1 < 3)⟩⟩
  | none =>
      generalize decodeRune b rest = decoded at hdecoded
      obtain ⟨rune, width⟩ := decoded
      obtain ⟨hpos, hfits, hsmall⟩ := hdecoded
      obtain ⟨-, htwo, hone⟩ := length_runeUnits rune
      dsimp only
      rw [ite_self]
      dsimp only
      refine ⟨rfl, hfits, ?_⟩
      simp only [Option.isSome_none, Bool.false_eq_true, if_false]
      dsimp only at hpos hfits hsmall
      rcases Nat.lt_or_ge width 4 with hlt | hge
      · have hlength := hone (hsmall hlt)
        omega
      · omega

theorem length_utf16From (skip : Nat) (s : GoString) (h : skip ≤ s.length) :
    (utf16From skip s).length + skip ≤ s.length := by
  induction s generalizing skip with
  | nil =>
      rw [utf16From, List.length_nil, Nat.zero_add]
      exact h
  | cons b rest ih =>
      cases skip with
      | succ skip =>
          have hrest := ih skip (Nat.le_of_succ_le_succ h)
          rw [utf16From, List.length_cons]
          omega
      | zero =>
          obtain ⟨hwidth, hfits, hunits⟩ := firstUnits_width b rest
          have hrest := ih _ hfits
          rw [utf16From, List.length_append, List.length_cons, hwidth]
          omega

/-- **As many units as bytes** has a string exactly when its characters are one byte long each. -/
theorem length_utf16_eq_iff (s : GoString) : (utf16 s).length = s.length ↔ OneByte s := by
  unfold utf16
  induction s with
  | nil => exact iff_of_true rfl trivial
  | cons b rest ih =>
      obtain ⟨hwidth, hfits, hunits⟩ := firstUnits_width b rest
      have hrest := length_utf16From _ rest hfits
      rw [utf16From, List.length_append, List.length_cons, hwidth, OneByte]
      rcases hunits with ⟨hone, hlength⟩ | ⟨hmore, hless⟩
      · rw [hone, hlength, Nat.sub_self, ← ih]
        omega
      · apply iff_of_false
        · omega
        · exact fun h => absurd h.1 (Nat.ne_of_gt hmore)

/-! ## Text -/

section Decode

open decodeRune

variable {b c d e : UInt8}

theorem not_ascii (h : 0x80 ≤ b.toNat) : ¬b < 0x80 := by
  rw [UInt8.lt_iff_toNat_lt]
  exact not_lt.mpr h

theorem three_of_lt (h : b.toNat < 0xe0) (c : UInt8) : three b c = false := by
  have hless : ¬0xe0 ≤ b := by
    rw [UInt8.le_iff_toNat_le]
    exact not_le.mpr h
  simp [three, hless]

theorem four_of_lt (h : b.toNat < 0xf0) (c : UInt8) : four b c = false := by
  have hless : ¬0xf0 ≤ b := by
    rw [UInt8.le_iff_toNat_le]
    exact not_le.mpr h
  simp [four, hless]

theorem decodeRune_of_two (h : two b c = true) (rest : GoString) :
    decodeRune b (c :: rest) = (b.toNat % 32 * 0x40 + c.toNat % 0x40, 2) := by
  have hb : 0xc2 ≤ b.toNat ∧ b.toNat ≤ 0xdf := by
    simp only [two, Bool.and_eq_true, decide_eq_true_eq, UInt8.le_iff_toNat_le] at h
    exact h.1
  have hlow := not_ascii (b := b) (by omega)
  have hthree := three_of_lt (b := b) (by omega)
  have hfour := four_of_lt (b := b) (by omega)
  unfold decodeRune
  rcases rest with _ | ⟨d, _ | ⟨e, rest⟩⟩
  all_goals simp [hlow, hthree, hfour, h]

theorem decodeRune_of_three (h : three b c = true) (hd : isContinuation d = true)
    (rest : GoString) : decodeRune b (c :: d :: rest) =
      ((b.toNat % 16 * 0x40 + c.toNat % 0x40) * 0x40 + d.toNat % 0x40, 3) := by
  have hb : 0xe0 ≤ b.toNat ∧ b.toNat ≤ 0xef := by
    simp only [three, Bool.and_eq_true, decide_eq_true_eq, UInt8.le_iff_toNat_le] at h
    exact h.1.1.1
  have hlow := not_ascii (b := b) (by omega)
  have hfour := four_of_lt (b := b) (by omega)
  unfold decodeRune
  rcases rest with _ | ⟨e, rest⟩
  all_goals simp [hlow, hfour, h, hd]

theorem decodeRune_of_four (h : four b c = true) (hd : isContinuation d = true)
    (he : isContinuation e = true) (rest : GoString) : decodeRune b (c :: d :: e :: rest) =
      (((b.toNat % 8 * 0x40 + c.toNat % 0x40) * 0x40 + d.toNat % 0x40) * 0x40 + e.toNat % 0x40,
        4) := by
  have hb : 0xf0 ≤ b.toNat := by
    simp only [four, Bool.and_eq_true, decide_eq_true_eq, UInt8.le_iff_toNat_le] at h
    exact h.1.1.1.1
  have hlow := not_ascii (b := b) (by omega)
  unfold decodeRune
  simp [hlow, h, hd, he]

end Decode

theorem isContinuation_ofNat (n : Nat) : isContinuation (UInt8.ofNat (n % 0x40 + 0x80)) = true := by
  have hbyte : (UInt8.ofNat (n % 0x40 + 0x80)).toNat = n % 0x40 + 0x80 := by
    rw [UInt8.toNat_ofNat', Nat.mod_eq_of_lt (by omega)]
  simp only [isContinuation, Bool.and_eq_true, decide_eq_true_eq, UInt8.le_iff_toNat_le, hbyte]
  exact ⟨Nat.le_add_left _ _, by
    have hlast : (0xbf : UInt8).toNat = 0xbf := rfl
    omega⟩

/-- **The encoding of a character** is decoded to it. -/
theorem decodeRune_utf8EncodeChar (c : Char) (rest : GoString) : ∃ b tail,
    String.utf8EncodeChar c = b :: tail ∧
      decodeRune b (tail ++ rest) = (c.toNat, tail.length + 1) := by
  have hbyte : ∀ n, n < 0x100 → (UInt8.ofNat n).toNat = n := by
    intro n hn
    rw [UInt8.toNat_ofNat', Nat.mod_eq_of_lt hn]
  have hvalid : c.toNat < 0xd800 ∨ 0xdfff < c.toNat ∧ c.toNat < 0x110000 := c.valid
  have htoNat : c.val.toNat = c.toNat := rfl
  have hle : ∀ a b : UInt8, a ≤ b ↔ a.toNat ≤ b.toNat := fun _ _ => UInt8.le_iff_toNat_le
  have hne : ∀ a b : UInt8, a ≠ b ↔ a.toNat ≠ b.toNat := fun _ _ => UInt8.toNat_inj.not.symm
  unfold String.utf8EncodeChar
  dsimp only
  rw [htoNat]
  split_ifs with hone htwo hthree
  · refine ⟨_, _, rfl, ?_⟩
    have hascii : UInt8.ofNat c.toNat < 0x80 := by
      rw [UInt8.lt_iff_toNat_lt, hbyte _ (by omega)]
      exact Nat.lt_succ_of_le hone
    unfold decodeRune
    rw [if_pos hascii, hbyte _ (by omega)]
    rfl
  · refine ⟨_, _, rfl, ?_⟩
    have hb := hbyte (c.toNat / 64 % 0x20 + 0xc0) (by omega)
    have hc := hbyte (c.toNat % 0x40 + 0x80) (by omega)
    have htwo' : decodeRune.two (UInt8.ofNat (c.toNat / 64 % 0x20 + 0xc0))
        (UInt8.ofNat (c.toNat % 0x40 + 0x80)) = true := by
      simp only [decodeRune.two, isContinuation_ofNat, Bool.and_true, Bool.and_eq_true,
        decide_eq_true_eq, hle, hb, UInt8.reduceToNat]
      omega
    rw [List.cons_append, decodeRune_of_two htwo', hb, hc]
    refine Prod.ext ?_ rfl
    dsimp only
    omega
  · refine ⟨_, _, rfl, ?_⟩
    have hb := hbyte (c.toNat / 4096 % 0x10 + 0xe0) (by omega)
    have hc := hbyte (c.toNat / 64 % 0x40 + 0x80) (by omega)
    have hd := hbyte (c.toNat % 0x40 + 0x80) (by omega)
    have hthree' : decodeRune.three (UInt8.ofNat (c.toNat / 4096 % 0x10 + 0xe0))
        (UInt8.ofNat (c.toNat / 64 % 0x40 + 0x80)) = true := by
      simp only [decodeRune.three, isContinuation_ofNat, Bool.and_true, Bool.and_eq_true,
        Bool.or_eq_true, decide_eq_true_eq, hle, hne, hb, hc, UInt8.reduceToNat]
      omega
    rw [List.cons_append, List.cons_append,
      decodeRune_of_three hthree' (isContinuation_ofNat _), hb, hc, hd]
    refine Prod.ext ?_ rfl
    dsimp only
    omega
  · refine ⟨_, _, rfl, ?_⟩
    have hb := hbyte (c.toNat / 262144 % 0x08 + 0xf0) (by omega)
    have hc := hbyte (c.toNat / 4096 % 0x40 + 0x80) (by omega)
    have hd := hbyte (c.toNat / 64 % 0x40 + 0x80) (by omega)
    have he := hbyte (c.toNat % 0x40 + 0x80) (by omega)
    have hfour' : decodeRune.four (UInt8.ofNat (c.toNat / 262144 % 0x08 + 0xf0))
        (UInt8.ofNat (c.toNat / 4096 % 0x40 + 0x80)) = true := by
      simp only [decodeRune.four, isContinuation_ofNat, Bool.and_true, Bool.and_eq_true,
        Bool.or_eq_true, decide_eq_true_eq, hle, hne, hb, hc, UInt8.reduceToNat]
      omega
    rw [List.cons_append, List.cons_append, List.cons_append, decodeRune_of_four hfour'
      (isContinuation_ofNat _) (isContinuation_ofNat _), hb, hc, hd, he]
    refine Prod.ext ?_ rfl
    dsimp only
    omega

/-- No character of a text is encoded like a surrogate. -/
theorem encodedSurrogate_utf8EncodeChar {c : Char} {b : UInt8} {tail : GoString}
    (hc : String.utf8EncodeChar c = b :: tail) (rest : GoString) :
    encodedSurrogate b (tail ++ rest) = none := by
  cases hsurrogate : encodedSurrogate b (tail ++ rest) with
  | none => rfl
  | some surrogate =>
      obtain ⟨hinvalid, -⟩ := decodeRune_of_encodedSurrogate hsurrogate
      obtain ⟨b', tail', hc', hdecode⟩ := decodeRune_utf8EncodeChar c rest
      obtain ⟨rfl, rfl⟩ := List.cons.inj (hc.symm.trans hc')
      rw [hinvalid, Prod.mk.injEq] at hdecode
      -- it would be U+FFFD, encoded in one byte
      have hchar : c = Char.ofNat 0xfffd := by rw [← Char.ofNat_toNat c, ← hdecode.1]
      have hlength := congrArg List.length hc
      rw [hchar, List.length_cons, ← hdecode.2] at hlength
      exact absurd hlength (by decide)

theorem firstUnits_utf8EncodeChar {c : Char} {b : UInt8} {tail : GoString}
    (hc : String.utf8EncodeChar c = b :: tail) (rest : GoString) :
    firstUnits b (tail ++ rest) = (runeUnits c.toNat, tail.length + 1) := by
  obtain ⟨b', tail', hc', hdecode⟩ := decodeRune_utf8EncodeChar c rest
  obtain ⟨rfl, rfl⟩ := List.cons.inj (hc.symm.trans hc')
  unfold firstUnits
  rw [hdecode, encodedSurrogate_utf8EncodeChar hc rest]
  dsimp only
  rw [ite_self]

theorem utf16From_length_append (tail rest : GoString) :
    utf16From tail.length (tail ++ rest) = utf16From 0 rest := by
  induction tail with
  | nil => rfl
  | cons b tail ih =>
      rw [List.cons_append, List.length_cons, utf16From]
      exact ih

/-- **Text** is turned into the units of its characters. -/
theorem utf16_ofString (s : String) :
    utf16 (ofString s) = s.toList.flatMap (fun c => runeUnits c.toNat) := by
  unfold utf16 ofString
  induction s.toList with
  | nil => rfl
  | cons c cs ih =>
      obtain ⟨b, tail, hc, -⟩ := decodeRune_utf8EncodeChar c []
      rw [List.flatMap_cons, List.flatMap_cons, hc, List.cons_append, utf16From,
        firstUnits_utf8EncodeChar hc]
      dsimp only
      rw [Nat.add_sub_cancel, utf16From_length_append, ih]

/-- Text is one byte for each character when it is ASCII. -/
theorem oneByte_ofString_iff (s : String) :
    OneByte (ofString s) ↔ ∀ c ∈ s.toList, c.toNat < 0x80 := by
  unfold ofString
  induction s.toList with
  | nil => exact iff_of_true trivial fun _ h => nomatch h
  | cons c cs ih =>
      obtain ⟨b, tail, hc, hdecode⟩ := decodeRune_utf8EncodeChar c
        (cs.flatMap String.utf8EncodeChar)
      have hwidth : charWidth b (tail ++ cs.flatMap String.utf8EncodeChar) = tail.length + 1 := by
        unfold charWidth
        rw [encodedSurrogate_utf8EncodeChar hc, hdecode]
        rfl
      have hascii : tail = [] ↔ c.toNat < 0x80 := by
        have hlength := congrArg List.length hc
        rw [String.length_utf8EncodeChar, List.length_cons] at hlength
        have hsize : c.utf8Size = 1 ↔ c.toNat ≤ 0x7f := Char.utf8Size_eq_one_iff
        rw [← List.length_eq_zero_iff]
        omega
      rw [List.flatMap_cons, hc, List.cons_append, OneByte, hwidth, List.forall_mem_cons, ← hascii,
        ← ih, Nat.add_eq_right, List.length_eq_zero_iff]
      apply and_congr_right
      rintro rfl
      rfl

end Go
