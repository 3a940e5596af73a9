import LanAgent.Go.GoTexts
import LanAgent.Go.Url

/-!
# The path of a URL

What a server is asked for is the path of the URL, with its escapes undone.  A client that appends
a text to a host as it is asks for that text exactly when the text is plain (`urlPath_eq_iff`).
-/

namespace Go

/-- The path in what stands behind the scheme and before the query. -/
def pathOf (scheme path : GoString) : GoString :=
  let slash := '/'.toUInt8
  -- an opaque URL has no path
  if path.head? ≠ some slash ∧ scheme ≠ [] then []
  else if (scheme ≠ [] ∨ ¬[slash, slash, slash] <+: path) ∧ [slash, slash] <+: path then
    (path.drop 2).dropWhile (fun b => b ≠ slash)
  else path

/-- `URL.Path`, which a server gets from the escaped path of the request. -/
def urlPath (rawURL : GoString) : Option GoString :=
  match parse rawURL, getScheme (cut rawURL '#'.toUInt8).1 with
  | some _, some (scheme, rest) => unescape .other (pathOf scheme (cut rest '?'.toUInt8).1)
  | _, _ => none

/-! ## Escapes -/

theorem unescape_plain {s : GoString} (h : '%'.toUInt8 ∉ s) : unescape .other s = some s := by
  induction s with
  | nil => rfl
  | cons b s ih =>
      rw [List.mem_cons, not_or] at h
      rw [unescape_of_ne (Ne.symm h.1), ih h.2]
      rfl

/-- An escape has three bytes and stands for one. -/
theorem unescape_length {mode : Encoding} {s t : GoString} (h : unescape mode s = some t) :
    t.length ≤ s.length ∧ (t.length = s.length → '%'.toUInt8 ∉ s) := by
  fun_induction unescape mode s generalizing t with
  | case1 =>
      cases h
      exact ⟨le_refl _, fun _ => List.not_mem_nil⟩
  -- an escape that is undone
  | case2 high low rest =>
      rename_i ih
      obtain ⟨u, hu, rfl⟩ := Option.map_eq_some_iff.mp h
      have hlength := (ih hu).1
      simp only [List.length_cons]
      exact ⟨by omega, fun hsame => by omega⟩
  | case3 => cases h
  | case4 => cases h
  | case5 => cases h
  | case6 => cases h
  -- any other byte
  | case7 b rest hb hplain ih =>
      obtain ⟨u, hu, rfl⟩ := Option.map_eq_some_iff.mp h
      have hrest := ih hu
      simp only [List.length_cons]
      refine ⟨by omega, fun hsame hmem => ?_⟩
      rcases List.mem_cons.mp hmem with rfl | hmem
      · exact hb rfl
      · exact hrest.2 (by omega) hmem

/-! ## A text behind a host -/

/-- A byte that a path is asked for as it is. -/
def isPathByte (b : UInt8) : Bool :=
  !(b < 0x20 || b = 0x7f) && b ≠ '%'.toUInt8 && b ≠ '?'.toUInt8 && b ≠ '#'.toUInt8

/-- A character that a path is asked for as it is. -/
def isPathChar (c : Char) : Bool :=
  !(c.toNat < 0x20 || c = '\x7f') && c ≠ '%' && c ≠ '?' && c ≠ '#'

theorem toUInt8_eq_iff {c d : Char} (hc : c.toNat < 0x80) (hd : d.toNat < 0x80) :
    c.toUInt8 = d.toUInt8 ↔ c = d := by
  have hbyte : ∀ c : Char, c.toNat < 0x80 → c.toUInt8.toNat = c.toNat := by
    intro c hc
    show c.toNat % 2 ^ 8 = c.toNat
    omega
  constructor
  · intro h
    have hnat := congrArg UInt8.toNat h
    rw [hbyte c hc, hbyte d hd] at hnat
    exact Char.toNat_inj.mp hnat
  · rintro rfl
    rfl

theorem isPathByte_utf8EncodeChar (c : Char) :
    (∀ b ∈ String.utf8EncodeChar c, isPathByte b = true) ↔ isPathChar c = true := by
  by_cases hascii : c.toNat < 0x80
  · have hone : String.utf8EncodeChar c = [c.toUInt8] := by
      have hle : c.val.toNat ≤ 0x7f := Nat.lt_succ_iff.mp hascii
      unfold String.utf8EncodeChar
      exact if_pos hle
    have hcontrol : c.toUInt8 < 0x20 ↔ c.toNat < 0x20 := by
      rw [UInt8.lt_iff_toNat_lt]
      show c.toNat % 2 ^ 8 < 0x20 ↔ _
      omega
    have hsame : isPathByte c.toUInt8 = isPathChar c := by
      have hdel : (0x7f : UInt8) = '\x7f'.toUInt8 := rfl
      rw [isPathByte, isPathChar, hdel]
      simp only [hcontrol, ne_eq, toUInt8_eq_iff hascii (d := '\x7f') (by decide),
        toUInt8_eq_iff hascii (d := '%') (by decide), toUInt8_eq_iff hascii (d := '?') (by decide),
        toUInt8_eq_iff hascii (d := '#') (by decide)]
    rw [hone, List.forall_mem_singleton, hsame]
  · -- all bytes of the character are beyond ASCII
    have hwide : 1 < (String.utf8EncodeChar c).length := by
      have hle : ¬c.val.toNat ≤ 0x7f := fun hle => hascii (Nat.lt_succ_of_le hle)
      unfold String.utf8EncodeChar
      dsimp only
      rw [if_neg hle]
      split
      · simp
      · split <;> simp
    have hbyte : ∀ b : UInt8, 0x80 ≤ b → isPathByte b = true := by
      intro b hb
      have hle : 0x80 ≤ b.toNat := UInt8.le_iff_toNat_le.mp hb
      have hne : ∀ d : UInt8, d.toNat < 0x80 → b ≠ d := by
        rintro d hd rfl
        omega
      have hcontrol : ¬b < 0x20 := by
        rw [UInt8.lt_iff_toNat_lt]
        show ¬b.toNat < 0x20
        omega
      simp [isPathByte, hcontrol, hne 0x7f (by decide), hne '%'.toUInt8 (by decide),
        hne '?'.toUInt8 (by decide), hne '#'.toUInt8 (by decide)]
    have hchar : isPathChar c = true := by
      have hne : ∀ d : Char, d.toNat < 0x80 → c ≠ d := by
        rintro d hd rfl
        exact hascii hd
      have hcontrol : ¬c.toNat < 0x20 := by omega
      simp [isPathChar, hcontrol, hne '\x7f' (by decide), hne '%' (by decide), hne '?' (by decide),
        hne '#' (by decide)]
    exact iff_of_true (fun b hb => hbyte b (le_of_mem_utf8EncodeChar hwide b hb)) hchar

theorem isPathByte_ofString {s : String} :
    (∀ b ∈ ofString s, isPathByte b = true) ↔ ∀ c ∈ s.toList, isPathChar c = true := by
  simp only [ofString, List.mem_flatMap]
  constructor
  · intro h c hc
    exact (isPathByte_utf8EncodeChar c).mp fun b hb => h b ⟨c, hc, hb⟩
  · rintro h b ⟨c, hc, hb⟩
    exact (isPathByte_utf8EncodeChar c).mpr (h c hc) b hb

theorem cut_length (s : GoString) (sep : UInt8) :
    (cut s sep).1.length ≤ s.length ∧ ((cut s sep).1.length = s.length →
      (cut s sep).1 = s ∧ sep ∉ s) := by
  have hbegin : (cut s sep).1 <+: s := List.takeWhile_prefix _
  refine ⟨hbegin.length_le, fun hlength => ?_⟩
  have hsame : (cut s sep).1 = s := hbegin.eq_of_length hlength
  refine ⟨hsame, fun hmem => ?_⟩
  have hne := List.mem_takeWhile_imp (hsame.symm ▸ hmem : sep ∈ (cut s sep).1)
  exact of_decide_eq_true hne rfl

theorem cut_of_not_mem {s : GoString} {sep : UInt8} (h : sep ∉ s) : cut s sep = (s, []) := by
  have hcut := cut_append h []
  rw [List.append_nil] at hcut
  rw [hcut]
  exact congrArg (fun before => (before, [])) (List.append_nil s)

section Text

variable {host : GoString} (haddress : ∀ b ∈ host, isAddressByte b = true)
  (hport : ∀ before port, cutLast host ':'.toUInt8 = some (before, port) →
    port.all isDigit = true)

include haddress hport

theorem urlPath_http {tail : GoString} (htail : IsTail tail) :
    urlPath (ofString "http://" ++ (host ++ tail)) =
      if tailParses tail = true then
        unescape .other (cut (cut tail '#'.toUInt8).1 '?'.toUInt8).1
      else none := by
  have hhash : '#'.toUInt8 ∉ ofString "http://" ++ host := fun hmem =>
    (List.mem_append.mp hmem).elim (by decide) (not_mem_address haddress (by decide))
  have hquestion : '?'.toUInt8 ∉ ofString "//" ++ host := fun hmem =>
    (List.mem_append.mp hmem).elim (by decide) (not_mem_address haddress (by decide))
  have hslash : '/'.toUInt8 ∉ host := not_mem_address haddress (by decide)
  have hu : IsTail (cut tail '#'.toUInt8).1 := htail.cut (by decide)
  have hpath : IsTail (cut (cut tail '#'.toUInt8).1 '?'.toUInt8).1 := hu.cut (by decide)
  have hcut : (cut (ofString "http://" ++ (host ++ tail)) '#'.toUInt8).1 =
      ofString "http://" ++ (host ++ (cut tail '#'.toUInt8).1) := by
    rw [← List.append_assoc, cut_append hhash, List.append_assoc]
  have hscheme : getScheme (ofString "http://" ++ (host ++ (cut tail '#'.toUInt8).1)) =
      some (ofString "http", ofString "//" ++ (host ++ (cut tail '#'.toUInt8).1)) := rfl
  have hquery : (cut (ofString "//" ++ (host ++ (cut tail '#'.toUInt8).1)) '?'.toUInt8).1 =
      ofString "//" ++ (host ++ (cut (cut tail '#'.toUInt8).1 '?'.toUInt8).1) := by
    rw [← List.append_assoc, cut_append hquestion, List.append_assoc]
  rw [urlPath, parse_http haddress hport htail, hcut, hscheme]
  by_cases hparses : tailParses tail = true
  · rw [if_pos hparses, if_pos hparses]
    dsimp only
    rw [hquery]
    generalize (cut (cut tail '#'.toUInt8).1 '?'.toUInt8).1 = path at hpath
    have hrest : (host ++ path).dropWhile (fun b => b ≠ '/'.toUInt8) = path := by
      rw [List.dropWhile_append_of_pos, hpath.cut_slash.2]
      intro b hb
      exact decide_eq_true fun heq => hslash (heq ▸ hb)
    have hprefix : ['/'.toUInt8, '/'.toUInt8] <+: ofString "//" ++ (host ++ path) :=
      List.prefix_append _ _
    have hpathOf : pathOf (ofString "http") (ofString "//" ++ (host ++ path)) = path := by
      unfold pathOf
      dsimp only
      rw [if_neg fun h => h.1 rfl, if_pos ⟨.inl (by decide), hprefix⟩]
      exact hrest
    rw [hpathOf]
  · rw [if_neg hparses, if_neg hparses]

/-- **The text is asked for as it is** exactly when it is plain. -/
theorem urlPath_eq_iff {tail : GoString} (htail : IsTail tail) :
    urlPath (ofString "http://" ++ (host ++ tail)) = some tail ↔
      ∀ b ∈ tail, isPathByte b = true := by
  rw [urlPath_http haddress hport htail]
  constructor
  · intro h
    split at h
    · rename_i hparses
      have hlength := unescape_length h
      have hquery := cut_length (cut tail '#'.toUInt8).1 '?'.toUInt8
      have hfragment := cut_length tail '#'.toUInt8
      obtain ⟨htext, hhash⟩ := hfragment.2 (by omega)
      rw [htext] at hlength hquery
      obtain ⟨htext', hquestion⟩ := hquery.2 (by omega)
      rw [htext'] at hlength
      have hpercent := hlength.2 rfl
      have hctl : containsCTL tail = false := by
        unfold tailParses at hparses
        simp only [Bool.and_eq_true, htext] at hparses
        simpa using hparses.1.1
      intro b hb
      have hcontrol := Bool.eq_false_iff.mpr (List.any_eq_false.mp hctl b hb)
      simp only [isPathByte, hcontrol, Bool.and_eq_true, decide_eq_true_eq]
      exact ⟨⟨⟨rfl, fun heq => hpercent (heq ▸ hb)⟩, fun heq => hquestion (heq ▸ hb)⟩,
        fun heq => hhash (heq ▸ hb)⟩
    · cases h
  · intro hplain
    have hnot : ∀ {sep : UInt8}, isPathByte sep = false → sep ∉ tail := by
      intro sep hsep hmem
      rw [hplain sep hmem] at hsep
      cases hsep
    have hpercent : '%'.toUInt8 ∉ tail := hnot (by decide)
    have hctl : containsCTL tail = false := by
      apply List.any_eq_false.mpr
      intro b hb
      have hbyte := hplain b hb
      simp only [isPathByte, Bool.and_eq_true] at hbyte
      exact Bool.eq_false_iff.mp ((Bool.not_eq_true' _).mp hbyte.1.1.1)
    have hparses : tailParses tail = true := by
      rw [tailParses, cut_of_not_mem (hnot (by decide))]
      dsimp only
      rw [hctl, cut_of_not_mem (hnot (by decide)), unescape_plain hpercent]
      rfl
    rw [if_pos hparses, cut_of_not_mem (hnot (by decide)), cut_of_not_mem (hnot (by decide)),
      unescape_plain hpercent]

end Text

end Go
