import LanAgent.Go.GoTexts

/-!
# Broken-off texts

A file whose writing broke off holds the first bytes of what was to be written, and the last of
them may be part of a character only.  No text that `json.MarshalIndent` writes for a struct can be
decoded unless all of its bytes are there (`decode_truncated`).
-/

namespace Go

open Python

/-! ## Bytes of a part of a text -/

/-- What is read of bytes beyond ASCII. -/
def Stray (c : Char) : Prop := c.toNat = 0 ∨ 0x80 ≤ c.toNat

theorem stray_ofNat {n : Nat} (h : 0x80 ≤ n) : Stray (Char.ofNat n) := by
  by_cases hvalid : n.isValidChar
  · have hchar : Char.ofNat n = Char.ofNatAux n hvalid := dif_pos hvalid
    rw [hchar]
    exact .inr h
  · have hchar : Char.ofNat n = '\x00' := dif_neg hvalid
    rw [hchar]
    exact .inl rfl

theorem Stray.ne {c d : Char} (h : Stray c) (hd : 0 < d.toNat ∧ d.toNat < 0x80) : c ≠ d := by
  rintro rfl
  rcases h with h | h <;> omega

theorem le_of_mem_runesFrom {s : GoString} (hs : ∀ b ∈ s, 0x80 ≤ b) (skip : Nat) :
    ∀ r ∈ runesFrom skip s, 0x80 ≤ r := by
  induction s generalizing skip with
  | nil => nofun
  | cons b s ih =>
      have hrest : ∀ c ∈ s, 0x80 ≤ c := fun c hc => hs c (List.mem_cons_of_mem _ hc)
      cases skip with
      | succ skip => exact ih hrest skip
      | zero =>
          have hb : ¬b < 0x80 := UInt8.not_lt.mpr (hs b List.mem_cons_self)
          intro r hr
          rw [runesFrom] at hr
          rcases List.mem_cons.mp hr with rfl | hr
          · exact (decodeRune_wide hb s).rune
          · exact ih hrest _ r hr

/-- A text that is broken off before its end, perhaps within a character. -/
inductive Cut : List Char → List Char → Prop where
  | stop (c : Char) (cs : List Char) {tail : List Char} (htail : ∀ d ∈ tail, Stray d) :
      Cut (c :: cs) tail
  | keep (c : Char) {cs t : List Char} (h : Cut cs t) : Cut (c :: cs) (c :: t)

theorem Cut.of_append {cs ds t : List Char} (h : Cut (cs ++ ds) t) :
    Cut cs t ∨ ∃ u, t = cs ++ u ∧ Cut ds u := by
  induction cs generalizing t with
  | nil => exact .inr ⟨t, rfl, h⟩
  | cons c cs ih =>
      rw [List.cons_append] at h
      cases h with
      | stop _ _ htail => exact .inl (.stop c cs htail)
      | keep _ h =>
          rcases ih h with hcut | ⟨u, rfl, hcut⟩
          · exact .inl (.keep c hcut)
          · exact .inr ⟨u, rfl, hcut⟩

/-- **Part of the bytes** of a text are read as the text broken off. -/
theorem cut_take {s : String} {k : Nat} (hk : k < (ofString s).length) :
    Cut s.toList (toText ((ofString s).take k)).toList := by
  unfold ofString at hk ⊢
  unfold toText runes
  rw [String.toList_ofList]
  generalize s.toList = cs at hk ⊢
  induction cs generalizing k with
  | nil => exact absurd hk (Nat.not_lt_zero k)
  | cons c cs ih =>
      rw [List.flatMap_cons] at hk ⊢
      by_cases hwidth : k < (String.utf8EncodeChar c).length
      · rw [List.take_append_of_le_length (by omega)]
        refine .stop c cs ?_
        intro d hd
        obtain ⟨r, hr, rfl⟩ := List.mem_map.mp hd
        by_cases hk0 : k = 0
        · subst hk0
          cases hr
        · have hwide := le_of_mem_utf8EncodeChar (c := c) (by omega)
          exact stray_ofNat (le_of_mem_runesFrom (fun b hb => hwide b (List.mem_of_mem_take hb)) 0
            r hr)
      · have hrest : k - (String.utf8EncodeChar c).length <
            (cs.flatMap String.utf8EncodeChar).length := by
          rw [List.length_append] at hk
          omega
        rw [List.take_append, List.take_of_length_le (by omega), runesFrom_utf8EncodeChar,
          List.map_cons, Char.ofNat_toNat]
        exact .keep c (ih hrest)

/-! ## Strings -/

theorem scanUnits_stray {tail : List Char} (h : ∀ c ∈ tail, Stray c) :
    scanUnits tail = .error .value := by
  induction tail with
  | nil => rfl
  | cons c tail ih =>
      have hc := h c List.mem_cons_self
      have hrest := ih fun d hd => h d (List.mem_cons_of_mem _ hd)
      by_cases hcontrol : c.toNat < 0x20
      · rw [scanUnits, if_pos hcontrol]
        · exact hc.ne (by decide)
        · exact fun _ _ _ _ _ heq _ => hc.ne (by decide) heq
        · exact fun _ _ heq _ => hc.ne (by decide) heq
      · rw [scanUnits_plain (hc.ne (by decide)) (hc.ne (by decide)) hcontrol, hrest]
        rfl

theorem hexDigit_stray {c : Char} (h : Stray c) : Python.hexDigit c = none := by
  have hrange : ∀ lo hi : Char, 0 < lo.toNat → hi.toNat < 0x80 → ¬(lo ≤ c ∧ c ≤ hi) := by
    rintro lo hi hlo hhi ⟨hle, hle'⟩
    have hle : lo.toNat ≤ c.toNat := hle
    have hle' : c.toNat ≤ hi.toNat := hle'
    rcases h with h | h <;> omega
  unfold Python.hexDigit
  rw [if_neg (hrange _ _ (by decide) (by decide)), if_neg (hrange _ _ (by decide) (by decide)),
    if_neg (hrange _ _ (by decide) (by decide))]

theorem escape_stray {c : Char} (h : Stray c) : escape c = none := by
  have hne : ∀ d : Char, 0 < d.toNat ∧ d.toNat < 0x80 → c ≠ d := fun d => h.ne
  unfold escape
  split
  all_goals first
    | rfl
    | exact absurd rfl (hne _ (by decide))

theorem scanUnits_backslash_stray {tail : List Char} (h : ∀ c ∈ tail, Stray c) :
    scanUnits ('\\' :: tail) = .error .value := by
  cases tail with
  | nil => rfl
  | cons c tail =>
      have hc := h c List.mem_cons_self
      rw [scanUnits, escape_stray hc]
      exact fun _ _ _ _ _ heq _ => hc.ne (by decide) heq

theorem codeUnit_stray {w x y z : Char} (h : Stray w ∨ Stray x ∨ Stray y ∨ Stray z) :
    codeUnit w x y z = none := by
  rcases h with h | h | h | h
  all_goals simp [codeUnit, hexDigit_stray h]

/-- An escape that lacks digits. -/
theorem scanUnits_cut_digits {w x y z : Char} {t : List Char} (h : Cut [w, x, y, z] t) :
    scanUnits ('\\' :: 'u' :: t) = .error .value := by
  match t with
  | [] => rfl
  | [_] => rfl
  | [_, _] => rfl
  | [_, _, _] => rfl
  | a :: b :: c :: d :: rest =>
      have hstray : Stray a ∨ Stray b ∨ Stray c ∨ Stray d := by
        cases h with
        | stop _ _ htail => exact .inl (htail a (by simp))
        | keep _ h =>
            cases h with
            | stop _ _ htail => exact .inr (.inl (htail b (by simp)))
            | keep _ h =>
                cases h with
                | stop _ _ htail => exact .inr (.inr (.inl (htail c (by simp))))
                | keep _ h =>
                    cases h with
                    | stop _ _ htail => exact .inr (.inr (.inr (htail d (by simp))))
                    | keep _ h => cases h
      rw [scanUnits, codeUnit_stray hstray]

theorem scanUnits_cut_quoteChar {c : Char} {t : List Char} (h : Cut (quoteChar c) t) :
    scanUnits t = .error .value := by
  have hpair : ∀ (e : Char) (t : List Char), Cut ['\\', e] t → scanUnits t = .error .value := by
    intro e t h
    cases h with
    | stop _ _ htail => exact scanUnits_stray htail
    | keep _ h =>
        cases h with
        | stop _ _ htail => exact scanUnits_backslash_stray htail
        | keep _ h => cases h
  have hunicode : ∀ (w x y z : Char) (t : List Char), Cut ['\\', 'u', w, x, y, z] t →
      scanUnits t = .error .value := by
    intro w x y z t h
    cases h with
    | stop _ _ htail => exact scanUnits_stray htail
    | keep _ h =>
        cases h with
        | stop _ _ htail => exact scanUnits_backslash_stray htail
        | keep _ h => exact scanUnits_cut_digits h
  unfold quoteChar at h
  split_ifs at h
  · exact hpair _ _ h
  · exact hpair _ _ h
  · exact hpair _ _ h
  · exact hpair _ _ h
  · exact hunicode _ _ _ _ _ h
  · exact hunicode _ _ _ _ _ h
  · cases h with
    | stop _ _ htail => exact scanUnits_stray htail
    | keep _ h => cases h

/-- **A string that is broken off** is not read. -/
theorem decodeText_cut (s : String) {t : List Char}
    (h : Cut (s.toList.flatMap quoteChar ++ ['"']) t) : decodeText t = none := by
  have hscan : ∀ cs t : List Char, Cut (cs.flatMap quoteChar ++ ['"']) t →
      scanUnits t = .error .value := by
    intro cs
    induction cs with
    | nil =>
        intro t h
        cases h with
        | stop _ _ htail => exact scanUnits_stray htail
        | keep _ h => cases h
    | cons c cs ih =>
        intro t h
        rw [List.flatMap_cons, List.append_assoc] at h
        rcases h.of_append with hcut | ⟨u, rfl, hcut⟩
        · exact scanUnits_cut_quoteChar hcut
        · rw [scanUnits_quoteChar, ih u hcut]
          rfl
  rw [decodeText, scanString, hscan _ _ h]
  rfl

/-! ## Values -/

/-- What a number is made of, and the bytes it may be broken off in. -/
def Numeric (c : Char) : Prop := c.isDigit = true ∨ c = '-' ∨ Stray c

theorem Numeric.ne {c d : Char} (h : Numeric c) (hd : d.isDigit = false ∧ d ≠ '-')
    (hrange : 0 < d.toNat ∧ d.toNat < 0x80) : c ≠ d := by
  rintro rfl
  rcases h with h | h | h
  · exact absurd h (by simp [hd.1])
  · exact hd.2 h
  · exact h.ne hrange rfl

/-- Reading fails, or it stops where no value may end. -/
def Fails (read : Option (JsonValue × List Char)) : Prop :=
  ∀ value rest, read = some (value, rest) → ∀ c ∈ rest, Numeric c

theorem mem_of_scanInteger {cs digits rest : List Char} {negative : Bool}
    (h : scanInteger cs = some (negative, digits, rest)) : ∀ c ∈ rest, c ∈ cs := by
  have hrun : ∀ cs, ∀ c ∈ (digitRun cs).2, c ∈ cs := by
    intro cs c hc
    rw [digitRun, List.span_eq_takeWhile_dropWhile] at hc
    exact (List.dropWhile_suffix _).mem hc
  unfold scanInteger at h
  split at h
  rename_i unsigned hsign
  have hsuffix : ∀ c ∈ unsigned, c ∈ cs := by
    split at hsign
    · cases hsign
      exact fun c hc => List.mem_cons_of_mem _ hc
    · cases hsign
      exact fun c hc => hc
  split at h
  · cases h
    exact fun c hc => hsuffix c (List.mem_cons_of_mem _ hc)
  · split at h
    · cases h
    · rename_i ds after hdigits
      cases h
      intro c hc
      refine hsuffix c (hrun unsigned c ?_)
      rw [hdigits]
      exact hc

theorem decodeNumber_numeric {cs : List Char} (h : ∀ c ∈ cs, Numeric c) :
    Fails (decodeNumber cs) := by
  intro value rest hread
  unfold decodeNumber at hread
  split at hread
  · cases hread
  · rename_i negative digits rest' hinteger
    have hnumeric : ∀ c ∈ rest', Numeric c := fun c hc => h c (mem_of_scanInteger hinteger c hc)
    have hfraction : scanFraction rest' = ([], rest') :=
      scanFraction_ends fun c hc =>
        (hnumeric c (List.mem_of_mem_head? hc)).ne (by decide) (by decide)
    have hexponent : scanExponent rest' = (none, rest') := by
      cases rest' with
      | nil => rfl
      | cons c rest' =>
          have hc := hnumeric c List.mem_cons_self
          exact if_neg (not_or.mpr ⟨hc.ne (by decide) (by decide), hc.ne (by decide) (by decide)⟩)
    rw [hfraction, hexponent] at hread
    obtain ⟨-, rfl⟩ := Prod.mk.inj (Option.some.inj hread)
    exact hnumeric

theorem Stray.numeric {c : Char} (h : Stray c) : Numeric c := .inr (.inr h)

theorem skipSpace_numeric {cs : List Char} (h : ∀ c ∈ cs, Numeric c) : skipSpace cs = cs := by
  cases cs with
  | nil => rfl
  | cons c cs =>
      have hc := h c List.mem_cons_self
      refine skipSpace_of_ne ?_ cs
      have hne : ∀ d : Char, d.isDigit = false ∧ d ≠ '-' → 0 < d.toNat ∧ d.toNat < 0x80 → c ≠ d :=
        fun d hd hrange => hc.ne hd hrange
      simp [isSpace, hne]

theorem decodeValue_eq_decodeNumber {cs : List Char} (h : ∀ c ∈ cs, Numeric c)
    (nested : Option (List Char → Option (JsonValue × List Char))) :
    decodeValue nested cs = decodeNumber cs := by
  cases cs with
  | nil => rfl
  | cons c cs =>
      have hc := h c List.mem_cons_self
      have hne : ∀ d : Char, d.isDigit = false ∧ d ≠ '-' → 0 < d.toNat ∧ d.toNat < 0x80 → c ≠ d :=
        fun d hd hrange => hc.ne hd hrange
      rw [decodeValue_atom ⟨hne '"' (by decide) (by decide), hne '{' (by decide) (by decide),
        hne '[' (by decide) (by decide)⟩]
      unfold decodeAtom
      split
      · rename_i heq
        exact absurd (List.cons.inj heq).1 (hne 'n' (by decide) (by decide))
      · rename_i heq
        exact absurd (List.cons.inj heq).1 (hne 't' (by decide) (by decide))
      · rename_i heq
        exact absurd (List.cons.inj heq).1 (hne 'f' (by decide) (by decide))
      · rfl

theorem decodeValue_numeric {cs : List Char} (h : ∀ c ∈ cs, Numeric c)
    (nested : Option (List Char → Option (JsonValue × List Char))) :
    Fails (decodeValue nested cs) := by
  rw [decodeValue_eq_decodeNumber h]
  exact decodeNumber_numeric h

theorem decodeValue_stray {t : List Char} (h : ∀ c ∈ t, Stray c)
    (nested : Option (List Char → Option (JsonValue × List Char))) :
    decodeValue nested t = none := by
  rw [decodeValue_eq_decodeNumber fun c hc => (h c hc).numeric]
  cases t with
  | nil => rfl
  | cons c t =>
      have hc := h c List.mem_cons_self
      have hdigit : c.isDigit = false := by
        rw [← Bool.not_eq_true]
        intro hdigit
        have hrange : 0x30 ≤ c.toNat ∧ c.toNat ≤ 0x39 := by
          simpa [Char.isDigit, UInt32.le_iff_toNat_le] using hdigit
        rcases hc with hc | hc <;> omega
      have hinteger : scanInteger (c :: t) = none := by
        have hrun : digitRun (c :: t) = ([], c :: t) := by
          rw [digitRun, List.span_eq_takeWhile_dropWhile,
            List.takeWhile_cons_of_neg (by simp [hdigit]),
            List.dropWhile_cons_of_neg (by simp [hdigit])]
        have hminus : c ≠ '-' := hc.ne (by decide)
        have hzero : c ≠ '0' := hc.ne (by decide)
        simp [scanInteger, hrun, hminus, hzero]
      rw [decodeNumber, hinteger]

theorem numeric_write (n : Int) : ∀ c ∈ (JsonScalar.int n).write, Numeric c := by
  intro c hc
  rw [JsonScalar.write, toList_toString] at hc
  split at hc
  · rcases List.mem_cons.mp hc with rfl | hc
    · exact .inr (.inl rfl)
    · exact .inl (isDigit_toDigits c hc)
  · exact .inl (isDigit_toDigits c hc)

theorem Cut.mem {cs t : List Char} (h : Cut cs t) : ∀ c ∈ t, c ∈ cs ∨ Stray c := by
  induction h with
  | stop c cs htail => exact fun d hd => .inr (htail d hd)
  | keep c h ih =>
      intro d hd
      rcases List.mem_cons.mp hd with rfl | hd
      · exact .inl List.mem_cons_self
      · exact (ih d hd).imp_left (List.mem_cons_of_mem _)

/-- A value that is broken off is not read; behind one that is not, the rest is broken off. -/
theorem decodeValue_cut (nested : Option (List Char → Option (JsonValue × List Char)))
    (value : JsonScalar) {more t : List Char} (hmore : EndsValue more)
    (h : Cut (value.write ++ more) t) :
    Fails (decodeValue nested t) ∨
      ∃ u, Cut more u ∧ decodeValue nested t = some (value.decoded, u) := by
  cases value with
  | text s =>
      have hshape : JsonScalar.write (.text s) ++ more =
          '"' :: ((s.toList.flatMap quoteChar ++ ['"']) ++ more) := rfl
      rw [hshape] at h
      cases h with
      | stop _ _ htail => exact .inl (decodeValue_numeric (fun c hc => (htail c hc).numeric) nested)
      | keep _ h =>
          rcases h.of_append with hcut | ⟨u, rfl, hcut⟩
          · refine .inl ?_
            rw [decodeValue, decodeText_cut s hcut]
            intro read rest hread
            exact absurd hread (Option.some_ne_none _).symm
          · refine .inr ⟨u, hcut, ?_⟩
            rw [decodeValue, List.append_assoc, List.singleton_append, decodeText_quote]
            rfl
  | int n =>
      rcases h.of_append with hcut | ⟨u, rfl, hcut⟩
      · refine .inl (decodeValue_numeric (fun c hc => ?_) nested)
        exact (hcut.mem c hc).elim (numeric_write n c) Stray.numeric
      · cases hcut with
        | stop c cs htail =>
            refine .inl (decodeValue_numeric (fun c hc => ?_) nested)
            exact (List.mem_append.mp hc).elim (numeric_write n c) fun hc => (htail c hc).numeric
        | keep c hcut =>
            refine .inr ⟨_, .keep c hcut, decodeValue_write (.int n) nested ?_⟩
            rintro d ⟨⟩
            exact hmore _ rfl

/-! ## Structs -/

theorem skipSpace_cut {c : Char} (hc : isSpace c = true) {cs t : List Char} (h : Cut (c :: cs) t) :
    (∀ d ∈ t, Stray d) ∨ ∃ u, Cut cs u ∧ skipSpace t = skipSpace u := by
  cases h with
  | stop _ _ htail => exact .inl htail
  | keep _ h => exact .inr ⟨_, h, List.dropWhile_cons_of_pos hc⟩

theorem skipSpace_stray {t : List Char} (h : ∀ c ∈ t, Stray c) : skipSpace t = t :=
  skipSpace_numeric fun c hc => (h c hc).numeric

/-- The line break and the blanks in front of a member are skipped as far as they are there. -/
theorem skipSpace_member_cut {member : String × JsonScalar} {more t : List Char}
    (h : Cut (writeIndented member ++ more) t) :
    (∀ c ∈ skipSpace t, Stray c) ∨ ∃ u, skipSpace t = '"' :: u ∧
      Cut ((member.1.toList.flatMap quoteChar ++ ['"']) ++
        ':' :: ' ' :: (member.2.write ++ more)) u := by
  have hshape : writeIndented member ++ more = '\n' :: ' ' :: ' ' :: '"' ::
      ((member.1.toList.flatMap quoteChar ++ ['"']) ++
        ':' :: ' ' :: (member.2.write ++ more)) := by
    simp [writeIndented, quote]
  have hstop : ∀ {t : List Char}, (∀ c ∈ t, Stray c) → ∀ c ∈ skipSpace t, Stray c := by
    intro t htail
    rwa [skipSpace_stray htail]
  rw [hshape] at h
  rcases skipSpace_cut rfl h with htail | ⟨t₁, h₁, hskip₁⟩
  · exact .inl (hstop htail)
  rcases skipSpace_cut rfl h₁ with htail | ⟨t₂, h₂, hskip₂⟩
  · exact .inl (hskip₁ ▸ hstop htail)
  rcases skipSpace_cut rfl h₂ with htail | ⟨t₃, h₃, hskip₃⟩
  · exact .inl (hskip₁ ▸ hskip₂ ▸ hstop htail)
  rw [hskip₁, hskip₂, hskip₃]
  cases h₃ with
  | stop _ _ htail => exact .inl (hstop htail)
  | keep _ hcut => exact .inr ⟨_, skipSpace_of_ne (by decide) _, hcut⟩

/-- Behind a value that is not all there comes no other member, and no end. -/
theorem skipSpace_more_cut {members : List (String × JsonScalar)} {t : List Char}
    (h : (∀ c ∈ t, Numeric c) ∨ Cut (writeMoreIndented members) t) :
    (∀ rest, skipSpace t ≠ '}' :: rest) ∧ ∀ rest, skipSpace t = ',' :: rest →
      ∃ next more, members = next :: more ∧
        Cut (writeIndented next ++ writeMoreIndented more) rest := by
  have hnumeric : ∀ t : List Char, (∀ c ∈ t, Numeric c) →
      ∀ d rest, d.isDigit = false ∧ d ≠ '-' → 0 < d.toNat ∧ d.toNat < 0x80 →
        skipSpace t ≠ d :: rest := by
    intro t ht d rest hd hrange heq
    rw [skipSpace_numeric ht] at heq
    exact (ht d (heq ▸ List.mem_cons_self)).ne hd hrange rfl
  have hstray : ∀ t : List Char, (∀ c ∈ t, Stray c) → ∀ c ∈ t, Numeric c :=
    fun t ht c hc => (ht c hc).numeric
  rcases h with h | h
  · refine ⟨fun rest => hnumeric t h _ _ (by decide) (by decide), fun rest heq => ?_⟩
    exact absurd heq (hnumeric t h _ _ (by decide) (by decide))
  · cases members with
    | nil =>
        have hnone : ∀ c rest, c.isDigit = false ∧ c ≠ '-' → 0 < c.toNat ∧ c.toNat < 0x80 →
            skipSpace t ≠ c :: rest := by
          intro c rest hc hrange
          rcases skipSpace_cut rfl h with htail | ⟨u, hcut, hskip⟩
          · exact hnumeric t (hstray t htail) c rest hc hrange
          · cases hcut with
            | stop _ _ htail =>
                rw [hskip]
                exact hnumeric u (hstray u htail) c rest hc hrange
            | keep _ hcut => cases hcut
        refine ⟨fun rest => hnone _ _ (by decide) (by decide), fun rest heq => ?_⟩
        exact absurd heq (hnone _ _ (by decide) (by decide))
    | cons next more =>
        cases h with
        | stop _ _ htail =>
            refine ⟨fun rest => hnumeric t (hstray t htail) _ _ (by decide) (by decide), ?_⟩
            exact fun rest heq =>
              absurd heq (hnumeric t (hstray t htail) _ _ (by decide) (by decide))
        | keep _ hcut =>
            rw [skipSpace_of_ne (by decide)]
            refine ⟨fun rest heq => absurd (List.cons.inj heq).1 (by decide), fun rest heq => ?_⟩
            obtain ⟨-, rfl⟩ := List.cons.inj heq
            exact ⟨next, more, rfl, hcut⟩

theorem skipSpace_value_cut {value : JsonScalar} {more t : List Char}
    (h : Cut (value.write ++ more) t) : skipSpace t = t := by
  rcases h.of_append with hcut | ⟨u, rfl, -⟩
  · cases value with
    | text s =>
        cases hcut with
        | stop _ _ htail => exact skipSpace_stray htail
        | keep _ _ => exact skipSpace_of_ne (by decide) _
    | int n =>
        refine skipSpace_numeric fun c hc => ?_
        exact (hcut.mem c hc).elim (numeric_write n c) Stray.numeric
  · exact skipSpace_write value u

/-- What is left behind a value of a member that was read. -/
theorem decoded_cut {nested : Option (List Char → Option (JsonValue × List Char))}
    {value : JsonScalar} {members : List (String × JsonScalar)} {t rest : List Char}
    {decoded : JsonValue} (h : Cut (' ' :: (value.write ++ writeMoreIndented members)) t)
    (hread : decodeValue nested (skipSpace t) = some (decoded, rest)) :
    (∀ c ∈ rest, Numeric c) ∨ Cut (writeMoreIndented members) rest := by
  rcases skipSpace_cut rfl h with htail | ⟨u, hcut, hskip⟩
  · have hnumeric : ∀ c ∈ t, Numeric c := fun c hc => (htail c hc).numeric
    rw [skipSpace_numeric hnumeric] at hread
    exact .inl (decodeValue_numeric hnumeric nested _ _ hread)
  · rw [hskip, skipSpace_value_cut hcut] at hread
    rcases decodeValue_cut nested value (endsValue_writeMoreIndented members) hcut with
      hfails | ⟨v, hcut, hvalue⟩
    · exact .inl (hfails _ _ hread)
    · rw [hvalue] at hread
      obtain ⟨-, rfl⟩ := Prod.mk.inj (Option.some.inj hread)
      exact .inr hcut

/-- **The members of a text that is broken off** are not read. -/
theorem decodeMembers_cut (nested : Option (List Char → Option (JsonValue × List Char)))
    (member : String × JsonScalar) (members : List (String × JsonScalar)) {t : List Char}
    (h : Cut (writeIndented member ++ writeMoreIndented members) t) (fuel : Nat)
    (done : List (String × JsonValue)) :
    decodeMembers (decodeValue nested) fuel done (skipSpace t) = none := by
  induction fuel generalizing member members t done with
  | zero => rfl
  | succ fuel ih =>
      rcases skipSpace_member_cut h with hstray | ⟨t, hskip, h⟩
      · unfold decodeMembers
        split
        · rename_i hquote
          exact absurd rfl ((hstray '"' (hquote ▸ List.mem_cons_self)).ne (by decide))
        · rfl
      · rw [hskip, decodeMembers]
        rcases h.of_append with hcut | ⟨u, rfl, hcut⟩
        · rw [decodeText_cut _ hcut]
        · rw [List.append_assoc, List.singleton_append, decodeText_quote]
          dsimp only
          split
          · rename_i rest hcolon
            cases hcut with
            | stop _ _ htail =>
                rw [skipSpace_stray htail] at hcolon
                exact absurd rfl ((htail ':' (hcolon ▸ List.mem_cons_self)).ne (by decide))
            | keep _ hcut =>
                rw [skipSpace_of_ne (by decide)] at hcolon
                obtain ⟨-, rfl⟩ := List.cons.inj hcolon
                split
                · rfl
                · rename_i value rest hread
                  obtain ⟨hclose, hcomma⟩ := skipSpace_more_cut (decoded_cut hcut hread)
                  split
                  · rename_i heq
                    exact absurd heq (hclose _)
                  · rename_i more heq
                    obtain ⟨next, after, rfl, hnext⟩ := hcomma _ heq
                    exact ih next after hnext _
                  · rfl
          · rfl

/-- **No text that was broken off** while it was written is decoded. -/
theorem decode_truncated (member : String × JsonScalar) (members : List (String × JsonScalar))
    {k : Nat} (hk : k < (ofString (marshalIndent (member :: members))).length) :
    decode (toText ((ofString (marshalIndent (member :: members))).take k)) = none := by
  have hcut := cut_take hk
  generalize toText ((ofString (marshalIndent (member :: members))).take k) = text at hcut ⊢
  rw [marshalIndent_cons, String.toList_ofList] at hcut
  have honce : ∀ cs, decodeOnce maxNestingDepth cs =
      decodeValue (some (decodeOnce (maxNestingDepth - 1))) cs := fun _ => rfl
  rw [decode, honce]
  generalize text.toList = t at hcut ⊢
  cases hcut with
  | stop _ _ htail => rw [skipSpace_stray htail, decodeValue_stray htail]
  | keep _ hcut =>
      have hmembers := decodeMembers_cut (some (decodeOnce (maxNestingDepth - 2))) member members
        hcut
      rename_i u
      have hobject : decodeObject (decodeOnce (maxNestingDepth - 1)) u = none := by
        unfold decodeObject
        split
        · rename_i hclose
          rcases skipSpace_member_cut hcut with hstray | ⟨v, hskip, -⟩
          · exact absurd rfl ((hstray '}' (hclose ▸ List.mem_cons_self)).ne (by decide))
          · rw [hskip] at hclose
            exact absurd (List.cons.inj hclose).1 (by decide)
        · exact hmembers _ _
      rw [skipSpace_of_ne (by decide), decodeValue, hobject]

end Go
