import LanAgent.Go.Unmarshal
import LanAgent.Python.Dumps

/-!
# What Go decodes of `json.dumps`

Python's encoder writes ASCII: the two surrogates of a character beyond U+FFFF are escapes of their
own, which the decoder joins again.  `goValue` is the value that Go gets, and `decode_dumps` that it
gets this one and no other.
-/

namespace Go

open Python

/-! ## Texts -/

theorem highSurrogate_lt (c : Char) : (c.toNat - 0x10000) / 0x400 < 0x800 := by
  have hvalid : c.toNat < 0xD800 ∨ (0xDFFF < c.toNat ∧ c.toNat < 0x110000) := c.valid
  omega

theorem lowSurrogate_lt (c : Char) : 0x400 + (c.toNat - 0x10000) % 0x400 < 0x800 := by
  omega

/-- The code points that the escapes of a code point stand for. -/
def escapedUnits : CodePoint → Str
  | .scalar c =>
      if c.toNat < 0x10000 then [.scalar c]
      else [.surrogate ⟨(c.toNat - 0x10000) / 0x400, highSurrogate_lt c⟩,
        .surrogate ⟨0x400 + (c.toNat - 0x10000) % 0x400, lowSurrogate_lt c⟩]
  | .surrogate n => [.surrogate n]

theorem codeUnit_hexUnit {n : Nat} (h : n < 0x10000) :
    codeUnit (Nat.digitChar (n / 0x1000 % 16)) (Nat.digitChar (n / 0x100 % 16))
        (Nat.digitChar (n / 0x10 % 16)) (Nat.digitChar (n % 16)) =
      some (if h : 0xD800 ≤ n ∧ n < 0xE000 then .surrogate ⟨n - 0xD800, by omega⟩
        else .scalar (Char.ofNat n)) := by
  have hvalue :
      ((n / 0x1000 % 16 * 16 + n / 0x100 % 16) * 16 + n / 0x10 % 16) * 16 + n % 16 = n := by
    omega
  simp only [codeUnit, hexDigit_digitChar _ (Nat.mod_lt _ (by decide : 0 < 16)),
    Option.bind_eq_bind, Option.bind_some, hvalue]
  split <;> rfl

theorem scanUnits_hexUnit {n : Nat} (h : n < 0x10000) (rest : List Char) :
    scanUnits (hexUnit n ++ rest) = (scanUnits rest).map (fun (s, rest) =>
      ((if h : 0xD800 ≤ n ∧ n < 0xE000 then .surrogate ⟨n - 0xD800, by omega⟩
        else .scalar (Char.ofNat n)) :: s, rest)) := by
  simp only [hexUnit, List.cons_append, List.nil_append]
  rw [scanUnits, codeUnit_hexUnit h]

theorem scanUnits_surrogate (n : Fin 0x800) (rest : List Char) :
    scanUnits (hexUnit (0xD800 + n.val) ++ rest) =
      (scanUnits rest).map (fun (s, rest) => (.surrogate n :: s, rest)) := by
  rw [scanUnits_hexUnit (by omega)]
  simp only [show 0xD800 ≤ 0xD800 + n.val ∧ 0xD800 + n.val < 0xE000 by omega, and_self, dite_true,
    Nat.add_sub_cancel_left]

theorem scanUnits_asciiCodePoint (u : CodePoint) (rest : List Char) :
    scanUnits (asciiCodePoint u ++ rest) =
      (scanUnits rest).map (fun (s, rest) => (escapedUnits u ++ s, rest)) := by
  cases u with
  | surrogate n => exact scanUnits_surrogate n rest
  | scalar c =>
      have hvalid : c.toNat < 0xD800 ∨ (0xDFFF < c.toNat ∧ c.toNat < 0x110000) := c.valid
      by_cases hbmp : c.toNat < 0x10000
      · have hunits : escapedUnits (.scalar c) = [.scalar c] := if_pos hbmp
        rw [hunits]
        show scanUnits (asciiChar c ++ rest) = _
        unfold asciiChar
        split_ifs with hquote hn hr ht hf hb hplain
        · rcases hquote with rfl | rfl
          · exact scanUnits_escape (by decide) rfl rest
          · exact scanUnits_escape (by decide) rfl rest
        · subst hn
          exact scanUnits_escape (by decide) rfl rest
        · subst hr
          exact scanUnits_escape (by decide) rfl rest
        · subst ht
          exact scanUnits_escape (by decide) rfl rest
        · subst hf
          exact scanUnits_escape (by decide) rfl rest
        · subst hb
          exact scanUnits_escape (by decide) rfl rest
        · rw [not_or] at hquote
          exact scanUnits_plain hquote.1 hquote.2 (by omega) rest
        · rw [scanUnits_hexUnit hbmp, dif_neg (by omega), Char.ofNat_toNat]
          rfl
      · have hascii : asciiCodePoint (.scalar c) =
            hexUnit (0xD800 + (c.toNat - 0x10000) / 0x400) ++
              hexUnit (0xDC00 + (c.toNat - 0x10000) % 0x400) := by
          have hsmall : ∀ d : Char, d.toNat < 0x10000 → c ≠ d := by
            rintro d hd rfl
            exact hbmp hd
          unfold asciiCodePoint asciiChar
          simp [hsmall, hbmp]
          omega
        have hlow := scanUnits_surrogate ⟨0x400 + (c.toNat - 0x10000) % 0x400, by omega⟩ rest
        have hhigh := scanUnits_surrogate ⟨(c.toNat - 0x10000) / 0x400, by omega⟩
          (hexUnit (0xDC00 + (c.toNat - 0x10000) % 0x400) ++ rest)
        rw [← Nat.add_assoc] at hlow
        rw [hascii, List.append_assoc, hhigh, hlow, escapedUnits, if_neg hbmp]
        cases scanUnits rest <;> rfl

theorem scanUnits_dumpsText (s : Str) (rest : List Char) :
    scanUnits (s.flatMap asciiCodePoint ++ '"' :: rest) = .ok (s.flatMap escapedUnits, rest) := by
  induction s with
  | nil => rfl
  | cons u s ih =>
      rw [List.flatMap_cons, List.append_assoc, scanUnits_asciiCodePoint, ih]
      rfl

/-- A pair of escapes is joined again to its character. -/
theorem joinSurrogates_escapedUnits (s : Str) :
    joinSurrogates (s.flatMap escapedUnits) = joinSurrogates s := by
  induction s using joinSurrogates.induct with
  | case1 high low rest hpair ih =>
      simp only [List.flatMap_cons, escapedUnits, List.cons_append, List.nil_append] at ih ⊢
      rw [joinSurrogates, joinSurrogates, if_pos hpair, if_pos hpair, ih]
  | case2 high low rest hpair ih =>
      simp only [List.flatMap_cons, escapedUnits, List.cons_append, List.nil_append] at ih ⊢
      rw [joinSurrogates, joinSurrogates, if_neg hpair, if_neg hpair, ih]
  | case3 c rest hother ih =>
      have hjoin : joinSurrogates (c :: rest) = c :: joinSurrogates rest := by
        rw [joinSurrogates]
        exact hother
      rw [List.flatMap_cons, hjoin]
      cases c with
      | surrogate high =>
          -- the next unit, if it is a surrogate, is the high one of a pair
          have hnext : ∀ low units, rest.flatMap escapedUnits = .surrogate low :: units →
              ¬(high.val < 0x400 ∧ 0x400 ≤ low.val) := by
            intro low units hunits
            cases rest with
            | nil => cases hunits
            | cons d rest =>
                cases d with
                | surrogate d => exact absurd rfl (hother high d rest rfl)
                | scalar d =>
                    have hvalid : d.toNat < 0xD800 ∨ (0xDFFF < d.toNat ∧ d.toNat < 0x110000) :=
                      d.valid
                    rw [List.flatMap_cons, escapedUnits] at hunits
                    split at hunits
                    · cases hunits
                    · cases hunits
                      intro hpair
                      have hle := hpair.2
                      have hlt : (d.toNat - 0x10000) / 0x400 < 0x400 := by omega
                      exact absurd hle (Nat.not_le.mpr hlt)
          show joinSurrogates (.surrogate high :: rest.flatMap escapedUnits) = _
          rw [← ih]
          cases hunits : rest.flatMap escapedUnits with
          | nil => rfl
          | cons d units =>
              cases d with
              | scalar d => rfl
              | surrogate low => rw [joinSurrogates, if_neg (hnext low units hunits)]
      | scalar c =>
          have hvalid : c.toNat < 0xD800 ∨ (0xDFFF < c.toNat ∧ c.toNat < 0x110000) := c.valid
          rw [← ih, escapedUnits]
          split
          · rfl
          · rename_i hbmp
            rw [List.cons_append, List.cons_append, List.nil_append, joinSurrogates]
            have hpair : (c.toNat - 0x10000) / 0x400 < 0x400 ∧
                0x400 ≤ 0x400 + (c.toNat - 0x10000) % 0x400 := by omega
            rw [if_pos hpair]
            have hvalue : 0x10000 + (c.toNat - 0x10000) / 0x400 * 0x400 +
                (0x400 + (c.toNat - 0x10000) % 0x400 - 0x400) = c.toNat := by omega
            simp only [hvalue, Char.ofNat_toNat]
  | case4 => rfl

/-- What Go reads of a Python text. -/
def goText (s : Str) : String := String.ofList ((joinSurrogates s).map replaceSurrogate)

theorem goText_ofString (s : String) : goText (Str.ofString s) = s := by
  rw [goText, Str.ofString, joinSurrogates_scalar, List.map_map]
  show String.ofList (s.toList.map id) = s
  rw [List.map_id, String.ofList_toList]

theorem decodeText_dumpsText (s : Str) (rest : List Char) :
    decodeText (s.flatMap asciiCodePoint ++ '"' :: rest) = some (goText s, rest) := by
  rw [decodeText, scanString, scanUnits_dumpsText]
  show some (String.ofList ((joinSurrogates (s.flatMap escapedUnits)).map replaceSurrogate),
    rest) = _
  rw [joinSurrogates_escapedUnits]
  rfl

/-! ## Numbers -/

theorem digitRun_digits {digits rest : List Char} (hdigits : ∀ c ∈ digits, c.isDigit = true)
    (hrest : ∀ c ∈ rest.head?, c.isDigit = false) : digitRun (digits ++ rest) = (digits, rest) := by
  have hempty : rest.takeWhile Char.isDigit = [] ∧ rest.dropWhile Char.isDigit = rest := by
    cases rest with
    | nil => exact ⟨rfl, rfl⟩
    | cons c cs =>
        have hc := hrest c rfl
        exact ⟨List.takeWhile_cons_of_neg (by simp [hc]), List.dropWhile_cons_of_neg (by simp [hc])⟩
  rw [digitRun, List.span_eq_takeWhile_dropWhile, List.takeWhile_append_of_pos hdigits,
    List.dropWhile_append_of_pos hdigits, hempty.1, hempty.2, List.append_nil]

/-- A whole number as a literal has it. -/
def IsWhole (digits : List Char) : Prop :=
  (∀ c ∈ digits, c.isDigit = true) ∧
    (digits = ['0'] ∨ (digits ≠ [] ∧ digits.head? ≠ some '0'))

theorem isWhole_toDigits (n : Nat) : IsWhole (Nat.toDigits 10 n) := by
  refine ⟨isDigit_toDigits, ?_⟩
  by_cases hn : n = 0
  · subst hn
    exact .inl rfl
  · exact .inr ⟨Nat.toDigits_ne_nil, head?_toDigits (Nat.pos_of_ne_zero hn)⟩

/-- What `decodeAtom` and `decodeValue` tell a number by. -/
theorem IsWhole.head {digits : List Char} (h : IsWhole digits) :
    ∃ c cs, digits = c :: cs ∧ c.isDigit = true := by
  cases digits with
  | nil =>
      rcases h.2 with h | h
      · cases h
      · exact absurd rfl h.1
  | cons c cs => exact ⟨c, cs, rfl, h.1 c List.mem_cons_self⟩

theorem scanInteger_whole {digits rest : List Char} (h : IsWhole digits)
    (hrest : ∀ c ∈ rest.head?, c.isDigit = false) (negative : Bool) :
    scanInteger ((if negative then ['-'] else []) ++ digits ++ rest) =
      some (negative, digits, rest) := by
  have hrun := digitRun_digits h.1 hrest
  obtain ⟨c, cs, rfl, hc⟩ := h.head
  have hminus : c ≠ '-' := by
    rintro rfl
    exact absurd hc (by decide)
  rcases h.2 with hzero | ⟨_, hnonzero⟩
  · cases hzero
    cases negative <;> rfl
  · have hc0 : c ≠ '0' := fun h => hnonzero (by rw [h]; rfl)
    cases negative <;> simp_all [scanInteger]

/-- What a number begins with. -/
theorem IsWhole.signed_head {digits : List Char} (h : IsWhole digits) (negative : Bool)
    (rest : List Char) : ∃ c cs, (if negative then ['-'] else []) ++ digits ++ rest = c :: cs ∧
      (c.isDigit = true ∨ c = '-') := by
  obtain ⟨c, cs, rfl, hc⟩ := h.head
  cases negative
  · exact ⟨c, _, rfl, .inl hc⟩
  · exact ⟨'-', _, rfl, .inr rfl⟩

/-- What stands behind a value inside a container, or at the end of the text. -/
def EndsValue (rest : List Char) : Prop :=
  ∀ c ∈ rest.head?, c = ',' ∨ c = ']' ∨ c = '}' ∨ c = '\n'

theorem EndsValue.not_digit {rest : List Char} (h : EndsValue rest) :
    ∀ c ∈ rest.head?, c.isDigit = false := by
  intro c hc
  rcases h c hc with rfl | rfl | rfl | rfl <;> rfl

theorem scanFraction_ends {rest : List Char} (h : ∀ c ∈ rest.head?, c ≠ '.') :
    scanFraction rest = ([], rest) := by
  cases rest with
  | nil => rfl
  | cons c cs =>
      rw [scanFraction]
      rintro _ heq
      cases heq
      exact h _ rfl rfl

theorem scanExponent_ends {rest : List Char} (h : EndsValue rest) :
    scanExponent rest = (none, rest) := by
  cases rest with
  | nil => rfl
  | cons c cs => rcases h c rfl with rfl | rfl | rfl | rfl <;> rfl

theorem decodeNumber_toString (n : Int) {rest : List Char} (h : EndsValue rest) :
    decodeNumber ((toString n).toList ++ rest) = some (.int n, rest) := by
  have hsign : (toString n).toList = (if decide (n < 0) then ['-'] else []) ++
      Nat.toDigits 10 n.natAbs := by
    rw [toList_toString]
    by_cases hn : n < 0 <;> simp [hn]
  have hpoint : ∀ c ∈ rest.head?, c ≠ '.' := by
    intro c hc
    rcases h c hc with rfl | rfl | rfl | rfl <;> decide
  have hvalue : (if n < 0 then -(n.natAbs : Int) else n.natAbs) = n := by omega
  rw [decodeNumber, hsign, scanInteger_whole (isWhole_toDigits _) h.not_digit]
  dsimp only
  rw [scanFraction_ends hpoint, scanExponent_ends h]
  dsimp only
  rw [digitsValue_toDigits]
  simp only [decide_eq_true_eq]
  rw [hvalue]

theorem scanExponent_literal {exponent rest : List Char} (hrest : EndsValue rest)
    (h : exponent = [] ∨ ∃ sign ds, exponent = 'e' :: sign :: ds ∧ (sign = '-' ∨ sign = '+') ∧
      ds ≠ [] ∧ ∀ c ∈ ds, c.isDigit = true) :
    scanExponent (exponent ++ rest) =
      (if exponent = [] then none else some (exponentValue exponent), rest) := by
  rcases h with rfl | ⟨sign, ds, rfl, hsign, hne, hds⟩
  · exact scanExponent_ends hrest
  · have hrun := digitRun_digits hds hrest.not_digit
    cases ds with
    | nil => exact absurd rfl hne
    | cons d ds =>
        rw [List.cons_append] at hrun
        rcases hsign with rfl | rfl
        · simp [scanExponent, hrun, exponentValue]
        · simp [scanExponent, hrun, exponentValue]

theorem decodeNumber_literal (literal : FloatLiteral) {rest : List Char} (h : EndsValue rest) :
    decodeNumber (literal.text ++ rest) =
      some (.real literal.negative literal.digits literal.scale, rest) := by
  obtain ⟨negative, whole, fraction, exponent, hdigits, hhead, hfraction, hexponent, hnot⟩ :=
    literal
  have hexp : ∀ c ∈ (exponent ++ rest).head?, c.isDigit = false ∧ c ≠ '.' := by
    intro c hc
    rcases hexponent with rfl | ⟨sign, ds, rfl, _⟩
    · rcases h c hc with rfl | rfl | rfl | rfl <;> decide
    · cases hc
      decide
  have hfrac : ∀ c ∈ (fraction ++ (exponent ++ rest)).head?, c.isDigit = false := by
    intro c hc
    rcases hfraction with rfl | ⟨ds, rfl, _⟩
    · exact (hexp c hc).1
    · cases hc
      decide
  have hscan : scanFraction (fraction ++ (exponent ++ rest)) =
      (fraction.tail, exponent ++ rest) := by
    rcases hfraction with rfl | ⟨ds, rfl, hne, hds⟩
    · exact scanFraction_ends fun c hc => (hexp c hc).2
    · have hrun := digitRun_digits hds fun c hc => (hexp c hc).1
      rw [List.cons_append, scanFraction, hrun]
      cases ds with
      | nil => exact absurd rfl hne
      | cons d ds => rfl
  have hscale := scanExponent_literal h hexponent
  have htext : FloatLiteral.text ⟨negative, whole, fraction, exponent, hdigits, hhead, hfraction,
      hexponent, hnot⟩ ++ rest = (if negative then ['-'] else []) ++ whole ++
        (fraction ++ (exponent ++ rest)) := by
    simp only [FloatLiteral.text, List.append_assoc]
  rw [htext, decodeNumber, scanInteger_whole ⟨hdigits, hhead⟩ hfrac]
  dsimp only
  rw [hscan]
  dsimp only
  rw [hscale]
  -- either there is a digit behind the point, or an exponent was read
  cases exponent with
  | nil =>
      have hpoint : fraction ≠ [] := hnot.resolve_right fun hne => hne rfl
      rcases hfraction with rfl | ⟨ds, rfl, hds, _⟩
      · exact absurd rfl hpoint
      · cases ds with
        | nil => exact absurd rfl hds
        | cons d ds => rfl
  | cons letter exponent =>
      cases hdigits' : fraction.tail <;> simp [FloatLiteral.digits, FloatLiteral.scale, hdigits']

/-! ## Values -/

section Values

variable (shortest : Python.Float → FloatLiteral)

/-- A value that is no container. -/
def goScalar : Json → Option JsonValue
  | .null => some .null
  | .bool b => some (.bool b)
  | .int n => some (.int n)
  | .float x =>
      if x.isFinite then
        some (.real (shortest x).negative (shortest x).digits (shortest x).scale)
      else none
  | .str s => some (.text (goText s))
  | _ => none

/-- What Go decodes of a member. -/
def goMember (go : Json → Option JsonValue) (member : Str × Json) : Option (String × JsonValue) :=
  (go member.2).map fun value => (goText member.1, value)

/-- What Go decodes of a Python value, with so many containers to be opened; `none` where a float
is no number or the containers are nested too deep. -/
def goValue : Nat → Json → Option JsonValue
  | depth + 1, .arr items => (items.mapM (goValue depth)).map .array
  | depth + 1, .obj members =>
      (members.mapM (goMember (goValue depth))).map .object
  | _, value => goScalar shortest value

end Values

/-- A value does not begin with a blank, nor with a bracket that closes. -/
theorem dumpsValue_head (shortest : Python.Float → FloatLiteral) (value : Json) :
    ∃ c cs, dumpsValue shortest value = c :: cs ∧ isSpace c = false ∧ c ≠ ']' := by
  have hnumber : ∀ c : Char, c.isDigit = true ∨ c = '-' → isSpace c = false ∧ c ≠ ']' := by
    intro c hc
    simp only [isSpace, Bool.or_eq_false_iff, decide_eq_false_iff_not]
    refine ⟨⟨⟨⟨?_, ?_⟩, ?_⟩, ?_⟩, ?_⟩ <;> (rintro rfl; revert hc; decide)
  cases value with
  | null => exact ⟨'n', _, rfl, by decide⟩
  | bool b => cases b <;> exact ⟨_, _, rfl, by decide⟩
  | str s => exact ⟨'"', _, rfl, by decide⟩
  | arr items => exact ⟨'[', _, rfl, by decide⟩
  | obj members => exact ⟨'{', _, rfl, by decide⟩
  | int n =>
      obtain ⟨c, cs, hcs, hc⟩ := (isWhole_toDigits n.natAbs).signed_head (decide (n < 0)) []
      refine ⟨c, cs, ?_, hnumber c hc⟩
      rw [dumpsValue, toList_toString, ← hcs]
      by_cases hn : n < 0 <;> simp [hn]
  | float x =>
      rw [dumpsValue]
      unfold dumpsFloat
      split
      · obtain ⟨c, cs, hcs, hc⟩ := IsWhole.signed_head
          ⟨(shortest x).whole_digits, (shortest x).whole_head⟩ (shortest x).negative
          ((shortest x).fraction ++ (shortest x).exponent)
        refine ⟨c, cs, ?_, hnumber c hc⟩
        rw [FloatLiteral.text, List.append_assoc, hcs]
      · cases x with
        | nan => exact ⟨'N', _, rfl, by decide⟩
        | infinity negative => cases negative <;> exact ⟨_, _, rfl, by decide⟩
        | decimal negative => cases negative <;> exact ⟨_, _, rfl, by decide⟩

/-- A text that begins like a number is decoded as one. -/
theorem decodeAtom_number {c : Char} {cs : List Char} (hc : c.isDigit = true ∨ c = '-') :
    decodeAtom (c :: cs) = decodeNumber (c :: cs) := by
  have hother : ∀ d rest, (d.isDigit || d = '-') = false → c :: cs = d :: rest → False := by
    intro d rest hd heq
    obtain ⟨rfl, _⟩ := List.cons.inj heq
    rcases hc with hc | hc <;> simp [hc] at hd
  rw [decodeAtom]
  · exact fun _ => hother _ _ rfl
  · exact fun _ => hother _ _ rfl
  · exact fun _ => hother _ _ rfl

theorem decodeValue_atom {c : Char} {cs : List Char} (hc : c ≠ '"' ∧ c ≠ '{' ∧ c ≠ '[')
    (nested : Option (List Char → Option (JsonValue × List Char))) :
    decodeValue nested (c :: cs) = decodeAtom (c :: cs) := by
  unfold decodeValue
  split
  · rename_i heq
    exact absurd (List.cons.inj heq).1 hc.1
  · rename_i heq
    exact absurd (List.cons.inj heq).1 hc.2.1
  · rename_i heq
    exact absurd (List.cons.inj heq).1 hc.2.2
  · rfl

theorem decodeValue_number {c : Char} {cs : List Char} (hc : c.isDigit = true ∨ c = '-')
    (nested : Option (List Char → Option (JsonValue × List Char))) :
    decodeValue nested (c :: cs) = decodeNumber (c :: cs) := by
  have hne : c ≠ '"' ∧ c ≠ '{' ∧ c ≠ '[' := by
    refine ⟨?_, ?_, ?_⟩ <;> (rintro rfl; revert hc; decide)
  rw [decodeValue_atom hne, decodeAtom_number hc]

/-- The constants of Python's encoder are no values. -/
theorem decodeValue_constant {x : Python.Float} (h : x.isFinite = false)
    (shortest : Python.Float → FloatLiteral) (rest : List Char)
    (nested : Option (List Char → Option (JsonValue × List Char))) :
    decodeValue nested (dumpsFloat shortest x ++ rest) = none := by
  unfold dumpsFloat
  rw [if_neg (by simp [h])]
  cases x with
  | nan => exact decodeValue_atom (by decide) nested
  | infinity negative =>
      cases negative
      · exact decodeValue_atom (by decide) nested
      · exact decodeValue_atom (by decide) nested
  | decimal negative digits exponent =>
      cases negative
      · exact decodeValue_atom (by decide) nested
      · exact decodeValue_atom (by decide) nested

/-- **A value that is no container** is decoded, whatever container it stands in. -/
theorem decodeValue_scalar {value : Json} (hscalar : ∀ items, value ≠ .arr items)
    (hscalar' : ∀ members, value ≠ .obj members) (shortest : Python.Float → FloatLiteral)
    (nested : Option (List Char → Option (JsonValue × List Char))) {rest : List Char}
    (hrest : EndsValue rest) :
    decodeValue nested (dumpsValue shortest value ++ rest) =
      (goScalar shortest value).map fun decoded => (decoded, rest) := by
  cases value with
  | null => exact decodeValue_atom (by decide) nested
  | bool b => cases b <;> exact decodeValue_atom (by decide) nested
  | arr items => exact absurd rfl (hscalar items)
  | obj members => exact absurd rfl (hscalar' members)
  | str s =>
      rw [dumpsValue, dumpsText, List.cons_append, List.append_assoc, List.singleton_append,
        decodeValue, decodeText_dumpsText]
      rfl
  | int n =>
      have hnumber := decodeNumber_toString n hrest
      obtain ⟨c, cs, hcs, hc⟩ := (isWhole_toDigits n.natAbs).signed_head (decide (n < 0)) rest
      have htext : (toString n).toList ++ rest = c :: cs := by
        rw [← hcs, toList_toString]
        by_cases hn : n < 0 <;> simp [hn]
      rw [dumpsValue]
      rw [htext] at hnumber ⊢
      rw [decodeValue_number hc, hnumber]
      rfl
  | float x =>
      rw [dumpsValue, goScalar]
      by_cases hfinite : x.isFinite = true
      · have hnumber := decodeNumber_literal (shortest x) hrest
        obtain ⟨c, cs, hcs, hc⟩ := IsWhole.signed_head
          ⟨(shortest x).whole_digits, (shortest x).whole_head⟩ (shortest x).negative
          ((shortest x).fraction ++ (shortest x).exponent ++ rest)
        have htext : (shortest x).text ++ rest = c :: cs := by
          rw [← hcs, FloatLiteral.text]
          simp only [List.append_assoc]
        unfold dumpsFloat
        rw [if_pos hfinite, if_pos hfinite]
        rw [htext] at hnumber ⊢
        rw [decodeValue_number hc, hnumber]
        rfl
      · rw [if_neg hfinite, decodeValue_constant (by simpa using hfinite)]
        rfl

section Containers

variable {shortest : Python.Float → FloatLiteral}
  {decode : List Char → Option (JsonValue × List Char)} {go : Json → Option JsonValue}

theorem skipSpace_dumpsValue (value : Json) (rest : List Char) :
    skipSpace (dumpsValue shortest value ++ rest) = dumpsValue shortest value ++ rest := by
  obtain ⟨c, cs, hcs, hspace, _⟩ := dumpsValue_head shortest value
  rw [hcs, List.cons_append, skipSpace_of_ne hspace]

theorem skipSpace_blank (cs : List Char) : skipSpace (' ' :: cs) = skipSpace cs := rfl

theorem endsValue_dumpsMoreItems (items : List Json) (rest : List Char) :
    EndsValue (dumpsMoreItems shortest items ++ rest) := by
  cases items with
  | nil =>
      rintro c ⟨⟩
      exact .inr (.inl rfl)
  | cons value items =>
      rintro c ⟨⟩
      exact .inl rfl

/-- **The items** are decoded one after the other, up to the first that is no value. -/
theorem decodeItems_dumps {value : Json} {items : List Json}
    (hdecode : ∀ v ∈ value :: items, ∀ rest, EndsValue rest →
      decode (dumpsValue shortest v ++ rest) = (go v).map fun decoded => (decoded, rest))
    {fuel : Nat} (hfuel : items.length < fuel) (decoded : List JsonValue) (rest : List Char) :
    decodeItems decode fuel decoded
        (dumpsValue shortest value ++ (dumpsMoreItems shortest items ++ rest)) =
      ((value :: items).mapM go).map fun values => (.array (decoded ++ values), rest) := by
  induction items generalizing value fuel decoded with
  | nil =>
      obtain ⟨fuel, rfl⟩ : ∃ k, fuel = k + 1 := ⟨fuel - 1, by omega⟩
      rw [decodeItems, hdecode value List.mem_cons_self _ (endsValue_dumpsMoreItems _ _)]
      cases hvalue : go value with
      | none => simp [hvalue]
      | some x =>
          simp only [List.mapM_cons, hvalue, List.mapM_nil]
          rfl
  | cons next items ih =>
      obtain ⟨fuel, rfl⟩ : ∃ k, fuel = k + 1 := ⟨fuel - 1, by omega⟩
      have htail : items.length < fuel := by
        rw [List.length_cons] at hfuel
        omega
      have hrest := ih (fun v hv => hdecode v (List.mem_cons_of_mem _ hv)) htail
      rw [decodeItems, hdecode value List.mem_cons_self _ (endsValue_dumpsMoreItems _ _)]
      cases hvalue : go value with
      | none => simp [hvalue]
      | some x =>
          have hnext : skipSpace (dumpsMoreItems shortest (next :: items) ++ rest) =
              ',' :: ' ' ::
                (dumpsValue shortest next ++ (dumpsMoreItems shortest items ++ rest)) := by
            rw [dumpsMoreItems, List.cons_append, List.cons_append, List.append_assoc]
            exact skipSpace_of_ne (by decide) _
          simp only [Option.map_some, hnext]
          rw [skipSpace_blank, skipSpace_dumpsValue, hrest]
          generalize htail : (next :: items).mapM go = tail
          rw [List.mapM_cons, hvalue, htail]
          cases tail <;> simp

theorem length_le_dumpsMoreItems (shortest : Python.Float → FloatLiteral) (items : List Json) :
    items.length < (dumpsMoreItems shortest items).length := by
  induction items with
  | nil => exact Nat.zero_lt_one
  | cons value items ih =>
      simp only [dumpsMoreItems, List.length_cons, List.length_append]
      omega

theorem decodeArray_dumps {items : List Json}
    (hdecode : ∀ v ∈ items, ∀ rest, EndsValue rest →
      decode (dumpsValue shortest v ++ rest) = (go v).map fun decoded => (decoded, rest))
    (rest : List Char) : decodeArray decode (dumpsItems shortest items ++ rest) =
      (items.mapM go).map fun values => (.array values, rest) := by
  cases items with
  | nil => rfl
  | cons value items =>
      obtain ⟨c, cs, hcs, hspace, hclose⟩ := dumpsValue_head shortest value
      have hfuel : items.length <
          (dumpsValue shortest value ++ (dumpsMoreItems shortest items ++ rest)).length + 1 := by
        have hlength := length_le_dumpsMoreItems shortest items
        rw [List.length_append, List.length_append]
        omega
      have hitems := decodeItems_dumps hdecode hfuel [] rest
      rw [dumpsItems, List.append_assoc, decodeArray, skipSpace_dumpsValue]
      rw [hcs, List.cons_append] at hitems ⊢
      split
      · rename_i heq
        exact absurd (List.cons.inj heq).1 hclose
      · exact hitems

/-! The same of the members of an object. -/

theorem endsValue_dumpsMoreMembers (members : List (Str × Json)) (rest : List Char) :
    EndsValue (dumpsMoreMembers shortest members ++ rest) := by
  cases members with
  | nil =>
      rintro c ⟨⟩
      exact .inr (.inr (.inl rfl))
  | cons member members =>
      rintro c ⟨⟩
      exact .inl rfl

theorem skipSpace_dumpsMember (member : Str × Json) (rest : List Char) :
    skipSpace (dumpsMember shortest member ++ rest) = dumpsMember shortest member ++ rest := by
  obtain ⟨key, value⟩ := member
  rw [dumpsMember, dumpsText, List.cons_append, List.cons_append]
  exact skipSpace_of_ne (by decide) _

/-- One round of the loop over the members. -/
theorem decodeMembers_member {member : Str × Json} {rest : List Char}
    (hdecode : decode (dumpsValue shortest member.2 ++ rest) =
      (go member.2).map fun decoded => (decoded, rest))
    (fuel : Nat) (decoded : List (String × JsonValue)) :
    decodeMembers decode (fuel + 1) decoded (dumpsMember shortest member ++ rest) =
      match goMember go member with
      | none => none
      | some m =>
          match skipSpace rest with
          | '}' :: rest => some (.object (decoded ++ [m]), rest)
          | ',' :: rest => decodeMembers decode fuel (decoded ++ [m]) (skipSpace rest)
          | _ => none := by
  obtain ⟨key, value⟩ := member
  have htext := decodeText_dumpsText key (':' :: ' ' :: (dumpsValue shortest value ++ rest))
  have hshape : dumpsMember shortest (key, value) ++ rest = '"' :: (key.flatMap asciiCodePoint ++
      '"' :: ':' :: ' ' :: (dumpsValue shortest value ++ rest)) := by
    simp [dumpsMember, dumpsText]
  rw [hshape, decodeMembers, htext]
  dsimp only
  rw [skipSpace_of_ne (by decide)]
  split
  · rename_i heq
    cases heq
    rw [skipSpace_blank, skipSpace_dumpsValue, hdecode, goMember]
    cases go value <;> rfl
  · rename_i hcolon
    exact absurd rfl (hcolon _)

theorem decodeMembers_dumps {member : Str × Json} {members : List (Str × Json)}
    (hdecode : ∀ m ∈ member :: members, ∀ rest, EndsValue rest →
      decode (dumpsValue shortest m.2 ++ rest) = (go m.2).map fun decoded => (decoded, rest))
    {fuel : Nat} (hfuel : members.length < fuel) (decoded : List (String × JsonValue))
    (rest : List Char) :
    decodeMembers decode fuel decoded
        (dumpsMember shortest member ++ (dumpsMoreMembers shortest members ++ rest)) =
      ((member :: members).mapM (goMember go)).map fun ms => (.object (decoded ++ ms), rest) := by
  induction members generalizing member fuel decoded with
  | nil =>
      obtain ⟨fuel, rfl⟩ : ∃ k, fuel = k + 1 := ⟨fuel - 1, by omega⟩
      rw [decodeMembers_member
        (hdecode member List.mem_cons_self _ (endsValue_dumpsMoreMembers _ _))]
      cases hmember : goMember go member with
      | none => simp [hmember]
      | some m =>
          simp only [List.mapM_cons, hmember, List.mapM_nil]
          rfl
  | cons next members ih =>
      obtain ⟨fuel, rfl⟩ : ∃ k, fuel = k + 1 := ⟨fuel - 1, by omega⟩
      have htail : members.length < fuel := by
        rw [List.length_cons] at hfuel
        omega
      have hrest := ih (fun m hm => hdecode m (List.mem_cons_of_mem _ hm)) htail
      rw [decodeMembers_member
        (hdecode member List.mem_cons_self _ (endsValue_dumpsMoreMembers _ _))]
      cases hmember : goMember go member with
      | none => simp [hmember]
      | some m =>
          have hnext : skipSpace (dumpsMoreMembers shortest (next :: members) ++ rest) =
              ',' :: ' ' ::
                (dumpsMember shortest next ++ (dumpsMoreMembers shortest members ++ rest)) := by
            rw [dumpsMoreMembers, List.cons_append, List.cons_append, List.append_assoc]
            exact skipSpace_of_ne (by decide) _
          simp only [hnext]
          rw [skipSpace_blank, skipSpace_dumpsMember, hrest]
          generalize htail : (next :: members).mapM (goMember go) = tail
          rw [List.mapM_cons, hmember, htail]
          cases tail <;> simp

theorem length_le_dumpsMoreMembers (shortest : Python.Float → FloatLiteral)
    (members : List (Str × Json)) :
    members.length < (dumpsMoreMembers shortest members).length := by
  induction members with
  | nil => exact Nat.zero_lt_one
  | cons member members ih =>
      simp only [dumpsMoreMembers, List.length_cons, List.length_append]
      omega

theorem decodeObject_dumps {members : List (Str × Json)}
    (hdecode : ∀ m ∈ members, ∀ rest, EndsValue rest →
      decode (dumpsValue shortest m.2 ++ rest) = (go m.2).map fun decoded => (decoded, rest))
    (rest : List Char) : decodeObject decode (dumpsMembers shortest members ++ rest) =
      (members.mapM (goMember go)).map fun ms => (.object ms, rest) := by
  cases members with
  | nil => rfl
  | cons member members =>
      have hfuel : members.length < (dumpsMember shortest member ++
          (dumpsMoreMembers shortest members ++ rest)).length + 1 := by
        have hlength := length_le_dumpsMoreMembers shortest members
        rw [List.length_append, List.length_append]
        omega
      have hmembers := decodeMembers_dumps hdecode hfuel [] rest
      rw [dumpsMembers, List.append_assoc, decodeObject, skipSpace_dumpsMember]
      split
      · rename_i heq
        obtain ⟨key, value⟩ := member
        rw [dumpsMember, dumpsText, List.cons_append, List.cons_append] at heq
        exact absurd (List.cons.inj heq).1 (by decide)
      · exact hmembers

end Containers

/-- **A value of Python's encoder** is decoded to what Go makes of it, whatever stands behind it. -/
theorem decodeOnce_dumpsValue (shortest : Python.Float → FloatLiteral) (depth : Nat) (value : Json)
    {rest : List Char} (hrest : EndsValue rest) :
    decodeOnce depth (dumpsValue shortest value ++ rest) =
      (goValue shortest depth value).map fun decoded => (decoded, rest) := by
  induction depth generalizing value rest with
  | zero =>
      cases value with
      -- no container may be opened: the bracket is taken for a number
      | arr items => rfl
      | obj members => rfl
      | _ => exact decodeValue_scalar (by rintro _ ⟨⟩) (by rintro _ ⟨⟩) shortest none hrest
  | succ depth ih =>
      cases value with
      | arr items =>
          have hitems : ∀ v ∈ items, ∀ rest, EndsValue rest →
              decodeOnce depth (dumpsValue shortest v ++ rest) =
                (goValue shortest depth v).map fun decoded => (decoded, rest) :=
            fun v _ _ hrest => ih v hrest
          have harray := decodeArray_dumps hitems rest
          rw [dumpsValue, List.cons_append, goValue]
          show decodeArray (decodeOnce depth) _ = _
          rw [harray, Option.map_map]
          rfl
      | obj members =>
          have hmembers : ∀ m ∈ members, ∀ rest, EndsValue rest →
              decodeOnce depth (dumpsValue shortest m.2 ++ rest) =
                (goValue shortest depth m.2).map fun decoded => (decoded, rest) :=
            fun m _ _ hrest => ih m.2 hrest
          have hobject := decodeObject_dumps hmembers rest
          rw [dumpsValue, List.cons_append, goValue]
          show decodeObject (decodeOnce depth) _ = _
          rw [hobject, Option.map_map]
          rfl
      | _ => exact decodeValue_scalar (by rintro _ ⟨⟩) (by rintro _ ⟨⟩) shortest _ hrest

/-- **Go reads what `json.dumps` writes**, unless a float in it is no number or its containers are
nested too deep. -/
theorem decode_dumps (shortest : Python.Float → FloatLiteral) (value : Json) :
    decode (dumps shortest value) = goValue shortest maxNestingDepth value := by
  have hend : EndsValue [] := nofun
  have hvalue := decodeOnce_dumpsValue shortest maxNestingDepth value hend
  rw [List.append_nil] at hvalue
  have hspace : skipSpace (dumpsValue shortest value ++ []) = dumpsValue shortest value ++ [] :=
    skipSpace_dumpsValue value []
  rw [List.append_nil] at hspace
  rw [decode, dumps, String.toList_ofList, hspace, hvalue]
  cases goValue shortest maxNestingDepth value <;> rfl

end Go
