import LanAgent.Python.Json
import Mathlib.Data.List.TakeDrop

/-!
# `json.Marshal` — flat objects

The text Go's `encoding/json` writes for a struct whose fields are strings and integers, and what
Python's decoder reads of it: the same members, in the same order.
-/

namespace Go

open Python

inductive JsonScalar where
  | text (s : String)
  | int (n : Int)
  deriving DecidableEq, Repr

/-! ## Writing -/

/-- A character of a string; HTML's own are escaped too, and U+2028 and U+2029. -/
def quoteChar (c : Char) : List Char :=
  if c = '"' ∨ c = '\\' then ['\\', c]
  else if c = '\n' then ['\\', 'n']
  else if c = '\r' then ['\\', 'r']
  else if c = '\t' then ['\\', 't']
  else if c.toNat < 0x20 ∨ c = '<' ∨ c = '>' ∨ c = '&' then
    ['\\', 'u', '0', '0', Nat.digitChar (c.toNat / 16), Nat.digitChar (c.toNat % 16)]
  else if c = '\u2028' ∨ c = '\u2029' then
    ['\\', 'u', '2', '0', '2', Nat.digitChar (c.toNat % 16)]
  else [c]

def quote (s : String) : List Char := '"' :: (s.toList.flatMap quoteChar ++ ['"'])

def JsonScalar.write : JsonScalar → List Char
  | .text s => quote s
  | .int n => (toString n).toList

def writeMember (member : String × JsonScalar) : List Char :=
  quote member.1 ++ ':' :: member.2.write

def writeMembers : List (String × JsonScalar) → List Char
  | [] => ['}']
  | [member] => writeMember member ++ ['}']
  | member :: members => writeMember member ++ ',' :: writeMembers members

def marshal (members : List (String × JsonScalar)) : String :=
  String.ofList ('{' :: writeMembers members)

/-- A member of `json.MarshalIndent` with two spaces. -/
def writeIndented (member : String × JsonScalar) : List Char :=
  '\n' :: ' ' :: ' ' :: (quote member.1 ++ ':' :: ' ' :: member.2.write)

/-- `json.MarshalIndent(v, "", "  ")` of a struct that has fields. -/
def marshalIndent (members : List (String × JsonScalar)) : String :=
  String.ofList ('{' :: ((members.map writeIndented).intersperse [',']).flatten ++ ['\n', '}'])

/-! ## Reading strings -/

theorem hexDigit_digitChar : ∀ n < 16, Python.hexDigit (Nat.digitChar n) = some n := by decide

theorem scanUnits_unicode {c : Char} {x y z w : Char} (h : codeUnit x y z w = some (.scalar c))
    (rest : List Char) : scanUnits ('\\' :: 'u' :: x :: y :: z :: w :: rest) =
      (scanUnits rest).map (fun (s, rest) => (.scalar c :: s, rest)) := by
  rw [scanUnits, h]

theorem scanUnits_escape {e c : Char} (hu : e ≠ 'u') (h : escape e = some c) (rest : List Char) :
    scanUnits ('\\' :: e :: rest) =
      (scanUnits rest).map (fun (s, rest) => (.scalar c :: s, rest)) := by
  rw [scanUnits, h]
  exact fun _ _ _ _ _ heq _ => hu heq

theorem scanUnits_plain {c : Char} (hquote : c ≠ '"') (hbackslash : c ≠ '\\')
    (hcontrol : ¬c.toNat < 0x20) (rest : List Char) : scanUnits (c :: rest) =
      (scanUnits rest).map (fun (s, rest) => (.scalar c :: s, rest)) := by
  rw [scanUnits, if_neg hcontrol]
  · exact hquote
  · exact fun _ _ _ _ _ heq _ => hbackslash heq
  · exact fun _ _ heq _ => hbackslash heq

/-- The four digits of a character below U+0100. -/
theorem codeUnit_ascii {c : Char} (h : c.toNat < 0x100) :
    codeUnit '0' '0' (Nat.digitChar (c.toNat / 16)) (Nat.digitChar (c.toNat % 16)) =
      some (.scalar c) := by
  have hzero : Python.hexDigit '0' = some 0 := by decide
  have hvalue : ((0 * 16 + 0) * 16 + c.toNat / 16) * 16 + c.toNat % 16 = c.toNat := by omega
  have hsurrogate : ¬(0xD800 ≤ c.toNat ∧ c.toNat < 0xE000) := by omega
  simp only [codeUnit, hzero, hexDigit_digitChar _ (by omega : c.toNat / 16 < 16),
    hexDigit_digitChar _ (by omega : c.toNat % 16 < 16), Option.bind_eq_bind, Option.bind_some,
    hvalue]
  rw [dif_neg hsurrogate, Char.ofNat_toNat]

/-- **One character is read back** as it was written. -/
theorem scanUnits_quoteChar (c : Char) (rest : List Char) :
    scanUnits (quoteChar c ++ rest) =
      (scanUnits rest).map (fun (s, rest) => (.scalar c :: s, rest)) := by
  unfold quoteChar
  split_ifs with hquote hn hr ht hhex hline
  · rcases hquote with rfl | rfl
    · exact scanUnits_escape (by decide) rfl rest
    · exact scanUnits_escape (by decide) rfl rest
  · subst hn
    exact scanUnits_escape (by decide) rfl rest
  · subst hr
    exact scanUnits_escape (by decide) rfl rest
  · subst ht
    exact scanUnits_escape (by decide) rfl rest
  · refine scanUnits_unicode (codeUnit_ascii ?_) rest
    rcases hhex with hlt | rfl | rfl | rfl
    · omega
    all_goals decide
  · refine scanUnits_unicode ?_ rest
    rcases hline with rfl | rfl <;> decide
  · rw [not_or] at hquote hhex
    exact scanUnits_plain hquote.1 hquote.2 hhex.1 rest

theorem scanUnits_quote (s rest : List Char) :
    scanUnits (s.flatMap quoteChar ++ '"' :: rest) = .ok (s.map .scalar, rest) := by
  induction s with
  | nil => rfl
  | cons c s ih =>
      rw [List.flatMap_cons, List.append_assoc, scanUnits_quoteChar, ih]
      rfl

theorem joinSurrogates_scalar (s : List Char) :
    joinSurrogates (s.map .scalar) = s.map .scalar := by
  induction s with
  | nil => rfl
  | cons c s ih =>
      rw [List.map_cons, joinSurrogates, ih]
      intro _ _ _ h
      cases h

theorem scanString_quote (s : String) (rest : List Char) :
    scanString (s.toList.flatMap quoteChar ++ '"' :: rest) = .ok (Str.ofString s, rest) := by
  rw [scanString, scanUnits_quote]
  show Except.ok (joinSurrogates (s.toList.map .scalar), rest) = _
  rw [joinSurrogates_scalar]
  rfl

/-! ## Reading numbers -/

/-- What may stand behind a number. -/
def EndsNumber (rest : List Char) : Prop := ∃ c cs, rest = c :: cs ∧ (c = ',' ∨ c = '}')

theorem digitRun_append {digits rest : List Char} (hdigits : ∀ c ∈ digits, c.isDigit = true)
    (hrest : EndsNumber rest) : digitRun (digits ++ rest) = (digits, rest) := by
  obtain ⟨c, cs, rfl, hc⟩ := hrest
  have hend : c.isDigit = false := by rcases hc with rfl | rfl <;> decide
  rw [digitRun, List.span_eq_takeWhile_dropWhile, List.takeWhile_append_of_pos hdigits,
    List.dropWhile_append_of_pos hdigits, List.takeWhile_cons_of_neg (by simp [hend]),
    List.dropWhile_cons_of_neg (by simp [hend]), List.append_nil]

/-- A number other than 0 does not begin with `0`. -/
theorem head?_toDigits {n : Nat} (h : 0 < n) : (Nat.toDigits 10 n).head? ≠ some '0' := by
  induction n using Nat.strongRecOn with
  | ind n ih =>
      rw [Nat.toDigits_eq_if (by decide)]
      split
      · rename_i hlt
        have hall : ∀ n < 10, 0 < n → Nat.digitChar n ≠ '0' := by decide
        exact fun heq => hall n hlt h (Option.some.inj heq)
      · have hhead := ih (n / 10) (by omega) (by omega)
        rw [List.head?_append]
        cases hdigits : Nat.toDigits 10 (n / 10) with
        | nil => exact absurd hdigits Nat.toDigits_ne_nil
        | cons c cs => rwa [hdigits] at hhead

theorem digitsValue_toDigits (n : Nat) : digitsValue (Nat.toDigits 10 n) = n := by
  have hfold : ∀ digits m, digits.foldl (fun n d => n * 10 + (d.toNat - '0'.toNat)) m =
      Nat.ofDigitChars 10 digits m := by
    intro digits
    induction digits with
    | nil => exact fun _ => rfl
    | cons d digits ih =>
        intro m
        rw [List.foldl_cons, ih, Nat.ofDigitChars_cons, Nat.mul_comm]
  rw [digitsValue, hfold, Nat.ofDigitChars_ten_toDigits]

theorem isDigit_toDigits {n : Nat} : ∀ c ∈ Nat.toDigits 10 n, c.isDigit = true :=
  fun _ hc => Nat.isDigit_of_mem_toDigits (by decide) (by decide) hc

/-- The sign and the digits of an integer. -/
theorem toList_toString (n : Int) : (toString n).toList =
    if n < 0 then '-' :: Nat.toDigits 10 n.natAbs else Nat.toDigits 10 n.natAbs := by
  cases n with
  | ofNat m =>
      show (Nat.repr m).toList = _
      rw [Nat.toList_repr]
      rfl
  | negSucc m =>
      show ("-" ++ Nat.repr (m + 1)).toList = _
      rw [String.toList_append, Nat.toList_repr, if_pos (Int.negSucc_lt_zero m)]
      rfl

theorem scanInteger_toString (n : Int) {rest : List Char} (hrest : EndsNumber rest) :
    scanInteger ((toString n).toList ++ rest) =
      some (decide (n < 0), Nat.toDigits 10 n.natAbs, rest) := by
  have hdigit := isDigit_toDigits (n := n.natAbs)
  have hrun := digitRun_append hdigit hrest
  have hhead := mt (head?_toDigits (n := n.natAbs))
  rw [toList_toString]
  cases hdigits : Nat.toDigits 10 n.natAbs with
  | nil => exact absurd hdigits Nat.toDigits_ne_nil
  | cons c cs =>
      rw [hdigits] at hdigit hrun hhead
      have hminus : c ≠ '-' := by
        rintro rfl
        exact absurd (hdigit _ List.mem_cons_self) (by decide)
      by_cases hc : c = '0'
      · subst hc
        have hzero : n.natAbs = 0 := Nat.eq_zero_of_not_pos (hhead (not_not.mpr rfl))
        rw [hzero] at hdigits
        cases hdigits
        rw [Int.natAbs_eq_zero.mp hzero]
        rfl
      · by_cases hn : n < 0
        · rw [if_pos hn, decide_eq_true hn]
          simp_all [scanInteger]
        · rw [if_neg hn, decide_eq_false hn]
          simp_all [scanInteger]

theorem scanNumber_toString (n : Int) (hfits : (Nat.toDigits 10 n.natAbs).length ≤ intMaxStrDigits)
    {rest : List Char} (hrest : EndsNumber rest) :
    scanNumber ((toString n).toList ++ rest) = .ok (.int n, rest) := by
  have hinteger := scanInteger_toString n hrest
  have hfraction : scanFraction rest = ([], rest) := by
    obtain ⟨c, cs, rfl, rfl | rfl⟩ := hrest <;> rfl
  have hexponent : scanExponent rest = (none, rest) := by
    obtain ⟨c, cs, rfl, rfl | rfl⟩ := hrest <;> rfl
  have hvalue : (if n < 0 then -(n.natAbs : Int) else n.natAbs) = n := by omega
  rw [scanNumber, hinteger]
  dsimp only
  rw [hfraction, hexponent]
  dsimp only
  rw [if_neg (Nat.not_lt.mpr hfits), digitsValue_toDigits]
  simp only [decide_eq_true_eq]
  rw [hvalue]

/-! ## Reading an object -/

/-- What the decoder makes of a scalar. -/
def JsonScalar.value : JsonScalar → Json
  | .text s => .str (Str.ofString s)
  | .int n => .int n

/-- The number has no more digits than `int` reads. -/
def JsonScalar.Readable : JsonScalar → Prop
  | .text _ => True
  | .int n => (Nat.toDigits 10 n.natAbs).length ≤ intMaxStrDigits

/-- What a scalar begins with. -/
theorem JsonScalar.write_head (scalar : JsonScalar) : ∃ c cs, scalar.write = c :: cs ∧
    (c = '"' ∨ c = '-' ∨ c.isDigit = true) := by
  cases scalar with
  | text s => exact ⟨_, _, rfl, .inl rfl⟩
  | int n =>
      rw [JsonScalar.write, toList_toString]
      split
      · exact ⟨_, _, rfl, .inr (.inl rfl)⟩
      · have hdigit := isDigit_toDigits (n := n.natAbs)
        cases hdigits : Nat.toDigits 10 n.natAbs with
        | nil => exact absurd hdigits Nat.toDigits_ne_nil
        | cons c cs =>
            rw [hdigits] at hdigit
            exact ⟨c, cs, rfl, .inr (.inr (hdigit c List.mem_cons_self))⟩

theorem skipSpace_write (scalar : JsonScalar) (rest : List Char) :
    skipSpace (scalar.write ++ rest) = scalar.write ++ rest := by
  obtain ⟨c, cs, hwrite, hc⟩ := scalar.write_head
  have hspace : isSpace c = false := by
    rcases hc with rfl | rfl | hdigit
    · rfl
    · rfl
    · simp only [isSpace, Bool.or_eq_false_iff, decide_eq_false_iff_not]
      refine ⟨⟨⟨?_, ?_⟩, ?_⟩, ?_⟩ <;> (rintro rfl; cases hdigit)
  rw [hwrite, List.cons_append, skipSpace, List.dropWhile_cons_of_neg (by simp [hspace])]

/-- A text that begins like a number is scanned as one. -/
theorem scanValue_number {c : Char} {cs : List Char} (hc : c.isDigit = true ∨ c = '-')
    (hminus : c = '-' → cs.head? ≠ some 'I') (nested : Option (List Char → Scan Json)) :
    scanValue nested (c :: cs) = scanNumber (c :: cs) := by
  have hother : ∀ d rest, (d.isDigit || d = '-') = false → c :: cs = d :: rest → False := by
    intro d rest hd heq
    obtain ⟨rfl, _⟩ := List.cons.inj heq
    rcases hc with hc | hc <;> simp [hc] at hd
  rw [scanValue, scanAtom]
  · exact fun _ => hother _ _ rfl
  · exact fun _ => hother _ _ rfl
  · exact fun _ => hother _ _ rfl
  · exact fun _ => hother _ _ rfl
  · exact fun _ => hother _ _ rfl
  · -- only the constant `-Infinity` begins like a negative number
    intro rest heq
    obtain ⟨hc, hcs⟩ := List.cons.inj heq
    rw [hcs] at hminus
    exact hminus hc rfl
  · exact fun _ => hother _ _ rfl
  · exact fun _ heq _ => hother _ _ rfl heq
  · exact fun _ heq _ => hother _ _ rfl heq
  · exact fun _ _ heq _ => hother _ _ rfl heq
  · exact fun _ _ heq _ => hother _ _ rfl heq

/-- **A scalar is read back**, whatever container it stands in. -/
theorem scanValue_write {scalar : JsonScalar} (h : scalar.Readable)
    (nested : Option (List Char → Scan Json)) {rest : List Char} (hrest : EndsNumber rest) :
    scanValue nested (scalar.write ++ rest) = .ok (scalar.value, rest) := by
  cases scalar with
  | text s =>
      have hscan := scanString_quote s rest
      rw [JsonScalar.write, quote, List.cons_append, List.append_assoc, List.singleton_append,
        scanValue, hscan]
      rfl
  | int n =>
      have hscan := scanNumber_toString n h hrest
      have hdigit := isDigit_toDigits (n := n.natAbs)
      rw [JsonScalar.write]
      rw [toList_toString] at hscan ⊢
      cases hdigits : Nat.toDigits 10 n.natAbs with
      | nil => exact absurd hdigits Nat.toDigits_ne_nil
      | cons c cs =>
          rw [hdigits] at hdigit hscan
          have hc := hdigit c List.mem_cons_self
          by_cases hn : n < 0
          · rw [if_pos hn] at hscan ⊢
            refine (scanValue_number (.inr rfl) (fun _ heq => ?_) nested).trans hscan
            rw [Option.some.inj heq] at hc
            cases hc
          · rw [if_neg hn] at hscan ⊢
            refine (scanValue_number (.inl hc) (fun heq => ?_) nested).trans hscan
            rw [heq] at hc
            cases hc

theorem setItem_of_new {items : List (Str × Json)} {key : Str}
    (h : ∀ item ∈ items, item.1 ≠ key) (value : Json) :
    setItem items key value = items ++ [(key, value)] := by
  have hany : items.any (fun item => item.1 = key) = false :=
    List.any_eq_false.mpr fun item hitem => by simpa using h item hitem
  rw [setItem, hany]
  rfl

theorem skipSpace_of_ne {c : Char} (h : isSpace c = false) (cs : List Char) :
    skipSpace (c :: cs) = c :: cs := by
  rw [skipSpace, List.dropWhile_cons_of_neg (by simp [h])]

section Members

variable {scan : List Char → Scan Json}

/-- One round of the loop over the members. -/
theorem scanMembers_member {member : String × JsonScalar} {c : Char} {rest : List Char}
    (hscan : scan (member.2.write ++ c :: rest) = .ok (member.2.value, c :: rest))
    {items : List (Str × Json)} (hnew : ∀ item ∈ items, item.1 ≠ Str.ofString member.1)
    (hc : c = ',' ∨ c = '}') (fuel : Nat) :
    scanMembers scan (fuel + 1) items (writeMember member ++ c :: rest) =
      if c = ',' then
        scanMembers scan fuel (items ++ [(Str.ofString member.1, member.2.value)]) (skipSpace rest)
      else .ok (.obj (items ++ [(Str.ofString member.1, member.2.value)]), rest) := by
  have hkey := scanString_quote member.1 (':' :: (member.2.write ++ c :: rest))
  have htext : writeMember member ++ c :: rest = '"' ::
      (member.1.toList.flatMap quoteChar ++ '"' :: ':' :: (member.2.write ++ c :: rest)) := by
    simp [writeMember, quote]
  rw [htext, scanMembers, hkey]
  dsimp only
  rw [skipSpace_of_ne (by decide)]
  split
  · rename_i heq
    cases heq
    rw [skipSpace_write, hscan]
    dsimp only
    have hspace : isSpace c = false := by rcases hc with rfl | rfl <;> rfl
    rw [skipSpace_of_ne hspace, setItem_of_new hnew]
    rcases hc with rfl | rfl <;> rfl
  · rename_i hcolon
    exact absurd rfl (hcolon _)

end Members

/-- **The members are read back** in their order. -/
theorem scanMembers_write {scan : List Char → Scan Json} {members : List (String × JsonScalar)}
    (hscan : ∀ member ∈ members, ∀ rest, EndsNumber rest →
      scan (member.2.write ++ rest) = .ok (member.2.value, rest))
    (hne : members ≠ []) (hnodup : (members.map Prod.fst).Nodup) {fuel : Nat}
    (hfuel : members.length ≤ fuel) {items : List (Str × Json)}
    (hnew : ∀ member ∈ members, ∀ item ∈ items, item.1 ≠ Str.ofString member.1) :
    scanMembers scan fuel items (writeMembers members) =
      .ok (.obj (items ++ members.map fun m => (Str.ofString m.1, m.2.value)), []) := by
  induction members generalizing fuel items with
  | nil => exact absurd rfl hne
  | cons member members ih =>
      obtain ⟨fuel, rfl⟩ : ∃ k, fuel = k + 1 := ⟨fuel - 1, by
        rw [List.length_cons] at hfuel
        omega⟩
      have hfirst := hscan member List.mem_cons_self
      have hfresh := hnew member List.mem_cons_self
      cases members with
      | nil =>
          rw [writeMembers, scanMembers_member (hfirst _ ⟨_, _, rfl, .inr rfl⟩) hfresh (.inr rfl),
            if_neg (by decide)]
          rfl
      | cons next members =>
          have htext : writeMembers (member :: next :: members) =
              writeMember member ++ ',' :: writeMembers (next :: members) := rfl
          rw [htext, scanMembers_member (hfirst _ ⟨_, _, rfl, .inl rfl⟩) hfresh (.inl rfl),
            if_pos rfl]
          obtain ⟨hnotin, hnodup⟩ := List.nodup_cons.mp hnodup
          have hquote : skipSpace (writeMembers (next :: members)) =
              writeMembers (next :: members) := by
            cases members <;> exact skipSpace_of_ne (by decide) _
          rw [hquote, ih (fun m hm => hscan m (List.mem_cons_of_mem _ hm)) (List.cons_ne_nil _ _)
            hnodup (Nat.le_of_succ_le_succ hfuel)]
          · rw [List.append_assoc]
            rfl
          · intro m hm item hitem
            rcases List.mem_append.mp hitem with hitem | hitem
            · exact hnew m (List.mem_cons_of_mem _ hm) item hitem
            · rw [List.mem_singleton.mp hitem]
              intro heq
              refine hnotin (List.mem_map.mpr ⟨m, hm, ?_⟩)
              exact (Str.ofString_injective heq).symm

theorem length_le_writeMembers (members : List (String × JsonScalar)) :
    members.length ≤ (writeMembers members).length := by
  induction members with
  | nil => exact Nat.zero_le _
  | cons member members ih =>
      cases members with
      | nil =>
          rw [writeMembers, List.length_append]
          exact Nat.le_add_left _ _
      | cons next members =>
          show members.length + 2 ≤ (writeMember member ++ ',' :: writeMembers _).length
          rw [List.length_cons] at ih
          rw [List.length_append, List.length_cons]
          omega

/-- **`json.loads` reads what `json.Marshal` writes.** -/
theorem loads_marshal {limit : Nat} (hlimit : 0 < limit) {members : List (String × JsonScalar)}
    (hnodup : (members.map Prod.fst).Nodup) (hreadable : ∀ member ∈ members, member.2.Readable) :
    loads limit (marshal members) =
      .ok (.obj (members.map fun m => (Str.ofString m.1, m.2.value))) := by
  obtain ⟨depth, rfl⟩ : ∃ depth, limit = depth + 1 := ⟨limit - 1, by omega⟩
  have hscan : ∀ member ∈ members, ∀ rest, EndsNumber rest →
      scanOnce depth (member.2.write ++ rest) = .ok (member.2.value, rest) := by
    intro member hmember rest hrest
    cases depth with
    | zero => exact scanValue_write (hreadable member hmember) _ hrest
    | succ depth => exact scanValue_write (hreadable member hmember) _ hrest
  have hobject : scanObject (scanOnce depth) (writeMembers members) =
      .ok (.obj (members.map fun m => (Str.ofString m.1, m.2.value)), []) := by
    cases members with
    | nil => rfl
    | cons member members =>
        have hquote : ∃ cs, writeMembers (member :: members) = '"' :: cs := by
          cases members with
          | nil => exact ⟨_, rfl⟩
          | cons next members => exact ⟨_, rfl⟩
        have hmembers := scanMembers_write hscan (List.cons_ne_nil _ _) hnodup
          (Nat.le_succ_of_le (length_le_writeMembers (member :: members)))
          fun _ _ _ hitem => absurd hitem List.not_mem_nil
        obtain ⟨cs, hcs⟩ := hquote
        rw [hcs] at hmembers ⊢
        rw [scanObject, skipSpace_of_ne (by decide)]
        exact hmembers
  have hvalue : scanOnce (depth + 1) ('{' :: writeMembers members) =
      scanObject (scanOnce depth) (writeMembers members) := rfl
  rw [loads, marshal, String.toList_ofList]
  split
  · rename_i heq
    exact absurd (List.cons.inj heq).1 (by decide)
  · rw [skipSpace_of_ne (by decide), hvalue, hobject]
    rfl

end Go
