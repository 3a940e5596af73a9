import LanAgent.Go.PythonTexts
import LanAgent.Go.Utf16

/-!
# What Go decodes of its own texts

The bytes of a text are read as the text they encode (`toText_ofString`), and of the indented text
that `json.MarshalIndent` writes for a struct the decoder gets the fields as they were, in their
order (`decode_marshalIndent`).
-/

namespace Go

open Python

/-! ## Bytes -/

/-- A Go string as `encoding/json` reads and writes it, with U+FFFD for bytes that are no UTF-8. -/
def toText (s : GoString) : String := String.ofList ((runes s).map Char.ofNat)

theorem runesFrom_skip (read rest : GoString) :
    runesFrom read.length (read ++ rest) = runesFrom 0 rest := by
  induction read with
  | nil => rfl
  | cons b read ih =>
      rw [List.length_cons, List.cons_append, runesFrom]
      exact ih

theorem runesFrom_utf8EncodeChar (c : Char) (rest : GoString) :
    runesFrom 0 (String.utf8EncodeChar c ++ rest) = c.toNat :: runesFrom 0 rest := by
  obtain ⟨b, tail, hc, hrune⟩ := decodeRune_utf8EncodeChar c rest
  rw [hc, List.cons_append, runesFrom, hrune]
  show c.toNat :: runesFrom tail.length _ = _
  rw [runesFrom_skip]

theorem runes_ofString (s : String) : runes (ofString s) = s.toList.map Char.toNat := by
  unfold runes ofString
  generalize s.toList = cs
  induction cs with
  | nil => rfl
  | cons c cs ih =>
      rw [List.flatMap_cons, List.map_cons, runesFrom_utf8EncodeChar, ih]

@[simp] theorem toText_ofString (s : String) : toText (ofString s) = s := by
  have hchar : ∀ cs : List Char, (cs.map Char.toNat).map Char.ofNat = cs := by
    intro cs
    rw [List.map_map]
    have hid : Char.ofNat ∘ Char.toNat = id := funext fun c => Char.ofNat_toNat c
    rw [hid, List.map_id]
  rw [toText, runes_ofString, hchar, String.ofList_toList]

/-- The bytes of a character beyond ASCII. -/
theorem le_of_mem_utf8EncodeChar {c : Char} (hc : 1 < (String.utf8EncodeChar c).length) :
    ∀ b ∈ String.utf8EncodeChar c, 0x80 ≤ b := by
  obtain ⟨b, tail, htail, hrune⟩ := decodeRune_utf8EncodeChar c []
  rw [htail, List.length_cons] at hc
  have hb : ¬b < 0x80 := by
    intro hb
    have hone : decodeRune b (tail ++ []) = (b.toNat, 1) := if_pos hb
    rw [hone] at hrune
    have hwidth := congrArg Prod.snd hrune
    dsimp only at hwidth
    omega
  have hwide := decodeRune_wide hb (tail ++ [])
  rw [hrune] at hwide
  have hbytes := hwide.bytes
  rw [Nat.add_sub_cancel, List.append_nil, List.take_length] at hbytes
  intro d hd
  rw [htail] at hd
  rcases List.mem_cons.mp hd with rfl | hd
  · exact UInt8.not_lt.mp hb
  · exact hbytes d hd

/-! ## Members -/

/-- What the decoder makes of a field. -/
def JsonScalar.decoded : JsonScalar → JsonValue
  | .text s => .text s
  | .int n => .int n

theorem decodeText_quote (s : String) (rest : List Char) :
    decodeText (s.toList.flatMap quoteChar ++ '"' :: rest) = some (s, rest) := by
  rw [decodeText, scanString_quote]
  dsimp only
  rw [Str.ofString, List.map_map]
  show some (String.ofList (s.toList.map id), rest) = _
  rw [List.map_id, String.ofList_toList]

theorem decodeValue_write (value : JsonScalar)
    (nested : Option (List Char → Option (JsonValue × List Char))) {rest : List Char}
    (hrest : EndsValue rest) :
    decodeValue nested (value.write ++ rest) = some (value.decoded, rest) := by
  cases value with
  | text s =>
      rw [JsonScalar.write, quote, List.cons_append, List.append_assoc, List.singleton_append,
        decodeValue, decodeText_quote]
      rfl
  | int n =>
      have hnumber := decodeNumber_toString n hrest
      obtain ⟨c, cs, hcs, hc⟩ := (isWhole_toDigits n.natAbs).signed_head (decide (n < 0)) rest
      have htext : (toString n).toList ++ rest = c :: cs := by
        rw [← hcs, toList_toString]
        by_cases hn : n < 0 <;> simp [hn]
      rw [JsonScalar.write]
      rw [htext] at hnumber ⊢
      rw [decodeValue_number hc, hnumber]
      rfl

/-- Behind the first member. -/
def writeMoreIndented : List (String × JsonScalar) → List Char
  | [] => ['\n', '}']
  | member :: members => ',' :: (writeIndented member ++ writeMoreIndented members)

theorem marshalIndent_cons (member : String × JsonScalar) (members : List (String × JsonScalar)) :
    marshalIndent (member :: members) =
      String.ofList ('{' :: (writeIndented member ++ writeMoreIndented members)) := by
  have hflatten : ∀ member : String × JsonScalar,
      (((member :: members).map writeIndented).intersperse [',']).flatten ++ ['\n', '}'] =
        writeIndented member ++ writeMoreIndented members := by
    induction members with
    | nil =>
        intro member
        rw [List.map_cons, List.map_nil, List.intersperse_singleton, List.flatten_cons,
          List.flatten_nil, List.append_nil]
        rfl
    | cons next members ih =>
        intro member
        rw [List.map_cons, List.map_cons, List.intersperse, List.flatten_cons, List.flatten_cons,
          List.append_assoc, List.append_assoc, ← List.map_cons, ih next]
        · rfl
        · nofun
  rw [marshalIndent, List.cons_append, hflatten]

theorem endsValue_writeMoreIndented (members : List (String × JsonScalar)) :
    EndsValue (writeMoreIndented members) := by
  cases members with
  | nil =>
      rintro c ⟨⟩
      exact .inr (.inr (.inr rfl))
  | cons member members =>
      rintro c ⟨⟩
      exact .inl rfl

/-- The line break and the blanks in front of a member are no part of it. -/
theorem skipSpace_writeIndented (member : String × JsonScalar) (rest : List Char) :
    skipSpace (writeIndented member ++ rest) =
      '"' :: (member.1.toList.flatMap quoteChar ++
        '"' :: ':' :: ' ' :: (member.2.write ++ rest)) := by
  have hshape : writeIndented member ++ rest = '\n' :: ' ' :: ' ' :: '"' ::
      (member.1.toList.flatMap quoteChar ++ '"' :: ':' :: ' ' :: (member.2.write ++ rest)) := by
    simp [writeIndented, quote]
  rw [hshape]
  show skipSpace ('"' :: _) = _
  exact skipSpace_of_ne (by decide) _

section Members

variable {decode : List Char → Option (JsonValue × List Char)}
  (hdecode : ∀ (value : JsonScalar) (rest : List Char), EndsValue rest →
    decode (value.write ++ rest) = some (value.decoded, rest))

include hdecode

theorem decodeMembers_indented (member : String × JsonScalar)
    (members : List (String × JsonScalar)) {fuel : Nat} (hfuel : members.length < fuel)
    (done : List (String × JsonValue)) :
    decodeMembers decode fuel done
        (skipSpace (writeIndented member ++ writeMoreIndented members)) =
      some (.object (done ++ (member :: members).map fun m => (m.1, m.2.decoded)), []) := by
  induction members generalizing member fuel done with
  | nil =>
      obtain ⟨fuel, rfl⟩ : ∃ k, fuel = k + 1 := ⟨fuel - 1, by omega⟩
      rw [skipSpace_writeIndented, decodeMembers, decodeText_quote]
      dsimp only
      rw [skipSpace_of_ne (by decide)]
      split
      · rename_i heq
        cases heq
        rw [skipSpace_blank, skipSpace_write, hdecode _ _ (endsValue_writeMoreIndented [])]
        rfl
      · rename_i hcolon
        exact absurd rfl (hcolon _)
  | cons next members ih =>
      obtain ⟨fuel, rfl⟩ : ∃ k, fuel = k + 1 := ⟨fuel - 1, by omega⟩
      have htail : members.length < fuel := by
        rw [List.length_cons] at hfuel
        omega
      rw [skipSpace_writeIndented, decodeMembers, decodeText_quote]
      dsimp only
      rw [skipSpace_of_ne (by decide)]
      split
      · rename_i heq
        cases heq
        rw [skipSpace_blank, skipSpace_write, hdecode _ _ (endsValue_writeMoreIndented _)]
        dsimp only
        rw [writeMoreIndented, skipSpace_of_ne (by decide)]
        refine (ih next htail _).trans ?_
        rw [List.append_assoc]
        rfl
      · rename_i hcolon
        exact absurd rfl (hcolon _)

end Members

/-- **Go reads what `json.MarshalIndent` writes** of a struct. -/
theorem decode_marshalIndent (member : String × JsonScalar)
    (members : List (String × JsonScalar)) :
    decode (marshalIndent (member :: members)) =
      some (.object ((member :: members).map fun m => (m.1, m.2.decoded))) := by
  have hvalue : ∀ (value : JsonScalar) (rest : List Char), EndsValue rest →
      decodeOnce (maxNestingDepth - 1) (value.write ++ rest) = some (value.decoded, rest) :=
    fun value rest hrest => decodeValue_write value _ hrest
  have hlength : members.length <
      (skipSpace (writeIndented member ++ writeMoreIndented members)).length + 1 := by
    have hmore : members.length ≤ (writeMoreIndented members).length := by
      induction members with
      | nil => exact Nat.zero_le _
      | cons next members ih =>
          rw [writeMoreIndented, List.length_cons, List.length_cons, List.length_append]
          omega
    rw [skipSpace_writeIndented]
    simp only [List.length_cons, List.length_append]
    omega
  have hmembers := decodeMembers_indented hvalue member members hlength []
  have hobject : decodeObject (decodeOnce (maxNestingDepth - 1))
      (writeIndented member ++ writeMoreIndented members) =
        some (.object ((member :: members).map fun m => (m.1, m.2.decoded)), []) := by
    unfold decodeObject
    split
    · rename_i hclose
      rw [skipSpace_writeIndented] at hclose
      exact absurd (List.cons.inj hclose).1 (by decide)
    · exact hmembers
  have honce : decodeOnce maxNestingDepth
      ('{' :: (writeIndented member ++ writeMoreIndented members)) =
        some (.object ((member :: members).map fun m => (m.1, m.2.decoded)), []) := hobject
  rw [decode, marshalIndent_cons, String.toList_ofList, skipSpace_of_ne (by decide), honce]
  rfl

end Go
