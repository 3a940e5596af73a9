import Mathlib.Algebra.Group.Int.Defs
import Mathlib.Algebra.Group.Nat.Defs
import Mathlib.Tactic.Common

/-!
# Python text — `str` with lone surrogates, and `hmac.compare_digest`

A Python `str` is a sequence of code points that may contain lone surrogates (a JSON escape such
as `\ud800` produces one); it has a UTF-8 encoding only without them.  Text that has already been
encoded or validated is a Lean `String`.
-/

namespace Python

/-- A code point: a Unicode scalar value, or one of the 2048 surrogates from U+D800 on. -/
inductive CodePoint where
  | scalar (c : Char)
  | surrogate (n : Fin 0x800)
  deriving DecidableEq, Repr

abbrev Str := List CodePoint

def Str.ofString (s : String) : Str := s.toList.map .scalar

theorem Str.ofString_injective : Function.Injective Str.ofString := by
  intro s t h
  have hchars : s.toList = t.toList := (List.map_inj_right fun _ _ => CodePoint.scalar.inj).mp h
  exact String.toList_injective hchars

def CodePoint.toChar? : CodePoint → Option Char
  | .scalar c => some c
  | .surrogate _ => none

/-- `s.encode("utf-8")`, as the text it encodes; `none` where Python raises `UnicodeEncodeError`. -/
def Str.encode (s : Str) : Option String := (s.mapM CodePoint.toChar?).map String.ofList

theorem mapM_toChar?_scalar (cs : List Char) :
    (cs.map CodePoint.scalar).mapM CodePoint.toChar? = some cs := by
  induction cs with
  | nil => rfl
  | cons c cs ih => simp [List.mapM_cons, CodePoint.toChar?, ih]

@[simp] theorem Str.encode_ofString (s : String) : (Str.ofString s).encode = some s := by
  rw [Str.encode, Str.ofString, mapM_toChar?_scalar, Option.map_some, String.ofList_toList]

theorem mapM_toChar?_eq_some {s : Str} {cs : List Char} (h : s.mapM CodePoint.toChar? = some cs) :
    s = cs.map CodePoint.scalar := by
  induction s generalizing cs with
  | nil =>
      rw [List.mapM_nil, Option.pure_def, Option.some.injEq] at h
      rw [← h, List.map_nil]
  | cons u s ih =>
      cases u with
      -- one surrogate is enough to make the encoding fail
      | surrogate n => simp [CodePoint.toChar?] at h
      | scalar c =>
          rw [List.mapM_cons] at h
          cases hs : s.mapM CodePoint.toChar? with
          | none => simp [hs, CodePoint.toChar?] at h
          | some cs' =>
              simp only [hs, CodePoint.toChar?, Option.pure_def, Option.bind_eq_bind,
                Option.bind_some, Option.some.injEq] at h
              rw [← h, ih hs, List.map_cons]

theorem Str.encode_eq_some_iff {s : Str} {t : String} :
    s.encode = some t ↔ s = Str.ofString t := by
  apply Iff.intro
  · intro h
    rcases Option.map_eq_some_iff.mp h with ⟨cs, hcs, rfl⟩
    rw [mapM_toChar?_eq_some hcs, Str.ofString, String.toList_ofList]
  · intro h
    rw [h, encode_ofString]

theorem Str.isSome_encode_iff {s : Str} :
    s.encode.isSome = true ↔ ∀ u ∈ s, ∃ c, u = CodePoint.scalar c := by
  rw [Option.isSome_iff_exists]
  apply Iff.intro
  · intro h u hu
    rcases h with ⟨t, ht⟩
    -- the `str` is the one of its encoding, which has characters only
    rw [encode_eq_some_iff.mp ht] at hu
    rcases List.mem_map.mp hu with ⟨c, _, rfl⟩
    exact ⟨c, rfl⟩
  · intro h
    induction s with
    | nil => exact ⟨"", rfl⟩
    | cons u s ih =>
        rcases h u List.mem_cons_self with ⟨c, rfl⟩
        rcases ih fun v hv => h v (List.mem_cons_of_mem _ hv) with ⟨t, ht⟩
        refine ⟨String.ofList (c :: t.toList), encode_eq_some_iff.mpr ?_⟩
        rw [encode_eq_some_iff.mp ht, ofString, ofString, String.toList_ofList, List.map_cons]

/-- `s.encode("utf-8")`, as bytes. -/
def utf8 (s : String) : List UInt8 := s.toList.flatMap String.utf8EncodeChar

theorem utf8_append (s t : String) : utf8 (s ++ t) = utf8 s ++ utf8 t := by
  rw [utf8, String.toList_append, List.flatMap_append]
  rfl

theorem utf8_injective : Function.Injective utf8 := by
  intro s t h
  have hbytes : ∀ s : String, s.toByteArray = (utf8 s).toByteArray :=
    fun s => String.utf8Encode_toList.symm
  rw [← String.toByteArray_inj, hbytes, hbytes, h]

def isAscii (s : String) : Bool := s.toList.all (fun c => c.toNat < 128)

/-- `hmac.compare_digest` on two `str` arguments: equality, defined on ASCII text only; `none` where
it raises `TypeError`. -/
def compareDigest (a b : String) : Option Bool :=
  if isAscii a && isAscii b then some (a == b) else none

theorem compareDigest_eq_some_true_iff {a b : String} :
    compareDigest a b = some true ↔ isAscii a = true ∧ a = b := by
  unfold compareDigest
  apply Iff.intro
  · intro h
    split at h
    · rename_i hascii
      rw [Bool.and_eq_true] at hascii
      exact ⟨hascii.1, by simpa using h⟩
    · cases h
  · rintro ⟨ha, rfl⟩
    simp [ha]

/-- `s.startswith(prefix)`. -/
def startsWith (s start : String) : Bool := start.toList.isPrefixOf s.toList

/-- `s[n:]`. -/
def dropChars (s : String) (n : Nat) : String := String.ofList (s.toList.drop n)

/-- `s.split(sep)[0]`. -/
def beforeFirst (s : String) (sep : Char) : String :=
  String.ofList (s.toList.takeWhile (fun c => c ≠ sep))

/-- `s.split(sep)[1]`, where `sep` occurs in `s`. -/
def secondPiece (s : String) (sep : Char) : String :=
  beforeFirst (String.ofList ((s.toList.dropWhile (fun c => c ≠ sep)).drop 1)) sep

section Pieces

variable {s : String} {sep : Char} (h : sep ∉ s.toList)

include h

theorem ne_of_not_mem_toList : ∀ c ∈ s.toList, decide (c ≠ sep) = true := by
  intro c hc
  exact decide_eq_true fun heq => h (heq ▸ hc)

theorem beforeFirst_append {t : String} (ht : t = "" ∨ t.toList.head? = some sep) :
    beforeFirst (s ++ t) sep = s := by
  have hhead : t.toList.takeWhile (fun c => c ≠ sep) = [] := by
    rcases ht with rfl | ht
    · rfl
    · cases hcs : t.toList with
      | nil => rfl
      | cons c cs =>
          rw [hcs] at ht
          cases ht
          simp
  rw [beforeFirst, String.toList_append, List.takeWhile_append_of_pos (ne_of_not_mem_toList h),
    hhead, List.append_nil, String.ofList_toList]

theorem beforeFirst_of_not_mem : beforeFirst s sep = s := by
  have happend := beforeFirst_append h (.inl (rfl : "" = ""))
  rwa [String.append_empty] at happend

theorem secondPiece_behind {t : String} {rest : String} (ht : t.toList = sep :: rest.toList) :
    secondPiece (s ++ t) sep = beforeFirst rest sep := by
  rw [secondPiece, String.toList_append, List.dropWhile_append_of_pos (ne_of_not_mem_toList h), ht,
    List.dropWhile_cons_of_neg (by simp), List.drop_one, List.tail_cons, String.ofList_toList]

theorem secondPiece_append {t : String} {rest : String} (ht : t.toList = sep :: rest.toList)
    (hrest : sep ∉ rest.toList) : secondPiece (s ++ t) sep = rest := by
  rw [secondPiece_behind h ht, beforeFirst_of_not_mem hrest]

end Pieces

end Python
