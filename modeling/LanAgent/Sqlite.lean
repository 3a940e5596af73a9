import LanAgent.Python.Json

/-!
# SQLite columns — bound parameters and column affinity

What happens to a Python value on its way into a column: the driver binds it or raises, then the
affinity of the column may convert it.  The conversions between numbers and text are SQLite's own;
`ColumnAffinity` is the parameter that stands for them.
-/

namespace Sqlite

open Python

inductive Value where
  | null
  | integer (n : Int)
  | real (x : Python.Float)
  | text (s : String)
  deriving DecidableEq, Repr

def Value.isNumber : Value → Bool
  | .integer _ => true
  | .real _ => true
  | _ => false

inductive BindError where
  /-- `OverflowError`: an integer beyond 64 bits. -/
  | overflow
  /-- `UnicodeEncodeError`: a string with a lone surrogate. -/
  | unicode
  /-- `InterfaceError`: a list or a `dict`. -/
  | unsupported
  deriving DecidableEq, Repr

/-- `column.in_(values)` binds each value, and SQLite refuses a statement with more than `limit`
parameters (`SQLITE_MAX_VARIABLE_NUMBER`, which each build of SQLite sets for itself). -/
abbrev TooManyVariables {α : Type*} (limit : Nat) (values : List α) : Prop := limit < values.length

/-- `a < b` of two texts: their UTF-8 bytes compare as their code points do. -/
def textLess (a b : String) : Bool := decide (a.toList < b.toList)

theorem textLess_iff {a b : String} : textLess a b = true ↔ a.toList < b.toList :=
  decide_eq_true_iff

/-- The integers SQLite stores, 64 bits with a sign. -/
def fitsInt64 (n : Int) : Bool := -0x8000000000000000 ≤ n && n < 0x8000000000000000

def bind : Json → Except BindError Value
  | .null => .ok .null
  -- `bool` is a subclass of `int`
  | .bool b => .ok (.integer (if b then 1 else 0))
  | .int n => if fitsInt64 n then .ok (.integer n) else .error .overflow
  -- SQLite has no NaN: it stores NULL
  | .float .nan => .ok .null
  | .float x => .ok (.real x)
  | .str s =>
      match s.encode with
      | some text => .ok (.text text)
      | none => .error .unicode
  | .arr _ => .error .unsupported
  | .obj _ => .error .unsupported

def bindable : Json → Bool
  | .int n => fitsInt64 n
  | .str s => s.encode.isSome
  | .arr _ => false
  | .obj _ => false
  | _ => true

theorem bindable_iff {value : Json} : bindable value = true ↔ ∃ v, bind value = .ok v := by
  cases value with
  | int n => cases h : fitsInt64 n <;> simp [bindable, bind, h]
  | float x => cases x <;> simp [bindable, bind]
  | str s => cases h : s.encode <;> simp [bindable, bind, h]
  | _ => simp [bindable, bind]

def storesNull : Json → Bool
  | .null => true
  | .float .nan => true
  | _ => false

/-- SQLite's conversions between text and numbers. -/
structure ColumnAffinity where
  realText : Python.Float → String
  /-- The integer a real is in an INTEGER column, when nothing is lost. -/
  realInteger : Python.Float → Option Int
  textInteger : String → Option Int
  /-- The text of a real starts with a digit, a minus sign or the `I` of `Inf`. -/
  realText_head : ∀ x, ∃ c cs, (realText x).toList = c :: cs ∧ (c.isDigit ∨ c = '-' ∨ c = 'I')

namespace ColumnAffinity

variable (affinity : ColumnAffinity)

/-- A value stored in a TEXT column; `none` is NULL. -/
def text : Value → Option String
  | .null => none
  | .integer n => some (toString n)
  | .real x => some (affinity.realText x)
  | .text s => some s

def integer : Value → Value
  | .real x =>
      match affinity.realInteger x with
      | some n => .integer n
      | none => .real x
  | .text s =>
      match affinity.textInteger s with
      | some n => .integer n
      | none => .text s
  | v => v

@[simp] theorem text_text (s : String) : affinity.text (.text s) = some s := rfl

theorem text_eq_none_iff {value : Json} {v : Value} (h : bind value = .ok v) :
    affinity.text v = none ↔ storesNull value = true := by
  cases value with
  | null =>
      cases h
      exact iff_of_true rfl rfl
  | bool b =>
      cases h
      exact iff_of_false (Option.some_ne_none _) Bool.false_ne_true
  | int n =>
      rw [bind] at h
      split at h
      · cases h
        exact iff_of_false (Option.some_ne_none _) Bool.false_ne_true
      · cases h
  | float x =>
      cases x with
      | nan =>
          cases h
          exact iff_of_true rfl rfl
      | _ =>
          cases h
          exact iff_of_false (Option.some_ne_none _) Bool.false_ne_true
  | str s =>
      cases hs : s.encode with
      | none => simp [bind, hs] at h
      | some t =>
          rw [bind, hs, Except.ok.injEq] at h
          rw [← h]
          exact iff_of_false (Option.some_ne_none _) Bool.false_ne_true
  | _ => cases h

theorem head_of_number {v : Value} {s : String} (hnumber : v.isNumber = true)
    (h : affinity.text v = some s) :
    ∃ c cs, s.toList = c :: cs ∧ (c.isDigit ∨ c = '-' ∨ c = 'I') := by
  cases v with
  | null => cases hnumber
  | text s => cases hnumber
  | real x =>
      rw [← Option.some.inj h]
      exact affinity.realText_head x
  | integer n =>
      rw [← Option.some.inj h]
      cases n with
      -- a negative integer begins with its sign, the others with a digit
      | negSucc n =>
          refine ⟨'-', (Nat.repr (n + 1)).toList, ?_, .inr (.inl rfl)⟩
          show ("-" ++ Nat.repr (n + 1)).toList = _
          rw [String.toList_append]
          rfl
      | ofNat n =>
          have hne : Nat.toDigits 10 n ≠ [] := Nat.toDigits_ne_nil
          cases hdigits : Nat.toDigits 10 n with
          | nil => exact absurd hdigits hne
          | cons c cs =>
              have hdigit : c.isDigit := Nat.isDigit_of_mem_toDigits (by decide) (by decide)
                (hdigits ▸ List.mem_cons_self)
              refine ⟨c, cs, ?_, .inl hdigit⟩
              show (Nat.repr n).toList = _
              simp [Nat.repr, hdigits]

end ColumnAffinity

/-- The storage class of a text column that is well typed. -/
def Value.isText : Value → Bool
  | .null => true
  | .text _ => true
  | _ => false

def Value.isInteger : Value → Bool
  | .null => true
  | .integer _ => true
  | _ => false

/-- A nullable text column written from a typed field. -/
def Value.ofText : Option String → Value
  | none => .null
  | some s => .text s

def Value.ofInteger : Option Int → Value
  | none => .null
  | some n => .integer n

@[simp] theorem Value.isText_ofText (s : Option String) : (Value.ofText s).isText = true := by
  cases s <;> rfl

@[simp] theorem Value.isInteger_ofInteger (n : Option Int) :
    (Value.ofInteger n).isInteger = true := by
  cases n <;> rfl

theorem bind_str_eq_ok {s : Str} {v : Value} (h : bind (.str s) = .ok v) :
    ∃ t, s.encode = some t ∧ v = .text t := by
  cases henc : s.encode with
  | none => simp [bind, henc] at h
  | some t =>
      simp only [bind, henc, Except.ok.injEq] at h
      exact ⟨t, rfl, h.symm⟩

theorem bind_eq_text {value : Json} {t : String} (h : bind value = .ok (.text t)) :
    value = .str (Str.ofString t) := by
  cases value with
  | str s =>
      rcases bind_str_eq_ok h with ⟨t', ht', heq⟩
      cases heq
      rw [Str.encode_eq_some_iff.mp ht']
  | int n =>
      rw [bind] at h
      split at h <;> cases h
  | float x => cases x <;> cases h
  | _ => cases h

/-! ## The conversions on plain literals -/

def plainSign (negative : Bool) (n : Nat) : Int := if negative then -(n : Int) else n

/-- An instance that agrees with SQLite on integers, on reals that are integers, and on the texts
that are plain decimal integers; other reals are not rendered the way SQLite does. -/
def ColumnAffinity.plain : ColumnAffinity where
  realText
    | .decimal _ digits exponent => toString digits ++ "e" ++ toString exponent
    | _ => "Inf"
  realInteger
    | .decimal negative digits exponent =>
        let scale := 10 ^ (-exponent).toNat
        if digits % scale = 0 then
          some (plainSign negative (digits / scale * 10 ^ exponent.toNat))
        else none
    | _ => none
  textInteger s :=
    match s.toList with
    | [] => none
    | c :: cs =>
        let digits := if c = '-' then cs else c :: cs
        if digits ≠ [] ∧ digits.all Char.isDigit then
          some (plainSign (c = '-') (digitsValue digits))
        else none
  realText_head x := by
    have hinf : ∃ c cs, "Inf".toList = c :: cs ∧ (c.isDigit ∨ c = '-' ∨ c = 'I') :=
      ⟨'I', ['n', 'f'], rfl, .inr (.inr rfl)⟩
    cases x with
    | nan => exact hinf
    | infinity => exact hinf
    | decimal negative digits exponent =>
        have hne : Nat.toDigits 10 digits ≠ [] := Nat.toDigits_ne_nil
        cases hdigits : Nat.toDigits 10 digits with
        | nil => exact absurd hdigits hne
        | cons c cs =>
            have hdigit : c.isDigit := Nat.isDigit_of_mem_toDigits (by decide) (by decide)
              (hdigits ▸ List.mem_cons_self)
            refine ⟨c, cs ++ "e".toList ++ (toString exponent).toList, ?_, .inl hdigit⟩
            simp [String.toList_append, Nat.repr, hdigits]

end Sqlite
