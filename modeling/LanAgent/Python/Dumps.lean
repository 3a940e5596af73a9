import LanAgent.Python.Json

/-!
# `json.dumps`

The encoder of Python's `json` module with its default options: ASCII only, a blank behind every
comma and colon, and the three constants JSON does not have for the floats that are no numbers.  A
float is written as a literal of the same double.
-/

namespace Python

/-! ## Texts -/

/-- `\uXXXX`. -/
def hexUnit (n : Nat) : List Char :=
  ['\\', 'u', Nat.digitChar (n / 0x1000 % 16), Nat.digitChar (n / 0x100 % 16),
    Nat.digitChar (n / 0x10 % 16), Nat.digitChar (n % 16)]

/-- A character under `ensure_ascii`. -/
def asciiChar (c : Char) : List Char :=
  if c = '"' ∨ c = '\\' then ['\\', c]
  else if c = '\n' then ['\\', 'n']
  else if c = '\r' then ['\\', 'r']
  else if c = '\t' then ['\\', 't']
  else if c = '\x0c' then ['\\', 'f']
  else if c = '\x08' then ['\\', 'b']
  else if 0x20 ≤ c.toNat ∧ c.toNat ≤ 0x7e then [c]
  else if c.toNat < 0x10000 then hexUnit c.toNat
  -- two surrogates for a character beyond U+FFFF
  else hexUnit (0xD800 + (c.toNat - 0x10000) / 0x400) ++
    hexUnit (0xDC00 + (c.toNat - 0x10000) % 0x400)

def asciiCodePoint : CodePoint → List Char
  | .scalar c => asciiChar c
  | .surrogate n => hexUnit (0xD800 + n.val)

def dumpsText (s : Str) : List Char := '"' :: (s.flatMap asciiCodePoint ++ ['"'])

/-! ## Floats -/

/-- A decimal whose nearest double is a number: it lies below the midpoint of the greatest double
and `2 ^ 1024`. -/
def Float.isFinite : Float → Bool
  | .nan => false
  | .infinity _ => false
  | .decimal _ digits exponent =>
      decide (digits * 10 ^ exponent.toNat < (2 ^ 1024 - 2 ^ 970) * 10 ^ (-exponent).toNat)

/-- `n / d` to the nearest integer, and to the even one of two that are as near. -/
def roundHalfEven (n d : Nat) : Nat :=
  if 2 * (n % d) < d ∨ (2 * (n % d) = d ∧ n / d % 2 = 0) then n / d else n / d + 1

/-- The double nearest to `digits · 10 ^ exponent`, in units of the least positive one, `2 ^ -1074`:
53 bits are kept. -/
def nearestDouble (digits : Nat) (exponent : Int) : Nat :=
  let n := digits * 10 ^ exponent.toNat * 2 ^ 1074
  let d := 10 ^ (-exponent).toNat
  let lastPlace := 2 ^ (Nat.log2 (n / d) - 52)
  roundHalfEven n (d * lastPlace) * lastPlace

example : nearestDouble 9007199254740993 0 = 9007199254740992 * 2 ^ 1074 := by decide +kernel

/-- The finite double of a literal: its sign and its magnitude. -/
def Float.double : Float → Option (Bool × Nat)
  | .decimal negative digits exponent => some (negative, nearestDouble digits exponent)
  | _ => none

/-- The literal of a double: a whole part without leading zeros, and a fraction or an exponent. -/
structure FloatLiteral where
  negative : Bool
  whole : List Char
  fraction : List Char
  exponent : List Char
  whole_digits : ∀ c ∈ whole, c.isDigit = true
  whole_head : whole = ['0'] ∨ (whole ≠ [] ∧ whole.head? ≠ some '0')
  fraction_shape : fraction = [] ∨ ∃ ds, fraction = '.' :: ds ∧ ds ≠ [] ∧ ∀ c ∈ ds, c.isDigit = true
  exponent_shape : exponent = [] ∨ ∃ sign ds, exponent = 'e' :: sign :: ds ∧
    (sign = '-' ∨ sign = '+') ∧ ds ≠ [] ∧ ∀ c ∈ ds, c.isDigit = true
  not_whole : fraction ≠ [] ∨ exponent ≠ []

def FloatLiteral.text (literal : FloatLiteral) : List Char :=
  (if literal.negative then ['-'] else []) ++ literal.whole ++ literal.fraction ++ literal.exponent

def exponentValue : List Char → Int
  | _ :: '-' :: ds => -(digitsValue ds : Int)
  | _ :: _ :: ds => digitsValue ds
  | _ => 0

def FloatLiteral.digits (literal : FloatLiteral) : Nat :=
  digitsValue (literal.whole ++ literal.fraction.tail)

def FloatLiteral.scale (literal : FloatLiteral) : Int :=
  exponentValue literal.exponent - literal.fraction.tail.length

/-- `float(text)` of the literal. -/
def FloatLiteral.value (literal : FloatLiteral) : Float :=
  .decimal literal.negative literal.digits literal.scale

/-- `float.__repr__` of the finite doubles: a literal of the same double.  It is the shortest one.
-/
structure FloatRepr where
  shortest : Float → FloatLiteral
  denotes : ∀ x, x.isFinite = true → (shortest x).value.double = x.double

/-- `float.__repr__` as the encoder uses it; `shortest` is the literal of a finite double. -/
def dumpsFloat (shortest : Float → FloatLiteral) (x : Float) : List Char :=
  if x.isFinite then (shortest x).text
  else
    match x with
    | .nan => "NaN".toList
    | .infinity negative => if negative then "-Infinity".toList else "Infinity".toList
    | .decimal negative _ _ => if negative then "-Infinity".toList else "Infinity".toList

/-! ## Values -/

section Values

variable (shortest : Float → FloatLiteral)

mutual

def dumpsValue : Json → List Char
  | .null => "null".toList
  | .bool true => "true".toList
  | .bool false => "false".toList
  | .int n => (toString n).toList
  | .float x => dumpsFloat shortest x
  | .str s => dumpsText s
  | .arr items => '[' :: dumpsItems items
  | .obj members => '{' :: dumpsMembers members
termination_by structural value => value

def dumpsItems : List Json → List Char
  | [] => [']']
  | value :: rest => dumpsValue value ++ dumpsMoreItems rest
termination_by structural items => items

def dumpsMoreItems : List Json → List Char
  | [] => [']']
  | value :: rest => ',' :: ' ' :: (dumpsValue value ++ dumpsMoreItems rest)
termination_by structural items => items

def dumpsMembers : List (Str × Json) → List Char
  | [] => ['}']
  | member :: rest => dumpsMember member ++ dumpsMoreMembers rest
termination_by structural members => members

def dumpsMoreMembers : List (Str × Json) → List Char
  | [] => ['}']
  | member :: rest => ',' :: ' ' :: (dumpsMember member ++ dumpsMoreMembers rest)
termination_by structural members => members

def dumpsMember : Str × Json → List Char
  | (key, value) => dumpsText key ++ ':' :: ' ' :: dumpsValue value
termination_by structural member => member

end

/-- `json.dumps(value)`, where it returns. -/
def dumps (value : Json) : String := String.ofList (dumpsValue shortest value)

end Values

/-! ## What can be written -/

section Scalars

variable (p : Json → Bool)

mutual

/-- The scalars of a value meet `p`, and its keys as texts. -/
def scalars : Json → Bool
  | .arr items => scalarsItems items
  | .obj members => scalarsMembers members
  | value => p value
termination_by structural value => value

def scalarsItems : List Json → Bool
  | [] => true
  | value :: rest => scalars value && scalarsItems rest
termination_by structural items => items

def scalarsMembers : List (Str × Json) → Bool
  | [] => true
  | member :: rest => scalarsMember member && scalarsMembers rest
termination_by structural members => members

def scalarsMember : Str × Json → Bool
  | (key, value) => p (.str key) && scalars value
termination_by structural member => member

end

variable {p}

theorem scalarsItems_iff {items : List Json} :
    scalarsItems p items = true ↔ ∀ value ∈ items, scalars p value = true := by
  induction items with
  | nil => exact iff_of_true rfl fun _ hvalue => absurd hvalue List.not_mem_nil
  | cons value items ih => rw [scalarsItems, Bool.and_eq_true, ih, List.forall_mem_cons]

theorem scalarsMembers_iff {members : List (Str × Json)} : scalarsMembers p members = true ↔
    ∀ member ∈ members, p (.str member.1) = true ∧ scalars p member.2 = true := by
  induction members with
  | nil => exact iff_of_true rfl fun _ hmember => absurd hmember List.not_mem_nil
  | cons member members ih =>
      obtain ⟨key, value⟩ := member
      rw [scalarsMembers, Bool.and_eq_true, ih, List.forall_mem_cons, scalarsMember,
        Bool.and_eq_true]

end Scalars

mutual

/-- How deep the containers of a value are nested. -/
def nesting : Json → Nat
  | .arr items => nestingItems items + 1
  | .obj members => nestingMembers members + 1
  | _ => 0
termination_by structural value => value

def nestingItems : List Json → Nat
  | [] => 0
  | value :: rest => max (nesting value) (nestingItems rest)
termination_by structural items => items

def nestingMembers : List (Str × Json) → Nat
  | [] => 0
  | member :: rest => max (nestingMember member) (nestingMembers rest)
termination_by structural members => members

def nestingMember : Str × Json → Nat
  | (_, value) => nesting value
termination_by structural member => member

end

theorem nestingItems_le_iff {items : List Json} {depth : Nat} :
    nestingItems items ≤ depth ↔ ∀ value ∈ items, nesting value ≤ depth := by
  induction items with
  | nil =>
      exact iff_of_true (Nat.zero_le depth) fun _ hvalue => absurd hvalue List.not_mem_nil
  | cons value items ih => rw [nestingItems, Nat.max_le, ih, List.forall_mem_cons]

theorem nestingMembers_le_iff {members : List (Str × Json)} {depth : Nat} :
    nestingMembers members ≤ depth ↔ ∀ member ∈ members, nesting member.2 ≤ depth := by
  induction members with
  | nil =>
      exact iff_of_true (Nat.zero_le depth) fun _ hmember => absurd hmember List.not_mem_nil
  | cons member members ih =>
      obtain ⟨key, value⟩ := member
      rw [nestingMembers, Nat.max_le, ih, List.forall_mem_cons]
      exact Iff.rfl

/-- `str(n)` raises for an integer with too many digits. -/
def printable : Json → Bool
  | .int n => (Nat.toDigits 10 n.natAbs).length ≤ intMaxStrDigits
  | _ => true

/-- `json.dumps(value)`; `none` is a `RecursionError` or the `ValueError` of an integer. -/
def dumps? (shortest : Float → FloatLiteral) (limit : Nat) (value : Json) : Option String :=
  if nesting value ≤ limit ∧ scalars printable value = true then some (dumps shortest value)
  else none

end Python
