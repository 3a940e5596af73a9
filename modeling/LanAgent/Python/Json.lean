import LanAgent.Python.Text

/-!
# `json.loads`

The decoder of Python's `json` module: the values it builds, its scanner with the places where it
raises `ValueError` (`JSONDecodeError` is one) and the `RecursionError` it raises for containers
nested deeper than the interpreter's limit.  Floats are kept as the decimal they are the nearest
double of.
-/

namespace Python

/-- A Python `float`, by the literal it comes from: the double nearest to
`± digits · 10 ^ exponent`, or one of the constants `NaN`, `Infinity`, `-Infinity`. -/
inductive Float where
  | nan
  | infinity (negative : Bool)
  | decimal (negative : Bool) (digits : Nat) (exponent : Int)
  deriving DecidableEq, Repr

/-- `bool(x)`: false for the decimals that round to zero, those up to half the least subnormal
`2 ^ -1074`. -/
def Float.truthy : Float → Bool
  | .nan => true
  | .infinity _ => true
  | .decimal _ digits exponent =>
      digits ≠ 0 && decide (10 ^ (-exponent).toNat < digits * 10 ^ exponent.toNat * 2 ^ 1075)

/-- What `json.loads` returns.  A `dict` is the list of its items in insertion order. -/
inductive Json where
  | null
  | bool (b : Bool)
  | int (n : Int)
  | float (x : Float)
  | str (s : Str)
  | arr (items : List Json)
  | obj (items : List (Str × Json))

def Json.truthy : Json → Bool
  | .null => false
  | .bool b => b
  | .int n => n ≠ 0
  | .float x => x.truthy
  | .str s => !s.isEmpty
  | .arr items => !items.isEmpty
  | .obj items => !items.isEmpty

/-- `d[key]`, where the `dict` has the key. -/
def lookup (items : List (Str × Json)) (key : Str) : Option Json :=
  (items.find? (fun item => item.1 = key)).map Prod.snd

/-- `d.get(name, default)`. -/
def get (items : List (Str × Json)) (name : String) (default : Json := .null) : Json :=
  (lookup items (Str.ofString name)).getD default

/-- `d[key] = value`: a key that is there keeps its place. -/
def setItem (items : List (Str × Json)) (key : Str) (value : Json) : List (Str × Json) :=
  if items.any (fun item => item.1 = key) then
    items.map (fun item => if item.1 = key then (key, value) else item)
  else items ++ [(key, value)]

inductive LoadsError where
  | value
  | recursion
  deriving DecidableEq, Repr

/-- The digit limit of `int(text)`, `sys.int_info.default_max_str_digits`. -/
def intMaxStrDigits : Nat := 4300

/-- What a scanner returns: the value it read and the text behind it. -/
abbrev Scan (α : Type) := Except LoadsError (α × List Char)

/-! ## Strings -/

def isSpace (c : Char) : Bool := c = ' ' || c = '\t' || c = '\n' || c = '\r'

def skipSpace (cs : List Char) : List Char := cs.dropWhile isSpace

def hexDigit (c : Char) : Option Nat :=
  if '0' ≤ c ∧ c ≤ '9' then some (c.toNat - '0'.toNat)
  else if 'a' ≤ c ∧ c ≤ 'f' then some (c.toNat - 'a'.toNat + 10)
  else if 'A' ≤ c ∧ c ≤ 'F' then some (c.toNat - 'A'.toNat + 10)
  else none

/-- The UTF-16 code unit of four hexadecimal digits. -/
def codeUnit (a b c d : Char) : Option CodePoint := do
  let n := (((← hexDigit a) * 16 + (← hexDigit b)) * 16 + (← hexDigit c)) * 16 + (← hexDigit d)
  -- `\ud800` … `\udfff` stand for code points that are no characters
  if h : 0xD800 ≤ n ∧ n < 0xE000 then some (.surrogate ⟨n - 0xD800, by omega⟩)
  else some (.scalar (Char.ofNat n))

def escape : Char → Option Char
  | '"' => some '"'
  | '\\' => some '\\'
  | '/' => some '/'
  | 'b' => some '\x08'
  | 'f' => some '\x0c'
  | 'n' => some '\n'
  | 'r' => some '\r'
  | 't' => some '\t'
  | _ => none

/-- The text of a string literal behind its opening quote, with the escapes read one by one. -/
def scanUnits : List Char → Scan Str
  | [] => .error .value
  | '"' :: rest => .ok ([], rest)
  -- four digits are read behind `\u`, whatever they are
  | '\\' :: 'u' :: a :: b :: c :: d :: rest =>
      match codeUnit a b c d with
      | none => .error .value
      | some u => (scanUnits rest).map (fun (s, rest) => (u :: s, rest))
  | '\\' :: e :: rest =>
      match escape e with
      | none => .error .value
      | some c => (scanUnits rest).map (fun (s, rest) => (.scalar c :: s, rest))
  | c :: rest =>
      -- `strict`: control characters do not stand for themselves
      if c.toNat < 0x20 then .error .value
      else (scanUnits rest).map (fun (s, rest) => (.scalar c :: s, rest))

/-- A high surrogate and the low one behind it are one character; the others stay as they are. -/
def joinSurrogates : Str → Str
  | .surrogate high :: .surrogate low :: rest =>
      -- U+D800 … U+DBFF in front of U+DC00 … U+DFFF
      if high.val < 0x400 ∧ 0x400 ≤ low.val then
        .scalar (Char.ofNat (0x10000 + high.val * 0x400 + (low.val - 0x400))) ::
          joinSurrogates rest
      else .surrogate high :: joinSurrogates (.surrogate low :: rest)
  | c :: rest => c :: joinSurrogates rest
  | [] => []

def scanString (cs : List Char) : Scan Str :=
  (scanUnits cs).map (fun (s, rest) => (joinSurrogates s, rest))

/-! ## Numbers and constants -/

def digitsValue (ds : List Char) : Nat := ds.foldl (fun n d => n * 10 + (d.toNat - '0'.toNat)) 0

def digitRun (cs : List Char) : List Char × List Char := cs.span Char.isDigit

/-- `(-?(?:0|[1-9]\d*))`: the sign, the digits and the text behind them. -/
def scanInteger (cs : List Char) : Option (Bool × List Char × List Char) :=
  let (negative, cs) := match cs with
    | '-' :: rest => (true, rest)
    | _ => (false, cs)
  match cs with
  | '0' :: rest => some (negative, ['0'], rest)
  | _ =>
      match digitRun cs with
      | ([], _) => none
      | (ds, rest) => some (negative, ds, rest)

def scanFraction : List Char → List Char × List Char
  | '.' :: cs =>
      match digitRun cs with
      -- a point without digits is left to whoever comes next
      | ([], _) => ([], '.' :: cs)
      | (ds, rest) => (ds, rest)
  | cs => ([], cs)

def scanExponent : List Char → Option Int × List Char
  | e :: cs =>
      if e = 'e' ∨ e = 'E' then
        let (negative, ds) := match cs with
          | '-' :: rest => (true, rest)
          | '+' :: rest => (false, rest)
          | _ => (false, cs)
        match digitRun ds with
        -- the same of a letter without digits
        | ([], _) => (none, e :: cs)
        | (ds, rest) =>
            (some (if negative then -(digitsValue ds : Int) else digitsValue ds), rest)
      else (none, e :: cs)
  | [] => (none, [])

def scanNumber (cs : List Char) : Scan Json :=
  match scanInteger cs with
  | none => .error .value
  | some (negative, ds, rest) =>
      match scanFraction rest, scanExponent (scanFraction rest).2 with
      -- neither fraction nor exponent: `int`, which refuses too many digits
      | ([], _), (none, _) =>
          if intMaxStrDigits < ds.length then .error .value
          else .ok (.int (if negative then -(digitsValue ds : Int) else digitsValue ds), rest)
      | (fraction, _), (exponent, rest) =>
          .ok (.float (.decimal negative (digitsValue (ds ++ fraction))
            (exponent.getD 0 - fraction.length)), rest)

/-- A value that is neither a string nor a container. -/
def scanAtom (cs : List Char) : Scan Json :=
  match cs with
  | 'n' :: 'u' :: 'l' :: 'l' :: rest => .ok (.null, rest)
  | 't' :: 'r' :: 'u' :: 'e' :: rest => .ok (.bool true, rest)
  | 'f' :: 'a' :: 'l' :: 's' :: 'e' :: rest => .ok (.bool false, rest)
  -- the three constants that JSON itself does not have
  | 'N' :: 'a' :: 'N' :: rest => .ok (.float .nan, rest)
  | 'I' :: 'n' :: 'f' :: 'i' :: 'n' :: 'i' :: 't' :: 'y' :: rest =>
      .ok (.float (.infinity false), rest)
  | '-' :: 'I' :: 'n' :: 'f' :: 'i' :: 'n' :: 'i' :: 't' :: 'y' :: rest =>
      .ok (.float (.infinity true), rest)
  | _ => scanNumber cs

/-! ## Containers

`scan` reads the values inside the container.  Every round of a loop consumes text, so the length
of the text is enough fuel. -/

section Containers

variable (scan : List Char → Scan Json)

def scanItems : Nat → List Json → List Char → Scan Json
  | 0, _, _ => .error .value
  | fuel + 1, items, cs =>
      match scan cs with
      | .error e => .error e
      | .ok (value, rest) =>
          match skipSpace rest with
          | ']' :: rest => .ok (.arr (items ++ [value]), rest)
          -- behind a comma there must be a value: no comma at the end
          | ',' :: rest => scanItems fuel (items ++ [value]) (skipSpace rest)
          | _ => .error .value

def scanArray (cs : List Char) : Scan Json :=
  match skipSpace cs with
  | ']' :: rest => .ok (.arr [], rest)
  | cs => scanItems scan (cs.length + 1) [] cs

def scanMembers : Nat → List (Str × Json) → List Char → Scan Json
  | fuel + 1, items, '"' :: cs =>
      match scanString cs with
      | .error e => .error e
      | .ok (key, rest) =>
          match skipSpace rest with
          | ':' :: rest =>
              match scan (skipSpace rest) with
              | .error e => .error e
              | .ok (value, rest) =>
                  match skipSpace rest with
                  -- of members with one name the last one counts
                  | '}' :: rest => .ok (.obj (setItem items key value), rest)
                  | ',' :: rest => scanMembers fuel (setItem items key value) (skipSpace rest)
                  | _ => .error .value
          | _ => .error .value
  | _, _, _ => .error .value

def scanObject (cs : List Char) : Scan Json :=
  match skipSpace cs with
  | '}' :: rest => .ok (.obj [], rest)
  | cs => scanMembers scan (cs.length + 1) [] cs

end Containers

/-- `scan_once`: `nested` scans inside a container; it is `none` at the recursion limit. -/
def scanValue (nested : Option (List Char → Scan Json)) (cs : List Char) : Scan Json :=
  match cs, nested with
  | '"' :: rest, _ => (scanString rest).map (fun (s, rest) => (.str s, rest))
  -- at the limit the call for the container itself raises
  | '{' :: _, none => .error .recursion
  | '[' :: _, none => .error .recursion
  | '{' :: rest, some scan => scanObject scan rest
  | '[' :: rest, some scan => scanArray scan rest
  | _, _ => scanAtom cs

def scanOnce : Nat → List Char → Scan Json
  | 0 => scanValue none
  | depth + 1 => scanValue (some (scanOnce depth))

/-- `json.loads(text)`; `limit` is how many containers may be nested in each other. -/
def loads (limit : Nat) (text : String) : Except LoadsError Json :=
  match text.toList with
  -- a byte order mark
  | '\uFEFF' :: _ => .error .value
  | cs =>
      match scanOnce limit (skipSpace cs) with
      | .error e => .error e
      | .ok (value, rest) => if skipSpace rest = [] then .ok value else .error .value

theorem loads_empty (limit : Nat) : loads limit "" = .error .value := by
  cases limit <;> rfl

/-- The recursion limit counts nested containers: two fit, the third is refused. -/
example : (loads 2 "[[1, \"\\ud83d\\ude00\"]]").toBool = true ∧
    (loads 2 "[[[]]]").toBool = false := by decide +kernel

end Python
