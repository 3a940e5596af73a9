import LanAgent.Go.Json

/-!
# `json.Unmarshal`

The values Go's `encoding/json` decodes, and the way it fills the fields of a struct with them.  The
literals of strings and numbers have one grammar in Go and in Python, so their scanners are used
here; what Go makes of them is its own.
-/

namespace Go

open Python

/-! ## Values -/

/-- A decoded value, as far as a field can take it; the members of an object are all kept, in their
order. -/
inductive JsonValue where
  | null
  | bool (b : Bool)
  /-- A literal without fraction and exponent. -/
  | int (n : Int)
  /-- Any other number, `± digits · 10 ^ exponent`. -/
  | real (negative : Bool) (digits : Nat) (exponent : Int)
  | text (s : String)
  | array (items : List JsonValue)
  | object (members : List (String × JsonValue))

/-- A surrogate that is half of no pair is replaced. -/
def replaceSurrogate : CodePoint → Char
  | .scalar c => c
  | .surrogate _ => '\uFFFD'

/-- A string behind its opening quote. -/
def decodeText (cs : List Char) : Option (String × List Char) :=
  match scanString cs with
  | .error _ => none
  | .ok (s, rest) => some (String.ofList (s.map replaceSurrogate), rest)

/-- The decoder has no `NaN` and no `Infinity`. -/
def decodeNumber (cs : List Char) : Option (JsonValue × List Char) :=
  match scanInteger cs with
  | none => none
  | some (negative, digits, rest) =>
      match scanFraction rest, scanExponent (scanFraction rest).2 with
      | ([], _), (none, rest) =>
          some (.int (if negative then -(digitsValue digits : Int) else digitsValue digits), rest)
      | (fraction, _), (exponent, rest) =>
          some (.real negative (digitsValue (digits ++ fraction))
            (exponent.getD 0 - fraction.length), rest)

def decodeAtom (cs : List Char) : Option (JsonValue × List Char) :=
  match cs with
  | 'n' :: 'u' :: 'l' :: 'l' :: rest => some (.null, rest)
  | 't' :: 'r' :: 'u' :: 'e' :: rest => some (.bool true, rest)
  | 'f' :: 'a' :: 'l' :: 's' :: 'e' :: rest => some (.bool false, rest)
  | _ => decodeNumber cs

section Containers

variable (decode : List Char → Option (JsonValue × List Char))

def decodeItems : Nat → List JsonValue → List Char → Option (JsonValue × List Char)
  | 0, _, _ => none
  | fuel + 1, items, cs =>
      match decode cs with
      | none => none
      | some (value, rest) =>
          match skipSpace rest with
          | ']' :: rest => some (.array (items ++ [value]), rest)
          | ',' :: rest => decodeItems fuel (items ++ [value]) (skipSpace rest)
          | _ => none

def decodeArray (cs : List Char) : Option (JsonValue × List Char) :=
  match skipSpace cs with
  | ']' :: rest => some (.array [], rest)
  | cs => decodeItems decode (cs.length + 1) [] cs

def decodeMembers :
    Nat → List (String × JsonValue) → List Char → Option (JsonValue × List Char)
  | fuel + 1, members, '"' :: cs =>
      match decodeText cs with
      | none => none
      | some (key, rest) =>
          match skipSpace rest with
          | ':' :: rest =>
              match decode (skipSpace rest) with
              | none => none
              | some (value, rest) =>
                  match skipSpace rest with
                  | '}' :: rest => some (.object (members ++ [(key, value)]), rest)
                  | ',' :: rest => decodeMembers fuel (members ++ [(key, value)]) (skipSpace rest)
                  | _ => none
          | _ => none
  | _, _, _ => none

def decodeObject (cs : List Char) : Option (JsonValue × List Char) :=
  match skipSpace cs with
  | '}' :: rest => some (.object [], rest)
  | cs => decodeMembers decode (cs.length + 1) [] cs

end Containers

/-- `nested` decodes inside a container; it is `none` where no container may be opened. -/
def decodeValue (nested : Option (List Char → Option (JsonValue × List Char))) (cs : List Char) :
    Option (JsonValue × List Char) :=
  match cs, nested with
  | '"' :: rest, _ => (decodeText rest).map (fun (s, rest) => (.text s, rest))
  | '{' :: rest, some decode => decodeObject decode rest
  | '[' :: rest, some decode => decodeArray decode rest
  | _, _ => decodeAtom cs

def decodeOnce : Nat → List Char → Option (JsonValue × List Char)
  | 0 => decodeValue none
  | depth + 1 => decodeValue (some (decodeOnce depth))

def maxNestingDepth : Nat := 10000

/-- The value of a whole text; `none` is a `SyntaxError`. -/
def decode (text : String) : Option JsonValue :=
  match decodeOnce maxNestingDepth (skipSpace text.toList) with
  | none => none
  | some (value, rest) => if skipSpace rest = [] then some value else none

/-! ## Fields of a struct -/

/-- Letters under the folding that compares a key with the name of a field; `ſ` and the Kelvin sign
fold to letters of ASCII. -/
def foldKeyChar (c : Char) : Char :=
  if c = '\u017F' then 's' else if c = '\u212A' then 'k' else c.toLower

/-- The values an object has for a field, the last one of them to count. -/
def fieldValues (members : List (String × JsonValue)) (name : String) : List JsonValue :=
  (members.filter fun m => m.1.toList.map foldKeyChar = name.toList.map foldKeyChar).map Prod.snd

/-- A key that is a spelling of no other has one value. -/
theorem fieldValues_of_nodup {members : List (String × JsonValue)}
    (hnodup : (members.map fun m => m.1.toList.map foldKeyChar).Nodup) {key : String}
    {value : JsonValue} (h : (key, value) ∈ members) : fieldValues members key = [value] := by
  unfold fieldValues
  induction members with
  | nil => cases h
  | cons member members ih =>
      rw [List.map_cons, List.nodup_cons] at hnodup
      rw [List.filter_cons]
      rcases List.mem_cons.mp h with rfl | h
      · have hnone : members.filter (fun m => m.1.toList.map foldKeyChar =
            key.toList.map foldKeyChar) = [] := by
          rw [List.filter_eq_nil_iff]
          intro m hm heq
          exact hnodup.1 (of_decide_eq_true heq ▸ List.mem_map_of_mem hm)
        rw [hnone]
        simp
      · have hother : member.1.toList.map foldKeyChar ≠ key.toList.map foldKeyChar :=
          fun heq => hnodup.1 (heq ▸ List.mem_map_of_mem h)
        rw [if_neg (by simpa using hother)]
        exact ih hnodup.2 h

/-- A field after the values decoded into it, and whether none of them was of another type. -/
def decodeField {α : Type} (read : JsonValue → Option α) (zero : α) (values : List JsonValue) :
    α × Bool :=
  values.foldl (fun (field, ok) value =>
    match value with
    -- `null` leaves the field as it is
    | .null => (field, ok)
    | value =>
        match read value with
        | some field => (field, ok)
        | none => (field, false)) (zero, true)

def JsonValue.readText : JsonValue → Option String
  | .text s => some s
  | _ => none

def JsonValue.readInt : JsonValue → Option Int
  | .int n => some n
  | _ => none

end Go
