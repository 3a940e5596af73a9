import LanAgent.Python.Json

/-!
# `ipaddress.IPv4Address` and `str.strip`

Dotted-quad addresses as numbers below `2 ^ 32`: the parser with its refusals (four octets, ASCII
digits only, at most three of them, no leading zero, at most 255) and the text of an address.
-/

namespace Python

/-- The characters `str.isspace` accepts. -/
def isWhitespace (c : Char) : Bool :=
  let n := c.toNat
  (9 ≤ n && n ≤ 13) || (28 ≤ n && n ≤ 32) || n = 0x85 || n = 0xA0 || n = 0x1680 ||
    (0x2000 ≤ n && n ≤ 0x200A) || n = 0x2028 || n = 0x2029 || n = 0x202F || n = 0x205F ||
    n = 0x3000

def strip (s : String) : String :=
  String.ofList (((s.toList.dropWhile isWhitespace).reverse.dropWhile isWhitespace).reverse)

/-- `IPv4Address._parse_octet`. -/
def parseOctet (octet : List Char) : Option Nat :=
  if octet.isEmpty then none
  else if !octet.all Char.isDigit then none
  else if 3 < octet.length then none
  -- a leading zero could mean an octal number
  else if octet ≠ ['0'] ∧ octet.head? = some '0' then none
  else if 255 < digitsValue octet then none
  else some (digitsValue octet)

/-- `int(ipaddress.IPv4Address(text))`; `none` is `AddressValueError`. -/
def parseIPv4 (text : String) : Option Nat :=
  match text.toList.splitOn '.' with
  | [a, b, c, d] => do
      return (((← parseOctet a) * 256 + (← parseOctet b)) * 256 + (← parseOctet c)) * 256 +
        (← parseOctet d)
  | _ => none

/-- `str(ipaddress.IPv4Address(n))`. -/
def formatIPv4 (n : Nat) : String :=
  toString (n / 16777216) ++ "." ++ toString (n / 65536 % 256) ++ "." ++
    toString (n / 256 % 256) ++ "." ++ toString (n % 256)

example : parseIPv4 "192.168.1.20" = some 3232235796 ∧ formatIPv4 3232235796 = "192.168.1.20" ∧
    parseIPv4 "10.0.0.01" = none := by decide

end Python
