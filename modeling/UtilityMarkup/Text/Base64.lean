/-!
# Base64

Bytes as text, three bytes to four symbols, the last group filled up with `=`.
-/

namespace UtilityMarkup.Text.Base64

/-- The symbol of a number below 64. -/
def symbol (n : Nat) : Char :=
  if n < 26 then Char.ofNat ('A'.toNat + n)
  else if n < 52 then Char.ofNat ('a'.toNat + (n - 26))
  else if n < 62 then Char.ofNat ('0'.toNat + (n - 52))
  else if n = 62 then '+' else '/'

/-- Three bytes as one number. -/
def group (a b c : UInt8) : Nat :=
  (a.toNat <<< 16) + (b.toNat <<< 8) + c.toNat

/-- The first `count` of the four symbols of a 24-bit group. -/
def symbols (bits count : Nat) : List Char :=
  ([bits >>> 18, bits >>> 12, bits >>> 6, bits].take count).map fun n => symbol (n % 64)

def encodeChars : List UInt8 → List Char
  | [] => []
  | [a] => symbols (group a 0 0) 2 ++ ['=', '=']
  | [a, b] => symbols (group a b 0) 3 ++ ['=']
  | a :: b :: c :: rest => symbols (group a b c) 4 ++ encodeChars rest

def encode (bytes : List UInt8) : String :=
  .ofList (encodeChars bytes)

end UtilityMarkup.Text.Base64
