import DiagnosticReport.Text.Utf8

/-!
# Percent escapes

A byte of a URI can be written as `%` with two hexadecimal digits.  Decoding
leaves a `%` alone that has no two digits behind it.
-/

set_option autoImplicit false

namespace DiagnosticReport.Uri

/-- The value of a hexadecimal digit, given as a byte. -/
def hexByteValue? (digit : UInt8) : Option UInt8 :=
  if 0x30 ≤ digit && digit ≤ 0x39 then some (digit - 0x30)
  else if 0x41 ≤ digit && digit ≤ 0x46 then some (digit - 0x41 + 10)
  else if 0x61 ≤ digit && digit ≤ 0x66 then some (digit - 0x61 + 10)
  else none

/-- The byte of an escape, given its two digits. -/
def escapedByte? (high low : UInt8) : Option UInt8 := do
  let high ← hexByteValue? high
  let low ← hexByteValue? low
  return high * 16 + low

/-- The bytes with their escapes replaced. -/
def percentDecodeBytes : List UInt8 → List UInt8
  | [] => []
  | 0x25 :: high :: low :: rest =>
      match escapedByte? high low with
      | some byte => byte :: percentDecodeBytes rest
      | none => 0x25 :: percentDecodeBytes (high :: low :: rest)
  | byte :: rest => byte :: percentDecodeBytes rest

/-- The bytes that a text with escapes stands for. -/
def percentDecode (text : List Char) : List UInt8 :=
  percentDecodeBytes (Text.Utf8.encode text)

end DiagnosticReport.Uri
