/-!
# UTF-8

Characters to bytes (`encode`), and bytes back to characters by a machine that
reads one byte at a time.  The machine marks what is no character: a byte that
cannot start one, and a start whose continuation breaks off, which is marked once
and does not swallow the byte that breaks it.  `decode?` refuses a text with a
mark, `decodeLossy` puts U+FFFD in its place.
-/

set_option autoImplicit false

namespace DiagnosticReport.Text.Utf8

/-- The bytes of one character. -/
def encodeCharacter (character : Char) : List UInt8 :=
  let code := character.toNat
  if code < 0x80 then [.ofNat code]
  else if code < 0x800 then [.ofNat (0xC0 + code / 0x40), .ofNat (0x80 + code % 0x40)]
  else if code < 0x10000 then
    [.ofNat (0xE0 + code / 0x1000), .ofNat (0x80 + code / 0x40 % 0x40),
      .ofNat (0x80 + code % 0x40)]
  else
    [.ofNat (0xF0 + code / 0x40000), .ofNat (0x80 + code / 0x1000 % 0x40),
      .ofNat (0x80 + code / 0x40 % 0x40), .ofNat (0x80 + code % 0x40)]

/-- The bytes of a text. -/
def encode (text : List Char) : List UInt8 := text.flatMap encodeCharacter

/-- A character of which some bytes have been read. -/
structure Pending where
  /-- How many bytes are still owed. -/
  owed : Nat
  /-- The least value of the next byte. -/
  least : Nat := 0x80
  /-- The greatest value of the next byte. -/
  greatest : Nat := 0xBF
  value : Nat
  deriving DecidableEq, Repr

/-- Reads a byte between two characters. -/
def startCharacter (byte : UInt8) : List (Option Char) × Option Pending :=
  let code := byte.toNat
  if code < 0x80 then ([some (Char.ofNat code)], none)
  else if 0xC2 ≤ code && code ≤ 0xDF then ([], some { owed := 1, value := code - 0xC0 })
  else if code == 0xE0 then ([], some { owed := 2, least := 0xA0, value := 0 })
  else if code == 0xED then ([], some { owed := 2, greatest := 0x9F, value := 0xD })
  else if 0xE1 ≤ code && code ≤ 0xEF then ([], some { owed := 2, value := code - 0xE0 })
  else if code == 0xF0 then ([], some { owed := 3, least := 0x90, value := 0 })
  else if 0xF1 ≤ code && code ≤ 0xF3 then ([], some { owed := 3, value := code - 0xF0 })
  else if code == 0xF4 then ([], some { owed := 3, greatest := 0x8F, value := 4 })
  else ([none], none)

/-- Reads a byte within a character. -/
def continueCharacter (pending : Pending) (byte : UInt8) :
    List (Option Char) × Option Pending :=
  let code := byte.toNat
  if pending.least ≤ code && code ≤ pending.greatest then
    let value := pending.value * 0x40 + (code - 0x80)
    if pending.owed ≤ 1 then ([some (Char.ofNat value)], none)
    else ([], some { owed := pending.owed - 1, value })
  else
    let (read, next) := startCharacter byte
    (none :: read, next)

/-- The characters of a list of bytes, with `none` for what is no character. -/
def decodeFrom : Option Pending → List UInt8 → List (Option Char)
  | none, [] => []
  | some _, [] => [none]
  | none, byte :: rest =>
      let (read, next) := startCharacter byte
      read ++ decodeFrom next rest
  | some pending, byte :: rest =>
      let (read, next) := continueCharacter pending byte
      read ++ decodeFrom next rest

/-- The text of a list of bytes, if all of it is UTF-8. -/
def decode? (bytes : List UInt8) : Option (List Char) := (decodeFrom none bytes).mapM id

/-- The text of a list of bytes, with U+FFFD for what is not UTF-8. -/
def decodeLossy (bytes : List UInt8) : List Char :=
  (decodeFrom none bytes).map fun read => read.getD '\ufffd'

end DiagnosticReport.Text.Utf8
