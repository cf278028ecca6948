import ProjectTags.Text.Integer
import ProjectTags.Text.Utf8

/-!
# Bytes as hexadecimal text

Each byte is written with two digits.
-/

namespace ProjectTags.Bytes

/-- The small letter or digit of a number below sixteen. -/
def halfByte (n : Nat) : Char :=
  if n < 10 then Char.ofNat (48 + n) else Char.ofNat (87 + n)

/-- The digits of some bytes. -/
def toHexadecimal (bytes : Bytes) : Text :=
  bytes.flatMap fun b => [halfByte (b.toNat / 16), halfByte (b.toNat % 16)]

/-- The bytes of some digits. -/
def ofHexadecimal : Text → Bytes
  | high :: low :: rest => UInt8.ofNat (Text.valueIn 16 [high, low]) :: ofHexadecimal rest
  | _ => []

end ProjectTags.Bytes
