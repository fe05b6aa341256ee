import EmbedScaffold.Text.Basic

/-!
# Base 64

Bytes as text: three bytes become four characters, each of which carries six bits.
-/

namespace EmbedScaffold.Text

def sixBitChar (value : Nat) : Char :=
  if value < 26 then Char.ofNat ('A'.toNat + value)
  else if value < 52 then Char.ofNat ('a'.toNat + (value - 26))
  else if value < 62 then Char.ofNat ('0'.toNat + (value - 52))
  else if value = 62 then '+'
  else '/'

/-- The text of bytes; equals signs fill up the last four characters. -/
def base64 : List UInt8 → Text
  | first :: second :: third :: rest =>
      let bits := first.toNat * 65536 + second.toNat * 256 + third.toNat
      sixBitChar (bits / 262144) :: sixBitChar (bits / 4096 % 64) ::
        sixBitChar (bits / 64 % 64) :: sixBitChar (bits % 64) :: base64 rest
  | [first, second] =>
      let bits := first.toNat * 1024 + second.toNat * 4
      [sixBitChar (bits / 4096), sixBitChar (bits / 64 % 64), sixBitChar (bits % 64), '=']
  | [first] =>
      let bits := first.toNat * 16
      [sixBitChar (bits / 64), sixBitChar (bits % 64), '=', '=']
  | [] => []

/-! ## Reading -/

/-- The six bits that a character carries. -/
def sixBits? (carrier : Char) : Option Nat :=
  (List.range 64).find? fun value => sixBitChar value = carrier

/-- The bytes that a text of base 64 stands for. -/
def ofBase64? : Text → Option (List UInt8)
  | [] => some []
  | [first, second, '=', '='] => do
      let bits := (← sixBits? first) * 64 + (← sixBits? second)
      some [(bits / 16).toUInt8]
  | [first, second, third, '='] => do
      let bits := ((← sixBits? first) * 64 + (← sixBits? second)) * 64 + (← sixBits? third)
      some [(bits / 1024).toUInt8, (bits / 4 % 256).toUInt8]
  | first :: second :: third :: fourth :: rest => do
      let high := (← sixBits? first) * 64 + (← sixBits? second)
      let low := (← sixBits? third) * 64 + (← sixBits? fourth)
      let bits := high * 4096 + low
      let others ← ofBase64? rest
      some ((bits / 65536).toUInt8 :: (bits / 256 % 256).toUInt8 :: (bits % 256).toUInt8 :: others)
  | _ => none

end EmbedScaffold.Text
