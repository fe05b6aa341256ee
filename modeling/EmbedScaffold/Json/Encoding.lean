import EmbedScaffold.Text.Utf8

/-!
# The encoding of JSON bytes

A JSON document begins with ASCII characters, so the zero bytes among its first four tell whether
its units have one, two or four bytes, and which byte comes first.
-/

namespace EmbedScaffold

/-- How characters are kept as bytes. -/
inductive JsonEncoding where
  | utf8
  | utf16 (bigEnd : Bool)
  | utf32 (bigEnd : Bool)
  deriving DecidableEq, Repr

namespace JsonEncoding

/-- The encoding that the first bytes of a document show. -/
def ofBytes : List UInt8 → JsonEncoding
  | [first, second] =>
      if first = 0 then .utf16 true else if second = 0 then .utf16 false else .utf8
  | first :: second :: third :: fourth :: _ =>
      if first = 0 then if second = 0 then .utf32 true else .utf16 true
      else if second = 0 then if third = 0 && fourth = 0 then .utf32 false else .utf16 false
      else .utf8
  | _ => .utf8

/-- The units of two bytes; there are none if a byte is left over. -/
def pairs? (bigEnd : Bool) : List UInt8 → Option (List Nat)
  | [] => some []
  | [_] => none
  | first :: second :: rest =>
      let unit :=
        if bigEnd then first.toNat * 256 + second.toNat else second.toNat * 256 + first.toNat
      (pairs? bigEnd rest).map (unit :: ·)

/-- The characters of 16-bit units; half of a surrogate pair gives the replacement character. -/
def ofUnits : List Nat → Text
  | [] => []
  | [unit] => [if 0xD800 ≤ unit && unit < 0xE000 then '\uFFFD' else Char.ofNat unit]
  | unit :: next :: rest =>
      if 0xD800 ≤ unit && unit < 0xDC00 && 0xDC00 ≤ next && next < 0xE000 then
        Char.ofNat (0x10000 + (unit - 0xD800) * 0x400 + (next - 0xDC00)) :: ofUnits rest
      else if 0xD800 ≤ unit && unit < 0xE000 then '\uFFFD' :: ofUnits (next :: rest)
      else Char.ofNat unit :: ofUnits (next :: rest)

/-- The characters of 32-bit units, given as pairs of 16-bit ones. -/
def ofWidePairs? (bigEnd : Bool) : List Nat → Option Text
  | [] => some []
  | [_] => none
  | first :: second :: rest =>
      let code := if bigEnd then first * 65536 + second else second * 65536 + first
      if code < 0x110000 then
        let read := if 0xD800 ≤ code && code < 0xE000 then '\uFFFD' else Char.ofNat code
        (ofWidePairs? bigEnd rest).map (read :: ·)
      else none

/-- Read a document as a text, without a mark of its encoding. -/
def decode? (bytes : List UInt8) : Option Text :=
  match ofBytes bytes with
  | .utf8 =>
      match Text.decode 0 bytes with
      | .ok ('\uFEFF' :: content) => some content
      | .ok content => some content
      | .error _ => none
  | .utf16 bigEnd => (pairs? bigEnd bytes).map ofUnits
  | .utf32 bigEnd => (pairs? bigEnd bytes).bind (ofWidePairs? bigEnd)

end JsonEncoding

end EmbedScaffold
