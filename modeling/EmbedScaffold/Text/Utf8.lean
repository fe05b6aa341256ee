import EmbedScaffold.Text.Basic

/-!
# Texts as bytes

UTF-8 in both directions.  Reading tells where and why bytes are no text; a lenient reading puts
the replacement character for each longest stretch that could have begun a character.
-/

namespace EmbedScaffold.Text

def encodeChar (encoded : Char) : List UInt8 :=
  let code := encoded.toNat
  let tailByte (shift : Nat) : UInt8 := ((code / Nat.pow 2 shift) % 64 + 128).toUInt8
  if code < 0x80 then [code.toUInt8]
  else if code < 0x800 then [(code / 64 + 0xC0).toUInt8, tailByte 0]
  else if code < 0x10000 then [(code / 4096 + 0xE0).toUInt8, tailByte 6, tailByte 0]
  else [(code / 262144 + 0xF0).toUInt8, tailByte 12, tailByte 6, tailByte 0]

def encode (content : Text) : List UInt8 :=
  content.flatMap encodeChar

inductive Utf8Fault where
  | startByte
  | continuationByte
  | unexpectedEnd
  deriving DecidableEq, Repr

namespace Utf8Fault

def message : Utf8Fault → String
  | .startByte => "invalid start byte"
  | .continuationByte => "invalid continuation byte"
  | .unexpectedEnd => "unexpected end of data"

end Utf8Fault

/-- How a sequence goes on after its first byte: the bounds of the second byte, the number of
further bytes and the bits that the first byte carries. -/
structure Utf8Lead where
  low : UInt8
  high : UInt8
  further : Nat
  bits : Nat

/-- The shape of the sequence that a byte above 127 begins. -/
def utf8Lead? (first : UInt8) : Option Utf8Lead :=
  let code := first.toNat
  if 0xC2 ≤ first && first ≤ 0xDF then some ⟨0x80, 0xBF, 0, code - 0xC0⟩
  else if first == 0xE0 then some ⟨0xA0, 0xBF, 1, 0⟩
  else if first == 0xED then some ⟨0x80, 0x9F, 1, 13⟩
  else if 0xE1 ≤ first && first ≤ 0xEF then some ⟨0x80, 0xBF, 1, code - 0xE0⟩
  else if first == 0xF0 then some ⟨0x90, 0xBF, 2, 0⟩
  else if 0xF1 ≤ first && first ≤ 0xF3 then some ⟨0x80, 0xBF, 2, code - 0xF0⟩
  else if first == 0xF4 then some ⟨0x80, 0x8F, 2, 4⟩
  else none

/-- One step of reading: a character, or a fault and the length of the stretch it spoils; both
with the bytes that follow. -/
inductive Utf8Step (size : Nat) where
  | char (read : Char) (rest : { bytes : List UInt8 // bytes.length < size })
  | fault (cause : Utf8Fault) (rest : { bytes : List UInt8 // bytes.length < size })

/-- Read `further` continuation bytes behind the bits read so far. -/
def utf8Tail (size : Nat) :
    (further bits : Nat) → (bytes : List UInt8) → bytes.length < size → Utf8Step size
  | 0, bits, bytes, short => .char (Char.ofNat bits) ⟨bytes, short⟩
  | _ + 1, _, [], short => .fault .unexpectedEnd ⟨[], short⟩
  | more + 1, bits, next :: rest, short =>
      if 0x80 ≤ next && next ≤ 0xBF then
        utf8Tail size more (bits * 64 + (next.toNat - 0x80)) rest
          (Nat.lt_of_succ_lt (by simpa using short))
      else .fault .continuationByte ⟨next :: rest, short⟩

/-- Read the character at the front of some bytes. -/
def utf8Step (first : UInt8) (rest : List UInt8) : Utf8Step (rest.length + 1) :=
  if first < 0x80 then .char (Char.ofNat first.toNat) ⟨rest, Nat.lt_succ_self _⟩
  else
    match utf8Lead? first with
    | none => .fault .startByte ⟨rest, Nat.lt_succ_self _⟩
    | some lead =>
        match rest with
        | [] => .fault .unexpectedEnd ⟨[], Nat.lt_succ_self _⟩
        | second :: others =>
            if lead.low ≤ second && second ≤ lead.high then
              utf8Tail (others.length + 2) lead.further
                (lead.bits * 64 + (second.toNat - 0x80)) others (by omega)
            else .fault .continuationByte ⟨second :: others, Nat.lt_succ_self _⟩

/-- The first bytes of some that are no text: why, from which offset on, and the bytes. -/
structure Utf8Failure where
  cause : Utf8Fault
  offset : Nat
  spoiled : List UInt8
  deriving DecidableEq, Repr

namespace Utf8Failure

/-- The digit of a number below sixteen. -/
def hexDigit (value : Nat) : Char :=
  Nat.digitChar value

/-- The full wording of the failure, with the byte if it is a single one. -/
def message (failure : Utf8Failure) : Text :=
  let place :=
    match failure.spoiled with
    | [byte] =>
        "byte 0x".toList ++ [hexDigit (byte.toNat / 16), hexDigit (byte.toNat % 16)] ++
          " in position ".toList ++ ofNat failure.offset
    | spoiled =>
        "bytes in position ".toList ++ ofNat failure.offset ++ "-".toList ++
          ofNat (failure.offset + spoiled.length - 1)
  "'utf-8' codec can't decode ".toList ++ place ++ ": ".toList ++ failure.cause.message.toList

end Utf8Failure

/-- Read bytes as a text, or tell the first failure. -/
def decode (offset : Nat) (bytes : List UInt8) : Except Utf8Failure Text :=
  match bytes with
  | [] => .ok []
  | first :: rest =>
      match utf8Step first rest with
      | .char read ⟨others, _⟩ =>
          (decode (offset + (rest.length + 1 - others.length)) others).map (read :: ·)
      | .fault cause ⟨others, _⟩ =>
          .error ⟨cause, offset, (first :: rest).take (rest.length + 1 - others.length)⟩
termination_by bytes.length

/-- Read bytes as a text, with the replacement character wherever they are none. -/
def decodeLenient (bytes : List UInt8) : Text :=
  match bytes with
  | [] => []
  | first :: rest =>
      match utf8Step first rest with
      | .char read ⟨others, _⟩ => read :: decodeLenient others
      | .fault _ ⟨others, _⟩ => '\uFFFD' :: decodeLenient others
termination_by bytes.length

end EmbedScaffold.Text
