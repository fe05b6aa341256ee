/-!
# Texts

A text is the list of its characters, so an offset into it counts characters.  This module holds
the blank characters and the cutting, trimming, splitting and replacing that every document edit
is made of.
-/

namespace EmbedScaffold

/-- A text is the list of its characters. -/
abbrev Text := List Char

namespace Text

/-! ## Blank characters -/

/-- The blank characters: the Unicode white space and the four information separators. -/
def isBlank (tested : Char) : Bool :=
  let code := tested.toNat
  (9 ≤ code && code ≤ 13) || (28 ≤ code && code ≤ 32) || code == 0x85 || code == 0xA0 ||
    code == 0x1680 || (0x2000 ≤ code && code ≤ 0x200A) || code == 0x2028 || code == 0x2029 ||
    code == 0x202F || code == 0x205F || code == 0x3000

/-- A text with nothing but blanks in it. -/
def isBlankText (content : Text) : Bool :=
  content.all isBlank

/-! ## Trimming -/

/-- Drop the leading characters of a class. -/
def trimStart (dropped : Char → Bool) (content : Text) : Text :=
  content.dropWhile dropped

/-- Drop the trailing characters of a class. -/
def trimEnd (dropped : Char → Bool) (content : Text) : Text :=
  (content.reverse.dropWhile dropped).reverse

/-- Drop the leading and the trailing characters of a class. -/
def trimBoth (dropped : Char → Bool) (content : Text) : Text :=
  trimEnd dropped (trimStart dropped content)

/-- Drop the blanks around a text. -/
def strip (content : Text) : Text :=
  trimBoth isBlank content

/-- Drop the blanks after a text. -/
def stripEnd (content : Text) : Text :=
  trimEnd isBlank content

/-- A line feed, the only character that ends a line of a document. -/
def isLineFeed (tested : Char) : Bool :=
  tested == '\n'

/-! ## Cutting -/

/-- The characters from offset `start` up to offset `stop`. -/
def slice (content : Text) (start stop : Nat) : Text :=
  (content.take stop).drop start

/-- Replace the characters from `start` up to `stop` by `inserted`. -/
def splice (content : Text) (start stop : Nat) (inserted : Text) : Text :=
  content.take start ++ inserted ++ content.drop stop

/-- Offset of the first occurrence of `wanted` at or after the start of a text. -/
def indexOf? (wanted : Text) : Text → Option Nat
  | [] => if wanted.isEmpty then some 0 else none
  | first :: rest =>
      if wanted.isPrefixOf (first :: rest) then some 0
      else (indexOf? wanted rest).map (· + 1)

/-- Whether `wanted` occurs in a text. -/
def includes (content wanted : Text) : Bool :=
  (indexOf? wanted content).isSome

/-- Offset of the last occurrence of `wanted`. -/
def lastIndexOf? (wanted : Text) : Text → Option Nat
  | [] => if wanted.isEmpty then some 0 else none
  | first :: rest =>
      match lastIndexOf? wanted rest with
      | some offset => some (offset + 1)
      | none => if wanted.isPrefixOf (first :: rest) then some 0 else none

/-! ## Splitting and joining -/

/-- The pieces of a text between the occurrences of a separator; always at least one piece. -/
def splitOn (separator : Char) : Text → List Text
  | [] => [[]]
  | first :: rest =>
      if first = separator then [] :: splitOn separator rest
      else
        match splitOn separator rest with
        | [] => [[first]]
        | piece :: pieces => (first :: piece) :: pieces

/-- The pieces with a separator text between neighbours. -/
def join (separator : Text) : List Text → Text
  | [] => []
  | [piece] => piece
  | piece :: pieces => piece ++ separator ++ join separator pieces

/-- The longest stretches without blanks. -/
def words (content : Text) : List Text :=
  (go content).filter (! ·.isEmpty)
where
  /-- The pieces between single blanks, empty ones included. -/
  go : Text → List Text
    | [] => [[]]
    | first :: rest =>
        if isBlank first then [] :: go rest
        else
          match go rest with
          | [] => [[first]]
          | piece :: pieces => (first :: piece) :: pieces

/-- Replace every occurrence of one character by a text. -/
def replaceChar (replaced : Char) (replacement : Text) (content : Text) : Text :=
  content.flatMap fun tested => if tested = replaced then replacement else [tested]

/-- `count` copies of a text, one after the other. -/
def copies (count : Nat) (content : Text) : Text :=
  (List.replicate count content).flatten

/-- The decimal digits of a number. -/
def ofNat (number : Nat) : Text :=
  Nat.toDigits 10 number

/-- The decimal digits of a number, with a minus sign if it is negative. -/
def ofInt (number : Int) : Text :=
  if number < 0 then '-' :: ofNat number.natAbs else ofNat number.natAbs

end Text

end EmbedScaffold
