/-!
# Texts from Bytes

Reads text in the UTF-8 encoding. Where the bytes are not well-formed, every longest start of a
character, and every byte that starts none, becomes one replacement character.
-/

namespace Promptbook.Text

/-- The character in place of bytes that are none. -/
def replacement : Char := '\ufffd'

/-- The bytes with which the second byte of a character may be one, after its first byte. -/
def secondRange (first : UInt8) : UInt8 × UInt8 :=
  if first = 0xE0 then (0xA0, 0xBF)
  else if first = 0xED then (0x80, 0x9F)
  else if first = 0xF0 then (0x90, 0xBF)
  else if first = 0xF4 then (0x80, 0x8F)
  else (0x80, 0xBF)

/-- The number of bytes of a character that starts with a byte, if one does. -/
def charSize? (first : UInt8) : Option Nat :=
  if first < 0x80 then some 1
  else if 0xC2 ≤ first && first ≤ 0xDF then some 2
  else if 0xE0 ≤ first && first ≤ 0xEF then some 3
  else if 0xF0 ≤ first && first ≤ 0xF4 then some 4
  else none

/-- Whether a byte may follow in a character that starts with `first`; `position` counts from one
behind the first byte. -/
def mayFollow (first : UInt8) (position : Nat) (byte : UInt8) : Bool :=
  let (low, high) := if position = 1 then secondRange first else (0x80, 0xBF)
  low ≤ byte && byte ≤ high

/-- How many of the bytes belong to the character that starts with `first`; `position` is that of
the next byte and `wanted` the number of bytes that are still missing. -/
def followers (first : UInt8) : (position wanted : Nat) → List UInt8 → Nat
  | _, 0, _ => 0
  | _, _, [] => 0
  | position, wanted + 1, byte :: rest =>
    if mayFollow first position byte then followers first (position + 1) wanted rest + 1 else 0

/-- The character that bytes stand for: the low bits of its first byte and six bits of each
other. -/
def decodeChar (first : UInt8) (size : Nat) (others : List UInt8) : Char :=
  let start := if size = 1 then first.toNat else first.toNat % (1 <<< (7 - size))
  Char.ofNat (others.foldl (fun n byte => 64 * n + byte.toNat % 64) start)

/-- The characters of bytes. -/
def decodeBytes : List UInt8 → List Char
  | [] => []
  | first :: rest =>
    match charSize? first with
    | none => replacement :: decodeBytes rest
    | some size =>
      let found := followers first 1 (size - 1) rest
      (if found = size - 1 then decodeChar first size (rest.take found) else replacement)
        :: decodeBytes (rest.drop found)
termination_by bytes => bytes.length
decreasing_by all_goals simp only [List.length_cons, List.length_drop]; omega

/-- The bytes behind the mark that may open a text. -/
def dropMark : List UInt8 → List UInt8
  | 0xEF :: 0xBB :: 0xBF :: rest => rest
  | bytes => bytes

/-- The text of bytes, its opening mark apart. -/
def decode (bytes : ByteArray) : String :=
  String.ofList (decodeBytes (dropMark bytes.toList))

end Promptbook.Text
