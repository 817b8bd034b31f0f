/-!
# Decoding UTF-8

`decode` turns bytes into characters, or says which bytes are none and why.  A sequence is cut off
where the first byte that cannot belong to it stands, or where the bytes end.
-/

namespace GrowthGrammar.Text

/-- Why bytes are no UTF-8. -/
inductive Utf8Error where
  /-- No sequence begins with the byte. -/
  | start (byte : UInt8) (position : Nat)
  /-- So many bytes of a sequence are followed by one that does not continue it. -/
  | continuation (byte : UInt8) (position count : Nat)
  /-- The bytes end in the middle of a sequence. -/
  | cutOff (byte : UInt8) (position count : Nat)
deriving Repr, DecidableEq

/-- Two hexadecimal digits of a byte. -/
private def byteDigits (b : UInt8) : String :=
  let digit (n : Nat) := Nat.digitChar n
  String.ofList [digit (b.toNat / 16), digit (b.toNat % 16)]

/-- The bytes that a message names: one by its value, several by their positions. -/
private def bytesText (byte : UInt8) (position count : Nat) : String :=
  if count = 1 then "byte 0x" ++ byteDigits byte ++ " in position " ++ toString position
  else "bytes in position " ++ toString position ++ "-" ++ toString (position + count - 1)

/-- The wording of an error. -/
def Utf8Error.message (e : Utf8Error) : String :=
  "'utf-8' codec can't decode " ++
    match e with
    | start byte position => bytesText byte position 1 ++ ": invalid start byte"
    | continuation byte position count =>
      bytesText byte position count ++ ": invalid continuation byte"
    | cutOff byte position count => bytesText byte position count ++ ": unexpected end of data"

/-- How a sequence goes on behind its first byte: how many bytes follow, the range of the first of
them, and the bits that the first byte gives. -/
structure Lead where
  follow : Nat
  least : Nat
  most : Nat
  bits : Nat

/-- What the first byte of a sequence says. -/
def lead? (b : Nat) : Option Lead :=
  if b < 0x80 then some ⟨0, 0x80, 0xBF, b⟩
  else if b < 0xC2 then none
  else if b < 0xE0 then some ⟨1, 0x80, 0xBF, b - 0xC0⟩
  else if b < 0xF0 then
    some ⟨2, if b = 0xE0 then 0xA0 else 0x80, if b = 0xED then 0x9F else 0xBF, b - 0xE0⟩
  else if b < 0xF5 then
    some ⟨3, if b = 0xF0 then 0x90 else 0x80, if b = 0xF4 then 0x8F else 0xBF, b - 0xF0⟩
  else none

/-- The bytes that continue a sequence, up to `follow` of them, with the code point so far. -/
def continueWith (follow least most bits : Nat) : List UInt8 → Nat × Nat × List UInt8
  | [] => (follow, bits, [])
  | b :: r =>
    match follow with
    | 0 => (0, bits, b :: r)
    | k + 1 =>
      if least ≤ b.toNat ∧ b.toNat ≤ most then
        continueWith k 0x80 0xBF (bits * 64 + (b.toNat - 0x80)) r
      else
        (k + 1, bits, b :: r)

/-- The characters of bytes from a position on.  Every step uses up a byte, so that as much fuel as
there are bytes is enough. -/
def decodeFrom : Nat → Nat → List UInt8 → Except Utf8Error (List Char)
  | 0, _, _ => .ok []
  | _ + 1, _, [] => .ok []
  | fuel + 1, position, b :: r =>
    match lead? b.toNat with
    | none => .error (.start b position)
    | some l =>
      match continueWith l.follow l.least l.most l.bits r with
      | (0, n, r) => (decodeFrom fuel (position + l.follow + 1) r).map (Char.ofNat n :: ·)
      | (missing, _, rest) =>
        let count := l.follow + 1 - missing
        if rest.isEmpty then .error (.cutOff b position count)
        else .error (.continuation b position count)

/-- The characters that bytes encode. -/
def decode (bytes : List UInt8) : Except Utf8Error (List Char) :=
  decodeFrom (bytes.length + 1) 0 bytes

end GrowthGrammar.Text
