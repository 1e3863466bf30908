import DocSplice.Text.Basic

/-!
# The UTF-8 form of a text

Files hold bytes; a text is stored as the UTF-8 form of its characters, one to four bytes each.
`encode` writes that form and `decode?` reads it back, refusing overlong forms, surrogates, code
points past `0x10FFFF` and truncated sequences.  The size limit on files and the fingerprint of a
file's content are both taken on the encoded bytes.
-/

namespace DocSplice.Utf8

/-- The bytes of one character. -/
def encodeChar (c : Char) : List UInt8 :=
  let n := c.toNat
  let tail (k : Nat) : UInt8 := UInt8.ofNat (0x80 + n / Nat.pow 2 (6 * k) % 0x40)
  if n < 0x80 then [UInt8.ofNat n]
  else if n < 0x800 then [UInt8.ofNat (0xC0 + n / 0x40), tail 0]
  else if n < 0x10000 then [UInt8.ofNat (0xE0 + n / 0x1000), tail 1, tail 0]
  else [UInt8.ofNat (0xF0 + n / 0x40000), tail 2, tail 1, tail 0]

/-- The bytes of a text. -/
def encode (t : Text) : List UInt8 := t.flatMap encodeChar

/-- The six bits that a continuation byte carries. -/
def continuation? (b : UInt8) : Option Nat :=
  if 0x80 ≤ b.toNat && b.toNat < 0xC0 then some (b.toNat - 0x80) else none

/-- The character with the given number, unless the number is below the least one that needs this
many bytes, a surrogate or too large. -/
def charFrom? (least n : Nat) : Option Char :=
  if least ≤ n ∧ n.isValidChar then some (Char.ofNat n) else none

/-- One character from the front of the bytes, with what follows it. -/
def decodeChar? : List UInt8 → Option (Char × List UInt8)
  | [] => none
  | b :: rest =>
    let n := b.toNat
    if n < 0x80 then some (Char.ofNat n, rest)
    else if n < 0xC2 then none
    else if n < 0xE0 then
      match rest with
      | b1 :: rest => do
        let k1 ← continuation? b1
        let c ← charFrom? 0x80 ((n - 0xC0) * 0x40 + k1)
        some (c, rest)
      | _ => none
    else if n < 0xF0 then
      match rest with
      | b1 :: b2 :: rest => do
        let k1 ← continuation? b1
        let k2 ← continuation? b2
        let c ← charFrom? 0x800 (((n - 0xE0) * 0x40 + k1) * 0x40 + k2)
        some (c, rest)
      | _ => none
    else if n < 0xF5 then
      match rest with
      | b1 :: b2 :: b3 :: rest => do
        let k1 ← continuation? b1
        let k2 ← continuation? b2
        let k3 ← continuation? b3
        let c ← charFrom? 0x10000 ((((n - 0xF0) * 0x40 + k1) * 0x40 + k2) * 0x40 + k3)
        some (c, rest)
      | _ => none
    else none

/-- Read characters until the bytes are used up; each character takes at least one byte, so the
number of bytes bounds the number of steps. -/
def decodeAll : Nat → List UInt8 → Option Text
  | _, [] => some []
  | 0, _ :: _ => none
  | fuel + 1, bytes => do
    let (c, rest) ← decodeChar? bytes
    let t ← decodeAll fuel rest
    some (c :: t)

/-- The text whose UTF-8 form the bytes are, if there is one. -/
def decode? (bytes : List UInt8) : Option Text := decodeAll bytes.length bytes

@[simp] theorem encode_nil : encode [] = [] := rfl

theorem encode_cons (c : Char) (t : Text) : encode (c :: t) = encodeChar c ++ encode t := rfl

end DocSplice.Utf8
