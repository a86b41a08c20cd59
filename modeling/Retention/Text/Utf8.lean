import Retention.Text.Digits

/-!
# Text in bytes

Bytes that may be text: those of a text in which a percent sign and two hexadecimal digits stand for
one (`percentDecoded`), and the text that bytes make up. `ofUtf8` tells where they make up none;
`ofUtf8Leniently` puts a replacement character there.

Where bytes make up no character, the fault is as long as the part of them with which a character
could still have begun.
-/

namespace Retention.Text

/-- The bytes of a text with percent signs as escapes. The next `skip` characters belong to an
escape that was read. -/
def percentDecoded : (skip : Nat) → List Char → List UInt8
  | _, [] => []
  | skip + 1, _ :: rest => percentDecoded skip rest
  | 0, c :: rest =>
    let escaped := if c = '%' ∧ 2 ≤ rest.length then ofDigits 16 0 (rest.take 2) else none
    match escaped with
    | some n => n.toUInt8 :: percentDecoded 2 rest
    | none => (String.singleton c).toUTF8.toList ++ percentDecoded 0 rest

/-- What bytes begin with: a character of so many bytes, so many that make up none, or the beginning
of a character that does not go on. -/
inductive Leading
  | char (c : Char) (length : Nat)
  | fault (length : Nat)
  | incomplete
deriving DecidableEq, Repr

namespace Leading

/-- Takes `count` more bytes of a character, the first of them between `low` and `high`. -/
def continued (low high : Nat) : (count acc taken : Nat) → List UInt8 → Leading
  | 0, acc, taken, _ => char (Char.ofNat acc) taken
  | _ + 1, _, _, [] => incomplete
  | count + 1, acc, taken, b :: rest =>
    if low ≤ b.toNat ∧ b.toNat ≤ high then
      continued 0x80 0xbf count (acc * 64 + b.toNat % 64) (taken + 1) rest
    else fault taken

/-- What the bytes `b :: rest` begin with. Characters that fewer bytes make up, surrogates, and
numbers beyond the last character are none. -/
def of (b : UInt8) (rest : List UInt8) : Leading :=
  let n := b.toNat
  if n < 0x80 then char (Char.ofNat n) 1
  else if n < 0xc2 then fault 1
  else if n < 0xe0 then continued 0x80 0xbf 1 (n % 32) 1 rest
  else if n = 0xe0 then continued 0xa0 0xbf 2 0 1 rest
  else if n = 0xed then continued 0x80 0x9f 2 13 1 rest
  else if n < 0xf0 then continued 0x80 0xbf 2 (n % 16) 1 rest
  else if n = 0xf0 then continued 0x90 0xbf 3 0 1 rest
  else if n < 0xf4 then continued 0x80 0xbf 3 (n % 8) 1 rest
  else if n = 0xf4 then continued 0x80 0x8f 3 4 1 rest
  else fault 1

end Leading

/-- Where bytes make up no text; without a length a character does not go on. -/
structure Utf8Fault where
  index : Nat
  length? : Option Nat
deriving DecidableEq, Repr

def Utf8Fault.message (f : Utf8Fault) : String :=
  match f.length? with
  | some length => s!"invalid utf-8 sequence of {length} bytes from index {f.index}"
  | none => s!"incomplete utf-8 byte sequence from index {f.index}"

/-- The text of bytes from `index` on, the next `skip` of which have been read. -/
def ofUtf8From (index : Nat) : (skip : Nat) → List UInt8 → Except Utf8Fault (List Char)
  | _, [] => .ok []
  | skip + 1, _ :: rest => ofUtf8From (index + 1) skip rest
  | 0, b :: rest =>
    match Leading.of b rest with
    | .char c length => (c :: ·) <$> ofUtf8From (index + 1) (length - 1) rest
    | .fault length => .error ⟨index, some length⟩
    | .incomplete => .error ⟨index, none⟩

def ofUtf8 (bytes : List UInt8) : Except Utf8Fault String :=
  String.ofList <$> ofUtf8From 0 0 bytes

/-- The text of bytes with replacement characters; the next `skip` bytes have been read. -/
def lenientFrom : (skip : Nat) → List UInt8 → List Char
  | _, [] => []
  | skip + 1, _ :: rest => lenientFrom skip rest
  | 0, b :: rest =>
    match Leading.of b rest with
    | .char c length => c :: lenientFrom (length - 1) rest
    | .fault length => '\ufffd' :: lenientFrom (length - 1) rest
    | .incomplete => ['\ufffd']

def ofUtf8Leniently (bytes : List UInt8) : String := String.ofList (lenientFrom 0 bytes)

end Retention.Text
