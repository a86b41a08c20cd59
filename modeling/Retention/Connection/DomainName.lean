import Retention.Connection.HostAddress
import Retention.Text.Glyphs
import Retention.Text.Punycode
import Retention.Text.Utf8

/-!
# Names of hosts

The name of a host is a text in any alphabet; it is labels with dots between them. Before it is
looked at, some characters are taken for others (`mapped`): letters for small letters, wide forms
and numerals in other styles for plain ones, other full stops for the full stop; and some are not
counted at all. A label that begins with `xn--` stands for another one.
-/

namespace Retention.Connection.DomainName

/-- Code points at which ranges of characters that do not count begin or end, in turn. -/
def ignoredBounds : Array Nat := #[
  0xad, 0xae, 0x34f, 0x350, 0x180b, 0x180e, 0x180f, 0x1810, 0x200b, 0x200c, 0x2060, 0x2061, 0x2064,
  0x2065, 0xfe00, 0xfe10, 0xfeff, 0xff00, 0x1bca0, 0x1bca4, 0xe0100, 0xe01f0]

/-- Code points at which ranges of characters that can be seen, but that no name has, begin or end,
in turn. -/
def strangeBounds : Array Nat := #[
  0xa8, 0xa9, 0xaf, 0xb0, 0xb4, 0xb5, 0xb8, 0xb9, 0x200c, 0x200e, 0x2d8, 0x2de, 0x37a, 0x37b, 0x384,
  0x386, 0x1806, 0x1807, 0x1fbd, 0x1fbe, 0x1fbf, 0x1fc2, 0x1fcd, 0x1fd0, 0x1fdd, 0x1fe0, 0x1fed,
  0x1fef, 0x1ffd, 0x1fff, 0x2017, 0x2018, 0x2024, 0x2027, 0x203e, 0x203f, 0x2047, 0x204a, 0x2100,
  0x2102, 0x2105, 0x2107, 0x2488, 0x249c, 0x2a74, 0x2a75, 0x2ff0, 0x3000, 0x309b, 0x309d, 0x31ef,
  0x31f0, 0x33c2, 0x33c3, 0x33c7, 0x33c8, 0x33d8, 0x33d9, 0xfc5e, 0xfc64, 0xfdfa, 0xfdfc, 0xfe12,
  0xfe14, 0xfe16, 0xfe17, 0xfe19, 0xfe1a, 0xfe30, 0xfe31, 0xfe47, 0xfe4d, 0xfe52, 0xfe53, 0xfe55,
  0xfe57, 0xfe5f, 0xfe60, 0xfe64, 0xfe66, 0xfe68, 0xfe69, 0xfe6a, 0xfe6c, 0xfe70, 0xfe71, 0xfe72,
  0xfe73, 0xfe74, 0xfe75, 0xfe76, 0xfe77, 0xfe78, 0xfe79, 0xfe7a, 0xfe7b, 0xfe7c, 0xfe7d, 0xfe7e,
  0xfe7f, 0xffe3, 0xffe4, 0xfffc, 0xfffe, 0x1f100, 0x1f101]

def isIgnored (c : Char) : Bool := Text.inRanges ignoredBounds c.toNat

/-- Numerals in other styles: where a run of them begins, how many they are, and the first one. -/
def numeralRuns : List (Nat × Nat × Nat) := [
  (0xb2, 2, 2), (0xb9, 1, 1), (0x2070, 1, 0), (0x2074, 6, 4), (0x2080, 10, 0), (0x2460, 20, 1),
  (0x24ea, 1, 0), (0x3251, 15, 21), (0x32b1, 15, 36), (0x1d7ce, 10, 0), (0x1d7d8, 10, 0),
  (0x1d7e2, 10, 0), (0x1d7ec, 10, 0), (0x1d7f6, 10, 0), (0x1fbf0, 10, 0)]

/-- The number that a character is in another style. -/
def numeral? (c : Char) : Option Nat :=
  (numeralRuns.find? fun (start, count, _) => start ≤ c.toNat && c.toNat < start + count).map
    fun (start, _, first) => c.toNat - start + first

/-- What a character that counts is taken for. -/
def mappedChar (c : Char) : List Char :=
  if 0xff01 ≤ c.toNat ∧ c.toNat ≤ 0xff5e then [(Char.ofNat (c.toNat - 0xfee0)).toLower]
  else if c = '\u3002' ∨ c = '\uff61' then ['.']
  else
    match numeral? c with
    | some n => Nat.toDigits 10 n
    | none => [c.toLower]

def mapped (cs : List Char) : List Char := (cs.filter (!isIgnored ·)).flatMap mappedChar

/-- Characters that no name has. -/
def isForbidden (c : Char) : Bool :=
  c == ' ' || "%#/:<>?@[\\]^|".contains c || Text.isUnseen c || Text.inRanges strangeBounds c.toNat

/-- Whether a label is one as it stands. -/
def isPlainLabel (cs : List Char) : Bool :=
  !cs.any isForbidden && !cs.head?.any Text.isJoining

/-- A label that stands for another one is plain text itself, and the other one is not. -/
def isLabel (cs : List Char) : Bool :=
  match cs with
  | 'x' :: 'n' :: '-' :: '-' :: written =>
    match Text.Punycode.decode written with
    | some label =>
      written.all (·.toNat < 0x80) && label.any (0x80 ≤ ·.toNat) && isPlainLabel label &&
        mapped label == label
    | none => false
  | _ => isPlainLabel cs

/-- The name that these bytes are, if they are one. It may be empty. -/
def ofBytes? (bytes : List UInt8) : Option (List Char) :=
  match Text.ofUtf8 bytes with
  | .error _ => none
  | .ok text =>
    let name := mapped text.toList
    if (HostAddress.parts "." name).all isLabel then some name else none

end Retention.Connection.DomainName
