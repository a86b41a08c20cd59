import Retention.Text.Digits

/-!
# Addresses of hosts

An address of the fourth version is four numbers with dots between them (`isDotted`), one of the
sixth version eight groups with colons (`isGrouped`). The name of a host that ends in a number is
also taken for an address of the fourth version, and may be written in more ways then
(`isNumeric`).
-/

namespace Retention.Connection.HostAddress

def parts (mark : String) (cs : List Char) : List (List Char) :=
  ((String.ofList cs).splitOn mark).map String.toList

/-- Four numbers below 256 without leading zeros. -/
def isDotted (cs : List Char) : Bool :=
  let numbers := parts "." cs
  numbers.length == 4 && numbers.all fun digits =>
    match Text.ofDigits 10 0 digits with
    | some n => n < 256 && (digits.length == 1 || (0 < digits.length && digits.head? != some '0'))
    | none => false

/-- One to four hexadecimal digits. -/
def isGroup (cs : List Char) : Bool :=
  0 < cs.length && cs.length ≤ 4 && (Text.ofDigits 16 0 cs).isSome

/-- How many groups the text is, separated by colons; an address of the fourth version at the end
stands for two. -/
def groups? (cs : List Char) : Option Nat :=
  if cs.isEmpty then some 0
  else
    let groups := parts ":" cs
    match groups.getLast? with
    | none => none
    | some last =>
      if !groups.dropLast.all isGroup then none
      else if isGroup last then some groups.length
      else if isDotted last then some (groups.length + 1)
      else none

/-- Eight groups, or fewer with a double colon for the zeros left out. -/
def isGrouped (cs : List Char) : Bool :=
  match parts "::" cs with
  | [all] => groups? all == some 8
  | [front, back] =>
    match groups? front, groups? back with
    | some m, some n => m + n ≤ 7 && !front.contains '.'
    | _, _ => false
  | _ => false

/-- A number in decimal, in octal after a zero, or in hexadecimal after `0x`. -/
def number? (cs : List Char) : Option Nat :=
  match cs with
  | [] => none
  | '0' :: 'x' :: digits => Text.ofDigits 16 0 digits
  | '0' :: 'X' :: digits => Text.ofDigits 16 0 digits
  | '0' :: digits => Text.ofDigits 8 0 digits
  | digits => Text.ofDigits 10 0 digits

/-- The parts between dots. A dot at the end does not count. -/
def numericParts (cs : List Char) : List (List Char) :=
  let numbers := parts "." cs
  if numbers.getLast? = some [] then numbers.dropLast else numbers

/-- Whether the name ends in a number, or in digits. -/
def endsInNumber (cs : List Char) : Bool :=
  (numericParts cs).getLast?.any fun last =>
    !last.isEmpty && (last.all Char.isDigit || (number? last).isSome)

/-- One to four numbers, all but the last one below 256. The last one fills the bytes that are
left. -/
def isNumeric (cs : List Char) : Bool :=
  match (numericParts cs).mapM number? with
  | none => false
  | some numbers =>
    match numbers.reverse, [0x100000000, 0x1000000, 0x10000, 0x100][numbers.length - 1]? with
    | last :: others, some bound => last < bound && others.all (· < 256)
    | _, _ => false

end Retention.Connection.HostAddress
