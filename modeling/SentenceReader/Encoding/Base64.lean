import SentenceReader.Text.Basic

/-! Bytes in base 64. Characters that are no digits do not count, and a padded end is the end. -/
namespace SentenceReader

namespace Base64

def digit? (c : Char) : Option Nat :=
  if 'A' ≤ c && c ≤ 'Z' then some (c.toNat - 65)
  else if 'a' ≤ c && c ≤ 'z' then some (c.toNat - 71)
  else if c.isDigit then some (c.toNat + 4)
  else if c = '+' then some 62
  else if c = '/' then some 63
  else none

/-- The bytes of the digits of a group behind each other; a last group may be of two or three. -/
def bytesOf : List Nat → List UInt8
  | a :: b :: c :: d :: rest =>
    UInt8.ofNat (a * 4 + b / 16) :: UInt8.ofNat (b * 16 + c / 4) :: UInt8.ofNat (c * 64 + d)
      :: bytesOf rest
  | [a, b, c] => [UInt8.ofNat (a * 4 + b / 16), UInt8.ofNat (b * 16 + c / 4)]
  | [a, b] => [UInt8.ofNat (a * 4 + b / 16)]
  | _ => []

/-- The digits of a text behind those in reverse order, if the text ends with a full group or a
padded one; `pads` counts the signs of padding since the last digit. -/
def digits? (taken : List Nat) (pads : Nat) : Text → Option (List Nat)
  | [] => if taken.length % 4 = 0 then some taken.reverse else none
  | c :: rest =>
    let place := taken.length % 4
    if c = '=' then
      if place < 2 then digits? taken pads rest
      else if 4 ≤ place + pads + 1 then some taken.reverse
      else digits? taken (pads + 1) rest
    else match digit? c with
      | some d => digits? (d :: taken) 0 rest
      | none => digits? taken pads rest

/-- The bytes that a text writes, if it has its full length. -/
def decode? (t : Text) : Option (List UInt8) := (digits? [] 0 t).map bytesOf

example : decode? "aGkh".toList = some [104, 105, 33] := by decide +kernel
example : decode? "aG\nk=".toList = some [104, 105] := by decide +kernel
example : decode? "aG=".toList = none := by decide +kernel

end Base64

end SentenceReader
