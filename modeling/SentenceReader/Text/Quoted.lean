import SentenceReader.Text.Basic
import SentenceReader.Text.Printable

/-! How messages show a text: between quotes, with one visible form for each character. The text
is quoted singly unless it holds a single quote and no double one. -/
namespace SentenceReader

namespace Quoted

/-- The lower-case hexadecimal digits of a number, padded with zeros to a width. -/
def hex (width n : Nat) : Text :=
  let digits := Nat.toDigits 16 n
  List.replicate (width - digits.length) '0' ++ digits

def quoteFor (t : Text) : Char := if '\'' ∈ t ∧ '"' ∉ t then '"' else '\''

/-- The visible form of one character inside the given quotes. -/
def escape (quote c : Char) : Text :=
  if c = quote ∨ c = '\\' then ['\\', c]
  else if c = '\t' then ['\\', 't']
  else if c = '\n' then ['\\', 'n']
  else if c = '\r' then ['\\', 'r']
  else if isPrintable c then [c]
  else if c.toNat < 0x100 then '\\' :: 'x' :: hex 2 c.toNat
  else if c.toNat < 0x10000 then '\\' :: 'u' :: hex 4 c.toNat
  else '\\' :: 'U' :: hex 8 c.toNat

/-- Bytes as messages show them: printable ASCII as it is, all else by number. -/
def bytes (bs : List UInt8) : Text :=
  let chars := bs.map fun b => Char.ofNat b.toNat
  let quote := quoteFor chars
  let show1 := fun c : Char => if c.toNat < 0x7F then escape quote c else '\\' :: 'x' :: hex 2 c.toNat
  'b' :: quote :: chars.flatMap show1 ++ [quote]

end Quoted

namespace Text

def quoted (t : Text) : Text :=
  let quote := Quoted.quoteFor t
  quote :: t.flatMap (Quoted.escape quote) ++ [quote]

def quotedList (ts : List Text) : Text :=
  '[' :: join [',', ' '] (ts.map quoted) ++ [']']

example : quoted "it's".toList = "\"it's\"".toList := by decide +kernel
example : quoted "a\n".toList = "'a\\n'".toList := by decide +kernel
example : quotedList ["ptb".toList] = "['ptb']".toList := by decide +kernel

end Text

end SentenceReader
