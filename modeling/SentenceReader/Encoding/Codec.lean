import SentenceReader.Text.Quoted

/-! Decoding of bytes into characters, one character at a time. A codec looks at the bytes ahead and
gives a character with the bytes it takes, or says what is wrong, or asks for more bytes; each
answer takes at least one byte, so decoding ends. -/
namespace SentenceReader

/-- Why bytes cannot be decoded. -/
inductive DecodeReason where
  | invalidStart
  | invalidContinuation
  | unexpectedEnd
  | notAscii
  | truncated
  | illegalSurrogate
  | illegalEncoding
  deriving DecidableEq, Repr

/-- The bytes that could not be decoded: the codec, the first byte, and the positions from the
first byte up to the one behind the last, counted in the bytes that were decoded together. -/
structure DecodeError where
  codec : String
  first : UInt8
  start : Nat
  stop : Nat
  reason : DecodeReason
  deriving DecidableEq, Repr

namespace DecodeReason

def message : DecodeReason → String
  | invalidStart => "invalid start byte"
  | invalidContinuation => "invalid continuation byte"
  | unexpectedEnd => "unexpected end of data"
  | notAscii => "ordinal not in range(128)"
  | truncated => "truncated data"
  | illegalSurrogate => "illegal UTF-16 surrogate"
  | illegalEncoding => "illegal encoding"

end DecodeReason

namespace DecodeError

/-- The message about bytes that cannot be decoded. One byte is shown, several are counted. -/
def message (e : DecodeError) : String :=
  let subject :=
    if e.stop = e.start + 1 then
      "byte 0x" ++ String.ofList (Quoted.hex 2 e.first.toNat) ++ " in position " ++ toString e.start
    else "bytes in position " ++ toString e.start ++ "-" ++ toString (e.stop - 1)
  "'" ++ e.codec ++ "' codec can't decode " ++ subject ++ ": " ++ e.reason.message

end DecodeError

/-- What a codec finds at the front of some bytes. -/
inductive Codec.Step where
  /-- A character that takes the first byte and as many further ones. -/
  | char (c : Char) (further : Nat)
  /-- Bytes that stand for nothing: how many, and why. -/
  | malformed (length : Nat) (reason : DecodeReason)
  /-- The start of a character whose end is missing. -/
  | incomplete (reason : DecodeReason)

/-- A codec: its name in messages, and its step on a first byte and those behind it. -/
structure Codec where
  name : String
  step : UInt8 → List UInt8 → Codec.Step

namespace Codec

/-- The second byte must lie in a range that depends on the first: it rules out overlong forms,
surrogates and numbers that are no code points. -/
def secondRange (lead : UInt8) : UInt8 × UInt8 :=
  if lead = 0xE0 then (0xA0, 0xBF)
  else if lead = 0xED then (0x80, 0x9F)
  else if lead = 0xF0 then (0x90, 0xBF)
  else if lead = 0xF4 then (0x80, 0x8F)
  else (0x80, 0xBF)

/-- How many bytes follow a first byte in UTF-8, or none if it starts no character. -/
def further? (lead : UInt8) : Option Nat :=
  if lead < 0x80 then some 0
  else if lead < 0xC2 then none
  else if lead < 0xE0 then some 1
  else if lead < 0xF0 then some 2
  else if lead < 0xF5 then some 3
  else none

/-- Reads the bytes that follow the first one, of which `seen` have been read. -/
def utf8Tail (lead : UInt8) : Nat → Nat → Nat → List UInt8 → Step
  | 0, seen, value, _ => .char (Char.ofNat value) seen
  | _ + 1, _, _, [] => .incomplete .unexpectedEnd
  | wanted + 1, seen, value, b :: rest =>
    let range := if seen = 0 then secondRange lead else (0x80, 0xBF)
    if range.1 ≤ b && b ≤ range.2 then
      utf8Tail lead wanted (seen + 1) (value * 64 + b.toNat % 64) rest
    else .malformed (seen + 1) .invalidContinuation

/-- The bits of the character that its first byte holds. -/
def leadBits (lead : UInt8) (further : Nat) : Nat :=
  match further with
  | 0 => lead.toNat
  | 1 => lead.toNat % 32
  | 2 => lead.toNat % 16
  | _ => lead.toNat % 8

/-- UTF-8 without overlong forms and surrogates. -/
def utf8 : Codec where
  name := "utf-8"
  step lead rest :=
    match further? lead with
    | none => .malformed 1 .invalidStart
    | some n => utf8Tail lead n 0 (leadBits lead n) rest

/-- The first half of the byte values, each for the character of its number. -/
def ascii : Codec where
  name := "ascii"
  step b _ := if b < 0x80 then .char (Char.ofNat b.toNat) 0 else .malformed 1 .notAscii

def latin1 : Codec where
  name := "latin-1"
  step b _ := .char (Char.ofNat b.toNat) 0

/-- UTF-16, given the way in which two bytes make a unit. -/
def utf16Step (unit : UInt8 → UInt8 → Nat) (a : UInt8) : List UInt8 → Step
  | [] => .incomplete .truncated
  | b :: rest =>
    let high := unit a b
    if high < 0xD800 || 0xE000 ≤ high then .char (Char.ofNat high) 1
    else if 0xDC00 ≤ high then .malformed 2 .illegalEncoding
    else match rest with
      | c :: d :: _ =>
        let low := unit c d
        if 0xDC00 ≤ low && low < 0xE000 then
          .char (Char.ofNat (0x10000 + (high - 0xD800) * 0x400 + (low - 0xDC00))) 3
        else .malformed 2 .illegalSurrogate
      | _ => .incomplete .unexpectedEnd

def utf16LittleEndian : Codec where
  name := "utf-16-le"
  step := utf16Step fun a b => b.toNat * 256 + a.toNat

def utf16BigEndian : Codec where
  name := "utf-16-be"
  step := utf16Step fun a b => a.toNat * 256 + b.toNat

/-- Decodes as many whole characters as there are, from a position on. The rest is what is left
of an incomplete character; where no more bytes will come (`final`), it is an error. -/
def decodeFrom (codec : Codec) (final : Bool) (position : Nat) (decoded : Text) :
    List UInt8 → Except DecodeError (Text × List UInt8)
  | [] => .ok (decoded.reverse, [])
  | b :: rest =>
    match codec.step b rest with
    | .char c n => decodeFrom codec final (position + n + 1) (c :: decoded) (rest.drop n)
    | .malformed n reason => .error ⟨codec.name, b, position, position + n, reason⟩
    | .incomplete reason =>
      if final then .error ⟨codec.name, b, position, position + rest.length + 1, reason⟩
      else .ok (decoded.reverse, b :: rest)
termination_by bytes => bytes.length
decreasing_by simp only [List.length_drop, List.length_cons]; omega

def decode (codec : Codec) (final : Bool) (bytes : List UInt8) :
    Except DecodeError (Text × List UInt8) :=
  decodeFrom codec final 0 [] bytes

end Codec

end SentenceReader
