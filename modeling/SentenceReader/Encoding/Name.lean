import SentenceReader.Text.Basic

/-! The encodings of documents and the names under which they are asked for. A name is compared
without regard to case and to the punctuation between its parts. -/
namespace SentenceReader

/-- How the bytes of a document stand for its characters. The two signed kinds start with a byte
order mark, which UTF-16 needs to tell which byte of a pair comes first. -/
inductive Encoding where
  | utf8
  | utf8Signed
  | ascii
  | latin1
  | utf16
  | utf16LittleEndian
  | utf16BigEndian
  deriving DecidableEq, Repr, Inhabited

namespace Encoding

/-- Lower case, with every run of punctuation between two parts of a name as one underscore. -/
def normalizeName (name : Text) : Text :=
  let kept := fun c : Char => isBlank c || !(c.isAlphanum || c == '.')
  let parts := (name.splitOnP kept).filter (!·.isEmpty)
  Text.lower (Text.join ['_'] parts)

/-- The encodings with their names and their other names, in normal form. -/
def names : List (Encoding × String × List String) :=
  [(.utf8, "utf_8", ["utf8", "u8", "utf", "cp65001", "utf8_ucs2", "utf8_ucs4"]),
   (.utf8Signed, "utf_8_sig", []),
   (.ascii, "ascii", ["us_ascii", "us", "646", "ansi_x3.4_1968", "ansi_x3_4_1968",
     "ansi_x3.4_1986", "cp367", "csascii", "ibm367", "iso646_us", "iso_646.irv_1991",
     "iso_ir_6"]),
   (.latin1, "latin_1", ["latin1", "latin", "l1", "iso_8859_1", "iso8859_1", "iso8859", "8859",
     "cp819", "ibm819", "csisolatin1", "iso_8859_1_1987", "iso_ir_100"]),
   (.utf16, "utf_16", ["utf16", "u16"]),
   (.utf16LittleEndian, "utf_16_le", ["utf_16le", "unicodelittleunmarked"]),
   (.utf16BigEndian, "utf_16_be", ["utf_16be", "unicodebigunmarked"])]

/-- The encoding of a name, if there is one. In the other names a point may stand for an underscore. -/
def named? (name : Text) : Option Encoding :=
  let normal := normalizeName name
  let plain := normal.map fun c => if c = '.' then '_' else c
  let isOther := fun (others : List String) (t : Text) => others.contains (String.ofList t)
  (names.find? fun (_, first, others) =>
    first == String.ofList normal || isOther others normal || isOther others plain).map Prod.fst

example : named? "UTF8".toList = some .utf8 := by decide +kernel
example : named? "iso-8859-1".toList = some .latin1 := by decide +kernel
example : named? "bogus".toList = none := by decide +kernel

end Encoding

end SentenceReader
