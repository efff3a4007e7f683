import SentenceReader.Encoding.Codec

/-! What can go wrong while a text is read from where it is kept. -/
namespace SentenceReader

/-- Why a read gave no text. -/
inductive ReadFault where
  /-- The device behind the stream failed. -/
  | device
  /-- Bytes that are not in the encoding asked for. -/
  | undecodable (e : DecodeError)
  /-- A compressed document that does not start like one; holds its first two bytes. -/
  | notCompressed (head : List UInt8)
  /-- A compressed document that is compressed in a way that is not known. -/
  | unknownCompression
  /-- A compressed document that ends too early. -/
  | cutShort
  /-- Text in an encoding that needs a byte order mark, without one. -/
  | unmarked
  /-- What the host says of bytes that it decodes, decompresses or fetches: whether they could not be
  read, and its words. -/
  | foreign (unread : Bool) (words : String)
  /-- The stream, over a text in memory or over a file, has been closed before. -/
  | closed (file : Bool)
  deriving DecidableEq, Repr

namespace ReadFault

/-- Whether the text could not be read, as opposed to a wrong use of the stream or of its
encoding. -/
def isFailure : ReadFault → Bool
  | device | undecodable _ | notCompressed _ | unknownCompression => true
  | cutShort | unmarked | closed _ => false
  | foreign unread _ => unread

def message : ReadFault → String
  | device => "disk went away"
  | undecodable e => e.message
  | notCompressed head => "Not a gzipped file (" ++ String.ofList (Quoted.bytes head) ++ ")"
  | unknownCompression => "Unknown compression method"
  | cutShort => "Compressed file ended before the end-of-stream marker was reached"
  | unmarked => "UTF-16 stream does not start with BOM"
  | foreign _ words => words
  | closed file => "I/O operation on closed file" ++ (if file then "." else "")

end ReadFault

end SentenceReader
