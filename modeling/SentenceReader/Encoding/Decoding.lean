import SentenceReader.Data.Binary64
import SentenceReader.Encoding.Name
import SentenceReader.Stream.Fault

/-! Decoding of whole documents. A document is decoded block by block, as its bytes arrive; what
can be read of a damaged one is the text of the blocks before the first bad one. -/
namespace SentenceReader

/-- A decoder of the host. It gives the text of a block of bytes behind other blocks, and is told
whether the block is the last one. -/
abbrev Decoder := List (List UInt8) → Bool → List UInt8 → Except ReadFault Text

/-- Where the decoding of a document stands: within it, or at its start in an encoding that may
or must open with a byte order mark. -/
inductive Decoding where
  | within (codec : Codec)
  | beforeSignature
  | beforeMark
  /-- Behind the blocks that a decoder of the host was given. -/
  | foreign (decoder : Decoder) (seen : List (List UInt8))

namespace Decoding

def ofEncoding : Encoding → Decoding
  | .utf8 => within .utf8
  | .utf8Signed => beforeSignature
  | .ascii => within .ascii
  | .latin1 => within .latin1
  | .utf16 => beforeMark
  | .utf16LittleEndian => within .utf16LittleEndian
  | .utf16BigEndian => within .utf16BigEndian

/-- What one block gives: its text, the bytes kept for the next block, and the state then. -/
structure Progress where
  text : Text
  kept : List UInt8
  state : Decoding

/-- Decodes the bytes of a block with a codec and goes on with it. -/
def decodeWith (codec : Codec) (final : Bool) (position : Nat) (bytes : List UInt8) :
    Except ReadFault Progress :=
  match codec.decodeFrom final position [] bytes with
  | .ok (text, kept) => .ok ⟨text, kept, within codec⟩
  | .error e => .error (.undecodable e)

/-- The mark that may open a document in UTF-8. -/
def signature : List UInt8 := [0xEF, 0xBB, 0xBF]

/-- Decodes a block of bytes, the last one if `final`. -/
def feed (final : Bool) (bytes : List UInt8) : Decoding → Except ReadFault Progress
  | within codec => decodeWith codec final 0 bytes
  | beforeSignature =>
    if bytes.length < 3 && bytes.isPrefixOf signature then .ok ⟨[], bytes, beforeSignature⟩
    else if signature.isPrefixOf bytes then decodeWith .utf8 final 0 (bytes.drop 3)
    else decodeWith .utf8 final 0 bytes
  | beforeMark =>
    match bytes with
    | 0xFF :: 0xFE :: rest => decodeWith .utf16LittleEndian final 2 rest
    | 0xFE :: 0xFF :: rest => decodeWith .utf16BigEndian final 2 rest
    | _ => do
      let p ← decodeWith .utf16LittleEndian final 0 bytes
      if p.kept.length + 2 ≤ bytes.length then .error .unmarked
      else .ok ⟨[], p.kept, beforeMark⟩
  | foreign decoder seen =>
    match decoder seen final bytes with
    | .ok text => .ok ⟨text, [], foreign decoder (seen ++ [bytes])⟩
    | .error fault => .error fault

/-- How the text of a document is asked for. -/
inductive Manner where
  | lines
  /-- In blocks of so many characters. -/
  | blocks (size : Nat)
  deriving DecidableEq, Repr

/-- Line ends of all three kinds as single newlines. -/
def unifyNewlines : Text → Text
  | [] => []
  | '\r' :: '\n' :: rest => '\n' :: unifyNewlines rest
  | c :: rest => (if c = '\r' then '\n' else c) :: unifyNewlines rest

/-- What can be read of a document. -/
structure Reading where
  text : Text
  /-- The faults of the first reads, which are gone then. -/
  early : List ReadFault := []
  /-- What stands in the way behind the text, if anything does. -/
  obstacle : Option ReadFault := none
  deriving DecidableEq, Repr

/-- What can be read of the bytes of a document. -/
structure Content where
  bytes : List UInt8 := []
  /-- How many bytes the next reads give at most; later ones give all that is asked for. -/
  limits : List Nat := []
  early : List ReadFault := []
  obstacle : Option ReadFault := none
  deriving DecidableEq, Repr

/-- How far a document has been decoded. -/
structure Intake where
  state : Decoding
  /-- The bytes of a character that is not complete yet. -/
  kept : List UInt8 := []
  /-- Whether a carriage return waits for what comes next. -/
  waits : Bool := false
  /-- The texts so far, the last one first. -/
  texts : List Text := []
  /-- How many characters they have. -/
  count : Nat := 0
  /-- How many bytes a character took in the last block. -/
  ratio : Binary64 := .finite false 0 0
  /-- How many bytes the next blocks hold at most. -/
  limits : List Nat := []
  early : List ReadFault := []

namespace Intake

def blockSize : Nat := 8192

/-- How many bytes are asked for next: more than usual where so many more characters are asked for
that they should fill more. -/
def wantedSize (i : Intake) : Manner → Nat
  | .lines => blockSize
  | .blocks size =>
    let wanted := size - i.count % size
    max blockSize (i.ratio.mul (.ofFraction false wanted 1)).floor

def nextSize (i : Intake) (manner : Manner) : Nat :=
  match i.limits with
  | [] => i.wantedSize manner
  | limit :: _ => min limit (i.wantedSize manner)

def resume (i : Intake) (t : Text) : Text := if i.waits then '\r' :: t else t

/-- Takes what a block of so many bytes gives. A carriage return at its end waits. -/
def take (i : Intake) (size : Nat) (p : Progress) : Intake :=
  let text := if p.text.isEmpty then [] else i.resume p.text
  let waits := if p.text.isEmpty then i.waits else text.getLast? = some '\r'
  let text := unifyNewlines (if text.getLast? = some '\r' then text.dropLast else text)
  { i with
    state := p.state, kept := p.kept, waits, texts := text :: i.texts
    count := i.count + text.length, limits := i.limits.tail
    ratio := if text.isEmpty then .finite false 0 0 else .ofFraction false size text.length }

/-- What can be read of a document that goes on with bytes that are none. -/
def damaged (i : Intake) (fault : ReadFault) : Reading :=
  ⟨i.texts.reverse.flatten, i.early, some fault⟩

def finish (i : Intake) (t : Text) : Reading :=
  ⟨(unifyNewlines (i.resume t) :: i.texts).reverse.flatten, i.early, none⟩

end Intake

/-- Decodes block after block, up to the end or to what stands in the way. A block without the mark
that a document must open with is skipped when it has been reported. -/
def decodeBlocks (manner : Manner) (obstacle : Option ReadFault) (i : Intake) (bytes : List UInt8) :
    Reading :=
  match bytes with
  | [] =>
    match obstacle, feed true i.kept i.state with
    | some fault, _ | none, .error fault => i.damaged fault
    | none, .ok p => i.finish p.text
  | b :: rest =>
    let further := i.nextSize manner - 1
    let block := b :: rest.take further
    match feed false (i.kept ++ block) i.state with
    | .ok p => decodeBlocks manner obstacle (i.take block.length p) (rest.drop further)
    | .error .unmarked =>
      decodeBlocks manner obstacle
        { i with limits := i.limits.tail, early := i.early ++ [.unmarked] } (rest.drop further)
    | .error fault => i.damaged fault
termination_by bytes.length
decreasing_by
  · simp only [List.length_drop, List.length_cons]; omega
  · simp only [List.length_drop, List.length_cons]; omega

def read (manner : Manner) (start : Decoding) (c : Content) : Reading :=
  decodeBlocks manner c.obstacle { state := start, limits := c.limits, early := c.early } c.bytes

def wholeText (start : Decoding) (c : Content) : Except ReadFault Text :=
  match c.early, c.obstacle with
  | fault :: _, _ | [], some fault => .error fault
  | [], none => (feed true c.bytes start).map fun p => unifyNewlines p.text

end Decoding

end SentenceReader
