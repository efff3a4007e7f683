import SentenceReader.Encoding.Decoding

/-! What is inside a compressed document. It has members, each of them with a header, blocks of bytes that
are stored or coded, and a checksum. What is in front of a fault can be read. -/
namespace SentenceReader

/-- Where the reading of a compressed document stands. -/
structure Inflater where
  /-- What is left of the byte that is being read, the lowest bit first. -/
  bits : List Bool := []
  rest : List UInt8
  /-- The bytes of the members that have been read, and of the one that is being read. -/
  done : Array UInt8 := #[]
  out : Array UInt8 := #[]
  /-- Whether a header has been read. -/
  begun : Bool := false

namespace Inflater

/-- Reading takes bits and gives bytes, up to a fault. -/
abbrev Reading := ExceptT ReadFault (StateM Inflater)

/-- Fails; the bytes are not what compressing gives. -/
def corrupt {α : Type} (words : String) : Reading α :=
  throw (.foreign false ("Error -3 while decompressing data: " ++ words))

def bitsOf (b : UInt8) : List Bool := (List.range 8).map b.toNat.testBit

/-- The next byte, whatever is left of the one before it. -/
def takeByte : Reading UInt8 := do
  let s ← get
  match s.rest with
  | [] => throw .cutShort
  | b :: rest =>
    set { s with bits := [], rest }
    return b

def takeBit : Reading Bool := do
  let s ← get
  match s.bits with
  | bit :: bits =>
    set { s with bits }
    return bit
  | [] =>
    let b ← takeByte
    modify fun s => { s with bits := (bitsOf b).tail }
    return b.toNat.testBit 0

/-- A number of so many bits, the lowest first. -/
def takeNumber : Nat → Reading Nat
  | 0 => return 0
  | n + 1 => do
    let bit ← takeBit
    return bit.toNat + 2 * (← takeNumber n)

/-- A number of so many bytes, the lowest first. -/
def takeBytes : Nat → Reading Nat
  | 0 => return 0
  | n + 1 => do
    let b ← takeByte
    return b.toNat + 256 * (← takeBytes n)

def give (b : UInt8) : Reading Unit := modify fun s => { s with out := s.out.push b }

/-! ### Codes -/

/-- A code: how many symbols have each length from one on, and the symbols in order of their lengths. -/
structure Code where
  counts : List Nat
  symbols : Array Nat

/-- The code in which symbols have given lengths; those without one are not used. -/
def Code.ofLengths (lengths : List Nat) : Code :=
  let ofLength := fun n => (lengths.zipIdx.filter (·.1 = n + 1)).map Prod.snd
  ⟨(List.range 15).map fun n => (ofLength n).length,
    ((List.range 15).flatMap ofLength).toArray⟩

/-- The symbol of the next bits, of which some have been read: the number that they make, the first
number of their length, and the place of its symbol. -/
def takeSymbolFrom (symbols : Array Nat) (code first place : Nat) : List Nat → Reading Nat
  | [] => corrupt "invalid code"
  | count :: counts => do
    let code := 2 * code + (← takeBit).toNat
    if code < first + count then return symbols.getD (place + (code - first)) 0
    else takeSymbolFrom symbols code (2 * (first + count)) (place + count) counts

def takeSymbol (c : Code) : Reading Nat := takeSymbolFrom c.symbols 0 0 0 c.counts

/-- The least number that each of some symbols stands for, with how many further bits it has. -/
def spans (start : Nat) : List Nat → List (Nat × Nat)
  | [] => []
  | bits :: rest => (start, bits) :: spans (start + 2 ^ bits) rest

/-- How many bytes a symbol repeats. -/
def lengths : List (Nat × Nat) :=
  spans 3 [0, 0, 0, 0, 0, 0, 0, 0, 1, 1, 1, 1, 2, 2, 2, 2, 3, 3, 3, 3, 4, 4, 4, 4, 5, 5, 5, 5]
    ++ [(258, 0)]

/-- How far back a symbol reaches. -/
def distances : List (Nat × Nat) :=
  spans 1 [0, 0, 0, 0, 1, 1, 2, 2, 3, 3, 4, 4, 5, 5, 6, 6, 7, 7, 8, 8, 9, 9, 10, 10, 11, 11, 12, 12,
    13, 13]

/-- The number that a symbol and the bits behind it stand for. -/
def takeSpan (table : List (Nat × Nat)) (symbol : Nat) (words : String) : Reading Nat :=
  match table[symbol]? with
  | none => corrupt words
  | some (least, bits) => return least + (← takeNumber bits)

/-- Gives bytes again that were given so far back. -/
def again (distance : Nat) : Nat → Reading Unit
  | 0 => return ()
  | n + 1 => do
    let s ← get
    give (s.out.getD (s.out.size - distance) 0)
    again distance n

/-- The bytes of a coded block; every symbol takes a bit. -/
def codedBlock (literals repeats : Code) : Nat → Reading Unit
  | 0 => throw .cutShort
  | fuel + 1 => do
    let symbol ← takeSymbol literals
    if symbol < 256 then
      give (UInt8.ofNat symbol)
      codedBlock literals repeats fuel
    else if symbol ≠ 256 then
      let length ← takeSpan lengths (symbol - 257) "invalid literal/length code"
      let distance ← takeSpan distances (← takeSymbol repeats) "invalid distance code"
      if (← get).out.size < distance then corrupt "invalid distance too far back"
      again distance length
      codedBlock literals repeats fuel

/-- The code that is used where a block brings none of its own. -/
def fixedLengths : List Nat :=
  List.replicate 144 8 ++ List.replicate 112 9 ++ List.replicate 24 7 ++ List.replicate 8 8

/-- The order in which the lengths for the code of lengths are written. -/
def lengthOrder : List Nat := [16, 17, 18, 0, 8, 7, 9, 6, 10, 5, 11, 4, 12, 3, 13, 2, 14, 1, 15]

/-- Lengths of symbols, the last one first, up to so many. -/
def takeLengths (code : Code) (wanted : Nat) : Nat → List Nat → Reading (List Nat)
  | 0, _ => throw .cutShort
  | fuel + 1, found => do
    if wanted ≤ found.length then
      if wanted < found.length then corrupt "invalid bit length repeat"
      return found.reverse
    let symbol ← takeSymbol code
    if symbol < 16 then takeLengths code wanted fuel (symbol :: found)
    else if symbol = 16 then
      match found.head? with
      | none => corrupt "invalid bit length repeat"
      | some last =>
        takeLengths code wanted fuel (List.replicate (3 + (← takeNumber 2)) last ++ found)
    else
      let count ← if symbol = 17 then (3 + ·) <$> takeNumber 3 else (11 + ·) <$> takeNumber 7
      takeLengths code wanted fuel (List.replicate count 0 ++ found)

def takeNumbers (bits : Nat) : Nat → Reading (List Nat)
  | 0 => return []
  | n + 1 => do
    let first ← takeNumber bits
    return first :: (← takeNumbers bits n)

/-- The two codes that a block brings. -/
def takeCodes : Reading (Code × Code) := do
  let literals := 257 + (← takeNumber 5)
  let repeats := 1 + (← takeNumber 5)
  let count := 4 + (← takeNumber 4)
  let written := lengthOrder.zip (← takeNumbers 3 count)
  let code := Code.ofLengths ((List.range 19).map fun n => (written.lookup n).getD 0)
  let wanted := literals + repeats
  let found ← takeLengths code wanted (wanted + 1) []
  return (.ofLengths (found.take literals), .ofLengths (found.drop literals))

/-! ### Blocks and members -/

def storedBytes : Nat → Reading Unit
  | 0 => return ()
  | n + 1 => do
    give (← takeByte)
    storedBytes n

def storedBlock : Reading Unit := do
  let size ← takeBytes 2
  if size + (← takeBytes 2) ≠ 0xFFFF then corrupt "invalid stored block lengths"
  storedBytes size

/-- Blocks up to the last one; every block takes a bit. -/
def takeBlocks : Nat → Reading Unit
  | 0 => throw .cutShort
  | fuel + 1 => do
    let isLast ← takeBit
    let bound := fun s : Inflater => 8 * s.rest.length + 8
    match ← takeNumber 2 with
    | 0 => storedBlock
    | 1 => codedBlock (.ofLengths fixedLengths) (.ofLengths (List.replicate 30 5)) (bound (← get))
    | 2 =>
      let (literals, repeats) ← takeCodes
      codedBlock literals repeats (bound (← get))
    | _ => corrupt "invalid block type"
    if !isLast then takeBlocks fuel

/-- The checksum of bytes behind others. -/
def checksum (out : Array UInt8) : Nat :=
  let shift := fun c : Nat => if c.testBit 0 then (c >>> 1) ^^^ 0xEDB88320 else c >>> 1
  (out.foldl (fun c b => Nat.repeat shift 8 (c ^^^ b.toNat)) 0xFFFFFFFF) ^^^ 0xFFFFFFFF

def skipText : Nat → Reading Unit
  | 0 => throw .cutShort
  | fuel + 1 => do
    if (← takeByte) ≠ 0 then skipText fuel

def skipHeader : Reading Unit := do
  let method ← takeByte
  let parts ← takeByte
  let _ ← takeBytes 6
  if method ≠ 8 then throw .unknownCompression
  let has := fun bit : UInt8 => parts &&& bit ≠ 0
  if has 4 then let _ ← takeBytes (← takeBytes 2)
  if has 8 then skipText ((← get).rest.length + 1)
  if has 16 then skipText ((← get).rest.length + 1)
  if has 2 then let _ ← takeBytes 2

/-- The checksum and the length behind the blocks of a member. -/
def checkEnd : Reading Unit := do
  let sum ← takeBytes 4
  let size ← takeBytes 4
  let s ← get
  let found := checksum s.out
  if sum ≠ found then
    throw (.foreign true ("CRC check failed 0x" ++ String.ofList (Quoted.hex 1 sum) ++ " != 0x"
      ++ String.ofList (Quoted.hex 1 found)))
  if size ≠ s.out.size % 0x100000000 then throw (.foreign true "Incorrect length of data produced")
  set { s with done := s.done ++ s.out, out := #[] }

/-- The first two bytes of a member. -/
def mark : List UInt8 := [0x1F, 0x8B]

/-- Members up to the end; zeros between them do not count. -/
def takeMembers : Nat → Reading Unit
  | 0 => return ()
  | fuel + 1 => do
    let s ← get
    if s.rest.isEmpty then return
    if s.rest.take 2 ≠ mark then throw (.notCompressed (s.rest.take 2))
    set { s with rest := s.rest.drop 2 }
    skipHeader
    modify fun s => { s with begun := true }
    takeBlocks (8 * s.rest.length)
    checkEnd
    modify fun s => { s with rest := s.rest.dropWhile (· = 0) }
    takeMembers fuel

end Inflater

/-- What is inside a compressed document. When its header ends too early that is told once, and there is
nothing behind it. -/
def Decoding.Content.expand (c : Content) : Content :=
  let (result, s) := (Inflater.takeMembers c.bytes.length).run.run { rest := c.bytes }
  let c := { c with bytes := (s.done ++ s.out).toList }
  match result with
  | .ok () => c
  | .error .cutShort =>
    let fault := c.obstacle.getD .cutShort
    if s.begun then { c with obstacle := some fault } else { c with early := c.early ++ [fault] }
  | .error fault => { c with obstacle := some fault }

end SentenceReader
