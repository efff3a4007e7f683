import SentenceReader.Stream.Fault

/-! Streams of characters. A stream gives its text line by line or block by block, counts its reads
and its closings, and can be made to fail at chosen reads. A failed read takes nothing away. -/
namespace SentenceReader

/-- A source of characters that is read once, from its start to its end. -/
structure TextStream where
  /-- The characters still to be read. -/
  rest : Text
  /-- The faults of the next reads. Each of them is met once. -/
  early : List ReadFault := []
  /-- What is met behind the last character, if it is not the end. -/
  obstacle : Option ReadFault := none
  /-- The reads that fail, by number from one. -/
  failing : List Nat := []
  /-- How many characters the next blocks hold at most; later ones hold the usual number. -/
  blocks : List Nat := []
  /-- Whether the characters come from a file. -/
  isFile : Bool := false
  /-- Whether closing reports a failure, after it has closed the stream. -/
  closeFails : Bool := false
  /-- The reads that were tried. -/
  reads : Nat := 0
  /-- How often the stream was closed. -/
  closes : Nat := 0
  /-- Whether the stream is closed. -/
  closed : Bool := false
  deriving Repr, Inhabited

namespace TextStream

def ofText (t : Text) : TextStream := { rest := t }

/-- The characters that a block holds at most. -/
def blockLimit : Nat := 8192

/-- The first line of a text with its newline, and what follows. -/
def cutLine (t : Text) : Text × Text :=
  match t.dropWhile (· != '\n') with
  | [] => (t, [])
  | _ :: rest => (t.takeWhile (· != '\n') ++ ['\n'], rest)

/-- Counts a read, which then fails, finds the stream closed, or may go on. -/
def beginRead (s : TextStream) : Except ReadFault Unit × TextStream :=
  let s := { s with reads := s.reads + 1 }
  if s.failing.contains s.reads then (.error .device, s)
  else if s.closed then (.error (.closed s.isFile), s)
  else match s.early with
    | fault :: later => (.error fault, { s with early := later })
    | [] => (.ok (), s)

/-- Reads the rest of the current line with its newline; nothing is left if it is empty. -/
def readLine (s : TextStream) : Except ReadFault Text × TextStream :=
  match s.beginRead with
  | (.error fault, s) => (.error fault, s)
  | (.ok (), s) =>
    match s.obstacle, s.rest.contains '\n' with
    | some fault, false => (.error fault, s)
    | _, _ => (.ok (cutLine s.rest).1, { s with rest := (cutLine s.rest).2 })

/-- How many characters the next block holds at most; never none. -/
def nextLimit (s : TextStream) : Nat := max 1 (s.blocks.headD blockLimit)

/-- Reads the next block; nothing is left if it is empty. -/
def readBlock (s : TextStream) : Except ReadFault Text × TextStream :=
  match s.beginRead with
  | (.error fault, s) => (.error fault, s)
  | (.ok (), s) =>
    match s.obstacle, decide (s.rest.length < s.nextLimit) with
    | some fault, true => (.error fault, s)
    | _, _ => (.ok (s.rest.take s.nextLimit),
        { s with rest := s.rest.drop s.nextLimit, blocks := s.blocks.tail })

def close (s : TextStream) : Except ReadFault Unit × TextStream :=
  (if s.closeFails then .error .device else .ok (),
    { s with closes := s.closes + 1, closed := true })

/-- Closes the stream for good, whatever closing reports. -/
def release (s : TextStream) : TextStream := s.close.2

theorem cutLine_append (t : Text) : (cutLine t).1 ++ (cutLine t).2 = t := by
  have h := List.takeWhile_append_dropWhile (p := (· != '\n')) (l := t)
  unfold cutLine
  split
  · simp
  · next c rest hd =>
    have hc : c = '\n' := by
      have := List.head_dropWhile_not (l := t) (· != '\n') (by simp [hd])
      simpa [hd] using this
    rw [hd, hc] at h
    simpa using h

/-- Starting a read changes nothing that can be read. -/
@[simp] theorem rest_beginRead (s : TextStream) : s.beginRead.2.rest = s.rest := by
  unfold beginRead
  dsimp only
  split
  · rfl
  · split
    · rfl
    · split <;> rfl

/-- A line that is read is the front of what was left. -/
theorem append_of_readLine {s s' : TextStream} {line : Text}
    (h : s.readLine = (.ok line, s')) : line ++ s'.rest = s.rest := by
  unfold readLine at h
  split at h
  · simp at h
  · next s₁ hs =>
    have hr : s₁.rest = s.rest := by have := rest_beginRead s; rwa [hs] at this
    split at h
    · simp at h
    · simp only [Prod.mk.injEq, Except.ok.injEq] at h
      rw [← h.1, ← h.2, ← hr]
      exact cutLine_append s₁.rest

/-- A block that is read is the front of what was left. -/
theorem append_of_readBlock {s s' : TextStream} {block : Text}
    (h : s.readBlock = (.ok block, s')) : block ++ s'.rest = s.rest := by
  unfold readBlock at h
  split at h
  · simp at h
  · next s₁ hs =>
    have hr : s₁.rest = s.rest := by have := rest_beginRead s; rwa [hs] at this
    split at h
    · simp at h
    · simp only [Prod.mk.injEq, Except.ok.injEq] at h
      rw [← h.1, ← h.2, ← hr]
      exact List.take_append_drop _ _

/-- Reading a line that is not empty leaves less to read. -/
theorem length_rest_of_readLine {s s' : TextStream} {line : Text}
    (h : s.readLine = (.ok line, s')) : line.length + s'.rest.length = s.rest.length := by
  rw [← append_of_readLine h, List.length_append]

/-- Reading a block that is not empty leaves less to read. -/
theorem length_rest_of_readBlock {s s' : TextStream} {block : Text}
    (h : s.readBlock = (.ok block, s')) : block.length + s'.rest.length = s.rest.length := by
  rw [← append_of_readBlock h, List.length_append]

/-- A failed read leaves all there is to read. -/
theorem rest_of_readLine_error {s s' : TextStream} {fault : ReadFault}
    (h : s.readLine = (.error fault, s')) : s'.rest = s.rest := by
  have hb := rest_beginRead s
  unfold readLine at h
  split at h
  · next hs =>
    simp only [Prod.mk.injEq] at h
    rw [hs] at hb
    rw [← h.2]
    exact hb
  · next s₁ hs =>
    rw [hs] at hb
    split at h
    · simp only [Prod.mk.injEq] at h
      rw [← h.2]
      exact hb
    · simp at h

/-- A failed read leaves all there is to read. -/
theorem rest_of_readBlock_error {s s' : TextStream} {fault : ReadFault}
    (h : s.readBlock = (.error fault, s')) : s'.rest = s.rest := by
  have hb := rest_beginRead s
  unfold readBlock at h
  split at h
  · next hs =>
    simp only [Prod.mk.injEq] at h
    rw [hs] at hb
    rw [← h.2]
    exact hb
  · next s₁ hs =>
    rw [hs] at hb
    split at h
    · simp only [Prod.mk.injEq] at h
      rw [← h.2]
      exact hb
    · simp at h

@[simp] theorem closes_release (s : TextStream) : s.release.closes = s.closes + 1 := rfl
@[simp] theorem closed_release (s : TextStream) : s.release.closed = true := rfl
@[simp] theorem rest_release (s : TextStream) : s.release.rest = s.rest := rfl

example : (ofText "a\nb".toList).readLine.1 = .ok "a\n".toList := by rfl

end TextStream

end SentenceReader
