import SentenceReader.Region.Reader

/-! Sources of regions. A source owns the stream of its document and gives the texts of its regions
one by one. -/
namespace SentenceReader

/-- Regions that are found in a document, or texts that were given beforehand in place of those of
a document, whose stream is not read. -/
inductive RegionSource where
  | read (reader : RegionReader)
  | given (texts : List Text) (stream : TextStream)
  deriving Repr

namespace RegionSource

/-- The regions of a document in a stream: those of elements with a name that a written pattern
accepts, with or without the tags inside. -/
def ofText [PatternHost] (stream : TextStream) (written : Text) (keepTags : Bool) :
    Except Fault RegionSource :=
  match Pattern.ofText written with
  | .error fault => .error (.badPattern written fault)
  | .ok pattern => .ok (read { rules := { pattern, keepTags }, reader := { stream } })

def stream : RegionSource → TextStream
  | read s => s.reader.stream
  | given _ stream => stream

def mapStream (f : TextStream → TextStream) : RegionSource → RegionSource
  | read s => read { s with reader := { s.reader with stream := f s.reader.stream } }
  | given texts stream => given texts (f stream)

/-- Looks for the next region unless it was found already. -/
def fill : RegionSource → Except ReadFault Unit × RegionSource
  | read s => let (r, s) := s.fill; (r, read s)
  | given texts stream => (.ok (), given texts stream)

def ready? : RegionSource → Option Text
  | read s => s.ready
  | given texts _ => texts.head?

def dropReady : RegionSource → RegionSource
  | read s => read { s with ready := none }
  | given texts stream => given texts.tail stream

def hasNext (s : RegionSource) : Except Fault Bool × RegionSource :=
  match s.fill with
  | (.error cause, s) => (.error (.ofRead cause), s)
  | (.ok (), s) => (.ok s.ready?.isSome, s)

def next? (s : RegionSource) : Except Fault (Option Text) × RegionSource :=
  match s.fill with
  | (.error cause, s) => (.error (.ofRead cause), s)
  | (.ok (), s) =>
    match s.ready? with
    | none => (.ok none, s)
    | some t => (.ok (some t), s.dropReady)

/-- The text of the next region; that there is none is a fault. -/
def next (s : RegionSource) : Except Fault Text × RegionSource :=
  match s.next? with
  | (.error fault, s) => (.error fault, s)
  | (.ok none, s) => (.error .exhausted, s)
  | (.ok (some t), s) => (.ok t, s)

/-- How far a source is from its end: by the characters to be read and the regions found. -/
def remaining : RegionSource → Nat
  | read s => s.reader.remaining.length + (if s.ready.isSome then 1 else 0)
  | given texts _ => texts.length

@[simp] theorem stream_mapStream (f : TextStream → TextStream) (s : RegionSource) :
    (s.mapStream f).stream = f s.stream := by
  cases s <;> rfl

theorem remaining_fill_le {s s' : RegionSource} (h : s.fill = (.ok (), s')) :
    s'.ready?.isSome → s'.remaining ≤ s.remaining := by
  cases s with
  | given texts stream =>
    simp only [fill, Prod.mk.injEq, true_and] at h
    rw [← h]
    exact fun _ => Nat.le_refl _
  | read s =>
    simp only [fill, RegionReader.fill, Prod.mk.injEq] at h
    obtain ⟨h₁, h₂⟩ := h
    rw [← h₂]
    split
    · exact fun _ => Nat.le_refl _
    · next hn =>
      split
      · next hf => simp [hn, hf] at h₁
      · simp_all [ready?]
      · next hf =>
        have hl := RegionRules.length_remaining_findRegion_lt _ _ hf
        intro _
        simp only [remaining, Option.isSome_some, if_true]
        omega

/-- A region that is given out brings the source nearer to its end. -/
theorem remaining_of_next? {s s' : RegionSource} {t : Text} (h : s.next? = (.ok (some t), s')) :
    s'.remaining < s.remaining := by
  unfold next? at h
  split at h
  · simp at h
  · next s₁ hf =>
    split at h
    · simp at h
    · next u hr =>
      simp only [Prod.mk.injEq] at h
      have hle := remaining_fill_le hf (by simp [hr])
      rw [← h.2]
      refine Nat.lt_of_lt_of_le ?_ hle
      cases s₁ with
      | read r => simp [ready?] at hr; simp [dropReady, remaining, hr]
      | given texts stream =>
        cases texts with
        | nil => simp [ready?] at hr
        | cons a rest => simp [dropReady, remaining]

end RegionSource

end SentenceReader
