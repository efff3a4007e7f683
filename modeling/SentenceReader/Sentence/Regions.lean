import SentenceReader.Region.Source
import SentenceReader.Sentence.Segmenter

/-! Sentences of a marked-up document: those of each of its regions, one region after the other.
Every region has a segmenter of its own, so no sentence spans two of them; a region without
sentences is passed over. -/
namespace SentenceReader

/-- The sentences of the regions of a document, one by one. -/
structure RegionSegmenter where
  config : Config
  regions : RegionSource
  /-- The sentences of the current region. -/
  current : Option Segmenter := none
  /-- The next sentence, where it was looked for already. -/
  ready : Option Sentence := none
  /-- How many regions were taken up. -/
  count : Nat := 0
  /-- Whether no regions are left, or reading has failed; the stream is closed then. -/
  finished : Bool := false

namespace RegionSegmenter

/-- The sentences of the regions of a document in a stream. -/
def ofStream [PatternHost] (c : Config) (stream : TextStream) : Except Fault RegionSegmenter :=
  (RegionSource.ofText stream c.elementFilter c.keepInternalTags).map fun regions =>
    { config := c, regions }

/-- The sentences of texts that stand in for the regions of a document. -/
def ofTexts (c : Config) (stream : TextStream) (texts : List Text) : RegionSegmenter :=
  { config := c, regions := .given texts stream }

def stream (s : RegionSegmenter) : TextStream := s.regions.stream

def mapStream (f : TextStream → TextStream) (s : RegionSegmenter) : RegionSegmenter :=
  { s with regions := s.regions.mapStream f }

/-- Ends the sequence and closes the stream of the document. -/
def finish (s : RegionSegmenter) : RegionSegmenter :=
  { s.mapStream TextStream.release with finished := true }

def fromCurrent (s : RegionSegmenter) : Reply RegionSegmenter (Option Sentence) :=
  match s.current with
  | none => ⟨.ok none, s, []⟩
  | some segmenter =>
    let more := segmenter.hasNext.andThen fun found segmenter =>
      if found then (segmenter.next.andThen fun sentence segmenter => ⟨.ok (some sentence), segmenter, []⟩)
      else ⟨.ok none, segmenter, []⟩
    more.mapState fun segmenter => { s with current := some segmenter }

def takeUp (s : RegionSegmenter) (text : Text) : Reply RegionSegmenter Unit :=
  let s := { s with count := s.count + 1 }
  let opened := Event.regionOpened s.count text.length
  match Segmenter.ofStream s.config (.ofText text) with
  | (.error fault, events) => ⟨.error fault, s, opened :: events⟩
  | (.ok segmenter, events) => ⟨.ok (), { s with current := some segmenter }, opened :: events⟩

theorem regions_fromCurrent (s : RegionSegmenter) : s.fromCurrent.state.regions = s.regions := by
  unfold fromCurrent
  split <;> rfl

theorem regions_takeUp (s : RegionSegmenter) (text : Text) :
    (s.takeUp text).state.regions = s.regions := by
  unfold takeUp
  dsimp only
  split <;> rfl

/-- Looks for the next sentence unless it was found already: in the current region, then in the
next ones. At the end, and where reading fails, the stream of the document is closed. -/
def fill (s : RegionSegmenter) : Reply RegionSegmenter Unit :=
  if s.ready.isSome || s.finished then ⟨.ok (), s, []⟩
  else match _hc : s.fromCurrent with
    | ⟨.error fault, s, events⟩ => ⟨.error fault, s, events⟩
    | ⟨.ok (some sentence), s, events⟩ => ⟨.ok (), { s with ready := some sentence }, events⟩
    | ⟨.ok none, s₁, events⟩ =>
      match _hr : s₁.regions.next? with
      | (.error fault, regions) =>
        let s := { s₁ with regions }
        if fault.isUnreadable then
          ⟨.error fault, s.finish,
            events ++ [.readFailed fault.message (some s.count), .streamReleased (some s.count)]⟩
        else ⟨.error fault, s, events⟩
      | (.ok none, regions) =>
        let s := { s₁ with regions, current := none }
        ⟨.ok (), s.finish, events ++ [.streamReleased (some s.count)]⟩
      | (.ok (some text), regions) =>
        match _ht : takeUp { s₁ with regions } text with
        | ⟨.error fault, s, more⟩ => ⟨.error fault, s, events ++ more⟩
        | ⟨.ok (), s₂, more⟩ => (fill s₂).after (events ++ more)
termination_by s.regions.remaining
decreasing_by
  have h₁ := regions_fromCurrent s
  simp only [_hc] at h₁
  have h₂ := RegionSource.remaining_of_next? _hr
  have h₃ := regions_takeUp { s₁ with regions } text
  simp only [_ht] at h₃
  rw [h₃, ← h₁]
  exact h₂

def hasNext (s : RegionSegmenter) : Reply RegionSegmenter Bool :=
  s.fill.andThen fun _ s => ⟨.ok s.ready.isSome, s, []⟩

/-- The next sentence; that there is none is a fault. -/
def next (s : RegionSegmenter) : Reply RegionSegmenter Sentence :=
  s.fill.andThen fun _ s =>
    match s.ready with
    | none => ⟨.error .exhausted, s, []⟩
    | some sentence => ⟨.ok sentence, { s with ready := none }, []⟩

end RegionSegmenter

end SentenceReader
