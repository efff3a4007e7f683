import SentenceReader.Proofs.Recording
import SentenceReader.Proofs.Sentence.Sequences

/-! The lengths of sentences that are recorded. Every sentence that is found is recorded with its length
when it is found, and no other length is recorded, whatever regions are passed over on the way and
however the search ends. -/
namespace SentenceReader

namespace Segmenter

/-- The sentence that was built is found and its length recorded, or there is none and no length is. -/
theorem lengths_conclude {built : Except Fault (Option Sentence) × Segmenter}
    (h : built.2.ready = none) :
    Event.sentenceLengths (conclude built).events =
        (conclude built).state.ready.toList.map List.length ∧
      ∀ fault, (conclude built).result = .error fault → (conclude built).state.ready = none := by
  obtain ⟨result, s⟩ := built
  replace h : s.ready = none := h
  rcases result with fault | _ | sentence
  · simp only [conclude]
    split <;> simp [finish, mapStream, h, Event.sentenceLengths, List.filterMap, Event.sentenceLength?]
  · simp [conclude, finish, mapStream, h, Event.sentenceLengths, List.filterMap, Event.sentenceLength?]
  · simp [conclude, Event.sentenceLengths, Event.sentenceLength?]

theorem measures : lookAhead.Measures fun _ => True where
  take _ _ := ⟨trivial, rfl⟩
  fill s _ := by
    refine ⟨trivial, ?_⟩
    change s.ready.toList.map List.length ++ Event.sentenceLengths s.fill.events =
      s.fill.state.ready.toList.map List.length
    by_cases hs : (s.ready.isSome || s.finished) = true
    · rw [fill_of_settled hs]
      exact List.append_nil _
    · have hr : s.ready = none := by simp_all
      rw [fill_of_unsettled hs, hr]
      exact (lengths_conclude (s.ready_build.trans hr)).1
  failed s fault _ hf := by
    change s.fill.result = .error fault at hf
    change s.fill.state.ready = none
    by_cases hs : (s.ready.isSome || s.finished) = true
    · rw [fill_of_settled hs] at hf
      simp at hf
    · have hr : s.ready = none := by simp_all
      rw [fill_of_unsettled hs] at hf ⊢
      exact (lengths_conclude (s.ready_build.trans hr)).2 fault hf

/-- No length is recorded where a segmenter is made. -/
theorem lengths_ofStream (c : Config) (stream : TextStream) :
    Event.sentenceLengths (ofStream c stream).2 = [] := by
  unfold ofStream
  split <;> rfl

end Segmenter

namespace RegionSegmenter

theorem fromCurrent_of_none {s : RegionSegmenter} (h : s.current = none) :
    s.fromCurrent = ⟨.ok none, s, []⟩ := by
  rw [fromCurrent, h]

/-- The current region is asked first whether it has another sentence. -/
theorem fromCurrent_of_some {s : RegionSegmenter} {segmenter : Segmenter}
    (h : s.current = some segmenter) :
    s.fromCurrent = (Segmenter.lookAhead.next? segmenter).mapState
      fun segmenter => { s with current := some segmenter } := by
  unfold fromCurrent LookAhead.next?
  rw [h, Segmenter.next_lookAhead]
  rfl

/-- Of the current region no sentence waits that was found before. -/
def CurrentWaits (s : RegionSegmenter) : Prop := ∀ segmenter ∈ s.current, segmenter.ready = none

/-- The current region records the length of the sentence that it gives, if it gives one. -/
theorem measures_fromCurrent {s : RegionSegmenter} (h : s.CurrentWaits) :
    s.fromCurrent.state.CurrentWaits ∧ Event.sentenceLengths s.fromCurrent.events =
      (s.fromCurrent.result.toOption.bind id).toList.map List.length := by
  cases hc : s.current with
  | none =>
    rw [fromCurrent_of_none hc]
    exact ⟨h, rfl⟩
  | some segmenter =>
    obtain ⟨-, hready, hlengths⟩ := Segmenter.measures.next? (s := segmenter) trivial (h segmenter hc)
    rw [fromCurrent_of_some hc]
    refine ⟨?_, hlengths⟩
    rintro _ ⟨⟩
    exact hready

/-- No length is recorded where a region is taken up, and none of its sentences waits. -/
theorem measures_takeUp {s : RegionSegmenter} (h : s.CurrentWaits) (text : Text) :
    (s.takeUp text).state.CurrentWaits ∧ Event.sentenceLengths (s.takeUp text).events = [] := by
  have hopening := Segmenter.lengths_ofStream s.config (.ofText text)
  unfold takeUp
  dsimp only
  cases ho : Segmenter.ofStream s.config (.ofText text) with
  | mk result events =>
    rw [ho] at hopening
    cases result with
    | error fault => exact ⟨h, hopening⟩
    | ok segmenter =>
      refine ⟨?_, hopening⟩
      rintro _ ⟨⟩
      exact (Segmenter.waiting_of_ofStream (congrArg Prod.fst ho)).1.ready

/-- What is done to find a sentence records its length, if it is found. -/
structure Counted (r : Reply RegionSegmenter Unit) : Prop where
  waits : r.state.CurrentWaits
  lengths : Event.sentenceLengths r.events = r.state.ready.toList.map List.length
  failed : ∀ fault, r.result = .error fault → r.state.ready = none

theorem counted_takeNext {s : RegionSegmenter} (h : s.CurrentWaits) (hr : s.ready = none)
    (hfill : ∀ s' : RegionSegmenter, s'.regions.remaining < s.regions.remaining → s'.CurrentWaits →
      s'.ready = none → Counted s'.fill) : Counted s.takeNext := by
  unfold takeNext
  cases hn : s.regions.next? with
  | mk result regions =>
    rcases result with fault | _ | text
    · dsimp only
      split
      · exact ⟨h, by rw [show RegionSegmenter.ready _ = none from hr]; rfl, fun _ _ => hr⟩
      · exact ⟨h, by rw [show RegionSegmenter.ready _ = none from hr]; rfl, fun _ _ => hr⟩
    · exact ⟨by simp [CurrentWaits, finish, mapStream],
        by rw [show RegionSegmenter.ready _ = none from hr]; rfl, fun _ _ => hr⟩
    · let s₁ : RegionSegmenter := { s with regions }
      obtain ⟨hwaits, hlengths⟩ := measures_takeUp (s := s₁) h text
      obtain ⟨_, hstate⟩ := s₁.takeUp_state text
      have hready : (s₁.takeUp text).state.ready = none := by rw [hstate]; exact hr
      have hlt : (s₁.takeUp text).state.regions.remaining < s.regions.remaining := by
        rw [regions_takeUp]
        exact RegionSource.remaining_of_next? hn
      have hfilled := hfill _ hlt hwaits hready
      change Counted ((s₁.takeUp text).andThen fun _ s => s.fill)
      unfold Reply.andThen
      split
      · exact ⟨hwaits, by rw [hlengths, hready]; rfl, fun _ _ => hready⟩
      · refine ⟨hfilled.waits, ?_, hfilled.failed⟩
        rw [Reply.after, Event.sentenceLengths_append, hlengths]
        exact hfilled.lengths

theorem counted_fill {s : RegionSegmenter} (h : s.CurrentWaits) (hr : s.ready = none) :
    Counted s.fill := by
  induction hsize : s.regions.remaining using Nat.strongRecOn generalizing s with
  | ind size ih =>
    by_cases hs : (s.ready.isSome || s.finished) = true
    · rw [fill_of_settled hs]
      exact ⟨h, by rw [hr]; rfl, by simp⟩
    · rw [fill_of_unsettled hs]
      have hregions := s.regions_fromCurrent
      obtain ⟨_, hstate⟩ := s.fromCurrent_state
      obtain ⟨hwaits, hlengths⟩ := measures_fromCurrent h
      generalize s.fromCurrent = r at hregions hstate hwaits hlengths ⊢
      obtain ⟨result, s₁, events⟩ := r
      have hready : s₁.ready = none := (congrArg ready hstate).trans hr
      rcases result with fault | _ | sentence
      · exact ⟨hwaits, by rw [hready]; exact hlengths, fun _ _ => hready⟩
      · have hnext := counted_takeNext hwaits hready fun s' hlt hw hr =>
          ih _ (hsize ▸ hregions ▸ hlt) hw hr rfl
        refine ⟨hnext.waits, ?_, hnext.failed⟩
        simp only [Reply.after, Event.sentenceLengths_append]
        exact (congrArg₂ _ hlengths hnext.lengths)
      · exact ⟨hwaits, hlengths, by simp⟩

theorem measures : lookAhead.Measures CurrentWaits where
  take s hs := ⟨hs, rfl⟩
  fill s hs := by
    cases hr : s.ready with
    | none =>
      have hcounted := counted_fill hs hr
      change s.fill.state.CurrentWaits ∧ s.ready.toList.map List.length ++ _ = _
      rw [hr]
      exact ⟨hcounted.waits, hcounted.lengths⟩
    | some sentence =>
      have hfill : s.fill = ⟨.ok (), s, []⟩ := fill_of_settled (by rw [hr]; rfl)
      change s.fill.state.CurrentWaits ∧ s.ready.toList.map List.length ++
        Event.sentenceLengths s.fill.events = s.fill.state.ready.toList.map List.length
      rw [hfill]
      exact ⟨hs, List.append_nil _⟩
  failed s fault hs hf := by
    refine (counted_fill hs ?_).failed fault hf
    by_contra hr
    have hfill : s.fill = ⟨.ok (), s, []⟩ := fill_of_settled (by simp [Option.isSome_iff_ne_none.2 hr])
    change s.fill.result = .error fault at hf
    rw [hfill] at hf
    simp at hf

end RegionSegmenter

end SentenceReader
