import Mathlib
import SentenceReader.Proofs.Sentence.Sequences

/-! The streams of sequences of sentences. A stream is closed by the call that finds that there are no
more sentences, or cannot read on, and is left alone from then on. -/
namespace SentenceReader

theorem Segmenter.releasesOnce {c : Config} {stream : TextStream} {s : Segmenter}
    (h : (ofStream c stream).1 = .ok s) :
    calls.ReleasesOnce Segmenter.stream withStream finished s := by
  rw [calls_eq]
  rw [eq_ofSource h]
  exact owner.releasesOnce (fun _ => rfl) rfl

theorem RegionSegmenter.releasesOnce (c : Config) (regions : RegionSource) :
    calls.ReleasesOnce RegionSegmenter.stream withStream finished { config := c, regions } := by
  rw [calls_eq]
  exact owner.releasesOnce (good_start c regions) rfl

/-- Whatever reads of the stream fail, and however closing it goes, the sentences of a text, those of
given texts and those of the regions of a document close their stream in the call that comes to their
end, and only there. -/
theorem Config.HasTokens.releases_once [PatternHost] {c : Config} (h : c.HasTokens)
    (stream : TextStream) :
    (∃ s, (Segmenter.ofStream c stream).1 = .ok s ∧ s.stream = stream ∧
      Segmenter.calls.ReleasesOnce Segmenter.stream Segmenter.withStream Segmenter.finished s) ∧
    (∀ texts, (RegionSegmenter.ofTexts c stream texts).stream = stream ∧
      RegionSegmenter.calls.ReleasesOnce RegionSegmenter.stream RegionSegmenter.withStream
        RegionSegmenter.finished (RegionSegmenter.ofTexts c stream texts)) ∧
    ∀ pattern, Pattern.ofText c.elementFilter = .ok pattern →
      ∃ s, RegionSegmenter.ofStream c stream = .ok s ∧ s.stream = stream ∧
        RegionSegmenter.calls.ReleasesOnce RegionSegmenter.stream RegionSegmenter.withStream
          RegionSegmenter.finished s := by
  refine ⟨?_, fun texts => ?_, fun pattern hp => ?_⟩
  · obtain ⟨s, hs, hstream⟩ := h.ofStream stream
    exact ⟨s, hs, hstream, Segmenter.releasesOnce hs⟩
  · exact ⟨rfl, RegionSegmenter.releasesOnce c _⟩
  · exact ⟨_, RegionSegmenter.ofStream_of_pattern hp stream, rfl, RegionSegmenter.releasesOnce c _⟩

/-- A stream that cannot be read, and that cannot be closed either without complaint. -/
theorem Config.releases_once_of_failure :
    let c : Config := { elementFilter := ['s'], tokenizer := .tokenized }
    let stream : TextStream := { rest := "<s>A .</s>".toList, failing := [1], closeFails := true }
    let pattern : Pattern := .group {} {} (.set false [.literal 's'.toNat])
    (c.HasTokens ∧ Pattern.ofText c.elementFilter = .ok pattern) ∧
      (∃ s, (Segmenter.ofStream c stream).1 = .ok s ∧
        Segmenter.calls.answers s [.hasNext] = [.error (.unreadable .device)] ∧
        ∀ more, (Segmenter.calls.after s (.hasNext :: more)).stream.closes = 1) ∧
      ∃ s, RegionSegmenter.ofStream c stream = .ok s ∧
        RegionSegmenter.calls.answers s [.hasNext] = [.error (.unreadable .device)] ∧
        ∀ more, (RegionSegmenter.calls.after s (.hasNext :: more)).stream.closes = 1 := by
  intro c stream pattern
  have hc : c.HasTokens := ⟨none, rfl⟩
  have hp : Pattern.ofText c.elementFilter = .ok pattern := rfl
  obtain ⟨⟨s, hs, hstream, hr⟩, -, hregions⟩ := hc.releases_once stream
  obtain ⟨s', hs', hstream', hr'⟩ := hregions pattern hp
  have ha : Segmenter.calls.answers s [.hasNext] = [.error (.unreadable .device)] := by
    let s₀ := Segmenter.ofSource c false (.spaced { stream, newlines := false })
    obtain rfl : s = s₀ := Except.ok.inj (hs.symm.trans rfl)
    have hb : s₀.build.1 = .error (.unreadable .device) := by
      rw [Segmenter.build_eq, show s₀.begins = (.error (.unreadable .device), s₀.begins.2) from
        Prod.ext (by cbv) rfl]
    have hf : s₀.fill.result = .error (.unreadable .device) := by
      rw [Segmenter.fill_of_unsettled (by decide), ← Prod.eta s₀.build, hb]
      rfl
    rw [Segmenter.calls_eq, Calls.answers, Segmenter.lookAhead.ask_of_error hf]
    rfl
  have ha' : RegionSegmenter.calls.answers s' [.hasNext] = [.error (.unreadable .device)] := by
    let s₀ : RegionSegmenter :=
      { config := c, regions := .read { rules := { pattern, keepTags := false }, reader := { stream } } }
    obtain rfl : s' = s₀ :=
      Except.ok.inj (hs'.symm.trans (RegionSegmenter.ofStream_of_pattern hp stream))
    have hn : s₀.regions.next?.1 = .error (.unreadable .device) := by cbv
    have hf : s₀.fill.result = .error (.unreadable .device) := by
      rw [RegionSegmenter.fill_of_unsettled (by decide), show s₀.fromCurrent = ⟨.ok none, s₀, []⟩ from rfl]
      dsimp only [RegionSegmenter.takeNext]
      rw [← Prod.eta s₀.regions.next?, hn]
      rfl
    rw [RegionSegmenter.calls_eq, Calls.answers, RegionSegmenter.lookAhead.ask_of_error hf]
    rfl
  refine ⟨⟨hc, hp⟩, ⟨s, hs, ha, fun more => ?_⟩, s', hs', ha', fun more => ?_⟩
  · have he : (Segmenter.calls.answers s [.hasNext]).any CallAnswer.isEnd = true := by rw [ha]; rfl
    have hn := hr.closes_of_isEnd he more
    rwa [hstream] at hn
  · have he : (RegionSegmenter.calls.answers s' [.hasNext]).any CallAnswer.isEnd = true := by
      rw [ha']
      rfl
    have hn := hr'.closes_of_isEnd he more
    rwa [hstream'] at hn

end SentenceReader
