import SentenceReader.Proofs.Sentence.Sequences

/-! Sentences that are asked for in any order of calls. A sequence of sentences tells those that it
gives out when it is just read to its end, and nothing of its looking ahead shows, also where some of
the sentences are empty. -/
namespace SentenceReader

theorem Segmenter.Gives.tells {s : Segmenter} {ss : List Sentence} (h : s.Gives ss) :
    calls.Tells s ss := by
  rw [calls_eq]
  apply lookAhead.tells_of_gives
  rwa [next_lookAhead]

theorem RegionSegmenter.Gives.tells {s : RegionSegmenter} {ss : List Sentence} (h : s.Gives ss) :
    calls.Tells s ss := by
  rw [calls_eq]
  apply lookAhead.tells_of_gives
  rwa [next_lookAhead]

/-- The sentences of regions are those of the texts of the regions. -/
theorem RegionSegmenter.gives_of_segments {c : Config} {regions : RegionSource} {blocks : List Text}
    {sss : List (List Sentence)} (hb : regions.Gives blocks)
    (hs : List.Forall₂ c.Segments blocks sss) :
    ({ config := c, regions } : RegionSegmenter).Gives sss.flatten := by
  have ho : Owes { config := c, regions } [] blocks sss := ⟨rfl, rfl, rfl, hb, hs⟩
  exact gives_of_owes ho

/-- The sentences of a document in a stream whose reads do not fail are those of its regions. -/
theorem RegionSegmenter.gives_of_ofStream [PatternHost] {c : Config} {stream : TextStream}
    {s : RegionSegmenter} {pattern : Pattern} {blocks : List Text} {sss : List (List Sentence)}
    (hst : stream.Steady) (hp : Pattern.ofText c.elementFilter = .ok pattern) (h : ofStream c stream = .ok s)
    (hb : ({ pattern, keepTags := c.keepInternalTags } : RegionRules).regionsOf
      (MarkupItem.ofText stream.rest) = blocks)
    (hs : List.Forall₂ c.Segments blocks sss) : s.Gives sss.flatten := by
  obtain ⟨pieces, hd⟩ := hst.exists_delivers
  have hg := RegionSource.gives_of_pieces hd { pattern, keepTags := c.keepInternalTags }
  rw [hd.flatten, hb] at hg
  rw [← Except.ok.inj ((ofStream_of_pattern hp stream).symm.trans h)]
  exact gives_of_segments hg hs

namespace Config.HasTokens

variable {c : Config} (h : c.HasTokens)
include h

/-- A segmenter over a stream whose reads do not fail gives out some sentences. -/
theorem segmenter_gives {stream : TextStream} (hst : stream.Steady) :
    ∃ s ss, (Segmenter.ofStream c stream).1 = .ok s ∧ s.source.stream = stream ∧ s.Gives ss := by
  obtain ⟨s, hs, hstream⟩ := h.ofStream stream
  have ht : s.source.Gives s.source.coming := TokenSource.gives_coming (by rwa [hstream])
  exact ⟨s, _, hs, hstream, Segmenter.gives_sentences hs ht⟩

theorem regionSegmenter_gives [PatternHost] {stream : TextStream} {s : RegionSegmenter}
    {pattern : Pattern} (hst : stream.Steady) (hp : Pattern.ofText c.elementFilter = .ok pattern)
    (hs : RegionSegmenter.ofStream c stream = .ok s) : ∃ ss, s.Gives ss := by
  obtain ⟨sss, hsss⟩ := h.segments_all _
  exact ⟨_, RegionSegmenter.gives_of_ofStream hst hp hs rfl hsss⟩

/-- However the calls for the next sentence and the questions whether there is one are mixed, the
sentences of a text, those of given texts, and those of the regions of a document are told in their
order. -/
theorem tells_sentences [PatternHost] {stream : TextStream} (hst : stream.Steady) :
    (∃ s ss, (Segmenter.ofStream c stream).1 = .ok s ∧ s.Gives ss ∧ Segmenter.calls.Tells s ss) ∧
    (∀ texts, ∃ ss, (RegionSegmenter.ofTexts c stream texts).Gives ss ∧
      RegionSegmenter.calls.Tells (RegionSegmenter.ofTexts c stream texts) ss) ∧
    ∀ pattern, Pattern.ofText c.elementFilter = .ok pattern →
      ∃ s ss, RegionSegmenter.ofStream c stream = .ok s ∧ s.Gives ss ∧
        RegionSegmenter.calls.Tells s ss := by
  refine ⟨?_, fun texts => ?_, fun pattern hp => ?_⟩
  · obtain ⟨s, ss, hs, -, hg⟩ := h.segmenter_gives hst
    exact ⟨s, ss, hs, hg, hg.tells⟩
  · obtain ⟨sss, hs⟩ := h.segments_all texts
    have hg := RegionSegmenter.gives_of_segments (RegionSource.gives_given texts stream) hs
    exact ⟨_, hg, hg.tells⟩
  · have hs := RegionSegmenter.ofStream_of_pattern hp stream
    obtain ⟨ss, hg⟩ := h.regionSegmenter_gives hst hp hs
    exact ⟨_, ss, hs, hg, hg.tells⟩

end Config.HasTokens

/-- An empty line makes an empty sentence, in a text and in a region. -/
theorem Config.tells_sentences_of_empty_line :
    let c : Config :=
      { elementFilter := ['s'], tokenizer := .tokenized, explicitDelimiter := some ['\n'],
        keepEmptySentences := true }
    let stream := TextStream.ofText "<s>A\n\nB</s>".toList
    let pattern : Pattern := .group {} {} (.set false [.literal 's'.toNat])
    (c.HasTokens ∧ stream.Steady ∧ Pattern.ofText c.elementFilter = .ok pattern) ∧
      (∃ s ss, (Segmenter.ofStream c stream).1 = .ok s ∧ Segmenter.calls.Tells s ss ∧
        ss.map (List.map Token.word) = [["<s>A"], [], ["B</s>"]].map (List.map String.toList)) ∧
      ∃ s ss, RegionSegmenter.ofStream c stream = .ok s ∧ RegionSegmenter.calls.Tells s ss ∧
        ss.map (List.map Token.word) = [["A"], [], ["B"]].map (List.map String.toList) := by
  intro c stream pattern
  have hc : c.HasTokens := ⟨none, rfl⟩
  have hst : stream.Steady := TextStream.steady_ofText _
  have hp : Pattern.ofText c.elementFilter = .ok pattern := rfl
  obtain ⟨⟨s, ss, hs, hg, ht⟩, -, hregions⟩ := hc.tells_sentences hst
  obtain ⟨s', ss', hs', hg', ht'⟩ := hregions pattern hp
  refine ⟨⟨hc, hst, hp⟩, ⟨s, ss, hs, ht, ?_⟩, s', ss', hs', ht', ?_⟩
  · let s₀ := Segmenter.ofSource c true (.spaced { stream, newlines := true })
    have hs₀ : (Segmenter.ofStream c stream).1 = .ok s₀ := rfl
    obtain rfl := Except.ok.inj (hs₀.symm.trans hs)
    rw [hg.unique (Segmenter.gives_sentences hs₀ (TokenSource.gives_coming hst))]
    decide +kernel
  · let text := "A\n\nB".toList
    let s₀ := Segmenter.ofSource c true (.spaced { stream := .ofText text, newlines := true })
    have hone : c.Segments text ((s₀.rules.sentences s₀.source.coming).map s₀.escape) :=
      Config.segments_of_ofStream rfl rfl
    have hblocks : ({ pattern, keepTags := false } : RegionRules).regionsOf
        (MarkupItem.ofText stream.rest) = [text] := by decide +kernel
    have hall := RegionSegmenter.gives_of_ofStream hst hp hs' hblocks (.cons hone .nil)
    rw [(Reply.Gives.unique hg' hall).1]
    decide +kernel

end SentenceReader
