import SentenceReader.Proofs.Sentence.Asked

/-! Sentences of a stream that breaks off. Up to the read that fails they are those of the whole text;
the call that meets the failure tells about it, and no part of a sentence is given out. -/
namespace SentenceReader

variable {σ α : Type}

namespace Calls

variable {q : Calls σ α} {s t : σ} {items : List α}

theorem exists_ask_of_mem {a : CallAnswer α} {calls : List Call} (h : a ∈ q.answers s calls) :
    ∃ before call, a = (q.ask (q.after s before) call).1 := by
  induction calls generalizing s with
  | nil => exact absurd h List.not_mem_nil
  | cons call calls ih =>
    rcases List.mem_cons.1 h with rfl | h
    · exact ⟨[], call, rfl⟩
    · obtain ⟨before, later, ha⟩ := ih h
      exact ⟨call :: before, later, ha⟩

/-- A sequence that tells its items fails in no other way than that there are no more of them. -/
theorem Tells.eq_exhausted (h : q.Tells s items) {calls : List Call} {fault : Fault}
    (hf : .error fault ∈ q.answers s calls) : fault = .exhausted := by
  obtain ⟨before, call, ha⟩ := exists_ask_of_mem hf
  cases call with
  | hasNext => simp [ask, h.hasNext before, Except.map] at ha
  | next =>
    simp only [ask, h.next before] at ha
    split at ha
    · simp [Except.map] at ha
    · exact Except.error.inj ha

/-- A sequence that tells its items never says that it cannot be read. -/
theorem Tells.countP_isFailure (h : q.Tells s items) (calls : List Call) :
    (q.answers s calls).countP CallAnswer.isFailure = 0 := by
  refine List.countP_eq_zero.2 fun a ha => ?_
  cases a with
  | ok found => exact Bool.false_ne_true
  | error fault =>
    rw [h.eq_exhausted ha]
    exact Bool.false_ne_true

/-- One sequence breaks off where another one goes on: it has given out some of the items of the other
one, from the first one on, and told about the failure once. -/
structure Interrupted (q : Calls σ α) (stream : σ → TextStream) (k : Nat) (s t : σ)
    (items : List α) : Prop extends q.BreaksOff stream k s t where
  given : ∀ calls, (q.answers s calls).filterMap CallAnswer.item? <+: items
  failures : ∀ calls, (q.answers s calls).countP CallAnswer.isFailure =
    if (stream (q.after s calls)).reads < k then 0 else 1

theorem BreaksOff.interrupted {stream : σ → TextStream} {k : Nat}
    (h : q.BreaksOff stream k s t) (ht : q.Tells t items) : q.Interrupted stream k s t items := by
  have hitem (later : List Call) :
      (later.map (Call.atEnd (α := α))).filterMap CallAnswer.item? = [] := by
    refine List.filterMap_eq_nil_iff.2 fun a ha => ?_
    obtain ⟨call, -, rfl⟩ := List.mem_map.1 ha
    cases call <;> rfl
  have hfailure (later : List Call) :
      (later.map (Call.atEnd (α := α))).countP CallAnswer.isFailure = 0 := by
    refine List.countP_eq_zero.2 fun a ha => ?_
    obtain ⟨call, -, rfl⟩ := List.mem_map.1 ha
    cases call <;> simp [Call.atEnd, CallAnswer.isFailure, Fault.isUnreadable]
  refine ⟨h, fun calls => ?_, fun calls => ?_⟩
  · by_cases hk : (stream (q.after s calls)).reads < k
    · rw [h.answers_of_lt calls hk, ht.given calls]
      exact List.take_prefix _ _
    · obtain ⟨before, call, later, -, ha⟩ := h.answers_of_le calls (Nat.not_lt.1 hk)
      rw [ha, List.filterMap_append, ht.given before, List.filterMap_cons, hitem later]
      simpa [CallAnswer.item?] using List.take_prefix _ _
  · split
    · next hk => rw [h.answers_of_lt calls hk, ht.countP_isFailure calls]
    · next hk =>
      obtain ⟨before, call, later, -, ha⟩ := h.answers_of_le calls (Nat.not_lt.1 hk)
      rw [ha, List.countP_append, ht.countP_isFailure before, List.countP_cons, hfailure later]
      rfl

end Calls

theorem Segmenter.breaksOff {t : Segmenter} {x : TextStream} {k : Nat} (hf : t.finished = false)
    (h : (Coupling.untilRead k).tied x t.stream) :
    calls.BreaksOff Segmenter.stream k (t.withStream x) t := by
  rw [calls_eq]
  exact owner.breaksOff hf h

theorem RegionSegmenter.breaksOff {t : RegionSegmenter} {x : TextStream} {k : Nat}
    (hf : t.finished = false) (h : (Coupling.untilRead k).tied x t.stream) :
    calls.BreaksOff RegionSegmenter.stream k (t.withStream x) t := by
  rw [calls_eq]
  exact owner.breaksOff hf h

/-- Where a read fails, the sentences of regions break off from those of a stream that could be read. -/
theorem Config.HasTokens.regionSegmenter_breaksOff [PatternHost] {c : Config} (h : c.HasTokens)
    {stream : TextStream} {k : Nat} (hk : stream.FailsAt k) (hst : { stream with failing := [] }.Steady)
    {s : RegionSegmenter} (hs : RegionSegmenter.ofStream c stream = .ok s) :
    ∃ t ss, RegionSegmenter.ofStream c { stream with failing := [] } = .ok t ∧ t.Gives ss ∧
      RegionSegmenter.calls.BreaksOff RegionSegmenter.stream k s t := by
  obtain ⟨pattern, hp, rfl⟩ := RegionSegmenter.exists_pattern_of_ofStream hs
  let t : RegionSegmenter :=
    { config := c
      regions := .read { rules := { pattern, keepTags := c.keepInternalTags }
                         reader := { stream := { stream with failing := [] } } } }
  have ht : RegionSegmenter.ofStream c { stream with failing := [] } = .ok t :=
    RegionSegmenter.ofStream_of_pattern hp _
  obtain ⟨ss, hg⟩ := h.regionSegmenter_gives hst hp ht
  have htied : (Coupling.untilRead k).tied stream t.stream := ⟨hst, hk, rfl⟩
  have hb : RegionSegmenter.calls.BreaksOff RegionSegmenter.stream k (t.withStream stream) t :=
    RegionSegmenter.breaksOff rfl htied
  exact ⟨t, ss, ht, hg, hb⟩

/-- Where a read of the stream fails, the sentences of a text and those of the regions of a document are
the ones of a stream that could be read, up to the call that makes that read. -/
theorem Config.HasTokens.interrupted_at_read [PatternHost] {c : Config} (h : c.HasTokens)
    {stream : TextStream} {k : Nat} (hk : stream.FailsAt k) (hst : { stream with failing := [] }.Steady) :
    (∃ s t ss, (Segmenter.ofStream c stream).1 = .ok s ∧
      (Segmenter.ofStream c { stream with failing := [] }).1 = .ok t ∧ t.Gives ss ∧
      Segmenter.calls.Interrupted Segmenter.stream k s t ss) ∧
    ∀ pattern, Pattern.ofText c.elementFilter = .ok pattern →
      ∃ s t ss, RegionSegmenter.ofStream c stream = .ok s ∧
        RegionSegmenter.ofStream c { stream with failing := [] } = .ok t ∧ t.Gives ss ∧
        RegionSegmenter.calls.Interrupted RegionSegmenter.stream k s t ss := by
  refine ⟨?_, fun pattern hp => ?_⟩
  · have htied : (Coupling.untilRead k).tied stream { stream with failing := [] } := ⟨hst, hk, rfl⟩
    obtain ⟨t, ss, ht, hstream, hg⟩ := h.segmenter_gives hst
    have hf := (Segmenter.stream_of_ofStream ht).2
    rw [← hstream] at htied
    exact ⟨_, t, ss, Segmenter.ofStream_withStream ht stream, ht, hg,
      (Segmenter.breaksOff hf htied).interrupted hg.tells⟩
  · have hs := RegionSegmenter.ofStream_of_pattern hp stream
    obtain ⟨t, ss, ht, hg, hb⟩ := h.regionSegmenter_breaksOff hk hst hs
    exact ⟨_, t, ss, hs, ht, hg, hb.interrupted hg.tells⟩

/-- Two sentences in two lines, of which the second one cannot be read to its end; the region breaks off
inside its only element. -/
theorem Config.interrupted_at_third_read :
    let c : Config := { elementFilter := ['s'], tokenizer := .tokenized }
    let stream : TextStream :=
      { rest := "A .\n<s>B .</s>\nC".toList, blocks := [4, 4], failing := [3] }
    let pattern : Pattern := .group {} {} (.set false [.literal 's'.toNat])
    (c.HasTokens ∧ stream.FailsAt 3 ∧ { stream with failing := [] }.Steady ∧
        Pattern.ofText c.elementFilter = .ok pattern) ∧
      (∃ s t ss, (Segmenter.ofStream c stream).1 = .ok s ∧
        Segmenter.calls.Interrupted Segmenter.stream 3 s t ss ∧
        ss.map (List.map Token.word) =
          [["A", "."], ["<s>B", ".</s>", "C"]].map (List.map String.toList)) ∧
      ∃ s t ss, RegionSegmenter.ofStream c stream = .ok s ∧
        RegionSegmenter.calls.Interrupted RegionSegmenter.stream 3 s t ss ∧
        ss.map (List.map Token.word) = [["B", "."]].map (List.map String.toList) := by
  intro c stream pattern
  have hc : c.HasTokens := ⟨none, rfl⟩
  have hp : Pattern.ofText c.elementFilter = .ok pattern := rfl
  have hst : { stream with failing := [] }.Steady := ⟨rfl, rfl, rfl, by simp⟩
  have hk : stream.FailsAt 3 := ⟨by decide, by decide, by decide⟩
  obtain ⟨⟨s, t, ss, hs, ht, hg, hi⟩, hregions⟩ := hc.interrupted_at_read hk hst
  obtain ⟨s', t', ss', hs', ht', hg', hi'⟩ := hregions pattern hp
  refine ⟨⟨hc, hk, hst, hp⟩, ⟨s, t, ss, hs, hi, ?_⟩, s', t', ss', hs', hi', ?_⟩
  · let t₀ := Segmenter.ofSource c false (.spaced { stream := { stream with failing := [] }, newlines := false })
    have ht₀ : (Segmenter.ofStream c { stream with failing := [] }).1 = .ok t₀ := rfl
    obtain rfl := Except.ok.inj (ht₀.symm.trans ht)
    rw [hg.unique (Segmenter.gives_sentences ht₀ (TokenSource.gives_coming hst))]
    decide +kernel
  · let text := "B .".toList
    let t₀ := Segmenter.ofSource c false (.spaced { stream := .ofText text, newlines := false })
    have hone : c.Segments text ((t₀.rules.sentences t₀.source.coming).map t₀.escape) :=
      Config.segments_of_ofStream rfl rfl
    have hblocks : ({ pattern, keepTags := false } : RegionRules).regionsOf
        (MarkupItem.ofText stream.rest) = [text] := by decide +kernel
    have hall := RegionSegmenter.gives_of_ofStream hst hp ht' hblocks (.cons hone .nil)
    rw [(Reply.Gives.unique hg' hall).1]
    decide +kernel

end SentenceReader
