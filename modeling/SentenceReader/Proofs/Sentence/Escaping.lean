import SentenceReader.Proofs.Sentence.Recorded

/-! Escapers. What an escaper makes of a finished sentence is given out, and its length is recorded.
Nothing else depends on it: the same sentences are found by the same reads, and the stream is closed in
the same calls. -/
namespace SentenceReader

/-- One sequence of sentences gives out what an escaper makes of those of another one, and does the same
with its stream. -/
structure Calls.EscapesFinished {σ : Type} (q : Calls σ Sentence) (stream : σ → TextStream)
    (ready : σ → Option Sentence) (escape : Sentence → Sentence) (s bare : σ) : Prop where
  answers : ∀ calls, q.answers s calls = (q.answers bare calls).map (CallAnswer.mapItem escape)
  gives : ∀ ending ss, Reply.Gives q.next ending s ss ↔
    ∃ found, Reply.Gives q.next ending bare found ∧ ss = found.map escape
  stream : ∀ calls, stream (q.after s calls) = stream (q.after bare calls)
  record : ∀ calls, List.Forall₂ Event.Alike (q.record s calls) (q.record bare calls)
  /-- The lengths that are recorded are those of the escaped sentences: of the ones that were given out,
  and of the one that waits to be. -/
  lengths : ∀ calls, Event.sentenceLengths (q.record s calls) =
    ((q.answers s calls).filterMap CallAnswer.item? ++ (ready (q.after s calls)).toList).map List.length

theorem LookAhead.Transforms.escapes {σ : Type} {l : LookAhead σ Sentence}
    {escape : Sentence → Sentence} {change : σ → σ} {good measured : σ → Prop}
    (h : l.Transforms escape change good) (hm : l.Measures measured) (stream : σ → TextStream)
    (hstream : ∀ s, stream (change s) = stream s) {s : σ} (hs : good s) (hms : measured (change s))
    (hr : l.ready s = none) : l.calls.EscapesFinished stream l.ready escape (change s) s where
  answers calls := (h.run hs calls).1
  gives := h.gives_iff hs
  stream calls := by rw [(h.run hs calls).2.1, hstream]
  record calls := (h.run hs calls).2.2
  lengths calls := by
    have hlengths := hm.sentenceLengths_record hms calls
    rwa [h.ready, hr] at hlengths

/-- The settings with an escaper, or with none. -/
def Config.withEscaper (c : Config) (escaper : Option Escaper) : Config := { c with escaper }

theorem Config.withEscaper_none (c : Config) (h : c.escaper = none) : c.withEscaper none = c := by
  rw [withEscaper, ← h]

namespace Segmenter

/-- The segmenter with an escaper, which it has used for the sentence that it has found already. -/
def escapedBy (e : Escaper) (s : Segmenter) : Segmenter :=
  { s with escaper := some e, ready := s.ready.map e.apply }

theorem escaper_build (s : Segmenter) : s.build.2.escaper = s.escaper := by
  unfold build
  dsimp only
  repeat' split
  all_goals rfl

/-- A sentence is built without regard to the escaper. -/
theorem build_escapedBy (e : Escaper) (s : Segmenter) :
    (s.escapedBy e).build = (s.build.1, s.build.2.escapedBy e) := by
  have hbegins : (s.escapedBy e).begins = s.begins := rfl
  rw [build_eq, build_eq s, hbegins]
  generalize s.begins = begun
  obtain ⟨result, source⟩ := begun
  rcases result with fault | more
  · rfl
  cases more with
  | false => rfl
  | true =>
    dsimp only [escapedBy]
    cases s.rules.gather source s.carried.toList false with
    | mk result source' => cases result <;> rfl

variable (e : Escaper)

theorem transforms :
    lookAhead.Transforms e.apply (escapedBy e) fun s => s.escaper = none where
  ready _ := rfl
  take _ hs := ⟨hs, rfl⟩
  fill s hs := by
    change s.fill.state.escaper = none ∧ (s.escapedBy e).fill.Mirrors id (escapedBy e) s.fill
    by_cases hset : (s.ready.isSome || s.finished) = true
    · have hset' : ((s.escapedBy e).ready.isSome || (s.escapedBy e).finished) = true := by
        simpa [escapedBy] using hset
      rw [fill_of_settled hset, fill_of_settled hset']
      exact ⟨hs, rfl, rfl, .nil⟩
    · have hset' : ¬ ((s.escapedBy e).ready.isSome || (s.escapedBy e).finished) = true := by
        simpa [escapedBy] using hset
      have hescaper := s.escaper_build.trans hs
      rw [fill_of_unsettled hset, fill_of_unsettled hset', build_escapedBy]
      generalize s.build = built at hescaper
      obtain ⟨result, s'⟩ := built
      rcases result with fault | _ | sentence
      · simp only [conclude]
        split <;> exact ⟨hescaper, rfl, rfl, Event.forall₂_alike_self _⟩
      · exact ⟨hescaper, rfl, rfl, Event.forall₂_alike_self _⟩
      · have hnone : s'.escape sentence = sentence := by rw [escape, hescaper]
        refine ⟨hescaper, rfl, ?_, .cons (.sentences _ _) .nil⟩
        simp only [conclude, hnone]
        rfl

/-- A segmenter is made in the same way with an escaper. -/
theorem ofStream_escapedBy (c : Config) (stream : TextStream) :
    ofStream (c.withEscaper (some e)) stream =
      ((ofStream (c.withEscaper none) stream).1.map (escapedBy e),
        (ofStream (c.withEscaper none) stream).2) := by
  have hmaker (escaper : Option Escaper) : (c.withEscaper escaper).tokenizerMaker = c.tokenizerMaker := rfl
  have htokens : tokensOf (c.withEscaper (some e)) stream (newlinesEnd (c.withEscaper (some e))) =
      tokensOf (c.withEscaper none) stream (newlinesEnd (c.withEscaper none)) := rfl
  simp only [ofStream, hmaker, htokens]
  cases c.tokenizerMaker with
  | none => cases tokensOf _ stream _ <;> rfl
  | some maker => cases maker <;> rfl

end Segmenter

namespace RegionSegmenter

/-- The sequence with an escaper, which it has used for the sentences that it has found already. -/
def escapedBy (e : Escaper) (s : RegionSegmenter) : RegionSegmenter :=
  { s with
    config := s.config.withEscaper (some e)
    current := s.current.map (Segmenter.escapedBy e)
    ready := s.ready.map e.apply }

/-- A sequence without an escaper. -/
structure Unescaped (s : RegionSegmenter) : Prop where
  config : s.config.escaper = none
  current : ∀ segmenter ∈ s.current, segmenter.escaper = none

variable (e : Escaper) {s : RegionSegmenter}

theorem mirrors_fromCurrent (h : s.Unescaped) :
    s.fromCurrent.state.Unescaped ∧
      (s.escapedBy e).fromCurrent.Mirrors (Option.map e.apply) (escapedBy e) s.fromCurrent := by
  cases hc : s.current with
  | none =>
    have hc' : (s.escapedBy e).current = none := by rw [escapedBy, hc]; rfl
    rw [fromCurrent_of_none hc, fromCurrent_of_none hc']
    exact ⟨h, rfl, rfl, .nil⟩
  | some segmenter =>
    have hc' : (s.escapedBy e).current = some (segmenter.escapedBy e) := by rw [escapedBy, hc]; rfl
    obtain ⟨hnone, hmirrors⟩ := (Segmenter.transforms e).next? (h.current segmenter hc)
    rw [fromCurrent_of_some hc, fromCurrent_of_some hc']
    refine ⟨⟨h.config, ?_⟩, hmirrors.mapState rfl⟩
    rintro _ ⟨⟩
    exact hnone

theorem mirrors_takeUp (h : s.Unescaped) (text : Text) :
    (s.takeUp text).state.Unescaped ∧
      ((s.escapedBy e).takeUp text).Mirrors id (escapedBy e) (s.takeUp text) := by
  have hmade := Segmenter.ofStream_escapedBy e s.config (.ofText text)
  rw [s.config.withEscaper_none h.config] at hmade
  unfold takeUp
  dsimp only [escapedBy]
  rw [hmade]
  cases ho : Segmenter.ofStream s.config (.ofText text) with
  | mk result events =>
    cases result with
    | error fault => exact ⟨⟨h.config, h.current⟩, rfl, rfl, Event.forall₂_alike_self _⟩
    | ok segmenter =>
      refine ⟨⟨h.config, ?_⟩, rfl, rfl, Event.forall₂_alike_self _⟩
      rintro _ ⟨⟩
      exact (Segmenter.escaper_of_ofStream (congrArg Prod.fst ho)).trans h.config

/-- Where nothing is left of the current region the same is done next, if the same is done from then
on. -/
theorem mirrors_takeNext (h : s.Unescaped)
    (hfill : ∀ s' : RegionSegmenter, s'.regions.remaining < s.regions.remaining → s'.Unescaped →
      s'.fill.state.Unescaped ∧ (s'.escapedBy e).fill.Mirrors id (escapedBy e) s'.fill) :
    s.takeNext.state.Unescaped ∧ (s.escapedBy e).takeNext.Mirrors id (escapedBy e) s.takeNext := by
  unfold takeNext
  rw [show (s.escapedBy e).regions = s.regions from rfl]
  cases hn : s.regions.next? with
  | mk result regions =>
    rcases result with fault | _ | text
    · dsimp only
      split
      · exact ⟨⟨h.config, h.current⟩, rfl, rfl, Event.forall₂_alike_self _⟩
      · exact ⟨⟨h.config, h.current⟩, rfl, rfl, .nil⟩
    · exact ⟨⟨h.config, by simp [finish, mapStream]⟩, rfl, rfl, Event.forall₂_alike_self _⟩
    · let s₁ : RegionSegmenter := { s with regions }
      have h₁ : s₁.Unescaped := ⟨h.config, h.current⟩
      obtain ⟨htaken, htakes⟩ := mirrors_takeUp e h₁ text
      have hlt : (s₁.takeUp text).state.regions.remaining < s.regions.remaining := by
        rw [regions_takeUp]
        exact RegionSource.remaining_of_next? hn
      obtain ⟨hfilled, hfills⟩ := hfill _ hlt htaken
      refine ⟨?_, htakes.andThen fun _ _ => hfills⟩
      change ((s₁.takeUp text).andThen fun _ s => s.fill).state.Unescaped
      unfold Reply.andThen
      split
      · exact htaken
      · exact hfilled

theorem mirrors_fill (h : s.Unescaped) :
    s.fill.state.Unescaped ∧ (s.escapedBy e).fill.Mirrors id (escapedBy e) s.fill := by
  induction hsize : s.regions.remaining using Nat.strongRecOn generalizing s with
  | ind size ih =>
    by_cases hs : (s.ready.isSome || s.finished) = true
    · rw [fill_of_settled hs, fill_of_settled (s := s.escapedBy e) (by simpa [escapedBy] using hs)]
      exact ⟨h, rfl, rfl, .nil⟩
    · rw [fill_of_unsettled hs,
        fill_of_unsettled (s := s.escapedBy e) (by simpa [escapedBy] using hs)]
      have hregions := s.regions_fromCurrent
      obtain ⟨hun, hresult, hstate, hevents⟩ := mirrors_fromCurrent e h
      generalize s.fromCurrent = r at hregions hun hresult hstate hevents ⊢
      generalize (s.escapedBy e).fromCurrent = r' at hresult hstate hevents ⊢
      obtain ⟨result, s₁, events⟩ := r
      obtain ⟨_, _, events'⟩ := r'
      obtain rfl := hresult
      obtain rfl := hstate
      rcases result with fault | _ | sentence
      · exact ⟨hun, rfl, rfl, hevents⟩
      · obtain ⟨hun', hmirrors⟩ := mirrors_takeNext e hun fun s' hlt h' =>
          ih _ (hsize ▸ hregions ▸ hlt) h' rfl
        exact ⟨hun', hmirrors.after hevents⟩
      · exact ⟨⟨hun.config, hun.current⟩, rfl, rfl, hevents⟩

theorem transforms : lookAhead.Transforms e.apply (escapedBy e) Unescaped where
  ready _ := rfl
  take _ hs := ⟨⟨hs.config, hs.current⟩, rfl⟩
  fill _ hs := mirrors_fill e hs

/-- The escaper makes the only difference between the sentences of regions with it and without it. -/
theorem escapesFinished_start (c : Config) (regions : RegionSource) :
    calls.EscapesFinished stream ready e.apply { config := c.withEscaper (some e), regions }
      { config := c.withEscaper none, regions } := by
  have hun : Unescaped { config := c.withEscaper none, regions } := ⟨rfl, by simp⟩
  rw [calls_eq]
  exact (transforms e).escapes measures stream (fun _ => rfl) hun
    (by simp [CurrentWaits, escapedBy]) rfl

end RegionSegmenter

/-- Every sentence is finished without its escaper: with one, the same is found at the same reads, and
each sentence is given out as the escaper makes it. This holds for plain text, for regions that stand in
for those of a document, and for those that are found in one. -/
theorem Config.HasTokens.escapesFinished [PatternHost] {c : Config} (h : c.HasTokens) (e : Escaper)
    (stream : TextStream) :
    (∃ s bare, (Segmenter.ofStream (c.withEscaper (some e)) stream).1 = .ok s ∧
      (Segmenter.ofStream (c.withEscaper none) stream).1 = .ok bare ∧
      Segmenter.calls.EscapesFinished Segmenter.stream Segmenter.ready e.apply s bare) ∧
    (∀ texts, RegionSegmenter.calls.EscapesFinished RegionSegmenter.stream RegionSegmenter.ready e.apply
      (.ofTexts (c.withEscaper (some e)) stream texts) (.ofTexts (c.withEscaper none) stream texts)) ∧
    ∀ pattern, Pattern.ofText c.elementFilter = .ok pattern →
      ∃ s bare, RegionSegmenter.ofStream (c.withEscaper (some e)) stream = .ok s ∧
        RegionSegmenter.ofStream (c.withEscaper none) stream = .ok bare ∧
        RegionSegmenter.calls.EscapesFinished RegionSegmenter.stream RegionSegmenter.ready e.apply
          s bare := by
  refine ⟨?_, fun texts => RegionSegmenter.escapesFinished_start e c _, fun pattern hp => ?_⟩
  · have hnone : (c.withEscaper none).HasTokens := h
    obtain ⟨bare, hbare, -⟩ := hnone.ofStream stream
    refine ⟨bare.escapedBy e, bare, ?_, hbare, ?_⟩
    · rw [Segmenter.ofStream_escapedBy, hbare]
      rfl
    · have hready := (Segmenter.waiting_of_ofStream hbare).1.ready
      have hescaper : bare.escaper = none := Segmenter.escaper_of_ofStream hbare
      rw [Segmenter.calls_eq]
      exact (Segmenter.transforms e).escapes Segmenter.measures Segmenter.stream (fun _ => rfl) hescaper
        trivial hready
  · exact ⟨_, _, RegionSegmenter.ofStream_of_pattern (c := c.withEscaper (some e)) hp stream,
      RegionSegmenter.ofStream_of_pattern (c := c.withEscaper none) hp stream,
      RegionSegmenter.escapesFinished_start e c _⟩

/-- Where an escaper leaves nothing of any sentence, there are as many sentences as without it. -/
theorem Config.escapesFinished_of_emptied :
    let c : Config := { elementFilter := ['s'], tokenizer := .tokenized }
    let stream := TextStream.ofText "<s>A . B</s><s>C</s>".toList
    let pattern : Pattern := .group {} {} (.set false [.literal 's'.toNat])
    c.HasTokens ∧ Pattern.ofText c.elementFilter = .ok pattern ∧
      ∃ s, RegionSegmenter.ofStream (c.withEscaper (some (.custom fun _ => []))) stream = .ok s ∧
        s.Gives [[], [], []] := by
  intro c stream pattern
  have hc : c.HasTokens := ⟨none, rfl⟩
  have hst : stream.Steady := TextStream.steady_ofText _
  have hp : Pattern.ofText c.elementFilter = .ok pattern := rfl
  obtain ⟨s, bare, hs, hbare, hescapes⟩ :=
    (Config.HasTokens.escapesFinished hc (.custom fun _ => []) stream).2.2 pattern hp
  refine ⟨hc, hp, s, hs, ?_⟩
  obtain rfl := Except.ok.inj (hbare.symm.trans (RegionSegmenter.ofStream_of_pattern hp stream))
  have hregions : (RegionSource.read { rules := { pattern }, reader := { stream } }).Gives
      ["A . B".toList, "C".toList] := by
    obtain ⟨pieces, hd⟩ := hst.exists_delivers
    have hg := RegionSource.gives_of_pieces hd { pattern }
    rw [hd.flatten] at hg
    have hblocks : ({ pattern } : RegionRules).regionsOf
        (MarkupItem.ofText "<s>A . B</s><s>C</s>".toList) = ["A . B".toList, "C".toList] := by
      decide +kernel
    exact hblocks ▸ hg
  have howes : RegionSegmenter.Owes
      { config := c, regions := .read { rules := { pattern }, reader := { stream } } } []
      ["A . B".toList, "C".toList] [c.ownSentences "A . B".toList, c.ownSentences "C".toList] :=
    ⟨rfl, rfl, rfl, hregions, .cons (hc.segments _) (.cons (hc.segments _) .nil)⟩
  exact (hescapes.gives _ _).2 ⟨_, RegionSegmenter.gives_of_owes howes, by decide +kernel⟩

end SentenceReader
