import SentenceReader.Proofs.Document.Draining
import SentenceReader.Proofs.Sentence.Spending

/-! How far the sentences of a text go. There are no more of them than characters, each of them takes
tokens of its own, and whoever looks for the next one in a marked-up document gets there: every pass of
the search finds a sentence, takes up a region, or ends the sequence. -/
namespace SentenceReader

theorem TextStream.Steady.meets {x : TextStream} (h : x.Steady) : x.Meets none :=
  ⟨h.closed, h.failing, by rw [fault?, h.early, h.obstacle]; rfl⟩

/-- A segmenter of its own, over a stream alone, gives out these sentences and spends the tokens of the
stream on them. -/
def Config.Spends (c : Config) (stream : TextStream) (ss : List Sentence) : Prop :=
  ∃ s ts, (Segmenter.ofStream c stream).1 = .ok s ∧ s.source.Gives ts ∧ s.Gives ss ∧
    s.Spends (ts.map s.rules.mark) ss

/-- There are sentences in every stream, no more of them than characters, and they take tokens each. -/
theorem Config.OptionsAccepted.exists_spends {c : Config} (ho : c.OptionsAccepted)
    (hm : c.tokenizerMaker = none) {stream : TextStream} (hst : stream.Steady) :
    ∃ ss, c.Spends stream ss ∧ ss.length ≤ stream.rest.length := by
  obtain ⟨s, hs, hstream⟩ := Segmenter.ofStream_accepted hm ho stream
  obtain ⟨hmeets, hsize⟩ := Segmenter.meets_of_ofStream hm hst.meets hs
  obtain ⟨ss, hg, hle⟩ := Segmenter.exists_gives hmeets
  have hts : s.source.Gives s.source.coming := TokenSource.gives_coming (hstream ▸ hst)
  have hwaits := Segmenter.waiting_of_ofStream hs
  have hspends := Segmenter.spends_of_gives hwaits.1 hts hg
  rw [hwaits.2, Option.toList_none, List.nil_append] at hspends
  exact ⟨ss, ⟨s, _, hs, hts, hg, hspends⟩, hsize ▸ hle⟩

namespace RegionSegmenter

/-- The search for the next sentence of a document comes to its end like this, after these regions were
taken up on the way. Nothing is done where a sentence is ready or the sequence is at its end; else each
pass asks the current region, and then for the next one. -/
inductive Search : RegionSegmenter → List Text → RegionSegmenter → Prop
  | settled {s : RegionSegmenter} (h : (s.ready.isSome || s.finished) = true) : Search s [] s
  | sentence {s s₁ : RegionSegmenter} {sentence : Sentence} {events : List Event}
    (unsettled : ¬ (s.ready.isSome || s.finished) = true)
    (found : s.fromCurrent = ⟨.ok (some sentence), s₁, events⟩) :
    Search s [] { s₁ with ready := some sentence }
  | region {s s₁ s₂ s' : RegionSegmenter} {text : Text} {texts : List Text} {regions : RegionSource}
    {events more : List Event} (unsettled : ¬ (s.ready.isSome || s.finished) = true)
    (nothing : s.fromCurrent = ⟨.ok none, s₁, events⟩)
    (next : s₁.regions.next? = (.ok (some text), regions))
    (taken : takeUp { s₁ with regions } text = ⟨.ok (), s₂, more⟩) (later : Search s₂ texts s') :
    Search s (text :: texts) s'
  | ended {s s₁ : RegionSegmenter} {regions : RegionSource} {events : List Event}
    (unsettled : ¬ (s.ready.isSome || s.finished) = true)
    (nothing : s.fromCurrent = ⟨.ok none, s₁, events⟩) (last : s₁.regions.next? = (.ok none, regions)) :
    Search s [] { s₁ with regions, current := none }.finish

variable {s s' : RegionSegmenter} {texts : List Text}

/-- A search takes up no more regions than can be left. -/
theorem Search.length_le (h : s.Search texts s') : texts.length ≤ s.regions.remaining := by
  induction h with
  | settled | sentence | ended => exact Nat.zero_le _
  | @region s s₁ s₂ s' text texts regions events more _ nothing next taken _ ih =>
    have hs₁ := s.regions_fromCurrent
    have hs₂ := regions_takeUp { s₁ with regions } text
    rw [nothing] at hs₁
    rw [taken] at hs₂
    have hlt := RegionSource.remaining_of_next? next
    change s₁.regions = s.regions at hs₁
    change s₂.regions = regions at hs₂
    rw [hs₁] at hlt
    rw [hs₂] at ih
    exact Nat.succ_le_of_lt (Nat.lt_of_le_of_lt ih hlt)

/-- Where looking for the next sentence goes well, it was a search that came to its end. -/
theorem search_of_fill (h : s.fill.result = .ok ()) : ∃ texts, s.Search texts s.fill.state := by
  fun_induction fill s with
  | case1 s hs => exact ⟨[], .settled hs⟩
  | case2 s hs fault s' events hc => exact absurd h (by simp)
  | case3 s hs sentence s' events hc => exact ⟨[], .sentence hs hc⟩
  | case4 s hs s₁ events hc fault regions hn s' hu => exact absurd h (by simp)
  | case5 s hs s₁ events hc fault regions hn s' hu => exact absurd h (by simp)
  | case6 s hs s₁ events hc regions hn s' => exact ⟨[], .ended hs hc hn⟩
  | case7 s hs s₁ events hc text regions hn fault s' more ht => exact absurd h (by simp)
  | case8 s hs s₁ events hc text regions hn s₂ more ht ih =>
    obtain ⟨texts, hsearch⟩ := ih h
    exact ⟨text :: texts, .region hs hc hn ht hsearch⟩

theorem Meets.fill_ok (h : s.Meets none) : s.fill.result = .ok () ∧ s.fill.state.Meets none := by
  have hf := h.fill
  unfold Looks LookAhead.Looks at hf
  cases hr : s.fill.result with
  | error fault => simp [hr, Goes] at hf
  | ok u =>
    rw [hr] at hf
    exact ⟨rfl, hf.1⟩

/-- Where no read fails none fails after a call. -/
theorem Meets.ask (h : s.Meets none) (call : Call) : (calls.ask s call).2.Meets none := by
  obtain ⟨hok, hmeets⟩ := h.fill_ok
  rw [calls_eq, lookAhead.ask_of_ok hok]
  cases call with
  | hasNext => exact hmeets
  | next =>
    unfold LookAhead.answer
    dsimp only
    split
    · exact hmeets
    · next hr => exact (hmeets.take (Option.isSome_of_eq_some hr)).1

end RegionSegmenter

/-- The sentences of a text come to an end, plain or marked up. There are no more of them than
characters, and each of them takes at least one token of its text, or of its region, that no other one
takes. However they are asked for, the search for the next one comes to its end over the regions that
are left; and the items that these are found in take characters each. -/
theorem Config.OptionsAccepted.drains [PatternHost] {c : Config} (ho : c.OptionsAccepted)
    (hm : c.tokenizerMaker = none) {stream : TextStream} (hst : stream.Steady) :
    (∃ ss, c.Spends stream ss ∧ ss.length ≤ stream.rest.length) ∧
    (∀ pattern, Pattern.ofText c.elementFilter = .ok pattern →
      ∃ s blocks parts, RegionSegmenter.ofStream c stream = .ok s ∧ s.regions.Gives blocks ∧
        List.Forall₂ (fun block => c.Spends (.ofText block)) blocks parts ∧
        s.Gives parts.flatten ∧ parts.flatten.length ≤ stream.rest.length ∧
        ∀ calls, ∃ s' texts, RegionSegmenter.calls.after s calls = s' ∧ s'.fill.result = .ok () ∧
          s'.Search texts s'.fill.state ∧ texts.length ≤ s'.regions.remaining) ∧
    ∀ (r r' : MarkupReader) item, r.next? = (.ok (some item), r') →
      item.chars ≠ [] ∧ item.chars ++ r'.remaining = r.remaining := by
  refine ⟨ho.exists_spends hm hst, fun pattern hp => ?_, fun r r' item h => ?_⟩
  · have hs := RegionSegmenter.ofStream_of_pattern hp stream
    obtain ⟨hmeets, hsize⟩ := RegionSegmenter.meets_of_ofStream hm ho hst.meets hs
    obtain ⟨pieces, hd⟩ := hst.exists_delivers
    have hblocks := RegionSource.gives_of_pieces hd { pattern, keepTags := c.keepInternalTags }
    choose part hpart using fun block => ho.exists_spends hm (TextStream.steady_ofText block)
    have hparts (blocks : List Text) :
        List.Forall₂ (fun block => c.Spends (.ofText block)) blocks (blocks.map part) :=
      List.forall₂_map_right_iff.2 (List.forall₂_same.2 fun block _ => (hpart block).1)
    have hsegments (blocks : List Text) : List.Forall₂ c.Segments blocks (blocks.map part) :=
      (hparts blocks).imp fun block ss ⟨s, _, hs, _, hg, _⟩ => ⟨s, hs, hg⟩
    have howes : RegionSegmenter.Owes { config := c, regions := .read _ } [] _ _ :=
      ⟨rfl, rfl, rfl, hblocks, hsegments _⟩
    have hgives := RegionSegmenter.gives_of_owes howes
    rw [List.nil_append] at hgives
    obtain ⟨ss, hss, hle⟩ := RegionSegmenter.exists_gives hmeets
    refine ⟨_, _, _, hs, hblocks, hparts _, hgives, ?_, fun calls => ?_⟩
    · rw [(Reply.Gives.unique hgives hss).1]
      exact hsize ▸ hle
    · have hafter := RegionSegmenter.calls.after_of_ask (fun _ call h => h.ask call) hmeets calls
      obtain ⟨texts, hsearch⟩ := RegionSegmenter.search_of_fill hafter.fill_ok.1
      exact ⟨_, texts, rfl, hafter.fill_ok.1, hsearch, hsearch.length_le⟩
  · exact (MarkupReader.append_of_next? h).symm

/-- Blank lines that end sentences without tokens, an element that is empty, one inside itself that is
left open, and a bracket that is never closed. -/
theorem Config.drains_of_blank_lines :
    let c : Config := { elementFilter := ['s'], tokenizer := .tokenized,
                        explicitDelimiter := some ['\n'], keepEmptySentences := true }
    let stream := TextStream.ofText "<s>\nA B\n</s><s/><s><s> \n<".toList
    let pattern : Pattern := .group {} {} (.set false [.literal 's'.toNat])
    (c.OptionsAccepted ∧ c.tokenizerMaker = none ∧ stream.Steady ∧
      Pattern.ofText c.elementFilter = .ok pattern) ∧
    (∃ ss, c.Spends stream ss ∧ ss.map (List.map Token.word) =
      [["<s>"], ["A", "B"], ["</s><s/><s><s>"], ["<"]].map (List.map String.toList)) ∧
    ∃ s ss, RegionSegmenter.ofStream c stream = .ok s ∧ s.Gives ss ∧ ss.map (List.map Token.word) =
      [[], ["A", "B"], [], ["<"]].map (List.map String.toList) := by
  intro c stream pattern
  have ho : c.OptionsAccepted := ⟨none, rfl⟩
  have hst : stream.Steady := TextStream.steady_ofText _
  have hp : Pattern.ofText c.elementFilter = .ok pattern := rfl
  obtain ⟨⟨ss, hspends, -⟩, hregions, -⟩ := ho.drains rfl hst
  obtain ⟨s, blocks, parts, hs, hblocks, hparts, hg, -⟩ := hregions pattern hp
  -- The sentences of a text are computed from its tokens.
  let segments (text : Text) : List Sentence :=
    let s := Segmenter.ofSource c true (.spaced { stream := .ofText text, newlines := true })
    (s.rules.sentences s.source.coming).map s.escape
  have hsegments {text : Text} {ss : List Sentence} (h : c.Spends (.ofText text) ss) :
      segments text = ss := by
    obtain ⟨s, _, hs, _, hg, _⟩ := h
    exact c.rightUnique_segments (Config.segments_of_ofStream rfl rfl) ⟨s, hs, hg⟩
  refine ⟨⟨ho, rfl, hst, hp⟩, ⟨ss, hspends, ?_⟩, s, _, hs, hg, ?_⟩
  · rw [← hsegments hspends]
    decide +kernel
  · have hbs : blocks = ["\nA B\n", "", " \n<"].map String.toList := by
      obtain rfl := Except.ok.inj ((RegionSegmenter.ofStream_of_pattern hp stream).symm.trans hs)
      obtain ⟨pieces, hd⟩ := hst.exists_delivers
      rw [hblocks.unique (RegionSource.gives_of_pieces hd { pattern, keepTags := false }), hd.flatten]
      decide +kernel
    have hps : blocks.map segments = parts := by
      rw [← List.forall₂_eq_eq_eq, List.forall₂_map_left_iff]
      exact hparts.imp fun _ _ => hsegments
    rw [← hps, hbs]
    decide +kernel

end SentenceReader
