import Mathlib.Data.List.Forall2
import SentenceReader.Proofs.LookingAhead
import SentenceReader.Proofs.Region.Coming
import SentenceReader.Proofs.Sentence.Opening
import SentenceReader.Proofs.Sentence.Collecting
import SentenceReader.Sentence.Regions

/-! The sentences of a marked-up document. They are those of its regions, one region after the other,
as if each region were a text of its own. -/
namespace SentenceReader

theorem SentenceRules.gather_ne_exhausted (r : SentenceRules) (source source' : TokenSource)
    (taken : List Token) (ended : Bool) :
    r.gather source taken ended ≠ (.error .exhausted, source') := by
  intro h
  fun_induction gather r source taken ended with
  | case1 source taken ended fault next hn =>
    obtain ⟨rfl, rfl⟩ : fault = .exhausted ∧ next = source' := by simpa using h
    exact TokenSource.next?_ne_exhausted _ _ hn
  | case2 => simp at h
  | case3 => simp at h
  | case4 => simp at h
  | case5 source taken ended t next hn t' hc taken' ended' he hk ih => exact ih h
  | case6 source taken ended t next hn t' hc taken' ended' he ih => exact ih h

theorem TokenSource.hasNext_ne_exhausted (s s' : TokenSource) :
    s.hasNext ≠ (.error .exhausted, s') := by
  intro h
  unfold hasNext at h
  split at h
  · simp only [Prod.mk.injEq, Except.error.injEq] at h
    exact Fault.ofRead_ne_exhausted _ h.1
  · simp at h

namespace Segmenter

theorem build_ne_exhausted (s s' : Segmenter) : s.build ≠ (.error .exhausted, s') := by
  intro h
  unfold build at h
  dsimp only at h
  split at h
  · next fault source hs =>
    obtain ⟨rfl, -⟩ : fault = .exhausted ∧ _ := by simpa using h
    split at hs
    · simp at hs
    · exact TokenSource.hasNext_ne_exhausted _ _ hs
  · simp at h
  · split at h
    · next fault source hg =>
      obtain ⟨rfl, -⟩ : fault = .exhausted ∧ _ := by simpa using h
      exact SentenceRules.gather_ne_exhausted _ _ _ _ _ hg
    · simp at h

theorem fill_of_settled {s : Segmenter} (h : (s.ready.isSome || s.finished) = true) :
    s.fill = ⟨.ok (), s, []⟩ := by
  rw [fill, if_pos h]

theorem settled_of_fill {s : Segmenter} (h : s.fill.result = .ok ()) :
    (s.fill.state.ready.isSome || s.fill.state.finished) = true := by
  by_cases hs : (s.ready.isSome || s.finished) = true
  · rwa [fill_of_settled hs]
  · cases hb : s.build with
    | mk result s' =>
      rw [fill, if_neg hs, hb] at h ⊢
      cases result with
      | error fault =>
        dsimp only at h
        split at h <;> exact absurd h (by simp)
      | ok found => cases found <;> simp [finish]

def lookAhead : LookAhead Segmenter Sentence where
  fill := fill
  ready := ready
  take s := { s with ready := none }
  fill_settled s h := fill_of_settled (settled_of_fill h)
  fill_ne_exhausted s := by
    unfold fill
    split
    · simp
    · split
      · next fault s' hb =>
        have hne : fault ≠ .exhausted := by
          rintro rfl
          exact build_ne_exhausted _ _ hb
        split <;> simpa using hne
      · simp
      · simp

theorem next_lookAhead : lookAhead.next = next := by
  funext s
  refine congrArg s.fill.andThen ?_
  funext _ s'
  cases hr : s'.ready <;> simp [lookAhead, hr]

theorem Gives.hasNext {s : Segmenter} {ss : List Sentence} (h : s.Gives ss) :
    s.hasNext.result = .ok (!ss.isEmpty) ∧ s.hasNext.state.Gives ss := by
  have hl : Reply.Gives lookAhead.next .exhausted s ss := by rwa [next_lookAhead]
  have hn := lookAhead.hasNext_of_gives hl
  rwa [next_lookAhead] at hn

end Segmenter

namespace Config

/-- There are tokens for every stream: the options of the built-in tokenizer are accepted, where it
is not replaced by a maker of other ones. -/
def HasTokens (c : Config) : Prop :=
  match c.tokenizerMaker with
  | none => c.OptionsAccepted
  | some (.given _ _) => True
  | some (.unusable _) => False

/-- A segmenter of its own, over a text alone, gives out these sentences. -/
def Segments (c : Config) (text : Text) (ss : List Sentence) : Prop :=
  ∃ s, (Segmenter.ofStream c (.ofText text)).1 = .ok s ∧ s.Gives ss

theorem rightUnique_segments (c : Config) : Relator.RightUnique c.Segments := by
  rintro text xs ys ⟨s, hs, hg⟩ ⟨s', hs', hg'⟩
  obtain rfl := Except.ok.inj (hs.symm.trans hs')
  exact hg.unique hg'

theorem HasTokens.ofStream {c : Config} (h : c.HasTokens) (stream : TextStream) :
    ∃ s, (Segmenter.ofStream c stream).1 = .ok s ∧ s.source.stream = stream := by
  unfold HasTokens at h
  cases hm : c.tokenizerMaker with
  | none =>
    rw [hm] at h
    exact Segmenter.ofStream_accepted hm h stream
  | some maker =>
    rw [hm] at h
    cases maker with
    | given tokens mark => exact ⟨_, by simp only [Segmenter.ofStream, hm]; rfl, rfl⟩
    | unusable kind => exact h.elim

theorem segments_of_ofStream {c : Config} {text : Text} {s : Segmenter}
    (hs : (Segmenter.ofStream c (.ofText text)).1 = .ok s)
    (hstream : s.source.stream = .ofText text) :
    c.Segments text ((s.rules.sentences s.source.coming).map s.escape) := by
  have hst : s.source.stream.Steady := by
    rw [hstream]
    exact TextStream.steady_ofText text
  exact ⟨s, hs, Segmenter.gives_sentences hs (TokenSource.gives_coming hst)⟩

def ownSentences (c : Config) (text : Text) : List Sentence :=
  match (Segmenter.ofStream c (.ofText text)).1 with
  | .ok s => (s.rules.sentences s.source.coming).map s.escape
  | .error _ => []

theorem HasTokens.segments {c : Config} (h : c.HasTokens) (text : Text) :
    c.Segments text (c.ownSentences text) := by
  obtain ⟨s, hs, hstream⟩ := h.ofStream (.ofText text)
  rw [ownSentences, hs]
  exact segments_of_ofStream hs hstream

theorem HasTokens.segments_all {c : Config} (h : c.HasTokens) (blocks : List Text) :
    ∃ sss, List.Forall₂ c.Segments blocks sss := by
  refine ⟨blocks.map c.ownSentences, ?_⟩
  rw [List.forall₂_map_right_iff]
  exact List.forall₂_same.2 fun block _ => h.segments block

end Config

namespace RegionSegmenter

/-- The sentences of the regions of a document are exactly these. -/
def Gives (s : RegionSegmenter) (ss : List Sentence) : Prop := Reply.Gives next .exhausted s ss

/-- The sentences that are left of the current region. -/
def CurrentGives (s : RegionSegmenter) (ss : List Sentence) : Prop :=
  match s.current with
  | none => ss = []
  | some segmenter => segmenter.Gives ss

/-- What a sequence that has not looked ahead, and has met no end, still owes: the sentences left of
the current region, then those of each of the regions to come. -/
structure Owes (s : RegionSegmenter) (current : List Sentence) (blocks : List Text)
    (later : List (List Sentence)) : Prop where
  ready : s.ready = none
  finished : s.finished = false
  current : s.CurrentGives current
  regions : s.regions.Gives blocks
  later : List.Forall₂ s.config.Segments blocks later

theorem fromCurrent_nil {s : RegionSegmenter} (h : s.CurrentGives []) :
    ∃ current events, s.fromCurrent = ⟨.ok none, { s with current }, events⟩ := by
  unfold CurrentGives at h
  cases hc : s.current with
  | none =>
    refine ⟨s.current, [], ?_⟩
    simp only [fromCurrent, hc]
    rw [← hc]
  | some segmenter =>
    rw [hc] at h
    obtain ⟨hn, -⟩ := h.hasNext
    refine ⟨some segmenter.hasNext.state, segmenter.hasNext.events ++ [], ?_⟩
    simp [fromCurrent, hc, Reply.andThen, hn, Reply.mapState, Reply.after]

theorem fromCurrent_cons {s : RegionSegmenter} {x : Sentence} {xs : List Sentence}
    (h : s.CurrentGives (x :: xs)) :
    ∃ segmenter events, segmenter.Gives xs ∧
      s.fromCurrent = ⟨.ok (some x), { s with current := some segmenter }, events⟩ := by
  unfold CurrentGives at h
  cases hc : s.current with
  | none => simp [hc] at h
  | some segmenter =>
    rw [hc] at h
    obtain ⟨hn, hx, hxs⟩ := h.hasNext
    refine ⟨segmenter.hasNext.state.next.state, segmenter.hasNext.events ++
      (segmenter.hasNext.state.next.events ++ []), hxs, ?_⟩
    simp [fromCurrent, hc, Reply.andThen, hn, hx, Reply.mapState, Reply.after]

theorem takeUp_segments {s : RegionSegmenter} {text : Text} {ss : List Sentence}
    (h : s.config.Segments text ss) :
    ∃ segmenter events, segmenter.Gives ss ∧
      s.takeUp text = ⟨.ok (), { s with count := s.count + 1, current := some segmenter }, events⟩ := by
  obtain ⟨segmenter, hs, hg⟩ := h
  cases ho : Segmenter.ofStream s.config (.ofText text) with
  | mk result events =>
    rw [ho] at hs
    obtain rfl : result = .ok segmenter := hs
    exact ⟨segmenter, _, hg, by simp only [takeUp, ho]; rfl⟩

section Fill

variable {s : RegionSegmenter} (hr : s.ready = none) (hf : s.finished = false)
include hr hf

theorem fill_of_sentence {s' : RegionSegmenter} {x : Sentence} {events : List Event}
    (h : s.fromCurrent = ⟨.ok (some x), s', events⟩) :
    s.fill = ⟨.ok (), { s' with ready := some x }, events⟩ := by
  rw [fill, if_neg (by simp [hr, hf])]
  split <;> simp_all

theorem fill_of_end {s' : RegionSegmenter} {events : List Event} {regions : RegionSource}
    (h : s.fromCurrent = ⟨.ok none, s', events⟩) (hn : s'.regions.next? = (.ok none, regions)) :
    s.fill = ⟨.ok (), { s' with regions, current := none }.finish,
      events ++ [.streamReleased (some s'.count)]⟩ := by
  rw [fill, if_neg (by simp [hr, hf])]
  split
  · simp_all
  · simp_all
  · next hc =>
    obtain ⟨rfl, rfl⟩ := by simpa [h] using hc
    split <;> simp_all

theorem fill_of_region {s' s₂ : RegionSegmenter} {events more : List Event}
    {regions : RegionSource} {text : Text} (h : s.fromCurrent = ⟨.ok none, s', events⟩)
    (hn : s'.regions.next? = (.ok (some text), regions))
    (ht : takeUp { s' with regions } text = ⟨.ok (), s₂, more⟩) :
    s.fill = s₂.fill.after (events ++ more) := by
  rw [fill, if_neg (by simp [hr, hf])]
  split
  · simp_all
  · simp_all
  · next hc =>
    obtain ⟨rfl, rfl⟩ := by simpa [h] using hc
    split
    · simp_all
    · simp_all
    · next hn' =>
      obtain ⟨rfl, rfl⟩ := by simpa [hn] using hn'
      split
      · simp_all
      · next ht' =>
        obtain ⟨rfl, rfl⟩ := by simpa [ht] using ht'
        rfl

end Fill

theorem next_of_ready {s s' : RegionSegmenter} {x : Sentence} {events : List Event}
    (h : s.fill = ⟨.ok (), { s' with ready := some x }, events⟩) :
    s.next.result = .ok x ∧ s.next.state = { s' with ready := none } := by
  simp [next, h, Reply.andThen, Reply.after]

theorem next_of_fill_after {s s' : RegionSegmenter} {events : List Event}
    (h : s.fill = s'.fill.after events) :
    s.next.result = s'.next.result ∧ s.next.state = s'.next.state := by
  cases hf : s'.fill.result with
  | error fault => simp [next, h, hf, Reply.andThen, Reply.after]
  | ok u => simp [next, h, hf, Reply.andThen, Reply.after]

variable {current : List Sentence} {blocks : List Text} {later : List (List Sentence)}

theorem Owes.next_cons {s : RegionSegmenter} {x : Sentence} (h : s.Owes (x :: current) blocks later) :
    s.next.result = .ok x ∧ s.next.state.Owes current blocks later := by
  obtain ⟨segmenter, events, hg, hc⟩ := fromCurrent_cons h.current
  obtain ⟨hx, hs⟩ := next_of_ready (fill_of_sentence h.ready h.finished hc)
  refine ⟨hx, ?_⟩
  rw [hs]
  exact ⟨rfl, h.finished, hg, h.regions, h.later⟩

/-- The sentences left of a region come first, and then what comes where none of them are left. -/
theorem Owes.gives_append {s : RegionSegmenter} {rest : List Sentence}
    (h : s.Owes current blocks later)
    (hrest : ∀ s : RegionSegmenter, s.Owes [] blocks later → s.Gives rest) :
    s.Gives (current ++ rest) := by
  induction current generalizing s with
  | nil => exact hrest s h
  | cons x xs ih =>
    obtain ⟨hx, hs⟩ := h.next_cons
    exact ⟨hx, ih hs⟩

theorem Owes.next_end {s : RegionSegmenter} (h : s.Owes [] [] later) :
    s.next.result = .error .exhausted := by
  obtain ⟨segmenter, events, hc⟩ := fromCurrent_nil h.current
  have hn := (RegionSource.gives_nil_iff _).1 h.regions
  have hfill := fill_of_end h.ready h.finished hc (Prod.ext hn rfl)
  simp [next, hfill, Reply.andThen, Reply.after, finish, mapStream, h.ready]

/-- Where nothing is left of a region, the next one is taken up, as a text of its own. -/
theorem Owes.next_region {s : RegionSegmenter} {block : Text} {ss : List Sentence}
    (h : s.Owes [] (block :: blocks) (ss :: later)) :
    ∃ s' : RegionSegmenter, s'.Owes ss blocks later ∧
      s.next.result = s'.next.result ∧ s.next.state = s'.next.state := by
  obtain ⟨hblock, hblocks⟩ := List.forall₂_cons.1 h.later
  obtain ⟨segmenter, events, hc⟩ := fromCurrent_nil h.current
  obtain ⟨hn, hregions⟩ := (RegionSource.gives_cons_iff _ _ _).1 h.regions
  obtain ⟨opened, more, hg, ht⟩ :=
    takeUp_segments (s := { s with current := segmenter, regions := s.regions.next?.2 }) hblock
  have hfill := fill_of_region h.ready h.finished hc (Prod.ext hn rfl) ht
  let s' : RegionSegmenter :=
    { s with count := s.count + 1, current := some opened, regions := s.regions.next?.2 }
  have hs' : s'.Owes ss blocks later := ⟨h.ready, h.finished, hg, hregions, hblocks⟩
  exact ⟨s', hs', next_of_fill_after hfill⟩

/-- The sequence gives out what it owes. -/
theorem gives_of_owes {s : RegionSegmenter} (h : s.Owes current blocks later) :
    s.Gives (current ++ later.flatten) := by
  induction blocks generalizing s current later with
  | nil =>
    obtain rfl := List.forall₂_nil_left_iff.1 h.later
    exact h.gives_append fun s h => h.next_end
  | cons block blocks ih =>
    obtain ⟨ss, sss, -, -, rfl⟩ := List.forall₂_cons_left_iff.1 h.later
    refine h.gives_append fun s h => ?_
    obtain ⟨s', hs', hr, hs⟩ := h.next_region
    exact (ih hs').of_next_eq hr hs

/-- The sentences of a marked-up document are those of each of its regions alone, in order, whether
the regions are found in the document or stand in for them. -/
theorem gives_regionwise [PatternHost] {c : Config} (h : c.HasTokens) :
    (∀ (regions : RegionSource) (blocks : List Text), regions.Gives blocks →
      ∃ sss, List.Forall₂ c.Segments blocks sss ∧
        ({ config := c, regions } : RegionSegmenter).Gives sss.flatten) ∧
    (∀ (stream : TextStream) (texts : List Text),
      ∃ sss, List.Forall₂ c.Segments texts sss ∧ (ofTexts c stream texts).Gives sss.flatten) ∧
    ∀ (stream : TextStream) (pattern : Pattern), stream.Steady →
      Pattern.ofText c.elementFilter = .ok pattern →
        ∃ s source blocks sss, ofStream c stream = .ok s ∧
          RegionSource.ofText stream c.elementFilter c.keepInternalTags = .ok source ∧
          source.Gives blocks ∧ List.Forall₂ c.Segments blocks sss ∧ s.Gives sss.flatten := by
  have hall (regions : RegionSource) (blocks : List Text) (hg : regions.Gives blocks) :
      ∃ sss, List.Forall₂ c.Segments blocks sss ∧
        ({ config := c, regions } : RegionSegmenter).Gives sss.flatten := by
    obtain ⟨sss, hs⟩ := h.segments_all blocks
    have ho : ({ config := c, regions } : RegionSegmenter).Owes [] blocks sss :=
      ⟨rfl, rfl, rfl, hg, hs⟩
    exact ⟨sss, hs, gives_of_owes ho⟩
  refine ⟨hall, fun stream texts => hall _ _ (RegionSource.gives_given texts stream), ?_⟩
  intro stream pattern hst hp
  have hsource := RegionSource.ofText_of_pattern hp stream c.keepInternalTags
  obtain ⟨pieces, hd⟩ := hst.exists_delivers
  have hg := RegionSource.gives_of_pieces hd { pattern, keepTags := c.keepInternalTags }
  obtain ⟨sss, hs, hgs⟩ := hall _ _ hg
  exact ⟨_, _, _, sss, by rw [ofStream, hsource]; rfl, hsource, hg, hs, hgs⟩

/-- A delimiter is met in a region, none at its end, and the last region begins with a follower. -/
theorem gives_regionwise_of_markup :
    let c : Config := { elementFilter := ['s'], tokenizer := .tokenized }
    let stream := TextStream.ofText "<s>A . B</s><s></s><p>.</p><s/><s>) C</s>".toList
    let pattern : Pattern := .group {} {} (.set false [.literal 's'.toNat])
    (c.HasTokens ∧ stream.Steady ∧ Pattern.ofText c.elementFilter = .ok pattern) ∧
      ∃ s ss, ofStream c stream = .ok s ∧ s.Gives ss ∧
        ss.map (List.map Token.word) = [["A", "."], ["B"], [")", "C"]].map
          (List.map String.toList) := by
  intro c stream pattern
  have hc : c.HasTokens := ⟨none, rfl⟩
  have hst : stream.Steady := TextStream.steady_ofText _
  have hp : Pattern.ofText c.elementFilter = .ok pattern := rfl
  obtain ⟨s, source, blocks, sss, hs, hsource, hb, hsss, hg⟩ :=
    (gives_regionwise hc).2.2 stream pattern hst hp
  have hblocks : blocks = ["A . B", "", "", ") C"].map String.toList := by
    obtain rfl := Except.ok.inj ((RegionSource.ofText_of_pattern hp stream false).symm.trans hsource)
    obtain ⟨pieces, hd⟩ := hst.exists_delivers
    rw [hb.unique (RegionSource.gives_of_pieces hd { pattern, keepTags := false }), hd.flatten]
    decide +kernel
  refine ⟨⟨hc, hst, hp⟩, s, _, hs, hg, ?_⟩
  subst hblocks
  let segments (text : Text) : List Sentence :=
    let s := Segmenter.ofSource c false (.spaced { stream := .ofText text, newlines := false })
    (s.rules.sentences s.source.coming).map s.escape
  have hall (blocks : List Text) : List.Forall₂ c.Segments blocks (blocks.map segments) := by
    rw [List.forall₂_map_right_iff]
    exact List.forall₂_same.2 fun text _ => Config.segments_of_ofStream rfl rfl
  rw [List.right_unique_forall₂' c.rightUnique_segments hsss (hall _)]
  decide +kernel

end RegionSegmenter

end SentenceReader
