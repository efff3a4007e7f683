import SentenceReader.Proofs.Sentence.Recorded

/-! What logs and meters show of the sentences of regions. Each region is entered when it is taken up,
each of its sentences when it is found, and each stream when it is closed; calls that look ahead enter
nothing twice and pass nothing over. -/
namespace SentenceReader

/-- What shows of an event: an entry in a log, or a count or a value of a meter. -/
inductive Entry where
  | log (entry : LogEntry)
  | measure (m : Measure)

namespace Entry

def countsSentence : Entry → Bool
  | measure (.count name _) => name == "docsegment.sentences".toList
  | _ => false

/-- The entries of a sentence. -/
def ofSentence (s : Sentence) : List Entry :=
  [.measure (.count "docsegment.sentences".toList 1),
    .measure (.value "docsegment.sentence_length".toList s.length)]

/-- The entries of a region with its number, its text and its sentences. -/
def ofRegion (index : Nat) (block : Text) (ss : List Sentence) : List Entry :=
  [.measure (.count "docsegment.regions".toList 1),
    .log ⟨.info, "region_opened".toList,
      [("index".toList, .int index), ("length".toList, .int block.length)]⟩] ++
  ss.flatMap ofSentence ++ [.log ⟨.info, "stream_released".toList, []⟩]

/-- The entries of the regions that follow some other ones, to the end. -/
def ofRegions (before : Nat) (found : List (Text × List Sentence)) : List Entry :=
  (found.zipIdx (before + 1)).flatMap (fun r => ofRegion r.2 r.1.1 r.1.2) ++
    [.log ⟨.info, "stream_released".toList, [("regions".toList, .int (before + found.length : Nat))]⟩]

end Entry

namespace Event

/-- What shows of an event. A meter is told first, and then the log. -/
def entries (e : Event) : List Entry := e.measures.map .measure ++ e.log?.toList.map .log

theorem countP_entries (e : Event) :
    e.entries.countP Entry.countsSentence = e.sentenceLength?.toList.length := by
  cases e <;> rfl

/-- The sentences that are counted are those whose length is told. -/
theorem countP_flatMap_entries (events : List Event) :
    (events.flatMap entries).countP Entry.countsSentence = (sentenceLengths events).length := by
  induction events with
  | nil => rfl
  | cons e events ih =>
    rw [List.flatMap_cons, List.countP_append, countP_entries, ih, sentenceLengths, sentenceLengths,
      List.filterMap_cons]
    cases e.sentenceLength? with
    | none => exact Nat.zero_add _
    | some length => exact Nat.add_comm _ _

end Event

/-- What shows of a sequence of sentences: all of these entries where it is asked for one sentence after
the other to its end, and a beginning of them whatever is asked for, which is all of them once an answer
says that the end was reached. As many sentences are counted as were given out, or one more. -/
structure Calls.Accounts {σ : Type} (q : Calls σ Sentence) (s : σ) (ss : List Sentence)
    (trace : List Entry) : Prop where
  drained : (q.record s (List.replicate (ss.length + 1) .next)).flatMap Event.entries = trace
  recorded : ∀ calls, (q.record s calls).flatMap Event.entries <+: trace
  complete : ∀ calls, (q.answers s calls).any CallAnswer.isEnd = true →
    (q.record s calls).flatMap Event.entries = trace
  counted : ∀ calls,
    let given := ((q.answers s calls).filterMap CallAnswer.item?).length
    let counted := ((q.record s calls).flatMap Event.entries).countP Entry.countsSentence
    counted = given ∨ counted = given + 1

/-- To ask for one item more than there are is to be told of the end. -/
theorem Calls.any_isEnd_of_gives {σ α : Type} {q : Calls σ α} {s : σ} {items : List α}
    (h : Reply.Gives q.next .exhausted s items) :
    (q.answers s (List.replicate (items.length + 1) .next)).any CallAnswer.isEnd = true := by
  induction items generalizing s with
  | nil =>
    rw [Reply.Gives] at h
    simp [answers, ask, h, Except.map, CallAnswer.isEnd]
  | cons a items ih =>
    rw [List.length_cons, List.replicate_succ, answers, List.any_cons, Bool.or_eq_true]
    exact .inr (ih h.2)

namespace LookAhead

variable {σ : Type} {l : LookAhead σ Sentence} {s s' : σ} {trace : List Event}

/-- A sequence whose sentences are told when they are found accounts for what it records. -/
theorem Records.accounted (h : l.Records s trace) {good : σ → Prop} (hm : l.Measures good) (hs : good s)
    (hr : l.ready s = none) {ss : List Sentence} (hg : Reply.Gives l.next .exhausted s ss) :
    l.calls.Accounts s ss (trace.flatMap Event.entries) := by
  have hcomplete (calls : List Call) (he : (l.calls.answers s calls).any CallAnswer.isEnd = true) :
      (l.calls.record s calls).flatMap Event.entries = trace.flatMap Event.entries := by
    obtain ⟨rest, rfl, -, hend⟩ := h.after calls
    rw [hend he, List.append_nil]
  refine ⟨hcomplete _ (Calls.any_isEnd_of_gives hg), fun calls => ?_, hcomplete, fun calls => ?_⟩
  · obtain ⟨rest, rfl, -, -⟩ := h.after calls
    rw [List.flatMap_append]
    exact List.prefix_append _ _
  · have hlengths := congrArg List.length (hm.sentenceLengths_record hs calls)
    rw [hr, Option.toList_none, List.map_nil, List.nil_append, List.length_map, List.length_append]
      at hlengths
    dsimp only
    rw [Event.countP_flatMap_entries, hlengths]
    cases l.ready (l.calls.after s calls) with
    | none => exact .inl rfl
    | some a => exact .inr rfl

theorem state_next_of_found {σ α : Type} (l : LookAhead σ α) {s : σ} {a : α}
    (ok : (l.fill s).result = .ok ()) (found : l.ready (l.fill s).state = some a) :
    (l.next s).state = l.take (l.fill s).state := by
  simp [next, Reply.andThen, ok, Reply.after, found]

/-- What is recorded behind some events. -/
theorem Records.behind {events : List Event} (h : l.Records s' trace)
    (hfill : l.fill s = (l.fill s').after events) : l.Records s (events ++ trace) := by
  cases h with
  | ends ok nothing =>
    have hends : l.Records s (l.fill s).events :=
      .ends (by rw [hfill]; exact ok) (by rw [hfill]; exact nothing)
    rw [hfill] at hends
    exact hends
  | @finds _ a rest ok found later =>
    have hfinds : l.Records s ((l.fill s).events ++ rest) :=
      .finds (by rw [hfill]; exact ok) (by rw [hfill]; exact found) (by rw [hfill]; exact later)
    rw [hfill, Reply.after, List.append_assoc] at hfinds
    exact hfinds

end LookAhead

namespace Segmenter

/-- What happens at a search that goes well: the sentence that is found is finished, or the stream is
closed. -/
theorem events_fill {s : Segmenter} (hw : s.Waiting) (ok : s.fill.result = .ok ()) :
    (s.fill.state.ready = none ∧ s.fill.events = [.streamReleased none]) ∨
      ∃ sentence, s.fill.state.ready = some sentence ∧ s.fill.state.finished = false ∧
        s.fill.events = [.sentenceFinished sentence.length] := by
  have hready := s.ready_build.trans hw.ready
  have hfinished := s.finished_build.trans hw.finished
  rw [fill_of_unsettled (by simp [hw.ready, hw.finished])] at ok ⊢
  generalize s.build = built at hready hfinished ok ⊢
  obtain ⟨result, s'⟩ := built
  rcases result with fault | _ | sentence
  · simp only [conclude] at ok
    split at ok <;> simp at ok
  · exact .inl ⟨hready, rfl⟩
  · exact .inr ⟨_, rfl, hfinished, rfl⟩

/-- The events of these sentences, one by one, and of the end. -/
def eventsOf (ss : List Sentence) : List Event :=
  ss.map (fun sentence => .sentenceFinished sentence.length) ++ [.streamReleased none]

/-- Of the sentences that a new segmenter gives out each is told once. -/
theorem records_of_gives {s : Segmenter} {ss : List Sentence} (hw : s.Waiting) (h : s.Gives ss) :
    lookAhead.Records s (eventsOf ss) := by
  rw [Gives, ← next_lookAhead] at h
  induction ss generalizing s with
  | nil =>
    obtain ⟨ok, hready⟩ := lookAhead.fill_of_gives h
    rcases events_fill hw ok with ⟨-, hevents⟩ | ⟨sentence, hsome, -, -⟩
    · exact (congrArg (lookAhead.Records s) hevents).mp (.ends ok hready)
    · exact absurd (hready.symm.trans hsome) (by simp)
  | cons x ss ih =>
    obtain ⟨ok, hready⟩ := lookAhead.fill_of_gives h
    rcases events_fill hw ok with ⟨hnone, -⟩ | ⟨sentence, hsome, hf', hevents⟩
    · exact absurd (hnone.symm.trans hready) (by simp)
    · obtain rfl : sentence = x := Option.some.inj (hsome.symm.trans hready)
      have hlater := h.2
      rw [lookAhead.state_next_of_found ok hready] at hlater
      have hfinds := LookAhead.Records.finds ok hready (ih ⟨rfl, hf'⟩ hlater)
      rw [show (lookAhead.fill s).events = _ from hevents] at hfinds
      exact hfinds

end Segmenter

/-- Nothing shows of the making of a segmenter. -/
theorem Segmenter.entries_ofStream (c : Config) (stream : TextStream) :
    (ofStream c stream).2.flatMap Event.entries = [] := by
  unfold ofStream
  split <;> rfl

namespace RegionSegmenter

/-- A sequence that is done with a region, if it has taken up one, and has not looked for the next. -/
structure Between (s : RegionSegmenter) : Prop where
  ready : s.ready = none
  finished : s.finished = false
  current : s.fromCurrent = ⟨.ok none, s, []⟩

section Between

variable {s : RegionSegmenter}

theorem Between.fill (h : s.Between) : s.fill = s.takeNext := by
  rw [fill_of_unsettled (by simp [h.ready, h.finished]), h.current]
  rfl

/-- Where there are no more regions, the stream is closed. -/
theorem Between.records_end (h : s.Between) (hn : s.regions.next?.1 = .ok none) :
    lookAhead.Records s [.streamReleased (some s.count)] := by
  have hfill : s.fill = ⟨.ok (),
      { s with regions := s.regions.next?.2, current := none }.finish,
      [.streamReleased (some s.count)]⟩ := by
    rw [h.fill, takeNext, ← Prod.eta s.regions.next?, hn]
  have hlookAhead : lookAhead.fill s = _ := hfill
  have hends : lookAhead.Records s s.fill.events :=
    .ends (by rw [hlookAhead]) (by rw [hlookAhead]; exact h.ready)
  rw [hfill] at hends
  exact hends

/-- Where there is another region, it is taken up. -/
theorem Between.records_region (h : s.Between) {text : Text} {segmenter : Segmenter} {trace : List Event}
    (hn : s.regions.next?.1 = .ok (some text))
    (ho : (Segmenter.ofStream s.config (.ofText text)).1 = .ok segmenter)
    (hlater : lookAhead.Records { s with
      count := s.count + 1, current := some segmenter, regions := s.regions.next?.2 } trace) :
    lookAhead.Records s (.regionOpened (s.count + 1) text.length ::
      (Segmenter.ofStream s.config (.ofText text)).2 ++ trace) := by
  refine hlater.behind ?_
  change s.fill = _
  rw [h.fill, takeNext, ← Prod.eta s.regions.next?, hn]
  dsimp only [takeUp]
  rw [← Prod.eta (Segmenter.ofStream s.config (.ofText text)), ho]
  rfl

/-- What happens in the current region happens before what comes behind it. -/
theorem records_append {segmenter : Segmenter} {trace rest : List Event}
    (h : Segmenter.lookAhead.Records segmenter trace) (hc : s.current = some segmenter)
    (hr : s.ready = none) (hf : s.finished = false)
    (hrest : ∀ s' : RegionSegmenter, s'.Between → s'.config = s.config → s'.count = s.count →
      s'.regions = s.regions → lookAhead.Records s' rest) :
    lookAhead.Records s (trace ++ rest) := by
  have hunsettled : ¬ (s.ready.isSome || s.finished) = true := by simp [hr, hf]
  induction h generalizing s with
  | @ends segmenter ok nothing =>
    let s' : RegionSegmenter := { s with current := some (Segmenter.lookAhead.fill segmenter).state }
    have hbetween : s'.Between := by
      refine ⟨hr, hf, ?_⟩
      have hcurrent : s'.current = some (Segmenter.lookAhead.fill segmenter).state := rfl
      rw [fromCurrent_of_some hcurrent, LookAhead.next?_eq, Segmenter.lookAhead.fill_settled segmenter ok,
        nothing]
      rfl
    refine (hrest s' hbetween rfl rfl rfl).behind ?_
    change s.fill = s'.fill.after _
    rw [hbetween.fill, fill_of_unsettled hunsettled, fromCurrent_of_some hc, LookAhead.next?_eq, ok,
      nothing]
    rfl
  | @finds segmenter a later ok found hlater ih =>
    have hfill : s.fill = ⟨.ok (), { s with
        current := some (Segmenter.lookAhead.take (Segmenter.lookAhead.fill segmenter).state)
        ready := some a }, (Segmenter.lookAhead.fill segmenter).events⟩ := by
      rw [fill_of_unsettled hunsettled, fromCurrent_of_some hc, LookAhead.next?_eq, ok, found]
      rfl
    have hlookAhead : lookAhead.fill s = _ := hfill
    have hfinds : lookAhead.Records s ((lookAhead.fill s).events ++ (later ++ rest)) := by
      refine .finds (a := a) (by rw [hlookAhead]) (by rw [hlookAhead]; rfl) ?_
      rw [hlookAhead]
      exact ih rfl rfl hf hrest (by simp [lookAhead, hf])
    rw [hlookAhead, ← List.append_assoc] at hfinds
    exact hfinds

end Between

/-- The events of these regions, which follow some other ones, and of the end. -/
def eventsOf (c : Config) (before : Nat) : List (Text × List Sentence) → List Event
  | [] => [.streamReleased (some before)]
  | (block, ss) :: later =>
    .regionOpened (before + 1) block.length :: (Segmenter.ofStream c (.ofText block)).2 ++
      (Segmenter.eventsOf ss ++ eventsOf c (before + 1) later)

/-- Of the regions that are to come each is told once, and so is each of its sentences. -/
theorem Between.records {s : RegionSegmenter} (h : s.Between) {found : List (Text × List Sentence)}
    (hg : s.regions.Gives (found.map Prod.fst)) (hs : ∀ r ∈ found, s.config.Segments r.1 r.2) :
    lookAhead.Records s (eventsOf s.config s.count found) := by
  induction found generalizing s with
  | nil => exact h.records_end ((RegionSource.gives_nil_iff _).1 hg)
  | cons r found ih =>
    obtain ⟨block, ss⟩ := r
    obtain ⟨hn, hregions⟩ := (RegionSource.gives_cons_iff _ _ _).1 hg
    obtain ⟨segmenter, ho, hgives⟩ := hs (block, ss) List.mem_cons_self
    have hrecords := Segmenter.records_of_gives (Segmenter.waiting_of_ofStream ho).1 hgives
    refine h.records_region hn ho (records_append hrecords rfl h.ready h.finished ?_)
    intro s' hbetween hconfig hcount hsource
    have hlater := ih hbetween (hsource ▸ hregions)
      fun r hr => hconfig ▸ hs r (List.mem_cons_of_mem _ hr)
    rwa [hconfig, hcount] at hlater

/-- What shows of regions that follow some other ones. -/
theorem entries_eventsOf (c : Config) (before : Nat) (found : List (Text × List Sentence)) :
    (eventsOf c before found).flatMap Event.entries = Entry.ofRegions before found := by
  induction found generalizing before with
  | nil => rfl
  | cons r found ih =>
    obtain ⟨block, ss⟩ := r
    have hsentences : (Segmenter.eventsOf ss).flatMap Event.entries =
        ss.flatMap Entry.ofSentence ++ [.log ⟨.info, "stream_released".toList, []⟩] := by
      rw [Segmenter.eventsOf, List.flatMap_append, List.flatMap_map]
      rfl
    have hcount : before + 1 + found.length = before + (found.length + 1) := by omega
    rw [eventsOf, List.cons_append, List.flatMap_cons, List.flatMap_append, List.flatMap_append,
      Segmenter.entries_ofStream, hsentences, ih, Entry.ofRegions, Entry.ofRegions, List.zipIdx_cons,
      List.flatMap_cons, List.length_cons, hcount, Entry.ofRegion]
    simp only [List.append_assoc, List.nil_append]
    rfl

/-- What is found in the regions of a source: their texts, each with its sentences. -/
structure Finds (s : RegionSegmenter) (found : List (Text × List Sentence)) : Prop where
  regions : s.regions.Gives (found.map Prod.fst)
  segments : ∀ r ∈ found, s.config.Segments r.1 r.2
  gives : s.Gives (found.map Prod.snd).flatten

theorem finds_start {c : Config} (h : c.HasTokens) {regions : RegionSource} {blocks : List Text}
    (hg : regions.Gives blocks) :
    ∃ found, found.map Prod.fst = blocks ∧ Finds { config := c, regions } found ∧
      calls.Accounts { config := c, regions } (found.map Prod.snd).flatten (Entry.ofRegions 0 found) := by
  let found := blocks.map fun block => (block, c.ownSentences block)
  have hblocks : found.map Prod.fst = blocks := by
    rw [List.map_map]
    exact List.map_id blocks
  have hsegments : ∀ r ∈ found, c.Segments r.1 r.2 := by simp [found, h.segments]
  have howes : Owes { config := c, regions } [] (found.map Prod.fst) (found.map Prod.snd) := by
    refine ⟨rfl, rfl, rfl, hblocks ▸ hg, ?_⟩
    rw [List.forall₂_map_left_iff, List.forall₂_map_right_iff, List.forall₂_same]
    exact hsegments
  have hgives := gives_of_owes howes
  have hbetween : Between { config := c, regions } := ⟨rfl, rfl, rfl⟩
  have hrecords := hbetween.records (hblocks ▸ hg) hsegments
  refine ⟨found, hblocks, ⟨hblocks ▸ hg, hsegments, hgives⟩, ?_⟩
  rw [Gives, ← next_lookAhead] at hgives
  rw [calls_eq, ← entries_eventsOf c]
  exact hrecords.accounted measures (by simp [CurrentWaits]) rfl hgives

end RegionSegmenter

/-- Logs and meters account for the sentences of regions, of those that stand in for the regions of a
document and of those that are found in one, however they are asked for. -/
theorem Config.HasTokens.accounts [PatternHost] {c : Config} (h : c.HasTokens) :
    (∀ (stream : TextStream) (texts : List Text), ∃ found, found.map Prod.fst = texts ∧
      (RegionSegmenter.ofTexts c stream texts).Finds found ∧
      RegionSegmenter.calls.Accounts (RegionSegmenter.ofTexts c stream texts)
        (found.map Prod.snd).flatten (Entry.ofRegions 0 found)) ∧
    ∀ (stream : TextStream) (pattern : Pattern), stream.Steady →
      Pattern.ofText c.elementFilter = .ok pattern →
        ∃ s found, RegionSegmenter.ofStream c stream = .ok s ∧ s.Finds found ∧
          RegionSegmenter.calls.Accounts s (found.map Prod.snd).flatten (Entry.ofRegions 0 found) := by
  constructor
  · exact fun stream texts => RegionSegmenter.finds_start h (RegionSource.gives_given texts stream)
  · intro stream pattern hst hp
    obtain ⟨pieces, hd⟩ := hst.exists_delivers
    obtain ⟨found, -, hfound⟩ := RegionSegmenter.finds_start h
      (RegionSource.gives_of_pieces hd { pattern, keepTags := c.keepInternalTags })
    exact ⟨_, found, RegionSegmenter.ofStream_of_pattern hp stream, hfound⟩

/-- Two sentences are found in the first region, and none in the second one. -/
theorem Config.accounts_of_markup :
    let c : Config := { elementFilter := ['s'], tokenizer := .tokenized }
    let stream := TextStream.ofText "<s>A . B</s><p>.</p><s></s>".toList
    let pattern : Pattern := .group {} {} (.set false [.literal 's'.toNat])
    (c.HasTokens ∧ stream.Steady ∧ Pattern.ofText c.elementFilter = .ok pattern) ∧
      ∃ s ss, RegionSegmenter.ofStream c stream = .ok s ∧
        ss.map (List.map Token.word) = [["A", "."], ["B"]].map (List.map String.toList) ∧
        RegionSegmenter.calls.Accounts s ss (Entry.ofRegions 0 [("A . B".toList, ss), ([], [])]) := by
  intro c stream pattern
  have hc : c.HasTokens := ⟨none, rfl⟩
  have hst : stream.Steady := TextStream.steady_ofText _
  have hp : Pattern.ofText c.elementFilter = .ok pattern := rfl
  obtain ⟨s, found, hs, hfound, haccounts⟩ := (Config.HasTokens.accounts hc).2 stream pattern hst hp
  have hblocks : found.map Prod.fst = ["A . B".toList, []] := by
    obtain rfl := Except.ok.inj ((RegionSegmenter.ofStream_of_pattern hp stream).symm.trans hs)
    obtain ⟨pieces, hd⟩ := hst.exists_delivers
    have hg := hfound.regions.unique (RegionSource.gives_of_pieces hd { pattern })
    rw [hg, hd.flatten]
    decide +kernel
  have hconfig : s.config = c := by
    rw [← Except.ok.inj ((RegionSegmenter.ofStream_of_pattern hp stream).symm.trans hs)]
  obtain ⟨⟨_, ss⟩, later, rfl, rfl, hlater⟩ := List.map_eq_cons_iff.1 hblocks
  obtain ⟨⟨_, none⟩, rest, rfl, rfl, hrest⟩ := List.map_eq_cons_iff.1 hlater
  obtain rfl := List.map_eq_nil_iff.1 hrest
  have hsegments := hconfig ▸ hfound.segments
  obtain rfl : ss = c.ownSentences "A . B".toList :=
    c.rightUnique_segments (hsegments _ (.head _)) (hc.segments _)
  obtain rfl : none = c.ownSentences [] :=
    c.rightUnique_segments (hsegments _ (.tail _ (.head _))) (hc.segments _)
  have hnone : c.ownSentences [] = [] := by decide +kernel
  simp only [List.map_cons, List.map_nil, hnone, List.flatten_cons, List.flatten_nil,
    List.append_nil] at haccounts
  exact ⟨⟨hc, hst, hp⟩, s, _, hs, by decide +kernel, haccounts⟩

end SentenceReader
