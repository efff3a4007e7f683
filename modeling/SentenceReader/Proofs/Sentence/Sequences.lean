import SentenceReader.Proofs.Sentence.Coupled

/-! The sentences of a text, and those of the regions of a document, as sequences that own a
stream. -/
namespace SentenceReader

namespace LookAhead

variable {σ α : Type} (l : LookAhead σ α)

/-- That there is another item means that it can be had. -/
theorem next_of_hasNext {s : σ} (h : (l.hasNext s).result = .ok true) :
    ∃ a, (l.next (l.hasNext s).state).result = .ok a := by
  cases hf : (l.fill s).result with
  | error fault => simp [hasNext, Reply.andThen, hf] at h
  | ok u =>
    simp only [hasNext, Reply.andThen, hf, Reply.after, Except.ok.injEq] at h ⊢
    obtain ⟨a, ha⟩ := Option.isSome_iff_exists.1 h
    exact ⟨a, by simp [next, Reply.andThen, l.fill_settled s hf, Reply.after, ha]⟩

theorem hasNext_ne_exhausted (s : σ) : (l.hasNext s).result ≠ .error .exhausted := by
  cases hf : (l.fill s).result with
  | error fault =>
    have hne := l.fill_ne_exhausted s
    rw [hf] at hne
    simpa [hasNext, Reply.andThen, hf] using hne
  | ok u => simp [hasNext, Reply.andThen, hf, Reply.after]

end LookAhead

namespace Segmenter

/-- Whether there are tokens depends on the options alone: either one of them is unknown, whatever the
stream, or the tokens are made of any stream in the same way. -/
theorem tokensOf_uniform (c : Config) (newlines : Bool) :
    (∃ key known, ∀ stream, tokensOf c stream newlines = .error (.unknownOption key known)) ∨
      ∃ make : TextStream → TokenSource, (∀ x y, (make x).mapStream (fun _ => y) = make y) ∧
        ∀ stream, tokensOf c stream newlines = .ok (make stream) := by
  cases ht : c.tokenizer with
  | running =>
    cases ho : LexedOptions.read c.tokenizerOptions with
    | error fault =>
      obtain ⟨key, known, rfl⟩ := LexedOptions.exists_of_read_error ho
      refine .inl ⟨key, known, fun stream => ?_⟩
      simp [tokensOf, Config.makeTokenizer, ht, Tokenizer.ofRunning, ho, Except.map, bind,
        Except.bind]
    | ok o =>
      let options : LexedOptions := { o with newlines := newlines || o.newlines }
      refine .inr ⟨fun stream => .lexed { stream, options }, fun _ _ => rfl, fun stream => ?_⟩
      exact tokensOf_running ht ho stream newlines
  | spaced =>
    cases ho : SpacedSource.readOptions c.tokenizerOptions with
    | error fault =>
      obtain ⟨key, known, rfl⟩ := SpacedSource.exists_of_readOptions_error ho
      refine .inl ⟨key, known, fun stream => ?_⟩
      simp [tokensOf, Config.makeTokenizer, ht, Tokenizer.ofSpaced, ho, Except.map, bind,
        Except.bind]
    | ok asked =>
      refine .inr ⟨fun stream => .spaced { stream, newlines := newlines || asked },
        fun _ _ => rfl, fun stream => ?_⟩
      exact tokensOf_spaced ht ho stream newlines
  | tokenized =>
    refine .inr ⟨fun stream => .spaced { stream, newlines }, fun _ _ => rfl, fun stream => ?_⟩
    exact tokensOf_tokenized ht stream newlines

/-- Where there is no segmenter the settings are at fault, and nothing was read. -/
theorem ofStream_error {c : Config} {stream : TextStream} {fault : Fault}
    (h : (ofStream c stream).1 = .error fault) :
    fault ≠ .exhausted ∧ fault.isUnreadable = false := by
  unfold ofStream at h
  split at h
  · simp at h
  · rw [← Except.error.inj h]
    exact ⟨by simp, rfl⟩
  · rcases tokensOf_uniform c (newlinesEnd c) with ⟨key, known, ht⟩ | ⟨make, -, ht⟩
    · simp only [ht stream, Except.map] at h
      rw [← Except.error.inj h]
      exact ⟨by simp, rfl⟩
    · simp [ht stream, Except.map] at h

def calls : Calls Segmenter Sentence := ⟨hasNext, next⟩

theorem calls_eq : calls = lookAhead.calls := by
  rw [LookAhead.calls, next_lookAhead]
  rfl

/-- A segmenter that is at its end has no sentence left. -/
def Good (s : Segmenter) : Prop := s.finished = true → s.ready = none

theorem settles_fill {s : Segmenter} (h : s.Good) :
    LookAhead.Settles ready finished Good s.fill := by
  by_cases hs : (s.ready.isSome || s.finished) = true
  · rw [fill_of_settled hs]
    exact LookAhead.settles_of_settled hs h h
  · obtain ⟨hr, hf⟩ : s.ready = none ∧ s.finished = false := by simpa using hs
    have hready := s.ready_build.trans hr
    have hfinished := s.finished_build.trans hf
    rw [fill_of_unsettled hs]
    generalize s.build = b at hready hfinished
    obtain ⟨result, s'⟩ := b
    rcases result with fault | _ | sentence
    · simp only [conclude]
      split
      · next hu => exact ⟨fun _ => hready, hu.symm⟩
      · next hu => exact ⟨fun _ => hready, hfinished.trans (by simpa using hu)⟩
    · exact ⟨fun _ => hready, by rw [conclude, finish, mapStream, hready]; rfl⟩
    · refine ⟨?_, hfinished⟩
      intro hd
      exact absurd (hfinished.symm.trans hd) Bool.false_ne_true

def withStream (s : Segmenter) (x : TextStream) : Segmenter := s.mapStream fun _ => x

theorem ofStream_withStream {c : Config} {stream : TextStream} {s : Segmenter}
    (h : (ofStream c stream).1 = .ok s) (x : TextStream) :
    (ofStream c x).1 = .ok (s.withStream x) := by
  unfold ofStream at h ⊢
  split at h
  · rw [← Except.ok.inj h]
    rfl
  · simp at h
  · rcases tokensOf_uniform c (newlinesEnd c) with ⟨key, known, ht⟩ | ⟨make, hmake, ht⟩
    · simp [ht stream, Except.map] at h
    · simp only [ht stream, Except.map, Except.ok.injEq] at h
      rw [ht x, ← h, ← hmake stream x]
      cases make stream <;> rfl

/-- A new segmenter owns the stream that it is over, and has met no end. -/
theorem stream_of_ofStream {c : Config} {stream : TextStream} {s : Segmenter}
    (h : (ofStream c stream).1 = .ok s) : s.stream = stream ∧ s.finished = false := by
  have hs : s = s.withStream stream := Except.ok.inj (h.symm.trans (ofStream_withStream h stream))
  constructor
  · rw [hs]
    simp [withStream, Segmenter.stream, mapStream]
  · rw [eq_ofSource h]
    rfl

def owner : StreamOwner Segmenter Sentence where
  toLookAhead := lookAhead
  stream := stream
  put := withStream
  finished := finished
  good := Good
  put_stream s := by
    cases s with
    | mk rules escaper source => cases source <;> rfl
  stream_put s x := by simp [withStream, stream, mapStream]
  ready_put _ _ := rfl
  take_put _ _ := rfl
  stream_take _ := rfl
  ends := {
    ready_of_finished := fun _ h => h
    fill_of_finished := fun s h => fill_of_settled (by rw [h, Bool.or_true])
    settles_fill := fun _ => settles_fill
    good_take := fun _ _ _ => rfl
    finished_take := fun _ => rfl }
  fill_follows p _ _ h := p.fill_segmenter h

end Segmenter

namespace RegionSegmenter

theorem ofStream_of_pattern [PatternHost] {c : Config} {pattern : Pattern}
    (hp : Pattern.ofText c.elementFilter = .ok pattern) (stream : TextStream) :
    ofStream c stream = .ok
      { config := c
        regions := .read { rules := { pattern, keepTags := c.keepInternalTags }, reader := { stream } } } := by
  rw [ofStream, RegionSource.ofText_of_pattern hp]
  rfl

theorem exists_pattern_of_ofStream [PatternHost] {c : Config} {stream : TextStream}
    {s : RegionSegmenter} (h : ofStream c stream = .ok s) :
    ∃ pattern, Pattern.ofText c.elementFilter = .ok pattern ∧
      s = { config := c
            regions := .read { rules := { pattern, keepTags := c.keepInternalTags },
                               reader := { stream } } } := by
  cases hp : Pattern.ofText c.elementFilter with
  | error fault => simp [ofStream, RegionSource.ofText, hp, Except.map] at h
  | ok pattern => exact ⟨pattern, rfl, Except.ok.inj (h.symm.trans (ofStream_of_pattern hp stream))⟩

theorem stream_of_ofStream [PatternHost] {c : Config} {stream : TextStream} {s : RegionSegmenter}
    (h : ofStream c stream = .ok s) : s.stream = stream ∧ s.finished = false := by
  obtain ⟨pattern, -, rfl⟩ := exists_pattern_of_ofStream h
  exact ⟨rfl, rfl⟩

/-- The calls that the sentences of regions answer. -/
def calls : Calls RegionSegmenter Sentence := ⟨hasNext, next⟩

theorem settled_of_fill {s : RegionSegmenter} (h : s.fill.result = .ok ()) :
    (s.fill.state.ready.isSome || s.fill.state.finished) = true := by
  fun_induction fill s with
  | case1 s hs => exact hs
  | case2 s hs fault s' events hc => exact absurd h (by simp)
  | case3 s hs sentence s' events hc => rfl
  | case4 s hs s₁ events hc fault regions hn s' hu => exact absurd h (by simp)
  | case5 s hs s₁ events hc fault regions hn s' hu => exact absurd h (by simp)
  | case6 s hs s₁ events hc regions hn s' => simp [finish]
  | case7 s hs s₁ events hc text regions hn fault s' more ht => exact absurd h (by simp)
  | case8 s hs s₁ events hc text regions hn s₂ more ht ih => exact ih h

theorem fromCurrent_ne_exhausted (s : RegionSegmenter) :
    s.fromCurrent.result ≠ .error .exhausted := by
  unfold fromCurrent
  cases hc : s.current with
  | none => simp
  | some segmenter =>
    have hne := Segmenter.lookAhead.hasNext_ne_exhausted segmenter
    have hnext := Segmenter.lookAhead.next_of_hasNext (s := segmenter)
    rw [Segmenter.next_lookAhead] at hnext
    change segmenter.hasNext.result ≠ _ at hne
    change segmenter.hasNext.result = _ → ∃ a, segmenter.hasNext.state.next.result = _ at hnext
    cases hf : segmenter.hasNext.result with
    | error fault =>
      rw [hf] at hne
      simpa [Reply.andThen, hf, Reply.mapState] using hne
    | ok found =>
      cases found with
      | false => simp [Reply.andThen, hf, Reply.mapState, Reply.after]
      | true =>
        obtain ⟨a, ha⟩ := hnext hf
        simp [Reply.andThen, hf, ha, Reply.mapState, Reply.after]

theorem takeUp_ne_exhausted (s : RegionSegmenter) (text : Text) :
    (s.takeUp text).result ≠ .error .exhausted := by
  unfold takeUp
  dsimp only
  split
  · next hs =>
    have hne := (Segmenter.ofStream_error (congrArg Prod.fst hs)).1
    simpa using hne
  · simp

theorem fill_ne_exhausted (s : RegionSegmenter) : s.fill.result ≠ .error .exhausted := by
  fun_induction fill s with
  | case1 s hs => simp
  | case2 s hs fault s' events hc =>
    have hne := s.fromCurrent_ne_exhausted
    simpa [hc] using hne
  | case3 s hs sentence s' events hc => simp
  | case4 s hs s₁ events hc fault regions hn s' hu =>
    have hne := RegionSource.next?_ne_exhausted s₁.regions regions
    simpa [hn] using hne
  | case5 s hs s₁ events hc fault regions hn s' hu =>
    have hne := RegionSource.next?_ne_exhausted s₁.regions regions
    simpa [hn] using hne
  | case6 s hs s₁ events hc regions hn s' => simp
  | case7 s hs s₁ events hc text regions hn fault s' more ht =>
    have hne := takeUp_ne_exhausted { s₁ with regions } text
    rwa [ht] at hne
  | case8 s hs s₁ events hc text regions hn s₂ more ht ih => exact ih

/-- How the sentences of regions look ahead. -/
def lookAhead : LookAhead RegionSegmenter Sentence where
  fill := fill
  ready := ready
  take s := { s with ready := none }
  fill_settled _ h := fill_of_settled (settled_of_fill h)
  fill_ne_exhausted := fill_ne_exhausted

theorem next_lookAhead : lookAhead.next = next := by
  funext s
  refine congrArg s.fill.andThen ?_
  funext _ s'
  cases hr : s'.ready <;> simp [lookAhead, hr]

theorem calls_eq : calls = lookAhead.calls := by
  rw [LookAhead.calls, next_lookAhead]
  rfl

/-- A segmenter can go on with the region it is at, and at its end it has no sentence left. -/
structure Good (s : RegionSegmenter) : Prop where
  current : ∃ ss, s.CurrentGives ss
  ready_of_finished : s.finished = true → s.ready = none

theorem good_start (c : Config) (regions : RegionSource) : Good { config := c, regions } :=
  ⟨⟨[], rfl⟩, fun _ => rfl⟩

theorem currentGives_nil {s : RegionSegmenter} (h : s.CurrentGives []) :
    s.fromCurrent.state.CurrentGives [] := by
  unfold CurrentGives at h
  cases hc : s.current with
  | none => simp [fromCurrent, hc, CurrentGives]
  | some segmenter =>
    rw [hc] at h
    obtain ⟨hn, hg⟩ := h.hasNext
    simpa [fromCurrent, hc, Reply.andThen, hn, Reply.mapState, Reply.after, CurrentGives] using hg

/-- Asking the current region for its next sentence always goes well. -/
theorem Good.fromCurrent {s s' : RegionSegmenter} (h : s.Good)
    (hs : ¬ (s.ready.isSome || s.finished) = true)
    {result : Except Fault (Option Sentence)} {events : List Event}
    (hc : s.fromCurrent = ⟨result, s', events⟩) :
    ∃ found, result = .ok found ∧ s'.Good ∧ s'.ready = none ∧ s'.finished = false := by
  obtain ⟨hr, hf⟩ : s.ready = none ∧ s.finished = false := by simpa using hs
  obtain ⟨ss, hss⟩ := h.current
  cases ss with
  | nil =>
    have hg := currentGives_nil hss
    obtain ⟨current, _, hn⟩ := fromCurrent_nil hss
    rw [hc] at hg
    obtain ⟨rfl, rfl, rfl⟩ := Reply.mk.inj (hc.symm.trans hn)
    exact ⟨none, rfl, ⟨⟨[], hg⟩, fun _ => hr⟩, hr, hf⟩
  | cons x xs =>
    obtain ⟨segmenter, _, hg, hn⟩ := fromCurrent_cons hss
    obtain ⟨rfl, rfl, rfl⟩ := Reply.mk.inj (hc.symm.trans hn)
    exact ⟨some x, rfl, ⟨⟨xs, hg⟩, fun _ => hr⟩, hr, hf⟩

/-- A region that is taken up can be gone on with. If the settings do not allow it, the one before is
kept, from which nothing is left. -/
theorem Good.takeUp {s s' : RegionSegmenter} (h : s.Good) {text : Text}
    {result : Except Fault Unit} {events : List Event}
    (ht : s.takeUp text = ⟨result, s', events⟩) :
    s'.Good ∧ s'.finished = s.finished ∧
      ∀ fault, result = .error fault → fault.isUnreadable = false := by
  unfold RegionSegmenter.takeUp at ht
  dsimp only at ht
  split at ht
  · next fault _ hs =>
    obtain ⟨rfl, rfl, rfl⟩ := Reply.mk.inj ht
    refine ⟨⟨h.current, h.ready_of_finished⟩, rfl, ?_⟩
    intro _ hf
    rw [← Except.error.inj hf]
    exact (Segmenter.ofStream_error (congrArg Prod.fst hs)).2
  · next segmenter _ hs =>
    obtain ⟨rfl, rfl, rfl⟩ := Reply.mk.inj ht
    have hs' := congrArg Prod.fst hs
    obtain ⟨_, hs'', hg⟩ := Config.segments_of_ofStream hs' (Segmenter.stream_of_ofStream hs').1
    obtain rfl := Except.ok.inj (hs'.symm.trans hs'')
    refine ⟨⟨⟨_, hg⟩, h.ready_of_finished⟩, rfl, ?_⟩
    intro fault hf
    exact absurd hf (by simp)

theorem Good.withRegions {s : RegionSegmenter} (h : s.Good) (regions : RegionSource) :
    Good { s with regions } := ⟨h.current, h.ready_of_finished⟩

theorem settles_fill {s : RegionSegmenter} (h : s.Good) :
    LookAhead.Settles ready finished Good s.fill := by
  fun_induction fill s with
  | case1 s hs => exact LookAhead.settles_of_settled hs h h.ready_of_finished
  | case2 s hs fault s' events hc =>
    obtain ⟨found, hf, -⟩ := h.fromCurrent hs hc
    exact absurd hf (by simp)
  | case3 s hs sentence s' events hc =>
    obtain ⟨-, -, hg, -, hf⟩ := h.fromCurrent hs hc
    have hne (hd : s'.finished = true) := Bool.false_ne_true (hf.symm.trans hd)
    exact ⟨⟨hg.current, fun hd => (hne hd).elim⟩, hf⟩
  | case4 s hs s₁ events hc fault regions hn s' hu =>
    obtain ⟨-, -, hg, hr, -⟩ := h.fromCurrent hs hc
    exact ⟨⟨hg.current, fun _ => hr⟩, hu.symm⟩
  | case5 s hs s₁ events hc fault regions hn s' hu =>
    obtain ⟨-, -, hg, -, hf⟩ := h.fromCurrent hs hc
    exact ⟨hg.withRegions regions, hf.trans (by simpa using hu)⟩
  | case6 s hs s₁ events hc regions hn s' =>
    obtain ⟨-, -, hg, hr, -⟩ := h.fromCurrent hs hc
    have hnone : s'.finish.finished = s'.finish.ready.isNone := by
      rw [show s'.finish.ready = none from hr]
      rfl
    exact ⟨⟨⟨[], rfl⟩, fun _ => hr⟩, hnone⟩
  | case7 s hs s₁ events hc text regions hn fault s' more ht =>
    obtain ⟨-, -, hg, -, hf⟩ := h.fromCurrent hs hc
    obtain ⟨hg', hf', hu⟩ := (hg.withRegions regions).takeUp ht
    exact ⟨hg', (hf'.trans hf).trans (hu fault rfl).symm⟩
  | case8 s hs s₁ events hc text regions hn s₂ more ht ih =>
    obtain ⟨-, -, hg, -⟩ := h.fromCurrent hs hc
    exact ih ((hg.withRegions regions).takeUp ht).1

/-- The sequence with another stream. -/
def withStream (s : RegionSegmenter) (x : TextStream) : RegionSegmenter := s.mapStream fun _ => x

/-- The sentences of the regions of a document own the stream of the document. -/
def owner : StreamOwner RegionSegmenter Sentence where
  toLookAhead := lookAhead
  stream := stream
  put := withStream
  finished := finished
  good := Good
  put_stream s := by
    cases s with
    | mk config regions => cases regions <;> rfl
  stream_put s x := by simp [withStream, stream, mapStream]
  ready_put _ _ := rfl
  take_put _ _ := rfl
  stream_take _ := rfl
  ends := {
    ready_of_finished := fun _ h => h.ready_of_finished
    fill_of_finished := fun s h => fill_of_settled (by rw [h, Bool.or_true])
    settles_fill := fun _ => settles_fill
    good_take := fun _ h => ⟨h.current, fun _ => rfl⟩
    finished_take := fun _ => rfl }
  fill_follows p _ _ h := p.fill_regionSegmenter h

end RegionSegmenter

end SentenceReader
