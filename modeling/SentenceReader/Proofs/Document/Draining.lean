import SentenceReader.Proofs.Document.LifeCycle
import SentenceReader.Proofs.Sentence.Meeting

/-! Documents that are read to their end. A document gives out its sentences and then ends, or it breaks
off with a fault that can be told beforehand: by its settings, and by what the reads of its stream
come to. -/
namespace SentenceReader

variable {f? : Option ReadFault}

theorem Segmenter.exists_gives {s : Segmenter} (h : s.Meets f?) :
    ∃ ss, Reply.Gives next (.ending f?) s ss ∧ ss.length ≤ s.size :=
  Reply.exists_gives (fun _ => Meets.next) h

theorem RegionSegmenter.exists_gives {s : RegionSegmenter} (h : s.Meets f?) :
    ∃ ss, Reply.Gives next (.ending f?) s ss ∧ ss.length ≤ s.size :=
  Reply.exists_gives (fun _ => Meets.next) h

/-- With something that makes no tokenizers the first region cannot be taken up; where there is none, the
end is met as always. -/
theorem RegionSegmenter.next_of_unusable {c : Config} {kind : String} {regions : RegionSource}
    (hm : c.tokenizerMaker = some (.unusable kind)) (h : regions.Meets f?) :
    (next { config := c, regions }).result = .error
      (match regions.next?.1 with
      | .ok (some _) => .notATokenizerMaker kind
      | _ => .ending f?) := by
  have hnext := h.next?
  rw [next, fill_of_unsettled (s := { config := c, regions }) (by simp)]
  dsimp only [fromCurrent]
  unfold takeNext
  dsimp only
  generalize regions.next? = found at hnext ⊢
  obtain ⟨result, later⟩ := found
  rcases result with fault | _ | text
  · rw [← Fault.eq_ending hnext]
    dsimp only
    split <;> rfl
  · rw [hnext.2.1 rfl]
    rfl
  · simp [takeUp, Segmenter.ofStream, hm, Reply.andThen, Reply.after]

/-- Settings that were looked at before any document is opened: the pattern for elements is one, and
there are tokens, unless the settings name a maker of tokenizers, which no plain data is. -/
structure Config.Vetted [PatternHost] (c : Config) : Prop where
  pattern : ∃ pattern, Pattern.ofText c.elementFilter = .ok pattern
  options : c.tokenizerMaker = none → c.OptionsAccepted
  maker : ∀ maker ∈ c.tokenizerMaker, ∃ kind, maker = .unusable kind

namespace Document

/-- A document whose sentences were asked for gives out exactly these, and then this fault in place of
another one. -/
def Gives (ending : DocumentFault) : Document → List Sentence → Prop
  | d, [] => d.next.result = .error ending
  | d, s :: rest => d.next.result = .ok s ∧ Gives ending d.next.document rest

theorem gives_wholeText {d : Document} {s : Segmenter} {ss : List Sentence} {ending : Fault}
    (hd : d.reader = .wholeText s) (h : Reply.Gives Segmenter.next ending s ss) :
    d.Gives (.ofSequence ending) ss := by
  induction ss generalizing d s with
  | nil =>
    rw [Reply.Gives] at h
    rw [Gives, next, hd]
    simp [answer, h, Except.mapError]
  | cons a ss ih =>
    refine ⟨?_, ih (s := s.next.state) ?_ h.2⟩
    · rw [next, hd]
      simp [answer, h.1, Except.mapError]
    · rw [next, hd]
      rfl

theorem gives_regions {d : Document} {s : RegionSegmenter} {ss : List Sentence} {ending : Fault}
    (hd : d.reader = .regions s) (h : Reply.Gives RegionSegmenter.next ending s ss) :
    d.Gives (.ofSequence ending) ss := by
  induction ss generalizing d s with
  | nil =>
    rw [Reply.Gives] at h
    rw [Gives, next, hd]
    simp [answer, h, Except.mapError]
  | cons a ss ih =>
    refine ⟨?_, ih (s := s.next.state) ?_ h.2⟩
    · rw [next, hd]
      simp [answer, h.1, Except.mapError]
    · rw [next, hd]
      rfl

theorem ending_eq (f? : Option ReadFault) :
    (f?.map fun fault => DocumentFault.ofSequence (.ofRead fault)).getD (.ofSequence .exhausted) =
      .ofSequence (.ending f?) := by
  cases f? <;> rfl

variable [PatternHost]

/-- A document is read from its start: it gives out exactly these sentences, and then it ends, or this
fault keeps it from that. -/
def Reads (fault? : Option DocumentFault) (d : Document) (ss : List Sentence) : Prop :=
  match d.read.result with
  | .error fault => fault? = some fault ∧ ss = []
  | .ok _ => d.read.document.Gives (fault?.getD (.ofSequence .exhausted)) ss

/-- The fault of a document whose settings name something that makes no tokenizers. It is met at once, or
where a first region is found. -/
def makerFault? (d : Document) (kind : String) : Option DocumentFault :=
  let fault : DocumentFault := .ofSequence (.notATokenizerMaker kind)
  match d.strategy with
  | .wholeText => some fault
  | .regions =>
    match RegionSource.ofText d.reader.stream d.config.elementFilter d.config.keepInternalTags with
    | .error fault => some (.ofSequence fault)
    | .ok regions =>
      match regions.next?.1 with
      | .ok (some _) => some fault
      | _ => d.reader.stream.fault?.map (.ofSequence <| .ofRead ·)

/-- What keeps a document from being read to its end, if something does. -/
def fault? (d : Document) : Option DocumentFault :=
  match d.config.tokenizerMaker with
  | some (.unusable kind) => d.makerFault? kind
  | _ => d.reader.stream.fault?.map (.ofSequence <| .ofRead ·)

theorem makerFault?_of_regions {d : Document} (kind : String) (h : d.strategy = .regions)
    {regions : RegionSource} (hr : RegionSource.ofText d.reader.stream d.config.elementFilter
      d.config.keepInternalTags = .ok regions) :
    d.makerFault? kind =
      match regions.next?.1 with
      | .ok (some _) => some (.ofSequence (.notATokenizerMaker kind))
      | _ => d.reader.stream.fault?.map (.ofSequence <| .ofRead ·) := by
  rw [makerFault?, h, hr]

/-- A document that nothing was done to yet, over a stream that is open. -/
structure Fresh (d : Document) : Prop where
  started : d.started = false
  stream : d.reader.stream.Meets d.reader.stream.fault?

variable {d : Document}

theorem Fresh.reads_of_error (h : d.Fresh) {fault : Fault} (hs : d.sentences.1 = .error fault) :
    d.Reads (some (.ofSequence fault)) [] := by
  have hr : d.read.result = .error (.ofSequence fault) := by
    rw [read, if_neg (by simp [h.started])]
    generalize d.sentences = opened at hs ⊢
    obtain ⟨result, events⟩ := opened
    obtain rfl : result = .error fault := hs
    rfl
  rw [Reads, hr]
  exact ⟨rfl, rfl⟩

theorem Fresh.reads_of_ok (h : d.Fresh) {reader : DocumentReader} (hs : d.sentences.1 = .ok reader)
    {fault? : Option DocumentFault} {ss : List Sentence}
    (hg : Gives (fault?.getD (.ofSequence .exhausted)) { d with reader, started := true } ss) :
    d.Reads fault? ss := by
  have hr : d.read.result = .ok d.strategy := by
    rw [read, if_neg (by simp [h.started])]
    generalize d.sentences = opened at hs ⊢
    obtain ⟨result, events⟩ := opened
    obtain rfl : result = .ok reader := hs
    rfl
  rw [Reads, hr]
  rw [d.document_read h.started, hs]
  exact hg

theorem sentences_of_wholeText (h : d.strategy = .wholeText) :
    d.sentences.1 = (Segmenter.ofStream d.config d.reader.stream).1.map .wholeText := by
  rw [sentences, h]

theorem sentences_of_regions (h : d.strategy = .regions) :
    d.sentences.1 = (RegionSegmenter.ofStream d.config d.reader.stream).map .regions := by
  rw [sentences, h]

/-- A document whose settings give tokens is read to its end, or breaks off as its stream does. -/
theorem Fresh.reads_of_tokens (h : d.Fresh) (hc : d.config.Vetted) (hm : d.config.tokenizerMaker = none) :
    ∃ ss, d.Reads d.fault? ss ∧ ss.length ≤ d.reader.stream.rest.length := by
  have hfault : d.fault? = d.reader.stream.fault?.map (.ofSequence <| .ofRead ·) := by
    rw [fault?, hm]
  rw [hfault]
  cases hstrategy : d.strategy with
  | wholeText =>
    obtain ⟨s, hs, -⟩ := Segmenter.ofStream_accepted hm (hc.options hm) d.reader.stream
    obtain ⟨hmeets, hsize⟩ := Segmenter.meets_of_ofStream hm h.stream hs
    obtain ⟨ss, hg, hle⟩ := Segmenter.exists_gives hmeets
    have hopened : d.sentences.1 = .ok (.wholeText s) := by
      rw [sentences_of_wholeText hstrategy, hs]
      rfl
    refine ⟨ss, h.reads_of_ok hopened ?_, hsize ▸ hle⟩
    rw [ending_eq]
    exact gives_wholeText rfl hg
  | regions =>
    obtain ⟨pattern, hp⟩ := hc.pattern
    have hs := RegionSegmenter.ofStream_of_pattern hp d.reader.stream
    obtain ⟨hmeets, hsize⟩ := RegionSegmenter.meets_of_ofStream hm (hc.options hm) h.stream hs
    obtain ⟨ss, hg, hle⟩ := RegionSegmenter.exists_gives hmeets
    refine ⟨ss, h.reads_of_ok ((sentences_of_regions hstrategy).trans (congrArg _ hs)) ?_, hsize ▸ hle⟩
    rw [ending_eq]
    exact gives_regions rfl hg

/-- A document whose settings name something that makes no tokenizers gives out nothing. -/
theorem Fresh.reads_of_unusable (h : d.Fresh) (hc : d.config.Vetted) {kind : String}
    (hm : d.config.tokenizerMaker = some (.unusable kind)) : d.Reads d.fault? [] := by
  have hfault : d.fault? = d.makerFault? kind := by rw [fault?, hm]
  rw [hfault]
  cases hstrategy : d.strategy with
  | wholeText =>
    rw [makerFault?, hstrategy]
    apply h.reads_of_error
    rw [sentences_of_wholeText hstrategy, Segmenter.ofStream, hm]
    rfl
  | regions =>
    obtain ⟨pattern, hp⟩ := hc.pattern
    have hs := RegionSegmenter.ofStream_of_pattern hp d.reader.stream
    have hmeets : RegionSource.Meets d.reader.stream.fault?
        (.read { rules := { pattern, keepTags := d.config.keepInternalTags },
                 reader := { stream := d.reader.stream } }) :=
      .read ⟨h.stream, by simp⟩ rfl (by simp)
    refine h.reads_of_ok ((sentences_of_regions hstrategy).trans (congrArg _ hs)) ?_
    have hnext := RegionSegmenter.next_of_unusable hm hmeets
    have hg : Gives _ { d with reader := .regions _, started := true } [] := gives_regions rfl hnext
    rw [makerFault?_of_regions kind hstrategy (RegionSource.ofText_of_pattern hp _ _)]
    generalize (RegionSource.next? _).1 = first at hg ⊢
    rcases first with fault | _ | text
    · rw [ending_eq]
      exact hg
    · rw [ending_eq]
      exact hg
    · exact hg

/-- Every document is read to its end, or breaks off with the fault that can be told beforehand, and has
no more sentences than characters. -/
theorem Fresh.exists_reads (h : d.Fresh) (hc : d.config.Vetted) :
    ∃ ss, d.Reads d.fault? ss ∧ ss.length ≤ d.reader.stream.rest.length := by
  cases hm : d.config.tokenizerMaker with
  | none => exact h.reads_of_tokens hc hm
  | some maker =>
    obtain ⟨kind, rfl⟩ := hc.maker maker hm
    exact ⟨[], h.reads_of_unusable hc hm, Nat.zero_le _⟩

end Document

end SentenceReader
