import SentenceReader.CommandLine.Run
import SentenceReader.Proofs.CommandLine.Settings

/-! What is written of documents. The sentences of a document are written one by one, up to its end or to
the fault that it breaks off with; then it is closed, and the next one is tried. -/
namespace SentenceReader

/-- Nothing was read yet of the stream of a file. -/
theorem OpenFile.meets_toStream (manner : Decoding.Manner) (f : OpenFile) :
    (f.toStream manner).Meets (f.toStream manner).fault? :=
  ⟨rfl, by simp [toStream], rfl⟩

namespace Document

variable {d : Document}

/-- A document that was made over a stream has done nothing to it. -/
theorem fresh_of_ofSource {strategies : Strategies} {kind : Data} {c : Config}
    {source : Decoding.Manner → Except DocumentFault TextStream}
    (hs : ∀ manner stream, source manner = .ok stream → stream.Meets stream.fault?)
    (h : ofSource strategies kind c source = .ok d) : d.Fresh ∧ d.config = c := by
  simp only [ofSource, bind, Except.bind] at h
  split at h
  · simp at h
  · split at h
    · simp [throw, throwThe, MonadExceptOf.throw] at h
    · next strategy _ =>
      cases hstream : source strategy.manner with
      | error fault => simp [hstream] at h
      | ok stream =>
        simp only [hstream, pure, Except.pure, Except.ok.injEq] at h
        rw [← h]
        exact ⟨⟨rfl, hs _ _ hstream⟩, rfl⟩

/-- The sentences that a document gives out, so many of them at most. -/
def drain : Nat → Document → List Sentence
  | 0, _ => []
  | fuel + 1, d =>
    match d.next.result with
    | .ok s => s :: drain fuel d.next.document
    | .error _ => []

theorem Gives.drain {e : DocumentFault} {ss : List Sentence} (h : d.Gives e ss) {fuel : Nat}
    (hfuel : ss.length ≤ fuel) : d.drain fuel = ss := by
  induction fuel generalizing d ss with
  | zero => exact (List.eq_nil_of_length_eq_zero (Nat.le_zero.mp hfuel)).symm
  | succ fuel ih =>
    cases ss with
    | nil =>
      have hr : d.next.result = .error e := h
      simp [Document.drain, hr]
    | cons s ss => simp [Document.drain, h.1, ih h.2 (Nat.le_of_succ_le_succ hfuel)]

/-- That there are no more sentences is no fault of a document. -/
theorem fault?_ne_exhausted [PatternHost] (d : Document) : d.fault? ≠ some (.ofSequence .exhausted) := by
  have hstream : d.reader.stream.fault?.map (fun fault => DocumentFault.ofSequence (.ofRead fault)) ≠
      some (.ofSequence .exhausted) := by
    cases d.reader.stream.fault? with
    | none => simp
    | some fault => simp [Fault.ofRead_ne_exhausted]
  unfold fault?
  split
  · next kind _ =>
    unfold makerFault?
    dsimp only
    split
    · simp
    · unfold RegionSource.ofText
      split
      · next h =>
        split at h
        · simp [← Except.error.inj h]
        · simp at h
      · split
        · simp
        · exact hstream
  · exact hstream

end Document

namespace CommandLine

/-- Whether a line beside the output may be one that tells how many sentences were read. -/
def Transcript.IsSummary (line : Text) : Prop := ∃ n, line = Request.summary n ++ ['\n']

namespace Request

variable (r : Request) (openSource : Option Text → Except RunFault Document)

/-- What is written of a sentence. -/
def lineText (s : Sentence) : Text := r.lineOf s ++ ['\n']

/-- From one transcript to another these things were tried, and these sentences were written. What was
opened is closed, and no summary was written. -/
structure Passes (sources : List (Option Text)) (ss : List Sentence) (t t' : Transcript) : Prop where
  output : t'.output.reverse = t.output.reverse ++ ss.map r.lineText
  sentences : t'.sentences = t.sentences + ss.length
  notes : ∃ more, t'.notes = more ++ t.notes ∧ ∀ line ∈ more, ¬ Transcript.IsSummary line
  tried : t'.tried.reverse = t.tried.reverse ++ sources
  left : ∃ more, t'.left = more ++ t.left ∧ (∀ d ∈ more, d.isClosed) ∧
    more.length = sources.countP fun source => (openSource source).isOk

/-- What writing comes to. -/
def outcome (fault? : Option RunFault) : Except RunFault Unit := fault?.elim (.ok ()) .error

namespace Passes

variable {r openSource} {t t' t'' : Transcript}

theorem refl (t : Transcript) : r.Passes openSource [] [] t t where
  output := by simp
  sentences := rfl
  notes := ⟨[], rfl, by simp⟩
  tried := by simp
  left := ⟨[], rfl, by simp, rfl⟩

theorem trans {sources sources' : List (Option Text)} {ss ss' : List Sentence}
    (h : r.Passes openSource sources ss t t') (h' : r.Passes openSource sources' ss' t' t'') :
    r.Passes openSource (sources ++ sources') (ss ++ ss') t t'' where
  output := by rw [h'.output, h.output, List.map_append, List.append_assoc]
  sentences := by rw [h'.sentences, h.sentences, List.length_append, Nat.add_assoc]
  notes := by
    obtain ⟨more, hn, hs⟩ := h.notes
    obtain ⟨more', hn', hs'⟩ := h'.notes
    exact ⟨more' ++ more, by rw [hn', hn, List.append_assoc], List.forall_mem_append.2 ⟨hs', hs⟩⟩
  tried := by rw [h'.tried, h.tried, List.append_assoc]
  left := by
    obtain ⟨more, hn, hc, hl⟩ := h.left
    obtain ⟨more', hn', hc', hl'⟩ := h'.left
    refine ⟨more' ++ more, by rw [hn', hn, List.append_assoc], List.forall_mem_append.2 ⟨hc', hc⟩, ?_⟩
    rw [List.length_append, List.countP_append, hl, hl', Nat.add_comm]

/-- A line that starts otherwise is no summary. -/
theorem not_isSummary {line : Text} (h : line.head? ≠ some 'R') : ¬ Transcript.IsSummary line := by
  rintro ⟨n, rfl⟩
  exact h rfl

theorem note {line : Text} (h : (line ++ ['\n']).head? ≠ some 'R') (t : Transcript) :
    r.Passes openSource [] [] t (t.note line) where
  output := by simp [Transcript.note]
  sentences := rfl
  notes := ⟨[line ++ ['\n']], rfl, by simpa using not_isSummary h⟩
  tried := by simp [Transcript.note]
  left := ⟨[], rfl, by simp, rfl⟩

theorem log (wanted : Bool) (events : List Event) (t : Transcript) :
    r.Passes openSource [] [] t (t.log wanted events) := by
  unfold Transcript.log
  split
  · generalize events.filterMap Event.log? = entries
    induction entries generalizing t with
    | nil => exact refl t
    | cons e entries ih =>
      have hline : (e.line ++ ['\n']).head? ≠ some 'R' := by
        unfold LogEntry.line
        dsimp only
        cases e.level <;> (split <;> simp [LogLevel.word])
      exact (note hline t).trans (ih _)
  · exact refl t

theorem tellLength (s : Sentence) (t : Transcript) :
    r.Passes openSource [] [] t (r.tellLength t s) := by
  unfold Request.tellLength
  split
  · exact note (by simp) t
  · exact refl t

theorem write (s : Sentence) (t : Transcript) : r.Passes openSource [] [s] t (r.write t s) := by
  have htold : r.Passes openSource [] [] { t with sentences := t.sentences + 1 } _ := tellLength s _
  refine ⟨?_, htold.sentences, htold.notes, htold.tried, htold.left⟩
  simpa [Request.write, Transcript.print, lineText] using htold.output

end Passes

/-- Why the line of one of some sentences cannot be written, where there is such a line. -/
def refused? (host : Host) (ss : List Sentence) : Option RunFault :=
  ss.findSome? fun s => (host.refusal? (r.lineOf s)).map .unwritable

/-- The sentences in front of the first one whose line cannot be written. -/
def writable (host : Host) (ss : List Sentence) : List Sentence :=
  ss.takeWhile fun s => (host.refusal? (r.lineOf s)).isNone

variable {r} in
theorem writable_of_refused? {host : Host} {ss : List Sentence} (h : r.refused? host ss = none) :
    r.writable host ss = ss := by
  refine List.takeWhile_eq_self_iff.2 fun s hs => ?_
  simpa using List.findSome?_eq_none_iff.1 h s hs

section Document

variable {d : Document} {ss : List Sentence} {fault? : Option DocumentFault} (host : Host)

/-- The sentences that a document gives out are written, all that there is fuel for, up to a line that
cannot be written. -/
theorem writeSentences_of_gives (hne : fault? ≠ some (.ofSequence .exhausted))
    (h : d.Gives (fault?.getD (.ofSequence .exhausted)) ss) {fuel : Nat} (hfuel : ss.length < fuel)
    (t : Transcript) :
    ∃ d' t', r.writeSentences host fuel d t =
        (outcome ((r.refused? host ss).or (fault?.map .document)), d', t') ∧
      r.Passes openSource [] (r.writable host ss) t t' := by
  induction fuel generalizing d ss t with
  | zero => exact absurd hfuel (Nat.not_lt_zero _)
  | succ fuel ih =>
    have hlog : r.Passes openSource [] [] t _ := .log r.verbose d.next.events t
    cases ss with
    | nil =>
      refine ⟨d.next.document, _, ?_, hlog⟩
      rw [Document.Gives] at h
      rw [writeSentences]
      cases fault? with
      | none => simp [h, outcome, refused?]
      | some fault =>
        have hr : d.next.result = .error fault := h
        have hf : fault ≠ .ofSequence .exhausted := fun he => hne (congrArg some he)
        rw [hr]
        split
        · next he => exact absurd he (by simp)
        · next he => exact absurd (Except.error.inj he) hf
        · next he => rw [← Except.error.inj he]; rfl
    | cons s ss =>
      obtain ⟨hs, hrest⟩ := h
      rw [writeSentences]
      simp only [hs, tryWrite, refused?, writable, List.findSome?_cons, List.takeWhile_cons]
      cases host.refusal? (r.lineOf s) with
      | some words => exact ⟨d.next.document, _, rfl, hlog.trans (.tellLength s _)⟩
      | none =>
        obtain ⟨d', t', hrun, hpasses⟩ := ih hrest (Nat.lt_of_succ_lt_succ hfuel)
          (r.write (t.log r.verbose d.next.events) s)
        exact ⟨d', t', hrun, (hlog.trans (.write s _)).trans hpasses⟩

/-- The sentences of a document are written up to its end, to the fault that it breaks off with, or to a
line that cannot be written. -/
theorem writeAll_of_reads [PatternHost] (hne : fault? ≠ some (.ofSequence .exhausted))
    (h : d.Reads fault? ss) (hlength : ss.length ≤ d.reader.stream.rest.length) (t : Transcript) :
    ∃ d' t', r.writeAll host d t =
        (outcome ((r.refused? host ss).or (fault?.map .document)), d', t') ∧
      r.Passes openSource [] (r.writable host ss) t t' := by
  have hlog : r.Passes openSource [] [] t _ := .log r.verbose d.read.events t
  unfold Document.Reads at h
  unfold writeAll
  dsimp only
  cases hr : d.read.result with
  | error fault =>
    rw [hr] at h
    obtain ⟨rfl, rfl⟩ := h
    exact ⟨d.read.document, _, rfl, hlog⟩
  | ok strategy =>
    rw [hr] at h
    have hstream : d.read.document.reader.stream = d.reader.stream :=
      (Document.stream_of_sentences (d.read_of_ok hr).2).1
    have hfuel : ss.length < d.read.document.reader.stream.rest.length + 1 := by
      rw [hstream]
      exact Nat.lt_succ_of_le hlength
    obtain ⟨d', t', hw, hpasses⟩ := r.writeSentences_of_gives openSource host hne h hfuel
      (t.log r.verbose d.read.events)
    exact ⟨d', t', hw, hlog.trans hpasses⟩

end Document

end Request

/-- What comes of opening a source. -/
abbrev Opened := Except RunFault Document

namespace Opened

variable [PatternHost]

/-- What keeps a source from being read to its end, if something does. -/
def fault? : Opened → Option RunFault
  | .error fault => some fault
  | .ok d => d.fault?.map .document

/-- The sentences of a source, up to the fault that it breaks off with, if it does. -/
def Yields (opened : Opened) (ss : List Sentence) : Prop :=
  match opened with
  | .error _ => ss = []
  | .ok d => d.Reads d.fault? ss ∧ ss.length ≤ d.reader.stream.rest.length

/-- The sentences of a source, which are no more than its characters. -/
def sentences : Opened → List Sentence
  | .error _ => []
  | .ok d =>
    match d.read.result with
    | .error _ => []
    | .ok _ => d.read.document.drain d.reader.stream.rest.length

/-- If a document was opened nothing was done to it yet, and its settings were looked at. -/
def Untouched (opened : Opened) : Prop := ∀ d, opened = .ok d → d.Fresh ∧ d.config.Vetted

variable {opened : Opened} {ss : List Sentence}

theorem Untouched.exists_yields (h : opened.Untouched) : ∃ ss, opened.Yields ss := by
  cases opened with
  | error fault => exact ⟨[], rfl⟩
  | ok d => exact (h d rfl).1.exists_reads (h d rfl).2

theorem Yields.sentences (h : opened.Yields ss) : opened.sentences = ss := by
  cases opened with
  | error fault => exact h.symm
  | ok d =>
    obtain ⟨hreads, hlength⟩ := h
    unfold Document.Reads at hreads
    unfold Opened.sentences
    dsimp only
    cases hr : d.read.result with
    | error fault =>
      rw [hr] at hreads
      exact hreads.2.symm
    | ok strategy =>
      rw [hr] at hreads
      exact hreads.drain hlength

end Opened

namespace Request

/-- What keeps the sentences of a source from being written to its end, if something does: a line that
cannot be written, or else what keeps the source from being read. -/
def fault? [PatternHost] (r : Request) (host : Host) (opened : Opened) : Option RunFault :=
  (r.refused? host opened.sentences).or opened.fault?

variable {r : Request} {openSource : Option Text → Opened} {source : Option Text}
  {tried : List (Option Text)} {ss : List Sentence} {t t' : Transcript} {host : Host}

theorem Passes.attempt {fault : RunFault} (h : openSource source = .error fault) (t : Transcript) :
    r.Passes openSource [source] [] t (t.attempt source) where
  output := by simp [Transcript.attempt]
  sentences := rfl
  notes := ⟨[], rfl, by simp⟩
  tried := by simp [Transcript.attempt]
  left := ⟨[], rfl, by simp, by simp [h, Except.isOk, Except.toBool]⟩

/-- A document is closed when it is left, whatever was written of it. -/
theorem Passes.leave {d d' : Document} (hd : openSource source = .ok d)
    (h : r.Passes openSource [] ss (t.attempt source) t') :
    r.Passes openSource [source] ss t (t'.leave d') where
  output := h.output
  sentences := h.sentences
  notes := h.notes
  tried := by
    rw [Transcript.leave, h.tried]
    simp [Transcript.attempt]
  left := by
    obtain ⟨more, hl, hc, hn⟩ := h.left
    refine ⟨d'.close :: more, congrArg (List.cons _) hl,
      List.forall_mem_cons.2 ⟨d'.isClosed_close, hc⟩, ?_⟩
    rw [List.length_cons, hn]
    simp [hd, Except.isOk, Except.toBool]

theorem Passes.outputText (h : r.Passes openSource tried ss t t') :
    t'.outputText = t.outputText ++ (ss.map r.lineText).flatten := by
  rw [Transcript.outputText, h.output, List.flatten_append]
  rfl

/-- The end of a run with a fault prints nothing, and counts no sentences. -/
theorem passes_endWith (openSource : Option Text → Opened) (t : Transcript) (fault : RunFault) :
    r.Passes openSource [] [] t (endWith t fault).2 := by
  unfold endWith
  split
  · exact .note (by simp) t
  · exact .refl t

theorem code?_endWith (t : Transcript) (fault : RunFault) :
    (endWith t fault).1.code? = if fault.isForeseen then some 1 else none := by
  unfold endWith
  split <;> rfl

section Runs

variable [PatternHost]

/-- Where every line can be written only reading can fail. -/
theorem fault?_of_writable (h : ∀ line, host.refusal? line = none) (opened : Opened) :
    r.fault? host opened = opened.fault? := by
  have hnone : r.refused? host opened.sentences = none :=
    List.findSome?_eq_none_iff.2 fun s _ => by simp [h]
  rw [fault?, hnone, Option.none_or]

/-- A fault that is foreseen is one of reading, behind sentences that are all written. -/
theorem writable_of_foreseen {opened : Opened} {fault : RunFault} (hy : opened.Yields ss)
    (hf : r.fault? host opened = some fault) (h : fault.isForeseen = true) :
    r.writable host ss = ss := by
  rw [fault?, hy.sentences] at hf
  cases hr : r.refused? host ss with
  | none => exact writable_of_refused? hr
  | some refused =>
    rw [hr, Option.some_or, Option.some.injEq] at hf
    obtain ⟨s, -, hs⟩ := List.exists_of_findSome?_eq_some hr
    obtain ⟨words, -, rfl⟩ := Option.map_eq_some_iff.1 hs
    rw [← hf] at h
    exact nomatch h

theorem writable_of_fine {opened : Opened} (hy : opened.Yields ss) (hf : r.fault? host opened = none) :
    r.writable host ss = ss := by
  rw [fault?, hy.sentences, Option.or_eq_none_iff] at hf
  exact writable_of_refused? hf.1

variable (host) in
/-- A source is tried and its sentences are written; the next one is tried if there is no fault, and
otherwise the run ends. -/
theorem writeDocuments_cons (hy : (openSource source).Yields ss) (rest : List (Option Text))
    (t : Transcript) :
    ∃ t', r.Passes openSource [source] (r.writable host ss) t t' ∧
      r.writeDocuments host openSource (source :: rest) t =
        match r.fault? host (openSource source) with
        | none => r.writeDocuments host openSource rest t'
        | some fault => endWith t' fault := by
  rw [writeDocuments, fault?, hy.sentences]
  cases hd : openSource source with
  | error fault =>
    rw [hd] at hy
    obtain rfl : ss = [] := hy
    exact ⟨_, .attempt hd t, rfl⟩
  | ok d =>
    rw [hd] at hy
    obtain ⟨d', t', hw, hpasses⟩ := r.writeAll_of_reads openSource host d.fault?_ne_exhausted hy.1 hy.2
      (t.attempt source)
    refine ⟨t'.leave d', hpasses.leave hd, ?_⟩
    simp only [writeDocument, hw, Opened.fault?]
    cases (r.refused? host ss).or (d.fault?.map .document) <;> rfl

/-- Sources without faults are written one after the other. -/
theorem writeDocuments_append {before : List (Option Text)} {sss : List (List Sentence)}
    (hfine : ∀ source ∈ before, r.fault? host (openSource source) = none)
    (hy : List.Forall₂ (fun source ss => (openSource source).Yields ss) before sss)
    (later : List (Option Text)) (t : Transcript) :
    ∃ t', r.Passes openSource before sss.flatten t t' ∧
      r.writeDocuments host openSource (before ++ later) t =
        r.writeDocuments host openSource later t' := by
  induction hy generalizing t with
  | nil => exact ⟨t, .refl t, rfl⟩
  | @cons source ss before sss hs hrest ih =>
    obtain ⟨hnone, hfine⟩ := List.forall_mem_cons.1 hfine
    obtain ⟨t₁, hfirst, hrun⟩ := writeDocuments_cons (r := r) host hs (before ++ later) t
    obtain ⟨t₂, hnext, hrun'⟩ := ih hfine t₁
    rw [hnone] at hrun
    rw [writable_of_fine hs hnone] at hfirst
    exact ⟨t₂, hfirst.trans hnext, hrun.trans hrun'⟩

variable (host) in
/-- How the run over some sources ends: with the first fault that one of them has, if one does. -/
theorem writeDocuments_ends (sources : List (Option Text))
    (hu : ∀ source ∈ sources, (openSource source).Untouched) (t : Transcript) :
    ∃ tried ss t', r.Passes openSource tried ss t t' ∧
      r.writeDocuments host openSource sources t =
        match sources.findSome? fun source => r.fault? host (openSource source) with
        | none => (.done, t'.note (summary t'.sentences))
        | some fault => endWith t' fault := by
  induction sources generalizing t with
  | nil => exact ⟨[], [], t, .refl t, rfl⟩
  | cons source rest ih =>
    obtain ⟨hsource, hrest⟩ := List.forall_mem_cons.1 hu
    obtain ⟨ss, hy⟩ := hsource.exists_yields
    obtain ⟨t₁, hfirst, hrun⟩ := writeDocuments_cons (r := r) host hy rest t
    rw [List.findSome?_cons]
    cases hf : r.fault? host (openSource source) with
    | some fault =>
      rw [hf] at hrun
      exact ⟨[source], _, t₁, hfirst, hrun⟩
    | none =>
      rw [hf] at hrun
      obtain ⟨tried, ss', t₂, hlater, hrun'⟩ := ih hrest t₁
      exact ⟨source :: tried, _, t₂, hfirst.trans hlater, hrun.trans hrun'⟩

end Runs

section Opening

variable {c : Config} {d : Document}

theorem fresh_of_standardDocument {input : StandardInput} (h : r.standardDocument c host input = .ok d) :
    d.Fresh ∧ d.config = c := by
  unfold standardDocument at h
  dsimp only at h
  split at h
  · refine Document.fresh_of_ofSource (fun _ stream hs => ?_) (eq_ok_of_mapError h)
    obtain rfl := Except.ok.inj hs
    exact TextStream.meets_ofText _
  · split at h
    · exact Document.fresh_of_ofSource (fun _ _ hs => Except.ok.inj hs ▸ OpenFile.meets_toStream _ _)
        (eq_ok_of_mapError h)
    · simp at h
  · simp at h

theorem fresh_of_fileDocument {written : Text} (h : r.fileDocument c host written = .ok d) :
    d.Fresh ∧ d.config = c := by
  unfold fileDocument at h
  split at h
  · next name _ =>
    refine Document.fresh_of_ofSource (fun manner stream hs => ?_) (eq_ok_of_mapError h)
    cases ho : host.openPath written name with
    | error fault => simp [ho, Except.map] at hs
    | ok f =>
      simp only [ho, Except.map, Except.ok.injEq] at hs
      exact hs ▸ f.meets_toStream manner
  · dsimp only at h
    split at h
    · simp at h
    · split at h <;> simp at h

/-- What is opened is a document over a stream of its own, with the settings that were looked at. -/
theorem untouched_openSource [PatternHost] (h : r.settings host = .ok c) (input : StandardInput)
    (source : Option Text) :
    Opened.Untouched (r.openSource c host input source) := by
  intro d hd
  have hfresh : d.Fresh ∧ d.config = c := by
    cases source with
    | none => exact fresh_of_standardDocument hd
    | some written => exact fresh_of_fileDocument hd
  exact ⟨hfresh.1, hfresh.2 ▸ vetted_of_settings h⟩

theorem run_of_settings [PatternHost] (h : r.settings host = .ok c) (input : StandardInput) :
    r.run host input = r.writeDocuments host (r.openSource c host input) r.sources {} := by
  rw [run, h]

end Opening

end Request

end CommandLine

end SentenceReader
