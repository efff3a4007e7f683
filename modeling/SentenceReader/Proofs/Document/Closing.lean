import Mathlib
import SentenceReader.Document.Basic
import SentenceReader.Proofs.Sentence.Sequences

/-! Closing of documents. Two parties close the stream of a document: the sequence of its sentences,
at its end, and the document itself, where it is told to. The document looks whether its stream is
closed already; the sequence does not. -/
namespace SentenceReader

/-- What a stream was closed by: a sequence that has ended, and a document before that. -/
structure TextStream.ClosedBy (x : TextStream) (ended early : Bool) : Prop where
  closes : x.closes = ended.toNat + early.toNat
  closed : x.closed = (ended || early)

/-- A sequence that comes to its end closes its stream, closed or not. -/
theorem StreamOwner.closedBy_ask {σ α : Type} (o : StreamOwner σ α) {s : σ} {early : Bool}
    (h : (o.stream s).ClosedBy (o.finished s) early) (call : Call) :
    (o.stream (o.calls.ask s call).2).ClosedBy (o.finished (o.calls.ask s call).2) early := by
  cases hf : o.finished s with
  | true =>
    obtain ⟨hs, hf'⟩ := o.ask_of_finished hf call
    rwa [hs, hf', ← hf]
  | false =>
    obtain ⟨hn, hc⟩ := o.closes_after hf [call]
    rw [hf] at h
    refine ⟨?_, ?_⟩
    · rw [show o.calls.after s [call] = (o.calls.ask s call).2 from rfl, h.closes] at hn
      simpa [Nat.add_comm] using hn
    · rw [show o.calls.after s [call] = (o.calls.ask s call).2 from rfl, h.closed] at hc
      simpa [Bool.or_comm] using hc

/-- The calls that can close a document, or lead to that. -/
inductive DocumentCall where
  /-- Asks for the sentences. -/
  | read
  | hasNext
  | next
  | close
  | enter
  | leave
  deriving DecidableEq, Repr

def DocumentCall.isClose : DocumentCall → Bool
  | close | leave => true
  | _ => false

/-- Whether the sentences have come to their end. -/
def DocumentReader.isEnded : DocumentReader → Bool
  | waiting _ => false
  | wholeText s => s.finished
  | regions s => s.finished

theorem DocumentReader.isEnded_mapStream (f : TextStream → TextStream) (r : DocumentReader) :
    (r.mapStream f).isEnded = r.isEnded := by
  cases r <;> rfl

namespace Document

/-- A document that was closed by its sequence or by a call, or was not closed. -/
structure Closing (d : Document) (early : Bool) : Prop where
  closedBy : d.reader.stream.ClosedBy d.reader.isEnded early
  waiting : d.started = false → ∃ x, d.reader = .waiting x

variable {d : Document} {early : Bool}

theorem Closing.close (h : d.Closing early) : d.close.Closing (early || !d.reader.isEnded) := by
  have hc := h.closedBy.closed
  unfold Document.close isClosed
  split
  · next hd =>
    rw [hc] at hd
    have he : (early || !d.reader.isEnded) = early := by
      cases hr : d.reader.isEnded <;> simp_all
    rwa [he]
  · next hd =>
    obtain ⟨he, rfl⟩ : d.reader.isEnded = false ∧ early = false := by simpa [hc] using hd
    have hn := h.closedBy.closes
    rw [he] at hn
    have he' : (d.reader.mapStream TextStream.release).isEnded = false := by
      rw [DocumentReader.isEnded_mapStream, he]
    refine ⟨?_, fun hs => ?_⟩
    · rw [he, he', DocumentReader.stream_mapStream]
      exact ⟨by rw [TextStream.closes_release, hn]; rfl, rfl⟩
    · obtain ⟨x, hx⟩ := h.waiting hs
      exact ⟨x.release, by rw [hx]; rfl⟩

theorem Closing.ask_wholeText {s : Segmenter} (h : d.Closing early) (hr : d.reader = .wholeText s)
    (call : Call) :
    Closing { d with reader := .wholeText (Segmenter.calls.ask s call).2 } early := by
  have hb := h.closedBy
  rw [hr] at hb
  rw [Segmenter.calls_eq]
  refine ⟨Segmenter.owner.closedBy_ask hb call, fun hs => ?_⟩
  obtain ⟨x, hx⟩ := h.waiting hs
  exact absurd (hr.symm.trans hx) (by simp)

theorem Closing.ask_regions {s : RegionSegmenter} (h : d.Closing early) (hr : d.reader = .regions s)
    (call : Call) :
    Closing { d with reader := .regions (RegionSegmenter.calls.ask s call).2 } early := by
  have hb := h.closedBy
  rw [hr] at hb
  rw [RegionSegmenter.calls_eq]
  refine ⟨RegionSegmenter.owner.closedBy_ask hb call, fun hs => ?_⟩
  obtain ⟨x, hx⟩ := h.waiting hs
  exact absurd (hr.symm.trans hx) (by simp)

theorem Closing.hasNext (h : d.Closing early) : d.hasNext.document.Closing early := by
  unfold Document.hasNext
  split
  · exact h
  · next s hr => exact h.ask_wholeText hr .hasNext
  · next s hr => exact h.ask_regions hr .hasNext

theorem Closing.next (h : d.Closing early) : d.next.document.Closing early := by
  unfold Document.next
  split
  · exact h
  · next s hr => exact h.ask_wholeText hr .next
  · next s hr => exact h.ask_regions hr .next

section Calls

variable [PatternHost]

/-- The sentences that a document starts with own its stream, and have met no end. -/
theorem stream_of_sentences {r : DocumentReader} (h : d.sentences.1 = .ok r) :
    r.stream = d.reader.stream ∧ r.isEnded = false := by
  unfold sentences at h
  split at h
  · cases hs : (Segmenter.ofStream d.config d.reader.stream).1 with
    | error fault => simp [hs, Except.map] at h
    | ok s =>
      simp only [hs, Except.map, Except.ok.injEq] at h
      rw [← h]
      exact Segmenter.stream_of_ofStream hs
  · cases hs : RegionSegmenter.ofStream d.config d.reader.stream with
    | error fault => simp [hs, Except.map] at h
    | ok s =>
      simp only [hs, Except.map, Except.ok.injEq] at h
      rw [← h]
      exact RegionSegmenter.stream_of_ofStream hs

theorem Closing.read (h : d.Closing early) : d.read.document.Closing early := by
  unfold Document.read
  split
  · exact h
  · next hs =>
    obtain ⟨x, hx⟩ := h.waiting (by simpa using hs)
    have hb := h.closedBy
    cases hr : d.sentences with
    | mk result events =>
      cases result with
      | error fault => exact ⟨hb, by simp⟩
      | ok reader =>
        obtain ⟨hstream, he⟩ := stream_of_sentences (congrArg Prod.fst hr)
        refine ⟨?_, by simp⟩
        rw [hx] at hb hstream
        dsimp only
        rwa [hstream, he]

/-- The document after a call. To enter one changes nothing, and to leave it is to close it. -/
def afterCall (d : Document) : DocumentCall → Document
  | .read => d.read.document
  | .hasNext => d.hasNext.document
  | .next => d.next.document
  | .close | .leave => d.close
  | .enter => d

def after (d : Document) (calls : List DocumentCall) : Document := calls.foldl afterCall d

/-- Whether one of some calls closes the document before its sentences have come to their end. -/
def closedEarly (d : Document) : List DocumentCall → Bool
  | [] => false
  | call :: calls => call.isClose && !d.reader.isEnded || closedEarly (d.afterCall call) calls

theorem Closing.afterCall (h : d.Closing early) (call : DocumentCall) :
    (d.afterCall call).Closing (early || call.isClose && !d.reader.isEnded) := by
  cases call <;>
    simp only [Document.afterCall, DocumentCall.isClose, Bool.false_and, Bool.true_and, Bool.or_false]
  case read => exact h.read
  case hasNext => exact h.hasNext
  case next => exact h.next
  case close => exact h.close
  case enter => exact h
  case leave => exact h.close

theorem Closing.after (h : d.Closing early) (calls : List DocumentCall) :
    (d.after calls).Closing (early || d.closedEarly calls) := by
  induction calls generalizing d early with
  | nil => rwa [closedEarly, Bool.or_false]
  | cons call calls ih =>
    have hs := ih (h.afterCall call)
    rwa [Bool.or_assoc] at hs

/-- The stream of a document is closed twice in one case only: the document is closed before its
sentences have come to their end, and they come to it even so. -/
theorem closes_le_one_iff {stream : TextStream} (hr : d.reader = .waiting stream)
    (hn : stream.closes = 0) (hc : stream.closed = false) (calls : List DocumentCall) :
    (d.after calls).reader.stream.closes ≤ 1 ↔
      ¬ ((d.after calls).reader.isEnded = true ∧ d.closedEarly calls = true) := by
  have h : d.Closing false := by
    refine ⟨?_, fun _ => ⟨stream, hr⟩⟩
    rw [hr]
    exact ⟨hn, hc⟩
  rw [(h.after calls).closedBy.closes]
  cases (d.after calls).reader.isEnded <;> cases d.closedEarly calls <;> decide

end Calls

/-- A document that is left while its sentences are read, and closed besides. -/
theorem closes_le_one_iff_of_leaving :
    let d : Document := ⟨.plain, .wholeText, {}, .waiting (.ofText "a .".toList), false⟩
    let calls : List DocumentCall := [.enter, .read, .leave, .close]
    d.reader = .waiting (.ofText "a .".toList) ∧ (TextStream.ofText "a .".toList).closes = 0 ∧
      (TextStream.ofText "a .".toList).closed = false ∧ d.closedEarly calls = true ∧
      (d.after calls).reader.stream.closes ≤ 1 := by
  intro d calls
  have he : (d.after calls).reader.isEnded = false := rfl
  refine ⟨rfl, rfl, rfl, rfl, (closes_le_one_iff (d := d) rfl rfl rfl calls).2 ?_⟩
  rintro ⟨h, -⟩
  exact Bool.false_ne_true (he.symm.trans h)

/-- A document of one sentence, closed behind it: the call that finds that there are no more closes the
stream again. -/
theorem closes_twice :
    ∃ d : Document, Document.ofStream Strategies.standard (.text "plain".toList) {}
        (some (.ofText "a .".toList)) = .ok d ∧
      (d.after [.read, .next, .close, .hasNext]).reader.stream.closes = 2 := by
  let source : TokenSource := .lexed { stream := .ofText "a .".toList, options := {} }
  let begun := source.hasNext.2
  let spent : TokenSource :=
    .lexed { stream := { rest := [], reads := 2 }, options := {}, ended := true }
  let s := Segmenter.ofSource {} false source
  have h₀ : s.begins = (.ok true, begun) := Prod.ext (by cbv) rfl
  have h₁ : begun.next? = (.ok (some { word := ['a'] }), begun.next?.2) :=
    Prod.ext (by unfold begun; cbv) rfl
  have h₂ : begun.next?.2.next? = (.ok (some { word := ['.'] }), begun.next?.2.next?.2) :=
    Prod.ext (by unfold begun; cbv) rfl
  have h₃ : begun.next?.2.next?.2.next? = (.ok none, spent) := by
    unfold begun
    cbv
  have hg := calc
    s.rules.gather begun [] false = s.rules.gather begun.next?.2 [{ word := ['a'] }] false :=
      SentenceRules.gather_of_some [] false h₁
    _ = s.rules.gather begun.next?.2.next?.2 [{ word := ['.'] }, { word := ['a'] }] true :=
      SentenceRules.gather_of_some _ false h₂
    _ = (.ok ([{ word := ['a'] }, { word := ['.'] }], none), spent) :=
      SentenceRules.gather_of_none _ true h₃
  have hb : s.build = (.ok (some [{ word := ['a'] }, { word := ['.'] }]), { s with source := spent }) := by
    rw [Segmenter.build_eq, h₀]
    dsimp only
    rw [show s.carried.toList = [] from rfl, hg]
    rfl
  have hn := (Segmenter.next_of_build_some (s := s) ⟨rfl, rfl⟩ hb).2
  refine ⟨⟨.plain, .wholeText, {}, .waiting (.ofText "a .".toList), false⟩, rfl, ?_⟩
  have hd : after ⟨.plain, .wholeText, {}, .waiting (.ofText "a .".toList), false⟩ [.read, .next] =
      ⟨.plain, .wholeText, {}, .wholeText { s with source := spent }, true⟩ :=
    congrArg (fun s => Document.mk .plain .wholeText {} (.wholeText s) true) hn
  change (afterCall (afterCall (after _ [.read, .next]) .close) .hasNext).reader.stream.closes = 2
  rw [hd]
  cbv

end Document

end SentenceReader
