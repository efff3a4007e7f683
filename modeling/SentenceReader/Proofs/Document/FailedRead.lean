import SentenceReader.Proofs.Document.LifeCycle

/-! Documents whose sentences were asked for and could not be found, since their settings are at fault.
Such a document keeps its settings and its stream, but counts as started, so that neither its settings
can be mended nor its sentences be asked for again. -/
namespace SentenceReader

/-- From a stream alone there are no sentences, whatever is asked for. -/
theorem DocumentReader.answers_waiting (x : TextStream) (calls : List ReaderCall) :
    ∀ answer ∈ (waiting x).answers calls, answer = .error .notRead := by
  induction calls generalizing x with
  | nil => simp [answers]
  | cons call calls ih =>
    cases call with
    | ask call => exact List.forall_mem_cons.2 ⟨rfl, ih x⟩
    | close =>
      rw [answers, close]
      split
      · exact ih x
      · exact ih x.release

namespace Document

/-- Whoever asks in vain for the sentences of a document may ask again: settings that could replace those
of the document still can, and by them the sentences are found as if they had not been asked for
before. -/
structure UsableAfterRead [PatternHost] (d : Document) : Prop where
  configured : ∀ settings c, (d.configure (.named settings)).result = .ok c →
    (d.read.document.configure (.named settings)).result = .ok c
  reads : ∀ settings c, (d.configure (.named settings)).result = .ok c →
    let mended := (d.read.document.configure (.named settings)).document
    let unread := (d.configure (.named settings)).document
    mended.read.result = unread.read.result ∧
      ∀ later, mended.read.document.outputs later = unread.read.document.outputs later

section Steps

variable [PatternHost] {d : Document}

/-- A document that was not started yet has nothing but its stream. -/
theorem waiting_afterLifeCall (h : ∃ x, d.reader = .waiting x) {call : LifeCall}
    (hs : (d.afterLifeCall call).started = false) :
    ∃ x, (d.afterLifeCall call).reader = .waiting x := by
  obtain ⟨x, hx⟩ := h
  have hclose : ∃ y, d.close.reader = .waiting y := by
    rw [close_eq, hx, DocumentReader.close]
    split
    · exact ⟨x, rfl⟩
    · exact ⟨x.release, rfl⟩
  cases call with
  | configure settings =>
    refine ⟨x, ?_⟩
    rw [afterLifeCall]
    cases hr : (d.configure (.named settings)).result with
    | error fault => rw [d.configure_of_error hr, hx]
    | ok c => rw [d.document_configure_of_ok hr, ← hx]
  | call c =>
    cases c with
    | read => exact absurd (d.started_read.symm.trans hs) (by decide)
    | hasNext =>
      refine ⟨x, ?_⟩
      rw [afterLifeCall, afterCall, d.hasNext_eq.2, hx]
      rfl
    | next =>
      refine ⟨x, ?_⟩
      rw [afterLifeCall, afterCall, d.next_eq.2, hx]
      rfl
    | close => exact hclose
    | enter => exact ⟨x, hx⟩
    | leave => exact hclose

theorem waiting_live (h : ∃ x, d.reader = .waiting x) {calls : List LifeCall}
    (hs : (d.live calls).started = false) : ∃ x, (d.live calls).reader = .waiting x := by
  induction calls generalizing d with
  | nil => exact h
  | cons call calls ih =>
    refine ih (waiting_afterLifeCall h ?_) hs
    by_contra hstarted
    rw [Bool.not_eq_false] at hstarted
    have hlive := live_of_started hstarted calls
    change ((d.afterLifeCall call).live calls).started = false at hs
    rw [hlive] at hs
    exact absurd (hstarted.symm.trans hs) (by decide)

/-- To ask in vain marks the document as started, and does nothing else. -/
theorem document_read_of_error {fault : DocumentFault} (h : d.read.result = .error fault) :
    d.read.document = { d with started := true } := by
  cases hs : d.started with
  | true =>
    rw [d.read_of_started hs, ← hs]
  | false =>
    rw [d.document_read hs]
    simp only [read, hs, Bool.false_eq_true, if_false] at h
    cases hr : d.sentences with
    | mk result events =>
      cases result with
      | error fault => rfl
      | ok r => simp [hr] at h

/-- Where settings could be replaced before, they can be so after the sentences were asked for in vain
only if the document was started before, and they could not. -/
theorem usableAfterRead_iff_started {args : Arguments} (hc : Config.ofArguments args = .ok d.config) :
    d.UsableAfterRead ↔ d.started = true := by
  constructor
  · intro h
    by_contra hs
    rw [Bool.not_eq_true] at hs
    have hsame : (d.configure (.named [])).result = .ok d.config :=
      (d.configure_eq_ok_iff _ _).2 ⟨rfl, hs, (Config.override_eq_ok_iff hc [] _).2 hc⟩
    have hagain := h.configured [] _ hsame
    rw [d.read.document.configure_of_started d.started_read] at hagain
    exact nomatch hagain
  · intro hs
    have hnever (settings : List (Text × Argument)) (c : Config) :
        (d.configure (.named settings)).result ≠ .ok c := by
      rw [d.configure_of_started hs]
      exact nofun
    exact ⟨fun settings c h => absurd h (hnever settings c),
      fun settings c h => absurd h (hnever settings c)⟩

end Steps

/-- What a document is made of at first. -/
theorem start_of_ofSource {strategies : Strategies} {kind : Data} {c : Config}
    {source : Decoding.Manner → Except DocumentFault TextStream} {d : Document}
    (h : ofSource strategies kind c source = .ok d) :
    d.config = c ∧ d.started = false ∧ ∃ x, d.reader = .waiting x := by
  simp only [ofSource, bind, Except.bind] at h
  split at h
  · simp at h
  · split at h
    · simp [throw, throwThe, MonadExceptOf.throw] at h
    · split at h
      · simp at h
      · rw [← Except.ok.inj h]
        exact ⟨rfl, rfl, _, rfl⟩

/-- After its sentences were asked for in vain a document can be used as before only if it was started
before, and could not be used then either. In any other case it keeps its settings and its stream, but
from then on no settings are replaced, and its sentences are never found. -/
theorem usableAfterRead_iff [PatternHost] {strategies : Strategies} {kind : Data} {args : Arguments}
    {c : Config} {source : Decoding.Manner → Except DocumentFault TextStream} {d : Document}
    (hc : Config.ofArguments args = .ok c) (hd : ofSource strategies kind c source = .ok d)
    (calls : List LifeCall) {fault : DocumentFault} (hr : (d.live calls).read.result = .error fault) :
    ((d.live calls).UsableAfterRead ↔ (d.live calls).started = true) ∧
    (d.live calls).read.document = { d.live calls with started := true } ∧
    ((d.live calls).started = false → ∀ later,
      let e := (d.live calls).read.document.live later
      (∀ settings, (e.configure (.named settings)).result =
        .error (if (Arguments.named settings).takesName then .takenName else .started)) ∧
      e.read.result = .error .alreadyRead ∧
      ∀ answer ∈ (d.live calls).read.document.outputs later, answer = .error .notRead) := by
  obtain ⟨hconfig, -, hwaiting⟩ := start_of_ofSource hd
  rw [← hconfig] at hc
  have hdocument := document_read_of_error hr
  refine ⟨usableAfterRead_iff_started (ofArguments_live hc calls), hdocument, fun hs later => ?_⟩
  obtain ⟨x, hx⟩ := waiting_live hwaiting hs
  have hstarted := (d.live calls).started_read
  have he : ((d.live calls).read.document.live later).started = true := by
    rw [live_of_started hstarted later]
    exact hstarted
  refine ⟨fun settings => by rw [configure_of_started _ he], by rw [read_of_started _ he], ?_⟩
  rw [outputs_of_started hstarted later, hdocument, hx]
  exact DocumentReader.answers_waiting x _

/-- The tokenizer does not know an option that the settings have. -/
theorem usableAfterRead_iff_of_unknown_option :
    let args : Arguments := .named [("tokenizer_options".toList, .data (.text "bogus".toList))]
    let c : Config := { tokenizerOptions := "bogus".toList }
    let d : Document := ⟨.plain, .wholeText, c, .waiting (.ofText "A. B".toList), false⟩
    (Config.ofArguments args = .ok c ∧
      ofSource Strategies.standard (.text "plain".toList) c (fun _ => .ok (.ofText "A. B".toList)) = .ok d ∧
      d.read.result = .error (.ofSequence (.unknownOption "bogus".toList LexedOptions.known))) ∧
    ¬ d.UsableAfterRead ∧ d.read.document.reader = .waiting (.ofText "A. B".toList) := by
  intro args c d
  have hc : Config.ofArguments args = .ok c := rfl
  have hd : ofSource Strategies.standard (.text "plain".toList) c
      (fun _ => .ok (.ofText "A. B".toList)) = .ok d := rfl
  have hr : d.read.result = .error (.ofSequence (.unknownOption "bogus".toList LexedOptions.known)) := rfl
  obtain ⟨husable, hdocument, -⟩ := usableAfterRead_iff hc hd [] hr
  refine ⟨⟨hc, hd, hr⟩, fun h => Bool.false_ne_true (husable.1 h), ?_⟩
  exact congrArg reader hdocument

/-- An unknown option could be taken back before the sentences were asked for, and cannot afterwards. -/
theorem mended_too_late :
    let d : Document := ⟨.plain, .wholeText, { tokenizerOptions := "bogus".toList },
      .waiting (.ofText "A. B".toList), false⟩
    let mended := [("tokenizer_options".toList, Argument.data (.text []))]
    d.read.result.isOk = false ∧ (d.configure (.named mended)).result = .ok {} ∧
      (d.configure (.named mended)).document.read.result.isOk = true ∧
      (d.read.document.configure (.named mended)).result = .error .started ∧ ¬ d.UsableAfterRead := by
  intro d mended
  have hmended : (d.configure (.named mended)).result = .ok {} := rfl
  have hlate : (d.read.document.configure (.named mended)).result = .error .started := rfl
  refine ⟨by decide +kernel, hmended, by decide +kernel, hlate, fun h => ?_⟩
  have hagain := h.configured mended {} hmended
  rw [hlate] at hagain
  exact nomatch hagain

end Document

end SentenceReader
