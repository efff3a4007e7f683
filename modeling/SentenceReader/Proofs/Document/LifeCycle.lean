import SentenceReader.Proofs.Config.Overriding
import SentenceReader.Proofs.Document.Closing

/-! The life of a document. Its settings can be replaced as long as its sentences were not asked for;
these are asked for once, and the sequence of them then goes its own way, under the settings of that
moment. A document that was closed stays closed. -/
namespace SentenceReader

/-- A call on a sequence does not open its stream again. -/
theorem StreamOwner.closed_ask {σ α : Type} (o : StreamOwner σ α) {s : σ}
    (h : (o.stream s).closed = true) (call : Call) :
    (o.stream (o.calls.ask s call).2).closed = true := by
  cases hf : o.finished s with
  | true =>
    rw [(o.ask_of_finished hf call).1]
    exact h
  | false =>
    have hc := (o.closes_after hf [call]).2
    rw [h, Bool.true_or] at hc
    exact hc

/-- The calls on a document over its life. -/
inductive LifeCall where
  /-- Replaces some settings, which are given by their names. -/
  | configure (settings : List (Text × Argument))
  | call (c : DocumentCall)

/-- What can be done to the sentences of a document. -/
inductive ReaderCall where
  | ask (call : Call)
  | close
  deriving DecidableEq, Repr

/-- What a call on a document does to its sentences. -/
def LifeCall.onReader? : LifeCall → Option ReaderCall
  | .call .hasNext => some (.ask .hasNext)
  | .call .next => some (.ask .next)
  | .call .close | .call .leave => some .close
  | .call .read | .call .enter | .configure _ => none

namespace DocumentReader

/-- The answer of the sentences to a call, and what is read from afterwards. -/
def ask : DocumentReader → Call → Except DocumentFault (Found Sentence) × DocumentReader
  | waiting x, _ => (.error .notRead, waiting x)
  | wholeText s, call =>
    ((Segmenter.calls.ask s call).1.mapError .ofSequence, wholeText (Segmenter.calls.ask s call).2)
  | regions s, call =>
    ((RegionSegmenter.calls.ask s call).1.mapError .ofSequence,
      regions (RegionSegmenter.calls.ask s call).2)

/-- Closes the stream unless it is closed. -/
def close (r : DocumentReader) : DocumentReader :=
  if r.stream.closed then r else r.mapStream TextStream.release

def afterCall (r : DocumentReader) : ReaderCall → DocumentReader
  | .ask call => (r.ask call).2
  | .close => r.close

def after (r : DocumentReader) (calls : List ReaderCall) : DocumentReader := calls.foldl afterCall r

/-- The answers of the sentences to the calls that ask them. -/
def answers (r : DocumentReader) : List ReaderCall → List (Except DocumentFault (Found Sentence))
  | [] => []
  | .ask call :: calls => (r.ask call).1 :: answers (r.ask call).2 calls
  | .close :: calls => answers r.close calls

theorem closed_afterCall {r : DocumentReader} (h : r.stream.closed = true) (call : ReaderCall) :
    (r.afterCall call).stream.closed = true := by
  cases call with
  | close =>
    rw [afterCall, close, if_pos h]
    exact h
  | ask call =>
    cases r with
    | waiting x => exact h
    | wholeText s =>
      rw [afterCall, ask, Segmenter.calls_eq]
      exact Segmenter.owner.closed_ask h call
    | regions s =>
      rw [afterCall, ask, RegionSegmenter.calls_eq]
      exact RegionSegmenter.owner.closed_ask h call

end DocumentReader

/-- Whether arguments are given under the name of the document itself. -/
def Arguments.takesName (args : Arguments) : Bool := (args.find? "self".toList).isSome

/-- Arguments that are overridden by settings, in their order. -/
def Arguments.overridden (args : Arguments) (accepted : List (List (Text × Argument))) : Arguments :=
  accepted.foldl (fun found settings => found.update (named settings)) args

namespace Document

section Life

variable [PatternHost]

def afterLifeCall (d : Document) : LifeCall → Document
  | .configure settings => (d.configure (.named settings)).document
  | .call c => d.afterCall c

def live (d : Document) (calls : List LifeCall) : Document := calls.foldl afterLifeCall d

/-- The settings of those calls that replaced some. -/
def accepted (d : Document) : List LifeCall → List (List (Text × Argument))
  | [] => []
  | .configure settings :: calls =>
    let later := accepted (d.afterLifeCall (.configure settings)) calls
    if (d.configure (.named settings)).result.isOk then settings :: later else later
  | .call c :: calls => accepted (d.afterCall c) calls

/-- How often the sentences were asked for and found. -/
def readings (d : Document) : List LifeCall → Nat
  | [] => 0
  | .call .read :: calls => d.read.result.isOk.toNat + readings (d.afterCall .read) calls
  | call :: calls => readings (d.afterLifeCall call) calls

/-- The answers to the calls for sentences. -/
def outputs (d : Document) : List LifeCall → List (Except DocumentFault (Found Sentence))
  | [] => []
  | .call .hasNext :: calls => d.hasNext.result.map .more :: outputs (d.afterCall .hasNext) calls
  | .call .next :: calls => d.next.result.map .item :: outputs (d.afterCall .next) calls
  | call :: calls => outputs (d.afterLifeCall call) calls

end Life

section Asking

variable (d : Document)

theorem hasNext_eq :
    d.hasNext.result.map .more = (d.reader.ask .hasNext).1 ∧
      d.hasNext.document = { d with reader := (d.reader.ask .hasNext).2 } := by
  obtain ⟨kind, strategy, config, reader, started⟩ := d
  unfold hasNext
  cases reader with
  | waiting x => exact ⟨rfl, rfl⟩
  | wholeText s =>
    refine ⟨?_, rfl⟩
    cases h : s.hasNext.result <;>
      simp [answer, DocumentReader.ask, Segmenter.calls, Calls.ask, h, Except.map, Except.mapError]
  | regions s =>
    refine ⟨?_, rfl⟩
    cases h : s.hasNext.result <;>
      simp [answer, DocumentReader.ask, RegionSegmenter.calls, Calls.ask, h, Except.map,
        Except.mapError]

theorem next_eq :
    d.next.result.map .item = (d.reader.ask .next).1 ∧
      d.next.document = { d with reader := (d.reader.ask .next).2 } := by
  obtain ⟨kind, strategy, config, reader, started⟩ := d
  unfold next
  cases reader with
  | waiting x => exact ⟨rfl, rfl⟩
  | wholeText s =>
    refine ⟨?_, rfl⟩
    cases h : s.next.result <;>
      simp [answer, DocumentReader.ask, Segmenter.calls, Calls.ask, h, Except.map, Except.mapError]
  | regions s =>
    refine ⟨?_, rfl⟩
    cases h : s.next.result <;>
      simp [answer, DocumentReader.ask, RegionSegmenter.calls, Calls.ask, h, Except.map,
        Except.mapError]

theorem close_eq : d.close = { d with reader := d.reader.close } := by
  unfold close DocumentReader.close isClosed
  split <;> rfl

end Asking

section Steps

variable [PatternHost] (d : Document)

/-- A call to replace settings that fails changes nothing. -/
theorem configure_of_error {updates : Arguments} {fault : DocumentFault}
    (h : (d.configure updates).result = .error fault) : (d.configure updates).document = d := by
  unfold configure at h ⊢
  split
  · rfl
  · split
    · rfl
    · split
      · rfl
      · simp_all

/-- When a call replaces settings, and by which ones. -/
theorem configure_eq_ok_iff (updates : Arguments) (c : Config) :
    (d.configure updates).result = .ok c ↔
      updates.takesName = false ∧ d.started = false ∧ d.config.override updates = .ok c := by
  unfold configure Arguments.takesName
  cases (updates.find? "self".toList).isSome with
  | true => simp
  | false =>
    cases d.started with
    | true => simp
    | false => cases d.config.override updates <;> simp

theorem document_configure_of_ok {updates : Arguments} {c : Config}
    (h : (d.configure updates).result = .ok c) :
    (d.configure updates).document = { d with config := c } := by
  obtain ⟨hself, hstarted, hc⟩ := (d.configure_eq_ok_iff updates c).1 h
  unfold Arguments.takesName at hself
  rw [configure, hself, hstarted, hc]
  rfl

theorem configure_of_started (h : d.started = true) (updates : Arguments) :
    d.configure updates = ⟨.error (if updates.takesName then .takenName else .started), d, []⟩ := by
  unfold configure Arguments.takesName
  split <;> simp_all

theorem read_of_started (h : d.started = true) : d.read = ⟨.error .alreadyRead, d, []⟩ := by
  rw [read, if_pos h]

/-- To ask for the sentences settles what is read from, and no setting. -/
theorem document_read (h : d.started = false) :
    d.read.document = { d with
      reader := d.sentences.1.toOption.getD d.reader
      started := true } := by
  simp only [read, h, Bool.false_eq_true, if_false]
  cases d.sentences with
  | mk result events => cases result <;> rfl

theorem started_read : d.read.document.started = true := by
  cases h : d.started with
  | true => rw [d.read_of_started h, h]
  | false => rw [d.document_read h]

theorem config_read : d.read.document.config = d.config := by
  cases h : d.started with
  | true => rw [d.read_of_started h]
  | false => rw [d.document_read h]

/-- The sentences are found in the stream of the document, by its settings. -/
theorem read_of_ok {strategy : Strategy} (h : d.read.result = .ok strategy) :
    d.started = false ∧ d.sentences.1 = .ok d.read.document.reader := by
  cases hs : d.started with
  | true => simp [d.read_of_started hs] at h
  | false =>
    refine ⟨rfl, ?_⟩
    rw [d.document_read hs]
    simp only [read, hs, Bool.false_eq_true, if_false] at h
    cases hr : d.sentences with
    | mk result events =>
      cases result with
      | error fault => simp [hr] at h
      | ok r => rfl

/-- A call that replaces settings or asks for the sentences once more leaves a document that was started
as it is; the others concern its sentences alone. -/
theorem afterLifeCall_of_started (h : d.started = true) (call : LifeCall) :
    d.afterLifeCall call =
      { d with reader := call.onReader?.elim d.reader d.reader.afterCall } := by
  cases call with
  | configure settings => rw [afterLifeCall, d.configure_of_started h]; rfl
  | call c =>
    cases c with
    | read => rw [afterLifeCall, afterCall, d.read_of_started h]; rfl
    | hasNext => exact d.hasNext_eq.2
    | next => exact d.next_eq.2
    | close => exact d.close_eq
    | enter => rfl
    | leave => exact d.close_eq

/-- No call but a successful one to replace settings changes any. -/
theorem config_afterCall (c : DocumentCall) : (d.afterCall c).config = d.config := by
  cases c with
  | read => exact d.config_read
  | hasNext => rw [afterCall, d.hasNext_eq.2]
  | next => rw [afterCall, d.next_eq.2]
  | close => rw [afterCall, d.close_eq]
  | enter => rfl
  | leave => rw [afterCall, d.close_eq]

/-- A document that is closed stays closed. -/
theorem isClosed_afterLifeCall (h : d.isClosed = true) (call : LifeCall) :
    (d.afterLifeCall call).isClosed = true := by
  have hask (call : ReaderCall) : (d.reader.afterCall call).stream.closed = true :=
    DocumentReader.closed_afterCall h call
  cases call with
  | configure settings =>
    cases hr : (d.configure (.named settings)).result with
    | error fault => rwa [afterLifeCall, d.configure_of_error hr]
    | ok c => rwa [afterLifeCall, d.document_configure_of_ok hr]
  | call c =>
    cases c with
    | read =>
      cases hs : d.started with
      | true => rwa [afterLifeCall, afterCall, d.read_of_started hs]
      | false =>
        rw [afterLifeCall, afterCall, d.document_read hs]
        cases hr : d.sentences.1 with
        | error fault => exact h
        | ok r =>
          change r.stream.closed = true
          rw [(stream_of_sentences hr).1]
          exact h
    | hasNext =>
      rw [afterLifeCall, afterCall, d.hasNext_eq.2]
      exact hask (.ask .hasNext)
    | next =>
      rw [afterLifeCall, afterCall, d.next_eq.2]
      exact hask (.ask .next)
    | close => exact d.isClosed_close
    | enter => exact h
    | leave => exact d.isClosed_close

end Steps

section Lives

variable [PatternHost] {d : Document}

theorem isClosed_live (h : d.isClosed = true) (calls : List LifeCall) :
    (d.live calls).isClosed = true := by
  induction calls generalizing d with
  | nil => exact h
  | cons call calls ih => exact ih (d.isClosed_afterLifeCall h call)

/-- From its start on a document is its sentences, which change by the calls on them alone. -/
theorem live_of_started (h : d.started = true) (calls : List LifeCall) :
    d.live calls = { d with reader := d.reader.after (calls.filterMap LifeCall.onReader?) } := by
  induction calls generalizing d with
  | nil => rfl
  | cons call calls ih =>
    have hcall := d.afterLifeCall_of_started h call
    have hlive := ih (d := d.afterLifeCall call) (by rw [hcall]; exact h)
    rw [live, List.foldl_cons]
    refine hlive.trans ?_
    rw [hcall, List.filterMap_cons]
    cases call.onReader? <;> rfl

/-- The answers to the calls for sentences are those of the sentences that were started with. -/
theorem outputs_of_started (h : d.started = true) (calls : List LifeCall) :
    d.outputs calls = d.reader.answers (calls.filterMap LifeCall.onReader?) := by
  induction calls generalizing d with
  | nil => rfl
  | cons call calls ih =>
    have hcall := d.afterLifeCall_of_started h call
    have hrest := ih (d := d.afterLifeCall call) (by rw [hcall]; exact h)
    rw [congrArg reader hcall] at hrest
    cases call with
    | configure settings => exact hrest
    | call c =>
      cases c with
      | hasNext => exact congrArg₂ List.cons d.hasNext_eq.1 hrest
      | next => exact congrArg₂ List.cons d.next_eq.1 hrest
      | read => exact hrest
      | enter => exact hrest
      | close => exact hrest
      | leave => exact hrest

theorem readings_of_started (h : d.started = true) (calls : List LifeCall) : d.readings calls = 0 := by
  induction calls generalizing d with
  | nil => rfl
  | cons call calls ih =>
    have hrest := ih (d := d.afterLifeCall call) (by rw [d.afterLifeCall_of_started h]; exact h)
    cases call with
    | configure settings => exact hrest
    | call c =>
      cases c with
      | read =>
        change d.read.result.isOk.toNat + _ = 0
        rw [d.read_of_started h]
        exact (Nat.zero_add _).trans hrest
      | hasNext => exact hrest
      | next => exact hrest
      | enter => exact hrest
      | close => exact hrest
      | leave => exact hrest

/-- The sentences of a document are found once at most. -/
theorem readings_le_one (d : Document) (calls : List LifeCall) : d.readings calls ≤ 1 := by
  induction calls generalizing d with
  | nil => exact Nat.zero_le 1
  | cons call calls ih =>
    have hrest := ih (d.afterLifeCall call)
    cases call with
    | configure settings => exact hrest
    | call c =>
      cases c with
      | read =>
        change d.read.result.isOk.toNat + d.read.document.readings calls ≤ 1
        rw [readings_of_started d.started_read]
        cases d.read.result.isOk <;> decide
      | hasNext => exact hrest
      | next => exact hrest
      | enter => exact hrest
      | close => exact hrest
      | leave => exact hrest

/-- The settings are those that are made from the first arguments, as the calls override them. -/
theorem ofArguments_live {args : Arguments} (h : Config.ofArguments args = .ok d.config)
    (calls : List LifeCall) :
    Config.ofArguments (args.overridden (d.accepted calls)) = .ok (d.live calls).config := by
  induction calls generalizing d args with
  | nil => exact h
  | cons call calls ih =>
    cases call with
    | configure settings =>
      rw [accepted]
      cases hr : (d.configure (.named settings)).result with
      | error fault =>
        have hd : d.afterLifeCall (.configure settings) = d := d.configure_of_error hr
        rw [live, List.foldl_cons, hd]
        exact ih h
      | ok c =>
        have hd : d.afterLifeCall (.configure settings) = { d with config := c } :=
          d.document_configure_of_ok hr
        have hc := ((d.configure_eq_ok_iff _ c).1 hr).2.2
        rw [live, List.foldl_cons, hd]
        exact ih (d := { d with config := c }) ((Config.override_eq_ok_iff h settings c).1 hc)
    | call c =>
      exact ih (d := d.afterCall c) (by rw [d.config_afterCall]; exact h)

end Lives

/-- What the life of a document over a stream is like, up to some calls and behind them. -/
structure LifeCycle [PatternHost] (args : Arguments) (d : Document) (calls : List LifeCall) : Prop where
  /-- The settings go together. -/
  valid : (d.live calls).config.issues = []
  config : Config.ofArguments (args.overridden (d.accepted calls)) = .ok (d.live calls).config
  /-- To replace settings that are wrong, or too late, changes nothing. -/
  refused : ∀ settings fault, ((d.live calls).configure (.named settings)).result = .error fault →
    ((d.live calls).configure (.named settings)).document = d.live calls
  /-- Settings are replaced where the document was not started and the arguments so overridden are
  good. -/
  configured : ∀ settings c, ((d.live calls).configure (.named settings)).result = .ok c ↔
    (Arguments.named settings).takesName = false ∧ (d.live calls).started = false ∧
      Config.ofArguments (args.overridden (d.accepted calls ++ [settings])) = .ok c
  once : d.readings calls ≤ 1
  /-- From the moment when its sentences are found a document is the sequence of these sentences, made
  by the settings of that moment; nothing but the calls on the sequence changes it. -/
  reading : ∀ strategy, (d.live calls).read.result = .ok strategy →
    ∃ r, (d.live calls).sentences.1 = .ok r ∧ ∀ later,
      let e := (d.live calls).read.document.live later
      e.config = (d.live calls).config ∧
      e.reader = r.after (later.filterMap LifeCall.onReader?) ∧
      (d.live calls).read.document.outputs later = r.answers (later.filterMap LifeCall.onReader?) ∧
      (∀ settings, e.configure (.named settings) =
        ⟨.error (if (Arguments.named settings).takesName then .takenName else .started), e, []⟩) ∧
      e.read = ⟨.error .alreadyRead, e, []⟩
  closed : ∀ call later, call.isClose = true →
    (((d.live calls).afterCall call).live later).isClosed = true

/-- A document over a stream has the settings that it is made with. -/
theorem config_of_ofStream {strategies : Strategies} {kind : Data} {c : Config} {stream : TextStream}
    {d : Document} (h : ofStream strategies kind c (some stream) = .ok d) : d.config = c := by
  simp only [ofStream, ofSource, bind, Except.bind] at h
  split at h
  · simp at h
  · split at h
    · simp [throw, throwThe, MonadExceptOf.throw] at h
    · rw [← Except.ok.inj h]

/-- The life of every document over a stream goes this way. -/
theorem lifeCycle [PatternHost] {strategies : Strategies} {kind : Data} {args : Arguments} {c : Config}
    {stream : TextStream} {d : Document} (hc : Config.ofArguments args = .ok c)
    (hd : ofStream strategies kind c (some stream) = .ok d) (calls : List LifeCall) :
    LifeCycle args d calls := by
  rw [← config_of_ofStream hd] at hc
  have hlive := ofArguments_live hc calls
  constructor
  · exact Config.issues_of_ofArguments hlive
  · exact hlive
  · intro settings fault h
    exact configure_of_error _ h
  · intro settings c'
    rw [configure_eq_ok_iff, Config.override_eq_ok_iff hlive, Arguments.overridden,
      Arguments.overridden, List.foldl_append]
    rfl
  · exact readings_le_one d calls
  · intro strategy h
    obtain ⟨-, hr⟩ := (d.live calls).read_of_ok h
    have hstarted := (d.live calls).started_read
    refine ⟨_, hr, fun later => ?_⟩
    have he := live_of_started hstarted later
    have hs : ((d.live calls).read.document.live later).started = true := by rw [he]; exact hstarted
    refine ⟨by rw [he]; exact (d.live calls).config_read, by rw [he], outputs_of_started hstarted later,
      fun settings => configure_of_started _ hs _, read_of_started _ hs⟩
  · intro call later h
    apply isClosed_live
    cases call with
    | close => exact (d.live calls).isClosed_close
    | leave => exact (d.live calls).isClosed_close
    | read => exact absurd h Bool.false_ne_true
    | hasNext => exact absurd h Bool.false_ne_true
    | next => exact absurd h Bool.false_ne_true
    | enter => exact absurd h Bool.false_ne_true

/-- A document whose settings are replaced wrongly, then rightly, then too late. -/
theorem lifeCycle_of_text :
    let args : Arguments := Arguments.named [("explicit_delimiter".toList, .data (.text ['|']))]
    let c : Config := { explicitDelimiter := some ['|'] }
    let d : Document := ⟨.plain, .wholeText, c, .waiting (.ofText "a | b".toList), false⟩
    let wrong : List (Text × Argument) := [("tag_delimiter".toList, .data (.text ['|']))]
    let right : List (Text × Argument) := [("tokenizer".toList, .data (.text "none".toList))]
    let calls : List LifeCall :=
      [.configure wrong, .configure right, .call .read, .configure wrong, .call .read, .call .leave]
    Config.ofArguments args = .ok c ∧
      ofStream Strategies.standard (.text "plain".toList) c (some (.ofText "a | b".toList)) = .ok d ∧
      (d.accepted calls).length = 1 ∧ d.readings calls = 1 ∧ LifeCycle args d calls := by
  intro args c d wrong right calls
  have hc : Config.ofArguments args = .ok c := rfl
  have hd : ofStream Strategies.standard (.text "plain".toList) c
      (some (.ofText "a | b".toList)) = .ok d := rfl
  exact ⟨hc, hd, by decide +kernel, by decide +kernel, lifeCycle hc hd calls⟩

end Document

end SentenceReader
