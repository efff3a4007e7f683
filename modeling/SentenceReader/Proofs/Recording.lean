import Mathlib.Data.List.Forall2
import SentenceReader.Proofs.Calls
import SentenceReader.Token.Basic

/-! What happens at calls on a sequence. Everything happens while the next item is looked for, so that the
calls of a run record a beginning of what is recorded when the sequence is asked to its end, however they
are mixed; and the lengths that they record are those of the sentences that were found. -/
namespace SentenceReader

namespace Event

def sentenceLength? : Event → Option Nat
  | sentenceFinished length => some length
  | _ => none

/-- The lengths of the sentences that some events tell of. -/
def sentenceLengths (events : List Event) : List Nat := events.filterMap sentenceLength?

@[simp] theorem sentenceLengths_append (events more : List Event) :
    sentenceLengths (events ++ more) = sentenceLengths events ++ sentenceLengths more :=
  List.filterMap_append

/-- Two events that are the same, or differ in the length of the sentence that they tell of. -/
inductive Alike : Event → Event → Prop
  | same (e : Event) : Alike e e
  | sentences (m n : Nat) : Alike (sentenceFinished m) (sentenceFinished n)

theorem forall₂_alike_self (events : List Event) : List.Forall₂ Alike events events := by
  induction events with
  | nil => exact .nil
  | cons e events ih => exact .cons (.same e) ih

end Event

namespace Calls

variable {σ α : Type} (q : Calls σ α)

def happens (s : σ) : Call → List Event
  | .hasNext => (q.hasNext s).events
  | .next => (q.next s).events

/-- All that happens at some calls, in order. -/
def record (s : σ) : List Call → List Event
  | [] => []
  | call :: calls => q.happens s call ++ record (q.ask s call).2 calls

end Calls

namespace LookAhead

variable {σ α : Type} (l : LookAhead σ α)

/-- Whatever is asked for, it is the search for the next item at which things happen. -/
theorem happens_eq (s : σ) (call : Call) : l.calls.happens s call = (l.fill s).events := by
  cases hf : (l.fill s).result with
  | error fault => cases call <;> simp [Calls.happens, calls, hasNext, next, Reply.andThen, hf]
  | ok u =>
    cases call with
    | hasNext => simp [Calls.happens, calls, hasNext, Reply.andThen, hf, Reply.after]
    | next =>
      simp only [Calls.happens, calls, next, Reply.andThen, hf, Reply.after]
      cases l.ready (l.fill s).state <;> simp

/-- The next item if there is one, as somebody gets it who asks first whether there is one. -/
def next? (s : σ) : Reply σ (Option α) :=
  (l.hasNext s).andThen fun there s =>
    if there then (l.next s).andThen fun a s => ⟨.ok (some a), s, []⟩ else ⟨.ok none, s, []⟩

/-- To ask first comes to one search: what it finds is taken away. -/
theorem next?_eq (s : σ) :
    l.next? s =
      match (l.fill s).result, l.ready (l.fill s).state with
      | .error fault, _ => ⟨.error fault, (l.fill s).state, (l.fill s).events⟩
      | .ok (), none => ⟨.ok none, (l.fill s).state, (l.fill s).events⟩
      | .ok (), some a => ⟨.ok (some a), l.take (l.fill s).state, (l.fill s).events⟩ := by
  cases hf : (l.fill s).result with
  | error fault => simp [next?, hasNext, Reply.andThen, hf]
  | ok u =>
    have hsettled := l.fill_settled s hf
    cases hr : l.ready (l.fill s).state <;>
      simp [next?, hasNext, next, Reply.andThen, Reply.after, hf, hr, hsettled]

/-- These events happen when a sequence is asked to its end. -/
inductive Records (l : LookAhead σ α) : σ → List Event → Prop
  | ends {s : σ} (ok : (l.fill s).result = .ok ()) (nothing : l.ready (l.fill s).state = none) :
    Records l s (l.fill s).events
  | finds {s : σ} {a : α} {rest : List Event} (ok : (l.fill s).result = .ok ())
    (found : l.ready (l.fill s).state = some a) (later : Records l (l.take (l.fill s).state) rest) :
    Records l s ((l.fill s).events ++ rest)

namespace Records

variable {l} {s : σ} {trace : List Event}

/-- Looking ahead takes what it records away from what is to be recorded. -/
theorem fill (h : l.Records s trace) :
    ∃ rest, trace = (l.fill s).events ++ rest ∧ l.Records (l.fill s).state rest := by
  cases h with
  | ends ok nothing =>
    have hf := l.fill_settled s ok
    have hlater : l.Records (l.fill s).state (l.fill (l.fill s).state).events :=
      .ends (by rw [hf]) (by rw [hf]; exact nothing)
    rw [hf] at hlater
    exact ⟨[], (List.append_nil _).symm, hlater⟩
  | @finds _ a rest ok found later =>
    have hf := l.fill_settled s ok
    have hlater : l.Records (l.fill s).state ((l.fill (l.fill s).state).events ++ rest) :=
      .finds (by rw [hf]) (by rw [hf]; exact found) (by rw [hf]; exact later)
    rw [hf] at hlater
    exact ⟨rest, rfl, hlater⟩

/-- A call records the beginning of what is to be recorded, and all that is left of it where its answer
says that the end was reached. -/
theorem ask (h : l.Records s trace) (call : Call) :
    ∃ rest, trace = l.calls.happens s call ++ rest ∧ l.Records (l.calls.ask s call).2 rest ∧
      ((l.calls.ask s call).1.isEnd = true → rest = []) := by
  rw [l.happens_eq]
  cases h with
  | ends ok nothing =>
    obtain ⟨rest, htrace, hrest⟩ := (Records.ends ok nothing).fill
    obtain rfl : rest = [] := List.append_right_eq_self.1 htrace.symm
    refine ⟨[], htrace, ?_, fun _ => rfl⟩
    rw [l.ask_of_ok ok]
    cases call <;> simpa [answer, nothing] using hrest
  | @finds _ a rest ok found later =>
    refine ⟨rest, rfl, ?_⟩
    rw [l.ask_of_ok ok]
    cases call with
    | hasNext =>
      obtain ⟨rest', htrace, hrest⟩ := (Records.finds ok found later).fill
      obtain rfl := List.append_cancel_left htrace
      exact ⟨hrest, by simp [answer, found, CallAnswer.isEnd]⟩
    | next =>
      simp only [answer, found]
      exact ⟨later, by simp [CallAnswer.isEnd]⟩

/-- Some calls record the beginning of what is to be recorded, and all of it where an answer to them says
that the end was reached. -/
theorem after (h : l.Records s trace) (calls : List Call) :
    ∃ rest, trace = l.calls.record s calls ++ rest ∧ l.Records (l.calls.after s calls) rest ∧
      ((l.calls.answers s calls).any CallAnswer.isEnd = true → rest = []) := by
  induction calls generalizing s trace with
  | nil => exact ⟨trace, rfl, h, by simp [Calls.answers]⟩
  | cons call calls ih =>
    obtain ⟨rest, rfl, hs, hend⟩ := h.ask call
    obtain ⟨rest', rfl, hs', hend'⟩ := ih hs
    refine ⟨rest', by rw [Calls.record, List.append_assoc], hs', fun he => ?_⟩
    rw [Calls.answers, List.any_cons, Bool.or_eq_true] at he
    rcases he with he | he
    · exact (List.append_eq_nil_iff.1 (hend he)).2
    · exact hend' he

end Records

/-- A sequence of sentences records the length of each sentence that it finds, and no other one. -/
structure Measures (l : LookAhead σ Sentence) (good : σ → Prop) : Prop where
  fill : ∀ s, good s → good (l.fill s).state ∧
    (l.ready s).toList.map List.length ++ Event.sentenceLengths (l.fill s).events =
      (l.ready (l.fill s).state).toList.map List.length
  failed : ∀ s fault, good s → (l.fill s).result = .error fault → l.ready (l.fill s).state = none
  take : ∀ s, good s → good (l.take s) ∧ l.ready (l.take s) = none

/-- Whoever asks first whether there is a sentence leaves none behind that waits. -/
theorem Measures.next? {l : LookAhead σ Sentence} {good : σ → Prop} (h : l.Measures good) {s : σ}
    (hs : good s) (hr : l.ready s = none) :
    good (l.next? s).state ∧ l.ready (l.next? s).state = none ∧
      Event.sentenceLengths (l.next? s).events =
        ((l.next? s).result.toOption.bind id).toList.map List.length := by
  obtain ⟨hgood, hlengths⟩ := h.fill s hs
  rw [hr, Option.toList_none, List.map_nil, List.nil_append] at hlengths
  rw [next?_eq]
  cases hf : (l.fill s).result with
  | error fault =>
    have hnone := h.failed s fault hs hf
    rw [hnone] at hlengths
    exact ⟨hgood, hnone, hlengths⟩
  | ok u =>
    cases hready : l.ready (l.fill s).state with
    | none =>
      rw [hready] at hlengths
      exact ⟨hgood, hready, hlengths⟩
    | some a =>
      obtain ⟨htake, hnone⟩ := h.take _ hgood
      rw [hready] at hlengths
      exact ⟨htake, hnone, hlengths⟩

/-- The lengths that calls record are those of the sentences that they give out, and of the one that was
found and is not asked for yet. -/
theorem Measures.sentenceLengths_record {l : LookAhead σ Sentence} {good : σ → Prop}
    (h : l.Measures good) {s : σ} (hs : good s) (calls : List Call) :
    (l.ready s).toList.map List.length ++ Event.sentenceLengths (l.calls.record s calls) =
      ((l.calls.answers s calls).filterMap CallAnswer.item? ++
        (l.ready (l.calls.after s calls)).toList).map List.length := by
  induction calls generalizing s with
  | nil => simp [Calls.record, Calls.answers, Calls.after, Event.sentenceLengths]
  | cons call calls ih =>
    obtain ⟨hgood, hfill⟩ := h.fill s hs
    have hask : good (l.calls.ask s call).2 ∧
        (l.ready (l.fill s).state).toList.map List.length =
          ((l.calls.ask s call).1.item?.toList ++
            (l.ready (l.calls.ask s call).2).toList).map List.length := by
      cases hf : (l.fill s).result with
      | error fault =>
        rw [l.ask_of_error hf]
        exact ⟨hgood, rfl⟩
      | ok u =>
        rw [l.ask_of_ok hf]
        cases call with
        | hasNext => exact ⟨hgood, rfl⟩
        | next =>
          cases hr : l.ready (l.fill s).state with
          | none => simp [answer, hr, hgood, CallAnswer.item?]
          | some a =>
            obtain ⟨htake, hnone⟩ := h.take _ hgood
            simp [answer, hr, htake, hnone, CallAnswer.item?]
    have hlater := ih hask.1
    rw [Calls.record, Calls.answers, Calls.after, Event.sentenceLengths_append, l.happens_eq,
      ← List.append_assoc, hfill, hask.2, List.map_append, List.append_assoc, hlater,
      List.filterMap_cons]
    cases (l.calls.ask s call).1.item? <;> simp

end LookAhead

namespace Reply

variable {σ τ α β γ δ : Type}

/-- A reply that is another one with its value and its state changed; what happens is alike. -/
structure Mirrors (f : α → β) (g : σ → τ) (r : Reply τ β) (r' : Reply σ α) : Prop where
  result : r.result = r'.result.map f
  state : r.state = g r'.state
  events : List.Forall₂ Event.Alike r.events r'.events

variable {f : α → β} {g : σ → τ} {r : Reply τ β} {r' : Reply σ α}

theorem Mirrors.mapState {σ' τ' : Type} (h : Mirrors f g r r') {p : τ → τ'} {p' : σ → σ'}
    {g' : σ' → τ'} (hp : p (g r'.state) = g' (p' r'.state)) :
    Mirrors f g' (r.mapState p) (r'.mapState p') :=
  ⟨h.result, (congrArg p h.state).trans hp, h.events⟩

theorem Mirrors.after {events events' : List Event} (he : List.Forall₂ Event.Alike events events')
    (h : Mirrors f g r r') : Mirrors f g (r.after events) (r'.after events') :=
  ⟨h.result, h.state, List.rel_append he h.events⟩

theorem Mirrors.andThen {f' : γ → δ} {next : β → τ → Reply τ δ} {next' : α → σ → Reply σ γ}
    (h : Mirrors f g r r')
    (hnext : ∀ a, r'.result = .ok a →
      Mirrors f' g (next (f a) (g r'.state)) (next' a r'.state)) :
    Mirrors f' g (r.andThen next) (r'.andThen next') := by
  have hresult := h.result
  unfold Reply.andThen
  cases hr : r'.result with
  | error fault =>
    rw [hr] at hresult
    simp only [hresult, Except.map]
    exact ⟨rfl, h.state, h.events⟩
  | ok a =>
    rw [hr] at hresult
    simp only [hresult, Except.map, h.state]
    exact (hnext a hr).after h.events

end Reply

def CallAnswer.mapItem {α β : Type} (f : α → β) : CallAnswer α → CallAnswer β
  | .ok (.more there) => .ok (.more there)
  | .ok (.item a) => .ok (.item (f a))
  | .error fault => .error fault

namespace LookAhead

variable {σ α : Type} {l : LookAhead σ α}

/-- Sequences that can be changed so that they give out other items, and do the same for the rest. -/
structure Transforms (l : LookAhead σ α) (f : α → α) (change : σ → σ) (good : σ → Prop) : Prop where
  fill : ∀ s, good s → good (l.fill s).state ∧ (l.fill (change s)).Mirrors id change (l.fill s)
  ready : ∀ s, l.ready (change s) = (l.ready s).map f
  take : ∀ s, good s → good (l.take s) ∧ l.take (change s) = change (l.take s)

namespace Transforms

variable {f : α → α} {change : σ → σ} {good : σ → Prop} (h : l.Transforms f change good) {s : σ}
include h

theorem hasNext (hs : good s) :
    good (l.hasNext s).state ∧ (l.hasNext (change s)).Mirrors id change (l.hasNext s) := by
  obtain ⟨hgood, hfill⟩ := h.fill s hs
  refine ⟨?_, hfill.andThen fun _ _ => ⟨?_, rfl, .nil⟩⟩
  · unfold LookAhead.hasNext Reply.andThen
    split <;> exact hgood
  · simp [h.ready, Except.map]

theorem next (hs : good s) :
    good (l.next s).state ∧ (l.next (change s)).Mirrors f change (l.next s) := by
  obtain ⟨hgood, hfill⟩ := h.fill s hs
  obtain ⟨htake, hchange⟩ := h.take _ hgood
  constructor
  · unfold LookAhead.next Reply.andThen
    split
    · exact hgood
    · cases hr : l.ready (l.fill s).state <;> simpa [Reply.after, hr]
  · refine hfill.andThen fun _ _ => ?_
    rw [h.ready]
    cases l.ready (l.fill s).state with
    | none => exact ⟨rfl, rfl, .nil⟩
    | some a => exact ⟨rfl, hchange, .nil⟩

theorem next? (hs : good s) :
    good (l.next? s).state ∧ (l.next? (change s)).Mirrors (Option.map f) change (l.next? s) := by
  obtain ⟨hgood, hresult, hstate, hevents⟩ := h.fill s hs
  obtain ⟨htake, hchange⟩ := h.take _ hgood
  rw [next?_eq, next?_eq, hresult, hstate, h.ready]
  cases (l.fill s).result with
  | error fault => exact ⟨hgood, rfl, rfl, hevents⟩
  | ok u =>
    cases l.ready (l.fill s).state with
    | none => exact ⟨hgood, rfl, rfl, hevents⟩
    | some a => exact ⟨htake, rfl, hchange, hevents⟩

/-- A call has the same answer but for its item, and the same happens but for the length of a sentence. -/
theorem ask (hs : good s) (call : Call) :
    good (l.calls.ask s call).2 ∧ (l.calls.ask (change s) call).1 = (l.calls.ask s call).1.mapItem f ∧
      (l.calls.ask (change s) call).2 = change (l.calls.ask s call).2 ∧
      List.Forall₂ Event.Alike (l.calls.happens (change s) call) (l.calls.happens s call) := by
  cases call with
  | hasNext =>
    obtain ⟨hgood, hresult, hstate, hevents⟩ := h.hasNext hs
    refine ⟨hgood, ?_, hstate, hevents⟩
    simp only [Calls.ask, calls, hresult]
    cases (l.hasNext s).result <;> rfl
  | next =>
    obtain ⟨hgood, hresult, hstate, hevents⟩ := h.next hs
    refine ⟨hgood, ?_, hstate, hevents⟩
    simp only [Calls.ask, calls, hresult]
    cases (l.next s).result <;> rfl

/-- What one call keeps a run of calls keeps. -/
theorem run (hs : good s) (calls : List Call) :
    l.calls.answers (change s) calls = (l.calls.answers s calls).map (CallAnswer.mapItem f) ∧
      l.calls.after (change s) calls = change (l.calls.after s calls) ∧
      List.Forall₂ Event.Alike (l.calls.record (change s) calls) (l.calls.record s calls) := by
  induction calls generalizing s with
  | nil => exact ⟨rfl, rfl, .nil⟩
  | cons call calls ih =>
    obtain ⟨hgood, hanswer, hstate, hevents⟩ := h.ask hs call
    obtain ⟨hanswers, hafter, hrecord⟩ := ih hgood
    simp only [Calls.answers, Calls.after, Calls.record, hanswer, hstate, hanswers, hafter,
      List.map_cons]
    exact ⟨trivial, trivial, List.rel_append hevents hrecord⟩

/-- A changed sequence gives out the items that it gives out otherwise, each of them changed, and ends
with the same fault. -/
theorem gives_iff (hs : good s) (ending : Fault) (items : List α) :
    Reply.Gives l.next ending (change s) items ↔
      ∃ found, Reply.Gives l.next ending s found ∧ items = found.map f := by
  constructor
  · intro hg
    induction items generalizing s with
    | nil =>
      refine ⟨[], ?_, rfl⟩
      rw [Reply.Gives, (h.next hs).2.result] at hg
      cases hr : (l.next s).result <;> simp_all [Reply.Gives, Except.map]
    | cons a items ih =>
      obtain ⟨hgood, hresult, hstate, -⟩ := h.next hs
      obtain ⟨ha, hlater⟩ := hg
      rw [hstate] at hlater
      obtain ⟨found, hfound, rfl⟩ := ih hgood hlater
      rw [hresult] at ha
      cases hr : (l.next s).result with
      | error fault => simp [hr, Except.map] at ha
      | ok b =>
        rw [hr] at ha
        exact ⟨b :: found, ⟨hr, hfound⟩, by rw [List.map_cons, ← Except.ok.inj ha]⟩
  · rintro ⟨found, hg, rfl⟩
    induction found generalizing s with
    | nil =>
      rw [Reply.Gives] at hg
      rw [List.map_nil, Reply.Gives, (h.next hs).2.result, hg]
      rfl
    | cons b found ih =>
      obtain ⟨hgood, hresult, hstate, -⟩ := h.next hs
      obtain ⟨hb, hlater⟩ := hg
      refine ⟨?_, ?_⟩
      · rw [hresult, hb]
        rfl
      · rw [hstate]
        exact ih hgood hlater

end Transforms

end LookAhead

end SentenceReader
