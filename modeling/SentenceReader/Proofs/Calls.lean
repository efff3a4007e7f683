import SentenceReader.Proofs.LookingAhead

/-! Calls on a sequence, in any order. A sequence that looks ahead tells its items one by one however
it is asked, and it has come to its end exactly if an answer said so. -/
namespace SentenceReader

inductive Call where
  /-- Asks whether there is another item. -/
  | hasNext
  /-- Asks for the next item. -/
  | next
  deriving DecidableEq, Repr

/-- What a call finds out: whether there is another item, or the item. -/
inductive Found (α : Type) where
  | more (there : Bool)
  | item (a : α)
  deriving DecidableEq, Repr

abbrev CallAnswer (α : Type) := Except Fault (Found α)

namespace CallAnswer

variable {α : Type}

def item? : CallAnswer α → Option α
  | .ok (.item a) => some a
  | _ => none

/-- Whether an answer says that there are no more items, or that the stream could not be read. -/
def isEnd : CallAnswer α → Bool
  | .ok (.more there) => !there
  | .ok (.item _) => false
  | .error fault => fault = .exhausted || fault.isUnreadable

/-- Whether an answer says that the stream could not be read. -/
def isFailure : CallAnswer α → Bool
  | .ok _ => false
  | .error fault => fault.isUnreadable

end CallAnswer

/-- The answer of a sequence that has come to its end. -/
def Call.atEnd {α : Type} : Call → CallAnswer α
  | hasNext => .ok (.more false)
  | next => .error .exhausted

theorem Call.eq_exhausted_of_atEnd {α : Type} {call : Call} {fault : Fault}
    (h : (call.atEnd : CallAnswer α) = .error fault) : fault = .exhausted := by
  cases call with
  | hasNext => simp [atEnd] at h
  | next => exact (Except.error.inj h).symm

/-- The two calls that a sequence answers. -/
structure Calls (σ α : Type) where
  hasNext : σ → Reply σ Bool
  next : σ → Reply σ α

namespace Calls

variable {σ α : Type} (q : Calls σ α)

/-- The answer to a call, and the sequence afterwards. -/
def ask (s : σ) : Call → CallAnswer α × σ
  | .hasNext => ((q.hasNext s).result.map .more, (q.hasNext s).state)
  | .next => ((q.next s).result.map .item, (q.next s).state)

def after (s : σ) : List Call → σ
  | [] => s
  | call :: calls => after (q.ask s call).2 calls

def answers (s : σ) : List Call → List (CallAnswer α)
  | [] => []
  | call :: calls => (q.ask s call).1 :: answers (q.ask s call).2 calls

/-- These are the items of the sequence, however it is asked for them. Of the calls so far only those
for the next item count: the items that were given out are the first ones, as many as were asked
for, and the answers to the calls that may follow depend on the items behind them. -/
structure Tells (s : σ) (items : List α) : Prop where
  given : ∀ calls, (q.answers s calls).filterMap CallAnswer.item? = items.take (calls.count .next)
  hasNext : ∀ calls,
    (q.hasNext (q.after s calls)).result = .ok (decide (calls.count .next < items.length))
  next : ∀ calls, (q.next (q.after s calls)).result =
    match items[calls.count .next]? with
    | some a => .ok a
    | none => .error .exhausted

@[simp] theorem after_append (s : σ) (calls later : List Call) :
    q.after s (calls ++ later) = q.after (q.after s calls) later := by
  induction calls generalizing s with
  | nil => rfl
  | cons call calls ih => exact ih (q.ask s call).2

/-- What every call keeps is kept by all of them. -/
theorem after_of_ask {p : σ → Prop} (hp : ∀ s call, p s → p (q.ask s call).2) {s : σ} (h : p s)
    (calls : List Call) : p (q.after s calls) := by
  induction calls generalizing s with
  | nil => exact h
  | cons call calls ih => exact ih (hp s call h)

end Calls

namespace LookAhead

variable {σ α : Type} (l : LookAhead σ α)

def calls : Calls σ α := ⟨l.hasNext, l.next⟩

/-- What is answered when the next item was looked for. -/
def answer (s : σ) : Call → CallAnswer α × σ
  | .hasNext => (.ok (.more (l.ready s).isSome), s)
  | .next =>
    match l.ready s with
    | none => (.error .exhausted, s)
    | some a => (.ok (.item a), l.take s)

theorem ask_of_ok {s : σ} (h : (l.fill s).result = .ok ()) (call : Call) :
    l.calls.ask s call = l.answer (l.fill s).state call := by
  cases call with
  | hasNext => simp [Calls.ask, calls, hasNext, Reply.andThen, h, Reply.after, answer, Except.map]
  | next =>
    simp only [Calls.ask, calls, next, Reply.andThen, h, Reply.after, answer]
    cases l.ready (l.fill s).state <;> rfl

theorem ask_of_error {s : σ} {fault : Fault} (h : (l.fill s).result = .error fault) (call : Call) :
    l.calls.ask s call = (.error fault, (l.fill s).state) := by
  cases call with
  | hasNext => simp [Calls.ask, calls, hasNext, Reply.andThen, h, Except.map]
  | next => simp [Calls.ask, calls, next, Reply.andThen, h, Except.map]

section Tells

variable {s : σ} {items : List α}

/-- A call answers by the items that are left; only the call for the next one takes one away. -/
theorem ask_of_gives (h : Reply.Gives l.next .exhausted s items) (call : Call) :
    (l.calls.ask s call).1.item? = (match call with | .hasNext => none | .next => items.head?) ∧
      Reply.Gives l.next .exhausted (l.calls.ask s call).2
        (items.drop ([call].count .next)) := by
  obtain ⟨hf, hr⟩ := l.fill_of_gives h
  have hg := l.gives_fill h
  rw [l.ask_of_ok hf]
  cases call with
  | hasNext => exact ⟨rfl, hg⟩
  | next =>
    cases items with
    | nil =>
      rw [List.head?_nil] at hr
      simp only [answer, hr]
      exact ⟨rfl, hg⟩
    | cons a items =>
      rw [List.head?_cons] at hr
      have hn := hg.2
      simp only [next, Reply.andThen, l.fill_settled s hf, Reply.after, hr] at hn
      simp only [answer, hr]
      exact ⟨rfl, hn⟩

theorem gives_after (h : Reply.Gives l.next .exhausted s items) (calls : List Call) :
    Reply.Gives l.next .exhausted (l.calls.after s calls) (items.drop (calls.count .next)) := by
  induction calls generalizing s items with
  | nil => exact h
  | cons call calls ih =>
    have hc := ih (l.ask_of_gives h call).2
    rwa [List.drop_drop, ← List.count_append, List.singleton_append] at hc

theorem given_of_gives (h : Reply.Gives l.next .exhausted s items) (calls : List Call) :
    (l.calls.answers s calls).filterMap CallAnswer.item? = items.take (calls.count .next) := by
  induction calls generalizing s items with
  | nil => rfl
  | cons call calls ih =>
    obtain ⟨ha, hg⟩ := l.ask_of_gives h call
    rw [Calls.answers, List.filterMap_cons, ih hg, ha]
    cases call with
    | hasNext => rfl
    | next => cases items <;> simp

/-- What a sequence gives out when it is just asked for one item after the other is what it tells
however it is asked. -/
theorem tells_of_gives (h : Reply.Gives l.next .exhausted s items) : l.calls.Tells s items where
  given := l.given_of_gives h
  hasNext calls := by
    have hn := (l.hasNext_of_gives (l.gives_after h calls)).1
    refine hn.trans (congrArg Except.ok ?_)
    rw [Bool.eq_iff_iff]
    simp
  next calls := by
    have hg := l.gives_after h calls
    rw [← List.head?_drop]
    cases hd : items.drop (calls.count .next) with
    | nil =>
      rw [hd] at hg
      exact hg
    | cons a later =>
      rw [hd] at hg
      exact hg.1

end Tells

/-- What filling leads to: a good state, which is at its end where there is no item, or where the stream
cannot be read. -/
def Settles (ready : σ → Option α) (finished : σ → Bool) (good : σ → Prop) (r : Reply σ Unit) : Prop :=
  good r.state ∧ finished r.state =
    match r.result with
    | .ok () => (ready r.state).isNone
    | .error fault => fault.isUnreadable

theorem settles_of_settled {ready : σ → Option α} {finished : σ → Bool} {good : σ → Prop} {s : σ}
    (hs : ((ready s).isSome || finished s) = true) (hg : good s)
    (hr : finished s = true → ready s = none) : Settles ready finished good ⟨.ok (), s, []⟩ := by
  refine ⟨hg, ?_⟩
  cases hf : finished s with
  | true => rw [hr hf, Option.isNone_none]
  | false =>
    rw [hf, Bool.or_false] at hs
    simpa using hs

/-- When a sequence comes to its end. The good states are those that the calls lead to. -/
structure Ends (finished : σ → Bool) (good : σ → Prop) : Prop where
  ready_of_finished : ∀ s, good s → finished s = true → l.ready s = none
  fill_of_finished : ∀ s, finished s = true → l.fill s = ⟨.ok (), s, []⟩
  settles_fill : ∀ s, good s → Settles l.ready finished good (l.fill s)
  good_take : ∀ s, good s → good (l.take s)
  finished_take : ∀ s, finished (l.take s) = finished s

namespace Ends

variable {l} {finished : σ → Bool} {good : σ → Prop} (e : l.Ends finished good) {s : σ}
include e

theorem good_ask (hs : good s) (call : Call) : good (l.calls.ask s call).2 := by
  have hg := (e.settles_fill s hs).1
  cases hf : (l.fill s).result with
  | error fault => rwa [l.ask_of_error hf]
  | ok u =>
    rw [l.ask_of_ok hf]
    cases call with
    | hasNext => exact hg
    | next =>
      simp only [answer]
      cases l.ready (l.fill s).state with
      | none => exact hg
      | some a => exact e.good_take _ hg

/-- A sequence has come to its end right after a call exactly if the answer says so. -/
theorem finished_ask (hs : good s) (call : Call) :
    finished (l.calls.ask s call).2 = (l.calls.ask s call).1.isEnd := by
  have hend := (e.settles_fill s hs).2
  cases hf : (l.fill s).result with
  | error fault =>
    have hne : fault ≠ .exhausted := by
      rintro rfl
      exact l.fill_ne_exhausted s hf
    rw [hf] at hend
    rw [l.ask_of_error hf, hend]
    simp [CallAnswer.isEnd, hne]
  | ok u =>
    rw [hf] at hend
    rw [l.ask_of_ok hf]
    cases call with
    | hasNext => simp [answer, hend, CallAnswer.isEnd]
    | next =>
      cases ha : l.ready (l.fill s).state <;>
        simp [answer, ha, hend, e.finished_take, CallAnswer.isEnd]

/-- A call that comes to the end when it looks for the next item says so, or tells why it failed. -/
theorem ask_of_fill_finished (hs : good s) (h : finished (l.fill s).state = true) (call : Call) :
    (l.calls.ask s call).2 = (l.fill s).state ∧
      ((l.calls.ask s call).1 = call.atEnd ∨
        ∃ fault, (l.fill s).result = .error fault ∧ (l.calls.ask s call).1 = .error fault) := by
  have hend := (e.settles_fill s hs).2
  cases hf : (l.fill s).result with
  | error fault =>
    rw [l.ask_of_error hf]
    exact ⟨rfl, .inr ⟨fault, rfl, rfl⟩⟩
  | ok u =>
    rw [hf, h] at hend
    have hr : l.ready (l.fill s).state = none := Option.isNone_iff_eq_none.1 hend.symm
    rw [l.ask_of_ok hf]
    cases call <;> simp [answer, hr, Call.atEnd]

/-- At its end a sequence stays as it is, and says at every call that it has ended. -/
theorem ask_of_finished (hs : good s) (h : finished s = true) (call : Call) :
    l.calls.ask s call = (call.atEnd, s) := by
  have hf := e.fill_of_finished s h
  have hr := e.ready_of_finished s hs h
  rw [l.ask_of_ok (by rw [hf]), hf]
  cases call <;> simp [answer, hr, Call.atEnd]

theorem after_of_finished (hs : good s) (h : finished s = true) (calls : List Call) :
    l.calls.after s calls = s := by
  induction calls with
  | nil => rfl
  | cons call calls ih => rw [Calls.after, e.ask_of_finished hs h, ih]

/-- A sequence has come to its end after some calls exactly if an answer to them said so. -/
theorem finished_after (hs : good s) (h : finished s = false) (calls : List Call) :
    finished (l.calls.after s calls) = (l.calls.answers s calls).any CallAnswer.isEnd := by
  induction calls generalizing s with
  | nil => exact h
  | cons call calls ih =>
    have hg := e.good_ask hs call
    rw [Calls.after, Calls.answers, List.any_cons, ← e.finished_ask hs call]
    cases hc : finished (l.calls.ask s call).2 with
    | true => rw [e.after_of_finished hg hc, hc, Bool.true_or]
    | false => rw [ih hg hc, Bool.false_or]

end Ends

end LookAhead

end SentenceReader
