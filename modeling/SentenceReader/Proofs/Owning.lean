import SentenceReader.Proofs.Stream.Coupling

/-! Sequences that own a stream. They close it at their end, once and for good, and a read that fails
takes nothing back of what they have given out. -/
namespace SentenceReader

variable {σ α : Type}

namespace Coupling

/-- Two sequences that are the same but for their streams: these are tied, or they were closed at the
end of both. -/
inductive Held (p : Coupling) (stream : σ → TextStream) (put : σ → TextStream → σ)
    (finished : σ → Bool) : σ → σ → Prop
  | reading (t : σ) {x : TextStream} (hf : finished t = false) (h : p.tied x (stream t)) :
    Held p stream put finished (put t x) t
  | ended (t : σ) {x y : TextStream} (hf : finished t = true) (h : p.tied x y)
      (ht : stream t = y.release) : Held p stream put finished (put t x.release) t

/-- A sequence that has ended because its stream broke off. -/
structure Stopped (p : Coupling) (stream : σ → TextStream) (finished : σ → Bool)
    (ready : σ → Option α) (s : σ) : Prop where
  finished : finished s = true
  ready : ready s = none
  stream : ∃ x, p.broken x ∧ stream s = x.release

end Coupling

/-- A sequence that looks ahead over a stream of its own. -/
structure StreamOwner (σ α : Type) extends LookAhead σ α where
  stream : σ → TextStream
  put : σ → TextStream → σ
  finished : σ → Bool
  good : σ → Prop
  put_stream : ∀ s, put s (stream s) = s
  stream_put : ∀ s x, stream (put s x) = x
  ready_put : ∀ s x, ready (put s x) = ready s
  take_put : ∀ s x, take (put s x) = put (take s) x
  stream_take : ∀ s, stream (take s) = stream s
  ends : toLookAhead.Ends finished good
  fill_follows : ∀ (p : Coupling) s t, p.Held stream put finished s t →
    Follows (.unreadable .device) (p.Held stream put finished) (p.Stopped stream finished ready)
      ((fill s).result, (fill s).state) ((fill t).result, (fill t).state)

namespace StreamOwner

variable (o : StreamOwner σ α) (p : Coupling) {s t : σ}

abbrev Held : σ → σ → Prop := p.Held o.stream o.put o.finished

abbrev Stopped : σ → Prop := p.Stopped o.stream o.finished o.ready

theorem ready_eq (h : o.Held p s t) : o.ready s = o.ready t := by
  cases h <;> rw [o.ready_put]

theorem held_take (h : o.Held p s t) : o.Held p (o.take s) (o.take t) := by
  cases h with
  | reading t hf h =>
    rw [o.take_put]
    rw [← o.stream_take] at h
    exact .reading (o.take t) ((o.ends.finished_take t).trans hf) h
  | ended t hf h ht =>
    rw [o.take_put]
    exact .ended (o.take t) ((o.ends.finished_take t).trans hf) h ((o.stream_take t).trans ht)

theorem ask_follows (h : o.Held p s t) (call : Call) :
    Follows (.unreadable .device) (o.Held p) (o.Stopped p) (o.calls.ask s call)
      (o.calls.ask t call) :=
  o.follows_ask (fun _ _ => o.ready_eq p) (fun _ _ => o.held_take p) (o.fill_follows p s t h) call

theorem ask_of_stopped (h : o.Stopped p s) (call : Call) : o.calls.ask s call = (call.atEnd, s) := by
  have hf := o.ends.fill_of_finished s h.finished
  rw [o.ask_of_ok (by rw [hf]), hf]
  cases call <;> simp [LookAhead.answer, h.ready, Call.atEnd]

/-- How a run of calls goes over a stream that may break off, seen from a run over one that it is
coupled to. -/
theorem answers_of_held (h : o.Held p s t) (calls : List Call) :
    o.calls.answers s calls = o.calls.answers t calls ∧
        o.Held p (o.calls.after s calls) (o.calls.after t calls) ∨
      o.Stopped p (o.calls.after s calls) ∧ ∃ before call later, calls = before ++ call :: later ∧
        o.calls.answers s calls =
          o.calls.answers t before ++ .error (.unreadable .device) :: later.map Call.atEnd := by
  refine Calls.answers_of_follows (fun _ _ call h => o.ask_follows p h call) ?_ h calls
  intro s call h
  rw [o.ask_of_stopped p h call]
  exact ⟨rfl, h⟩

/-- Two sequences that are held together read on in tied streams, or have closed tied ones. -/
theorem stream_of_held (h : o.Held p s t) :
    o.finished t = false ∧ p.tied (o.stream s) (o.stream t) ∨
      o.finished t = true ∧ ∃ x y, p.tied x y ∧ o.stream s = x.release ∧ o.stream t = y.release := by
  cases h with
  | reading t hf h => exact .inl ⟨hf, by rwa [o.stream_put]⟩
  | ended t hf h ht => exact .inr ⟨hf, _, _, h, o.stream_put _ _, ht⟩

theorem held_self (hf : o.finished s = false) (h : p.tied (o.stream s) (o.stream s)) :
    o.Held p s s := by
  have hs : o.Held p (o.put s (o.stream s)) s := .reading s hf h
  rwa [o.put_stream] at hs

end StreamOwner

/-- The stream of a sequence is closed by the call that finds its end or cannot read on, and by no
other one. From then on it is left alone; and no answer depends on how closing goes. -/
structure Calls.ReleasesOnce (q : Calls σ α) (stream : σ → TextStream)
    (put : σ → TextStream → σ) (finished : σ → Bool) (s : σ) : Prop where
  finished_after : ∀ calls, finished (q.after s calls) = (q.answers s calls).any CallAnswer.isEnd
  closes_after : ∀ calls,
    (stream (q.after s calls)).closes = (stream s).closes + (finished (q.after s calls)).toNat
  stream_after : ∀ calls more, finished (q.after s calls) = true →
    stream (q.after s (calls ++ more)) = stream (q.after s calls)
  answers_put : ∀ closeFails calls,
    q.answers (put s { stream s with closeFails }) calls = q.answers s calls

theorem Calls.ReleasesOnce.closes_of_isEnd {q : Calls σ α} {stream : σ → TextStream}
    {put : σ → TextStream → σ} {finished : σ → Bool} {s : σ} (h : q.ReleasesOnce stream put finished s)
    {calls : List Call} (he : (q.answers s calls).any CallAnswer.isEnd = true) (more : List Call) :
    (stream (q.after s (calls ++ more))).closes = (stream s).closes + 1 := by
  have hf := (h.finished_after calls).trans he
  rw [h.stream_after calls more hf, h.closes_after, hf, Bool.toNat_true]

/-- One sequence answers as another one does until it cannot make a certain read: the call that would
make it fails, those behind it find that there is nothing more. -/
structure Calls.BreaksOff (q : Calls σ α) (stream : σ → TextStream) (k : Nat) (s t : σ) : Prop where
  answers_of_lt : ∀ calls, (stream (q.after s calls)).reads < k → q.answers s calls = q.answers t calls
  answers_of_le : ∀ calls, k ≤ (stream (q.after s calls)).reads →
    ∃ before call later, calls = before ++ call :: later ∧
      q.answers s calls = q.answers t before ++ .error (.unreadable .device) :: later.map Call.atEnd

namespace StreamOwner

variable (o : StreamOwner σ α) {s : σ}

theorem closes_after (hf : o.finished s = false) (calls : List Call) :
    (o.stream (o.calls.after s calls)).closes =
        (o.stream s).closes + (o.finished (o.calls.after s calls)).toNat ∧
      (o.stream (o.calls.after s calls)).closed =
        ((o.stream s).closed || o.finished (o.calls.after s calls)) := by
  let p := Coupling.closings (o.stream s).closes (o.stream s).closed
  have h : o.Held p s s := o.held_self p hf ⟨rfl, rfl, rfl⟩
  rcases o.answers_of_held p h calls with ⟨-, h⟩ | ⟨h, -⟩
  · rcases o.stream_of_held p h with ⟨hf, -, hn, hc⟩ | ⟨hf, x, y, ⟨-, hn, hc⟩, -, hy⟩
    · simp [hf, hn, hc]
    · simp [hf, hy, hn]
  · obtain ⟨x, hx, -⟩ := h.stream
    exact hx.elim

theorem ask_of_finished (hf : o.finished s = true) (call : Call) :
    o.stream (o.calls.ask s call).2 = o.stream s ∧ o.finished (o.calls.ask s call).2 = true := by
  have hfill := o.ends.fill_of_finished s hf
  rw [o.ask_of_ok (by rw [hfill]), hfill]
  cases call with
  | hasNext => exact ⟨rfl, hf⟩
  | next =>
    simp only [LookAhead.answer]
    cases o.ready s with
    | none => exact ⟨rfl, hf⟩
    | some a => exact ⟨o.stream_take s, (o.ends.finished_take s).trans hf⟩

theorem answers_put_closeFails (hf : o.finished s = false) (closeFails : Bool) (calls : List Call) :
    o.calls.answers (o.put s { o.stream s with closeFails }) calls = o.calls.answers s calls := by
  have h : o.Held .closeFailures (o.put s { o.stream s with closeFails }) s :=
    .reading s hf ⟨closeFails, rfl⟩
  rcases o.answers_of_held .closeFailures h calls with ⟨ha, -⟩ | ⟨h, -⟩
  · exact ha
  · obtain ⟨x, hx, -⟩ := h.stream
    exact hx.elim

theorem releasesOnce (hs : o.good s) (hf : o.finished s = false) :
    o.calls.ReleasesOnce o.stream o.put o.finished s where
  finished_after := o.ends.finished_after hs hf
  closes_after calls := (o.closes_after hf calls).1
  stream_after calls more hd := by
    have hg := o.calls.after_of_ask (p := o.good) (fun _ call h => o.ends.good_ask h call) hs calls
    rw [Calls.after_append, o.ends.after_of_finished hg hd]
  answers_put := o.answers_put_closeFails hf

theorem breaksOff {t : σ} {x : TextStream} {k : Nat} (hf : o.finished t = false)
    (h : (Coupling.untilRead k).tied x (o.stream t)) :
    o.calls.BreaksOff o.stream k (o.put t x) t := by
  have hrun := o.answers_of_held (.untilRead k) (.reading t hf h)
  -- the number of reads tells a run that goes on from one that is broken off
  have hlt {s t : σ} (h : o.Held (.untilRead k) s t) : (o.stream s).reads < k := by
    rcases o.stream_of_held _ h with ⟨-, -, hk, -⟩ | ⟨-, x, y, ⟨-, hk, -⟩, hx, -⟩
    · exact hk.reads_lt
    · rw [hx]
      exact hk.reads_lt
  have heq {s : σ} (h : o.Stopped (.untilRead k) s) : (o.stream s).reads = k := by
    obtain ⟨x, hk, hx⟩ := h.stream
    rw [hx]
    exact hk
  constructor
  · intro calls hr
    rcases hrun calls with ⟨ha, -⟩ | ⟨hs, -⟩
    · exact ha
    · exact absurd (heq hs) (Nat.ne_of_lt hr)
  · intro calls hr
    rcases hrun calls with ⟨-, hh⟩ | ⟨-, hb⟩
    · exact absurd (hlt hh) (Nat.not_lt.2 hr)
    · exact hb

end StreamOwner

end SentenceReader
