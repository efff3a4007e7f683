import SentenceReader.Proofs.Giving

/-! Sequences that look ahead. Such a sequence finds its next item before it says whether there is
one, and keeps it until it is asked for it, so that looking changes nothing about what it gives. -/
namespace SentenceReader

/-- How a sequence looks ahead: it finds its next item, unless it has found it already, and holds it
ready; an item that is ready can be taken away. -/
structure LookAhead (σ α : Type) where
  fill : σ → Reply σ Unit
  ready : σ → Option α
  take : σ → σ
  fill_settled : ∀ s, (fill s).result = .ok () → fill (fill s).state = ⟨.ok (), (fill s).state, []⟩
  fill_ne_exhausted : ∀ s, (fill s).result ≠ .error .exhausted

namespace LookAhead

variable {σ α : Type} (l : LookAhead σ α)

/-- The call that says whether there is another item. -/
def hasNext (s : σ) : Reply σ Bool := (l.fill s).andThen fun _ s => ⟨.ok (l.ready s).isSome, s, []⟩

/-- The call for the next item; that there is none is a fault. -/
def next (s : σ) : Reply σ α :=
  (l.fill s).andThen fun _ s =>
    match l.ready s with
    | none => ⟨.error .exhausted, s, []⟩
    | some a => ⟨.ok a, l.take s, []⟩

theorem result_next_of_ok {s : σ} (h : (l.fill s).result = .ok ()) :
    (l.next s).result =
      match l.ready (l.fill s).state with
      | none => .error .exhausted
      | some a => .ok a := by
  simp only [next, Reply.andThen, h, Reply.after]
  split <;> rfl

theorem result_next_of_error {s : σ} {fault : Fault} (h : (l.fill s).result = .error fault) :
    (l.next s).result = .error fault := by
  simp only [next, Reply.andThen, h]

/-- A sequence that gives something out, or rightly nothing, has found it by looking ahead. -/
theorem fill_of_gives {s : σ} {xs : List α} (h : Reply.Gives l.next .exhausted s xs) :
    (l.fill s).result = .ok () ∧ l.ready (l.fill s).state = xs.head? := by
  cases hf : (l.fill s).result with
  | error fault =>
    have hn := l.result_next_of_error hf
    cases xs with
    | nil =>
      obtain rfl := Except.error.inj (hn.symm.trans h)
      exact absurd hf (l.fill_ne_exhausted s)
    | cons x xs => exact absurd (hn.symm.trans h.1) (by simp)
  | ok u =>
    refine ⟨rfl, ?_⟩
    have hn := l.result_next_of_ok hf
    cases xs with
    | nil =>
      replace hn := hn.symm.trans h
      cases hr : l.ready (l.fill s).state with
      | none => rfl
      | some a => simp [hr] at hn
    | cons x xs =>
      replace hn := hn.symm.trans h.1
      cases hr : l.ready (l.fill s).state with
      | none => simp [hr] at hn
      | some a => simpa [hr] using hn

/-- A sequence that reads on until it has an item, if it does not have one already. -/
def reading (fill : σ → Except ReadFault Unit × σ) (ready : σ → Option α) (take : σ → σ)
    (settled : ∀ s s', fill s = (.ok (), s') → fill s' = (.ok (), s')) : LookAhead σ α where
  fill s := ⟨(fill s).1.mapError .ofRead, (fill s).2, []⟩
  ready := ready
  take := take
  fill_settled s h := by
    cases hf : fill s with
    | mk result s' =>
      cases result with
      | error fault =>
        rw [hf] at h
        exact nomatch h
      | ok u =>
        dsimp only
        rw [settled s s' hf]
        rfl
  fill_ne_exhausted s h := by
    cases hf : (fill s).1 with
    | error fault =>
      rw [hf] at h
      exact Fault.ofRead_ne_exhausted fault (Except.error.inj h)
    | ok u =>
      rw [hf] at h
      exact nomatch h

section Reading

variable {fill : σ → Except ReadFault Unit × σ} {ready : σ → Option α} {take : σ → σ}
  {settled : ∀ s s', fill s = (.ok (), s') → fill s' = (.ok (), s')}

theorem hasNext_reading (s : σ) : (reading fill ready take settled).hasNext s =
    ⟨((fill s).1.map fun _ => (ready (fill s).2).isSome).mapError .ofRead, (fill s).2, []⟩ := by
  cases hf : fill s with
  | mk result s' =>
    simp only [hasNext, reading, Reply.andThen, hf]
    cases result <;> rfl

/-- What a sequence that reads on answers to the call for the next item, if that may find none. -/
theorem next_reading {next? : σ → Except Fault (Option α) × σ}
    (herror : ∀ s s' cause, fill s = (.error cause, s') → next? s = (.error (.ofRead cause), s'))
    (hok : ∀ s s', fill s = (.ok (), s') →
      next? s = (.ok (ready s'), if (ready s').isSome then take s' else s')) (s : σ) :
    (reading fill ready take settled).next s = Reply.demand (next? s) := by
  cases hf : fill s with
  | mk result s' =>
    cases result with
    | error cause =>
      rw [herror s s' cause hf]
      simp only [next, reading, Reply.andThen, hf]
      rfl
    | ok u =>
      rw [hok s s' hf]
      simp only [next, reading, Reply.andThen, hf]
      change (match ready s' with
        | none => ⟨.error .exhausted, s', []⟩
        | some a => ⟨.ok a, take s', []⟩ : Reply σ α).after [] = _
      cases ready s' <;> rfl

end Reading

/-- Looking ahead changes nothing about what comes next. -/
theorem next_fill {s : σ} (h : (l.fill s).result = .ok ()) :
    (l.next (l.fill s).state).result = (l.next s).result ∧
      (l.next (l.fill s).state).state = (l.next s).state := by
  simp only [next, Reply.andThen, h, l.fill_settled s h, Reply.after, and_self]

theorem gives_fill {s : σ} {xs : List α} (h : Reply.Gives l.next .exhausted s xs) :
    Reply.Gives l.next .exhausted (l.fill s).state xs := by
  obtain ⟨hr, hs⟩ := l.next_fill (l.fill_of_gives h).1
  exact h.of_next_eq hr hs

/-- Whether there is another item is answered rightly, and nothing is lost. -/
theorem hasNext_of_gives {s : σ} {xs : List α} (h : Reply.Gives l.next .exhausted s xs) :
    (l.hasNext s).result = .ok (!xs.isEmpty) ∧
      Reply.Gives l.next .exhausted (l.hasNext s).state xs := by
  obtain ⟨hf, hr⟩ := l.fill_of_gives h
  have hg := l.gives_fill h
  simp only [hasNext, Reply.andThen, hf, Reply.after, hr]
  refine ⟨?_, hg⟩
  cases xs <;> rfl

end LookAhead

end SentenceReader
