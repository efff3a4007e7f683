import SentenceReader.Proofs.Calls

/-! Two runs of one program, of which the first may meet a fault that the second one does not meet. Up
to there the first run follows the second one; a run of calls that is broken off so has the answers of
the other run in front of the fault, and behind it those of a sequence at its end. -/
namespace SentenceReader

variable {ε σ τ α β : Type}

/-- Both outcomes are the same and leave the two runs tied, or the first one is the fault that breaks
the tie. -/
inductive Follows (fault : ε) (tied : σ → σ → Prop) (broken : σ → Prop) :
    Except ε α × σ → Except ε α × σ → Prop
  | together {result : Except ε α} {s t : σ} (h : tied s t) :
    Follows fault tied broken (result, s) (result, t)
  | breaks {s : σ} {other : Except ε α × σ} (h : broken s) :
    Follows fault tied broken (.error fault, s) other

namespace Follows

variable {fault : ε} {tied : σ → σ → Prop} {broken : σ → Prop} {x y : Except ε α × σ}

theorem map {ε' : Type} {fault' : ε'} {tied' : τ → τ → Prop} {broken' : τ → Prop}
    (h : Follows fault tied broken x y) (result : Except ε α → Except ε' β) (state : σ → τ)
    (hr : result (.error fault) = .error fault')
    (ht : ∀ s t, tied s t → tied' (state s) (state t)) (hb : ∀ s, broken s → broken' (state s)) :
    Follows fault' tied' broken' (result x.1, state x.2) (result y.1, state y.2) := by
  cases h with
  | together h => exact .together (ht _ _ h)
  | breaks h =>
    rw [hr]
    exact .breaks (hb _ h)

end Follows

namespace Calls

variable {q : Calls σ α} {fault : Fault} {tied : σ → σ → Prop} {broken : σ → Prop}

/-- What one call keeps a run of calls keeps: either the two runs have the same answers and are still
tied, or the first run has met its fault at one of the calls. -/
theorem answers_of_follows
    (step : ∀ s t call, tied s t → Follows fault tied broken (q.ask s call) (q.ask t call))
    (still : ∀ s call, broken s → (q.ask s call).1 = call.atEnd ∧ broken (q.ask s call).2)
    {s t : σ} (h : tied s t) (calls : List Call) :
    q.answers s calls = q.answers t calls ∧ tied (q.after s calls) (q.after t calls) ∨
      broken (q.after s calls) ∧ ∃ before call later, calls = before ++ call :: later ∧
        q.answers s calls = q.answers t before ++ .error fault :: later.map Call.atEnd := by
  have hover (s : σ) (calls : List Call) (hb : broken s) :
      q.answers s calls = calls.map Call.atEnd ∧ broken (q.after s calls) := by
    induction calls generalizing s with
    | nil => exact ⟨rfl, hb⟩
    | cons call calls ih =>
      obtain ⟨ha, hb'⟩ := still s call hb
      obtain ⟨has, hbs⟩ := ih _ hb'
      exact ⟨by rw [answers, ha, has, List.map_cons], hbs⟩
  induction calls generalizing s t with
  | nil => exact .inl ⟨rfl, h⟩
  | cons call calls ih =>
    have hstep := step s t call h
    simp only [answers, after]
    generalize q.ask s call = x, hy : q.ask t call = y at hstep
    cases hstep with
    | together htied =>
      rcases ih htied with ⟨ha, ht⟩ | ⟨hb, before, call', later, rfl, ha⟩
      · exact .inl ⟨by rw [ha], ht⟩
      · refine .inr ⟨hb, call :: before, call', later, rfl, ?_⟩
        simp only [answers, hy, ha, List.cons_append]
    | breaks hbroken =>
      obtain ⟨ha, hb⟩ := hover _ calls hbroken
      exact .inr ⟨hb, [], call, calls, rfl, by rw [ha]; rfl⟩

end Calls

namespace LookAhead

variable (l : LookAhead σ α) {fault : Fault} {tied : σ → σ → Prop} {broken : σ → Prop}

/-- Where filling follows, a call follows. -/
theorem follows_ask (hready : ∀ s t, tied s t → l.ready s = l.ready t)
    (htake : ∀ s t, tied s t → tied (l.take s) (l.take t)) {s t : σ}
    (h : Follows fault tied broken ((l.fill s).result, (l.fill s).state)
      ((l.fill t).result, (l.fill t).state)) (call : Call) :
    Follows fault tied broken (l.calls.ask s call) (l.calls.ask t call) := by
  generalize hx : ((l.fill s).result, (l.fill s).state) = x,
    hy : ((l.fill t).result, (l.fill t).state) = y at h
  cases h with
  | @together result s' t' htied =>
    obtain ⟨hs, hs'⟩ := Prod.mk.inj hx
    obtain ⟨ht, ht'⟩ := Prod.mk.inj hy
    cases result with
    | error other =>
      rw [l.ask_of_error hs, l.ask_of_error ht, hs', ht']
      exact .together htied
    | ok u =>
      rw [l.ask_of_ok hs, l.ask_of_ok ht, hs', ht']
      cases call with
      | hasNext =>
        simp only [answer, hready _ _ htied]
        exact .together htied
      | next =>
        simp only [answer, hready _ _ htied]
        cases l.ready t' with
        | none => exact .together htied
        | some a => exact .together (htake _ _ htied)
  | breaks hbroken =>
    obtain ⟨hs, hs'⟩ := Prod.mk.inj hx
    rw [l.ask_of_error hs, hs']
    exact .breaks hbroken

end LookAhead

end SentenceReader
