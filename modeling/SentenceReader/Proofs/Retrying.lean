import Mathlib.Data.List.Induction
import SentenceReader.Proofs.Calls

/-! Sequences whose calls may fail for a while. A caller that asks again gets, apart from the answers
that tell about failures, the answers of a sequence without failures. -/
namespace SentenceReader

variable {σ τ α : Type}

namespace Calls

/-- The sequence of given items. -/
def ofList : Calls (List α) α where
  hasNext items := ⟨.ok !items.isEmpty, items, []⟩
  next
    | [] => ⟨.error .exhausted, [], []⟩
    | a :: later => ⟨.ok a, later, []⟩

/-- The calls of a run that were answered, if not by telling that the stream could not be read. -/
def answered (q : Calls σ α) (s : σ) : List Call → List Call
  | [] => []
  | call :: calls =>
    if (q.ask s call).1.isFailure then q.answered (q.ask s call).2 calls
    else call :: q.answered (q.ask s call).2 calls

/-- A sequence goes on behind a failure as if the call that failed had not been made: whatever calls are
made, those that are answered have the answers of a sequence without failures, and a call that is made
again and again is answered at last. -/
structure Recovers (q : Calls σ α) (s : σ) (p : Calls τ α) (t : τ) : Prop where
  answers : ∀ calls, (q.answers s calls).filter (!·.isFailure) = p.answers t (q.answered s calls)
  answered : ∀ calls call, ∃ n,
    q.answered s (calls ++ List.replicate n call) = q.answered s calls ++ [call]

theorem answered_append (q : Calls σ α) (s : σ) (calls later : List Call) :
    q.answered s (calls ++ later) = q.answered s calls ++ q.answered (q.after s calls) later := by
  induction calls generalizing s with
  | nil => rfl
  | cons call calls ih =>
    simp only [List.cons_append, answered, after, ih]
    split <;> rfl

/-- The answers of a sequence that recovers are determined by what it recovers to. -/
theorem Recovers.congr {q : Calls σ α} {s : σ} {υ : Type} {p : Calls τ α} {t : τ} {p' : Calls υ α} {t' : υ}
    (h : q.Recovers s p t) (ht : ∀ calls, p.answers t calls = p'.answers t' calls) :
    q.Recovers s p' t' where
  answers calls := (h.answers calls).trans (ht _)
  answered := h.answered

/-- Any calls get answered, if each of them is made often enough. -/
theorem Recovers.exists_answered {q : Calls σ α} {s : σ} {p : Calls τ α} {t : τ} (h : q.Recovers s p t)
    (wanted : List Call) : ∃ calls, q.answered s calls = wanted := by
  induction wanted using List.reverseRecOn with
  | nil => exact ⟨[], rfl⟩
  | append_singleton wanted call ih =>
    obtain ⟨calls, rfl⟩ := ih
    obtain ⟨n, hn⟩ := h.answered calls call
    exact ⟨_, hn⟩

/-- What a sequence recovers to is determined: it has the same answers to all calls. -/
theorem Recovers.unique {q : Calls σ α} {s : σ} {υ : Type} {p : Calls τ α} {t : τ} {p' : Calls υ α} {t' : υ}
    (h : q.Recovers s p t) (h' : q.Recovers s p' t') (wanted : List Call) :
    p.answers t wanted = p'.answers t' wanted := by
  obtain ⟨calls, rfl⟩ := h.exists_answered wanted
  exact (h.answers calls).symm.trans (h'.answers calls)

/-- What a call does where two sequences are tied, the first of which has some failures ahead. A failure
is one of these and leaves the second sequence where it is; any other answer is that of the second one. -/
structure Resumes (q : Calls σ α) (p : Calls τ α) (tied : Nat → σ → τ → Prop) : Prop where
  failed : ∀ {n s t call}, tied n s t → (q.ask s call).1.isFailure = true →
    ∃ m, n = m + 1 ∧ tied m (q.ask s call).2 t
  answered : ∀ {n s t call}, tied n s t → (q.ask s call).1.isFailure = false →
    (q.ask s call).1 = (p.ask t call).1 ∧ tied n (q.ask s call).2 (p.ask t call).2

namespace Resumes

variable {q : Calls σ α} {p : Calls τ α} {tied : Nat → σ → τ → Prop} (r : q.Resumes p tied) {n : Nat}
  {s : σ} {t : τ}
include r

theorem answers_eq (h : tied n s t) (calls : List Call) :
    (q.answers s calls).filter (!·.isFailure) = p.answers t (q.answered s calls) := by
  induction calls generalizing n s t with
  | nil => rfl
  | cons call calls ih =>
    rw [answers, Calls.answered]
    cases hf : (q.ask s call).1.isFailure with
    | true =>
      obtain ⟨m, -, ht⟩ := r.failed h hf
      rw [List.filter_cons_of_neg (by simp [hf]), if_pos rfl]
      exact ih ht
    | false =>
      obtain ⟨ha, ht⟩ := r.answered h hf
      rw [List.filter_cons_of_pos (by simp [hf]), if_neg Bool.false_ne_true, answers, ih ht, ha]

/-- A run keeps the tie, and each failure that it tells about is one less ahead. -/
theorem tied_after (h : tied n s t) (calls : List Call) :
    ∃ m, n = m + (q.answers s calls).countP CallAnswer.isFailure ∧
      tied m (q.after s calls) (p.after t (q.answered s calls)) := by
  induction calls generalizing n s t with
  | nil => exact ⟨n, rfl, h⟩
  | cons call calls ih =>
    rw [answers, after, Calls.answered, List.countP_cons]
    cases hf : (q.ask s call).1.isFailure with
    | true =>
      obtain ⟨m, hn, ht⟩ := r.failed h hf
      obtain ⟨k, hm, hk⟩ := ih ht
      refine ⟨k, ?_, hk⟩
      rw [if_pos rfl]
      omega
    | false =>
      obtain ⟨k, hn, hk⟩ := ih (r.answered h hf).2
      refine ⟨k, ?_, hk⟩
      rw [if_neg Bool.false_ne_true]
      exact hn

/-- A call that is made again and again is answered when the failures that are ahead have been. -/
theorem exists_answered (h : tied n s t) (call : Call) :
    ∃ k, q.answered s (List.replicate k call) = [call] := by
  induction n generalizing s with
  | zero =>
    cases hf : (q.ask s call).1.isFailure with
    | true =>
      obtain ⟨m, hm, -⟩ := r.failed h hf
      omega
    | false => exact ⟨1, by simp [Calls.answered, hf]⟩
  | succ n ih =>
    cases hf : (q.ask s call).1.isFailure with
    | true =>
      obtain ⟨m, hm, ht⟩ := r.failed h hf
      obtain rfl := Nat.succ.inj hm
      obtain ⟨k, hk⟩ := ih ht
      exact ⟨k + 1, by rw [List.replicate_succ, Calls.answered, if_pos hf, hk]⟩
    | false => exact ⟨1, by simp [Calls.answered, hf]⟩

theorem recovers (h : tied n s t) : q.Recovers s p t where
  answers := r.answers_eq h
  answered calls call := by
    obtain ⟨m, -, ht⟩ := r.tied_after h calls
    obtain ⟨k, hk⟩ := r.exists_answered ht call
    exact ⟨k, by rw [answered_append, hk]⟩

end Resumes

@[simp] theorem ask_ofList_snd (items : List α) (call : Call) :
    (ofList.ask items call).2 = items.drop ([call].count .next) := by
  cases call with
  | hasNext => rfl
  | next => cases items <;> rfl

/-- What a sequence tells, the list of its items answers. -/
theorem Tells.answers_eq {q : Calls σ α} {s : σ} {items : List α} (h : q.Tells s items)
    (calls : List Call) : q.answers s calls = ofList.answers items calls := by
  have hask (before : List Call) (call : Call) :
      (q.ask (q.after s before) call).1 = (ofList.ask (items.drop (before.count .next)) call).1 := by
    cases call with
    | hasNext =>
      have hmore : decide (before.count .next < items.length) =
          !(items.drop (before.count .next)).isEmpty := by
        rw [Bool.eq_iff_iff]
        simp
      rw [ask, h.hasNext before, hmore]
      rfl
    | next =>
      simp only [ask, h.next before, ← List.head?_drop]
      cases items.drop (before.count .next) <;> rfl
  have hrun (before : List Call) : q.answers (q.after s before) calls =
      ofList.answers (items.drop (before.count .next)) calls := by
    induction calls generalizing before with
    | nil => rfl
    | cons call calls ih =>
      have hlater := ih (before ++ [call])
      rw [after_append, List.count_append, ← List.drop_drop] at hlater
      rw [answers, answers, hask, ask_ofList_snd]
      exact congrArg _ hlater
  exact hrun []

/-- Lists with the same answers to all calls are the same. -/
theorem eq_of_answers_ofList {xs ys : List α}
    (h : ∀ calls, ofList.answers xs calls = ofList.answers ys calls) : xs = ys := by
  have hgiven (items : List α) (n : Nat) :
      (ofList.answers items (List.replicate n .next)).filterMap CallAnswer.item? = items.take n := by
    induction n generalizing items with
    | zero => rfl
    | succ n ih =>
      rw [List.replicate_succ, answers, List.filterMap_cons, ask_ofList_snd, ih]
      cases items with
      | nil => simp [ask, ofList, Except.map, CallAnswer.item?]
      | cons a items => rfl
  have htake := congrArg (List.filterMap CallAnswer.item?)
    (h (List.replicate (max xs.length ys.length) .next))
  rw [hgiven, hgiven, List.take_of_length_le (Nat.le_max_left _ _), List.take_of_length_le (Nat.le_max_right _ _)]
    at htake
  exact htake

end Calls

namespace LookAhead

/-- How a sequence that looks ahead resumes: to fill it fails, which is one of the failures ahead and
leaves the items that are to come, or finds the first of these. -/
structure Resumes (l : LookAhead σ α) (comes : Nat → σ → List α → Prop) : Prop where
  fill_error : ∀ {n s items fault}, comes n s items → (l.fill s).result = .error fault →
    fault.isUnreadable = true ∧ ∃ m, n = m + 1 ∧ comes m (l.fill s).state items
  fill_ok : ∀ {n s items}, comes n s items → (l.fill s).result = .ok () →
    l.ready (l.fill s).state = items.head? ∧ comes n (l.fill s).state items
  take : ∀ {n s a items}, comes n s (a :: items) → l.ready s = some a → comes n (l.take s) items

theorem Resumes.calls {l : LookAhead σ α} {comes : Nat → σ → List α → Prop} (r : l.Resumes comes) :
    l.calls.Resumes Calls.ofList comes where
  failed {n s items call} h hf := by
    cases hres : (l.fill s).result with
    | error fault =>
      rw [l.ask_of_error hres]
      exact (r.fill_error h hres).2
    | ok u =>
      rw [l.ask_of_ok hres] at hf
      cases call with
      | hasNext => exact Bool.noConfusion hf
      | next =>
        cases ha : l.ready (l.fill s).state <;>
          simp [answer, ha, CallAnswer.isFailure, Fault.isUnreadable] at hf
  answered {n s items call} h hf := by
    cases hres : (l.fill s).result with
    | error fault =>
      rw [l.ask_of_error hres, CallAnswer.isFailure, (r.fill_error h hres).1] at hf
      exact Bool.noConfusion hf
    | ok u =>
      obtain ⟨hr, hc⟩ := r.fill_ok h hres
      rw [l.ask_of_ok hres]
      cases call with
      | hasNext =>
        refine ⟨?_, hc⟩
        cases items <;> simp [answer, hr, Calls.ask, Calls.ofList, Except.map]
      | next =>
        cases items with
        | nil =>
          rw [List.head?_nil] at hr
          simp only [answer, hr]
          exact ⟨rfl, hc⟩
        | cons a items =>
          rw [List.head?_cons] at hr
          simp only [answer, hr]
          exact ⟨rfl, r.take hc hr⟩

end LookAhead

end SentenceReader
