import SentenceReader.Record.Event

/-! What a sequence gives out when it is asked for one item after the other: these items, and then
the fault that ends it. -/
namespace SentenceReader

namespace Reply

variable {σ α : Type}

/-- A sequence gives out exactly these items, and then this fault in place of another one. -/
def Gives (next : σ → Reply σ α) (ending : Fault) : σ → List α → Prop
  | s, [] => (next s).result = .error ending
  | s, a :: rest => (next s).result = .ok a ∧ Gives next ending (next s).state rest

/-- What a sequence gives out is determined, and so is the way in which it ends. -/
theorem Gives.unique {next : σ → Reply σ α} {e e' : Fault} {s : σ} {xs ys : List α}
    (hx : Gives next e s xs) (hy : Gives next e' s ys) : xs = ys ∧ e = e' := by
  induction xs generalizing s ys with
  | nil =>
    cases ys with
    | nil => exact ⟨rfl, by simpa using hx.symm.trans hy⟩
    | cons y ys => exact absurd (hx.symm.trans hy.1) (by simp)
  | cons x xs ih =>
    cases ys with
    | nil => exact absurd (hy.symm.trans hx.1) (by simp)
    | cons y ys =>
      have hxy : x = y := by simpa using hx.1.symm.trans hy.1
      obtain ⟨rfl, he⟩ := ih hx.2 hy.2
      exact ⟨by rw [hxy], he⟩

/-- Two states whose calls for the next item end alike give out the same. -/
theorem Gives.of_next_eq {next : σ → Reply σ α} {e : Fault} {s s' : σ} {xs : List α}
    (h : Gives next e s' xs) (hr : (next s).result = (next s').result)
    (hs : (next s).state = (next s').state) : Gives next e s xs := by
  cases xs with
  | nil => exact hr.trans h
  | cons x xs => exact ⟨hr.trans h.1, hs ▸ h.2⟩

/-- The call for the next item that is made of one which may find none: that there is none is a
fault. -/
def demand (answer : Except Fault (Option α) × σ) : Reply σ α :=
  match answer with
  | (.error fault, s) => ⟨.error fault, s, []⟩
  | (.ok none, s) => ⟨.error .exhausted, s, []⟩
  | (.ok (some a), s) => ⟨.ok a, s, []⟩

variable {next : σ → Reply σ α} {next? : σ → Except Fault (Option α) × σ}

theorem gives_nil_iff_of_demand (hd : ∀ s, next s = demand (next? s))
    (hne : ∀ s s', next? s ≠ (.error .exhausted, s')) (s : σ) :
    Gives next .exhausted s [] ↔ (next? s).1 = .ok none := by
  rw [Gives, hd]
  cases h : next? s with
  | mk result s' =>
    cases result with
    | error fault =>
      have hf : fault ≠ .exhausted := by
        rintro rfl
        exact hne s s' h
      simp [demand, hf]
    | ok found => cases found <;> simp [demand]

theorem gives_cons_iff_of_demand (hd : ∀ s, next s = demand (next? s)) (s : σ) (a : α)
    (rest : List α) :
    Gives next .exhausted s (a :: rest) ↔
      (next? s).1 = .ok (some a) ∧ Gives next .exhausted (next? s).2 rest := by
  rw [Gives, hd]
  cases h : next? s with
  | mk result s' =>
    cases result with
    | error fault => simp [demand]
    | ok found => cases found <;> simp [demand]

end Reply

theorem Fault.ofRead_ne_exhausted (cause : ReadFault) : Fault.ofRead cause ≠ .exhausted := by
  unfold Fault.ofRead
  split <;> simp

end SentenceReader
