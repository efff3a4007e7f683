import SentenceReader.Proofs.Giving
import SentenceReader.Proofs.Stream.Lines
import SentenceReader.Token.Source

/-! The tokens that are still to come from a source. Looking ahead and reading on change nothing
about them: where no read fails, a source gives out exactly the tokens of the text it has left. -/
namespace SentenceReader

namespace OpenToken

/-- The tokens of some parts behind an open token, which ends where the parts end. -/
def tokens (o : LexedOptions) (s : OpenToken) (parts : List LinePart) : List Token :=
  (s.addParts o parts).1 ++ (s.addParts o parts).2.close o

theorem addParts_append (o : LexedOptions) (s : OpenToken) (xs ys : List LinePart) :
    s.addParts o (xs ++ ys) =
      ((s.addParts o xs).1 ++ ((s.addParts o xs).2.addParts o ys).1,
        ((s.addParts o xs).2.addParts o ys).2) := by
  induction xs generalizing s with
  | nil => simp [addParts]
  | cons x xs ih =>
    cases x with
    | space run => simp [addParts, ih]
    | word word raw isNewline => simp [addParts, ih]

theorem tokens_append (o : LexedOptions) (s : OpenToken) (xs ys : List LinePart) :
    s.tokens o (xs ++ ys) = (s.addParts o xs).1 ++ (s.addParts o xs).2.tokens o ys := by
  simp [tokens, addParts_append]

@[simp] theorem tokens_nil (o : LexedOptions) (s : OpenToken) : s.tokens o [] = s.close o := by
  simp [tokens, addParts]

@[simp] theorem close_empty (o : LexedOptions) : ({} : OpenToken).close o = [] := rfl

end OpenToken

def LinePart.ofText (o : LexedOptions) (t : Text) : List LinePart :=
  (Text.lines t).flatMap (LinePart.ofLine o)

theorem LinePart.ofText_append (o : LexedOptions) {t : Text} (h : t.EndsLine) (u : Text) :
    ofText o (t ++ u) = ofText o t ++ ofText o u := by
  rw [ofText, Text.lines_append h, List.flatMap_append, ofText, ofText]

namespace LexedSource

/-- The tokens that are still to come where no read fails. -/
def coming (s : LexedSource) : List Token :=
  s.ready ++ if s.ended then [] else s.pending.tokens s.options (LinePart.ofText s.options s.stream.rest)

theorem fill_of_settled {s : LexedSource} (h : (!s.ready.isEmpty || s.ended) = true) :
    s.fill = (.ok (), s) := by
  rw [fill, if_pos h]

theorem settled_of_fill {s s' : LexedSource} (h : s.fill = (.ok (), s')) :
    (!s'.ready.isEmpty || s'.ended) = true := by
  fun_induction fill s with
  | case1 s hr => simpa [← (Prod.mk.inj h).2] using hr
  | case2 s hr fault stream hl => simp at h
  | case3 s hr stream hl => simp [← (Prod.mk.inj h).2, finish]
  | case4 s hr c rest stream hl ih => exact ih h

/-- Filling keeps the tokens that are to come, whether it goes well or not. -/
theorem coming_fill (s : LexedSource) : s.fill.2.coming = s.coming := by
  fun_induction fill s with
  | case1 s hr => rfl
  | case2 s hr fault stream hl => simp [coming, TextStream.rest_of_readLine_error hl]
  | case3 s hr stream hl =>
    obtain ⟨hn, -⟩ := TextStream.rest_of_readLine_nil hl
    simp only [Bool.or_eq_true, not_or, Bool.not_eq_true] at hr
    simp [coming, finish, hn, hr.2, LinePart.ofText]
  | case4 s hr c rest stream hl ih =>
    rw [ih]
    simp only [Bool.or_eq_true, not_or, Bool.not_eq_true] at hr
    simp [coming, addLine, hr.2, LinePart.ofText, TextStream.lines_of_readLine hl,
      OpenToken.tokens_append]

/-- Filling a source over a steady stream goes well. -/
theorem fill_steady (s : LexedSource) (hs : s.stream.Steady) :
    s.fill.1 = .ok () ∧ s.fill.2.stream.Steady := by
  fun_induction fill s with
  | case1 s hr => exact ⟨rfl, hs⟩
  | case2 s hr fault stream hl => exact absurd hl hs.readLine_ne_error
  | case3 s hr stream hl => exact ⟨rfl, (hs.rest_of_readLine_nil hl).2⟩
  | case4 s hr c rest stream hl ih => exact ih (hs.lines_of_readLine hl).2

end LexedSource

namespace SpacedSource

/-- The tokens that are still to come where no read fails. -/
def coming (s : SpacedSource) : List Token :=
  s.ready ++ if s.ended then [] else (Text.lines s.stream.rest).flatMap (tokensOf s.newlines)

theorem fill_of_settled {s : SpacedSource} (h : (!s.ready.isEmpty || s.ended) = true) :
    s.fill = (.ok (), s) := by
  rw [fill, if_pos h]

theorem settled_of_fill {s s' : SpacedSource} (h : s.fill = (.ok (), s')) :
    (!s'.ready.isEmpty || s'.ended) = true := by
  fun_induction fill s with
  | case1 s hr => simpa [← (Prod.mk.inj h).2] using hr
  | case2 s hr fault stream hl => simp at h
  | case3 s hr stream hl => simp [← (Prod.mk.inj h).2]
  | case4 s hr c rest stream hl ih => exact ih h

/-- Filling keeps the tokens that are to come, whether it goes well or not. -/
theorem coming_fill (s : SpacedSource) : s.fill.2.coming = s.coming := by
  fun_induction fill s with
  | case1 s hr => rfl
  | case2 s hr fault stream hl => simp [coming, TextStream.rest_of_readLine_error hl]
  | case3 s hr stream hl =>
    obtain ⟨hn, -⟩ := TextStream.rest_of_readLine_nil hl
    simp only [Bool.or_eq_true, not_or, Bool.not_eq_true] at hr
    simp [coming, hn, hr.2]
  | case4 s hr c rest stream hl ih =>
    rw [ih]
    simp only [Bool.or_eq_true, not_or, Bool.not_eq_true, Bool.not_eq_false',
      List.isEmpty_iff] at hr
    simp [coming, hr.1, hr.2, TextStream.lines_of_readLine hl]

/-- Filling a source over a steady stream goes well. -/
theorem fill_steady (s : SpacedSource) (hs : s.stream.Steady) :
    s.fill.1 = .ok () ∧ s.fill.2.stream.Steady := by
  fun_induction fill s with
  | case1 s hr => exact ⟨rfl, hs⟩
  | case2 s hr fault stream hl => exact absurd hl hs.readLine_ne_error
  | case3 s hr stream hl => exact ⟨rfl, (hs.rest_of_readLine_nil hl).2⟩
  | case4 s hr c rest stream hl ih => exact ih (hs.lines_of_readLine hl).2

end SpacedSource

namespace TokenSource

def reply (s : TokenSource) : Reply TokenSource Token := ⟨s.next.1, s.next.2, []⟩

/-- A source gives out exactly these tokens, and then says that there are no more. -/
def Gives (s : TokenSource) (ts : List Token) : Prop := Reply.Gives reply .exhausted s ts

/-- The tokens that are still to come where no read fails. -/
def coming : TokenSource → List Token
  | lexed s => s.coming
  | spaced s => s.coming
  | given tokens _ _ => tokens

theorem Gives.unique {s : TokenSource} {xs ys : List Token} (hx : s.Gives xs) (hy : s.Gives ys) :
    xs = ys := (Reply.Gives.unique hx hy).1

theorem fill_of_fill {s s' : TokenSource} (h : s.fill = (.ok (), s')) :
    s'.fill = (.ok (), s') := by
  cases s with
  | lexed s =>
    simp only [fill, Prod.mk.injEq] at h
    obtain ⟨hr, rfl⟩ := h
    have hf := LexedSource.settled_of_fill (Prod.ext hr rfl)
    simp only [fill, LexedSource.fill_of_settled hf]
  | spaced s =>
    simp only [fill, Prod.mk.injEq] at h
    obtain ⟨hr, rfl⟩ := h
    have hf := SpacedSource.settled_of_fill (Prod.ext hr rfl)
    simp only [fill, SpacedSource.fill_of_settled hf]
  | given tokens mark stream =>
    simp only [fill, Prod.mk.injEq] at h
    simp [← h.2, fill]

theorem next?_of_fill {s s' : TokenSource} (h : s.fill = (.ok (), s')) : s'.next? = s.next? := by
  simp only [next?, fill_of_fill h, h]

theorem reply_eq_demand (s : TokenSource) : s.reply = Reply.demand s.next? := by
  simp only [reply, next, Reply.demand]
  split <;> simp [*]

theorem next?_ne_exhausted (s s' : TokenSource) : s.next? ≠ (.error .exhausted, s') := by
  intro h
  unfold next? at h
  split at h
  · simp only [Prod.mk.injEq, Except.error.injEq] at h
    exact Fault.ofRead_ne_exhausted _ h.1
  · split at h <;> simp at h

theorem gives_nil_iff (s : TokenSource) : s.Gives [] ↔ s.next?.1 = .ok none :=
  Reply.gives_nil_iff_of_demand reply_eq_demand next?_ne_exhausted s

theorem gives_cons_iff (s : TokenSource) (t : Token) (ts : List Token) :
    s.Gives (t :: ts) ↔ s.next?.1 = .ok (some t) ∧ s.next?.2.Gives ts :=
  Reply.gives_cons_iff_of_demand reply_eq_demand s t ts

theorem gives_nil_of_next? {s s' : TokenSource} (h : s.next? = (.ok none, s')) : s'.Gives [] := by
  rw [gives_nil_iff]
  unfold next? at h
  split at h
  · simp at h
  · next s₁ hf =>
    split at h
    · next hr =>
      obtain rfl : s₁ = s' := (Prod.mk.inj h).2
      simp [next?, fill_of_fill hf, hr]
    · simp at h

/-- To look whether there is another token takes none. -/
theorem Gives.hasNext {s : TokenSource} {ts : List Token} (h : s.Gives ts) :
    ∃ s', s.hasNext = (.ok (!ts.isEmpty), s') ∧ s'.Gives ts := by
  cases hf : s.fill with
  | mk r s' =>
  cases r with
  | error cause =>
    cases ts with
    | nil => simp [gives_nil_iff, next?, hf] at h
    | cons t ts => simp [gives_cons_iff, next?, hf] at h
  | ok u =>
    refine ⟨s', ?_, ?_⟩
    · cases ts with
      | nil =>
        rw [gives_nil_iff] at h
        cases hr : s'.ready <;> simp_all [next?, TokenSource.hasNext]
      | cons t ts =>
        rw [gives_cons_iff] at h
        cases hr : s'.ready <;> simp_all [next?, TokenSource.hasNext]
    · have hn := next?_of_fill hf
      cases ts with
      | nil => rwa [gives_nil_iff, hn, ← gives_nil_iff]
      | cons t ts => rwa [gives_cons_iff, hn, ← gives_cons_iff]

theorem coming_of_ready {s : TokenSource} {t : Token} {ts : List Token} (h : s.ready = t :: ts) :
    s.coming = t :: s.dropReady.coming := by
  cases s with
  | lexed s =>
    simp only [ready] at h
    simp [coming, dropReady, LexedSource.coming, h]
  | spaced s =>
    simp only [ready] at h
    simp [coming, dropReady, SpacedSource.coming, h]
  | given tokens mark stream =>
    simp only [ready] at h
    simp [coming, dropReady, h]

/-- Filling keeps the tokens that are to come, whether it goes well or not. -/
theorem coming_fill (s : TokenSource) : s.fill.2.coming = s.coming := by
  cases s with
  | lexed s => exact s.coming_fill
  | spaced s => exact s.coming_fill
  | given tokens mark stream => rfl

/-- Where filling goes well and yet no token is ready, there are none to come. -/
theorem coming_eq_nil_of_fill {s s' : TokenSource} (h : s.fill = (.ok (), s')) (hr : s'.ready = []) :
    s'.coming = [] := by
  cases s with
  | lexed s =>
    simp only [fill, Prod.mk.injEq] at h
    obtain ⟨hok, rfl⟩ := h
    have hf := LexedSource.settled_of_fill (Prod.ext hok rfl)
    simp only [ready] at hr
    simp only [hr, List.isEmpty_nil, Bool.not_true, Bool.false_or] at hf
    simp [coming, LexedSource.coming, hr, hf]
  | spaced s =>
    simp only [fill, Prod.mk.injEq] at h
    obtain ⟨hok, rfl⟩ := h
    have hf := SpacedSource.settled_of_fill (Prod.ext hok rfl)
    simp only [ready] at hr
    simp only [hr, List.isEmpty_nil, Bool.not_true, Bool.false_or] at hf
    simp [coming, SpacedSource.coming, hr, hf]
  | given tokens mark stream =>
    obtain rfl := (Prod.mk.inj h).2
    exact hr

/-- Filling goes well over a steady stream, keeps the tokens that are to come, and leaves none to
come if none is ready then. -/
theorem fill_steady {s : TokenSource} (h : s.stream.Steady) :
    ∃ s', s.fill = (.ok (), s') ∧ s'.stream.Steady ∧ s'.coming = s.coming ∧
      (s'.ready = [] → s'.coming = []) := by
  have hgoes : s.fill.1 = .ok () ∧ s.fill.2.stream.Steady := by
    cases s with
    | lexed s => exact s.fill_steady h
    | spaced s => exact s.fill_steady h
    | given tokens mark stream => exact ⟨rfl, h⟩
  have hf : s.fill = (.ok (), s.fill.2) := Prod.ext hgoes.1 rfl
  exact ⟨s.fill.2, hf, hgoes.2, coming_fill s, coming_eq_nil_of_fill hf⟩

/-- Where no read fails, a source gives out the tokens that are to come. -/
theorem gives_coming {s : TokenSource} (h : s.stream.Steady) : s.Gives s.coming := by
  generalize hts : s.coming = ts
  induction ts generalizing s with
  | nil =>
    obtain ⟨s', hf, -, hc, -⟩ := fill_steady h
    rw [gives_nil_iff]
    cases hr : s'.ready with
    | nil => simp [next?, hf, hr]
    | cons t later => simp [coming_of_ready hr, hts] at hc
  | cons t ts ih =>
    obtain ⟨s', hf, hs', hc, he⟩ := fill_steady h
    cases hr : s'.ready with
    | nil => simp [← hc, he hr] at hts
    | cons u later =>
      rw [coming_of_ready hr, hts, List.cons.injEq] at hc
      rw [gives_cons_iff]
      simp only [next?, hf, hr, hc.1, true_and]
      exact ih (by simpa using hs') hc.2

end TokenSource

end SentenceReader
