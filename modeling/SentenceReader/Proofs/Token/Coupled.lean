import SentenceReader.Proofs.Stream.Coupling
import SentenceReader.Token.Source

/-! Tokens of two coupled streams. The tokens of the first stream are those of the second one, up to
where reading breaks off. -/
namespace SentenceReader

theorem LexedSource.fill_eq (s : LexedSource) :
    s.fill =
      if !s.ready.isEmpty || s.ended then (.ok (), s)
      else match s.stream.readLine with
        | (.error fault, stream) => (.error fault, { s with stream })
        | (.ok [], stream) => (.ok (), s.finish stream)
        | (.ok (c :: rest), stream) => (s.addLine (c :: rest) stream).fill := by
  rw [fill]
  split
  · rfl
  · split <;> simp_all

theorem SpacedSource.fill_eq (s : SpacedSource) :
    s.fill =
      if !s.ready.isEmpty || s.ended then (.ok (), s)
      else match s.stream.readLine with
        | (.error fault, stream) => (.error fault, { s with stream })
        | (.ok [], stream) => (.ok (), { s with stream, ended := true })
        | (.ok (c :: rest), stream) =>
          fill { s with stream, ready := tokensOf s.newlines (c :: rest) } := by
  rw [fill]
  split
  · rfl
  · split <;> simp_all

/-- No chain of sources, each of them nearer to its end than the last one, goes on for ever. -/
theorem TokenSource.wellFounded_nearer : WellFounded Nearer := by
  let size (s : TokenSource) : Nat × Nat := (s.stream.rest.length, s.waiting)
  refine Subrelation.wf (r := InvImage (Prod.Lex (· < ·) (· < ·)) size) ?_
    (InvImage.wf size (Prod.lex Nat.lt_wfRel Nat.lt_wfRel).wf)
  rintro a b (h | ⟨h, hw⟩)
  · exact Prod.Lex.left _ _ h
  · exact Prod.lex_def.2 (.inr ⟨h, hw⟩)

namespace Coupling

variable (p : Coupling) {x : TextStream}

abbrev Lexed : LexedSource → LexedSource → Prop :=
  p.Carried LexedSource.stream fun t stream => { t with stream }

abbrev Spaced : SpacedSource → SpacedSource → Prop :=
  p.Carried SpacedSource.stream fun t stream => { t with stream }

abbrev Tokens : TokenSource → TokenSource → Prop :=
  p.Carried TokenSource.stream fun t stream => t.mapStream fun _ => stream

theorem tokens_mapStream (t : TokenSource) (h : p.tied x t.stream) :
    p.Tokens (t.mapStream fun _ => x) t := .intro t h

theorem fill_lexed {t : LexedSource} (h : p.tied x t.stream) :
    Follows .device p.Lexed (fun s => p.broken s.stream)
      (LexedSource.fill { t with stream := x }) t.fill := by
  induction hsize : t.stream.rest.length using Nat.strongRecOn generalizing t x with
  | ind size ih =>
    have hl := p.readLine h
    rw [LexedSource.fill_eq, LexedSource.fill_eq t]
    dsimp only
    split
    · exact .together (.intro t h)
    · generalize x.readLine = a, ht : t.stream.readLine = b at hl ⊢
      cases hl with
      | breaks h => exact .breaks h
      | @together result y stream h =>
        rcases result with fault | _ | ⟨c, rest⟩
        · exact .together (.intro { t with stream } h)
        · exact .together (.intro (t.finish stream) h)
        · have hlt := TextStream.length_rest_of_readLine ht
          rw [hsize, List.length_cons] at hlt
          exact ih stream.rest.length (by omega) (t := t.addLine (c :: rest) stream) h rfl

theorem fill_spaced {t : SpacedSource} (h : p.tied x t.stream) :
    Follows .device p.Spaced (fun s => p.broken s.stream)
      (SpacedSource.fill { t with stream := x }) t.fill := by
  induction hsize : t.stream.rest.length using Nat.strongRecOn generalizing t x with
  | ind size ih =>
    have hl := p.readLine h
    rw [SpacedSource.fill_eq, SpacedSource.fill_eq t]
    dsimp only
    split
    · exact .together (.intro t h)
    · generalize x.readLine = a, ht : t.stream.readLine = b at hl ⊢
      cases hl with
      | breaks h => exact .breaks h
      | @together result y stream h =>
        rcases result with fault | _ | ⟨c, rest⟩
        · exact .together (.intro { t with stream } h)
        · exact .together (.intro { t with stream, ended := true } h)
        · have hlt := TextStream.length_rest_of_readLine ht
          rw [hsize, List.length_cons] at hlt
          let refilled : SpacedSource :=
            { t with stream, ready := SpacedSource.tokensOf t.newlines (c :: rest) }
          exact ih stream.rest.length (by omega) (t := refilled) h rfl

theorem fill_tokens {s t : TokenSource} (h : p.Tokens s t) :
    Follows .device p.Tokens (fun s => p.broken s.stream) s.fill t.fill := by
  obtain ⟨t, h⟩ := h
  cases t with
  | lexed t =>
    refine (p.fill_lexed h).map id TokenSource.lexed rfl ?_ fun _ hb => hb
    rintro _ u ⟨_, h⟩
    exact p.tokens_mapStream (.lexed u) h
  | spaced t =>
    refine (p.fill_spaced h).map id TokenSource.spaced rfl ?_ fun _ hb => hb
    rintro _ u ⟨_, h⟩
    exact p.tokens_mapStream (.spaced u) h
  | given tokens mark stream => exact .together (p.tokens_mapStream (.given tokens mark stream) h)

theorem tokens_dropReady {s t : TokenSource} (h : p.Tokens s t) :
    p.Tokens s.dropReady t.dropReady := by
  obtain ⟨t, h⟩ := h
  cases t with
  | lexed t => exact p.tokens_mapStream (TokenSource.lexed t).dropReady h
  | spaced t => exact p.tokens_mapStream (TokenSource.spaced t).dropReady h
  | given tokens mark stream =>
    exact p.tokens_mapStream (TokenSource.given tokens mark stream).dropReady h

theorem ready_tokens {s t : TokenSource} (h : p.Tokens s t) : s.ready = t.ready := by
  obtain ⟨t, h⟩ := h
  cases t <;> rfl

theorem hasNext_tokens {s t : TokenSource} (h : p.Tokens s t) :
    Follows (.unreadable .device) p.Tokens (fun s => p.broken s.stream) s.hasNext t.hasNext := by
  have hf := p.fill_tokens h
  unfold TokenSource.hasNext
  generalize s.fill = a, t.fill = b at hf ⊢
  cases hf with
  | breaks h => exact .breaks h
  | @together result s t h =>
    cases result with
    | error cause => exact .together h
    | ok u =>
      simp only [p.ready_tokens h]
      exact .together h

theorem next_tokens {s t : TokenSource} (h : p.Tokens s t) :
    Follows (.unreadable .device) p.Tokens (fun s => p.broken s.stream) s.next? t.next? := by
  have hf := p.fill_tokens h
  unfold TokenSource.next?
  generalize s.fill = a, t.fill = b at hf ⊢
  cases hf with
  | breaks h => exact .breaks h
  | @together result s t h =>
    cases result with
    | error cause => exact .together h
    | ok u =>
      simp only [p.ready_tokens h]
      cases t.ready with
      | nil => exact .together h
      | cons token later => exact .together (p.tokens_dropReady h)

end Coupling

end SentenceReader
