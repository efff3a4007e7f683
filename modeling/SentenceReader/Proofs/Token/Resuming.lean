import SentenceReader.Proofs.Retrying
import SentenceReader.Proofs.Stream.Resuming
import SentenceReader.Proofs.Token.Streaming

/-! Tokens of a stream some of whose reads fail. All that a source knows is kept in it, so that a call
that failed can be made again: no token is lost, and none comes twice. -/
namespace SentenceReader

open TextStream (Resumable Leaves)

variable {total ahead : Nat}

/-- Filling makes reads until one of them fails, or none is needed any more. -/
theorem LexedSource.leaves_fill (s : LexedSource) (h : s.stream.Resumable total ahead) :
    Leaves total ahead s.fill.1 s.fill.2.stream := by
  fun_induction fill s with
  | case1 s hr => exact h
  | case2 s hr fault stream hl => exact h.of_readLine hl
  | case3 s hr stream hl => exact h.of_readLine hl
  | case4 s hr c rest stream hl ih => exact ih (h.of_readLine hl)

theorem SpacedSource.leaves_fill (s : SpacedSource) (h : s.stream.Resumable total ahead) :
    Leaves total ahead s.fill.1 s.fill.2.stream := by
  fun_induction fill s with
  | case1 s hr => exact h
  | case2 s hr fault stream hl => exact h.of_readLine hl
  | case3 s hr stream hl => exact h.of_readLine hl
  | case4 s hr c rest stream hl ih => exact ih (h.of_readLine hl)

namespace TokenSource

theorem leaves_fill (s : TokenSource) (h : s.stream.Resumable total ahead) :
    Leaves total ahead s.fill.1 s.fill.2.stream := by
  cases s with
  | lexed s => exact s.leaves_fill h
  | spaced s => exact s.leaves_fill h
  | given tokens mark stream => exact h

/-- A source that goes on behind a failure has the tokens to come that it had before. -/
theorem resumes (total : Nat) :
    lookAhead.Resumes fun ahead s ts => s.stream.Resumable total ahead ∧ s.coming = ts where
  fill_error {ahead s ts fault} h hf := by
    obtain ⟨hs, rfl⟩ := h
    have hleaves := s.leaves_fill hs
    change (s.fill.1.mapError Fault.ofRead) = .error fault at hf
    cases hres : s.fill.1 with
    | ok u => simp [hres, Except.mapError] at hf
    | error cause =>
      rw [hres] at hf hleaves
      obtain ⟨rfl, later, hn, hl⟩ := hleaves
      obtain rfl := Except.error.inj hf
      exact ⟨rfl, later, hn, hl, s.coming_fill⟩
  fill_ok {ahead s ts} h hf := by
    obtain ⟨hs, rfl⟩ := h
    have hleaves := s.leaves_fill hs
    change (s.fill.1.mapError Fault.ofRead) = .ok () at hf
    cases hres : s.fill.1 with
    | error cause => simp [hres, Except.mapError] at hf
    | ok u =>
      rw [hres] at hleaves
      have hfill : s.fill = (.ok (), s.fill.2) := Prod.ext hres rfl
      refine ⟨?_, hleaves, s.coming_fill⟩
      rw [← s.coming_fill]
      change s.fill.2.ready.head? = _
      cases hr : s.fill.2.ready with
      | nil => rw [coming_eq_nil_of_fill hfill hr]
      | cons t ts => rw [coming_of_ready hr, List.head?_cons, List.head?_cons]
  take {ahead s t ts} h hr := by
    obtain ⟨hs, hc⟩ := h
    obtain ⟨later, hready⟩ := List.head?_eq_some_iff.1 hr
    rw [coming_of_ready hready, List.cons.injEq] at hc
    refine ⟨?_, hc.2⟩
    change (dropReady s).stream.Resumable total ahead
    rwa [stream_dropReady]

/-- Whichever reads of the stream fail, a caller that goes on asking gets the tokens of a stream whose
reads do not: all of them, in their order and with all that they show, and is told once about each read
that failed. Where a token is made before all of it is known, what was given out is never written to. -/
theorem recovers_from_failures {s : TokenSource} (hs : { s.stream with failing := [] }.Steady) :
    let t := s.mapStream fun stream => { stream with failing := [] }
    (∃ ts, calls.Tells t ts) ∧ calls.Recovers s calls t ∧
      (∀ list, (calls.after s list).stream.failures =
        s.stream.failures + (calls.answers s list).countP CallAnswer.isFailure) ∧
      ∀ o, s = lexed { stream := s.stream, options := o } → ∀ list later,
        let cells : TokenCells := { stream := s.stream, options := o }
        TokenCells.lookAhead.calls.answers cells list = calls.answers s list ∧
          (calls.answers s list).filterMap CallAnswer.item? <+:
            (TokenCells.lookAhead.calls.after cells (list ++ later)).cells := by
  intro t
  have ht : t.stream.Steady := by
    rw [stream_mapStream]
    exact hs
  have hcoming : t.coming = s.coming := by cases s <;> rfl
  have htells : calls.Tells t s.coming := tells_of_gives (hcoming ▸ gives_coming ht)
  obtain ⟨ahead, hr⟩ := TextStream.exists_resumable hs
  have hresumes := (resumes s.stream.failing.toFinset.card).calls
  rw [← calls_eq] at hresumes
  refine ⟨⟨_, htells⟩, ?_, fun list => ?_, ?_⟩
  · exact (hresumes.recovers ⟨hr, rfl⟩).congr fun list => (htells.answers_eq list).symm
  · obtain ⟨later, hahead, hafter, -⟩ := hresumes.tied_after ⟨hr, rfl⟩ list
    have hstart := hr.failures_add
    have hend := hafter.failures_add
    omega
  · rintro o ho list later cells
    obtain ⟨hanswers, hprefix⟩ := TokenCells.answers_of_start s.stream o list later
    rw [← answers_lexed, ← ho] at hanswers
    exact ⟨hanswers, hanswers ▸ hprefix⟩

/-- Reads that fail at the beginning, between two lines and at the end, where the white space behind the
last token is still to be completed. -/
theorem recovers_from_failures_of_text :
    let o : LexedOptions := { invertible := true }
    let s := lexed { stream := { rest := "I \n\n go".toList, failing := [1, 3, 6] }, options := o }
    let t := lexed { stream := .ofText "I \n\n go".toList, options := o }
    let list : List Call := [.hasNext, .next, .next, .next, .next, .next, .hasNext, .next]
    { s.stream with failing := [] }.Steady ∧ calls.Recovers s calls t ∧
      (calls.after s list).stream.failures = (calls.answers s list).countP CallAnswer.isFailure ∧
      calls.answers s list =
        [ .error (.unreadable .device), .error (.unreadable .device),
          .ok (.item { word := ['I'], raw := some ['I'], after := " \n\n ".toList }),
          .error (.unreadable .device),
          .ok (.item { word := "go".toList, raw := some "go".toList, before := " \n\n ".toList }),
          .error .exhausted, .ok (.more false), .error .exhausted ] := by
  intro o s t list
  have hs : { s.stream with failing := [] }.Steady := TextStream.steady_ofText _
  obtain ⟨-, hrecovers, hcount, -⟩ := recovers_from_failures hs
  exact ⟨hs, hrecovers, (hcount list).trans (Nat.zero_add _), by decide +kernel⟩

end TokenSource

end SentenceReader
