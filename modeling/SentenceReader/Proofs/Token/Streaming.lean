import SentenceReader.Proofs.Token.InPlace

/-! A source of tokens as it is used, by calls in any order. Where tokens keep their characters they
keep the whole text while it streams by, and what was given out once is left as it is. -/
namespace SentenceReader

namespace TokenSource

def calls : Calls TokenSource Token := ⟨fun s => ⟨s.hasNext.1, s.hasNext.2, []⟩, reply⟩

def lookAhead : LookAhead TokenSource Token :=
  .reading fill (fun s => s.ready.head?) dropReady fun _ _ => fill_of_fill

theorem next_lookAhead : lookAhead.next = reply := by
  funext s
  rw [reply_eq_demand]
  refine LookAhead.next_reading (fun s s' cause hf => ?_) (fun s s' hf => ?_) s
  · simp only [next?, hf]
  · simp only [next?, hf]
    cases s'.ready <;> rfl

theorem calls_eq : calls = lookAhead.calls := by
  rw [LookAhead.calls, next_lookAhead, calls]
  congr 1
  funext s
  rw [lookAhead, LookAhead.hasNext_reading, hasNext]
  rcases s.fill with ⟨_ | u, s'⟩
  · rfl
  · cases hr : s'.ready <;> simp [hr, Except.map, Except.mapError]

/-- What a source gives out it tells however it is asked. -/
theorem tells_of_gives {s : TokenSource} {ts : List Token} (h : s.Gives ts) : calls.Tells s ts := by
  rw [calls_eq]
  apply lookAhead.tells_of_gives
  rwa [next_lookAhead]

/-- A source of running text answers as its tokens are completed. -/
theorem ask_lexed (s : LexedSource) (call : Call) :
    calls.ask (lexed s) call =
      ((LexedSource.lookAhead.calls.ask s call).1, lexed (LexedSource.lookAhead.calls.ask s call).2) := by
  have hs : (LexedSource.lookAhead.fill s).result = s.fill.1.mapError .ofRead := rfl
  have ht : (lookAhead.fill (lexed s)).result = s.fill.1.mapError .ofRead := rfl
  have hstate : (lookAhead.fill (lexed s)).state = lexed (LexedSource.lookAhead.fill s).state := rfl
  have hready : ∀ s : LexedSource, lookAhead.ready (lexed s) = LexedSource.lookAhead.ready s :=
    fun _ => rfl
  rw [calls_eq]
  cases hf : s.fill.1 with
  | error fault =>
    rw [hf] at hs ht
    rw [LexedSource.lookAhead.ask_of_error hs, lookAhead.ask_of_error ht, hstate]
  | ok _ =>
    rw [hf] at hs ht
    rw [LexedSource.lookAhead.ask_of_ok hs, lookAhead.ask_of_ok ht, hstate]
    cases call with
    | hasNext => simp only [LookAhead.answer, hready]
    | next =>
      simp only [LookAhead.answer, hready]
      cases LexedSource.lookAhead.ready (LexedSource.lookAhead.fill s).state <;> rfl

theorem answers_lexed (s : LexedSource) (list : List Call) :
    calls.answers (lexed s) list = LexedSource.lookAhead.calls.answers s list := by
  induction list generalizing s with
  | nil => rfl
  | cons call list ih => rw [Calls.answers, Calls.answers, ask_lexed, ih]

/-- These tokens keep a text: all of its characters are in them, each ends where the next one begins,
and what is around them is white space. -/
structure KeepText (o : LexedOptions) (t : Text) (ts : List Token) : Prop where
  text : ts ≠ [] → Sentence.rawLine ts = t
  meets : ts.IsChain fun u v => u.after = v.before
  keeps : ∀ u ∈ ts, u.Keeps o

theorem keepText_tokensOf {o : LexedOptions} (hi : o.invertible = true) (t : Text) :
    KeepText o t (o.tokensOf t) where
  text := o.rawLine_tokensOf hi
  meets := (o.isChain_tokensOf hi t).imp fun _ _ h => h.1
  keeps := o.keeps_of_mem_tokensOf hi t

/-- Where tokens keep their characters, the tokens of a text keep the text as they are when they are
given out, whatever calls are made in between; and where a token is made before all of it is known,
what was given out is never written to. -/
theorem keepText_of_invertible {options : Text} {o : LexedOptions}
    (ho : LexedOptions.read options = .ok o) (hi : o.invertible = true) {stream : TextStream}
    (hs : stream.Steady) :
    ∃ s, ofText stream options = .ok s ∧ calls.Tells s (o.tokensOf stream.rest) ∧
      KeepText o stream.rest (o.tokensOf stream.rest) ∧
      ∀ list later,
        TokenCells.lookAhead.calls.answers { stream, options := o } list = calls.answers s list ∧
        (o.tokensOf stream.rest).take (list.count .next) <+:
          (TokenCells.lookAhead.calls.after { stream, options := o } (list ++ later)).cells := by
  have hgives : (lexed { stream, options := o }).Gives (o.tokensOf stream.rest) := gives_coming hs
  have htells := tells_of_gives hgives
  refine ⟨lexed { stream, options := o }, by rw [ofText, ho]; rfl, htells,
    keepText_tokensOf hi stream.rest, fun list later => ?_⟩
  obtain ⟨hanswers, hprefix⟩ := TokenCells.answers_of_start stream o list later
  rw [← answers_lexed] at hanswers
  refine ⟨hanswers, ?_⟩
  rwa [hanswers, htells.given] at hprefix

/-- The tokens of a text that begins and ends with white space and has an empty line. -/
theorem keepText_of_blank_lines :
    let o : LexedOptions := { newlines := true, invertible := true }
    let text := "\t I don't\n\n (go) ".toList
    let tokens : List Token :=
      [ { word := "I".toList, raw := some "I".toList, before := "\t ".toList, after := [' '] },
        { word := "do".toList, raw := some "do".toList, before := [' '] },
        { word := "n't".toList, raw := some "n't".toList },
        { word := "*NL*".toList, isNewline := true, raw := some ['\n'] },
        { word := "*NL*".toList, isNewline := true, raw := some ['\n'], after := [' '] },
        { word := "-LRB-".toList, raw := some ['('], before := [' '] },
        { word := "go".toList, raw := some "go".toList },
        { word := "-RRB-".toList, raw := some [')'], after := [' '] } ]
    LexedOptions.read "invertible, tokenizeNLs=yes".toList = .ok o ∧ o.invertible = true ∧
      (TextStream.ofText text).Steady ∧
      ∃ s, ofText (TextStream.ofText text) "invertible, tokenizeNLs=yes".toList = .ok s ∧
        calls.Tells s tokens ∧ KeepText o text tokens := by
  intro o text tokens
  have ho : LexedOptions.read "invertible, tokenizeNLs=yes".toList = .ok o := by decide +kernel
  have htokens : o.tokensOf text = tokens := by decide +kernel
  obtain ⟨s, hs, htells, hkeep, -⟩ :=
    keepText_of_invertible ho rfl (TextStream.steady_ofText text)
  refine ⟨ho, rfl, TextStream.steady_ofText text, s, hs, ?_, ?_⟩
  · rw [← htokens]
    exact htells
  · rw [← htokens]
    exact hkeep

end TokenSource

end SentenceReader
