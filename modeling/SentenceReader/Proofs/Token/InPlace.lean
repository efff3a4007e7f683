import SentenceReader.Proofs.Calls
import SentenceReader.Proofs.Token.Kept

/-! Tokens that are written to after they were made. The white space behind a token is known only when
the next one is met, and is then written into the token in its place. A token is given out when
another one stands behind it or the text has ended, and from then on nothing is written to it: tokens
that are made in place are given out as if each of them had been made complete. -/
namespace SentenceReader

namespace Calls

variable {σ τ α : Type} {p : Calls σ α} {q : Calls τ α} {R : List α → σ → τ → Prop}

/-- Two sequences whose calls have the same answers one by one have the same answers. What ties them
may speak of the items that were given out so far. -/
theorem answers_of_tied
    (step : ∀ given s t call, R given s t → (p.ask s call).1 = (q.ask t call).1 ∧
      R (given ++ (p.ask s call).1.item?.toList) (p.ask s call).2 (q.ask t call).2)
    {given : List α} {s : σ} {t : τ} (h : R given s t) (calls : List Call) :
    p.answers s calls = q.answers t calls ∧
      R (given ++ (p.answers s calls).filterMap CallAnswer.item?) (p.after s calls)
        (q.after t calls) := by
  induction calls generalizing given s t with
  | nil =>
    refine ⟨rfl, ?_⟩
    rw [answers, List.filterMap_nil, List.append_nil]
    exact h
  | cons call calls ih =>
    obtain ⟨ha, ht⟩ := step given s t call h
    obtain ⟨has, hts⟩ := ih ht
    refine ⟨by rw [answers, answers, ha, has], ?_⟩
    have hitems : (p.answers s (call :: calls)).filterMap CallAnswer.item? =
        (p.ask s call).1.item?.toList ++
          (p.answers (p.ask s call).2 calls).filterMap CallAnswer.item? := by
      rw [answers, List.filterMap_cons]
      cases (p.ask s call).1.item? <;> rfl
    rwa [hitems, ← List.append_assoc]

theorem answers_append (q : Calls τ α) (t : τ) (calls later : List Call) :
    q.answers t (calls ++ later) = q.answers t calls ++ q.answers (q.after t calls) later := by
  induction calls generalizing t with
  | nil => rfl
  | cons call calls ih => exact congrArg _ (ih _)

end Calls

/-- Running text whose tokens lie in cells, in the order in which they were made. -/
structure TokenCells where
  stream : TextStream
  options : LexedOptions
  cells : List Token := []
  /-- The cells of the tokens that were not given out yet. -/
  queue : List Nat := []
  /-- The cell of the token that was made last. -/
  last : Option Nat := none
  /-- The white space behind that token so far. -/
  gap : Text := []
  ended : Bool := false

namespace TokenCells

/-- Writes the white space behind the last token into its cell. -/
def endLast (s : TokenCells) : List Token :=
  match s.last with
  | none => s.cells
  | some i =>
    if s.options.invertible then s.cells.modify i fun t => { t with after := s.gap } else s.cells

/-- Ends the last token and makes another one, or adds to the white space behind the last one. -/
def add (s : TokenCells) : LinePart → TokenCells
  | .space run => { s with gap := s.gap ++ run }
  | .word word raw isNewline =>
    { s with
      cells := s.endLast ++ [OpenToken.token s.options s.gap word raw isNewline]
      queue := s.queue ++ [s.cells.length]
      last := some s.cells.length
      gap := [] }

def addLine (s : TokenCells) (line : Text) (stream : TextStream) : TokenCells :=
  { (LinePart.ofLine s.options line).foldl add s with stream }

/-- The cells at the end of the text, which ends the last token. -/
def finish (s : TokenCells) (stream : TextStream) : TokenCells :=
  { s with stream, cells := s.endLast, ended := true }

/-- Reads lines until two tokens are waiting or the text ends. -/
def fill (s : TokenCells) : Except ReadFault Unit × TokenCells :=
  if decide (2 ≤ s.queue.length) || s.ended then (.ok (), s)
  else match _h : s.stream.readLine with
    | (.error fault, stream) => (.error fault, { s with stream })
    | (.ok [], stream) => (.ok (), s.finish stream)
    | (.ok (c :: rest), stream) => fill (s.addLine (c :: rest) stream)
termination_by s.stream.rest.length
decreasing_by
  have := TextStream.length_rest_of_readLine _h
  simp [addLine] at this ⊢
  omega

theorem fill_of_waiting {s : TokenCells} (h : (decide (2 ≤ s.queue.length) || s.ended) = true) :
    s.fill = (.ok (), s) := by
  rw [fill, if_pos h]

theorem fill_of_reading {s : TokenCells} (h : ¬(decide (2 ≤ s.queue.length) || s.ended) = true) :
    s.fill = match s.stream.readLine with
      | (.error fault, stream) => (.error fault, { s with stream })
      | (.ok [], stream) => (.ok (), s.finish stream)
      | (.ok (c :: rest), stream) => (s.addLine (c :: rest) stream).fill := by
  rw [fill, if_neg h]
  split <;> simp only [*]

theorem fill_of_fill {s s' : TokenCells} (h : s.fill = (.ok (), s')) : s'.fill = (.ok (), s') := by
  fun_induction fill s with
  | case1 s hr =>
    obtain rfl := (Prod.mk.inj h).2
    exact fill_of_waiting hr
  | case2 s hr fault stream hl => simp at h
  | case3 s hr stream hl =>
    obtain rfl := (Prod.mk.inj h).2
    exact fill_of_waiting (by simp [finish])
  | case4 s hr c rest stream hl ih => exact ih h

def lookAhead : LookAhead TokenCells Token :=
  .reading fill (fun s => s.queue.head?.bind fun i => s.cells[i]?)
    (fun s => { s with queue := s.queue.tail }) fun _ _ => fill_of_fill

end TokenCells

namespace LexedSource

def addParts (t : LexedSource) (parts : List LinePart) : LexedSource :=
  { t with
    ready := t.ready ++ (t.pending.addParts t.options parts).1
    pending := (t.pending.addParts t.options parts).2 }

theorem addParts_cons (t : LexedSource) (part : LinePart) (parts : List LinePart) :
    t.addParts (part :: parts) = (t.addParts [part]).addParts parts := by
  have hsplit := OpenToken.addParts_append t.options t.pending [part] parts
  rw [List.singleton_append] at hsplit
  simp only [addParts, hsplit, List.append_assoc]

/-- The tokens are given out when they are complete. -/
def lookAhead : LookAhead LexedSource Token :=
  .reading fill (fun s => s.ready.head?) (fun s => { s with ready := s.ready.tail })
    fun _ _ h => fill_of_settled (settled_of_fill h)

end LexedSource

namespace TokenCells

/-- The cells hold the tokens that were given out, those that are complete, and the last one, which
alone is still written to. -/
structure Holds (given : List Token) (s : TokenCells) (t : LexedSource) : Prop where
  stream : s.stream = t.stream
  options : s.options = t.options
  ended : s.ended = t.ended
  cells : s.cells = given ++ t.ready ++ t.pending.last.toList
  queue : s.queue = List.range' given.length (t.ready.length + t.pending.last.toList.length)
  /-- Where the text has not ended, the last token is in the last cell. -/
  last : t.ended = false → s.last = t.pending.last.map fun _ => given.length + t.ready.length
  gap : t.ended = false → t.options.invertible = true → s.gap = t.pending.gap
  /-- Behind a token that is complete there is another one, or nothing. -/
  behind : t.ended = false → t.ready ≠ [] → t.pending.last ≠ none
  closed : t.ended = true → t.pending.last = none

variable {given : List Token} {s : TokenCells} {t : LexedSource}

theorem modify_concat (front : List Token) (u : Token) (f : Token → Token) :
    (front ++ [u]).modify front.length f = front ++ [f u] := by
  rw [List.modify_eq_take_cons_drop (by simp)]
  simp

namespace Holds

/-- Ending the last token in its cell completes it. -/
theorem endLast (h : Holds given s t) (he : t.ended = false) :
    s.endLast = given ++ t.ready ++ t.pending.close t.options := by
  have hlast := h.last he
  cases hp : t.pending.last with
  | none =>
    rw [hp, Option.map_none] at hlast
    simp [TokenCells.endLast, hlast, h.cells, hp, OpenToken.close]
  | some u =>
    rw [hp, Option.map_some] at hlast
    simp only [TokenCells.endLast, hlast, h.options, h.cells, hp, OpenToken.close, Option.toList_some]
    split
    · next hi =>
      rw [← List.length_append, modify_concat, h.gap he hi]
    · rfl

/-- A part adds to both alike. -/
theorem add (h : Holds given s t) (he : t.ended = false) (part : LinePart) :
    Holds given (s.add part) (t.addParts [part]) := by
  cases part with
  | space run =>
    have hp : (t.pending.addParts t.options [.space run]) =
        ([], if t.options.invertible then { t.pending with runs := run :: t.pending.runs }
          else t.pending) := rfl
    have hl : (if t.options.invertible then { t.pending with runs := run :: t.pending.runs }
        else t.pending).last = t.pending.last := by split <;> rfl
    constructor
    all_goals simp only [LexedSource.addParts, hp, hl, List.append_nil, TokenCells.add]
    · exact h.stream
    · exact h.options
    · exact h.ended
    · exact h.cells
    · exact h.queue
    · exact h.last
    · intro he hi
      rw [if_pos hi, OpenToken.gap_cons, h.gap he hi]
    · exact h.behind
    · exact h.closed
  | word w raw isNewline =>
    have hlen : s.cells.length =
        given.length + (t.ready.length + (t.pending.close t.options).length) := by
      rw [h.cells, OpenToken.length_close]
      simp
    have hp : t.pending.addParts t.options [.word w raw isNewline] =
        (t.pending.close t.options,
          ⟨some (OpenToken.token t.options t.pending.gap w raw isNewline), []⟩) := by
      simp [OpenToken.addParts]
    have htoken : OpenToken.token s.options s.gap w raw isNewline =
        OpenToken.token t.options t.pending.gap w raw isNewline := by
      rw [h.options]
      unfold OpenToken.token
      split
      · next hi => rw [h.gap he hi]
      · rfl
    constructor
    all_goals simp only [LexedSource.addParts, hp, TokenCells.add, Option.toList_some, Option.map_some]
    · exact h.stream
    · exact h.options
    · exact h.ended
    · rw [h.endLast he, htoken]
      simp
    · rw [h.queue, hlen, ← OpenToken.length_close t.options, List.length_append, List.length_singleton,
        List.range'_1_concat]
    · intro _
      rw [hlen, List.length_append]
    · intro _ _
      rfl
    · simp
    · intro ht
      rw [he] at ht
      exact Bool.noConfusion ht

theorem foldl_add (h : Holds given s t) (he : t.ended = false) (parts : List LinePart) :
    Holds given (parts.foldl TokenCells.add s) (t.addParts parts) := by
  induction parts generalizing s t with
  | nil => simpa [LexedSource.addParts, OpenToken.addParts] using h
  | cons part parts ih =>
    rw [List.foldl_cons, LexedSource.addParts_cons]
    exact ih (h.add he part) he

/-- A line adds to both alike. -/
theorem addLine (h : Holds given s t) (he : t.ended = false) (line : Text) (stream : TextStream) :
    Holds given (s.addLine line stream) (t.addLine line stream) := by
  have hline := h.foldl_add he (LinePart.ofLine s.options line)
  rw [h.options] at hline
  unfold TokenCells.addLine
  rw [h.options]
  exact ⟨rfl, hline.options, hline.ended, hline.cells, hline.queue, hline.last, hline.gap,
    hline.behind, hline.closed⟩

theorem finish (h : Holds given s t) (he : t.ended = false) (stream : TextStream) :
    Holds given (s.finish stream) (t.finish stream) := by
  constructor
  all_goals simp only [TokenCells.finish, LexedSource.finish, Option.toList_none, List.append_nil,
    List.length_append, List.length_nil, Nat.add_zero, OpenToken.length_close]
  · exact h.options
  · rw [h.endLast he, List.append_assoc]
  · exact h.queue
  all_goals simp

/-- Two tokens are waiting, or the text has ended, exactly if a token is complete or the text has
ended. -/
theorem settled (h : Holds given s t) :
    (decide (2 ≤ s.queue.length) || s.ended) = (!t.ready.isEmpty || t.ended) := by
  rw [h.ended, h.queue, List.length_range']
  cases he : t.ended with
  | true => rw [Bool.or_true, Bool.or_true]
  | false =>
    have hb := h.behind he
    cases hr : t.ready with
    | nil => cases t.pending.last <;> simp
    | cons u later =>
      cases hp : t.pending.last with
      | none => exact absurd hp (hb (by simp [hr]))
      | some v => simp

/-- Both read on until a token is complete. -/
theorem fill (h : Holds given s t) : s.fill.1 = t.fill.1 ∧ Holds given s.fill.2 t.fill.2 := by
  have hset := h.settled
  fun_induction LexedSource.fill t generalizing s with
  | case1 t hr =>
    rw [fill_of_waiting (hset.trans hr)]
    exact ⟨rfl, h⟩
  | case2 t hr fault stream hl =>
    rw [← hset] at hr
    rw [← h.stream] at hl
    rw [fill_of_reading hr, hl]
    exact ⟨rfl, rfl, h.options, h.ended, h.cells, h.queue, h.last, h.gap, h.behind, h.closed⟩
  | case3 t hr stream hl =>
    have he : t.ended = false := (Bool.or_eq_false_iff.1 (Bool.not_eq_true _ ▸ hr)).2
    rw [← hset] at hr
    rw [← h.stream] at hl
    rw [fill_of_reading hr, hl]
    exact ⟨rfl, h.finish he stream⟩
  | case4 t hr c rest stream hl ih =>
    have he : t.ended = false := (Bool.or_eq_false_iff.1 (Bool.not_eq_true _ ▸ hr)).2
    have hline := h.addLine he (c :: rest) stream
    rw [← hset] at hr
    rw [← h.stream] at hl
    rw [fill_of_reading hr, hl]
    exact ih hline hline.settled

/-- The next token is the same for both. -/
theorem ready (h : Holds given s t) (hset : (!t.ready.isEmpty || t.ended) = true) :
    TokenCells.lookAhead.ready s = LexedSource.lookAhead.ready t := by
  simp only [TokenCells.lookAhead, LexedSource.lookAhead, LookAhead.reading, h.queue, h.cells]
  cases hr : t.ready with
  | nil =>
    rw [hr, List.isEmpty_nil, Bool.not_true, Bool.false_or] at hset
    simp [h.closed hset]
  | cons u later =>
    rw [List.length_cons, Nat.succ_add, List.range'_succ]
    simp

/-- A token that is taken is one of those that were given out. -/
theorem take (h : Holds given s t) {u : Token} (hu : t.ready.head? = some u) :
    Holds (given ++ [u]) (TokenCells.lookAhead.take s) (LexedSource.lookAhead.take t) := by
  obtain ⟨later, hr⟩ := List.head?_eq_some_iff.1 hu
  have hcells := h.cells
  have hqueue := h.queue
  have hlast := h.last
  rw [hr] at hcells hqueue hlast
  constructor
  all_goals simp only [TokenCells.lookAhead, LexedSource.lookAhead, LookAhead.reading, hr, List.tail_cons]
  · exact h.stream
  · exact h.options
  · exact h.ended
  · simpa using hcells
  · rw [hqueue, List.length_cons, Nat.succ_add, List.range'_succ, List.tail_cons, List.length_append,
      List.length_singleton]
  · intro he
    rw [hlast he, List.length_append, List.length_singleton, List.length_cons, Nat.add_assoc,
      Nat.add_comm 1]
  · exact h.gap
  · intro he _
    exact h.behind he (by simp [hr])
  · exact h.closed

/-- A call has the same answer for both. -/
theorem ask (h : Holds given s t) (call : Call) :
    (TokenCells.lookAhead.calls.ask s call).1 = (LexedSource.lookAhead.calls.ask t call).1 ∧
      Holds (given ++ (TokenCells.lookAhead.calls.ask s call).1.item?.toList)
        (TokenCells.lookAhead.calls.ask s call).2 (LexedSource.lookAhead.calls.ask t call).2 := by
  have hf : Holds given (TokenCells.lookAhead.fill s).state (LexedSource.lookAhead.fill t).state :=
    h.fill.2
  have hs : (TokenCells.lookAhead.fill s).result = t.fill.1.mapError .ofRead := by rw [← h.fill.1]; rfl
  have ht : (LexedSource.lookAhead.fill t).result = t.fill.1.mapError .ofRead := rfl
  cases hres : t.fill.1 with
  | error fault =>
    rw [hres] at hs ht
    rw [TokenCells.lookAhead.ask_of_error hs, LexedSource.lookAhead.ask_of_error ht]
    simpa [CallAnswer.item?] using hf
  | ok _ =>
    rw [hres] at hs ht
    have hready := hf.ready (LexedSource.settled_of_fill (Prod.ext hres rfl))
    rw [TokenCells.lookAhead.ask_of_ok hs, LexedSource.lookAhead.ask_of_ok ht]
    cases call with
    | hasNext =>
      refine ⟨by simp only [LookAhead.answer, hready], ?_⟩
      simpa [LookAhead.answer, CallAnswer.item?] using hf
    | next =>
      simp only [LookAhead.answer, hready]
      cases hu : LexedSource.lookAhead.ready (LexedSource.lookAhead.fill t).state with
      | none => simpa [CallAnswer.item?] using hf
      | some u => exact ⟨rfl, hf.take hu⟩

end Holds

theorem holds_start (stream : TextStream) (o : LexedOptions) :
    Holds [] { stream, options := o } { stream, options := o } := by
  constructor
  all_goals simp [OpenToken.gap]

/-- Tokens that are made in place are given out as they are in the end: the calls have the same answers
as if every token had been made complete, and nothing is written to a token that was given out. -/
theorem answers_of_start (stream : TextStream) (o : LexedOptions) (calls later : List Call) :
    let s : TokenCells := { stream, options := o }
    lookAhead.calls.answers s calls =
        LexedSource.lookAhead.calls.answers { stream, options := o } calls ∧
      (lookAhead.calls.answers s calls).filterMap CallAnswer.item? <+:
        (lookAhead.calls.after s (calls ++ later)).cells := by
  have hrun := Calls.answers_of_tied (R := Holds) (fun _ _ _ call h => h.ask call)
    (holds_start stream o)
  refine ⟨(hrun calls).1, ?_⟩
  rw [(hrun (calls ++ later)).2.cells, List.nil_append, Calls.answers_append, List.filterMap_append,
    List.append_assoc, List.append_assoc]
  exact List.prefix_append _ _

end TokenCells

end SentenceReader
