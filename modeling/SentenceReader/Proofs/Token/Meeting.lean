import SentenceReader.Proofs.Stream.Meeting
import SentenceReader.Proofs.Token.Kept

/-! How the tokens of a stream come to an end. A token takes at least one character with it, so there
are no more of them than characters; and behind the last one there is the end of the text, or the
fault that the stream breaks off with. -/
namespace SentenceReader

namespace LinePart

/-- There are no more words in a text than characters. -/
theorem length_filterMap_bare?_le {o : LexedOptions} {parts : List LinePart}
    (h : ∀ p ∈ parts, p.Proper o) :
    (parts.filterMap bare?).length ≤ (parts.flatMap chars).length := by
  induction parts with
  | nil => exact Nat.le_refl 0
  | cons p rest ih =>
    obtain ⟨hp, hrest⟩ := List.forall_mem_cons.1 h
    have hle := ih hrest
    rw [List.flatMap_cons, List.length_append]
    cases hp with
    | space _ => exact Nat.le_trans hle (Nat.le_add_left _ _)
    | @word w raw _ _ hn =>
      have hpos : 0 < raw.length := List.length_pos_iff.2 hn
      simp only [List.filterMap_cons, bare?, List.length_cons, chars]
      omega
    | newline _ =>
      simp only [List.filterMap_cons, bare?, List.length_cons, chars, List.length_nil]
      omega

end LinePart

/-- What is left of a source of running text: the characters to be read, and the tokens that wait. -/
def LexedSource.size (s : LexedSource) : Nat := s.stream.rest.length + s.waiting

theorem LexedSource.waiting_eq (s : LexedSource) :
    s.waiting = s.ready.length + s.pending.last.toList.length := by
  unfold waiting
  cases s.pending.last <;> rfl

/-- A line adds no more tokens than it has characters. -/
theorem LexedSource.waiting_addLine_le (s : LexedSource) (line : Text) (stream : TextStream) :
    (s.addLine line stream).waiting ≤ s.waiting + line.length := by
  have hwords := LinePart.length_filterMap_bare?_le (LinePart.proper_ofLine s.options line)
  rw [LinePart.chars_ofLine] at hwords
  have hlen := congrArg List.length
    (OpenToken.map_bare_tokens s.options s.pending (LinePart.ofLine s.options line))
  simp only [OpenToken.tokens, List.length_map, List.length_append, OpenToken.length_close] at hlen
  simp only [waiting_eq, addLine, List.length_append]
  omega

/-- The words of a text, and its newline if it ends with one, take its characters. -/
theorem SpacedSource.length_tokensOf_le (newlines : Bool) (line : Text) :
    (tokensOf newlines line).length ≤ line.length := by
  have hwords : (Text.words line).length ≤ (line.filter (!isBlank ·)).length := by
    rw [← Text.flatten_words]
    have hne : ∀ w ∈ Text.words line, w ≠ [] := by
      intro w hw
      simpa using (List.mem_filter.1 hw).2
    generalize Text.words line = ws at hne
    induction ws with
    | nil => exact Nat.le_refl 0
    | cons w ws ih =>
      obtain ⟨hw, hws⟩ := List.forall_mem_cons.1 hne
      have hpos : 0 < w.length := List.length_pos_iff.2 hw
      have hle := ih hws
      simp only [List.length_cons, List.flatten_cons, List.length_append]
      omega
  rw [tokensOf, List.length_append, List.length_map]
  split
  · next hn =>
    obtain ⟨body, rfl⟩ : ∃ body, line = body ++ ['\n'] := by
      rw [Bool.and_eq_true, decide_eq_true_eq] at hn
      exact List.getLast?_eq_some_iff.1 hn.2
    have hbody := List.length_filter_le (!isBlank ·) body
    simp only [List.filter_append, List.length_append] at hwords
    simp at hwords ⊢
    omega
  · have hline := List.length_filter_le (!isBlank ·) line
    simp only [List.length_nil]
    omega

namespace TokenSource

variable {f? : Option ReadFault}

/-- What is left of a source: the characters to be read, and the tokens that wait. -/
def size (s : TokenSource) : Nat := s.stream.rest.length + s.waiting

/-- The reads of a source come to this fault, or to no fault; none is left of it where the end of the
text was met. Tokens that were given beforehand need no reads. -/
inductive Meets : Option ReadFault → TokenSource → Prop
  | lexed {f? : Option ReadFault} {s : LexedSource} (stream : s.stream.Meets f?)
    (ended : s.ended = true → f? = none) : Meets f? (lexed s)
  | spaced {f? : Option ReadFault} {s : SpacedSource} (stream : s.stream.Meets f?)
    (ended : s.ended = true → f? = none) : Meets f? (spaced s)
  | given (tokens : List Token) (mark : Text) (stream : TextStream) :
    Meets none (given tokens mark stream)

end TokenSource

/-- Filling goes well and adds nothing to what is left, or meets the fault. -/
theorem LexedSource.fill_goes {f? : Option ReadFault} {s : LexedSource} (h : s.stream.Meets f?)
    (he : s.ended = true → f? = none) :
    Goes (fun _ s' => s'.stream.Meets f? ∧ (s'.ended = true → f? = none) ∧ s'.size ≤ s.size)
      (f? = some ·) s.fill := by
  have hread := h.readLine
  fun_induction fill s with
  | case1 s hr => exact ⟨h, he, Nat.le_refl _⟩
  | case2 s hr fault stream hl =>
    rw [hl] at hread
    exact hread
  | case3 s hr stream hl =>
    rw [hl] at hread
    have hrest := TextStream.length_rest_of_readLine hl
    refine ⟨hread.1, fun _ => hread.2 rfl, ?_⟩
    simp only [size, waiting_finish]
    exact Nat.le_of_eq (by simp [finish, ← hrest])
  | case4 s hr c rest stream hl ih =>
    rw [hl] at hread
    have hrest := TextStream.length_rest_of_readLine hl
    have hwaiting := s.waiting_addLine_le (c :: rest) stream
    have hsize : (s.addLine (c :: rest) stream).size ≤ s.size := by
      simp only [size]
      change stream.rest.length + _ ≤ _
      omega
    exact (ih hread.1 he hread.1.readLine).mono fun _ s' h => ⟨h.1, h.2.1, Nat.le_trans h.2.2 hsize⟩

theorem SpacedSource.fill_goes {f? : Option ReadFault} {s : SpacedSource} (h : s.stream.Meets f?)
    (he : s.ended = true → f? = none) :
    Goes (fun _ s' => s'.stream.Meets f? ∧ (s'.ended = true → f? = none) ∧
      s'.stream.rest.length + s'.ready.length ≤ s.stream.rest.length + s.ready.length)
      (f? = some ·) s.fill := by
  have hread := h.readLine
  fun_induction fill s with
  | case1 s hr => exact ⟨h, he, Nat.le_refl _⟩
  | case2 s hr fault stream hl =>
    rw [hl] at hread
    exact hread
  | case3 s hr stream hl =>
    rw [hl] at hread
    have hrest := TextStream.length_rest_of_readLine hl
    rw [List.length_nil, Nat.zero_add] at hrest
    exact ⟨hread.1, fun _ => hread.2 rfl, Nat.le_of_eq (by rw [← hrest])⟩
  | case4 s hr c rest stream hl ih =>
    rw [hl] at hread
    have hrest := TextStream.length_rest_of_readLine hl
    have hline := length_tokensOf_le s.newlines (c :: rest)
    exact (ih hread.1 he hread.1.readLine).mono
      fun _ s' h => ⟨h.1, h.2.1, Nat.le_trans h.2.2 (by simp only; omega)⟩

namespace TokenSource

variable {f? : Option ReadFault} {s : TokenSource}

theorem Meets.fill (h : s.Meets f?) :
    Goes (fun _ s' => s'.Meets f? ∧ s'.size ≤ s.size ∧ (s'.ready = [] → f? = none))
      (f? = some ·) s.fill := by
  cases h with
  | @lexed _ s hs he =>
    have hgo := s.fill_goes hs he
    cases hf : s.fill with
    | mk result s' =>
      rw [hf] at hgo
      cases result with
      | error fault => simpa [TokenSource.fill, hf, Goes] using hgo
      | ok u =>
        have hsettled := LexedSource.settled_of_fill hf
        simp only [TokenSource.fill, hf, Goes]
        refine ⟨.lexed hgo.1 hgo.2.1, hgo.2.2, fun hr => hgo.2.1 ?_⟩
        simp only [ready] at hr
        simpa [hr] using hsettled
  | @spaced _ s hs he =>
    have hgo := s.fill_goes hs he
    cases hf : s.fill with
    | mk result s' =>
      rw [hf] at hgo
      cases result with
      | error fault => simpa [TokenSource.fill, hf, Goes] using hgo
      | ok u =>
        have hsettled := SpacedSource.settled_of_fill hf
        simp only [TokenSource.fill, hf, Goes]
        refine ⟨.spaced hgo.1 hgo.2.1, hgo.2.2, fun hr => hgo.2.1 ?_⟩
        simp only [ready] at hr
        simpa [hr] using hsettled
  | given tokens mark stream =>
    exact ⟨.given tokens mark stream, Nat.le_refl _, fun _ => rfl⟩

theorem Meets.dropReady (h : s.Meets f?) : s.dropReady.Meets f? := by
  cases h with
  | lexed hs he => exact .lexed hs he
  | spaced hs he => exact .spaced hs he
  | given tokens mark stream => exact .given tokens.tail mark stream

/-- The next token makes less of what is left; where there is none, no fault was left. -/
theorem Meets.next? (h : s.Meets f?) :
    Goes (fun found s' => s'.Meets f? ∧ s'.size + found.toList.length ≤ s.size ∧
      (found = none → f? = none)) (fun fault => f?.map .ofRead = some fault) s.next? := by
  have hgo := h.fill
  unfold TokenSource.next?
  split
  · next cause s' hf =>
    rw [hf] at hgo
    exact congrArg (Option.map Fault.ofRead) hgo
  · next s' hf =>
    rw [hf] at hgo
    split
    · next hr => exact ⟨hgo.1, hgo.2.1, fun _ => hgo.2.2 hr⟩
    · next t later hr =>
      refine ⟨hgo.1.dropReady, ?_, by simp⟩
      have hlt := waiting_dropReady_lt (s := s') (by simp [hr])
      have hle := hgo.2.1
      simp only [size, stream_dropReady, Option.toList_some, List.length_singleton] at hle ⊢
      omega

/-- Whether there is another token is answered by what comes next. -/
theorem Meets.hasNext (h : s.Meets f?) :
    Goes (fun more s' => s'.Meets f? ∧ s'.size ≤ s.size ∧ (more = false → f? = none) ∧
      (more = true → ∃ t s'', s'.next? = (.ok (some t), s'')))
      (fun fault => f?.map .ofRead = some fault) s.hasNext := by
  have hgo := h.fill
  unfold TokenSource.hasNext
  split
  · next cause s' hf =>
    rw [hf] at hgo
    exact congrArg (Option.map Fault.ofRead) hgo
  · next s' hf =>
    rw [hf] at hgo
    refine ⟨hgo.1, hgo.2.1, fun hr => hgo.2.2 (by simpa using hr), fun hr => ?_⟩
    have hfill := fill_of_fill hf
    cases ht : s'.ready with
    | nil => simp [ht] at hr
    | cons t later => exact ⟨t, s'.dropReady, by simp [TokenSource.next?, hfill, ht]⟩

end TokenSource

end SentenceReader
