import SentenceReader.Stream.Basic

/-! Marked-up text as items: tags, and the texts between them. A tag runs from an opening angle
bracket to the next closing one; one that never closes is a text. Items are read from blocks of a
stream, and where the blocks end does not matter. -/
namespace SentenceReader

/-- A part of marked-up text. -/
inductive MarkupItem where
  | tag (text : Text)
  | text (text : Text)
  deriving DecidableEq, Repr

namespace MarkupItem

def chars : MarkupItem → Text
  | tag t => t
  | text t => t

end MarkupItem

/-- Marked-up text that is read from a stream, with what of its last block is left. -/
structure MarkupReader where
  stream : TextStream
  buffer : Text := []
  /-- Whether the end of the stream was met. -/
  ended : Bool := false
  deriving Repr

namespace MarkupReader

/-- All that is left: in the buffer and in the stream. -/
def remaining (r : MarkupReader) : Text := r.buffer ++ r.stream.rest

/-- Reads another block behind the buffer; whether there was one. -/
def refill (r : MarkupReader) : Except ReadFault Bool × MarkupReader :=
  if r.ended then (.ok false, r)
  else match r.stream.readBlock with
    | (.error fault, stream) => (.error fault, { r with stream })
    | (.ok [], stream) => (.ok false, { r with stream, ended := true })
    | (.ok (c :: block), stream) => (.ok true, { r with stream, buffer := r.buffer ++ c :: block })

/-- The part of a text in front of a character, and the rest from it on, if it occurs. -/
def splitAt? (stop : Char) (t : Text) : Option (Text × Text) :=
  match t.dropWhile (· != stop) with
  | [] => none
  | c :: rest => some (t.takeWhile (· != stop), c :: rest)

theorem refill_ok_true {r r' : MarkupReader} (h : r.refill = (.ok true, r')) :
    r'.remaining = r.remaining ∧ r'.stream.rest.length < r.stream.rest.length := by
  unfold refill at h
  split at h
  · simp at h
  · split at h
    · simp at h
    · simp at h
    · next c block stream hr =>
      simp only [Prod.mk.injEq, true_and] at h
      subst h
      have ha := TextStream.append_of_readBlock hr
      have hl := TextStream.length_rest_of_readBlock hr
      simp only [List.length_cons] at hl
      exact ⟨by simp [remaining, ← ha], by simp only; omega⟩

theorem refill_ok_false {r r' : MarkupReader} (h : r.refill = (.ok false, r')) :
    r'.remaining = r.remaining := by
  unfold refill at h
  split at h
  · simp only [Prod.mk.injEq, true_and] at h
    rw [h]
  · split at h
    · simp at h
    · next stream hr =>
      simp only [Prod.mk.injEq, true_and] at h
      subst h
      have ha := TextStream.append_of_readBlock hr
      simp only [List.nil_append] at ha
      simp [remaining, ha]
    · simp at h

theorem append_of_splitAt? {stop : Char} {t : Text} {p : Text × Text}
    (h : splitAt? stop t = some p) : p.1 ++ p.2 = t := by
  have ht := List.takeWhile_append_dropWhile (p := (· != stop)) (l := t)
  unfold splitAt? at h
  split at h
  · simp at h
  · next c rest hd =>
    rw [Option.some.injEq] at h
    subst h
    rw [hd] at ht
    exact ht

theorem head_of_splitAt? {stop : Char} {t : Text} {p : Text × Text}
    (h : splitAt? stop t = some p) : ∃ rest, p.2 = stop :: rest := by
  unfold splitAt? at h
  split at h
  · simp at h
  · next c rest hd =>
    rw [Option.some.injEq] at h
    subst h
    have := List.head_dropWhile_not (l := t) (· != stop) (by simp [hd])
    simp [hd] at this
    exact ⟨rest, by rw [this]⟩

/-- Reads up to a character, behind what was taken already; whether it was found. The character
stays where it is. -/
def readUntil (stop : Char) (r : MarkupReader) (taken : Text) :
    Except ReadFault (Text × Bool) × MarkupReader :=
  match splitAt? stop r.buffer with
  | some (front, rest) => (.ok (taken ++ front, true), { r with buffer := rest })
  | none =>
    match _h : refill { r with buffer := [] } with
    | (.error fault, r) => (.error fault, r)
    | (.ok false, r') => (.ok (taken ++ r.buffer, false), r')
    | (.ok true, r') => readUntil stop r' (taken ++ r.buffer)
termination_by r.stream.rest.length
decreasing_by exact (refill_ok_true _h).2

/-- What is taken and what is left make up what there was. -/
theorem append_of_readUntil {stop : Char} {r r' : MarkupReader} {taken t : Text} {found : Bool}
    (h : r.readUntil stop taken = (.ok (t, found), r')) :
    t ++ r'.remaining = taken ++ r.remaining := by
  fun_induction readUntil stop r taken with
  | case1 r taken front rest hs =>
    simp only [Prod.mk.injEq, Except.ok.injEq] at h
    obtain ⟨⟨rfl, rfl⟩, rfl⟩ := h
    simp [remaining, ← append_of_splitAt? hs]
  | case2 => simp at h
  | case3 r taken hs r₁ hr =>
    simp only [Prod.mk.injEq, Except.ok.injEq] at h
    obtain ⟨⟨rfl, rfl⟩, rfl⟩ := h
    have := refill_ok_false hr
    simp only [remaining, List.nil_append] at this ⊢
    simp [this]
  | case4 r taken hs r₁ hr ih =>
    have := (refill_ok_true hr).1
    rw [ih h]
    simp only [remaining, List.nil_append] at this ⊢
    simp [this]

/-- A character that was found is what comes next. -/
theorem head_of_readUntil {stop : Char} {r r' : MarkupReader} {taken t : Text}
    (h : r.readUntil stop taken = (.ok (t, true), r')) :
    ∃ rest, r'.buffer = stop :: rest := by
  fun_induction readUntil stop r taken with
  | case1 r taken front rest hs =>
    simp only [Prod.mk.injEq, Except.ok.injEq] at h
    obtain ⟨_, rfl⟩ := h
    exact head_of_splitAt? hs
  | case2 => simp at h
  | case3 => simp at h
  | case4 r taken hs r₁ hr ih => exact ih h

/-- Reads an item whose first character is in the buffer. -/
def readItem (c : Char) (r : MarkupReader) : Except ReadFault MarkupItem × MarkupReader :=
  if c = '<' then
    match r.readUntil '>' [] with
    | (.error fault, r) => (.error fault, r)
    | (.ok (t, true), r) => (.ok (.tag (t ++ ['>'])), { r with buffer := r.buffer.tail })
    | (.ok (t, false), r) => (.ok (.text t), r)
  else
    match r.readUntil '<' [] with
    | (.error fault, r) => (.error fault, r)
    | (.ok (t, _), r) => (.ok (.text t), r)

def next? (r : MarkupReader) : Except ReadFault (Option MarkupItem) × MarkupReader :=
  match r.buffer with
  | c :: _ => wrap (r.readItem c)
  | [] =>
    match r.refill with
    | (.error fault, r) => (.error fault, r)
    | (.ok false, r) => (.ok none, r)
    | (.ok true, r) =>
      match r.buffer with
      | c :: _ => wrap (r.readItem c)
      | [] => (.ok none, r)
where
  /-- An item that was read is one that there is. -/
  wrap (result : Except ReadFault MarkupItem × MarkupReader) :
      Except ReadFault (Option MarkupItem) × MarkupReader :=
    (result.1.map some, result.2)

/-- What was taken before stays at the front. -/
theorem taken_of_readUntil {stop : Char} {r r' : MarkupReader} {taken t : Text} {found : Bool}
    (h : r.readUntil stop taken = (.ok (t, found), r')) : ∃ more, t = taken ++ more := by
  fun_induction readUntil stop r taken with
  | case1 r taken front rest hs =>
    simp only [Prod.mk.injEq, Except.ok.injEq] at h
    exact ⟨front, h.1.1.symm⟩
  | case2 => simp at h
  | case3 r taken hs r₁ hr =>
    simp only [Prod.mk.injEq, Except.ok.injEq] at h
    exact ⟨r.buffer, h.1.1.symm⟩
  | case4 r taken hs r₁ hr ih =>
    obtain ⟨more, hm⟩ := ih h
    exact ⟨r.buffer ++ more, by simp [hm]⟩

/-- Reading up to a character that does not come first takes something. -/
theorem ne_nil_of_readUntil {stop c : Char} {r r' : MarkupReader} {taken t rest : Text}
    {found : Bool} (hc : c ≠ stop) (hb : r.buffer = c :: rest)
    (h : r.readUntil stop taken = (.ok (t, found), r')) : t ≠ [] := by
  rw [readUntil] at h
  split at h
  · next front back hs =>
    simp only [Prod.mk.injEq, Except.ok.injEq] at h
    rw [← h.1.1]
    have hne : front ≠ [] := by
      intro h0
      simp [splitAt?, hb, hc] at hs
      split at hs
      · simp at hs
      · simp [h0] at hs
    simp [hne]
  · split at h
    · simp at h
    · simp only [Prod.mk.injEq, Except.ok.injEq] at h
      rw [← h.1.1, hb]
      simp
    · obtain ⟨more, hm⟩ := taken_of_readUntil h
      rw [hm, hb]
      simp

/-- An item and what is left make up what there was, and an item is not empty. -/
theorem append_of_readItem {c : Char} {r r' : MarkupReader} {rest : Text} {item : MarkupItem}
    (hb : r.buffer = c :: rest) (h : r.readItem c = (.ok item, r')) :
    item.chars ++ r'.remaining = r.remaining ∧ item.chars ≠ [] := by
  unfold readItem at h
  split at h
  · next hc =>
    split at h
    · simp at h
    · next t r₁ hr =>
      simp only [Prod.mk.injEq, Except.ok.injEq] at h
      obtain ⟨rfl, rfl⟩ := h
      obtain ⟨back, hh⟩ := head_of_readUntil hr
      have ha := append_of_readUntil hr
      simp only [remaining, hh, List.nil_append] at ha ⊢
      exact ⟨by simpa [MarkupItem.chars, hh] using ha, by simp [MarkupItem.chars]⟩
    · next t r₁ hr =>
      simp only [Prod.mk.injEq, Except.ok.injEq] at h
      obtain ⟨rfl, rfl⟩ := h
      exact ⟨append_of_readUntil hr, ne_nil_of_readUntil (by simp [hc]) hb hr⟩
  · next hc =>
    split at h
    · simp at h
    · next t found r₁ hr =>
      simp only [Prod.mk.injEq, Except.ok.injEq] at h
      obtain ⟨rfl, rfl⟩ := h
      exact ⟨append_of_readUntil hr, ne_nil_of_readUntil hc hb hr⟩

/-- The items that are read one after the other are the whole of what there was. -/
theorem append_of_next? {r r' : MarkupReader} {item : MarkupItem}
    (h : r.next? = (.ok (some item), r')) :
    item.chars ++ r'.remaining = r.remaining ∧ item.chars ≠ [] := by
  have unwrap : ∀ {result : Except ReadFault MarkupItem × MarkupReader},
      next?.wrap result = (.ok (some item), r') → result = (.ok item, r') := by
    rintro ⟨e | i, r₁⟩ hw
    · simp [next?.wrap, Except.map] at hw
    · simp [next?.wrap, Except.map] at hw
      simp [hw]
  unfold next? at h
  split at h
  · next hb => exact append_of_readItem hb (unwrap h)
  · split at h
    · simp at h
    · simp at h
    · next r₁ hr =>
      split at h
      · next hb =>
        rw [← (refill_ok_true hr).1]
        exact append_of_readItem hb (unwrap h)
      · simp at h

/-- Where there is no item, nothing is taken. -/
theorem remaining_of_next?_none {r r' : MarkupReader} (h : r.next? = (.ok none, r')) :
    r'.remaining = r.remaining := by
  have absurd : ∀ {result : Except ReadFault MarkupItem × MarkupReader},
      next?.wrap result ≠ (.ok none, r') := by
    rintro ⟨e | i, r₁⟩ <;> simp [next?.wrap, Except.map]
  unfold next? at h
  split at h
  · exact (absurd h).elim
  · split at h
    · simp at h
    · next r₁ hr =>
      simp only [Prod.mk.injEq, true_and] at h
      rw [← h]
      exact refill_ok_false hr
    · next r₁ hr =>
      split at h
      · exact (absurd h).elim
      · simp only [Prod.mk.injEq, true_and] at h
        rw [← h]
        exact (refill_ok_true hr).1

/-- Reading an item leaves less. -/
theorem length_remaining_of_next? {r r' : MarkupReader} {item : MarkupItem}
    (h : r.next? = (.ok (some item), r')) : r'.remaining.length < r.remaining.length := by
  obtain ⟨ha, hne⟩ := append_of_next? h
  have := List.length_pos_iff.2 hne
  rw [← ha, List.length_append]
  omega

end MarkupReader

end SentenceReader
