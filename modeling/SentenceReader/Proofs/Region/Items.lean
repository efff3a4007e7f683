import SentenceReader.Proofs.Stream.Blocks
import SentenceReader.Proofs.Text.Pieces
import SentenceReader.Region.Item

/-! The items of marked-up text. They are found in the text alone, and a reader gives exactly these
items, wherever the blocks of its stream begin and end. -/
namespace SentenceReader

namespace MarkupItem

/-- The first item of a text that is not empty, and what follows it. -/
def first (t : Text) : MarkupItem × Text :=
  if t.head? = some '<' then
    if '>' ∈ t then
      (.tag (t.takeWhile (· != '>') ++ ['>']), (t.dropWhile (· != '>')).tail)
    else (.text t, [])
  else (.text (t.takeWhile (· != '<')), t.dropWhile (· != '<'))

theorem first_tag {inner : Text} (h : '>' ∉ inner) (back : Text) :
    first ('<' :: inner ++ '>' :: back) = (.tag ('<' :: inner ++ ['>']), back) := by
  have hi : '>' ∉ '<' :: inner := by simpa using h
  rw [first, if_pos (by simp), if_pos (by simp), Text.takeWhile_append_cons hi,
    Text.dropWhile_append_cons hi, List.tail_cons]

theorem first_unclosed {inner : Text} (h : '>' ∉ inner) :
    first ('<' :: inner) = (.text ('<' :: inner), []) := by
  rw [first, if_pos (by simp), if_neg (by simpa using h)]

theorem first_text {c : Char} (t : Text) (h : c ≠ '<') :
    first (c :: t) =
      (.text (c :: t.takeWhile (· != '<')), t.dropWhile (· != '<')) := by
  rw [first, if_neg (by simpa using h), List.takeWhile_cons_of_pos (by simpa using h),
    List.dropWhile_cons_of_pos (by simpa using h)]

/-- How a text begins: with a tag, with a bracket that is never closed, or with some other text. -/
theorem first_cases {t : Text} (h : t ≠ []) :
    (∃ inner back, '>' ∉ inner ∧ t = '<' :: inner ++ '>' :: back ∧
        first t = (.tag ('<' :: inner ++ ['>']), back)) ∨
      (∃ inner, '>' ∉ inner ∧ t = '<' :: inner ∧ first t = (.text t, [])) ∨
        ∃ u back, u ≠ [] ∧ '<' ∉ u ∧ t = u ++ back ∧ first t = (.text u, back) := by
  obtain ⟨c, rest, rfl⟩ := List.exists_cons_of_ne_nil h
  by_cases hc : c = '<'
  · subst hc
    by_cases hm : '>' ∈ rest
    · obtain ⟨inner, back, rfl, hi⟩ := List.eq_append_cons_of_mem hm
      exact .inl ⟨inner, back, hi, rfl, first_tag hi back⟩
    · exact .inr (.inl ⟨rest, hm, rfl, first_unclosed hm⟩)
  · refine .inr (.inr ⟨_, _, by simp, ?_, ?_, first_text rest hc⟩)
    · rw [List.mem_cons, not_or]
      exact ⟨Ne.symm hc, Text.not_mem_takeWhile_bne rest⟩
    · rw [List.cons_append, List.takeWhile_append_dropWhile]

theorem append_first {t : Text} (h : t ≠ []) : (first t).1.chars ++ (first t).2 = t := by
  rcases first_cases h with ⟨inner, back, -, ht, hf⟩ | ⟨inner, -, -, hf⟩ | ⟨u, back, -, -, ht, hf⟩
  · rw [hf, ht]
    simp [chars]
  · rw [hf]
    simp [chars]
  · rw [hf, ht]
    rfl

theorem chars_first_ne_nil {t : Text} (h : t ≠ []) : (first t).1.chars ≠ [] := by
  rcases first_cases h with ⟨inner, back, -, -, hf⟩ | ⟨inner, -, -, hf⟩ | ⟨u, back, hu, -, -, hf⟩
  · simp [hf, chars]
  · simpa [hf, chars] using h
  · simpa [hf, chars] using hu

theorem length_first_lt {t : Text} (h : t ≠ []) : (first t).2.length < t.length := by
  have ha := congrArg List.length (append_first h)
  have hpos := List.length_pos_iff.2 (chars_first_ne_nil h)
  rw [List.length_append] at ha
  omega

def ofText (t : Text) : List MarkupItem :=
  if _h : t = [] then [] else (first t).1 :: ofText (first t).2
termination_by t.length
decreasing_by exact length_first_lt _h

@[simp] theorem ofText_nil : ofText [] = [] := by
  rw [ofText, dif_pos rfl]

theorem ofText_eq_cons {t : Text} (h : t ≠ []) : ofText t = (first t).1 :: ofText (first t).2 := by
  rw [ofText, dif_neg h]

theorem ofText_unclosed {inner : Text} (h : '>' ∉ inner) :
    ofText ('<' :: inner) = [.text ('<' :: inner)] := by
  rw [ofText_eq_cons (List.cons_ne_nil _ _), first_unclosed h, ofText_nil]

/-- A text in front of a tag, or of something that looks like one, is an item. -/
theorem ofText_text {u : Text} (hne : u ≠ []) (h : '<' ∉ u) (back : Text) :
    ofText (u ++ '<' :: back) = .text u :: ofText ('<' :: back) := by
  obtain ⟨c, u, rfl⟩ := List.exists_cons_of_ne_nil hne
  rw [List.mem_cons, not_or] at h
  rw [List.cons_append, ofText_eq_cons (List.cons_ne_nil _ _), first_text _ (Ne.symm h.1),
    Text.takeWhile_append_cons h.2, Text.dropWhile_append_cons h.2]

theorem ofText_of_no_tag {u : Text} (hne : u ≠ []) (h : '<' ∉ u) : ofText u = [.text u] := by
  obtain ⟨c, u, rfl⟩ := List.exists_cons_of_ne_nil hne
  rw [List.mem_cons, not_or] at h
  have htake := Text.takeWhile_append_of_not_mem h.2 []
  have hdrop := Text.dropWhile_append_of_not_mem h.2 []
  rw [List.append_nil] at htake hdrop
  rw [ofText_eq_cons (List.cons_ne_nil _ _), first_text _ (Ne.symm h.1), htake, hdrop]
  simp

@[simp] theorem ofText_eq_nil_iff {t : Text} : ofText t = [] ↔ t = [] := by
  constructor
  · intro h
    cases t with
    | nil => rfl
    | cons c t => simp [ofText_eq_cons (List.cons_ne_nil c t)] at h
  · rintro rfl
    exact ofText_nil

/-- The items are a text, and each of them is a tag or has no tag in it. A tag ends with the first
closing bracket behind its opening one; only a bracket that is never closed is part of a text, which
is the last item then. -/
structure Lexes (t : Text) (items : List MarkupItem) : Prop where
  whole : items.flatMap chars = t
  tag : ∀ u, .tag u ∈ items → ∃ inner, u = '<' :: inner ++ ['>'] ∧ '>' ∉ inner
  text : ∀ front u later, items = front ++ .text u :: later →
    '<' ∉ u ∨ (later = [] ∧ ∃ inner, u = '<' :: inner ∧ '>' ∉ inner)
  ne_nil : ∀ item ∈ items, item.chars ≠ []

theorem Lexes.cons {t : Text} {item : MarkupItem} {back : Text} {items : List MarkupItem}
    (h : Lexes back items) (ht : t = item.chars ++ back) (hne : item.chars ≠ [])
    (htag : ∀ u, item = .tag u → ∃ inner, u = '<' :: inner ++ ['>'] ∧ '>' ∉ inner)
    (htext : ∀ u, item = .text u →
      '<' ∉ u ∨ (items = [] ∧ ∃ inner, u = '<' :: inner ∧ '>' ∉ inner)) :
    Lexes t (item :: items) where
  whole := by rw [List.flatMap_cons, h.whole, ht]
  tag u hu := by
    rcases List.mem_cons.1 hu with hi | hu
    · exact htag u hi.symm
    · exact h.tag u hu
  text front u later he := by
    cases front with
    | nil =>
      obtain ⟨hi, rfl⟩ := List.cons.inj he
      exact htext u hi
    | cons i front => exact h.text front u later (List.cons.inj he).2
  ne_nil := List.forall_mem_cons.2 ⟨hne, h.ne_nil⟩

theorem lexes_ofText (t : Text) : Lexes t (ofText t) := by
  fun_induction ofText t with
  | case1 => exact ⟨rfl, by simp, by simp, by simp⟩
  | case2 t h ih =>
    refine ih.cons (append_first h).symm (chars_first_ne_nil h) ?_ ?_
    · intro u hu
      rcases first_cases h with ⟨inner, back, hi, -, hf⟩ | ⟨inner, -, -, hf⟩ | ⟨v, back, -, -, -, hf⟩
      · rw [hf, tag.injEq] at hu
        exact ⟨inner, hu.symm, hi⟩
      · simp [hf] at hu
      · simp [hf] at hu
    · intro u hu
      rcases first_cases h with ⟨inner, back, -, -, hf⟩ | ⟨inner, hi, ht, hf⟩ | ⟨v, back, -, hv, -, hf⟩
      · simp [hf] at hu
      · rw [hf, text.injEq] at hu
        exact .inr ⟨by rw [hf, ofText_nil], inner, by rw [← hu, ht], hi⟩
      · rw [hf, text.injEq] at hu
        exact .inl (hu ▸ hv)

example : ofText "a<s>1>2</s><b".toList =
    [.text ['a'], .tag "<s>".toList, .text "1>2".toList, .tag "</s>".toList, .text "<b".toList] := by
  decide +kernel

end MarkupItem

namespace MarkupReader

variable {stop : Char}

theorem of_splitAt?_eq_some {t front rest : Text} (h : splitAt? stop t = some (front, rest)) :
    ∃ back, rest = stop :: back ∧ t = front ++ stop :: back ∧ stop ∉ front := by
  have happ := append_of_splitAt? h
  obtain ⟨back, rfl⟩ := head_of_splitAt? h
  refine ⟨back, rfl, happ.symm, ?_⟩
  unfold splitAt? at h
  split at h
  · simp at h
  · obtain ⟨rfl, -⟩ := Prod.mk.inj (Option.some.inj h)
    exact Text.not_mem_takeWhile_bne t

theorem not_mem_of_splitAt?_eq_none {t : Text} (h : splitAt? stop t = none) : stop ∉ t := by
  unfold splitAt? at h
  split at h
  · next hd =>
    have ht := List.takeWhile_append_dropWhile (p := (· != stop)) (l := t)
    rw [hd, List.append_nil] at ht
    exact ht ▸ Text.not_mem_takeWhile_bne t
  · simp at h

/-- No read of the stream fails any more, and behind its end nothing is left. -/
structure Sound (r : MarkupReader) : Prop where
  delivers : r.ended = false → ∃ pieces, r.stream.Delivers pieces
  rest : r.ended = true → r.stream.rest = []

theorem Sound.of_delivers {stream : TextStream} {pieces : List Text} (h : stream.Delivers pieces) :
    Sound { stream } :=
  ⟨fun _ => ⟨pieces, h⟩, fun he => Bool.noConfusion he⟩

theorem Sound.withBuffer {r : MarkupReader} (h : r.Sound) (buffer : Text) :
    Sound { r with buffer } :=
  ⟨h.delivers, h.rest⟩

/-- Refilling finds the end, or puts something behind the buffer. -/
theorem Sound.refill {r : MarkupReader} (h : r.Sound) :
    (∃ r', r.refill = (.ok false, r') ∧ r'.Sound ∧ r.stream.rest = []) ∨
      ∃ c block r', r.refill = (.ok true, r') ∧ r'.Sound ∧ r'.buffer = r.buffer ++ c :: block := by
  cases he : r.ended with
  | true => exact .inl ⟨r, by simp [MarkupReader.refill, he], h, h.rest he⟩
  | false =>
    obtain ⟨pieces, hp⟩ := h.delivers he
    cases pieces with
    | nil =>
      have hr : r.stream.readBlock = (.ok [], r.stream.readBlock.2) := Prod.ext hp rfl
      have hrest := TextStream.rest_of_readBlock_nil hr
      have hrest' := TextStream.append_of_readBlock hr
      rw [hrest, List.nil_append] at hrest'
      refine .inl ⟨{ r with stream := r.stream.readBlock.2, ended := true }, ?_, ?_, hrest⟩
      · rw [MarkupReader.refill, he, if_neg (by simp), hr]
      · exact ⟨fun hf => Bool.noConfusion hf, fun _ => hrest'⟩
    | cons piece later =>
      obtain ⟨hpiece, hne, hl⟩ := hp
      obtain ⟨c, block, rfl⟩ := List.exists_cons_of_ne_nil hne
      have hr : r.stream.readBlock = (.ok (c :: block), r.stream.readBlock.2) := Prod.ext hpiece rfl
      refine .inr ⟨c, block,
        { r with stream := r.stream.readBlock.2, buffer := r.buffer ++ c :: block }, ?_, ?_, rfl⟩
      · rw [MarkupReader.refill, he, if_neg (by simp), hr]
      · exact ⟨fun _ => ⟨later, hl⟩, fun hf => absurd hf (by simp [he])⟩

/-- Reading up to a character takes what stands in front of it in all that is left, however that is
cut into blocks. -/
theorem Sound.readUntil {r : MarkupReader} (h : r.Sound) (stop : Char) (taken : Text) :
    ∃ r', r.readUntil stop taken =
        (.ok (taken ++ r.remaining.takeWhile (· != stop), decide (stop ∈ r.remaining)), r') ∧
      r'.Sound ∧ r'.remaining = r.remaining.dropWhile (· != stop) := by
  fun_induction MarkupReader.readUntil stop r taken with
  | case1 r taken front rest hs =>
    obtain ⟨back, rfl, hb, hf⟩ := of_splitAt?_eq_some hs
    have hrem : r.remaining = front ++ stop :: (back ++ r.stream.rest) := by
      rw [remaining, hb, List.append_assoc, List.cons_append]
    refine ⟨{ r with buffer := stop :: back }, ?_, h.withBuffer _, ?_⟩
    · rw [hrem, Text.takeWhile_append_cons hf]
      simp
    · rw [hrem, Text.dropWhile_append_cons hf]
      rfl
  | case2 r taken hs fault r₁ hr =>
    rcases (h.withBuffer []).refill with ⟨r', hr', -⟩ | ⟨c, block, r', hr', -⟩
    · simp [hr'] at hr
    · simp [hr'] at hr
  | case3 r taken hs r₁ hr =>
    have hn := not_mem_of_splitAt?_eq_none hs
    rcases (h.withBuffer []).refill with ⟨r', hr', hsound, hrest⟩ | ⟨c, block, r', hr', -⟩
    · obtain rfl : r' = r₁ := by simpa [hr'] using hr
      have hrem : r.remaining = r.buffer ++ [] := by rw [remaining, hrest]
      refine ⟨r', ?_, hsound, ?_⟩
      · rw [hrem, Text.takeWhile_append_of_not_mem hn]
        simp [hn]
      · rw [refill_ok_false hr', hrem, Text.dropWhile_append_of_not_mem hn, remaining, hrest]
        rfl
    · simp [hr'] at hr
  | case4 r taken hs r₁ hr ih =>
    have hn := not_mem_of_splitAt?_eq_none hs
    have hrest : r₁.remaining = r.stream.rest := by
      simpa [remaining] using (refill_ok_true hr).1
    rcases (h.withBuffer []).refill with ⟨r', hr', -⟩ | ⟨c, block, r', hr', hsound, -⟩
    · simp [hr'] at hr
    · obtain rfl : r' = r₁ := by simpa [hr'] using hr
      obtain ⟨r₂, h₁, h₂, h₃⟩ := ih hsound
      refine ⟨r₂, ?_, h₂, ?_⟩
      · rw [h₁, hrest, remaining, Text.takeWhile_append_of_not_mem hn, List.append_assoc]
        simp [hn]
      · rw [h₃, hrest, remaining, Text.dropWhile_append_of_not_mem hn]

/-- The item that is read is the first one of all that is left. -/
theorem Sound.readItem {r : MarkupReader} {c : Char} {rest : Text} (h : r.Sound)
    (hb : r.buffer = c :: rest) :
    ∃ r', r.readItem c = (.ok (MarkupItem.first r.remaining).1, r') ∧ r'.Sound ∧
      r'.remaining = (MarkupItem.first r.remaining).2 := by
  have hhead : r.remaining.head? = some c := by simp [remaining, hb]
  by_cases hc : c = '<'
  · obtain ⟨r₁, hr, hs, hrem⟩ := h.readUntil '>' []
    rw [List.nil_append] at hr
    rw [MarkupReader.readItem, if_pos hc, MarkupItem.first, if_pos (by rw [hhead, hc])]
    by_cases hm : '>' ∈ r.remaining
    · rw [decide_eq_true hm] at hr
      obtain ⟨back, hback⟩ := head_of_readUntil hr
      rw [hr, if_pos hm]
      refine ⟨_, rfl, hs.withBuffer _, ?_⟩
      rw [← hrem]
      simp [remaining, hback]
    · rw [decide_eq_false hm] at hr
      have hall : r.remaining ++ [] = r.remaining := List.append_nil _
      rw [hr, if_neg hm]
      refine ⟨r₁, ?_, hs, ?_⟩
      · rw [← hall, Text.takeWhile_append_of_not_mem hm]
        simp
      · rw [hrem, ← hall, Text.dropWhile_append_of_not_mem hm]
        rfl
  · obtain ⟨r₁, hr, hs, hrem⟩ := h.readUntil '<' []
    rw [List.nil_append] at hr
    rw [MarkupReader.readItem, if_neg hc, MarkupItem.first, if_neg (by rw [hhead]; simpa using hc), hr]
    exact ⟨r₁, rfl, hs, hrem⟩

/-- The next item is the first one of all that is left, if anything is left. -/
theorem Sound.next? {r : MarkupReader} (h : r.Sound) (hne : r.remaining ≠ []) :
    ∃ r', r.next? = (.ok (some (MarkupItem.first r.remaining).1), r') ∧ r'.Sound ∧
      r'.remaining = (MarkupItem.first r.remaining).2 := by
  cases hb : r.buffer with
  | cons c rest =>
    obtain ⟨r', hr, hs, hrem⟩ := h.readItem hb
    refine ⟨r', ?_, hs, hrem⟩
    simp [MarkupReader.next?, next?.wrap, hb, hr, Except.map]
  | nil =>
    rcases h.refill with ⟨r₁, -, -, hrest⟩ | ⟨c, block, r₁, hr₁, hs₁, hb₁⟩
    · exact absurd (by rw [remaining, hb, hrest]; rfl) hne
    · rw [hb, List.nil_append] at hb₁
      obtain ⟨r', hr, hs, hrem⟩ := hs₁.readItem hb₁
      rw [(refill_ok_true hr₁).1] at hr hrem
      refine ⟨r', ?_, hs, hrem⟩
      simp [MarkupReader.next?, next?.wrap, hb, hr₁, hb₁, hr, Except.map]

theorem Sound.next?_nil {r : MarkupReader} (h : r.Sound) (hn : r.remaining = []) :
    ∃ r', r.next? = (.ok none, r') ∧ r'.Sound ∧ r'.remaining = [] := by
  obtain ⟨hb, hrest⟩ := List.append_eq_nil_iff.1 hn
  rcases h.refill with ⟨r', hr, hs, -⟩ | ⟨c, block, r', hr, -⟩
  · refine ⟨r', ?_, hs, by rw [refill_ok_false hr, hn]⟩
    simp [MarkupReader.next?, hb, hr]
  · have hlt := (refill_ok_true hr).2
    simp [hrest] at hlt

/-- These items are left, and none of them will be missed by a fault. -/
structure Holds (r : MarkupReader) (items : List MarkupItem) : Prop where
  sound : r.Sound
  items : MarkupItem.ofText r.remaining = items

theorem Holds.next?_nil {r : MarkupReader} (h : r.Holds []) :
    ∃ r', r.next? = (.ok none, r') ∧ r'.Holds [] := by
  obtain ⟨r', hr, hs, hrem⟩ := h.sound.next?_nil (MarkupItem.ofText_eq_nil_iff.1 h.items)
  exact ⟨r', hr, hs, by rw [hrem, MarkupItem.ofText_nil]⟩

theorem Holds.next?_cons {r : MarkupReader} {item : MarkupItem} {later : List MarkupItem}
    (h : r.Holds (item :: later)) :
    ∃ r', r.next? = (.ok (some item), r') ∧ r'.Holds later := by
  have hne : r.remaining ≠ [] := by
    intro hn
    have hi := h.items
    simp [hn] at hi
  have hi := h.items
  rw [MarkupItem.ofText_eq_cons hne, List.cons.injEq] at hi
  obtain ⟨r', hr, hs, hrem⟩ := h.sound.next? hne
  rw [hi.1] at hr
  exact ⟨r', hr, hs, by rw [hrem, hi.2]⟩

/-- A reader gives exactly these items, and then nothing more. -/
def Reads : MarkupReader → List MarkupItem → Prop
  | r, [] => r.next?.1 = .ok none
  | r, item :: later => r.next?.1 = .ok (some item) ∧ r.next?.2.Reads later

theorem Holds.reads {r : MarkupReader} {items : List MarkupItem} (h : r.Holds items) :
    r.Reads items := by
  induction items generalizing r with
  | nil =>
    obtain ⟨r', hr, -⟩ := h.next?_nil
    simp [Reads, hr]
  | cons item later ih =>
    obtain ⟨r', hr, hh⟩ := h.next?_cons
    simp only [Reads, hr, true_and]
    exact ih hh

/-- A reader over any pieces of a text holds the items of the text. -/
theorem holds_ofText {stream : TextStream} {pieces : List Text} (h : stream.Delivers pieces) :
    Holds { stream } (MarkupItem.ofText pieces.flatten) :=
  ⟨.of_delivers h, by simp [remaining, h.flatten]⟩

end MarkupReader

end SentenceReader
