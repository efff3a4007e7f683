import SentenceReader.Proofs.Region.Coupled
import SentenceReader.Proofs.Region.Piecewise
import SentenceReader.Proofs.Retrying
import SentenceReader.Proofs.Stream.Resuming

/-! Regions of a stream some of whose reads fail. What was read of an item or of a region is kept by the
call that reads it alone, and a failure ends that call. Behind it regions are looked for as at the start
of a text, so that a caller who goes on asking gets the regions of the parts that the stream brings. -/
namespace SentenceReader

open MarkupItem (ofText)

namespace MarkupReader

/-- This much is left of a part of the text behind which a read fails, and these parts follow. -/
structure Breaks (r : MarkupReader) (t : Text) (later : List Text) : Prop where
  ended : r.ended = false
  brings : ∃ part, r.stream.Brings (part :: later) ∧ t = r.buffer ++ part
  later_ne_nil : later ≠ []

/-- Nothing is left of what was read, and these parts come next. -/
structure Restarts (r : MarkupReader) (parts : List Text) : Prop where
  ended : r.ended = false
  buffer : r.buffer = []
  brings : r.stream.Brings parts

namespace Breaks

variable {r : MarkupReader} {t : Text} {later : List Text}

theorem exists_part (h : r.Breaks t later) :
    ∃ part, t = r.buffer ++ part ∧ ∀ buffer, Breaks { r with buffer } (buffer ++ part) later := by
  obtain ⟨part, hpart, ht⟩ := h.brings
  exact ⟨part, ht, fun buffer => ⟨h.ended, ⟨part, hpart, rfl⟩, h.later_ne_nil⟩⟩

/-- Refilling puts something behind the buffer or, where the part was read to its end, fails. -/
theorem refill (h : r.Breaks t later) :
    (∃ c block r', r.refill = (.ok true, r') ∧ r'.Breaks t later ∧ r'.buffer = r.buffer ++ c :: block) ∨
      ∃ r', r.refill = (.error .device, r') ∧ t = r.buffer ∧ r'.ended = false ∧
        r'.buffer = r.buffer ∧ r'.stream.Brings later := by
  obtain ⟨part, hpart, rfl⟩ := h.brings
  have he := h.ended
  cases hpart with
  | ended => exact absurd rfl h.later_ne_nil
  | @block _ c piece part _ hread hlater =>
    have hr : r.stream.readBlock = (.ok (c :: piece), r.stream.readBlock.2) := Prod.ext hread rfl
    refine .inl ⟨c, piece,
      { r with stream := r.stream.readBlock.2, buffer := r.buffer ++ c :: piece }, ?_, ?_, rfl⟩
    · rw [MarkupReader.refill, he, if_neg Bool.false_ne_true, hr]
    · exact ⟨he, ⟨part, hlater, by simp⟩, h.later_ne_nil⟩
  | failed hread hlater =>
    have hr : r.stream.readBlock = (.error .device, r.stream.readBlock.2) := Prod.ext hread rfl
    refine .inr ⟨{ r with stream := r.stream.readBlock.2 }, ?_, List.append_nil _, he, rfl, hlater⟩
    rw [MarkupReader.refill, he, if_neg Bool.false_ne_true, hr]

/-- Reading up to a character takes what stands in front of it or, where it does not occur in what is
left of the part, fails; what was taken is lost then. -/
theorem readUntil (h : r.Breaks t later) (stop : Char) (taken : Text) :
    (stop ∈ t ∧ ∃ r', r.readUntil stop taken = (.ok (taken ++ t.takeWhile (· != stop), true), r') ∧
        r'.Breaks (t.dropWhile (· != stop)) later) ∨
      (stop ∉ t ∧ ∃ r', r.readUntil stop taken = (.error .device, r') ∧ r'.Restarts later) := by
  obtain ⟨part, ht, hbuffer⟩ := h.exists_part
  fun_induction MarkupReader.readUntil stop r taken generalizing t part with
  | case1 r taken front rest hs =>
    obtain ⟨back, rfl, hb, hf⟩ := of_splitAt?_eq_some hs
    rw [hb, List.append_assoc, List.cons_append] at ht
    refine .inl ⟨by simp [ht], { r with buffer := stop :: back }, ?_, ?_⟩
    · rw [ht, Text.takeWhile_append_cons hf]
    · rw [ht, Text.dropWhile_append_cons hf]
      exact hbuffer _
  | case2 r taken hs fault r₁ hr =>
    have hn := not_mem_of_splitAt?_eq_none hs
    rcases (hbuffer []).refill with ⟨c, block, r', hr', -⟩ | ⟨r', hr', hpart, he, hb, hbrings⟩
    · simp [hr'] at hr
    · obtain ⟨rfl, rfl⟩ : ReadFault.device = fault ∧ r' = r₁ := by simpa [hr'] using hr
      obtain rfl : part = [] := hpart
      rw [List.append_nil] at ht
      exact .inr ⟨ht ▸ hn, r', rfl, he, hb, hbrings⟩
  | case3 r taken hs r₁ hr =>
    rcases (hbuffer []).refill with ⟨c, block, r', hr', -⟩ | ⟨r', hr', -⟩
    · simp [hr'] at hr
    · simp [hr'] at hr
  | case4 r taken hs r₁ hr ih =>
    have hn := not_mem_of_splitAt?_eq_none hs
    rcases (hbuffer []).refill with ⟨c, block, r', hr', hbreaks, -⟩ | ⟨r', hr', -⟩
    · obtain rfl : r' = r₁ := by simpa [hr'] using hr
      obtain ⟨part', ht', hbuffer'⟩ := hbreaks.exists_part
      rw [ht, Text.takeWhile_append_of_not_mem hn, Text.dropWhile_append_of_not_mem hn,
        ← List.append_assoc]
      rcases ih hbreaks part' ht' hbuffer' with ⟨hm, hread⟩ | ⟨hm, hread⟩
      · exact .inl ⟨List.mem_append_right _ hm, hread⟩
      · exact .inr ⟨by simpa [hn] using hm, hread⟩
    · simp [hr'] at hr

/-- The item that is read is the first one of what is left. Where it runs up to the end of the part, it is
lost. -/
theorem readItem {c : Char} {rest : Text} (h : r.Breaks t later) (hb : r.buffer = c :: rest) :
    (∃ r', r.readItem c = (.ok (MarkupItem.first t).1, r') ∧ r'.Breaks (MarkupItem.first t).2 later) ∨
      ∃ r', r.readItem c = (.error .device, r') ∧ r'.Restarts later ∧
        MarkupItem.first t = (.text t, []) := by
  have hhead : t.head? = some c := by
    obtain ⟨part, ht, -⟩ := h.exists_part
    rw [ht, hb]
    rfl
  by_cases hc : c = '<'
  · rw [MarkupReader.readItem, if_pos hc, MarkupItem.first, if_pos (by rw [hhead, hc])]
    rcases h.readUntil '>' [] with ⟨hm, r₁, hr, hbreaks⟩ | ⟨hm, r₁, hr, hrestarts⟩
    · obtain ⟨back, hback⟩ := head_of_readUntil hr
      obtain ⟨part, ht, hbuffer⟩ := hbreaks.exists_part
      have htail : r₁.buffer.tail = back := by rw [hback, List.tail_cons]
      rw [hr, if_pos hm, ht, hback]
      refine .inl ⟨{ r₁ with buffer := r₁.buffer.tail }, rfl, ?_⟩
      rw [htail]
      exact hbuffer back
    · rw [hr, if_neg hm]
      exact .inr ⟨r₁, rfl, hrestarts, rfl⟩
  · have hhead' : ¬t.head? = some '<' := by rw [hhead]; simpa using hc
    rw [MarkupReader.readItem, if_neg hc, MarkupItem.first, if_neg hhead']
    rcases h.readUntil '<' [] with ⟨hm, r₁, hr, hbreaks⟩ | ⟨hm, r₁, hr, hrestarts⟩
    · rw [hr]
      exact .inl ⟨r₁, rfl, hbreaks⟩
    · have htake := Text.takeWhile_append_of_not_mem hm []
      have hdrop := Text.dropWhile_append_of_not_mem hm []
      rw [List.append_nil] at htake hdrop
      rw [hr]
      exact .inr ⟨r₁, rfl, hrestarts, by rw [htake, hdrop]; simp⟩

/-- The next item is the first one of what is left, if it ends in front of the failure. -/
theorem next? (h : r.Breaks t later) :
    (∃ item back r', r.next? = (.ok (some item), r') ∧ r'.Breaks back later ∧
        ofText t = item :: ofText back) ∨
      ∃ r', r.next? = (.error .device, r') ∧ r'.Restarts later ∧ (ofText t = [] ∨ ofText t = [.text t]) := by
  have hitem {r : MarkupReader} {c : Char} {rest : Text} (h : r.Breaks t later) (hb : r.buffer = c :: rest) :
      (∃ item back r', next?.wrap (r.readItem c) = (.ok (some item), r') ∧ r'.Breaks back later ∧
          ofText t = item :: ofText back) ∨
        ∃ r', next?.wrap (r.readItem c) = (.error .device, r') ∧ r'.Restarts later ∧
          (ofText t = [] ∨ ofText t = [.text t]) := by
    have hne : t ≠ [] := by
      obtain ⟨part, ht, -⟩ := h.exists_part
      rw [ht, hb]
      exact List.cons_ne_nil _ _
    rcases h.readItem hb with ⟨r', hr, hbreaks⟩ | ⟨r', hr, hrestarts, hfirst⟩
    · exact .inl ⟨_, _, r', by rw [hr]; rfl, hbreaks, MarkupItem.ofText_eq_cons hne⟩
    · refine .inr ⟨r', by rw [hr]; rfl, hrestarts, .inr ?_⟩
      rw [MarkupItem.ofText_eq_cons hne, hfirst, MarkupItem.ofText_nil]
  cases hb : r.buffer with
  | cons c rest =>
    rw [MarkupReader.next?, hb]
    exact hitem h hb
  | nil =>
    rw [MarkupReader.next?, hb]
    rcases h.refill with ⟨c, block, r₁, hr₁, hbreaks, hb₁⟩ | ⟨r₁, hr₁, ht, he, hb₁, hbrings⟩
    · rw [hb, List.nil_append] at hb₁
      simp only [hr₁, hb₁]
      exact hitem hbreaks hb₁
    · rw [hb] at ht hb₁
      rw [hr₁]
      exact .inr ⟨r₁, rfl, ⟨he, hb₁, hbrings⟩, .inl (by rw [ht, MarkupItem.ofText_nil])⟩

end Breaks

end MarkupReader

namespace RegionRules

variable (rules : RegionRules) {r : MarkupReader} {t : Text} {later : List Text}

/-- Where reading fails, what was left of the part ends no region. -/
theorem ended_of_text (s : Option OpenRegion) (h : ofText t = [] ∨ ofText t = [.text t]) :
    rules.ended s (ofText t) = [] := by
  rcases h with h | h
  · rw [h, ended]
  · rw [h, ended, ended, (rules.meet_text s t).1]
    rfl

/-- Reading the rest of a region ends it or, where the part does not, fails. -/
theorem readRegion_breaks (h : r.Breaks t later) (region : OpenRegion) (parts : List Text)
    (hparts : parts.reverse.flatten = region.text) :
    (∃ text back r', rules.readRegion region.depth parts r = (.ok text, r') ∧ r'.Breaks back later ∧
        rules.ended (some region) (ofText t) = text :: rules.ended none (ofText back)) ∨
      ∃ r', rules.readRegion region.depth parts r = (.error .device, r') ∧ r'.Restarts later ∧
        rules.ended (some region) (ofText t) = [] := by
  induction hitems : ofText t generalizing r t region parts with
  | nil =>
    rcases h.next? with ⟨item, back, r', -, -, ht⟩ | ⟨r', hr, hrestarts, -⟩
    · simp [hitems] at ht
    · rw [readRegion_eq, hr]
      exact .inr ⟨r', rfl, hrestarts, rfl⟩
  | cons item items ih =>
    rw [readRegion_eq]
    rcases h.next? with ⟨item', back, r', hr, hbreaks, ht⟩ | ⟨r', hr, hrestarts, ht⟩
    · obtain ⟨rfl, rfl⟩ := List.cons.inj (hitems.symm.trans ht)
      rw [hr, ended, meet]
      by_cases hd : rules.depthAfter region.depth item = 0
      · rw [dif_pos hd]
        simp only [if_pos hd]
        exact .inl ⟨_, back, r', rfl, hbreaks, by rw [hparts]; rfl⟩
      · rw [dif_neg hd]
        simp only [if_neg hd]
        exact ih hbreaks ⟨_, _, hd⟩ _ (by simp [hparts]) rfl
    · rw [hr, ← hitems]
      exact .inr ⟨r', rfl, hrestarts, rules.ended_of_text _ ht⟩

/-- Looking for a region finds the first of those that end in front of the failure or, if there is none,
fails. -/
theorem findRegion_breaks (h : r.Breaks t later) :
    (∃ text back r', rules.findRegion r = (.ok (some text), r') ∧ r'.Breaks back later ∧
        rules.ended none (ofText t) = text :: rules.ended none (ofText back)) ∨
      ∃ r', rules.findRegion r = (.error .device, r') ∧ r'.Restarts later ∧
        rules.ended none (ofText t) = [] := by
  induction hitems : ofText t generalizing r t with
  | nil =>
    rcases h.next? with ⟨item, back, r', -, -, ht⟩ | ⟨r', hr, hrestarts, -⟩
    · simp [hitems] at ht
    · rw [findRegion_eq, hr]
      exact .inr ⟨r', rfl, hrestarts, rfl⟩
  | cons item items ih =>
    rw [findRegion_eq]
    rcases h.next? with ⟨item', back, r', hr, hbreaks, ht⟩ | ⟨r', hr, hrestarts, ht⟩
    · obtain ⟨rfl, rfl⟩ := List.cons.inj (hitems.symm.trans ht)
      rw [hr, ended, meet]
      dsimp only
      cases htag : rules.tag? item with
      | none => exact ih hbreaks rfl
      | some tag =>
        by_cases hc : tag.closing = true
        · simp only [hc, if_true]
          exact ih hbreaks rfl
        · by_cases hs : tag.selfClosing = true
          · simp only [hc, hs, if_true]
            exact .inl ⟨[], back, r', rfl, hbreaks, rfl⟩
          · simp only [hc, hs]
            rcases rules.readRegion_breaks hbreaks ⟨1, [], Nat.one_ne_zero⟩ [] rfl with
              ⟨text, back, r', hread, hbreaks, hended⟩ | ⟨r', hread, hrestarts, hended⟩
            · rw [hread]
              exact .inl ⟨text, back, r', rfl, hbreaks, hended⟩
            · rw [hread]
              exact .inr ⟨r', rfl, hrestarts, hended⟩
    · rw [hr, ← hitems]
      exact .inr ⟨r', rfl, hrestarts, rules.ended_of_text _ ht⟩

end RegionRules

namespace MarkupReader

variable {rules : RegionRules} {r : MarkupReader} {n : Nat} {texts : List Text}

/-- These regions are to come where a caller goes on behind so many failures that are ahead. -/
inductive Offers (rules : RegionRules) : Nat → MarkupReader → List Text → Prop
  | last {r items} (h : r.Holds items) : Offers rules 0 r (rules.regionsOf items)
  | breaks {r t later} (h : r.Breaks t later) :
      Offers rules later.length r (rules.ended none (ofText t) ++ rules.piecewise later)

theorem Restarts.offers {part : Text} {parts : List Text} (h : r.Restarts (part :: parts)) :
    r.Offers rules parts.length (rules.piecewise (part :: parts)) := by
  cases parts with
  | nil =>
    have hsound : r.Sound :=
      ⟨fun _ => h.brings.exists_delivers, fun he => absurd (h.ended.symm.trans he) Bool.false_ne_true⟩
    have hrest : part = r.remaining := by
      have hflatten := h.brings.flatten
      rw [List.flatten_singleton] at hflatten
      rw [remaining, h.buffer, List.nil_append, hflatten]
    exact .last ⟨hsound, congrArg ofText hrest.symm⟩
  | cons next parts =>
    have hpart : part = r.buffer ++ part := by rw [h.buffer, List.nil_append]
    exact .breaks ⟨h.ended, ⟨part, h.brings, hpart⟩, List.cons_ne_nil _ _⟩

/-- Looking for a region finds the first of those that are to come, or fails and leaves all of them. -/
theorem Offers.findRegion (h : r.Offers rules n texts) :
    (∃ r', rules.findRegion r = (.ok texts.head?, r') ∧ r'.Offers rules n texts.tail) ∨
      ∃ m r', n = m + 1 ∧ rules.findRegion r = (.error .device, r') ∧ r'.Offers rules m texts := by
  cases h with
  | last h =>
    obtain ⟨r', later, hfind, hholds, htail⟩ := rules.findRegion_holds h
    exact .inl ⟨r', hfind, htail ▸ .last hholds⟩
  | @breaks _ t later h =>
    rcases rules.findRegion_breaks h with ⟨text, back, r', hfind, hbreaks, hended⟩ |
      ⟨r', hfind, hrestarts, hended⟩
    · rw [hended]
      exact .inl ⟨r', hfind, .breaks hbreaks⟩
    · obtain ⟨part, parts, rfl⟩ := List.exists_cons_of_ne_nil h.later_ne_nil
      rw [hended, List.nil_append]
      exact .inr ⟨parts.length, r', rfl, hfind, hrestarts.offers⟩

end MarkupReader

/-- The regions that are to come from a reader: one that was found already, and those behind it. -/
inductive RegionReader.Comes (n : Nat) (s : RegionReader) (texts : List Text) : Prop
  | finished (h : s.finished = true) (ht : texts = s.ready.toList)
  | unfinished {later} (h : s.finished = false) (ho : s.reader.Offers s.rules n later)
      (ht : texts = s.ready.toList ++ later)

theorem RegionReader.fill_of_settled {s : RegionReader} (h : (s.ready.isSome || s.finished) = true) :
    s.fill = (.ok (), s) := by
  rw [fill, if_pos h]

theorem RegionReader.settled_of_fill {s s' : RegionReader} (h : s.fill = (.ok (), s')) :
    (s'.ready.isSome || s'.finished) = true := by
  unfold fill at h
  split at h
  · next hs => exact (Prod.mk.inj h).2 ▸ hs
  · split at h
    · simp at h
    · simp [← (Prod.mk.inj h).2]
    · simp [← (Prod.mk.inj h).2]

/-- Filling finds the first of the regions that are to come, or fails and leaves all of them. -/
theorem RegionReader.Comes.fill {s : RegionReader} {n : Nat} {texts : List Text} (h : s.Comes n texts) :
    (∃ s', s.fill = (.ok (), s') ∧ s'.ready = texts.head? ∧ s'.Comes n texts) ∨
      ∃ m s', n = m + 1 ∧ s.fill = (.error .device, s') ∧ s'.Comes m texts := by
  cases hr : s.ready with
  | some t =>
    refine .inl ⟨s, fill_of_settled (by simp [hr]), ?_, h⟩
    cases h with
    | finished h ht => simp [ht, hr]
    | unfinished h ho ht => simp [ht, hr]
  | none =>
    cases h with
    | finished h ht =>
      refine .inl ⟨s, fill_of_settled (by simp [h]), ?_, .finished h ht⟩
      simp [ht, hr]
    | @unfinished later hf ho ht =>
      rw [hr, Option.toList_none, List.nil_append] at ht
      subst ht
      have hs : (s.ready.isSome || s.finished) = false := by rw [hr, hf]; rfl
      rw [RegionReader.fill, hs, if_neg Bool.false_ne_true]
      rcases ho.findRegion with ⟨r', hfind, hoffers⟩ | ⟨m, r', hn, hfind, hoffers⟩
      · rw [hfind]
        cases texts with
        | nil =>
          exact .inl ⟨{ s with reader := r', finished := true }, rfl, hr, .finished rfl (by simp [hr])⟩
        | cons t texts =>
          exact .inl ⟨{ s with reader := r', ready := some t }, rfl, rfl, .unfinished hf hoffers rfl⟩
      · rw [hfind]
        exact .inr ⟨m, { s with reader := r' }, hn, rfl, .unfinished hf hoffers (by simp [hr])⟩

namespace RegionSource

def calls : Calls RegionSource Text := ⟨fun s => ⟨s.hasNext.1, s.hasNext.2, []⟩, reply⟩

theorem fill_of_fill {s s' : RegionSource} (h : s.fill = (.ok (), s')) : s'.fill = (.ok (), s') := by
  cases s with
  | read s =>
    simp only [fill, Prod.mk.injEq] at h
    obtain ⟨hok, rfl⟩ := h
    have hf := RegionReader.settled_of_fill (Prod.ext hok rfl)
    simp only [fill, RegionReader.fill_of_settled hf]
  | given texts stream =>
    obtain rfl := (Prod.mk.inj h).2
    rfl

def lookAhead : LookAhead RegionSource Text := .reading fill ready? dropReady fun _ _ => fill_of_fill

theorem next_lookAhead : lookAhead.next = reply := by
  funext s
  rw [reply_eq_demand]
  refine LookAhead.next_reading (fun s s' cause hf => ?_) (fun s s' hf => ?_) s
  · simp only [next?, hf]
  · simp only [next?, hf]
    cases s'.ready? <;> rfl

theorem calls_eq : calls = lookAhead.calls := by
  rw [LookAhead.calls, next_lookAhead, calls]
  congr 1
  funext s
  rw [lookAhead, LookAhead.hasNext_reading, hasNext]
  rcases s.fill with ⟨_ | u, s'⟩ <;> rfl

/-- What a source gives out it tells however it is asked. -/
theorem tells_of_gives {s : RegionSource} {texts : List Text} (h : s.Gives texts) :
    calls.Tells s texts := by
  rw [calls_eq]
  apply lookAhead.tells_of_gives
  rwa [next_lookAhead]

/-- A source that goes on behind a failure has the regions to come that it had before. -/
theorem resumes : lookAhead.Resumes fun n s texts => ∃ reader, s = read reader ∧ reader.Comes n texts where
  fill_error {n s texts fault} h hf := by
    obtain ⟨reader, rfl, hcomes⟩ := h
    change (reader.fill.1.mapError Fault.ofRead) = .error fault at hf
    rcases hcomes.fill with ⟨s', hfill, -⟩ | ⟨m, s', hn, hfill, hlater⟩
    · simp [hfill, Except.mapError] at hf
    · rw [hfill] at hf
      obtain rfl := Except.error.inj hf
      exact ⟨rfl, m, hn, reader.fill.2, rfl, by rwa [hfill]⟩
  fill_ok {n s texts} h hf := by
    obtain ⟨reader, rfl, hcomes⟩ := h
    change (reader.fill.1.mapError Fault.ofRead) = .ok () at hf
    rcases hcomes.fill with ⟨s', hfill, hready, hlater⟩ | ⟨m, s', hn, hfill, -⟩
    · refine ⟨?_, reader.fill.2, rfl, by rwa [hfill]⟩
      change reader.fill.2.ready = texts.head?
      rw [hfill, hready]
    · simp [hfill, Except.mapError] at hf
  take {n s t texts} h hr := by
    obtain ⟨reader, rfl, hcomes⟩ := h
    change reader.ready = some t at hr
    refine ⟨{ reader with ready := none }, rfl, ?_⟩
    cases hcomes with
    | finished hf ht =>
      rw [hr, Option.toList_some, List.cons.injEq] at ht
      exact .finished hf ht.2
    | unfinished hf ho ht =>
      rw [hr, Option.toList_some, List.singleton_append, List.cons.injEq] at ht
      exact .unfinished hf ho ht.2

/-- Where reads of the stream fail, a caller that goes on asking gets the regions of the parts that the
stream brings its text in, each part for itself. These are the regions of the text, which a stream without
failures gives, exactly if no region is lost, cut short or added where two parts meet; and they are where
no part but the last one ends inside of a region or a tag. -/
theorem recovers_iff [PatternHost] {written : Text} {pattern : Pattern}
    (hp : Pattern.ofText written = .ok pattern) (keepTags : Bool) {stream : TextStream}
    (hst : { stream with failing := [] }.Steady) :
    let rules : RegionRules := { pattern, keepTags }
    ∃ s t parts, ofText stream written keepTags = .ok s ∧
      ofText { stream with failing := [] } written keepTags = .ok t ∧ stream.Brings parts ∧
      calls.Tells t (rules.regionsOf (MarkupItem.ofText stream.rest)) ∧
      calls.Recovers s Calls.ofList (rules.piecewise parts) ∧
      (calls.Recovers s calls t ↔
        rules.piecewise parts = rules.regionsOf (MarkupItem.ofText stream.rest)) ∧
      ((∀ part ∈ parts.dropLast, rules.EndsOutside part) → calls.Recovers s calls t) := by
  intro rules
  let s : RegionSource := read { rules, reader := { stream } }
  let t : RegionSource := read { rules, reader := { stream := { stream with failing := [] } } }
  have hs : ofText stream written keepTags = .ok s := ofText_of_pattern hp stream keepTags
  have ht : ofText { stream with failing := [] } written keepTags = .ok t := ofText_of_pattern hp _ keepTags
  obtain ⟨pieces, hpieces⟩ := hst.exists_delivers
  have htells : calls.Tells t (rules.regionsOf (MarkupItem.ofText stream.rest)) := by
    have hgives := gives_of_pieces hpieces rules
    rw [hpieces.flatten] at hgives
    exact tells_of_gives hgives
  obtain ⟨ahead, hr⟩ := TextStream.exists_resumable hst
  obtain ⟨part, parts, hbrings⟩ := hr.exists_brings
  have hrestarts : MarkupReader.Restarts { stream } (part :: parts) := ⟨rfl, rfl, hbrings⟩
  have hresumes := resumes.calls
  rw [← calls_eq] at hresumes
  have hrecovers : calls.Recovers s Calls.ofList (rules.piecewise (part :: parts)) :=
    hresumes.recovers ⟨_, rfl, .unfinished rfl hrestarts.offers rfl⟩
  have hiff : calls.Recovers s calls t ↔
      rules.piecewise (part :: parts) = rules.regionsOf (MarkupItem.ofText stream.rest) := by
    constructor
    · intro h
      apply Calls.eq_of_answers_ofList
      intro list
      rw [← htells.answers_eq list]
      exact hrecovers.unique h list
    · intro h
      apply hrecovers.congr
      intro list
      rw [h, htells.answers_eq list]
  refine ⟨s, t, part :: parts, hs, ht, hbrings, htells, hrecovers, hiff, fun houtside => hiff.2 ?_⟩
  rw [rules.piecewise_of_endsOutside houtside, hbrings.flatten]

/-- Reads that fail at the beginning, where nothing is lost, and at the end, where an open region is. -/
theorem recovers_iff_of_text :
    let stream : TextStream := { rest := "<s>a</s><s>b".toList, failing := [1, 3] }
    let pattern : Pattern := .group {} {} (.set false [.literal 's'.toNat])
    Pattern.ofText ['s'] = .ok pattern ∧ { stream with failing := [] }.Steady ∧
      stream.Brings [[], "<s>a</s><s>b".toList, []] ∧
      ∃ s t, ofText stream ['s'] false = .ok s ∧
        ofText (.ofText "<s>a</s><s>b".toList) ['s'] false = .ok t ∧
        calls.Tells t [['a'], ['b']] ∧ calls.Recovers s Calls.ofList [['a']] ∧ ¬calls.Recovers s calls t := by
  intro stream pattern
  have hp : Pattern.ofText ['s'] = .ok pattern := rfl
  have hst : { stream with failing := [] }.Steady := TextStream.steady_ofText _
  have hbrings : stream.Brings [[], '<' :: "s>a</s><s>b".toList ++ [], []] :=
    .failed rfl (.block rfl (.failed rfl (.ended rfl)))
  have htext : '<' :: "s>a</s><s>b".toList = "<s>a</s><s>b".toList := by decide
  rw [List.append_nil, htext] at hbrings
  obtain ⟨s, t, parts, hs, ht, hparts, htells, hrecovers, hiff, -⟩ := recovers_iff hp false hst
  obtain rfl := hparts.unique hbrings
  have hwhole : ({ pattern } : RegionRules).regionsOf (MarkupItem.ofText stream.rest) = [['a'], ['b']] := by
    decide +kernel
  have hpiecewise :
      ({ pattern } : RegionRules).piecewise [[], "<s>a</s><s>b".toList, []] = [['a']] := by
    decide +kernel
  rw [hwhole] at htells hiff
  rw [hpiecewise] at hrecovers hiff
  exact ⟨hp, hst, hbrings, s, t, hs, ht, htells, hrecovers, fun h => absurd (hiff.1 h) (by simp)⟩

/-- A region that is open when a read fails is lost: the caller that asks again is told that there is no
region, where a stream without failures gives one. -/
theorem loses_open_region :
    let stream : TextStream := { rest := "<s>ab".toList, failing := [2] }
    ∃ s t, ofText stream ['s'] false = .ok s ∧ ofText (.ofText "<s>ab".toList) ['s'] false = .ok t ∧
      calls.answers s [.hasNext, .next] = [.error (.unreadable .device), .error .exhausted] ∧
      calls.answers t [.next] = [.ok (.item "ab".toList)] ∧ ¬calls.Recovers s calls t := by
  intro stream
  let pattern : Pattern := .group {} {} (.set false [.literal 's'.toNat])
  have hp : Pattern.ofText ['s'] = .ok pattern := rfl
  refine ⟨_, _, ofText_of_pattern hp _ false, ofText_of_pattern hp _ false, ?_, ?_, fun h => ?_⟩
  · decide +kernel
  · decide +kernel
  · exact absurd (h.answers [.hasNext, .next]) (by decide +kernel)

end RegionSource

end SentenceReader
