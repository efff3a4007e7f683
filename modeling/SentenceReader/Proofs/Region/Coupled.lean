import SentenceReader.Proofs.Region.Coming
import SentenceReader.Proofs.Stream.Coupling

/-! Regions of two coupled streams. The items and the regions of the first stream are those of the
second one, up to where reading breaks off; of a region that is broken off nothing is given out. -/
namespace SentenceReader

theorem MarkupReader.readUntil_eq (stop : Char) (r : MarkupReader) (taken : Text) :
    r.readUntil stop taken =
      match splitAt? stop r.buffer with
      | some (front, rest) => (.ok (taken ++ front, true), { r with buffer := rest })
      | none =>
        match refill { r with buffer := [] } with
        | (.error fault, r) => (.error fault, r)
        | (.ok false, r') => (.ok (taken ++ r.buffer, false), r')
        | (.ok true, r') => readUntil stop r' (taken ++ r.buffer) := by
  rw [readUntil]
  split
  · simp_all
  · split <;> simp_all

theorem RegionRules.readRegion_eq (rules : RegionRules) (depth : Nat) (parts : List Text)
    (r : MarkupReader) :
    rules.readRegion depth parts r =
      match r.next? with
      | (.error fault, r) => (.error fault, r)
      | (.ok none, r) => (.ok parts.reverse.flatten, r)
      | (.ok (some item), r) =>
        if rules.depthAfter depth item = 0 then (.ok parts.reverse.flatten, r)
        else readRegion rules (rules.depthAfter depth item) (rules.kept item :: parts) r := by
  rw [readRegion]
  split <;> simp_all

theorem RegionRules.findRegion_eq (rules : RegionRules) (r : MarkupReader) :
    rules.findRegion r =
      match r.next? with
      | (.error fault, r) => (.error fault, r)
      | (.ok none, r) => (.ok none, r)
      | (.ok (some item), r) =>
        match rules.tag? item with
        | none => findRegion rules r
        | some tag =>
          if tag.closing then findRegion rules r
          else if tag.selfClosing then (.ok (some []), r)
          else ((rules.readRegion 1 [] r).1.map some, (rules.readRegion 1 [] r).2) := by
  rw [findRegion]
  split
  · simp_all
  · simp_all
  · next item _ hn => cases ht : rules.tag? item <;> simp only [hn, ht]

namespace Coupling

variable (p : Coupling) {x : TextStream}

abbrev Markup : MarkupReader → MarkupReader → Prop :=
  p.Carried MarkupReader.stream fun t stream => { t with stream }

abbrev Regions : RegionSource → RegionSource → Prop :=
  p.Carried RegionSource.stream fun t stream => t.mapStream fun _ => stream

theorem regions_mapStream (t : RegionSource) (h : p.tied x t.stream) :
    p.Regions (t.mapStream fun _ => x) t := .intro t h

section Items

variable {s t : MarkupReader}

theorem markup_withStream (t : MarkupReader) (h : p.tied x t.stream) :
    p.Markup { t with stream := x } t := .intro t h

theorem markup_withBuffer (h : p.Markup s t) (buffer : Text) :
    p.Markup { s with buffer } { t with buffer } := by
  obtain ⟨_, h⟩ := h
  exact p.markup_withStream { t with buffer } h

theorem buffer_eq (h : p.Markup s t) : s.buffer = t.buffer := by
  obtain ⟨_, h⟩ := h
  rfl

theorem refill_markup (h : p.Markup s t) :
    Follows .device p.Markup (fun s => p.broken s.stream) s.refill t.refill := by
  obtain ⟨_, h⟩ := h
  have hr := p.readBlock h
  unfold MarkupReader.refill
  dsimp only
  split
  · exact .together (p.markup_withStream t h)
  · generalize TextStream.readBlock _ = a, t.stream.readBlock = b at hr ⊢
    cases hr with
    | breaks h => exact .breaks h
    | @together result y stream h =>
      rcases result with fault | _ | ⟨c, block⟩
      · exact .together (p.markup_withStream { t with stream } h)
      · exact .together (p.markup_withStream { t with stream, ended := true } h)
      · exact .together (p.markup_withStream { t with stream, buffer := t.buffer ++ c :: block } h)

theorem readUntil_markup (h : p.Markup s t) (stop : Char) (taken : Text) :
    Follows .device p.Markup (fun s => p.broken s.stream) (s.readUntil stop taken)
      (t.readUntil stop taken) := by
  induction hsize : t.stream.rest.length using Nat.strongRecOn generalizing s t taken with
  | ind size ih =>
    have hr := p.refill_markup (p.markup_withBuffer h [])
    rw [s.readUntil_eq, t.readUntil_eq, p.buffer_eq h]
    cases MarkupReader.splitAt? stop t.buffer with
    | some parts => exact .together (p.markup_withBuffer h parts.2)
    | none =>
      dsimp only
      generalize MarkupReader.refill { s with buffer := [] } = a,
        ht : MarkupReader.refill { t with buffer := [] } = b at hr ⊢
      cases hr with
      | breaks h => exact .breaks h
      | @together result s' t' h =>
        rcases result with fault | _ | _
        · exact .together h
        · exact .together h
        · exact ih _ (hsize ▸ (MarkupReader.refill_ok_true ht).2) h _ rfl

theorem readItem_markup (h : p.Markup s t) (c : Char) :
    Follows .device p.Markup (fun s => p.broken s.stream) (s.readItem c) (t.readItem c) := by
  unfold MarkupReader.readItem
  split
  · have hr := p.readUntil_markup h '>' []
    generalize s.readUntil '>' [] = a, t.readUntil '>' [] = b at hr ⊢
    cases hr with
    | breaks h => exact .breaks h
    | @together result s t h =>
      rcases result with fault | ⟨front, found⟩
      · exact .together h
      · cases found with
        | false => exact .together h
        | true =>
          simp only [p.buffer_eq h]
          exact .together (p.markup_withBuffer h t.buffer.tail)
  · have hr := p.readUntil_markup h '<' []
    generalize s.readUntil '<' [] = a, t.readUntil '<' [] = b at hr ⊢
    cases hr with
    | breaks h => exact .breaks h
    | @together result s t h => cases result <;> exact .together h

theorem next_markup (h : p.Markup s t) :
    Follows .device p.Markup (fun s => p.broken s.stream) s.next? t.next? := by
  have hitem (c : Char) {s t : MarkupReader} (h : p.Markup s t) :
      Follows .device p.Markup (fun s => p.broken s.stream) (MarkupReader.next?.wrap (s.readItem c))
        (MarkupReader.next?.wrap (t.readItem c)) :=
    (p.readItem_markup h c).map (Except.map some) id rfl (fun _ _ => id)
      fun _ => id
  unfold MarkupReader.next?
  rw [p.buffer_eq h]
  split
  · exact hitem _ h
  · have hr := p.refill_markup h
    generalize s.refill = a, t.refill = b at hr ⊢
    cases hr with
    | breaks h => exact .breaks h
    | @together result s t h =>
      rcases result with fault | _ | _
      · exact .together h
      · exact .together h
      · simp only [p.buffer_eq h]
        split
        · exact hitem _ h
        · exact .together h

end Items

section Regions

variable (rules : RegionRules) {s t : MarkupReader}

theorem readRegion_markup (h : p.Markup s t) (depth : Nat) (parts : List Text) :
    Follows .device p.Markup (fun s => p.broken s.stream) (rules.readRegion depth parts s)
      (rules.readRegion depth parts t) := by
  induction hsize : t.remaining.length using Nat.strongRecOn generalizing s t depth parts with
  | ind size ih =>
    have hn := p.next_markup h
    rw [rules.readRegion_eq depth parts s, rules.readRegion_eq depth parts t]
    generalize s.next? = a, ht : t.next? = b at hn ⊢
    cases hn with
    | breaks h => exact .breaks h
    | @together result s' t' h =>
      rcases result with fault | _ | item
      · exact .together h
      · exact .together h
      · have hlt := MarkupReader.length_remaining_of_next? ht
        dsimp only
        split
        · exact .together h
        · exact ih _ (hsize ▸ hlt) h _ _ rfl

theorem findRegion_markup (h : p.Markup s t) :
    Follows .device p.Markup (fun s => p.broken s.stream) (rules.findRegion s)
      (rules.findRegion t) := by
  induction hsize : t.remaining.length using Nat.strongRecOn generalizing s t with
  | ind size ih =>
    have hn := p.next_markup h
    rw [rules.findRegion_eq s, rules.findRegion_eq t]
    generalize s.next? = a, ht : t.next? = b at hn ⊢
    cases hn with
    | breaks h => exact .breaks h
    | @together result s' t' h =>
      rcases result with fault | _ | item
      · exact .together h
      · exact .together h
      · have hlt := MarkupReader.length_remaining_of_next? ht
        have hlater := ih _ (hsize ▸ hlt) h rfl
        have hregion := p.readRegion_markup rules h 1 []
        dsimp only
        cases rules.tag? item with
        | none => exact hlater
        | some tag =>
          dsimp only
          split
          · exact hlater
          · split
            · exact .together h
            · exact hregion.map (Except.map some) id rfl (fun _ _ => id) fun _ => id

end Regions

section Sources

variable {s t : RegionSource}

theorem fill_regions (h : p.Regions s t) :
    Follows .device p.Regions (fun s => p.broken s.stream) s.fill t.fill := by
  obtain ⟨_, h⟩ := h
  cases t with
  | given texts stream => exact .together (p.regions_mapStream (.given texts stream) h)
  | read t =>
    have hr := p.findRegion_markup t.rules (p.markup_withStream t.reader h)
    simp only [RegionSource.mapStream, RegionSource.fill, RegionReader.fill]
    split
    · exact .together (p.regions_mapStream (.read t) h)
    · generalize t.rules.findRegion { t.reader with stream := _ } = a,
        t.rules.findRegion t.reader = b at hr ⊢
      cases hr with
      | breaks h => exact .breaks h
      | @together result _ reader h =>
        obtain ⟨_, h⟩ := h
        rcases result with fault | _ | text
        · exact .together (p.regions_mapStream (.read { t with reader }) h)
        · exact .together (p.regions_mapStream (.read { t with reader, finished := true }) h)
        · exact .together (p.regions_mapStream (.read { t with reader, ready := some text }) h)

theorem next_regions (h : p.Regions s t) :
    Follows (.unreadable .device) p.Regions (fun s => p.broken s.stream) s.next? t.next? := by
  have hready {s t : RegionSource} (h : p.Regions s t) :
      s.ready? = t.ready? ∧ p.Regions s.dropReady t.dropReady := by
    obtain ⟨_, h⟩ := h
    cases t with
    | read t => exact ⟨rfl, p.regions_mapStream (RegionSource.read t).dropReady h⟩
    | given texts stream =>
      exact ⟨rfl, p.regions_mapStream (RegionSource.given texts stream).dropReady h⟩
  have hf := p.fill_regions h
  unfold RegionSource.next?
  generalize s.fill = a, t.fill = b at hf ⊢
  cases hf with
  | breaks h => exact .breaks h
  | @together result s t h =>
    obtain ⟨hr, hd⟩ := hready h
    cases result with
    | error cause => exact .together h
    | ok u =>
      simp only [hr]
      cases t.ready? with
      | none => exact .together h
      | some text => exact .together hd

end Sources

end Coupling

end SentenceReader
