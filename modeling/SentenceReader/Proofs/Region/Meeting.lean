import SentenceReader.Proofs.Region.Coming
import SentenceReader.Proofs.Stream.Meeting

/-! How the regions of a document come to an end. The text of a region and the tag in front of it are
taken from the characters of the document; and behind the last region there is the end of the text,
or the fault that the stream breaks off with. -/
namespace SentenceReader

variable {f? : Option ReadFault}

namespace MarkupReader

/-- The reads of a reader come to this fault, or to no fault; none is left of it at the end. -/
structure Meets (f? : Option ReadFault) (r : MarkupReader) : Prop where
  stream : r.stream.Meets f?
  ended : r.ended = true → f? = none

variable {r : MarkupReader}

theorem Meets.withBuffer (h : r.Meets f?) (buffer : Text) : Meets f? { r with buffer } :=
  ⟨h.stream, h.ended⟩

theorem Meets.refill (h : r.Meets f?) :
    Goes (fun more r' => r'.Meets f? ∧ if more then r'.buffer ≠ [] else f? = none) (f? = some ·)
      r.refill := by
  have hread := h.stream.readBlock
  unfold MarkupReader.refill
  split
  · next he => exact ⟨h, h.ended he⟩
  · split
    · next fault stream hl =>
      rw [hl] at hread
      exact hread
    · next stream hl =>
      rw [hl] at hread
      exact ⟨⟨hread.1, fun _ => hread.2 rfl⟩, hread.2 rfl⟩
    · next c block stream hl =>
      rw [hl] at hread
      exact ⟨⟨hread.1, h.ended⟩, by simp⟩

theorem Meets.readUntil (h : r.Meets f?) (stop : Char) (taken : Text) :
    Goes (fun _ r' => r'.Meets f?) (f? = some ·) (r.readUntil stop taken) := by
  have hrefill := (h.withBuffer []).refill
  fun_induction MarkupReader.readUntil stop r taken with
  | case1 r taken front rest hs => exact h.withBuffer rest
  | case2 r taken hs fault r' hr =>
    rw [hr] at hrefill
    exact hrefill
  | case3 r taken hs r' hr =>
    rw [hr] at hrefill
    exact hrefill.1
  | case4 r taken hs r' hr ih =>
    rw [hr] at hrefill
    exact ih hrefill.1 (hrefill.1.withBuffer []).refill

theorem Meets.readItem (h : r.Meets f?) (c : Char) :
    Goes (fun _ r' => r'.Meets f?) (f? = some ·) (r.readItem c) := by
  have hread := fun stop => h.readUntil stop []
  unfold MarkupReader.readItem
  split
  · have hr := hread '>'
    split
    · next hf =>
      rw [hf] at hr
      exact hr
    · next r' hf =>
      rw [hf] at hr
      exact hr.withBuffer _
    · next hf =>
      rw [hf] at hr
      exact hr
  · have hr := hread '<'
    split
    · next hf =>
      rw [hf] at hr
      exact hr
    · next hf =>
      rw [hf] at hr
      exact hr

/-- An item is read, or there is none and no fault was left. -/
theorem Meets.next? (h : r.Meets f?) :
    Goes (fun found r' => r'.Meets f? ∧ (found = none → f? = none)) (f? = some ·) r.next? := by
  have hitem : ∀ {r : MarkupReader}, r.Meets f? → ∀ c,
      Goes (fun found r' => r'.Meets f? ∧ (found = none → f? = none)) (f? = some ·)
        (MarkupReader.next?.wrap (r.readItem c)) := by
    intro r h c
    have hr := h.readItem c
    generalize r.readItem c = found at hr
    obtain ⟨result, r'⟩ := found
    cases result with
    | error fault => exact hr
    | ok item => exact ⟨hr, by simp⟩
  have hrefill := h.refill
  unfold MarkupReader.next?
  split
  · exact hitem h _
  · split
    · next hf =>
      rw [hf] at hrefill
      exact hrefill
    · next hf =>
      rw [hf] at hrefill
      exact ⟨hrefill.1, fun _ => hrefill.2⟩
    · next r' hf =>
      rw [hf] at hrefill
      split
      · exact hitem hrefill.1 _
      · next hb => exact absurd hb hrefill.2

end MarkupReader

namespace RegionRules

variable (rules : RegionRules) {r : MarkupReader}

theorem length_kept_le (item : MarkupItem) : (rules.kept item).length ≤ item.chars.length := by
  cases item with
  | text t => exact Nat.le_refl _
  | tag t =>
    rw [kept]
    split
    · exact Nat.le_refl _
    · exact Nat.zero_le _

theorem readRegion_goes (h : r.Meets f?) (depth : Nat) (parts : List Text) :
    Goes (fun text r' => r'.Meets f? ∧
      text.length + r'.remaining.length ≤ parts.reverse.flatten.length + r.remaining.length)
      (f? = some ·) (rules.readRegion depth parts r) := by
  have hnext := h.next?
  fun_induction readRegion rules depth parts r with
  | case1 depth parts r fault r' hr =>
    rw [hr] at hnext
    exact hnext
  | case2 depth parts r r' hr =>
    rw [hr] at hnext
    have hrest := MarkupReader.remaining_of_next?_none hr
    exact ⟨hnext.1, Nat.le_of_eq (by rw [hrest])⟩
  | case3 depth parts r item r' hr hd =>
    rw [hr] at hnext
    have hlt := MarkupReader.length_remaining_of_next? hr
    exact ⟨hnext.1, by omega⟩
  | case4 depth parts r item r' hr hd ih =>
    rw [hr] at hnext
    have hitem := congrArg List.length (MarkupReader.append_of_next? hr).1
    have hkept := rules.length_kept_le item
    refine (ih hnext.1 hnext.1.next?).mono fun text r'' h => ⟨h.1, Nat.le_trans h.2 ?_⟩
    simp only [List.reverse_cons, List.flatten_append, List.flatten_cons, List.flatten_nil,
      List.append_nil, List.length_append] at hitem ⊢
    omega

/-- A region is found in front of the rest, or there is none and no fault was left. -/
theorem findRegion_goes (h : r.Meets f?) :
    Goes (fun found r' => r'.Meets f? ∧ (found = none → f? = none) ∧
      r'.remaining.length + (found.map fun text => text.length + 1).getD 0 ≤ r.remaining.length)
      (f? = some ·) (rules.findRegion r) := by
  have hnext := h.next?
  fun_induction findRegion rules r with
  | case1 r fault r' hr =>
    rw [hr] at hnext
    exact hnext
  | case2 r r' hr =>
    rw [hr] at hnext
    have hrest := MarkupReader.remaining_of_next?_none hr
    exact ⟨hnext.1, fun _ => hnext.2 rfl, Nat.le_of_eq (by rw [hrest]; rfl)⟩
  | case3 r item r' hr ht ih =>
    rw [hr] at hnext
    have hlt := MarkupReader.length_remaining_of_next? hr
    exact (ih hnext.1 hnext.1.next?).mono
      fun found r'' h => ⟨h.1, h.2.1, Nat.le_trans h.2.2 (Nat.le_of_lt hlt)⟩
  | case4 r item r' hr tag ht hc ih =>
    rw [hr] at hnext
    have hlt := MarkupReader.length_remaining_of_next? hr
    exact (ih hnext.1 hnext.1.next?).mono
      fun found r'' h => ⟨h.1, h.2.1, Nat.le_trans h.2.2 (Nat.le_of_lt hlt)⟩
  | case5 r item r' hr tag ht hc hs =>
    rw [hr] at hnext
    exact ⟨hnext.1, by simp, MarkupReader.length_remaining_of_next? hr⟩
  | case6 r item r' hr tag ht hc hs result r'' hp =>
    rw [hr] at hnext
    have hlt := MarkupReader.length_remaining_of_next? hr
    have hread := rules.readRegion_goes hnext.1 1 []
    rw [hp] at hread
    cases result with
    | error fault => exact hread
    | ok text =>
      refine ⟨hread.1, by simp, ?_⟩
      have hle := hread.2
      simp only [List.reverse_nil, List.flatten_nil, List.length_nil, Nat.zero_add] at hle
      simp only [Option.map_some, Option.getD_some]
      omega

end RegionRules

namespace RegionSource

/-- What is left of a source: the characters to be read. -/
def size : RegionSource → Nat
  | read s => s.reader.remaining.length
  | given _ _ => 0

/-- The reads of a source come to this fault, or to no fault; no region waits. -/
inductive Meets (f? : Option ReadFault) : RegionSource → Prop
  | read {s : RegionReader} (reader : s.reader.Meets f?) (ready : s.ready = none)
    (finished : s.finished = true → f? = none) : Meets f? (read s)

/-- The next region takes its text and more from what is left; where there is none, no fault was
left. -/
theorem Meets.next? {s : RegionSource} (h : s.Meets f?) :
    Goes (fun found s' => s'.Meets f? ∧ (found = none → f? = none) ∧
      s'.size + (found.map fun text => text.length + 1).getD 0 ≤ s.size)
      (fun fault => f?.map .ofRead = some fault) s.next? := by
  obtain ⟨hreader, hready, hfinished⟩ := h
  next s =>
  have hfind := s.rules.findRegion_goes hreader
  cases hd : s.finished with
  | true =>
    have hnext : (RegionSource.read s).next? = (.ok none, RegionSource.read s) := by
      simp [RegionSource.next?, fill, RegionReader.fill, hready, hd, ready?]
    rw [hnext]
    exact ⟨.read hreader hready hfinished, fun _ => hfinished hd, Nat.le_refl _⟩
  | false =>
    cases hf : s.rules.findRegion s.reader with
    | mk result r' =>
      rw [hf] at hfind
      cases result with
      | error fault =>
        have hnext : (RegionSource.read s).next? =
            (.error (.ofRead fault), RegionSource.read { s with reader := r' }) := by
          simp [RegionSource.next?, fill, RegionReader.fill, hready, hd, hf]
        rw [hnext]
        exact congrArg (Option.map Fault.ofRead) hfind
      | ok found =>
        cases found with
        | none =>
          have hnext : (RegionSource.read s).next? =
              (.ok none, RegionSource.read { s with reader := r', finished := true }) := by
            simp [RegionSource.next?, fill, RegionReader.fill, hready, hd, hf, ready?]
          rw [hnext]
          exact ⟨.read hfind.1 hready fun _ => hfind.2.1 rfl, hfind.2.1, hfind.2.2⟩
        | some text =>
          have hnext : (RegionSource.read s).next? =
              (.ok (some text), RegionSource.read { s with reader := r' }) := by
            simp [RegionSource.next?, fill, RegionReader.fill, hready, hd, hf, ready?, dropReady]
          rw [hnext]
          exact ⟨.read hfind.1 hready hfinished, by simp, hfind.2.2⟩

end RegionSource

end SentenceReader
