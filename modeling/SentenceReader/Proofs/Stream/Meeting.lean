import SentenceReader.Proofs.Giving
import SentenceReader.Stream.Basic

/-! What the reads of a stream meet. A stream that is read from its start gives all of its text and then
its end, or breaks off with one fault that can be told beforehand. -/
namespace SentenceReader

/-- A call goes well and leaves what it should, or breaks off with a fault that it may meet. -/
def Goes {ε σ α : Type} (well : α → σ → Prop) (badly : ε → Prop) : Except ε α × σ → Prop
  | (.ok a, s) => well a s
  | (.error e, _) => badly e

theorem Goes.mono {ε σ α : Type} {well well' : α → σ → Prop} {badly : ε → Prop}
    {r : Except ε α × σ} (h : Goes well badly r) (hw : ∀ a s, well a s → well' a s) :
    Goes well' badly r := by
  obtain ⟨result, s⟩ := r
  cases result with
  | ok a => exact hw a s h
  | error e => exact h

namespace TextStream

variable {f? : Option ReadFault} {x : TextStream}

/-- The fault that the reads of a stream come to in place of its end, if there is one. -/
def fault? (x : TextStream) : Option ReadFault := x.early.head?.or x.obstacle

/-- The stream is open, and its reads come to this fault or to no fault. -/
structure Meets (f? : Option ReadFault) (x : TextStream) : Prop where
  closed : x.closed = false
  failing : ∀ n ∈ x.failing, n ≤ x.reads
  fault : x.fault? = f?

theorem meets_ofText (t : Text) : (ofText t).Meets none := ⟨rfl, by simp [ofText], rfl⟩

theorem Meets.beginRead (h : x.Meets f?) :
    Goes (fun _ x' => x'.Meets f? ∧ x'.early = []) (f? = some ·) x.beginRead := by
  have hf : x.failing.contains (x.reads + 1) = false := by
    rw [List.contains_eq_mem, decide_eq_false_iff_not]
    intro hm
    exact Nat.not_succ_le_self _ (h.failing _ hm)
  have hfault := h.fault
  simp only [TextStream.beginRead, hf, h.closed, Bool.false_eq_true, if_false]
  split
  · next fault later he => exact hfault.symm.trans (by rw [fault?, he]; rfl)
  · next he => exact ⟨⟨rfl, fun n hn => Nat.le_succ_of_le (h.failing n hn), hfault⟩, he⟩

theorem rest_of_cutLine_nil {t : Text} (h : (cutLine t).1 = []) : t = [] := by
  unfold cutLine at h
  split at h
  · exact h
  · simp at h

/-- A line is read, which is empty only at the end, or the fault is met. -/
theorem Meets.readLine (h : x.Meets f?) :
    Goes (fun line x' => x'.Meets f? ∧ (line = [] → f? = none)) (f? = some ·) x.readLine := by
  have hb := h.beginRead
  unfold TextStream.readLine
  split
  · next hr =>
    rw [hr] at hb
    exact hb
  · next y hr =>
    rw [hr] at hb
    obtain ⟨hy, he⟩ := hb
    have hfault := hy.fault
    rw [fault?, he, List.head?_nil, Option.none_or] at hfault
    split
    · next fault ho hn => exact hfault.symm.trans ho
    · next hnot =>
      refine ⟨⟨hy.closed, hy.failing, hy.fault⟩, fun hl => ?_⟩
      cases ho : y.obstacle with
      | none => exact hfault.symm.trans ho
      | some fault => exact (hnot fault ho (by rw [rest_of_cutLine_nil hl]; rfl)).elim

/-- A block is read, which is empty only at the end, or the fault is met. -/
theorem Meets.readBlock (h : x.Meets f?) :
    Goes (fun block x' => x'.Meets f? ∧ (block = [] → f? = none)) (f? = some ·) x.readBlock := by
  have hb := h.beginRead
  unfold TextStream.readBlock
  split
  · next hr =>
    rw [hr] at hb
    exact hb
  · next y hr =>
    rw [hr] at hb
    obtain ⟨hy, he⟩ := hb
    have hfault := hy.fault
    rw [fault?, he, List.head?_nil, Option.none_or] at hfault
    split
    · next fault ho hn => exact hfault.symm.trans ho
    · next hnot =>
      refine ⟨⟨hy.closed, hy.failing, hy.fault⟩, fun hl => ?_⟩
      have hlimit : 0 < y.nextLimit := Nat.lt_of_lt_of_le Nat.zero_lt_one (Nat.le_max_left _ _)
      have hrest : y.rest = [] := by
        rw [List.take_eq_nil_iff] at hl
        exact hl.resolve_left (Nat.ne_of_gt hlimit)
      cases ho : y.obstacle with
      | none => exact hfault.symm.trans ho
      | some fault => exact (hnot fault ho (by rw [hrest]; exact decide_eq_true hlimit)).elim

end TextStream

end SentenceReader
