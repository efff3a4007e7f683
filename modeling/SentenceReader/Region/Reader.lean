import SentenceReader.Fault
import SentenceReader.Pattern.Matching
import SentenceReader.Region.Item
import SentenceReader.Region.Tag

/-! Regions of a marked-up document: what stands inside the elements whose names a pattern accepts.
A region ends at the end tag of its own element, which is found by counting the accepted elements
that are open; a region that is open at the end of the document ends there. -/
namespace SentenceReader

/-- Which elements are regions, and whether the tags inside them belong to them. -/
structure RegionRules where
  pattern : Pattern
  keepTags : Bool := false
  deriving Repr

namespace RegionRules

/-- The tag of an accepted element that an item is, if it is one. -/
def tag? (rules : RegionRules) : MarkupItem → Option Tag
  | .text _ => none
  | .tag t => (Tag.ofText? t).filter fun tag => rules.pattern.matchesAll tag.name

/-- How an item inside a region changes the number of accepted elements that are open. -/
def depthAfter (rules : RegionRules) (depth : Nat) (item : MarkupItem) : Nat :=
  match rules.tag? item with
  | none => depth
  | some tag =>
    if tag.selfClosing then depth else if tag.closing then depth - 1 else depth + 1

def kept (rules : RegionRules) : MarkupItem → Text
  | .text t => t
  | .tag t => if rules.keepTags then t else []

/-- Reads the rest of a region; the texts of it that were read come in reverse order. -/
def readRegion (rules : RegionRules) (depth : Nat) (parts : List Text) (r : MarkupReader) :
    Except ReadFault Text × MarkupReader :=
  match _h : r.next? with
  | (.error fault, r) => (.error fault, r)
  | (.ok none, r) => (.ok parts.reverse.flatten, r)
  | (.ok (some item), r') =>
    if rules.depthAfter depth item = 0 then (.ok parts.reverse.flatten, r')
    else readRegion rules (rules.depthAfter depth item) (rules.kept item :: parts) r'
termination_by r.remaining.length
decreasing_by exact MarkupReader.length_remaining_of_next? _h

/-- Reads up to the next region and reads it, if there is one. -/
def findRegion (rules : RegionRules) (r : MarkupReader) :
    Except ReadFault (Option Text) × MarkupReader :=
  match _h : r.next? with
  | (.error fault, r) => (.error fault, r)
  | (.ok none, r) => (.ok none, r)
  | (.ok (some item), r') =>
    match rules.tag? item with
    | none => findRegion rules r'
    | some tag =>
      if tag.closing then findRegion rules r'
      else if tag.selfClosing then (.ok (some []), r')
      else
        let (result, r') := readRegion rules 1 [] r'
        (result.map some, r')
termination_by r.remaining.length
decreasing_by all_goals exact MarkupReader.length_remaining_of_next? _h

theorem length_remaining_readRegion_le (rules : RegionRules) (depth : Nat) (parts : List Text)
    (r : MarkupReader) {t : Text} {r' : MarkupReader}
    (h : rules.readRegion depth parts r = (.ok t, r')) :
    r'.remaining.length ≤ r.remaining.length := by
  fun_induction readRegion rules depth parts r with
  | case1 => simp at h
  | case2 depth parts r r₁ hr =>
    simp only [Prod.mk.injEq] at h
    exact Nat.le_of_eq (by rw [← h.2, MarkupReader.remaining_of_next?_none hr])
  | case3 depth parts r item r₁ hr hd =>
    simp only [Prod.mk.injEq] at h
    rw [← h.2]
    exact Nat.le_of_lt (MarkupReader.length_remaining_of_next? hr)
  | case4 depth parts r item r₁ hr hd ih =>
    exact Nat.le_trans (ih h) (Nat.le_of_lt (MarkupReader.length_remaining_of_next? hr))

/-- A region that is found leaves less. -/
theorem length_remaining_findRegion_lt (rules : RegionRules) (r : MarkupReader) {t : Text}
    {r' : MarkupReader} (h : rules.findRegion r = (.ok (some t), r')) :
    r'.remaining.length < r.remaining.length := by
  fun_induction findRegion rules r with
  | case1 => simp at h
  | case2 => simp at h
  | case3 r item r₁ hr ht ih =>
    exact Nat.lt_trans (ih h) (MarkupReader.length_remaining_of_next? hr)
  | case4 r item r₁ hr tag ht hc ih =>
    exact Nat.lt_trans (ih h) (MarkupReader.length_remaining_of_next? hr)
  | case5 r item r₁ hr tag ht hc hs =>
    simp only [Prod.mk.injEq] at h
    rw [← h.2]
    exact MarkupReader.length_remaining_of_next? hr
  | case6 r item r₁ hr tag ht hc hs result r₂ hp =>
    have hl := MarkupReader.length_remaining_of_next? hr
    simp only [Prod.mk.injEq] at h
    cases result with
    | error e => simp [Except.map] at h
    | ok u =>
      rw [← h.2]
      exact Nat.lt_of_le_of_lt (length_remaining_readRegion_le rules 1 [] r₁ hp) hl

end RegionRules

/-- The regions of a marked-up document, one by one. -/
structure RegionReader where
  rules : RegionRules
  reader : MarkupReader
  /-- The next region, where it was looked for already. -/
  ready : Option Text := none
  /-- Whether the last region was found. -/
  finished : Bool := false
  deriving Repr

namespace RegionReader

/-- Looks for the next region unless it was found already. -/
def fill (s : RegionReader) : Except ReadFault Unit × RegionReader :=
  if s.ready.isSome || s.finished then (.ok (), s)
  else match s.rules.findRegion s.reader with
    | (.error fault, reader) => (.error fault, { s with reader })
    | (.ok none, reader) => (.ok (), { s with reader, finished := true })
    | (.ok (some t), reader) => (.ok (), { s with reader, ready := some t })

end RegionReader

end SentenceReader
