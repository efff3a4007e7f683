import SentenceReader.Proofs.Giving
import SentenceReader.Proofs.Region.Items
import SentenceReader.Region.Source

/-! The regions that are still to come from a source. They are found in the items of the text alone,
so they are the same for all pieces that the text comes in. -/
namespace SentenceReader

namespace RegionRules

/-- What some items add to a region with so many accepted elements open, and the items behind it. -/
def inside (rules : RegionRules) : Nat → List MarkupItem → Text × List MarkupItem
  | _, [] => ([], [])
  | depth, item :: later =>
    if rules.depthAfter depth item = 0 then ([], later)
    else
      let found := inside rules (rules.depthAfter depth item) later
      (rules.kept item ++ found.1, found.2)

theorem length_inside_le (rules : RegionRules) (depth : Nat) (items : List MarkupItem) :
    (rules.inside depth items).2.length ≤ items.length := by
  induction items generalizing depth with
  | nil => exact Nat.le_refl _
  | cons item later ih =>
    rw [inside]
    split
    · simp
    · have := ih (rules.depthAfter depth item)
      simp only [List.length_cons]
      omega

def regionsOf (rules : RegionRules) : List MarkupItem → List Text
  | [] => []
  | item :: later =>
    match rules.tag? item with
    | none => regionsOf rules later
    | some tag =>
      if tag.closing then regionsOf rules later
      else if tag.selfClosing then [] :: regionsOf rules later
      else (rules.inside 1 later).1 :: regionsOf rules (rules.inside 1 later).2
termination_by items => items.length
decreasing_by
  · exact Nat.lt_succ_self _
  · exact Nat.lt_succ_self _
  · exact Nat.lt_succ_self _
  · exact Nat.lt_succ_of_le (length_inside_le _ 1 later)

theorem readRegion_of_none {rules : RegionRules} {r r' : MarkupReader} (depth : Nat)
    (parts : List Text) (h : r.next? = (.ok none, r')) :
    rules.readRegion depth parts r = (.ok parts.reverse.flatten, r') := by
  rw [readRegion]
  split <;> simp_all

theorem readRegion_of_some {rules : RegionRules} {r r' : MarkupReader} {item : MarkupItem}
    (depth : Nat) (parts : List Text) (h : r.next? = (.ok (some item), r')) :
    rules.readRegion depth parts r =
      if rules.depthAfter depth item = 0 then (.ok parts.reverse.flatten, r')
      else rules.readRegion (rules.depthAfter depth item) (rules.kept item :: parts) r' := by
  rw [readRegion]
  split
  · simp_all
  · simp_all
  · next i r₁ hn =>
    obtain ⟨rfl, rfl⟩ : item = i ∧ r' = r₁ := by simpa [h] using hn
    rfl

theorem findRegion_of_none {rules : RegionRules} {r r' : MarkupReader}
    (h : r.next? = (.ok none, r')) : rules.findRegion r = (.ok none, r') := by
  rw [findRegion]
  split <;> simp_all

theorem findRegion_of_some {rules : RegionRules} {r r' : MarkupReader} {item : MarkupItem}
    (h : r.next? = (.ok (some item), r')) :
    rules.findRegion r =
      match rules.tag? item with
      | none => rules.findRegion r'
      | some tag =>
        if tag.closing then rules.findRegion r'
        else if tag.selfClosing then (.ok (some []), r')
        else ((rules.readRegion 1 [] r').1.map some, (rules.readRegion 1 [] r').2) := by
  rw [findRegion]
  split
  · simp_all
  · simp_all
  · next i r₁ hn =>
    obtain ⟨rfl, rfl⟩ : item = i ∧ r' = r₁ := by simpa [h] using hn
    rfl

/-- Reading a region takes its items and leaves those behind it. -/
theorem readRegion_holds (rules : RegionRules) {r : MarkupReader} {items : List MarkupItem}
    (h : r.Holds items) (depth : Nat) (parts : List Text) :
    ∃ r', rules.readRegion depth parts r =
        (.ok (parts.reverse.flatten ++ (rules.inside depth items).1), r') ∧
      r'.Holds (rules.inside depth items).2 := by
  induction items generalizing r depth parts with
  | nil =>
    obtain ⟨r', hr, hh⟩ := h.next?_nil
    exact ⟨r', by simp [readRegion_of_none depth parts hr, inside], hh⟩
  | cons item later ih =>
    obtain ⟨r', hr, hh⟩ := h.next?_cons
    rw [readRegion_of_some depth parts hr, inside]
    by_cases hd : rules.depthAfter depth item = 0
    · rw [if_pos hd, if_pos hd]
      exact ⟨r', by simp, hh⟩
    · rw [if_neg hd, if_neg hd]
      obtain ⟨r₁, h₁, h₂⟩ := ih hh (rules.depthAfter depth item) (rules.kept item :: parts)
      exact ⟨r₁, by simp [h₁], h₂⟩

/-- Looking for a region finds the first of those that are to come, and leaves the others. -/
theorem findRegion_holds (rules : RegionRules) {r : MarkupReader} {items : List MarkupItem}
    (h : r.Holds items) :
    ∃ r' later, rules.findRegion r = (.ok (rules.regionsOf items).head?, r') ∧ r'.Holds later ∧
      rules.regionsOf later = (rules.regionsOf items).tail := by
  fun_induction regionsOf rules items generalizing r with
  | case1 =>
    obtain ⟨r', hr, hh⟩ := h.next?_nil
    exact ⟨r', [], findRegion_of_none hr, hh, by simp [regionsOf]⟩
  | case2 item later ht ih =>
    obtain ⟨r', hr, hh⟩ := h.next?_cons
    rw [findRegion_of_some hr, ht]
    exact ih hh
  | case3 item later tag ht hc ih =>
    obtain ⟨r', hr, hh⟩ := h.next?_cons
    simp only [findRegion_of_some hr, ht, hc, if_true]
    exact ih hh
  | case4 item later tag ht hc hs ih =>
    obtain ⟨r', hr, hh⟩ := h.next?_cons
    simp only [findRegion_of_some hr, ht, hc, hs, if_true, Bool.false_eq_true, if_false]
    exact ⟨r', later, rfl, hh, rfl⟩
  | case5 item later tag ht hc hs ih =>
    obtain ⟨r', hr, hh⟩ := h.next?_cons
    obtain ⟨r₁, h₁, h₂⟩ := rules.readRegion_holds hh 1 []
    simp only [findRegion_of_some hr, ht, hc, hs, Bool.false_eq_true, if_false, h₁]
    exact ⟨r₁, _, rfl, h₂, rfl⟩

end RegionRules

namespace RegionSource

def reply (s : RegionSource) : Reply RegionSource Text := ⟨s.next.1, s.next.2, []⟩

/-- A source gives out exactly these regions, and then says that there are no more. -/
def Gives (s : RegionSource) (texts : List Text) : Prop := Reply.Gives reply .exhausted s texts

theorem Gives.unique {s : RegionSource} {xs ys : List Text} (hx : s.Gives xs) (hy : s.Gives ys) :
    xs = ys := (Reply.Gives.unique hx hy).1

theorem reply_eq_demand (s : RegionSource) : s.reply = Reply.demand s.next? := by
  simp only [reply, next, Reply.demand]
  split <;> simp [*]

theorem next?_ne_exhausted (s s' : RegionSource) : s.next? ≠ (.error .exhausted, s') := by
  intro h
  unfold next? at h
  split at h
  · simp only [Prod.mk.injEq, Except.error.injEq] at h
    exact Fault.ofRead_ne_exhausted _ h.1
  · split at h <;> simp at h

theorem gives_nil_iff (s : RegionSource) : s.Gives [] ↔ s.next?.1 = .ok none :=
  Reply.gives_nil_iff_of_demand reply_eq_demand next?_ne_exhausted s

theorem gives_cons_iff (s : RegionSource) (t : Text) (ts : List Text) :
    s.Gives (t :: ts) ↔ s.next?.1 = .ok (some t) ∧ s.next?.2.Gives ts :=
  Reply.gives_cons_iff_of_demand reply_eq_demand s t ts

/-- Texts that were given beforehand are given out. -/
theorem gives_given (texts : List Text) (stream : TextStream) : (given texts stream).Gives texts := by
  induction texts with
  | nil => exact (gives_nil_iff _).2 rfl
  | cons t ts ih => exact (gives_cons_iff _ _ _).2 ⟨rfl, ih⟩

/-- Where no read fails, a source gives out the regions of the items that are left. -/
theorem gives_regionsOf {s : RegionReader} {items : List MarkupItem} (h : s.reader.Holds items)
    (hr : s.ready = none) (hf : s.finished = false) : (read s).Gives (s.rules.regionsOf items) := by
  generalize hts : s.rules.regionsOf items = ts
  induction ts generalizing s items with
  | nil =>
    obtain ⟨r', later, hfind, -⟩ := s.rules.findRegion_holds h
    rw [hts, List.head?_nil] at hfind
    rw [gives_nil_iff]
    simp [next?, fill, RegionReader.fill, hr, hf, hfind, ready?]
  | cons t ts ih =>
    obtain ⟨r', later, hfind, hh, htail⟩ := s.rules.findRegion_holds h
    rw [hts, List.head?_cons] at hfind
    rw [hts, List.tail_cons] at htail
    rw [gives_cons_iff]
    simp only [next?, fill, RegionReader.fill, hr, hf, hfind, ready?, dropReady, true_and,
      Option.isSome_none, Bool.or_self, Bool.false_eq_true, if_false]
    exact ih hh rfl rfl htail

theorem ofText_of_pattern [PatternHost] {written : Text} {pattern : Pattern}
    (hp : Pattern.ofText written = .ok pattern) (stream : TextStream) (keepTags : Bool) :
    ofText stream written keepTags =
      .ok (read { rules := { pattern, keepTags }, reader := { stream } }) := by
  rw [ofText, hp]

/-- A source over any pieces of a text gives out the regions of the items of the text. -/
theorem gives_of_pieces {stream : TextStream} {pieces : List Text} (h : stream.Delivers pieces)
    (rules : RegionRules) :
    (read { rules, reader := { stream } }).Gives
      (rules.regionsOf (MarkupItem.ofText pieces.flatten)) :=
  gives_regionsOf (s := { rules, reader := { stream } }) (MarkupReader.holds_ofText h) rfl rfl

/-- The regions of a text are the same for all streams that give it, whatever pieces it comes in.
So are the items that they are found in, and these are the text, cut at its tags. -/
theorem gives_of_delivers [PatternHost] {written : Text} {pattern : Pattern}
    (hp : Pattern.ofText written = .ok pattern) (keepTags : Bool) (text : Text) :
    ∃ regions items, MarkupItem.Lexes text items ∧
      ∀ (stream : TextStream) (pieces : List Text), stream.Delivers pieces → pieces.flatten = text →
        ∃ s, ofText stream written keepTags = .ok s ∧ s.Gives regions ∧
          MarkupReader.Reads { stream } items := by
  refine ⟨({ pattern, keepTags } : RegionRules).regionsOf (MarkupItem.ofText text), _,
    MarkupItem.lexes_ofText text, ?_⟩
  rintro stream pieces h rfl
  exact ⟨_, ofText_of_pattern hp stream keepTags, gives_of_pieces h _,
    (MarkupReader.holds_ofText h).reads⟩

/-- Tags and texts that are cut in two, and a bracket at the end that is not closed. -/
theorem gives_of_delivers_of_pieces :
    let pieces := ["<", "s>a<b", ">c</b></", "s>d<s"].map String.toList
    let whole := ["<s>a<b>c</b></s>d<s".toList]
    let pattern : Pattern := .group {} {} (.set false [.literal 's'.toNat])
    Pattern.ofText ['s'] = .ok pattern ∧ (TextStream.ofPieces pieces).Delivers pieces ∧
      (TextStream.ofPieces whole).Delivers whole ∧ pieces.flatten = whole.flatten ∧
      ∃ s s', ofText (.ofPieces pieces) ['s'] true = .ok s ∧ s.Gives ["a<b>c</b>".toList] ∧
        ofText (.ofPieces whole) ['s'] true = .ok s' ∧ s'.Gives ["a<b>c</b>".toList] := by
  intro pieces whole pattern
  have hp : Pattern.ofText ['s'] = .ok pattern := rfl
  have h : (TextStream.ofPieces pieces).Delivers pieces :=
    TextStream.delivers_ofPieces (by decide)
  have h' : (TextStream.ofPieces whole).Delivers whole := TextStream.delivers_ofPieces (by decide)
  obtain ⟨regions, items, -, hall⟩ := gives_of_delivers hp true whole.flatten
  obtain ⟨s, hs, hg, -⟩ := hall _ pieces h (by decide)
  obtain ⟨s', hs', hg', -⟩ := hall _ whole h' rfl
  have hr : regions = ["a<b>c</b>".toList] := by
    obtain rfl := Except.ok.inj ((ofText_of_pattern hp _ true).symm.trans hs')
    rw [hg'.unique (gives_of_pieces h' _)]
    decide +kernel
  exact ⟨hp, h, h', by decide, s, s', hs, hr ▸ hg, hs', hr ▸ hg'⟩

end RegionSource

end SentenceReader
