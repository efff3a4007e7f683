import SentenceReader.Proofs.Region.Forest

/-! Regions that are found item by item. A text that is cut outside its regions and outside its tags has
the regions of its parts; cut anywhere else, what was read of the open region is no region of the part in
front, and what is left of it is none of the part behind. -/
namespace SentenceReader

open MarkupItem (ofText)

/-- A region that has begun: how many accepted elements are open, and its text so far. -/
structure OpenRegion where
  depth : Nat
  text : Text
  depth_ne_zero : depth ≠ 0
  deriving DecidableEq

namespace RegionRules

variable (rules : RegionRules)

/-- The region that an item ends, and the one that is open behind it. -/
def meet : Option OpenRegion → MarkupItem → Option Text × Option OpenRegion
  | none, item =>
    match rules.tag? item with
    | none => (none, none)
    | some tag =>
      if tag.closing then (none, none)
      else if tag.selfClosing then (some [], none)
      else (none, some ⟨1, [], Nat.one_ne_zero⟩)
  | some region, item =>
    if h : rules.depthAfter region.depth item = 0 then (some region.text, none)
    else (none, some ⟨rules.depthAfter region.depth item, region.text ++ rules.kept item, h⟩)

/-- The regions that end among some items. -/
def ended : Option OpenRegion → List MarkupItem → List Text
  | _, [] => []
  | s, item :: later => (rules.meet s item).1.toList ++ ended (rules.meet s item).2 later

def openBehind : Option OpenRegion → List MarkupItem → Option OpenRegion
  | s, [] => s
  | s, item :: later => openBehind (rules.meet s item).2 later

/-- The regions of some items: those that end, and the one that is open at the end. -/
def regionsFrom (s : Option OpenRegion) (items : List MarkupItem) : List Text :=
  rules.ended s items ++ ((rules.openBehind s items).map OpenRegion.text).toList

theorem regionsFrom_cons (s : Option OpenRegion) (item : MarkupItem) (later : List MarkupItem) :
    rules.regionsFrom s (item :: later) =
      (rules.meet s item).1.toList ++ rules.regionsFrom (rules.meet s item).2 later := by
  simp [regionsFrom, ended, openBehind]

theorem regionsFrom_some (region : OpenRegion) (items : List MarkupItem) :
    rules.regionsFrom (some region) items =
      (region.text ++ (rules.inside region.depth items).1) ::
        rules.regionsFrom none (rules.inside region.depth items).2 := by
  induction items generalizing region with
  | nil => simp [regionsFrom, ended, openBehind, inside]
  | cons item later ih =>
    rw [regionsFrom_cons, meet, inside]
    split
    · simp
    · simp [ih]

/-- Item by item the same regions are found. -/
theorem regionsOf_eq (items : List MarkupItem) :
    rules.regionsOf items = rules.regionsFrom none items := by
  fun_induction regionsOf rules items with
  | case1 => rfl
  | case2 item later ht ih =>
    rw [regionsFrom_cons, meet, ht, ih]
    rfl
  | case3 item later tag ht hc ih =>
    rw [regionsFrom_cons, meet, ht, ih]
    simp [hc]
  | case4 item later tag ht hc hs ih =>
    rw [regionsFrom_cons, meet, ht, ih]
    simp [hc, hs]
  | case5 item later tag ht hc hs ih =>
    rw [regionsFrom_cons, meet, ht, ih]
    simp [hc, hs, regionsFrom_some]

/-- A text ends no region, and begins none. -/
theorem meet_text (s : Option OpenRegion) (t : Text) :
    (rules.meet s (.text t)).1 = none ∧ (rules.meet s (.text t)).2.isSome = s.isSome := by
  cases s with
  | none => exact ⟨rfl, rfl⟩
  | some region =>
    have hdepth : rules.depthAfter region.depth (.text t) = region.depth := rfl
    simp [meet, hdepth, region.depth_ne_zero]

/-- At the end of a text no region is open, and no tag has begun. -/
structure EndsOutside (t : Text) : Prop where
  region : rules.openBehind none (ofText t) = none
  tag : ∀ u, .text u ∈ ofText t → '<' ∉ u

/-- Behind a text that leaves no region open and no tag begun, regions are found as at the start. -/
theorem regionsFrom_append {s : Option OpenRegion} {t : Text}
    (hregion : rules.openBehind s (ofText t) = none) (htag : ∀ u, .text u ∈ ofText t → '<' ∉ u)
    (later : Text) :
    rules.regionsFrom s (ofText (t ++ later)) =
      rules.ended s (ofText t) ++ rules.regionsFrom none (ofText later) := by
  induction hn : t.length using Nat.strongRecOn generalizing s t with
  | ind n ih =>
    -- A first item that is complete is the first one of the longer text, too.
    have step {item : MarkupItem} {back : Text} (ht : ofText t = item :: ofText back)
        (hlater : ofText (t ++ later) = item :: ofText (back ++ later)) (hlt : back.length < n) :
        rules.regionsFrom s (ofText (t ++ later)) =
          rules.ended s (ofText t) ++ rules.regionsFrom none (ofText later) := by
      rw [ht, openBehind] at hregion
      have htagBack : ∀ u, .text u ∈ ofText back → '<' ∉ u := fun u hu =>
        htag u (ht ▸ List.mem_cons_of_mem _ hu)
      rw [hlater, regionsFrom_cons, ih _ hlt hregion htagBack rfl, ht, ended, List.append_assoc]
    rcases eq_or_ne t [] with rfl | hne
    · rw [MarkupItem.ofText_nil, openBehind] at hregion
      rw [hregion, MarkupItem.ofText_nil]
      rfl
    · rcases MarkupItem.first_cases hne with
        ⟨inner, back, hi, rfl, -⟩ | ⟨inner, hi, rfl, -⟩ | ⟨v, back, hv, hm, rfl, -⟩
      · have hu : Text.IsTag ('<' :: inner ++ ['>']) := ⟨inner, hi, rfl⟩
        have hsplit (back : Text) : '<' :: inner ++ '>' :: back = '<' :: inner ++ ['>'] ++ back := by simp
        refine step ((congrArg ofText (hsplit back)).trans (MarkupItem.ofText_tag hu back)) ?_ ?_
        · rw [hsplit, List.append_assoc, MarkupItem.ofText_tag hu]
        · rw [← hn, hsplit, List.length_append]
          simp
      · have ht := MarkupItem.ofText_unclosed hi
        exact absurd List.mem_cons_self (htag _ (ht ▸ List.mem_cons_self))
      · by_cases hb : '<' ∈ back
        · obtain ⟨w, back, rfl, hw⟩ := List.eq_append_cons_of_mem hb
          have hvw : '<' ∉ v ++ w := by simp [hm, hw]
          have hne : v ++ w ≠ [] := List.append_ne_nil_of_left_ne_nil hv w
          have htext (back : Text) :
              ofText (v ++ (w ++ '<' :: back)) = .text (v ++ w) :: ofText ('<' :: back) := by
            rw [← List.append_assoc, MarkupItem.ofText_text hne hvw]
          refine step (htext back) ?_ ?_
          · rw [List.append_assoc, List.append_assoc, List.cons_append, htext]
          · have hpos := List.length_pos_iff.2 hv
            simp only [List.length_append, List.length_cons] at hn ⊢
            omega
        · have hvb : '<' ∉ v ++ back := by simp [hm, hb]
          have ht := MarkupItem.ofText_of_no_tag hne hvb
          rw [ht, openBehind, openBehind] at hregion
          obtain ⟨hnone, hsome⟩ := rules.meet_text s (v ++ back)
          rw [hregion, Option.isSome_none, eq_comm, Option.isSome_eq_false_iff, Option.isNone_iff_eq_none]
            at hsome
          subst hsome
          rw [← regionsOf_eq, rules.regionsOf_text hvb, ht, ended, ended, hnone, ← regionsOf_eq]
          rfl

theorem EndsOutside.regionsOf_append {t : Text} (h : rules.EndsOutside t) (later : Text) :
    rules.regionsOf (ofText (t ++ later)) =
      rules.ended none (ofText t) ++ rules.regionsOf (ofText later) := by
  rw [regionsOf_eq, rules.regionsFrom_append h.region h.tag, regionsOf_eq]

/-- The regions of a text that comes in parts, where nothing of a part is known behind it. -/
def piecewise : List Text → List Text
  | [] => []
  | [t] => rules.regionsOf (ofText t)
  | t :: later => rules.ended none (ofText t) ++ piecewise later

/-- Where no part but the last one ends inside of a region or a tag, the parts have the regions of the
text. -/
theorem piecewise_of_endsOutside {parts : List Text}
    (h : ∀ t ∈ parts.dropLast, rules.EndsOutside t) :
    rules.piecewise parts = rules.regionsOf (ofText parts.flatten) := by
  fun_induction piecewise rules parts with
  | case1 => simp [regionsOf]
  | case2 t => simp
  | case3 t later hne ih =>
    obtain ⟨u, later, rfl⟩ := List.exists_cons_of_ne_nil hne
    rw [List.dropLast_cons_of_ne_nil (List.cons_ne_nil u later), List.forall_mem_cons] at h
    rw [ih h.2, ← EndsOutside.regionsOf_append rules h.1, ← List.flatten_cons]

end RegionRules

end SentenceReader
