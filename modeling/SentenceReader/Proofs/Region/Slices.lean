import SentenceReader.Proofs.Region.Coming
import SentenceReader.Proofs.Region.Spelling

/-! Regions as slices of a document. Whether or not its elements are well nested, a region is a part
of the text from behind the tag that starts it, and the regions stand one behind the other. Without
the tags inside them the regions are the same parts, with their tags taken out. -/
namespace SentenceReader

/-- The text without what stands between an opening bracket and the next closing one. -/
def Text.withoutTags : Text → Text
  | [] => []
  | c :: t =>
    if c = '<' then
      if '>' ∈ t then withoutTags (t.dropWhile (· != '>')).tail else c :: t
    else c :: withoutTags t
termination_by t => t.length
decreasing_by
  · have := Text.length_dropWhile_le (· != '>') t
    simp only [List.length_tail, List.length_cons]
    omega
  · simp

namespace Text

@[simp] theorem withoutTags_nil : withoutTags [] = [] := by
  rw [withoutTags]

theorem withoutTags_text {u : Text} (h : '<' ∉ u) (t : Text) :
    withoutTags (u ++ t) = u ++ withoutTags t := by
  induction u with
  | nil => rfl
  | cons c u ih =>
    rw [List.mem_cons, not_or] at h
    rw [List.cons_append, withoutTags, if_neg (Ne.symm h.1), ih h.2, List.cons_append]

theorem withoutTags_tag {u : Text} (h : u.IsTag) (t : Text) :
    withoutTags (u ++ t) = withoutTags t := by
  obtain ⟨inner, hi, rfl⟩ := h
  have hb : bracketed inner ++ t = '<' :: (inner ++ '>' :: t) := by simp [bracketed]
  rw [hb, withoutTags, if_pos rfl, if_pos (by simp), dropWhile_append_cons hi, List.tail_cons]

theorem withoutTags_unclosed {inner : Text} (h : '>' ∉ inner) :
    withoutTags ('<' :: inner) = '<' :: inner := by
  rw [withoutTags, if_pos rfl, if_neg h]

end Text

namespace MarkupItem

/-- Items of a text that stand one behind the other are those of a text of their own. -/
theorem Lexes.of_infix {t : Text} {items block : List MarkupItem} (h : Lexes t items)
    (hb : block <:+: items) : Lexes (block.flatMap chars) block := by
  obtain ⟨front, back, rfl⟩ := hb
  refine ⟨rfl, fun u hu => h.tag u (by simp [hu]), fun before u later he => ?_,
    fun item hi => h.ne_nil item (by simp [hi])⟩
  rcases h.text (front ++ before) u (later ++ back) (by simp [he]) with hu | ⟨hl, hu⟩
  · exact .inl hu
  · exact .inr ⟨(List.append_eq_nil_iff.1 hl).1, hu⟩

theorem Lexes.tail {t : Text} {item : MarkupItem} {items : List MarkupItem}
    (h : Lexes t (item :: items)) : t = item.chars ++ items.flatMap chars ∧
      Lexes (items.flatMap chars) items :=
  ⟨h.whole.symm, h.of_infix (List.suffix_cons item items).isInfix⟩

end MarkupItem

/-- A text is cut at these blocks, from its start to its end. Each of them begins behind a tag that
starts an accepted element; it is empty if that tag is all of its element, and otherwise it ends
with the text or in front of a tag that ends an accepted element. No such element starts in what is
passed over, up to a bracket that is never closed. -/
inductive Slices (accepts : Text → Bool) : Text → List Text → Prop
  | nil : Slices accepts [] []
  | unclosed {inner : Text} (h : '>' ∉ inner) : Slices accepts ('<' :: inner) []
  | text {u back : Text} {blocks : List Text} (h : '<' ∉ u) (later : Slices accepts back blocks) :
      Slices accepts (u ++ back) blocks
  | tag {u back : Text} {blocks : List Text} (hu : u.IsTag)
      (h : ∀ s : Tag.Spelling, s.chars = u → accepts s.name = true → s.tag.closing = true)
      (later : Slices accepts back blocks) : Slices accepts (u ++ back) blocks
  | block {s : Tag.Spelling} {block back : Text} {blocks : List Text}
      (hs : accepts s.name = true ∧ s.tag.closing = false)
      (h : s.tag.selfClosing = true → block = [])
      (ends : s.tag.selfClosing = true ∨ back = [] ∨ ∃ (e : Tag.Spelling) (rest : Text),
        accepts e.name = true ∧ e.tag = ⟨e.name, true, false⟩ ∧ back = e.chars ++ rest)
      (later : Slices accepts back blocks) :
      Slices accepts (s.chars ++ (block ++ back)) (block :: blocks)

namespace RegionRules

variable (rules : RegionRules)

/-- The rules with the tags inside regions kept, or not. -/
def keeping (keepTags : Bool) : RegionRules := { rules with keepTags }

theorem tag?_keeping (keepTags : Bool) (item : MarkupItem) :
    (rules.keeping keepTags).tag? item = rules.tag? item := by
  cases item <;> rfl

theorem depthAfter_keeping (keepTags : Bool) (depth : Nat) (item : MarkupItem) :
    (rules.keeping keepTags).depthAfter depth item = rules.depthAfter depth item := by
  cases item <;> rfl

/-- The item that leaves no accepted element open is a tag that ends one. -/
theorem closing_of_depthAfter {depth : Nat} (hd : depth ≠ 0) {item : MarkupItem}
    (h : rules.depthAfter depth item = 0) :
    ∃ name, rules.tag? item = some ⟨name, true, false⟩ := by
  unfold depthAfter at h
  cases ht : rules.tag? item with
  | none => simp [ht, hd] at h
  | some tag =>
    obtain ⟨name, closing, selfClosing⟩ := tag
    cases selfClosing <;> cases closing <;> simp_all

/-- The items of a region are the first of those that are left, whether its tags are kept or not. It
ends where they end, or with a tag that ends an accepted element. -/
theorem exists_inside {depth : Nat} (hd : depth ≠ 0) (items : List MarkupItem) :
    ∃ taken ending later, items = taken ++ (ending ++ later) ∧
      (ending ++ later = [] ∨
        ∃ item name, ending = [item] ∧ rules.tag? item = some ⟨name, true, false⟩) ∧
      ∀ keepTags, (rules.keeping keepTags).inside depth items =
        (taken.flatMap (rules.keeping keepTags).kept, later) := by
  induction items generalizing depth with
  | nil => exact ⟨[], [], [], rfl, .inl rfl, fun _ => rfl⟩
  | cons item items ih =>
    by_cases h0 : rules.depthAfter depth item = 0
    · obtain ⟨name, ht⟩ := rules.closing_of_depthAfter hd h0
      refine ⟨[], [item], items, rfl, .inr ⟨item, name, rfl, ht⟩, fun keepTags => ?_⟩
      rw [inside, depthAfter_keeping, if_pos h0]
      rfl
    · obtain ⟨taken, ending, later, rfl, hending, hin⟩ := ih h0
      refine ⟨item :: taken, ending, later, rfl, hending, fun keepTags => ?_⟩
      rw [inside, depthAfter_keeping, if_neg h0, hin keepTags]
      rfl

theorem flatMap_kept_keeping_true (items : List MarkupItem) :
    items.flatMap (rules.keeping true).kept = items.flatMap MarkupItem.chars :=
  List.flatMap_congr fun item _ => by cases item <;> rfl

/-- What is kept without the tags is the text without its tags. -/
theorem withoutTags_of_lexes {t : Text} {items : List MarkupItem} (h : MarkupItem.Lexes t items) :
    Text.withoutTags t = items.flatMap (rules.keeping false).kept := by
  induction items generalizing t with
  | nil => simp [← h.whole]
  | cons item items ih =>
    obtain ⟨ht, hl⟩ := h.tail
    rw [ht, List.flatMap_cons, ← ih hl]
    cases item with
    | tag u => exact Text.withoutTags_tag (h.isTag List.mem_cons_self) _
    | text u =>
      rcases h.text [] u items rfl with hu | ⟨rfl, inner, rfl, hi⟩
      · exact Text.withoutTags_text hu _
      · simp [MarkupItem.chars, kept, Text.withoutTags_unclosed hi]

/-- An item that starts no accepted element is passed over. -/
theorem slices_cons {t : Text} {item : MarkupItem} {later : List MarkupItem}
    (h : MarkupItem.Lexes t (item :: later))
    (hstart : ∀ tag, rules.tag? item = some tag → tag.closing = true)
    (hs : Slices rules.pattern.matchesAll (later.flatMap MarkupItem.chars)
      ((rules.keeping true).regionsOf later)) :
    Slices rules.pattern.matchesAll t ((rules.keeping true).regionsOf later) := by
  obtain ⟨rfl, -⟩ := h.tail
  cases item with
  | tag u =>
    refine .tag (h.isTag List.mem_cons_self) (fun s hu ha => hstart s.tag ?_) hs
    obtain rfl : s.chars = u := hu
    rw [tag?_spelling, if_pos ha]
  | text u =>
    rcases h.text [] u later rfl with hu | ⟨rfl, inner, rfl, hi⟩
    · exact .text hu hs
    · simpa [MarkupItem.chars, regionsOf] using Slices.unclosed hi

/-- What ends a region is passed over behind it. -/
theorem slices_ending {ending later : List MarkupItem}
    (h : MarkupItem.Lexes ((ending ++ later).flatMap MarkupItem.chars) (ending ++ later))
    (hending : ending ++ later = [] ∨
      ∃ item name, ending = [item] ∧ rules.tag? item = some ⟨name, true, false⟩)
    (hs : Slices rules.pattern.matchesAll (later.flatMap MarkupItem.chars)
      ((rules.keeping true).regionsOf later)) :
    Slices rules.pattern.matchesAll ((ending ++ later).flatMap MarkupItem.chars)
        ((rules.keeping true).regionsOf later) ∧
      ((ending ++ later).flatMap MarkupItem.chars = [] ∨ ∃ (e : Tag.Spelling) (rest : Text),
        rules.pattern.matchesAll e.name = true ∧ e.tag = ⟨e.name, true, false⟩ ∧
          (ending ++ later).flatMap MarkupItem.chars = e.chars ++ rest) := by
  rcases hending with hnil | ⟨item, name, rfl, ht⟩
  · obtain ⟨rfl, rfl⟩ := List.append_eq_nil_iff.1 hnil
    exact ⟨hs, .inl rfl⟩
  · obtain ⟨e, rfl, htag, ha⟩ := rules.exists_spelling ht fun u hu => h.isTag (by simp [hu])
    obtain rfl : e.name = name := congrArg Tag.name htag
    exact ⟨rules.slices_cons h (by simp [ht]) hs, .inr ⟨e, _, ha, htag, rfl⟩⟩

/-- With the tags inside them the regions are slices of the text, and without those tags they are the
same slices without their tags. -/
theorem slices_regionsOf {t : Text} {items : List MarkupItem} (h : MarkupItem.Lexes t items) :
    Slices rules.pattern.matchesAll t ((rules.keeping true).regionsOf items) ∧
      (rules.keeping false).regionsOf items =
        ((rules.keeping true).regionsOf items).map Text.withoutTags := by
  fun_induction regionsOf (rules.keeping true) items generalizing t with
  | case1 =>
    rw [← h.whole, regionsOf]
    exact ⟨.nil, rfl⟩
  | case2 item later ht ih =>
    rw [tag?_keeping] at ht
    obtain ⟨hs, hr⟩ := ih h.tail.2
    refine ⟨rules.slices_cons h (by simp [ht]) hs, ?_⟩
    rw [regionsOf, tag?_keeping, ht, hr]
  | case3 item later tag ht hc ih =>
    rw [tag?_keeping] at ht
    obtain ⟨hs, hr⟩ := ih h.tail.2
    refine ⟨rules.slices_cons h (by simp [ht, hc]) hs, ?_⟩
    simp only [regionsOf, tag?_keeping, ht, hc, if_true, hr]
  | case4 item later tag ht hc hself ih =>
    rw [tag?_keeping] at ht
    obtain ⟨hs, hr⟩ := ih h.tail.2
    obtain ⟨htext, -⟩ := h.tail
    obtain ⟨s, rfl, rfl, ha⟩ := rules.exists_spelling ht
      fun u hu => h.isTag (hu ▸ List.mem_cons_self)
    constructor
    · rw [htext, ← List.nil_append (later.flatMap MarkupItem.chars)]
      exact .block ⟨ha, by simpa using hc⟩ (fun _ => rfl) (.inl hself) hs
    · simp [regionsOf, tag?_keeping, ht, hc, hself, hr]
  | case5 item later tag ht hc hself ih =>
    rw [tag?_keeping] at ht
    obtain ⟨htext, hl⟩ := h.tail
    obtain ⟨s, rfl, rfl, ha⟩ := rules.exists_spelling ht
      fun u hu => h.isTag (hu ▸ List.mem_cons_self)
    obtain ⟨taken, ending, rest, rfl, hending, hin⟩ := rules.exists_inside Nat.one_ne_zero later
    rw [hin true] at ih ⊢
    have htaken := hl.of_infix (List.prefix_append taken _).isInfix
    obtain ⟨hs, hr⟩ := ih (hl.of_infix ((List.suffix_append ending rest).trans
      (List.suffix_append taken _)).isInfix)
    obtain ⟨hback, hends⟩ := rules.slices_ending
      (hl.of_infix (List.suffix_append taken _).isInfix) hending hs
    constructor
    · rw [htext, List.flatMap_append, flatMap_kept_keeping_true]
      exact .block ⟨ha, by simpa using hc⟩ (fun hself' => absurd hself' hself) (.inr hends) hback
    · have hblock : Text.withoutTags (taken.flatMap (rules.keeping true).kept) =
          taken.flatMap (rules.keeping false).kept := by
        rw [flatMap_kept_keeping_true, rules.withoutTags_of_lexes htaken]
      simp [regionsOf, tag?_keeping, ht, hc, hself, hin false, hr, hblock]

end RegionRules

namespace RegionSource

/-- For any text, the regions that a source gives out with the tags inside them are slices of it, each
from behind a tag that starts an accepted element, one behind the other. Without those tags a source
gives out as many regions, and they are the same slices without their tags. -/
theorem gives_slices [PatternHost] {written : Text} {pattern : Pattern}
    (hp : Pattern.ofText written = .ok pattern) {stream stream' : TextStream}
    (hst : stream.Steady) (hst' : stream'.Steady) (hrest : stream'.rest = stream.rest) :
    ∃ s s' blocks, ofText stream written true = .ok s ∧ s.Gives blocks ∧
      ofText stream' written false = .ok s' ∧ s'.Gives (blocks.map Text.withoutTags) ∧
      Slices pattern.matchesAll stream.rest blocks := by
  obtain ⟨pieces, h⟩ := hst.exists_delivers
  obtain ⟨pieces', h'⟩ := hst'.exists_delivers
  have hs := RegionRules.slices_regionsOf { pattern } (MarkupItem.lexes_ofText stream.rest)
  have hg := gives_of_pieces h { pattern, keepTags := true }
  have hg' := gives_of_pieces h' { pattern, keepTags := false }
  rw [h.flatten] at hg
  rw [h'.flatten, hrest] at hg'
  exact ⟨_, _, _, ofText_of_pattern hp stream true, hg, ofText_of_pattern hp stream' false,
    hs.2 ▸ hg', hs.1⟩

/-- An end tag without a start, an empty element, a tag inside a bracket, an element that is left open
and a bracket that is never closed. -/
theorem gives_slices_of_malformed :
    let text := "x</s>< s/ ><s a='1'><b>c<!-- <s></s/><<s>d< /s>e</s >f<s >g<".toList
    let stream := TextStream.ofText text
    let pattern : Pattern := .group {} {} (.set false [.literal 's'.toNat])
    let blocks := ["", "<b>c<!-- <s></s/><<s>d", "g<"].map String.toList
    Pattern.ofText ['s'] = .ok pattern ∧ stream.Steady ∧ Slices pattern.matchesAll text blocks ∧
      (∃ s, ofText stream ['s'] true = .ok s ∧ s.Gives blocks) ∧
      ∃ s, ofText stream ['s'] false = .ok s ∧ s.Gives (["", "cd", "g<"].map String.toList) := by
  intro text stream pattern blocks
  have hp : Pattern.ofText ['s'] = .ok pattern := rfl
  have hst : stream.Steady := TextStream.steady_ofText _
  obtain ⟨s, s', found, hs, hg, hs', hg', hslices⟩ := gives_slices hp hst hst rfl
  have hfound : found = blocks := by
    obtain ⟨pieces, h⟩ := hst.exists_delivers
    obtain rfl := Except.ok.inj ((ofText_of_pattern hp stream true).symm.trans hs)
    rw [hg.unique (gives_of_pieces h _), h.flatten]
    decide +kernel
  have hbare : found.map Text.withoutTags = ["", "cd", "g<"].map String.toList := by
    rw [hfound]
    decide +kernel
  exact ⟨hp, hst, hfound ▸ hslices, ⟨s, hs, hfound ▸ hg⟩, s', hs', hbare ▸ hg'⟩

end RegionSource

end SentenceReader
