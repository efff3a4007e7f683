import SentenceReader.Proofs.Region.Forest
import SentenceReader.Proofs.Region.Spelling

/-! Comments between the parts of a document. A tag ends at the first closing bracket behind its
opening one, also within a comment, so a comment may be read as several tags and texts. It makes no
difference wherever it stands exactly if all of it is read as tags, none of which starts an accepted
element or ends one. -/
namespace SentenceReader

/-- What is written in a comment: anything in which the mark that ends comments does not occur. -/
structure Comment where
  inner : Text
  endless : ¬"-->".toList <:+: inner

/-- The comment as it is written. -/
def Comment.text (c : Comment) : Text := "<!--".toList ++ c.inner ++ "-->".toList

/-- A text is made of tags, and none of those of an accepted element starts or ends it: it is an end
tag that is all of its element. -/
def Text.Silent (accepts : Text → Bool) (u : Text) : Prop :=
  ∃ tags : List Text, tags.flatten = u ∧ (∀ v ∈ tags, v.IsTag) ∧
    ∀ s : Tag.Spelling, s.chars ∈ tags → accepts s.name = true →
      s.tag.closing = true ∧ s.tag.selfClosing = true

/-- The document as it is written, with comments of some kind between its parts. -/
inductive MarkupForest.Commented (kind : Comment → Prop) : MarkupForest → Text → Prop
  | nil : Commented kind .nil []
  | comment {c : Comment} {f : MarkupForest} {t : Text} (hc : kind c) (h : Commented kind f t) :
      Commented kind f (c.text ++ t)
  | text {u t : Text} {rest : MarkupForest} (hu : '<' ∉ u) (h : Commented kind rest t) :
      Commented kind (.text u hu rest) (u ++ t)
  | remark {mark : Char} {u t : Text} {rest : MarkupForest} (hm : mark = '!' ∨ mark = '?')
      (hu : '>' ∉ u) (h : Commented kind rest t) :
      Commented kind (.remark mark u hm hu rest) (Text.bracketed (mark :: u) ++ t)
  | element {n : ElementName} {a : Attributes} {u t : Text} {children rest : MarkupForest}
      (ha : a.endInSlash = false) (hc : Commented kind children u) (h : Commented kind rest t) :
      Commented kind (.element n a ha children rest) (n.startTag a ++ (u ++ (n.endTag ++ t)))
  | selfClosing {n : ElementName} {a : Attributes} {t : Text} {rest : MarkupForest}
      (h : Commented kind rest t) : Commented kind (.selfClosing n a rest) (n.emptyTag a ++ t)

theorem Comment.getLast?_text (c : Comment) : c.text.getLast? = some '>' := by
  rw [text, List.getLast?_append_of_ne_nil _ (by decide)]
  rfl

/-- A comment with no closing bracket in it is one tag, of no element. -/
theorem Comment.silent_of_not_mem {c : Comment} (h : '>' ∉ c.inner) (accepts : Text → Bool) :
    c.text.Silent accepts := by
  have hc : c.text = Text.bracketed ('!' :: ("--".toList ++ c.inner ++ "--".toList)) := by
    simp [text, Text.bracketed]
  refine ⟨[c.text], List.flatten_singleton, ?_, fun s hs _ => ?_⟩
  · rw [List.forall_mem_singleton, hc]
    exact Text.isTag_remark (.inl rfl) (by simpa using h)
  · have hread := s.ofText?_chars
    rw [List.mem_singleton.1 hs, hc, Tag.ofText?_remark (.inl rfl)] at hread
    cases hread

namespace RegionRules

open MarkupItem (ofText)

variable {rules : RegionRules}

/-- Two texts have the same regions, and they go on a region that is open in the same way. -/
structure Alike (rules : RegionRules) (t t' : Text) : Prop where
  outside : rules.regionsOf (ofText t) = rules.regionsOf (ofText t')
  inside : ∀ depth ≠ 0,
    (rules.inside depth (ofText t)).1 = (rules.inside depth (ofText t')).1
  behind : ∀ depth ≠ 0, rules.regionsOf (rules.inside depth (ofText t)).2 =
    rules.regionsOf (rules.inside depth (ofText t')).2

namespace Alike

variable {t t' : Text}

theorem refl (t : Text) : rules.Alike t t := ⟨rfl, fun _ _ => rfl, fun _ _ => rfl⟩

theorem trans {t'' : Text} (h : rules.Alike t t') (h' : rules.Alike t' t'') : rules.Alike t t'' where
  outside := h.outside.trans h'.outside
  inside depth hd := (h.inside depth hd).trans (h'.inside depth hd)
  behind depth hd := (h.behind depth hd).trans (h'.behind depth hd)

theorem text {u : Text} (hu : '<' ∉ u) (h : rules.Alike t t') : rules.Alike (u ++ t) (u ++ t') where
  outside := by rw [rules.regionsOf_text hu, rules.regionsOf_text hu, h.outside]
  inside depth hd := by rw [rules.inside_text hd hu, rules.inside_text hd hu, h.inside depth hd]
  behind depth hd := by rw [rules.inside_text hd hu, rules.inside_text hd hu, h.behind depth hd]

theorem tag {u : Text} (hu : u.IsTag) (h : rules.Alike t t') : rules.Alike (u ++ t) (u ++ t') where
  outside := by
    rw [rules.regionsOf_tag hu, rules.regionsOf_tag hu, h.outside, h.inside 1 Nat.one_ne_zero,
      h.behind 1 Nat.one_ne_zero]
  inside depth hd := by
    rw [rules.inside_tag hu, rules.inside_tag hu]
    by_cases h0 : rules.depthAfter depth (.tag u) = 0
    · rw [if_pos h0, if_pos h0]
    · rw [if_neg h0, if_neg h0, h.inside _ h0]
  behind depth hd := by
    rw [rules.inside_tag hu, rules.inside_tag hu]
    by_cases h0 : rules.depthAfter depth (.tag u) = 0
    · rw [if_pos h0, if_pos h0, h.outside]
    · rw [if_neg h0, if_neg h0, h.behind _ h0]

end Alike

variable (rules)

/-- An end tag that is all of its element makes no difference, nor does a tag of no accepted one. -/
theorem alike_tag (hk : rules.keepTags = false) {u : Text} (hu : u.IsTag)
    (h : ∀ tag, rules.tag? (.tag u) = some tag → tag.closing = true ∧ tag.selfClosing = true)
    (t : Text) : rules.Alike (u ++ t) t := by
  have hdepth : ∀ depth, rules.depthAfter depth (.tag u) = depth := by
    intro depth
    unfold depthAfter
    cases ht : rules.tag? (.tag u) with
    | none => rfl
    | some tag => simp [(h tag ht).2]
  have hinside : ∀ depth ≠ 0,
      rules.inside depth (ofText (u ++ t)) = rules.inside depth (ofText t) := by
    intro depth hd
    rw [rules.inside_tag hu, hdepth, if_neg hd, hk]
    rfl
  refine ⟨?_, fun depth hd => by rw [hinside depth hd], fun depth hd => by rw [hinside depth hd]⟩
  rw [rules.regionsOf_tag hu]
  cases ht : rules.tag? (.tag u) with
  | none => rfl
  | some tag => simp [(h tag ht).1]

theorem alike_silent (hk : rules.keepTags = false) {u : Text}
    (h : u.Silent rules.pattern.matchesAll) (t : Text) : rules.Alike (u ++ t) t := by
  obtain ⟨tags, rfl, htags, hs⟩ := h
  induction tags with
  | nil => exact .refl t
  | cons v tags ih =>
    rw [List.flatten_cons, List.append_assoc]
    refine (rules.alike_tag hk (htags v List.mem_cons_self) (fun tag ht => ?_) _).trans
      (ih (fun w hw => htags w (List.mem_cons_of_mem _ hw))
        fun s hm => hs s (List.mem_cons_of_mem _ hm))
    obtain ⟨s, hv, rfl, ha⟩ := rules.exists_spelling ht fun w hw =>
      htags w (by rw [MarkupItem.tag.inj hw]; exact List.mem_cons_self)
    exact hs s (by rw [MarkupItem.tag.inj hv]; exact List.mem_cons_self) ha

/-- Silent comments between the parts of a document make no difference. -/
theorem alike_of_commented (hk : rules.keepTags = false) {kind : Comment → Prop}
    (hs : ∀ c, kind c → c.text.Silent rules.pattern.matchesAll) {f : MarkupForest} {t : Text}
    (h : f.Commented kind t) {later later' : Text} (hl : rules.Alike later later') :
    rules.Alike (t ++ later) (f.serialize ++ later') := by
  induction h generalizing later later' with
  | nil => exact hl
  | comment hc _ ih =>
    rw [List.append_assoc]
    exact (rules.alike_silent hk (hs _ hc) _).trans (ih hl)
  | text hu _ ih =>
    rw [MarkupForest.serialize, List.append_assoc, List.append_assoc]
    exact (ih hl).text hu
  | remark hm hu _ ih =>
    rw [MarkupForest.serialize, List.append_assoc, List.append_assoc]
    exact (ih hl).tag (Text.isTag_remark hm hu)
  | @element n a _ _ _ _ _ _ _ ihc ih =>
    simp only [MarkupForest.serialize, List.append_assoc]
    exact (ihc ((ih hl).tag n.isTag_endTag)).tag (n.isTag_startTag a)
  | @selfClosing n a _ _ _ ih =>
    rw [MarkupForest.serialize, List.append_assoc, List.append_assoc]
    exact (ih hl).tag (n.isTag_emptyTag a)

/-- Where no region is found no tag starts an accepted element. -/
theorem closing_of_regionsOf_eq_nil {items : List MarkupItem} (h : rules.regionsOf items = []) :
    ∀ item ∈ items, ∀ tag, rules.tag? item = some tag → tag.closing = true := by
  induction items with
  | nil => simp
  | cons item items ih =>
    rw [regionsOf] at h
    cases ht : rules.tag? item with
    | none =>
      rw [ht] at h
      exact List.forall_mem_cons.2 ⟨by simp [ht], ih h⟩
    | some tag =>
      simp only [ht] at h
      split at h
      · next hc => exact List.forall_mem_cons.2 ⟨by simpa [ht] using hc, ih h⟩
      · split at h <;> cases h

/-- A text, or a tag that starts no accepted element, leaves a region open or ends it. -/
theorem inside_item (item : MarkupItem) (htag : ∀ u, item = .tag u → u.IsTag)
    (htext : ∀ u, item = .text u → '<' ∉ u)
    (hc : ∀ tag, rules.tag? item = some tag → tag.closing = true) :
    ((∀ tag, rules.tag? item = some tag → tag.selfClosing = true) ∧
        ∀ later, (rules.inside 1 (ofText (item.chars ++ later))).1 =
          rules.kept item ++ (rules.inside 1 (ofText later)).1) ∨
      ∀ later, (rules.inside 1 (ofText (item.chars ++ later))).1 = [] := by
  cases item with
  | text u =>
    refine .inl ⟨by simp [tag?], fun later => ?_⟩
    rw [MarkupItem.chars, rules.inside_text Nat.one_ne_zero (htext u rfl)]
    rfl
  | tag u =>
    have hu := htag u rfl
    by_cases hself : ∀ tag, rules.tag? (.tag u) = some tag → tag.selfClosing = true
    · refine .inl ⟨hself, fun later => ?_⟩
      have hdepth : rules.depthAfter 1 (.tag u) = 1 := by
        unfold depthAfter
        cases ht : rules.tag? (.tag u) with
        | none => rfl
        | some tag => simp [hself tag ht]
      rw [MarkupItem.chars, rules.inside_tag hu, hdepth, if_neg Nat.one_ne_zero]
      rfl
    · simp only [not_forall] at hself
      obtain ⟨tag, ht, hself⟩ := hself
      have hdepth : rules.depthAfter 1 (.tag u) = 0 := by
        simp [depthAfter, ht, hself, hc tag ht]
      refine .inr fun later => ?_
      rw [MarkupItem.chars, rules.inside_tag hu, if_pos hdepth]

/-- Where no accepted element starts, either a region goes on behind some items, or what it has of them
does not depend on what comes later. -/
theorem inside_items {items : List MarkupItem} (htag : ∀ u, .tag u ∈ items → u.IsTag)
    (htext : ∀ u, .text u ∈ items → '<' ∉ u)
    (hc : ∀ item ∈ items, ∀ tag, rules.tag? item = some tag → tag.closing = true) :
    ((∀ item ∈ items, ∀ tag, rules.tag? item = some tag → tag.selfClosing = true) ∧
        ∀ later, (rules.inside 1 (ofText (items.flatMap MarkupItem.chars ++ later))).1 =
          items.flatMap rules.kept ++ (rules.inside 1 (ofText later)).1) ∨
      ∃ found, ∀ later,
        (rules.inside 1 (ofText (items.flatMap MarkupItem.chars ++ later))).1 = found := by
  induction items with
  | nil => exact .inl ⟨by simp, fun later => rfl⟩
  | cons item items ih =>
    have hitem := rules.inside_item item (fun u hu => htag u (by simp [hu]))
      (fun u hu => htext u (by simp [hu])) (hc item List.mem_cons_self)
    have hitems := ih (fun u hu => htag u (List.mem_cons_of_mem _ hu))
      (fun u hu => htext u (List.mem_cons_of_mem _ hu)) (List.forall_mem_cons.1 hc).2
    simp only [List.flatMap_cons, List.append_assoc]
    rcases hitem with ⟨hself, hgoes⟩ | hends
    · rcases hitems with ⟨hselves, hgo⟩ | ⟨found, hend⟩
      · exact .inl ⟨List.forall_mem_cons.2 ⟨hself, hselves⟩, fun later => by rw [hgoes, hgo]⟩
      · exact .inr ⟨_, fun later => by rw [hgoes, hend]⟩
    · exact .inr ⟨_, fun later => hends _⟩

/-- A comment that is no part of a document of its own, and adds nothing to a region and leaves it
open, is silent. -/
theorem silent_of_regions {c : Comment} {later more : Text}
    (houtside : rules.regionsOf (ofText c.text) = [])
    (hinside : (rules.inside 1 (ofText (c.text ++ later))).1 = [])
    (hbehind : (rules.inside 1 (ofText (c.text ++ more))).1 ≠ []) :
    c.text.Silent rules.pattern.matchesAll := by
  have hl := MarkupItem.lexes_ofText c.text
  have hc := rules.closing_of_regionsOf_eq_nil houtside
  have htext : ∀ u, .text u ∈ ofText c.text → '<' ∉ u := by
    intro u hu
    obtain ⟨front, last, he⟩ := List.append_of_mem hu
    rcases hl.text front u last he with h | ⟨rfl, inner, rfl, hi⟩
    · exact h
    · -- The last character of a comment is a closing bracket.
      have hlast := c.getLast?_text
      rw [← hl.whole, he, List.flatMap_append,
        List.getLast?_append_of_ne_nil _ (by simp [MarkupItem.chars])] at hlast
      have hmem := List.mem_of_getLast? hlast
      simp [MarkupItem.chars, hi] at hmem
  rw [← hl.whole] at hinside hbehind
  rcases rules.inside_items (fun u hu => hl.isTag hu) htext hc with ⟨hself, hgoes⟩ | ⟨found, hends⟩
  · rw [hgoes] at hinside
    have hkept := (List.append_eq_nil_iff.1 hinside).1
    have htags : ∀ item ∈ ofText c.text, ∃ u, item = .tag u := by
      intro item hi
      cases item with
      | tag u => exact ⟨u, rfl⟩
      | text u => exact absurd (List.flatMap_eq_nil_iff.1 hkept _ hi) (hl.ne_nil _ hi)
    have hchars : ∀ v, v ∈ (ofText c.text).map MarkupItem.chars → .tag v ∈ ofText c.text := by
      intro v hv
      obtain ⟨item, hi, rfl⟩ := List.mem_map.1 hv
      obtain ⟨u, rfl⟩ := htags item hi
      exact hi
    refine ⟨(ofText c.text).map MarkupItem.chars, hl.whole, fun v hv => hl.isTag (hchars v hv),
      fun s hs ha => ?_⟩
    have ht : rules.tag? (.tag s.chars) = some s.tag := by rw [tag?_spelling, if_pos ha]
    exact ⟨hc _ (hchars _ hs) _ ht, hself _ (hchars _ hs) _ ht⟩
  · rw [hends] at hinside hbehind
    exact absurd hinside hbehind

end RegionRules

namespace RegionSource

section Same

variable [PatternHost]

/-- A source gives out the same regions, without the tags inside them, for two texts. -/
def SameRegions (written t t' : Text) : Prop :=
  ∀ stream stream' : TextStream, stream.Steady → stream'.Steady → stream.rest = t →
    stream'.rest = t' → ∃ s s' regions, ofText stream written false = .ok s ∧ s.Gives regions ∧
      ofText stream' written false = .ok s' ∧ s'.Gives regions

variable {written : Text} {pattern : Pattern}

theorem gives_of_steady (hp : Pattern.ofText written = .ok pattern) {stream : TextStream}
    (hst : stream.Steady) : ∃ s, ofText stream written false = .ok s ∧
      s.Gives (({ pattern } : RegionRules).regionsOf (MarkupItem.ofText stream.rest)) := by
  obtain ⟨pieces, h⟩ := hst.exists_delivers
  exact ⟨_, ofText_of_pattern hp stream false, h.flatten ▸ gives_of_pieces h { pattern }⟩

theorem sameRegions_iff (hp : Pattern.ofText written = .ok pattern) (t t' : Text) :
    SameRegions written t t' ↔
      ({ pattern } : RegionRules).regionsOf (MarkupItem.ofText t) =
        ({ pattern } : RegionRules).regionsOf (MarkupItem.ofText t') := by
  constructor
  · intro h
    obtain ⟨s, s', regions, hs, hg, hs', hg'⟩ := h (.ofText t) (.ofText t')
      (TextStream.steady_ofText t) (TextStream.steady_ofText t') rfl rfl
    obtain ⟨u, hu, hgu⟩ := gives_of_steady hp (TextStream.steady_ofText t)
    obtain ⟨u', hu', hgu'⟩ := gives_of_steady hp (TextStream.steady_ofText t')
    obtain rfl := Except.ok.inj (hs.symm.trans hu)
    obtain rfl := Except.ok.inj (hs'.symm.trans hu')
    exact (hgu.unique hg).trans (hg'.unique hgu')
  · rintro h stream stream' hst hst' rfl rfl
    obtain ⟨s, hs, hg⟩ := gives_of_steady hp hst
    obtain ⟨s', hs', hg'⟩ := gives_of_steady hp hst'
    exact ⟨s, s', _, hs, hg, hs', h ▸ hg'⟩

/-- The tag of an element without attributes. -/
def bare : Attributes := ⟨[], by simp, by simp⟩

/-- Where comments never make a difference, one in front of the text of an accepted element adds
nothing to it. -/
theorem inside_of_sameRegions (hp : Pattern.ofText written = .ok pattern) {kind : Comment → Prop}
    (hsame : ∀ f t, MarkupForest.Commented kind f t → SameRegions written t f.serialize)
    {c : Comment} (hc : kind c) {n : ElementName} (hn : pattern.matchesAll n.chars = true)
    {u : Text} (hu : '<' ∉ u) :
    (({ pattern } : RegionRules).inside 1 (MarkupItem.ofText (c.text ++ (u ++ n.endTag)))).1 = u := by
  let rules : RegionRules := { pattern }
  have ha : rules.accepts n.chars = true := hn
  have hbare : bare.endInSlash = false := rfl
  have h := (sameRegions_iff hp _ _).1 <| hsame _ _ <|
    .element (n := n) hbare (.comment hc (.text hu .nil)) .nil
  have hplain := rules.regionsOf_serialize (.element n bare hbare (.text u hu .nil) .nil) []
  rw [List.append_nil] at hplain
  rw [hplain, rules.regionsOf_tag (n.isTag_startTag bare), rules.tag?_startTag, if_pos ha] at h
  simp only [hbare, Bool.false_eq_true, if_false, List.append_nil, List.append_assoc,
    MarkupForest.outermost, if_pos ha, List.map_cons, List.cons_append, List.cons.injEq] at h
  exact h.1.trans (List.append_nil u)

/-- Comments that are silent make no difference to the regions of a well-nested document, wherever they
stand between its parts. Where the name of some element is accepted, comments that never make a
difference are silent. A comment without a closing bracket in it is silent. -/
theorem sameRegions_commented (hp : Pattern.ofText written = .ok pattern) (kind : Comment → Prop) :
    ((∀ c, kind c → c.text.Silent pattern.matchesAll) →
        ∀ f t, MarkupForest.Commented kind f t → SameRegions written t f.serialize) ∧
      ((∃ n : ElementName, pattern.matchesAll n.chars = true) →
        (∀ f t, MarkupForest.Commented kind f t → SameRegions written t f.serialize) →
          ∀ c, kind c → c.text.Silent pattern.matchesAll) ∧
      ∀ c : Comment, '>' ∉ c.inner → c.text.Silent pattern.matchesAll := by
  refine ⟨fun hs f t h => ?_, ?_, fun c hc => c.silent_of_not_mem hc _⟩
  · rw [sameRegions_iff hp]
    have halike := RegionRules.alike_of_commented { pattern } rfl hs h (.refl [])
    simpa using halike.outside
  · rintro ⟨n, hn⟩ hsame c hc
    have houtside := (sameRegions_iff hp _ _).1 (hsame _ _ (.comment hc .nil))
    have hinside := inside_of_sameRegions hp hsame hc hn (u := []) (by simp)
    have hbehind := inside_of_sameRegions hp hsame hc hn (u := ['x']) (by decide)
    refine RegionRules.silent_of_regions { pattern } ?_ hinside
      (by rw [hbehind]; simp)
    simpa [MarkupForest.serialize, RegionRules.regionsOf] using houtside

end Same

/-- A comment with a tag in it in front of a region, and one inside it. -/
theorem sameRegions_commented_of_text :
    let s : ElementName := ⟨['s'], by decide, List.forall_mem_singleton.2 (by decide)⟩
    let bare : Attributes := ⟨[], by simp, by simp⟩
    let pattern : Pattern := .group {} {} (.set false [.literal 's'.toNat])
    let kind : Comment → Prop := fun c => '>' ∉ c.inner
    let f : MarkupForest :=
      .element s bare rfl (.text ['a'] (by decide) (.text ['b'] (by decide) .nil)) .nil
    let t := "<!-- <s --><s>a<!--</s-->b</s>".toList
    Pattern.ofText ['s'] = .ok pattern ∧ (∀ c, kind c → c.text.Silent pattern.matchesAll) ∧
      MarkupForest.Commented kind f t ∧ SameRegions ['s'] t f.serialize ∧
      ∃ source, ofText (.ofText t) ['s'] false = .ok source ∧ source.Gives ["ab".toList] := by
  intro s bare pattern kind f t
  have hp : Pattern.ofText ['s'] = .ok pattern := rfl
  obtain ⟨hsame, -, hsilent⟩ := sameRegions_commented hp kind
  have hc : MarkupForest.Commented kind f t := by
    let outer : Comment := ⟨" <s ".toList, by decide +kernel⟩
    let inner : Comment := ⟨"</s".toList, by decide +kernel⟩
    have houter : '>' ∉ outer.inner := by decide +kernel
    have hinner : '>' ∉ inner.inner := by decide +kernel
    have ht : t = outer.text ++ (s.startTag bare ++ ((['a'] ++ (inner.text ++ (['b'] ++ []))) ++
        (s.endTag ++ []))) := by decide +kernel
    rw [ht]
    exact .comment houter (.element rfl (.text _ (.comment hinner (.text _ .nil))) .nil)
  have hregions := hsame hsilent f t hc
  obtain ⟨source, source', regions, hs, hg, hs', hg'⟩ := hregions (.ofText t) (.ofText f.serialize)
    (TextStream.steady_ofText _) (TextStream.steady_ofText _) rfl rfl
  obtain ⟨plain, hplain, hgplain⟩ := gives_of_steady hp (TextStream.steady_ofText f.serialize)
  obtain rfl := Except.ok.inj (hs'.symm.trans hplain)
  have hfound : regions = ["ab".toList] := by
    rw [hg'.unique hgplain]
    decide +kernel
  exact ⟨hp, hsilent, hc, hregions, source, hs, hfound ▸ hg⟩

/-- Elements in a comment are regions. -/
theorem regions_of_commented_elements :
    let s : ElementName := ⟨['s'], by decide, List.forall_mem_singleton.2 (by decide)⟩
    let bare : Attributes := ⟨[], by simp, by simp⟩
    let pattern : Pattern := .group {} {} (.set false [.literal 's'.toNat])
    let c : Comment := ⟨" <s>a</s><s>b</s> ".toList, by decide +kernel⟩
    let f : MarkupForest := .element s bare rfl (.text ['c'] (by decide) .nil) .nil
    let t := "<!-- <s>a</s><s>b</s> --><s>c</s>".toList
    Pattern.ofText ['s'] = .ok pattern ∧ MarkupForest.Commented (· = c) f t ∧
      f.serialize = "<s>c</s>".toList ∧
      (∃ source, ofText (.ofText t) ['s'] false = .ok source ∧ source.Gives [['b'], ['c']]) ∧
      (∃ source, ofText (.ofText f.serialize) ['s'] false = .ok source ∧ source.Gives [['c']]) ∧
      ¬SameRegions ['s'] t f.serialize := by
  intro s bare pattern c f t
  have hp : Pattern.ofText ['s'] = .ok pattern := rfl
  have hc : MarkupForest.Commented (· = c) f t := by
    have ht : t = c.text ++ (s.startTag bare ++ ((['c'] ++ []) ++ (s.endTag ++ []))) := by
      decide +kernel
    rw [ht]
    exact .comment rfl (.element rfl (.text _ .nil) .nil)
  obtain ⟨source, hs, hg⟩ := gives_of_steady hp (TextStream.steady_ofText t)
  obtain ⟨source', hs', hg'⟩ := gives_of_steady hp (TextStream.steady_ofText f.serialize)
  have ht : ({ pattern } : RegionRules).regionsOf (MarkupItem.ofText t) = [['b'], ['c']] := by
    decide +kernel
  have hf : ({ pattern } : RegionRules).regionsOf (MarkupItem.ofText f.serialize) = [['c']] := by
    decide +kernel
  refine ⟨hp, hc, by decide +kernel, ⟨source, hs, ht ▸ hg⟩, ⟨source', hs', hf ▸ hg'⟩, ?_⟩
  rw [sameRegions_iff hp, ht, hf]
  decide

end RegionSource

end SentenceReader
