import SentenceReader.Proofs.Region.Coming
import SentenceReader.Proofs.Region.Tags

/-! Documents whose elements are well nested. The regions of such a document are what stands inside
its outermost accepted elements, as the tree of its elements has it. -/
namespace SentenceReader

/-- The parts of a document one after the other, where an element holds parts of its own. -/
inductive MarkupForest where
  | nil
  | text (t : Text) (noTag : '<' ∉ t) (rest : MarkupForest)
  /-- A comment, a declaration or an instruction. -/
  | remark (mark : Char) (t : Text) (marked : mark = '!' ∨ mark = '?') (unclosed : '>' ∉ t)
    (rest : MarkupForest)
  | element (name : ElementName) (attributes : Attributes) (opens : attributes.endInSlash = false)
    (children rest : MarkupForest)
  | selfClosing (name : ElementName) (attributes : Attributes) (rest : MarkupForest)

namespace MarkupForest

/-- The document as it is written. -/
def serialize : MarkupForest → Text
  | nil => []
  | text t _ rest => t ++ rest.serialize
  | remark mark t _ _ rest => Text.bracketed (mark :: t) ++ rest.serialize
  | element name attributes _ children rest =>
    name.startTag attributes ++ children.serialize ++ name.endTag ++ rest.serialize
  | selfClosing name attributes rest => name.emptyTag attributes ++ rest.serialize

/-- The texts of the document and of all its elements. -/
def texts : MarkupForest → Text
  | nil => []
  | text t _ rest => t ++ rest.texts
  | remark _ _ _ _ rest => rest.texts
  | element _ _ _ children rest => children.texts ++ rest.texts
  | selfClosing _ _ rest => rest.texts

/-- What stands inside the accepted elements that are in no other accepted element. -/
def outermost (accepts : Text → Bool) : MarkupForest → List MarkupForest
  | nil => []
  | text _ _ rest => rest.outermost accepts
  | remark _ _ _ _ rest => rest.outermost accepts
  | element name _ _ children rest =>
    (if accepts name.chars then [children] else children.outermost accepts) ++ rest.outermost accepts
  | selfClosing name _ rest =>
    (if accepts name.chars then [nil] else []) ++ rest.outermost accepts

/-- What a region keeps of the parts inside it. -/
def content (keepTags : Bool) (f : MarkupForest) : Text := if keepTags then f.serialize else f.texts

variable (keepTags : Bool)

@[simp] theorem content_nil : nil.content keepTags = [] := by
  cases keepTags <;> rfl

@[simp] theorem content_text (t : Text) (h : '<' ∉ t) (rest : MarkupForest) :
    (text t h rest).content keepTags = t ++ rest.content keepTags := by
  cases keepTags <;> rfl

@[simp] theorem content_remark (mark : Char) (t : Text) (hm : mark = '!' ∨ mark = '?')
    (h : '>' ∉ t) (rest : MarkupForest) :
    (remark mark t hm h rest).content keepTags =
      (if keepTags then Text.bracketed (mark :: t) else []) ++ rest.content keepTags := by
  cases keepTags <;> rfl

@[simp] theorem content_element (name : ElementName) (attributes : Attributes)
    (h : attributes.endInSlash = false) (children rest : MarkupForest) :
    (element name attributes h children rest).content keepTags =
      (if keepTags then name.startTag attributes else []) ++ (children.content keepTags ++
        ((if keepTags then name.endTag else []) ++ rest.content keepTags)) := by
  cases keepTags
  · rfl
  · simp [content, serialize]

@[simp] theorem content_selfClosing (name : ElementName) (attributes : Attributes)
    (rest : MarkupForest) :
    (selfClosing name attributes rest).content keepTags =
      (if keepTags then name.emptyTag attributes else []) ++ rest.content keepTags := by
  cases keepTags <;> rfl

end MarkupForest

theorem MarkupItem.ofText_of_head_ne {c : Char} (h : c ≠ '<') (t : Text) :
    ofText (c :: t) =
      .text ((c :: t).takeWhile (· != '<')) :: ofText ((c :: t).dropWhile (· != '<')) := by
  have hc : (c != '<') = true := by simpa using h
  rw [ofText_eq_cons (by simp), first_text t h]
  simp only [List.takeWhile_cons, List.dropWhile_cons, hc, if_true]

namespace RegionRules

open MarkupItem (ofText)

variable (rules : RegionRules)

/-- Whether the elements of a name are regions. -/
def accepts (name : Text) : Bool := rules.pattern.matchesAll name

theorem tag?_startTag (n : ElementName) (a : Attributes) :
    rules.tag? (.tag (n.startTag a)) =
      if rules.accepts n.chars then some ⟨n.chars, false, a.endInSlash⟩ else none := by
  rw [tag?, Tag.ofText?_startTag]
  rfl

theorem tag?_emptyTag (n : ElementName) (a : Attributes) :
    rules.tag? (.tag (n.emptyTag a)) =
      if rules.accepts n.chars then some ⟨n.chars, false, true⟩ else none := by
  rw [tag?, Tag.ofText?_emptyTag]
  rfl

theorem tag?_endTag (n : ElementName) :
    rules.tag? (.tag n.endTag) =
      if rules.accepts n.chars then some ⟨n.chars, true, false⟩ else none := by
  rw [tag?, Tag.ofText?_endTag]
  rfl

theorem tag?_remark {mark : Char} (h : mark = '!' ∨ mark = '?') (t : Text) :
    rules.tag? (.tag (Text.bracketed (mark :: t))) = none := by
  rw [tag?, Tag.ofText?_remark h]
  rfl

theorem depthAfter_startTag (depth : Nat) (n : ElementName) {a : Attributes}
    (h : a.endInSlash = false) :
    rules.depthAfter depth (.tag (n.startTag a)) =
      if rules.accepts n.chars then depth + 1 else depth := by
  rw [depthAfter, tag?_startTag]
  by_cases ha : rules.accepts n.chars = true <;> simp [ha, h]

theorem depthAfter_emptyTag (depth : Nat) (n : ElementName) (a : Attributes) :
    rules.depthAfter depth (.tag (n.emptyTag a)) = depth := by
  rw [depthAfter, tag?_emptyTag]
  by_cases ha : rules.accepts n.chars = true <;> simp [ha]

theorem depthAfter_endTag (depth : Nat) (n : ElementName) :
    rules.depthAfter depth (.tag n.endTag) =
      if rules.accepts n.chars then depth - 1 else depth := by
  rw [depthAfter, tag?_endTag]
  by_cases ha : rules.accepts n.chars = true <;> simp [ha]

theorem depthAfter_remark (depth : Nat) {mark : Char} (h : mark = '!' ∨ mark = '?') (t : Text) :
    rules.depthAfter depth (.tag (Text.bracketed (mark :: t))) = depth := by
  rw [depthAfter, tag?_remark _ h]

theorem inside_tag {u : Text} (h : u.IsTag) (depth : Nat) (later : Text) :
    rules.inside depth (ofText (u ++ later)) =
      if rules.depthAfter depth (.tag u) = 0 then ([], ofText later)
      else ((if rules.keepTags then u else []) ++
          (rules.inside (rules.depthAfter depth (.tag u)) (ofText later)).1,
        (rules.inside (rules.depthAfter depth (.tag u)) (ofText later)).2) := by
  rw [MarkupItem.ofText_tag h, inside]
  rfl

/-- Where a text ends and another one begins makes no difference inside a region. -/
theorem inside_run {depth : Nat} (hd : depth ≠ 0) (u : Text) :
    rules.inside depth (ofText u) =
      (u.takeWhile (· != '<') ++ (rules.inside depth (ofText (u.dropWhile (· != '<')))).1,
        (rules.inside depth (ofText (u.dropWhile (· != '<')))).2) := by
  cases u with
  | nil => rfl
  | cons c u =>
    by_cases hc : c = '<'
    · simp [hc]
    · rw [MarkupItem.ofText_of_head_ne hc, inside]
      exact if_neg hd

theorem inside_text {depth : Nat} (hd : depth ≠ 0) {t : Text} (h : '<' ∉ t) (later : Text) :
    rules.inside depth (ofText (t ++ later)) =
      (t ++ (rules.inside depth (ofText later)).1, (rules.inside depth (ofText later)).2) := by
  rw [rules.inside_run hd (t ++ later), rules.inside_run hd later,
    Text.takeWhile_append_of_not_mem h, Text.dropWhile_append_of_not_mem h, List.append_assoc]

/-- Inside a region the parts of a document leave as many accepted elements open as there were, and
add what is kept of them. -/
theorem inside_serialize (f : MarkupForest) {depth : Nat} (hd : depth ≠ 0) (later : Text) :
    rules.inside depth (ofText (f.serialize ++ later)) =
      (f.content rules.keepTags ++ (rules.inside depth (ofText later)).1,
        (rules.inside depth (ofText later)).2) := by
  induction f generalizing depth later with
  | nil => simp [MarkupForest.serialize]
  | text t h rest ih =>
    rw [MarkupForest.serialize, List.append_assoc, rules.inside_text hd h, ih hd]
    simp
  | remark mark t hm hc rest ih =>
    rw [MarkupForest.serialize, List.append_assoc, rules.inside_tag (Text.isTag_remark hm hc),
      rules.depthAfter_remark depth hm, if_neg hd, ih hd]
    simp
  | selfClosing name attributes rest ih =>
    rw [MarkupForest.serialize, List.append_assoc, rules.inside_tag (name.isTag_emptyTag attributes),
      rules.depthAfter_emptyTag, if_neg hd, ih hd]
    simp
  | element name attributes ho children rest ihc ihr =>
    -- The end tag takes away the element that the start tag has counted, if it was counted at all.
    have hin : rules.depthAfter depth (.tag (name.startTag attributes)) ≠ 0 := by
      rw [rules.depthAfter_startTag depth name ho]
      split <;> omega
    have hout : rules.depthAfter (rules.depthAfter depth (.tag (name.startTag attributes)))
        (.tag name.endTag) = depth := by
      rw [rules.depthAfter_startTag depth name ho, rules.depthAfter_endTag]
      split <;> simp
    rw [MarkupForest.serialize, List.append_assoc, List.append_assoc, List.append_assoc,
      rules.inside_tag (name.isTag_startTag attributes), if_neg hin, ihc hin,
      rules.inside_tag name.isTag_endTag, hout, if_neg hd, ihr hd]
    simp

theorem regionsOf_run (u : Text) :
    rules.regionsOf (ofText u) = rules.regionsOf (ofText (u.dropWhile (· != '<'))) := by
  cases u with
  | nil => rfl
  | cons c u =>
    by_cases hc : c = '<'
    · simp [hc]
    · rw [MarkupItem.ofText_of_head_ne hc, regionsOf]
      rfl

theorem regionsOf_text {t : Text} (h : '<' ∉ t) (later : Text) :
    rules.regionsOf (ofText (t ++ later)) = rules.regionsOf (ofText later) := by
  rw [rules.regionsOf_run (t ++ later), rules.regionsOf_run later,
    Text.dropWhile_append_of_not_mem h]

theorem regionsOf_tag {u : Text} (h : u.IsTag) (later : Text) :
    rules.regionsOf (ofText (u ++ later)) =
      match rules.tag? (.tag u) with
      | none => rules.regionsOf (ofText later)
      | some tag =>
        if tag.closing then rules.regionsOf (ofText later)
        else if tag.selfClosing then [] :: rules.regionsOf (ofText later)
        else (rules.inside 1 (ofText later)).1 :: rules.regionsOf (rules.inside 1 (ofText later)).2 := by
  have htag := congrArg rules.regionsOf (MarkupItem.ofText_tag h later)
  exact htag.trans (regionsOf.eq_def rules (.tag u :: ofText later))

/-- The regions of a well-nested document are its outermost accepted elements. -/
theorem regionsOf_serialize (f : MarkupForest) (later : Text) :
    rules.regionsOf (ofText (f.serialize ++ later)) =
      (f.outermost rules.accepts).map (MarkupForest.content rules.keepTags) ++
        rules.regionsOf (ofText later) := by
  induction f generalizing later with
  | nil => rfl
  | text t h rest ih =>
    rw [MarkupForest.serialize, List.append_assoc, rules.regionsOf_text h, ih]
    rfl
  | remark mark t hm hc rest ih =>
    rw [MarkupForest.serialize, List.append_assoc, rules.regionsOf_tag (Text.isTag_remark hm hc),
      rules.tag?_remark hm]
    exact ih later
  | selfClosing name attributes rest ih =>
    rw [MarkupForest.serialize, List.append_assoc, rules.regionsOf_tag (name.isTag_emptyTag attributes),
      rules.tag?_emptyTag]
    by_cases ha : rules.accepts name.chars = true
    · simp [ha, MarkupForest.outermost, ih]
    · simp [ha, MarkupForest.outermost, ih]
  | element name attributes ho children rest ihc ihr =>
    rw [MarkupForest.serialize, List.append_assoc, List.append_assoc, List.append_assoc,
      rules.regionsOf_tag (name.isTag_startTag attributes), rules.tag?_startTag, ho]
    by_cases ha : rules.accepts name.chars = true
    · have hend : rules.inside 1 (ofText (name.endTag ++ (rest.serialize ++ later))) =
          ([], ofText (rest.serialize ++ later)) := by
        rw [rules.inside_tag name.isTag_endTag, rules.depthAfter_endTag, if_pos ha, if_pos rfl]
      simp [ha, MarkupForest.outermost, rules.inside_serialize children Nat.one_ne_zero, hend, ihr]
    · have hend : rules.regionsOf (ofText (name.endTag ++ (rest.serialize ++ later))) =
          rules.regionsOf (ofText (rest.serialize ++ later)) := by
        rw [rules.regionsOf_tag name.isTag_endTag, rules.tag?_endTag, if_neg ha]
      simp [ha, MarkupForest.outermost, ihc, hend, ihr]

end RegionRules

namespace RegionSource

/-- The regions of a well-nested document are what stands inside its outermost accepted elements, in
the order of the document: all of it as it is written if tags are kept, otherwise its texts. -/
theorem gives_outermost [PatternHost] {written : Text} {pattern : Pattern}
    (hp : Pattern.ofText written = .ok pattern) (keepTags : Bool) (f : MarkupForest)
    {stream : TextStream} (hst : stream.Steady) (hrest : stream.rest = f.serialize) :
    ∃ s, ofText stream written keepTags = .ok s ∧
      s.Gives ((f.outermost pattern.matchesAll).map fun inner =>
        if keepTags then inner.serialize else inner.texts) := by
  obtain ⟨pieces, h⟩ := hst.exists_delivers
  refine ⟨_, ofText_of_pattern hp stream keepTags, ?_⟩
  have hg := gives_of_pieces h { pattern, keepTags }
  have hr := RegionRules.regionsOf_serialize { pattern, keepTags } f []
  rw [List.append_nil, MarkupItem.ofText_nil, RegionRules.regionsOf, List.append_nil] at hr
  rw [h.flatten, hrest, hr] at hg
  exact hg

/-- An accepted element inside another one, one that is closed in its own tag, and one that only a
comment seems to start. -/
theorem gives_outermost_of_nested :
    let p : ElementName := ⟨['p'], by decide, List.forall_mem_singleton.2 (by decide)⟩
    let s : ElementName := ⟨['s'], by decide, List.forall_mem_singleton.2 (by decide)⟩
    let bare : Attributes := ⟨[], by simp, by decide⟩
    let marked : Attributes := ⟨" id='<b/'".toList, by simp, by decide⟩
    let f : MarkupForest :=
      .element p bare rfl
        (.element s marked (by decide)
          (.text "a>".toList (by decide) (.element s bare rfl (.text ['c'] (by decide) .nil) .nil))
          (.text ['d'] (by decide) .nil))
        (.remark '!' "-- <s --".toList (by decide) (by decide) (.selfClosing s bare .nil))
    let pattern : Pattern := .group {} {} (.set false [.literal 's'.toNat])
    let stream := TextStream.ofText "<p><s id='<b/'>a><s>c</s></s>d</p><!-- <s --><s/>".toList
    Pattern.ofText ['s'] = .ok pattern ∧ stream.Steady ∧ stream.rest = f.serialize ∧
      (∃ source, ofText stream ['s'] true = .ok source ∧
        source.Gives ["a><s>c</s>".toList, []]) ∧
      ∃ source, ofText stream ['s'] false = .ok source ∧ source.Gives ["a>c".toList, []] := by
  intro p s bare marked f pattern stream
  have hp : Pattern.ofText ['s'] = .ok pattern := rfl
  have hst : stream.Steady := TextStream.steady_ofText _
  have hrest : stream.rest = f.serialize := by decide
  obtain ⟨source, hs, hg⟩ := gives_outermost hp true f hst hrest
  obtain ⟨source', hs', hg'⟩ := gives_outermost hp false f hst hrest
  have ha : f.outermost pattern.matchesAll =
      [.text "a>".toList (by decide) (.element s bare rfl (.text ['c'] (by decide) .nil) .nil),
        .nil] := by
    have hpp : pattern.matchesAll p.chars = false := by decide +kernel
    have hps : pattern.matchesAll s.chars = true := by decide +kernel
    simp [f, MarkupForest.outermost, hpp, hps]
  rw [ha] at hg hg'
  exact ⟨hp, hst, hrest, ⟨source, hs, hg⟩, source', hs', hg'⟩

end RegionSource

end SentenceReader
