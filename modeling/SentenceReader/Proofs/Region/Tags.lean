import Mathlib.Data.List.TakeWhile
import SentenceReader.Proofs.Region.Items
import SentenceReader.Region.Tag

/-! Tags as documents write them. Read back, a tag says the name of its element and on which side of
its content it stands; remarks between angle brackets say nothing. -/
namespace SentenceReader

/-- The name of an element, as documents write it. -/
structure ElementName where
  chars : Text
  ne_nil : chars ≠ []
  plain : ∀ c ∈ chars, isBlank c = false ∧ c ∉ ['<', '>', '/', '!', '?']

/-- What stands behind the name in a tag: nothing, or white space and anything behind that. -/
structure Attributes where
  chars : Text
  spaced : ∀ c ∈ chars.head?, isBlank c = true
  unclosed : '>' ∉ chars

/-- Whether a slash is the last character that is not white space. -/
def Attributes.endInSlash (a : Attributes) : Bool :=
  (a.chars.filter fun c => !isBlank c).getLast? == some '/'

/-- A text between angle brackets. -/
def Text.bracketed (t : Text) : Text := '<' :: t ++ ['>']

/-- A text between angle brackets with no closing bracket in it. -/
def Text.IsTag (t : Text) : Prop := ∃ inner, '>' ∉ inner ∧ t = Text.bracketed inner

namespace ElementName

def startTag (n : ElementName) (a : Attributes) : Text := Text.bracketed (n.chars ++ a.chars)

def emptyTag (n : ElementName) (a : Attributes) : Text :=
  Text.bracketed (n.chars ++ (a.chars ++ ['/']))

def endTag (n : ElementName) : Text := Text.bracketed ('/' :: n.chars)

theorem isNameChar (n : ElementName) : ∀ c ∈ n.chars, Tag.isNameChar c = true := by
  intro c hc
  obtain ⟨hb, hm⟩ := n.plain c hc
  simp only [List.mem_cons, List.not_mem_nil, or_false, not_or] at hm
  simp [Tag.isNameChar, hb, hm]

theorem exists_cons (n : ElementName) :
    ∃ c rest, n.chars = c :: rest ∧ isBlank c = false ∧ c ≠ '/' := by
  obtain ⟨c, rest, h⟩ := List.exists_cons_of_ne_nil n.ne_nil
  obtain ⟨hb, hm⟩ := n.plain c (by simp [h])
  refine ⟨c, rest, h, hb, ?_⟩
  rintro rfl
  simp at hm

theorem unclosed (n : ElementName) : '>' ∉ n.chars := by
  intro h
  simpa using (n.plain '>' h).2

theorem isTag_startTag (n : ElementName) (a : Attributes) : (n.startTag a).IsTag :=
  ⟨_, by simp [n.unclosed, a.unclosed], rfl⟩

theorem isTag_emptyTag (n : ElementName) (a : Attributes) : (n.emptyTag a).IsTag :=
  ⟨_, by simp [n.unclosed, a.unclosed], rfl⟩

theorem isTag_endTag (n : ElementName) : n.endTag.IsTag :=
  ⟨_, by simp [n.unclosed], rfl⟩

end ElementName

theorem Text.isTag_remark {mark : Char} (hm : mark = '!' ∨ mark = '?') {t : Text} (h : '>' ∉ t) :
    (Text.bracketed (mark :: t)).IsTag := by
  refine ⟨_, ?_, rfl⟩
  rcases hm with rfl | rfl <;> simpa using h

theorem MarkupItem.ofText_tag {u : Text} (h : u.IsTag) (later : Text) :
    ofText (u ++ later) = .tag u :: ofText later := by
  obtain ⟨inner, hi, rfl⟩ := h
  have hb : Text.bracketed inner ++ later = '<' :: inner ++ '>' :: later := by
    simp [Text.bracketed]
  rw [hb, ofText_eq_cons (by simp), first_tag hi]
  rfl

theorem MarkupItem.Lexes.isTag {t : Text} {items : List MarkupItem}
    (h : Lexes t items) {u : Text} (hu : .tag u ∈ items) : u.IsTag := by
  obtain ⟨inner, rfl, hi⟩ := h.tag u hu
  exact ⟨inner, hi, rfl⟩

namespace Tag

theorem body_name (n : ElementName) (t : Text) : body (n.chars ++ t) = (false, n.chars ++ t) := by
  obtain ⟨c, rest, hn, hb, hs⟩ := n.exists_cons
  rw [hn, List.cons_append, body, Text.trimStart, List.dropWhile_cons_of_neg (by simp [hb])]
  split
  · next hc =>
    exact absurd (List.cons.inj hc).1 hs
  · rfl

theorem body_slash_name (n : ElementName) (t : Text) :
    body ('/' :: (n.chars ++ t)) = (true, n.chars ++ t) := by
  obtain ⟨c, rest, hn, hb, -⟩ := n.exists_cons
  have hs : isBlank '/' = false := by decide
  rw [hn, body, Text.trimStart, List.dropWhile_cons_of_neg (by simp [hs])]
  simp [Text.trimStart, hb]

/-- What is read of a tag, once the slash in front of its name is out of the way. -/
theorem ofText?_of_body {closing : Bool} {inner name u : Text}
    (hb : body (inner ++ ['>']) = (closing, name ++ (u ++ ['>']))) (hne : name ≠ [])
    (hn : ∀ c ∈ name, isNameChar c = true) (hu : '>' ∉ u)
    (hhead : ∀ c ∈ u.head?, isNameChar c = false) :
    ofText? (Text.bracketed inner) =
      some ⟨name, closing, (u.filter fun c => !isBlank c).getLast? == some '/'⟩ := by
  have hstop : ∀ c ∈ (u ++ ['>']).head?, isNameChar c = false := by
    cases u with
    | nil =>
      intro c hc
      obtain rfl : '>' = c := Option.some.inj hc
      decide
    | cons d u => exact hhead
  have htake : (u ++ ['>']).takeWhile isNameChar = [] := by
    cases h : u ++ ['>'] with
    | nil => rfl
    | cons d rest => exact List.takeWhile_cons_of_neg (by simp [hstop d (by simp [h])])
  have hdrop : (u ++ ['>']).dropWhile isNameChar = u ++ ['>'] := by
    cases h : u ++ ['>'] with
    | nil => rfl
    | cons d rest => exact List.dropWhile_cons_of_neg (by simp [hstop d (by simp [h])])
  have hname : (name ++ (u ++ ['>'])).takeWhile isNameChar = name := by
    rw [List.takeWhile_append_of_pos hn, htake, List.append_nil]
  have hrest : (name ++ (u ++ ['>'])).dropWhile isNameChar = u ++ ['>'] := by
    rw [List.dropWhile_append_of_pos hn, hdrop]
  have hempty : name.isEmpty = false := by simp [hne]
  simp only [ofText?, Text.bracketed, List.cons_append, hb, hname, hrest, hempty,
    Text.cut_append_cons hu, Text.getLast?_trimEnd, Bool.false_eq_true, if_false]
  rfl

theorem isNameChar_of_isBlank {c : Char} (h : isBlank c = true) : isNameChar c = false := by
  simp [isNameChar, h]

theorem ofText?_startTag (n : ElementName) (a : Attributes) :
    ofText? (n.startTag a) = some ⟨n.chars, false, a.endInSlash⟩ :=
  ofText?_of_body (by rw [List.append_assoc, body_name]) n.ne_nil n.isNameChar a.unclosed
    fun c hc => isNameChar_of_isBlank (a.spaced c hc)

theorem ofText?_emptyTag (n : ElementName) (a : Attributes) :
    ofText? (n.emptyTag a) = some ⟨n.chars, false, true⟩ := by
  have hbody : body (n.chars ++ (a.chars ++ ['/']) ++ ['>']) =
      (false, n.chars ++ (a.chars ++ ['/'] ++ ['>'])) := by
    rw [List.append_assoc, body_name]
  have hclosed : '>' ∉ a.chars ++ ['/'] := by simp [a.unclosed]
  have hhead : ∀ c ∈ (a.chars ++ ['/']).head?, isNameChar c = false := by
    intro c hc
    cases h : a.chars with
    | nil =>
      rw [h] at hc
      obtain rfl : '/' = c := Option.some.inj hc
      decide
    | cons d rest =>
      exact isNameChar_of_isBlank (a.spaced c (by simpa [h] using hc))
  have hlast : ((a.chars ++ ['/']).filter fun c => !isBlank c).getLast? = some '/' := by
    have hs : isBlank '/' = false := by decide
    simp [hs]
  rw [ElementName.emptyTag, ofText?_of_body hbody n.ne_nil n.isNameChar hclosed hhead, hlast]
  rfl

theorem ofText?_endTag (n : ElementName) : ofText? n.endTag = some ⟨n.chars, true, false⟩ := by
  have hbody : body ('/' :: n.chars ++ ['>']) = (true, n.chars ++ ([] ++ ['>'])) := by
    rw [List.cons_append, body_slash_name, List.nil_append]
  exact ofText?_of_body hbody n.ne_nil n.isNameChar (by simp) (by simp)

theorem ofText?_remark {mark : Char} (h : mark = '!' ∨ mark = '?') (t : Text) :
    ofText? (Text.bracketed (mark :: t)) = none := by
  have hb : isBlank mark = false := by
    rcases h with rfl | rfl <;> decide
  have hn : isNameChar mark = false := by
    rcases h with rfl | rfl <;> decide
  have hs : mark ≠ '/' := by
    rintro rfl
    simp at h
  have hbody : body (mark :: t ++ ['>']) = (false, mark :: t ++ ['>']) := by
    rw [List.cons_append, body, Text.trimStart, List.dropWhile_cons_of_neg (by simp [hb])]
    split
    · next hc => exact absurd (List.cons.inj hc).1 hs
    · rfl
  simp only [ofText?, Text.bracketed, List.cons_append] at hbody ⊢
  rw [hbody]
  simp [hn]

end Tag

end SentenceReader
