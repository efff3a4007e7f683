import Mathlib.Data.List.Basic
import SentenceReader.Proofs.Region.Tags
import SentenceReader.Region.Reader

/-! How tags are spelt. A tag is its name, with white space and perhaps a slash in front of it and
anything behind it that does not belong to the name; nothing else is read as a tag, and of a tag that
is spelt so nothing else is read. -/
namespace SentenceReader

namespace Tag

/-- The slash in front of a name, with the white space behind it, if there is such a slash. -/
def slashed : Option Text → Text
  | none => []
  | some gap => '/' :: gap

/-- The parts of a tag as it is written between its brackets. -/
structure Spelling where
  gap : Text
  /-- The white space behind a slash in front of the name, if there is such a slash. -/
  slash : Option Text
  name : Text
  attributes : Text
  blank : ∀ c ∈ gap, isBlank c = true
  slash_blank : ∀ u ∈ slash, ∀ c ∈ u, isBlank c = true
  ne_nil : name ≠ []
  named : ∀ c ∈ name, isNameChar c = true
  parted : ∀ c ∈ attributes.head?, isNameChar c = false
  unclosed : '>' ∉ attributes

namespace Spelling

variable (s : Spelling)

/-- The tag as it is written. -/
def chars : Text := Text.bracketed (s.gap ++ (slashed s.slash ++ (s.name ++ s.attributes)))

/-- What the tag says. It is all of its element if a slash is the last character in it that is not
white space, and does not belong to the name. -/
def tag : Tag where
  name := s.name
  closing := s.slash.isSome
  selfClosing := (s.attributes.filter fun c => !isBlank c).getLast? == some '/'

theorem exists_name_cons : ∃ c rest, s.name = c :: rest ∧ isBlank c = false ∧ c ≠ '/' := by
  obtain ⟨c, rest, h⟩ := List.exists_cons_of_ne_nil s.ne_nil
  have hc := s.named c (by simp [h])
  simp only [isNameChar, Bool.and_eq_true, Bool.not_eq_true'] at hc
  refine ⟨c, rest, h, hc.1, ?_⟩
  rintro rfl
  simp at hc

theorem body_chars (t : Text) :
    body (s.gap ++ (slashed s.slash ++ (s.name ++ t))) = (s.slash.isSome, s.name ++ t) := by
  obtain ⟨c, rest, hn, hb, hc⟩ := s.exists_name_cons
  have hname : Text.trimStart (s.name ++ t) = s.name ++ t :=
    Text.trimStart_of_head (by simp [hn, hb])
  rw [body, Text.trimStart_append s.blank]
  cases hs : s.slash with
  | none =>
    rw [slashed, List.nil_append, hname, hn, List.cons_append]
    split
    · next he => exact absurd (List.cons.inj he).1 hc
    · rfl
  | some u =>
    have hslash : isBlank '/' = false := by decide
    rw [slashed, List.cons_append, Text.trimStart_of_head (by simp [hslash])]
    simp only [Text.trimStart_append (s.slash_blank u hs), hname, Option.isSome_some]

/-- A tag is read as it is spelt. -/
theorem ofText?_chars : ofText? s.chars = some s.tag :=
  ofText?_of_body (by simp only [List.append_assoc, s.body_chars]) s.ne_nil s.named s.unclosed s.parted

end Spelling

theorem exists_of_body (t : Text) :
    ∃ gap slash rest, (∀ c ∈ gap, isBlank c = true) ∧
      (∀ u ∈ slash, ∀ c ∈ u, isBlank c = true) ∧ body t = (slash.isSome, rest) ∧
        t = gap ++ (slashed slash ++ rest) := by
  obtain ⟨gap, hgap, ht⟩ := Text.exists_gap t
  unfold body
  split
  · next rest hr =>
    obtain ⟨u, hu, hrest⟩ := Text.exists_gap rest
    refine ⟨gap, some u, Text.trimStart rest, hgap, by simpa using hu, rfl, ?_⟩
    rw [hr, hrest] at ht
    simpa [slashed] using ht
  · exact ⟨gap, none, _, hgap, by simp, rfl, ht⟩

/-- What is read as a tag is spelt as one. -/
theorem exists_spelling {u : Text} {tag : Tag} (hu : u.IsTag) (h : ofText? u = some tag) :
    ∃ s : Spelling, s.chars = u ∧ s.tag = tag := by
  obtain ⟨inner, hi, rfl⟩ := hu
  obtain ⟨gap, slash, rest, hgap, hslash, hbody, ht⟩ := exists_of_body (inner ++ ['>'])
  have hread := h
  simp only [ofText?, Text.bracketed, List.cons_append, hbody] at h
  split at h
  · simp at h
  · next hname =>
    split at h
    · next attributes back hcut =>
      obtain ⟨hrest, hclosed⟩ := Text.cut_eq_some hcut
      let s : Spelling :=
        { gap, slash, name := rest.takeWhile isNameChar, attributes
          blank := hgap
          slash_blank := hslash
          ne_nil := by simpa using hname
          named := fun _ hc => List.all_eq_true.1 List.all_takeWhile _ hc
          parted := by
            have hhead := List.head?_dropWhile_not isNameChar rest
            intro c hc
            obtain ⟨later, rfl⟩ := List.head?_eq_some_iff.1 hc
            simpa [hrest] using hhead
          unclosed := hclosed }
      -- There is only one closing bracket, so nothing stands behind the one of the attributes.
      have hwhole : inner ++ '>' :: [] =
          s.gap ++ (slashed s.slash ++ (s.name ++ s.attributes)) ++ '>' :: back := by
        rw [ht, ← List.takeWhile_append_dropWhile (p := isNameChar) (l := rest), hrest]
        simp [s]
      have hinner := (List.append_cons_inj_of_notMem hi List.not_mem_nil).1 hwhole
      refine ⟨s, by rw [Spelling.chars, ← hinner.1], ?_⟩
      have hchars := s.ofText?_chars
      rw [Spelling.chars, ← hinner.1, hread] at hchars
      exact (Option.some.inj hchars).symm
    · simp at h

end Tag

namespace RegionRules

variable (rules : RegionRules)

theorem tag?_spelling (s : Tag.Spelling) :
    rules.tag? (.tag s.chars) =
      if rules.pattern.matchesAll s.name = true then some s.tag else none := by
  rw [tag?, s.ofText?_chars, Option.filter_some]
  rfl

/-- The tag of an accepted element is spelt as one. -/
theorem exists_spelling {item : MarkupItem} {tag : Tag} (h : rules.tag? item = some tag)
    (hi : ∀ u, item = .tag u → u.IsTag) :
    ∃ s : Tag.Spelling, item = .tag s.chars ∧ s.tag = tag ∧
      rules.pattern.matchesAll s.name = true := by
  cases item with
  | text u => simp [tag?] at h
  | tag u =>
    obtain ⟨hu, ha⟩ := Option.filter_eq_some_iff.1 h
    obtain ⟨s, rfl, rfl⟩ := Tag.exists_spelling (hi u rfl) hu
    exact ⟨s, rfl, rfl, ha⟩

end RegionRules

end SentenceReader
