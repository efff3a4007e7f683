import SentenceReader.Proofs.Config.Overriding

/-! Settings that are made again from themselves. They stay what they are, and overrides one after the
other come to the same as the last ones over the first: what an argument is made into is read as
itself, so it does not matter whether settings were made in between. -/
namespace SentenceReader

namespace Config

/-- A key that is no stranger where there is an argument for every setting. -/
def IsSetting : ArgumentKey → Prop
  | .name t | .encodedName t _ => t ∈ FieldName.all
  | .notAName _ => False

/-- There is an argument for every setting. -/
def IsComplete (args : Arguments) : Prop := ∀ name ∈ FieldName.all, .name name ∈ args.keys

theorem isComplete_toArguments (c : Config) : IsComplete c.toArguments := fun _ h =>
  List.mem_map_of_mem h

theorem IsComplete.update {args : Arguments} (h : IsComplete args) (updates : Arguments) :
    IsComplete (args.update updates) := fun name hname =>
  (Arguments.mem_keys_update args updates _).2 (.inr (h name hname))

theorem IsComplete.strangers_eq_nil_iff {args : Arguments} (h : IsComplete args) :
    strangers args = [] ↔ ∀ k ∈ args.keys, IsSetting k := by
  rw [Config.strangers_eq_nil_iff]
  refine forall₂_congr fun k _ => ?_
  cases k with
  | name t => rfl
  | encodedName t shown => exact and_iff_left_of_imp (h t)
  | notAName shown => rfl

/-- Where there are no strangers, those of an override are its own. -/
theorem IsComplete.strangers_update_eq_nil_iff {args : Arguments} (h : IsComplete args)
    (hs : strangers args = []) (updates : Arguments) :
    strangers (args.update updates) = [] ↔ ∀ k ∈ updates.keys, IsSetting k := by
  rw [h.strangers_eq_nil_iff] at hs
  simp only [(h.update updates).strangers_eq_nil_iff, Arguments.mem_keys_update, or_imp, forall_and]
  exact and_iff_left hs

section Rebuilt

variable [PatternHost]

/-- Settings are made again from themselves. -/
theorem ofArguments_toArguments {args : Arguments} {c : Config} (h : ofArguments args = .ok c) :
    ofArguments c.toArguments = .ok c := by
  obtain ⟨hsaid, hissues⟩ := (ofArguments_eq_ok_iff args c).1 h
  obtain ⟨pattern, hp⟩ := hsaid.pattern.1
  exact (ofArguments_eq_ok_iff _ c).2 ⟨says_toArguments hp, hissues⟩

/-- A second override can be made over the arguments of the first one. -/
theorem override_override {c c₁ : Config} {u : Arguments} (h₁ : c.override u = .ok c₁) (v : Arguments)
    (c₂ : Config) :
    c₁.override v = .ok c₂ ↔ ofArguments ((c.toArguments.update u).update v) = .ok c₂ := by
  have hsaid := ((ofArguments_eq_ok_iff _ c₁).1 h₁).1
  have hself := ((ofArguments_eq_ok_iff _ c₁).1 (ofArguments_toArguments h₁)).1
  have hs := ((isComplete_toArguments c₁).strangers_update_eq_nil_iff hself.strangers v).trans
    (((isComplete_toArguments c).update u).strangers_update_eq_nil_iff hsaid.strangers v).symm
  rw [override, ofArguments_eq_ok_iff, ofArguments_eq_ok_iff]
  exact and_congr_left' (hself.update_iff hsaid hs c₂)

/-- A setting that is not overridden keeps its value. -/
theorem find?_override {args : Arguments} {c c' : Config} (h : ofArguments args = .ok c) {u : Arguments}
    (hu : c.override u = .ok c') {name : Text} (hname : u.find? name = none) :
    c'.toArguments.find? name = c.toArguments.find? name := by
  obtain ⟨pattern, hp⟩ := ((ofArguments_eq_ok_iff args c).1 h).1.pattern.1
  have hkey : .name name ∉ u.keys := fun hk => (Arguments.find?_ne_none_iff u name).2 hk hname
  have hlast : .name name ∉ Arguments.keys u.reverse := by simpa [Arguments.keys] using hkey
  exact ((ofArguments_eq_ok_iff _ c').1 hu).1.find?_of_none hp
    (Decidable.not_not.1 (mt (Arguments.find?_ne_none_iff _ _).1 hlast))

/-- Settings are made again from themselves, whatever arguments they were first made from, and overrides
compose: two of them one after the other make what the second one over the first one makes, and leave
all other settings. -/
theorem rebuilds {args : Arguments} {c : Config} (h : ofArguments args = .ok c) :
    ofArguments c.toArguments = .ok c ∧
    ∀ (u : Arguments) (c₁ : Config), c.override u = .ok c₁ → ∀ (v : Arguments) (c₂ : Config),
      (c₁.override v = .ok c₂ ↔ ofArguments ((c.toArguments.update u).update v) = .ok c₂) ∧
      (c₁.override v = .ok c₂ → ∀ name, u.find? name = none → v.find? name = none →
        c₂.toArguments.find? name = c.toArguments.find? name) := by
  refine ⟨ofArguments_toArguments h, fun u c₁ h₁ v c₂ => ⟨override_override h₁ v c₂, fun h₂ name hu hv => ?_⟩⟩
  rw [find?_override h₁ h₂ hv, find?_override h h₁ hu]

end Rebuilt

/-- A delimiter for tags that would not go with the explicit delimiter of an override before it. -/
theorem rebuilds_of_spellings :
    let args : Arguments := [(.name FieldName.escaper, .data (.text "ptb".toList)),
      (.name FieldName.keepInternalTags, .data (.text "YES".toList)),
      (.name FieldName.tokenizer, .data (.text "none".toList))]
    let c : Config := { escaper := some .treebank, keepInternalTags := true, tokenizer := .tokenized }
    let u : Arguments := .named [(FieldName.explicitDelimiter, .data (.text ['|']))]
    let v : Arguments := .named [(FieldName.explicitDelimiter, .data .null),
      (FieldName.tagDelimiter, .data (.text ['|']))]
    let c₁ : Config := { c with explicitDelimiter := some ['|'] }
    let c₂ : Config := { c with tagDelimiter := some ['|'] }
    (ofArguments args = .ok c ∧ c.override u = .ok c₁ ∧ c₁.override v = .ok c₂) ∧
      ofArguments c.toArguments = .ok c ∧ ofArguments ((c.toArguments.update u).update v) = .ok c₂ ∧
      c₂.toArguments.find? FieldName.escaper = c.toArguments.find? FieldName.escaper := by
  intro args c u v c₁ c₂
  have h : ofArguments args = .ok c := rfl
  have hu : ofArguments (args.update u) = .ok c₁ := rfl
  have h₁ : c.override u = .ok c₁ := (override_eq_ok_iff h _ c₁).2 hu
  have h₂ : c₁.override v = .ok c₂ := (override_eq_ok_iff hu _ c₂).2 rfl
  obtain ⟨hself, hcompose⟩ := rebuilds h
  obtain ⟨hover, hkept⟩ := hcompose u c₁ h₁ v c₂
  exact ⟨⟨h, h₁, h₂⟩, hself, hover.1 h₂, hkept h₂ _ (by decide) (by decide)⟩

end Config

end SentenceReader
