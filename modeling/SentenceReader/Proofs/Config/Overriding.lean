import SentenceReader.Config.Validation

/-! Settings that are overridden. They are made into arguments, some of which are replaced, and checked
anew; as every setting is read from the argument of its name alone, this comes to the same as to
replace the arguments that they were first made from. -/
namespace SentenceReader

namespace Arguments

/-- The last argument of a name counts. -/
theorem find?_update (args updates : Arguments) (name : Text) :
    (args.update updates).find? name = (find? updates.reverse name).or (args.find? name) := by
  unfold update
  induction updates generalizing args with
  | nil => simp [find?]
  | cons u updates ih =>
    obtain ⟨key, value⟩ := u
    rw [List.foldl_cons, ih, find?_set, List.reverse_cons]
    simp only [find?, List.lookup_append, List.lookup_cons, List.lookup_nil]
    cases updates.reverse.lookup (.name name) with
    | some v => rfl
    | none =>
      by_cases hk : key = .name name
      · simp [hk]
      · simp [hk, beq_false_of_ne (Ne.symm hk)]

def keys (args : Arguments) : List ArgumentKey := args.map Prod.fst

def named (settings : List (Text × Argument)) : Arguments :=
  settings.map fun s => (.name s.1, s.2)

theorem mem_keys_set (args : Arguments) (key k : ArgumentKey) (value : Argument) :
    k ∈ (args.set key value).keys ↔ k = key ∨ k ∈ args.keys := by
  induction args with
  | nil => simp [set, keys]
  | cons e rest ih =>
    obtain ⟨k', v'⟩ := e
    simp only [keys] at ih
    by_cases hk : k' = key
    · subst hk
      simp [set, keys]
    · simp only [set, if_neg hk, keys, List.map_cons, List.mem_cons, ih]
      rw [or_left_comm]

/-- Overriding adds the keys of the updates and takes none away. -/
theorem mem_keys_update (args updates : Arguments) (k : ArgumentKey) :
    k ∈ (args.update updates).keys ↔ k ∈ updates.keys ∨ k ∈ args.keys := by
  unfold update
  induction updates generalizing args with
  | nil => simp [keys]
  | cons u updates ih =>
    have hu : k ∈ keys (u :: updates) ↔ k = u.1 ∨ k ∈ keys updates := List.mem_cons
    rw [List.foldl_cons, ih, mem_keys_set, hu, or_left_comm, or_assoc]

theorem mem_keys_named (settings : List (Text × Argument)) (k : ArgumentKey) :
    k ∈ (named settings).keys ↔ ∃ s ∈ settings, .name s.1 = k := by
  simp [keys, named]

theorem find?_ne_none_iff (args : Arguments) (name : Text) :
    args.find? name ≠ none ↔ .name name ∈ args.keys := by
  induction args with
  | nil => simp [find?, keys]
  | cons e rest ih =>
    obtain ⟨k, v⟩ := e
    simp only [find?, keys] at ih
    by_cases h : ArgumentKey.name name = k
    · simp [find?, keys, h]
    · simp [find?, keys, List.lookup_cons, beq_false_of_ne h, h, ih]

end Arguments

namespace Config

def IsKnown (keys : List ArgumentKey) : ArgumentKey → Prop
  | .name t => t ∈ FieldName.all
  | .encodedName t _ => t ∈ FieldName.all ∧ .name t ∈ keys
  | .notAName _ => False

theorem strangers_eq_nil_iff (args : Arguments) :
    strangers args = [] ↔ ∀ k ∈ args.keys, IsKnown args.keys k := by
  rw [strangers, List.filterMap_eq_nil_iff]
  have hmap : (∀ k ∈ args.keys, IsKnown args.keys k) ↔ ∀ a ∈ args, IsKnown args.keys a.1 :=
    List.forall_mem_map
  rw [hmap]
  refine forall₂_congr fun a _ => ?_
  obtain ⟨key, value⟩ := a
  cases key with
  | name t => simp [IsKnown]
  | encodedName t shown =>
    rw [IsKnown, ← Arguments.find?_ne_none_iff]
    simp
  | notAName shown => simp [IsKnown]

/-- Where there were no strangers, there are none if every setting that is replaced is one. -/
theorem strangers_update {args : Arguments} (h : strangers args = [])
    (settings : List (Text × Argument)) :
    strangers (args.update (Arguments.named settings)) = [] ↔
      ∀ s ∈ settings, s.1 ∈ FieldName.all := by
  rw [strangers_eq_nil_iff] at h ⊢
  simp only [Arguments.mem_keys_update, Arguments.mem_keys_named]
  constructor
  · intro hk s hs
    exact hk (.name s.1) (.inl ⟨s, hs, rfl⟩)
  · rintro hs k (⟨s, hm, rfl⟩ | hk)
    · exact hs s hm
    · have hold := h k hk
      cases k with
      | name t => exact hold
      | encodedName t shown =>
        refine ⟨hold.1, ?_⟩
        rw [Arguments.mem_keys_update]
        exact .inr hold.2
      | notAName shown => exact hold

/-- What an argument says after an override depends on what it said before, and on the updates. -/
theorem argument_update {α : Type} {a b : Arguments} {name : Text} {otherwise : α}
    {read : Argument → Except ProblemKind α}
    (h : Checked.argument a name otherwise read = Checked.argument b name otherwise read)
    (updates : Arguments) :
    Checked.argument (a.update updates) name otherwise read =
      Checked.argument (b.update updates) name otherwise read := by
  unfold Checked.argument at h ⊢
  rw [Arguments.find?_update, Arguments.find?_update]
  cases Arguments.find? updates.reverse name with
  | none => exact h
  | some v => rfl

theorem checkWordList_update {a b : Arguments} {name : Text} {otherwise : List Text}
    (h : checkWordList a name otherwise = checkWordList b name otherwise) (updates : Arguments) :
    checkWordList (a.update updates) name otherwise = checkWordList (b.update updates) name otherwise := by
  unfold checkWordList at h ⊢
  rw [Arguments.find?_update, Arguments.find?_update]
  cases Arguments.find? updates.reverse name with
  | none => exact h
  | some v => rfl

theorem argument_of_find? {α : Type} {args : Arguments} {name : Text} {otherwise value : α}
    {read : Argument → Except ProblemKind α} {a : Argument} (ha : args.find? name = some a)
    (hr : read a = .ok value) : Checked.argument args name otherwise read = ⟨value, []⟩ := by
  simp [Checked.argument, ha, hr]

theorem checkWords_texts (name : Text) (n : Nat) (ws : List Text) :
    checkWords name n (ws.map .text) = ⟨ws, []⟩ := by
  induction ws generalizing n with
  | nil => rfl
  | cons w ws ih => simp [checkWords, readText, ih]

section Saying

variable [PatternHost]

/-- Every argument is good, and they say these settings. -/
structure Says (args : Arguments) (c : Config) : Prop where
  sentenceDelimiters : checkWordList args FieldName.sentenceDelimiters
    ({} : Config).sentenceDelimiters = ⟨c.sentenceDelimiters, []⟩
  explicitDelimiter : Checked.argument args FieldName.explicitDelimiter none readText? =
    ⟨c.explicitDelimiter, []⟩
  tagDelimiter : Checked.argument args FieldName.tagDelimiter none readText? = ⟨c.tagDelimiter, []⟩
  elementFilter : Checked.argument args FieldName.elementFilter ({} : Config).elementFilter
    readPattern = ⟨c.elementFilter, []⟩
  keepInternalTags : Checked.argument args FieldName.keepInternalTags false readFlag =
    ⟨c.keepInternalTags, []⟩
  tokenizer : Checked.argument args FieldName.tokenizer ({} : Config).tokenizer readTokenizer =
    ⟨c.tokenizer, []⟩
  tokenizerOptions : Checked.argument args FieldName.tokenizerOptions [] readText =
    ⟨c.tokenizerOptions, []⟩
  tokenizerMaker : Checked.argument args FieldName.tokenizerMaker none readMaker =
    ⟨c.tokenizerMaker, []⟩
  escaper : Checked.argument args FieldName.escaper none readEscaper = ⟨c.escaper, []⟩
  keepEmptySentences : Checked.argument args FieldName.keepEmptySentences false readFlag =
    ⟨c.keepEmptySentences, []⟩
  strangers : strangers args = []

theorem check_eq_iff (args : Arguments) (c : Config) : check args = ⟨c, []⟩ ↔ Says args c := by
  constructor
  · intro h
    have hc : (check args).value = c := congrArg Checked.value h
    have hp : (check args).problems = [] := congrArg Checked.problems h
    subst hc
    simp only [check, List.append_eq_nil_iff] at hp
    obtain ⟨⟨⟨⟨⟨⟨⟨⟨⟨⟨h₁, h₂⟩, h₃⟩, h₄⟩, h₅⟩, h₆⟩, h₇⟩, h₈⟩, h₉⟩, h₁₀⟩, hs⟩ := hp
    have hchecked : ∀ {α : Type} (x : Checked α), x.problems = [] → x = ⟨x.value, []⟩ := by
      rintro α ⟨value, problems⟩ rfl
      rfl
    exact ⟨hchecked _ h₁, hchecked _ h₂, hchecked _ h₃, hchecked _ h₄, hchecked _ h₅, hchecked _ h₆,
      hchecked _ h₇, hchecked _ h₈, hchecked _ h₉, hchecked _ h₁₀, hs⟩
  · intro h
    simp only [check, h.sentenceDelimiters, h.explicitDelimiter, h.tagDelimiter, h.elementFilter,
      h.keepInternalTags, h.tokenizer, h.tokenizerOptions, h.tokenizerMaker, h.escaper,
      h.keepEmptySentences, h.strangers, List.append_nil]

theorem readPattern_eq_ok_iff (a : Argument) (written : Text) :
    readPattern a = .ok written ↔
      readText a = .ok written ∧ ∃ pattern, Pattern.ofText written = .ok pattern := by
  unfold readPattern
  cases readText a with
  | error kind => simp [bind, Except.bind]
  | ok t =>
    cases hp : Pattern.ofText t with
    | ok pattern =>
      simp only [bind, Except.bind, hp, pure, Except.pure, Except.ok.injEq]
      constructor
      · rintro rfl
        exact ⟨rfl, pattern, hp⟩
      · exact And.left
    | error fault =>
      have hnone : ¬ ∃ pattern, Pattern.ofText t = .ok pattern := by simp [hp]
      simp only [bind, Except.bind, hp]
      constructor
      · split <;> simp [throw, throwThe, MonadExceptOf.throw]
      · rintro ⟨ht, hw⟩
        rw [← Except.ok.inj ht] at hw
        exact absurd hw hnone

/-- Where the arguments are good, the pattern for elements is one. -/
theorem Says.pattern {args : Arguments} {c : Config} (h : Says args c) :
    (∃ pattern, Pattern.ofText c.elementFilter = .ok pattern) ∧ tooLarge? args = none := by
  have hf := h.elementFilter
  unfold Checked.argument at hf
  unfold tooLarge?
  cases ha : args.find? FieldName.elementFilter with
  | none =>
    simp only [ha, Checked.mk.injEq, and_true] at hf
    rw [← hf]
    exact ⟨⟨_, rfl⟩, rfl⟩
  | some a =>
    simp only [ha] at hf
    cases hr : readPattern a with
    | error kind => simp [hr, Checked.wrong] at hf
    | ok written =>
      simp only [hr, Checked.mk.injEq, and_true] at hf
      obtain ⟨ht, pattern, hp⟩ := (readPattern_eq_ok_iff a written).1 hr
      refine ⟨⟨pattern, hf ▸ hp⟩, ?_⟩
      simp [ht, hp]

/-- Arguments make settings exactly if they say them and these go together. -/
theorem ofArguments_eq_ok_iff (args : Arguments) (c : Config) :
    ofArguments args = .ok c ↔ Says args c ∧ c.issues = [] := by
  constructor
  · intro h
    have hissues := issues_of_ofArguments h
    refine ⟨(check_eq_iff args c).1 ?_, hissues⟩
    unfold ofArguments at h
    dsimp only at h
    split at h
    · simp at h
    · split at h
      · simp at h
      · next hp =>
        split at h
        · simp at h
        · rw [← Except.ok.inj h]
          rw [ne_eq, Classical.not_not] at hp
          rw [← hp]
  · rintro ⟨h, hissues⟩
    simp [ofArguments, h.pattern.2, (check_eq_iff args c).2 h, hissues]

/-- Settings are what the arguments say that they are made into. -/
theorem says_toArguments {c : Config} {pattern : Pattern}
    (h : Pattern.ofText c.elementFilter = .ok pattern) : Says c.toArguments c where
  sentenceDelimiters := checkWords_texts FieldName.sentenceDelimiters 0 c.sentenceDelimiters
  explicitDelimiter := by
    apply argument_of_find? (a := .data (c.explicitDelimiter.elim .null .text)) rfl
    cases c.explicitDelimiter <;> rfl
  tagDelimiter := by
    apply argument_of_find? (a := .data (c.tagDelimiter.elim .null .text)) rfl
    cases c.tagDelimiter <;> rfl
  elementFilter := argument_of_find? (a := .data (.text c.elementFilter)) rfl
    ((readPattern_eq_ok_iff _ _).2 ⟨rfl, pattern, h⟩)
  keepInternalTags := by
    apply argument_of_find? (a := .data (.bool c.keepInternalTags)) rfl
    cases c.keepInternalTags <;> rfl
  tokenizer := by
    apply argument_of_find? (a := .data (.text c.tokenizer.name)) rfl
    cases c.tokenizer <;> rfl
  tokenizerOptions := rfl
  tokenizerMaker := by
    apply argument_of_find? (a := c.tokenizerMaker.elim (.data .null) .maker) rfl
    cases c.tokenizerMaker <;> rfl
  escaper := by
    apply argument_of_find? (a := c.escaper.elim (.data .null) .escaper) rfl
    cases c.escaper <;> rfl
  keepEmptySentences := by
    apply argument_of_find? (a := .data (.bool c.keepEmptySentences)) rfl
    cases c.keepEmptySentences <;> rfl
  strangers := rfl

/-- Two arguments that say the same say the same after an override that brings no strangers. -/
theorem Says.update {a b : Arguments} {c c' : Config} (ha : Says a c) (hb : Says b c)
    {updates : Arguments} (hs : Config.strangers (b.update updates) = []) (h : Says (a.update updates) c') :
    Says (b.update updates) c' where
  sentenceDelimiters := (checkWordList_update
    (hb.sentenceDelimiters.trans ha.sentenceDelimiters.symm) _).trans h.sentenceDelimiters
  explicitDelimiter := (argument_update
    (hb.explicitDelimiter.trans ha.explicitDelimiter.symm) _).trans h.explicitDelimiter
  tagDelimiter := (argument_update (hb.tagDelimiter.trans ha.tagDelimiter.symm) _).trans h.tagDelimiter
  elementFilter := (argument_update
    (hb.elementFilter.trans ha.elementFilter.symm) _).trans h.elementFilter
  keepInternalTags := (argument_update
    (hb.keepInternalTags.trans ha.keepInternalTags.symm) _).trans h.keepInternalTags
  tokenizer := (argument_update (hb.tokenizer.trans ha.tokenizer.symm) _).trans h.tokenizer
  tokenizerOptions := (argument_update
    (hb.tokenizerOptions.trans ha.tokenizerOptions.symm) _).trans h.tokenizerOptions
  tokenizerMaker := (argument_update
    (hb.tokenizerMaker.trans ha.tokenizerMaker.symm) _).trans h.tokenizerMaker
  escaper := (argument_update (hb.escaper.trans ha.escaper.symm) _).trans h.escaper
  keepEmptySentences := (argument_update
    (hb.keepEmptySentences.trans ha.keepEmptySentences.symm) _).trans h.keepEmptySentences
  strangers := hs

theorem Says.update_iff {a b : Arguments} {c : Config} (ha : Says a c) (hb : Says b c) {updates : Arguments}
    (hs : Config.strangers (a.update updates) = [] ↔ Config.strangers (b.update updates) = [])
    (c' : Config) : Says (a.update updates) c' ↔ Says (b.update updates) c' :=
  ⟨fun h => ha.update hb (hs.1 h.strangers) h, fun h => hb.update ha (hs.2 h.strangers) h⟩

/-- To override settings comes to the same as to override the arguments that they were made from. -/
theorem override_eq_ok_iff {args : Arguments} {c : Config} (h : ofArguments args = .ok c)
    (settings : List (Text × Argument)) (c' : Config) :
    c.override (Arguments.named settings) = .ok c' ↔
      ofArguments (args.update (Arguments.named settings)) = .ok c' := by
  have hargs := ((ofArguments_eq_ok_iff args c).1 h).1
  obtain ⟨pattern, hp⟩ := hargs.pattern.1
  have hself := says_toArguments hp
  have hs := (strangers_update hself.strangers settings).trans
    (strangers_update hargs.strangers settings).symm
  rw [override, ofArguments_eq_ok_iff, ofArguments_eq_ok_iff]
  exact and_congr_left' (hself.update_iff hargs hs c')

/-- An argument that is not replaced is made into the same setting. -/
theorem Says.find?_of_none {c c' : Config} {pattern : Pattern} {updates : Arguments}
    (hp : Pattern.ofText c.elementFilter = .ok pattern) (h : Says (c.toArguments.update updates) c')
    {name : Text} (hn : Arguments.find? updates.reverse name = none) :
    c'.toArguments.find? name = c.toArguments.find? name := by
  have hs := says_toArguments hp
  have hfind : (c.toArguments.update updates).find? name = c.toArguments.find? name := by
    rw [Arguments.find?_update, hn, Option.none_or]
  have hkept {α : Type} {otherwise value value' : α} {read : Argument → Except ProblemKind α}
      (h : Checked.argument (c.toArguments.update updates) name otherwise read = ⟨value', []⟩)
      (hs : Checked.argument c.toArguments name otherwise read = ⟨value, []⟩) : value' = value := by
    rw [Checked.argument, hfind, ← Checked.argument, hs] at h
    exact (congrArg Checked.value h).symm
  by_cases hname : name ∈ FieldName.all
  · simp only [FieldName.all, List.mem_cons, List.not_mem_nil, or_false] at hname
    rcases hname with rfl | rfl | rfl | rfl | rfl | rfl | rfl | rfl | rfl | rfl
    · have hwords := h.sentenceDelimiters
      rw [checkWordList, hfind, ← checkWordList, hs.sentenceDelimiters] at hwords
      exact congrArg (fun words => some (Argument.data (.list (words.map .text))))
        (congrArg Checked.value hwords).symm
    · exact congrArg (fun t : Option Text => some (Argument.data (t.elim .null .text)))
        (hkept h.explicitDelimiter hs.explicitDelimiter)
    · exact congrArg (fun t : Option Text => some (Argument.data (t.elim .null .text)))
        (hkept h.tagDelimiter hs.tagDelimiter)
    · exact congrArg (fun t => some (Argument.data (.text t))) (hkept h.elementFilter hs.elementFilter)
    · exact congrArg (fun b => some (Argument.data (.bool b)))
        (hkept h.keepInternalTags hs.keepInternalTags)
    · exact congrArg (fun t : TokenizerChoice => some (Argument.data (.text t.name)))
        (hkept h.tokenizer hs.tokenizer)
    · exact congrArg (fun t => some (Argument.data (.text t)))
        (hkept h.tokenizerOptions hs.tokenizerOptions)
    · exact congrArg (fun m : Option TokenizerMaker => some (m.elim (.data .null) Argument.maker))
        (hkept h.tokenizerMaker hs.tokenizerMaker)
    · exact congrArg (fun e : Option Escaper => some (e.elim (.data .null) Argument.escaper))
        (hkept h.escaper hs.escaper)
    · exact congrArg (fun b => some (Argument.data (.bool b)))
        (hkept h.keepEmptySentences hs.keepEmptySentences)
  · have hnone (c : Config) : c.toArguments.find? name = none := by
      have hkeys : c.toArguments.keys = FieldName.all.map .name := rfl
      have hmissing : .name name ∉ c.toArguments.keys := by
        rw [hkeys, List.mem_map]
        rintro ⟨_, hall, ⟨⟩⟩
        exact hname hall
      exact Decidable.not_not.1 (mt (Arguments.find?_ne_none_iff _ _).1 hmissing)
    rw [hnone c', hnone c]

end Saying

end Config

end SentenceReader
