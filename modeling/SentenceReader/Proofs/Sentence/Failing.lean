import Mathlib
import SentenceReader.Proofs.Sentence.Interrupted

/-! Calls that fail on the sentences of a document. A read that fails ends the sequence for good. Settings
that allow no tokens are met at the first region, end nothing, and are met again at the next one. -/
namespace SentenceReader

namespace Calls

variable {σ α : Type} {q : Calls σ α} {s : σ} {items : List α}

theorem ask_mem_answers (q : Calls σ α) (s : σ) (before : List Call) (call : Call) :
    (q.ask (q.after s before) call).1 ∈ q.answers s (before ++ [call]) := by
  induction before generalizing s with
  | nil => exact List.mem_cons_self
  | cons first before ih => exact List.mem_cons_of_mem _ (ih _)

/-- Where a sequence breaks off that would tell its items, it fails because it cannot be read. -/
theorem BreaksOff.isUnreadable {t : σ} {stream : σ → TextStream} {k : Nat}
    (h : q.BreaksOff stream k s t) (ht : q.Tells t items) {calls : List Call} {fault : Fault}
    (hf : .error fault ∈ q.answers s calls) (hne : fault ≠ .exhausted) :
    fault.isUnreadable = true := by
  by_cases hk : (stream (q.after s calls)).reads < k
  · rw [h.answers_of_lt calls hk] at hf
    exact absurd (ht.eq_exhausted hf) hne
  · obtain ⟨before, call, later, -, ha⟩ := h.answers_of_le calls (Nat.not_lt.1 hk)
    rw [ha, List.mem_append, List.mem_cons, List.mem_map] at hf
    rcases hf with hf | hf | ⟨asked, -, hf⟩
    · exact absurd (ht.eq_exhausted hf) hne
    · rw [Except.error.inj hf]
      rfl
    · exact absurd (Call.eq_exhausted_of_atEnd hf) hne

end Calls

namespace RegionSource

theorem Gives.next?_ne_error {s : RegionSource} {texts : List Text} (h : s.Gives texts)
    (fault : Fault) : s.next?.1 ≠ .error fault := by
  intro hf
  cases texts with
  | nil => exact absurd (hf.symm.trans ((gives_nil_iff s).1 h)) (by simp)
  | cons text texts => exact absurd (hf.symm.trans ((gives_cons_iff s text texts).1 h).1) (by simp)

/-- Looking for a region of a text fails only where the text cannot be read. -/
theorem isUnreadable_of_next? {stream : TextStream} (hst : { stream with failing := [] }.Steady)
    {rules : RegionRules} {fault : Fault}
    (h : (read { rules, reader := { stream } }).next?.1 = .error fault) :
    fault.isUnreadable = true := by
  have hne {stream : TextStream} (hst : stream.Steady) :
      (read { rules, reader := { stream } }).next?.1 ≠ .error fault := by
    obtain ⟨pieces, hd⟩ := hst.exists_delivers
    exact (gives_of_pieces hd rules).next?_ne_error fault
  rcases TextStream.steady_or_failsAt hst with hs | ⟨k, hk⟩
  · exact absurd h (hne hs)
  · let t := read { rules, reader := { stream := { stream with failing := [] } } }
    have htied : (Coupling.untilRead k).tied stream t.stream := ⟨hst, hk, rfl⟩
    have hf := (Coupling.untilRead k).next_regions ((Coupling.untilRead k).regions_mapStream t htied)
    change Follows _ _ _ (read { rules, reader := { stream } }).next? t.next? at hf
    generalize (read { rules, reader := { stream } }).next? = x, ht : t.next? = y at hf h
    cases hf with
    | together => exact absurd ((congrArg Prod.fst ht).trans h) (hne hst)
    | breaks =>
      rw [← Except.error.inj h]
      rfl

end RegionSource

/-- Settings that have led to a segmenter allow tokens. -/
theorem Config.hasTokens_of_ofStream {c : Config} {stream : TextStream} {s : Segmenter}
    (h : (Segmenter.ofStream c stream).1 = .ok s) : c.HasTokens := by
  unfold Segmenter.ofStream at h
  unfold HasTokens
  split at h
  · next hm =>
    rw [hm]
    trivial
  · simp at h
  · next hm =>
    rw [hm]
    cases ht : c.makeTokenizer with
    | error fault => simp [Segmenter.tokensOf, ht, bind, Except.bind, Except.map] at h
    | ok tokenizer => exact ⟨tokenizer, ht⟩

namespace RegionSegmenter

/-- A sequence has ended cleanly behind a state of it: its stream was closed once more, there are no more
sentences, and no call changes anything, so that no other region is taken up either. -/
structure EndedSince (s u : RegionSegmenter) : Prop where
  closes : u.stream.closes = s.stream.closes + 1
  hasNext : u.hasNext.result = .ok false
  after : ∀ more, calls.after u more = u

/-- Every call that fails, and not only because there are no more sentences, ends the sequence
cleanly. -/
def FailsCleanly (s : RegionSegmenter) : Prop :=
  ∀ before call fault, (calls.ask (calls.after s before) call).1 = .error fault → fault ≠ .exhausted →
    s.EndedSince (calls.after s (before ++ [call]))

variable {s : RegionSegmenter}

theorem Good.after (h : s.Good) (before : List Call) : (calls.after s before).Good := by
  rw [calls_eq]
  exact lookAhead.calls.after_of_ask (p := Good) (fun _ call h => owner.ends.good_ask h call) h before

theorem after_of_finished (h : s.Good) (hf : s.finished = true) (asked : List Call) :
    calls.after s asked = s := by
  rw [calls_eq]
  exact owner.ends.after_of_finished h hf asked

theorem ask_of_finished (h : s.Good) (hf : s.finished = true) (before : List Call) (call : Call) :
    (calls.ask (calls.after s before) call).1 = call.atEnd := by
  rw [after_of_finished h hf before, calls_eq]
  exact congrArg Prod.fst (owner.ends.ask_of_finished h hf call)

theorem closes_after (hs : s.finished = false) (asked : List Call) :
    (calls.after s asked).stream.closes = s.stream.closes + (calls.after s asked).finished.toNat := by
  have h := (owner.closes_after hs asked).1
  rwa [calls_eq]

/-- A call that fails ends the sequence cleanly exactly if the stream could not be read. -/
theorem endedSince_iff (hg : s.Good) (hs : s.finished = false) {before : List Call} {call : Call}
    {fault : Fault} (h : (calls.ask (calls.after s before) call).1 = .error fault)
    (hne : fault ≠ .exhausted) :
    s.EndedSince (calls.after s (before ++ [call])) ↔ fault.isUnreadable = true := by
  have hend : (calls.after s (before ++ [call])).finished = fault.isUnreadable := by
    have hf := owner.ends.finished_ask (hg.after before) call
    change (lookAhead.calls.ask (calls.after s before) call).2.finished =
      (lookAhead.calls.ask (calls.after s before) call).1.isEnd at hf
    rw [← calls_eq, h] at hf
    rw [Calls.after_append]
    refine hf.trans ?_
    simp [CallAnswer.isEnd, hne]
  have hcloses := closes_after hs (before ++ [call])
  have hgood := hg.after (before ++ [call])
  generalize calls.after s (before ++ [call]) = u at hend hcloses hgood
  rw [← hend]
  constructor
  · intro hu
    have hone := hcloses.symm.trans hu.closes
    cases hf : u.finished with
    | true => rfl
    | false =>
      rw [hf] at hone
      simp at hone
  · intro hf
    refine ⟨by rw [hcloses, hf, Bool.toNat_true], ?_, ?_⟩
    · have hfill := fill_of_settled (s := u) (by rw [hf, Bool.or_true])
      have hready := hgood.ready_of_finished hf
      simp [RegionSegmenter.hasNext, hfill, Reply.andThen, Reply.after, hready]
    · exact after_of_finished hgood hf

section Start

variable {c : Config} {regions : RegionSource}

/-- A sequence fails cleanly if it fails in no other way than that the stream could not be read. -/
theorem failsCleanly_iff_isUnreadable :
    FailsCleanly { config := c, regions } ↔
      ∀ before call fault,
        (calls.ask (calls.after { config := c, regions } before) call).1 = .error fault →
          fault ≠ .exhausted → fault.isUnreadable = true := by
  have hg := good_start c regions
  constructor
  · intro h before call fault hf hne
    exact (endedSince_iff hg rfl hf hne).1 (h before call fault hf hne)
  · intro h before call fault hf hne
    exact (endedSince_iff hg rfl hf hne).2 (h before call fault hf hne)

/-- A region is taken up, and the settings allow no tokens: this is all that happens. -/
theorem ask_of_no_tokens {s : RegionSegmenter} (hr : s.ready = none) (hf : s.finished = false)
    (hc : s.current = none) {text : Text} (hn : s.regions.next?.1 = .ok (some text)) {fault : Fault}
    (ht : (Segmenter.ofStream s.config (.ofText text)).1 = .error fault) (call : Call) :
    calls.ask s call =
      (.error fault, { s with regions := s.regions.next?.2, count := s.count + 1 }) := by
  have hcurrent : s.fromCurrent = ⟨.ok none, s, []⟩ := by
    unfold fromCurrent
    rw [hc]
  have hfill : s.fill.result = .error fault ∧
      s.fill.state = { s with regions := s.regions.next?.2, count := s.count + 1 } := by
    rw [fill_of_unsettled (by simp [hr, hf]), hcurrent]
    cases h : s.regions.next? with
    | mk result regions =>
      obtain rfl : result = .ok (some text) := by rwa [h] at hn
      cases ho : Segmenter.ofStream s.config (.ofText text) with
      | mk result events =>
        obtain rfl : result = .error fault := by rwa [ho] at ht
        simp [takeNext, h, takeUp, ho, Reply.andThen, Reply.after]
  rw [calls_eq, lookAhead.ask_of_error hfill.1]
  exact congrArg (Prod.mk _) hfill.2

/-- Where there is no region, filling comes to the end, and fails as looking for a region does. -/
theorem fill_of_no_region (hn : ∀ text, regions.next?.1 ≠ .ok (some text))
    (hu : ∀ fault, regions.next?.1 = .error fault → fault.isUnreadable = true) :
    (fill { config := c, regions }).state.finished = true ∧
      (fill { config := c, regions }).result = regions.next?.1.map fun _ => () := by
  rw [fill_of_unsettled (s := { config := c, regions }) (by simp)]
  dsimp only [fromCurrent]
  unfold takeNext
  dsimp only
  cases h : regions.next? with
  | mk result later =>
    rw [h] at hn hu
    rcases result with fault | _ | text
    · simp only [hu fault rfl, if_true]
      exact ⟨rfl, rfl⟩
    · exact ⟨rfl, rfl⟩
    · exact absurd rfl (hn text)

/-- Where there is no region, the first call comes to the end, or fails as looking for a region does. -/
theorem ask_of_no_region (hn : ∀ text, regions.next?.1 ≠ .ok (some text))
    (hu : ∀ fault, regions.next?.1 = .error fault → fault.isUnreadable = true) (call : Call) :
    (calls.ask { config := c, regions } call).2.finished = true ∧
      (calls.ask { config := c, regions } call).1 =
        match regions.next?.1 with
        | .error fault => .error fault
        | .ok _ => call.atEnd := by
  obtain ⟨hfinished, hresult⟩ := fill_of_no_region (c := c) hn hu
  obtain ⟨hstate, hanswer⟩ := owner.ends.ask_of_fill_finished (good_start c regions) hfinished call
  rw [calls_eq]
  refine ⟨(congrArg finished hstate).trans hfinished, ?_⟩
  cases hr : regions.next?.1 with
  | error fault =>
    rw [hr] at hresult
    exact congrArg Prod.fst (lookAhead.ask_of_error hresult call)
  | ok found =>
    rw [hr] at hresult
    rcases hanswer with ha | ⟨fault, hf, -⟩
    · exact ha
    · exact absurd (hf.symm.trans hresult) (by simp [Except.map])

theorem failsCleanly_of_no_region (hn : ∀ text, regions.next?.1 ≠ .ok (some text))
    (hu : ∀ fault, regions.next?.1 = .error fault → fault.isUnreadable = true) :
    FailsCleanly { config := c, regions } := by
  have hfirst := ask_of_no_region (c := c) hn hu
  rw [failsCleanly_iff_isUnreadable]
  intro before call fault h hne
  cases before with
  | nil =>
    have ha := (hfirst call).2.symm.trans h
    cases hr : regions.next?.1 with
    | error fault' =>
      rw [hr] at ha
      rw [← Except.error.inj ha]
      exact hu fault' hr
    | ok found =>
      rw [hr] at ha
      exact absurd (Call.eq_exhausted_of_atEnd ha) hne
  | cons first before =>
    -- The first call came to the end, behind which a call fails only because there is nothing more.
    have hgood := (good_start c regions).after [first]
    have hend := ask_of_finished hgood (hfirst first).1 before call
    exact absurd (Call.eq_exhausted_of_atEnd (hend.symm.trans h)) hne

theorem failsCleanly_of_answers
    (h : ∀ asked fault, .error fault ∈ calls.answers { config := c, regions } asked →
      fault ≠ .exhausted → fault.isUnreadable = true) : FailsCleanly { config := c, regions } := by
  rw [failsCleanly_iff_isUnreadable]
  intro before call fault ha hne
  have hmem := calls.ask_mem_answers { config := c, regions } before call
  rw [ha] at hmem
  exact h _ fault hmem hne

/-- Settings that allow no tokens are met at the first region, if there is one, and end nothing. -/
theorem not_failsCleanly (hc : ¬ c.HasTokens) {text : Text}
    (hn : regions.next?.1 = .ok (some text)) : ¬ FailsCleanly { config := c, regions } := by
  cases ht : (Segmenter.ofStream c (.ofText text)).1 with
  | ok segmenter => exact absurd (Config.hasTokens_of_ofStream ht) hc
  | error fault =>
    obtain ⟨hne, hfault⟩ := Segmenter.ofStream_error ht
    have hask := ask_of_no_tokens (s := { config := c, regions }) rfl rfl rfl hn ht .hasNext
    rw [failsCleanly_iff_isUnreadable]
    intro h
    have hu := h [] .hasNext fault (congrArg Prod.fst hask) hne
    exact Bool.false_ne_true (hfault.symm.trans hu)

end Start

section Document

variable {c : Config} {stream : TextStream} {s : RegionSegmenter}

theorem failsCleanly_of_hasTokens [PatternHost] (hc : c.HasTokens)
    (hst : { stream with failing := [] }.Steady) (h : ofStream c stream = .ok s) : s.FailsCleanly := by
  obtain ⟨pattern, hp, rfl⟩ := exists_pattern_of_ofStream h
  refine failsCleanly_of_answers fun asked fault hf hne => ?_
  rcases TextStream.steady_or_failsAt hst with hs | ⟨k, hk⟩
  · obtain ⟨ss, hg⟩ := hc.regionSegmenter_gives hs hp h
    exact absurd (hg.tells.eq_exhausted hf) hne
  · obtain ⟨t, ss, -, hg, hb⟩ := hc.regionSegmenter_breaksOff hk hst h
    exact hb.isUnreadable hg.tells hf hne

/-- A failing call on the sentences of a document ends them cleanly exactly if the document could not be
read. All that fail do so exactly if the settings allow tokens, or if there is no region that could
need them. -/
theorem failsCleanly_iff [PatternHost] (h : ofStream c stream = .ok s) :
    (∀ before call fault, (calls.ask (calls.after s before) call).1 = .error fault →
      fault ≠ .exhausted →
        (s.EndedSince (calls.after s (before ++ [call])) ↔ fault.isUnreadable = true)) ∧
      ({ stream with failing := [] }.Steady →
        (s.FailsCleanly ↔ c.HasTokens ∨ ∀ text, s.regions.next?.1 ≠ .ok (some text))) := by
  have hs := h
  obtain ⟨pattern, hp, rfl⟩ := exists_pattern_of_ofStream hs
  constructor
  · intro before call fault hf hne
    exact endedSince_iff (good_start c _) rfl hf hne
  · intro hst
    constructor
    · intro hclean
      by_contra hno
      obtain ⟨hc, hn⟩ := not_or.1 hno
      obtain ⟨text, hn⟩ := not_forall_not.1 hn
      exact not_failsCleanly hc hn hclean
    · rintro (hc | hn)
      · exact failsCleanly_of_hasTokens hc hst h
      · exact failsCleanly_of_no_region hn fun fault => RegionSource.isUnreadable_of_next? hst

/-- A document that cannot be read, with settings that allow no tokens: no region is met that would need
them. -/
theorem failsCleanly_iff_of_failure :
    let c : Config := { elementFilter := ['s'], tokenizerOptions := "bogus".toList }
    let stream : TextStream := { rest := "<s>A .</s>".toList, failing := [1] }
    ∃ s, ofStream c stream = .ok s ∧ s.FailsCleanly ∧
      (calls.ask s .hasNext).1 = .error (.unreadable .device) ∧
      s.EndedSince (calls.after s [.hasNext]) := by
  intro c stream
  let pattern : Pattern := .group {} {} (.set false [.literal 's'.toNat])
  have hp : Pattern.ofText c.elementFilter = .ok pattern := rfl
  have hst : { stream with failing := [] }.Steady := ⟨rfl, rfl, rfl, by simp⟩
  obtain ⟨hends, hclean⟩ := failsCleanly_iff (ofStream_of_pattern hp stream)
  let regions : RegionSource := .read { rules := { pattern, keepTags := false }, reader := { stream } }
  have hr : regions.next?.1 = .error (.unreadable .device) := by cbv
  have hn : ∀ text, regions.next?.1 ≠ .ok (some text) := by simp [hr]
  have ha : (calls.ask { config := c, regions } .hasNext).1 = .error (.unreadable .device) := by
    rw [(ask_of_no_region hn (fun _ => RegionSource.isUnreadable_of_next? hst) .hasNext).2, hr]
  exact ⟨_, ofStream_of_pattern hp stream, (hclean hst).2 (.inr hn), ha,
    (hends [] .hasNext _ ha (by simp)).2 rfl⟩

/-- A tokenizer option that does not exist: every question whether there is another sentence takes up one
more region and fails, and the stream stays open. -/
theorem fails_at_every_region :
    let c : Config := { elementFilter := ['s'], tokenizerOptions := "bogus".toList }
    let stream := TextStream.ofText "<s>A</s><s>B</s>".toList
    c.issues = [] ∧ ∃ s fault, ofStream c stream = .ok s ∧ fault ≠ .exhausted ∧
      calls.answers s [.hasNext, .hasNext] = [.error fault, .error fault] ∧
      (calls.after s [.hasNext, .hasNext]).count = 2 ∧
      (calls.after s [.hasNext, .hasNext]).stream.closes = 0 ∧ ¬ s.FailsCleanly := by
  intro c stream
  let pattern : Pattern := .group {} {} (.set false [.literal 's'.toNat])
  have hp : Pattern.ofText c.elementFilter = .ok pattern := rfl
  let first : RegionSource := .read { rules := { pattern, keepTags := false }, reader := { stream } }
  let fault : Fault := .unknownOption "bogus".toList LexedOptions.known
  obtain ⟨pieces, hd⟩ := (TextStream.steady_ofText "<s>A</s><s>B</s>".toList).exists_delivers
  have hg : first.Gives [['A'], ['B']] := by
    have hall := RegionSource.gives_of_pieces hd { pattern, keepTags := false }
    have hblocks : ({ pattern, keepTags := false } : RegionRules).regionsOf
        (MarkupItem.ofText stream.rest) = [['A'], ['B']] := by decide +kernel
    rwa [hd.flatten, hblocks] at hall
  obtain ⟨hfirst, hg⟩ := (RegionSource.gives_cons_iff _ _ _).1 hg
  obtain ⟨hsecond, -⟩ := (RegionSource.gives_cons_iff _ _ _).1 hg
  have ht (text : Text) : (Segmenter.ofStream c (.ofText text)).1 = .error fault := by cbv
  let s : RegionSegmenter := { config := c, regions := first }
  have h₁ := ask_of_no_tokens (s := s) rfl rfl rfl hfirst (ht _) .hasNext
  have h₂ := ask_of_no_tokens (s := { s with regions := first.next?.2, count := 1 }) rfl rfl rfl
    hsecond (ht _) .hasNext
  have hafter : calls.after s [.hasNext, .hasNext] =
      { s with regions := first.next?.2.next?.2, count := 2 } := by
    rw [Calls.after, h₁, Calls.after, h₂]
    rfl
  have hc : ¬ c.HasTokens := by
    intro hc
    obtain ⟨segmenter, hs, -⟩ := hc.ofStream (.ofText [])
    exact absurd ((ht []).symm.trans hs) (by simp)
  refine ⟨rfl, s, fault, ofStream_of_pattern hp stream, by simp [fault], ?_, ?_, ?_,
    not_failsCleanly hc hfirst⟩
  · rw [Calls.answers, h₁, Calls.answers, h₂]
    rfl
  · rw [hafter]
  · rw [closes_after (s := s) rfl, hafter]
    rfl

end Document

end RegionSegmenter

end SentenceReader
