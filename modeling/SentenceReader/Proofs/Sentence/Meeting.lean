import SentenceReader.Proofs.Region.Meeting
import SentenceReader.Proofs.Sentence.Sequences
import SentenceReader.Proofs.Token.Meeting

/-! How the sentences of a document come to an end. Every sentence takes a token with it, so there are
no more of them than characters; and behind the last one there is the end of the text, or the fault
that the stream breaks off with. -/
namespace SentenceReader

variable {f? : Option ReadFault}

/-- A sequence gives out so many items at most, if every call that goes well makes less of what is left
and the others end it. -/
theorem Reply.exists_gives {σ α : Type} {next : σ → Reply σ α} {ending : Fault} {good : σ → Prop}
    {size : σ → Nat}
    (hstep : ∀ s, good s → Goes (fun _ s' => good s' ∧ size s' < size s) (· = ending)
      ((next s).result, (next s).state)) {s : σ} (h : good s) :
    ∃ items, Gives next ending s items ∧ items.length ≤ size s := by
  induction hn : size s using Nat.strongRecOn generalizing s with
  | ind n ih =>
    have hs := hstep s h
    cases hr : (next s).result with
    | error fault =>
      rw [hr] at hs
      exact ⟨[], hr.trans (congrArg Except.error hs), Nat.zero_le _⟩
    | ok a =>
      rw [hr] at hs
      have hlt : size (next s).state < n := hn ▸ hs.2
      obtain ⟨items, hg, hle⟩ := ih _ hlt hs.1 rfl
      exact ⟨a :: items, ⟨hr, hg⟩, Nat.lt_of_le_of_lt hle hlt⟩

/-- How a sequence ends whose reads come to this fault, or to no fault. -/
def Fault.ending (f? : Option ReadFault) : Fault := f?.elim .exhausted .ofRead

theorem Fault.eq_ending {fault : Fault} (h : f?.map .ofRead = some fault) : fault = ending f? := by
  cases f? with
  | none => simp at h
  | some cause => exact (Option.some.inj h).symm

namespace LookAhead

variable {σ α : Type} {l : LookAhead σ α} {good : σ → Prop} {size : σ → Nat} {s : σ}

/-- How looking for the next item goes: it is found among what is left, or there is none and no fault
was left, or the fault is met. -/
def Looks (l : LookAhead σ α) (good : σ → Prop) (size : σ → Nat) (f? : Option ReadFault) (s : σ)
    (r : Reply σ Unit) : Prop :=
  Goes (fun _ s' => good s' ∧ size s' ≤ size s ∧ (l.ready s' = none → f? = none))
    (fun fault => f?.map .ofRead = some fault) (r.result, r.state)

/-- An item makes less of what is left, and behind the last one the sequence ends as it must. -/
theorem Looks.next (h : l.Looks good size f? s (l.fill s))
    (htake : ∀ s, good s → (l.ready s).isSome → good (l.take s) ∧ size (l.take s) < size s) :
    Goes (fun _ s' => good s' ∧ size s' < size s) (· = .ending f?)
      ((l.next s).result, (l.next s).state) := by
  unfold LookAhead.next Reply.andThen
  unfold Looks at h
  cases hr : (l.fill s).result with
  | error fault =>
    rw [hr] at h
    exact Fault.eq_ending h
  | ok u =>
    rw [hr] at h
    obtain ⟨hgood, hsize, hnone⟩ := h
    cases hready : l.ready (l.fill s).state with
    | none =>
      simp only [hready]
      rw [hnone hready]
      rfl
    | some a =>
      have ht := htake _ hgood (by rw [hready]; rfl)
      simp only [hready]
      exact ⟨ht.1, Nat.lt_of_lt_of_le ht.2 hsize⟩

/-- Asking whether there is another item takes nothing of what is left. -/
theorem Looks.hasNext (h : l.Looks good size f? s (l.fill s)) :
    Goes (fun _ s' => good s' ∧ size s' ≤ size s) (fun fault => f?.map .ofRead = some fault)
      ((l.hasNext s).result, (l.hasNext s).state) := by
  unfold LookAhead.hasNext Reply.andThen
  unfold Looks at h
  cases hr : (l.fill s).result with
  | error fault =>
    rw [hr] at h
    exact h
  | ok u =>
    rw [hr] at h
    exact ⟨h.1, h.2.1⟩

end LookAhead

namespace SentenceRules

variable (rules : SentenceRules) {source : TokenSource}

/-- The tokens of a sentence are taken from the source, the last one to be carried over. A sentence that
is begun takes the token that it begins with. Nothing is found only where empty sentences count, or where
no fault was left. -/
theorem gather_goes (h : source.Meets f?) (taken : List Token) (ended : Bool) :
    Goes (fun found s => s.Meets f? ∧ s.size + found.2.toList.length ≤ source.size ∧
        (ended = false → (∃ t next, source.next? = (.ok (some t), next)) →
          s.size + found.2.toList.length < source.size) ∧
        (found = ([], none) → rules.keepEmpty = false → f? = none))
      (fun fault => f?.map .ofRead = some fault) (rules.gather source taken ended) := by
  induction source using TokenSource.wellFounded_nearer.induction generalizing taken ended with
  | _ source ih =>
    have hnext := h.next?
    rw [rules.gather_eq]
    generalize hs : source.next? = found at hnext ⊢
    obtain ⟨result, next⟩ := found
    rcases result with fault | _ | t
    · exact hnext
    · exact ⟨hnext.1, hnext.2.1, by simp, fun _ _ => hnext.2.2 rfl⟩
    · obtain ⟨hmeets, hsize, -⟩ := hnext
      rw [Option.toList_some, List.length_singleton] at hsize
      have hlater (taken : List Token) (ended' : Bool) :
          Goes (fun found s => s.Meets f? ∧ s.size + found.2.toList.length < source.size ∧
              (found = ([], none) → rules.keepEmpty = false → f? = none))
            (fun fault => f?.map .ofRead = some fault) (rules.gather next taken ended') :=
        (ih next (TokenSource.nearer_of_next? hs) hmeets taken ended').mono fun _ _ h =>
          ⟨h.1, Nat.lt_of_le_of_lt h.2.1 hsize, h.2.2.2⟩
      dsimp only
      generalize (if rules.isContent (rules.mark t) then rules.mark t :: taken else taken) = taken'
      split
      · next hc =>
        refine ⟨hmeets, hsize, fun he => ?_, by simp⟩
        simp [he] at hc
      · split
        · split
          · next hsome =>
            refine ⟨hmeets, Nat.le_of_lt hsize, fun _ _ => hsize, fun hnone hk => ?_⟩
            rw [Prod.mk.injEq, List.reverse_eq_nil_iff] at hnone
            simp [hnone.1, hk] at hsome
          · exact (hlater _ _).mono fun _ _ h => ⟨h.1, Nat.le_of_lt h.2.1, fun _ _ => h.2.1, h.2.2⟩
        · exact (hlater _ _).mono fun _ _ h => ⟨h.1, Nat.le_of_lt h.2.1, fun _ _ => h.2.1, h.2.2⟩

end SentenceRules

namespace TokenSource

theorem size_mapStream_release (s : TokenSource) : (s.mapStream TextStream.release).size = s.size := by
  cases s <;> rfl

end TokenSource

namespace Segmenter

/-- What is left of a sequence: the characters to be read, the tokens that wait, and the sentence that
does. -/
def size (s : Segmenter) : Nat :=
  s.source.size + s.carried.toList.length + s.ready.toList.length

/-- The reads of a sequence come to this fault, or to no fault; none is left of it at the end. -/
structure Meets (f? : Option ReadFault) (s : Segmenter) : Prop where
  source : s.finished = false → s.source.Meets f?
  finished : s.finished = true → s.ready = none ∧ f? = none

variable {s : Segmenter}

theorem size_finish (s : Segmenter) : s.finish.size = s.size := by
  rw [size, finish, mapStream, size, TokenSource.size_mapStream_release]

/-- Whether a sentence can be begun: where a token was carried over, or comes next. -/
theorem begins_goes (h : s.source.Meets f?) :
    Goes (fun more source => source.Meets f? ∧ source.size ≤ s.source.size ∧
        (more = false → f? = none) ∧
        (more = true → s.carried.isSome ∨ ∃ t next, source.next? = (.ok (some t), next)))
      (fun fault => f?.map .ofRead = some fault) s.begins := by
  unfold begins
  cases s.carried with
  | some t => exact ⟨h, Nat.le_refl _, by simp, by simp⟩
  | none => exact h.hasNext.mono fun more source h => ⟨h.1, h.2.1, h.2.2.1, fun hm => .inr (h.2.2.2 hm)⟩

/-- A sentence is built from tokens that were left, or there is none and no fault was left. -/
theorem build_goes (h : s.source.Meets f?) :
    Goes (fun found s' => s'.source.Meets f? ∧
        s'.source.size + s'.carried.toList.length + found.toList.length ≤
          s.source.size + s.carried.toList.length ∧ (found = none → f? = none))
      (fun fault => f?.map .ofRead = some fault) s.build := by
  have hbegins := s.begins_goes h
  rw [build_eq]
  generalize s.begins = begun at hbegins ⊢
  obtain ⟨result, source⟩ := begun
  rcases result with fault | more
  · exact hbegins
  obtain ⟨hmeets, hsize, hnone, hsome⟩ := hbegins
  cases more with
  | false =>
    exact ⟨hmeets, Nat.add_le_add_right hsize _, fun _ => hnone rfl⟩
  | true =>
    -- the token that was carried over, or the one that comes next, is taken into the sentence
    have hgather : Goes (fun found s' => s'.Meets f? ∧ s'.size + found.2.toList.length + 1 ≤
          s.source.size + s.carried.toList.length ∧
          (found = ([], none) → s.rules.keepEmpty = false → f? = none))
        (fun fault => f?.map .ofRead = some fault)
        (s.rules.gather source s.carried.toList false) := by
      refine (s.rules.gather_goes hmeets s.carried.toList false).mono fun found s' h => ⟨h.1, ?_, h.2.2.2⟩
      obtain ⟨-, hle, hlt, -⟩ := h
      rcases hsome rfl with hc | hnext
      · obtain ⟨t, hc⟩ := Option.isSome_iff_exists.1 hc
        rw [hc]
        exact Nat.succ_le_succ (Nat.le_trans hle hsize)
      · exact Nat.le_add_right_of_le (Nat.le_trans (hlt rfl hnext) hsize)
    dsimp only
    generalize s.rules.gather source s.carried.toList false = gathered at hgather ⊢
    obtain ⟨result, source'⟩ := gathered
    rcases result with fault | ⟨sentence, carried⟩
    · exact hgather
    · obtain ⟨hmeets', hsize', hempty⟩ := hgather
      refine ⟨hmeets', ?_, fun hnone => ?_⟩
      · dsimp only at hsize' ⊢
        split
        · exact Nat.le_of_succ_le hsize'
        · exact hsize'
      · split at hnone
        · next hisNone =>
          simp only [Bool.and_eq_true, List.isEmpty_iff, Option.isNone_iff_eq_none,
            Bool.not_eq_true'] at hisNone
          exact hempty (by rw [hisNone.1.1, hisNone.1.2]) hisNone.2
        · simp at hnone

/-- The next sentence is looked for, or there is none and no fault was left. -/
theorem Meets.fill (h : s.Meets f?) : lookAhead.Looks (Meets f?) size f? s s.fill := by
  by_cases hs : (s.ready.isSome || s.finished) = true
  · rw [fill_of_settled hs]
    refine ⟨h, Nat.le_refl _, fun hr => (h.finished ?_).2⟩
    change s.ready = none at hr
    simpa [hr] using hs
  · obtain ⟨hr, hf⟩ : s.ready = none ∧ s.finished = false := by simpa using hs
    have hbuild := s.build_goes (h.source hf)
    have hready := s.ready_build.trans hr
    have hfinished := s.finished_build.trans hf
    rw [fill_of_unsettled hs]
    generalize s.build = built at hbuild hready hfinished ⊢
    obtain ⟨result, s'⟩ := built
    rcases result with fault | _ | sentence
    · rw [conclude]
      split <;> exact hbuild
    · obtain ⟨-, hsize, hnone⟩ := hbuild
      have hle : s'.finish.size ≤ s.size := by
        rw [size_finish, size, size, hready, hr]
        exact hsize
      exact ⟨⟨by simp [conclude, finish], fun _ => ⟨hready, hnone rfl⟩⟩, hle, fun _ => hnone rfl⟩
    · obtain ⟨hmeets, hsize, -⟩ := hbuild
      refine ⟨⟨fun _ => hmeets, fun hd => ?_⟩, ?_, by simp [conclude, lookAhead]⟩
      · exact absurd (hfinished.symm.trans hd) Bool.false_ne_true
      · simpa [conclude, size, hr] using hsize

theorem Meets.take (h : s.Meets f?) (hr : s.ready.isSome) :
    (lookAhead.take s).Meets f? ∧ (lookAhead.take s).size < s.size := by
  obtain ⟨sentence, hs⟩ := Option.isSome_iff_exists.1 hr
  exact ⟨⟨h.source, fun hd => ⟨rfl, (h.finished hd).2⟩⟩, by simp [lookAhead, size, hs]⟩

theorem Meets.next (h : s.Meets f?) :
    Goes (fun _ s' => s'.Meets f? ∧ s'.size < s.size) (· = .ending f?)
      (s.next.result, s.next.state) := by
  have hnext := h.fill.next fun _ => Meets.take
  rwa [next_lookAhead] at hnext

/-- The sentences of a stream meet what the stream does, and no more of them are left than it has
characters. -/
theorem meets_of_ofStream {c : Config} (hm : c.tokenizerMaker = none) {stream : TextStream}
    (hstream : stream.Meets f?) (h : (ofStream c stream).1 = .ok s) :
    s.Meets f? ∧ s.size = stream.rest.length := by
  have hs := eq_ofSource h
  have hsource : s.source.Meets f? ∧ s.source.size = stream.rest.length := by
    rcases tokensOf_cases (tokensOf_of_ofStream hm h) with ⟨o, hs, -⟩ | ⟨asked, hs, -⟩
    · rw [hs]
      exact ⟨.lexed hstream (by simp), rfl⟩
    · rw [hs]
      exact ⟨.spaced hstream (by simp), rfl⟩
  generalize s.source = source at hs hsource
  subst hs
  exact ⟨⟨fun _ => hsource.1, by simp [ofSource]⟩, hsource.2⟩

end Segmenter

namespace RegionSegmenter

def currentSize (s : RegionSegmenter) : Nat := (s.current.map Segmenter.size).getD 0

/-- What is left of a sequence: the characters to be read, the rest of the current region, and the
sentence that waits. -/
def size (s : RegionSegmenter) : Nat := s.regions.size + s.currentSize + s.ready.toList.length

def CurrentMeets (s : RegionSegmenter) : Prop := ∀ segmenter ∈ s.current, segmenter.Meets none

/-- The reads of a sequence come to this fault, or to no fault; none is left of it at the end. Tokens can
be found in every region. -/
structure Meets (f? : Option ReadFault) (s : RegionSegmenter) : Prop where
  maker : s.config.tokenizerMaker = none
  options : s.config.OptionsAccepted
  current : s.CurrentMeets
  regions : s.finished = false → s.regions.Meets f?
  finished : s.finished = true → s.ready = none ∧ f? = none

variable {s : RegionSegmenter}

/-- A sentence of the current region makes less of what is left of it. -/
theorem fromCurrent_goes (h : s.CurrentMeets) :
    Goes (fun found s' => s'.CurrentMeets ∧ s'.currentSize + found.toList.length ≤ s.currentSize)
      (fun _ => False) (s.fromCurrent.result, s.fromCurrent.state) := by
  unfold fromCurrent
  cases hc : s.current with
  | none => exact ⟨h, Nat.le_refl _⟩
  | some segmenter =>
    have hcurrent (segmenter : Segmenter) (h : segmenter.Meets none) :
        CurrentMeets { s with current := some segmenter } := by
      rintro _ ⟨⟩
      exact h
    have hsize : s.currentSize = segmenter.size := by rw [currentSize, hc]; rfl
    have hmore := (h segmenter hc).fill.hasNext
    have hthere := Segmenter.lookAhead.next_of_hasNext (s := segmenter)
    rw [Segmenter.next_lookAhead] at hthere
    change Goes _ _ (segmenter.hasNext.result, segmenter.hasNext.state) at hmore
    change segmenter.hasNext.result = _ → ∃ a, segmenter.hasNext.state.next.result = _ at hthere
    dsimp only
    unfold Reply.andThen
    cases hr : segmenter.hasNext.result with
    | error fault =>
      rw [hr] at hmore
      simp [Goes] at hmore
    | ok more =>
      rw [hr] at hmore hthere
      obtain ⟨hmeets, hle⟩ := hmore
      cases more with
      | false => exact ⟨hcurrent _ hmeets, hsize ▸ hle⟩
      | true =>
        have hnext := hmeets.next
        obtain ⟨sentence, hn⟩ := hthere rfl
        rw [hn] at hnext
        simp only [if_true, hn]
        exact ⟨hcurrent _ hnext.1, hsize ▸ Nat.le_trans (Nat.succ_le_of_lt hnext.2) hle⟩

/-- A region is taken up with all of its text. -/
theorem takeUp_goes (hm : s.config.tokenizerMaker = none) (ho : s.config.OptionsAccepted) (text : Text) :
    Goes (fun _ s' => s'.CurrentMeets ∧ s'.currentSize = text.length) (fun _ => False)
      ((s.takeUp text).result, (s.takeUp text).state) := by
  obtain ⟨segmenter, hs, -⟩ := Segmenter.ofStream_accepted hm ho (.ofText text)
  obtain ⟨hmeets, hsize⟩ := Segmenter.meets_of_ofStream hm (TextStream.meets_ofText text) hs
  unfold takeUp
  dsimp only
  generalize Segmenter.ofStream s.config (.ofText text) = opened at hs
  obtain ⟨result, events⟩ := opened
  obtain rfl : result = .ok segmenter := hs
  refine ⟨?_, hsize⟩
  rintro _ ⟨⟩
  exact hmeets

/-- How looking for the next sentence goes. -/
abbrev Looks (f? : Option ReadFault) : RegionSegmenter → Reply RegionSegmenter Unit → Prop :=
  lookAhead.Looks (Meets f?) size f?

theorem size_finish (s : RegionSegmenter) : s.finish.size = s.size := by
  obtain ⟨config, regions, current, ready, count, finished⟩ := s
  cases regions <;> rfl

/-- The next region is taken up, or there is none and no fault was left, if looking for a sentence goes as
it must in the regions behind it. -/
theorem Meets.takeNext (h : s.Meets f?) (hr : s.ready = none) (hf : s.finished = false)
    (hfill : ∀ s' : RegionSegmenter, s'.regions.remaining < s.regions.remaining → s'.Meets f? →
      s'.Looks f? s'.fill) : s.Looks f? s.takeNext := by
  have hnext := (h.regions hf).next?
  unfold RegionSegmenter.takeNext
  generalize hs : s.regions.next? = found at hnext ⊢
  obtain ⟨result, regions⟩ := found
  rcases result with fault | _ | text
  · dsimp only
    split <;> exact hnext
  · obtain ⟨-, hnone, hsize⟩ := hnext
    refine ⟨⟨h.maker, h.options, by simp [CurrentMeets, finish, mapStream], by simp [finish],
      fun _ => ⟨hr, hnone rfl⟩⟩, ?_, fun _ => hnone rfl⟩
    change size (finish { s with regions, current := none }) ≤ s.size
    rw [size_finish, size, size]
    exact Nat.add_le_add_right (Nat.add_le_add hsize (Nat.zero_le _)) _
  · obtain ⟨hmeets, -, hsize⟩ := hnext
    have htake := takeUp_goes (s := { s with regions }) h.maker h.options text
    obtain ⟨current, hstate⟩ := takeUp_state { s with regions } text
    dsimp only
    generalize RegionSegmenter.takeUp _ text = r at htake hstate ⊢
    obtain ⟨result, _, events⟩ := r
    obtain rfl := hstate
    cases result with
    | error fault => exact htake.elim
    | ok u =>
      obtain ⟨hcurrent, hlength⟩ := htake
      have hlater := hfill { s with regions, count := s.count + 1, current }
        (RegionSource.remaining_of_next? hs)
        ⟨h.maker, h.options, hcurrent, fun _ => hmeets, fun hd => absurd (hf.symm.trans hd) (by simp)⟩
      refine hlater.mono fun _ s' h => ⟨h.1, Nat.le_trans h.2.1 ?_, h.2.2⟩
      simp only [Option.map_some, Option.getD_some] at hsize
      change regions.size + currentSize _ + s.ready.toList.length ≤ s.size
      rw [hlength, size]
      omega

/-- The next sentence is looked for, from region to region. -/
theorem Meets.fill (h : s.Meets f?) : s.Looks f? s.fill := by
  induction hn : s.regions.remaining using Nat.strongRecOn generalizing s with
  | ind n ih =>
    by_cases hs : (s.ready.isSome || s.finished) = true
    · rw [fill_of_settled hs]
      refine ⟨h, Nat.le_refl _, fun hr => (h.finished ?_).2⟩
      change s.ready = none at hr
      simpa [hr] using hs
    · obtain ⟨hr, hf⟩ : s.ready = none ∧ s.finished = false := by simpa using hs
      have hcurrent := fromCurrent_goes h.current
      obtain ⟨current, hstate⟩ := s.fromCurrent_state
      rw [fill_of_unsettled hs]
      generalize s.fromCurrent = r at hcurrent hstate ⊢
      obtain ⟨result, _, events⟩ := r
      obtain rfl := hstate
      rcases result with fault | _ | sentence
      · exact hcurrent.elim
      · obtain ⟨hmeets, hsize⟩ := hcurrent
        have hnext : Meets f? { s with current } :=
          ⟨h.maker, h.options, hmeets, h.regions, h.finished⟩
        have hlater := hnext.takeNext hr hf fun s' hlt h' => ih _ (hn ▸ hlt) h' rfl
        refine hlater.mono fun _ s' h => ⟨h.1, Nat.le_trans h.2.1 ?_, h.2.2⟩
        exact Nat.add_le_add_right (Nat.add_le_add_left hsize _) _
      · obtain ⟨hmeets, hsize⟩ := hcurrent
        refine ⟨⟨h.maker, h.options, hmeets, h.regions, fun hd => absurd (hf.symm.trans hd) (by simp)⟩,
          ?_, by simp [lookAhead]⟩
        simp only [size, hr]
        exact Nat.add_le_add_left hsize _

theorem Meets.take (h : s.Meets f?) (hr : s.ready.isSome) :
    (lookAhead.take s).Meets f? ∧ (lookAhead.take s).size < s.size := by
  obtain ⟨sentence, hs⟩ := Option.isSome_iff_exists.1 hr
  refine ⟨⟨h.maker, h.options, h.current, h.regions, fun hd => ⟨rfl, (h.finished hd).2⟩⟩, ?_⟩
  simp [lookAhead, size, hs, currentSize]

theorem Meets.next (h : s.Meets f?) :
    Goes (fun _ s' => s'.Meets f? ∧ s'.size < s.size) (· = .ending f?)
      (s.next.result, s.next.state) := by
  have hnext := h.fill.next fun _ => Meets.take
  rwa [next_lookAhead] at hnext

/-- The sentences of the regions of a stream meet what the stream does, and no more of them are left than
it has characters. -/
theorem meets_of_ofStream [PatternHost] {c : Config} (hm : c.tokenizerMaker = none)
    (ho : c.OptionsAccepted)
    {stream : TextStream} (hstream : stream.Meets f?) (h : ofStream c stream = .ok s) :
    s.Meets f? ∧ s.size = stream.rest.length := by
  obtain ⟨pattern, -, rfl⟩ := exists_pattern_of_ofStream h
  exact ⟨⟨hm, ho, by simp [CurrentMeets], fun _ => .read ⟨hstream, by simp⟩ rfl (by simp), by simp⟩, rfl⟩

end RegionSegmenter

end SentenceReader
