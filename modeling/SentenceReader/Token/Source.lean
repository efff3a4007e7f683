import SentenceReader.Token.Lexed
import SentenceReader.Token.Spaced

/-! Sources of tokens. A source owns the stream it reads and gives its tokens one by one; to look
whether there is one more may read ahead, but takes nothing. -/
namespace SentenceReader

/-- Tokens of running text, tokens of tokenized text, or tokens that were given beforehand, whose
stream is not read. -/
inductive TokenSource where
  | lexed (source : LexedSource)
  | spaced (source : SpacedSource)
  | given (tokens : List Token) (mark : Text) (stream : TextStream)
  deriving Repr

namespace TokenSource

def ofText (stream : TextStream) (options : Text) : Except Fault TokenSource :=
  (LexedOptions.read options).map fun o => lexed { stream, options := o }

def ofTokenized (stream : TextStream) (options : Text) : Except Fault TokenSource :=
  (SpacedSource.readOptions options).map fun newlines => spaced { stream, newlines }

def stream : TokenSource → TextStream
  | lexed s => s.stream
  | spaced s => s.stream
  | given _ _ stream => stream

def mapStream (f : TextStream → TextStream) : TokenSource → TokenSource
  | lexed s => lexed { s with stream := f s.stream }
  | spaced s => spaced { s with stream := f s.stream }
  | given tokens mark stream => given tokens mark (f stream)

def newlineMark : TokenSource → Text
  | lexed _ => SentenceReader.newlineMark
  | spaced _ => newlineWord
  | given _ mark _ => mark

def ready : TokenSource → List Token
  | lexed s => s.ready
  | spaced s => s.ready
  | given tokens _ _ => tokens

def dropReady : TokenSource → TokenSource
  | lexed s => lexed { s with ready := s.ready.tail }
  | spaced s => spaced { s with ready := s.ready.tail }
  | given tokens mark stream => given tokens.tail mark stream

/-- Reads until a token is ready or the text ends. -/
def fill : TokenSource → Except ReadFault Unit × TokenSource
  | lexed s => let (r, s) := s.fill; (r, lexed s)
  | spaced s => let (r, s) := s.fill; (r, spaced s)
  | given tokens mark stream => (.ok (), given tokens mark stream)

def hasNext (s : TokenSource) : Except Fault Bool × TokenSource :=
  match s.fill with
  | (.error cause, s) => (.error (.ofRead cause), s)
  | (.ok (), s) => (.ok (!s.ready.isEmpty), s)

def next? (s : TokenSource) : Except Fault (Option Token) × TokenSource :=
  match s.fill with
  | (.error cause, s) => (.error (.ofRead cause), s)
  | (.ok (), s) =>
    match s.ready with
    | [] => (.ok none, s)
    | t :: _ => (.ok (some t), s.dropReady)

/-- The next token; that there is none is a fault. -/
def next (s : TokenSource) : Except Fault Token × TokenSource :=
  match s.next? with
  | (.error fault, s) => (.error fault, s)
  | (.ok none, s) => (.error .exhausted, s)
  | (.ok (some t), s) => (.ok t, s)

def waiting : TokenSource → Nat
  | lexed s => s.waiting
  | spaced s => s.ready.length
  | given tokens _ _ => tokens.length

/-- One source is nearer to its end than another: it has less text to read, or the same and fewer
tokens. -/
def Nearer (a b : TokenSource) : Prop :=
  a.stream.rest.length < b.stream.rest.length ∨
    (a.stream.rest.length = b.stream.rest.length ∧ a.waiting < b.waiting)

@[simp] theorem stream_dropReady (s : TokenSource) : s.dropReady.stream = s.stream := by
  cases s <;> rfl

@[simp] theorem ready_dropReady (s : TokenSource) : s.dropReady.ready = s.ready.tail := by
  cases s <;> rfl

@[simp] theorem stream_mapStream (f : TextStream → TextStream) (s : TokenSource) :
    (s.mapStream f).stream = f s.stream := by
  cases s <;> rfl

theorem waiting_dropReady_lt {s : TokenSource} (h : s.ready ≠ []) :
    s.dropReady.waiting < s.waiting := by
  have := List.length_pos_iff.2 h
  cases s <;> simp [ready, dropReady, waiting, LexedSource.waiting] at this ⊢ <;> omega

theorem fill_progress (s : TokenSource) :
    s.fill.2.stream.rest.length < s.stream.rest.length ∨
      (s.fill.2.stream.rest.length = s.stream.rest.length ∧ s.fill.2.waiting = s.waiting) := by
  cases s with
  | lexed s => exact s.fill_progress
  | spaced s =>
    rcases s.fill_progress with h | h
    · exact .inl h
    · exact .inr ⟨h.1, by simp [fill, waiting, h.2]⟩
  | given tokens mark stream => exact .inr ⟨rfl, rfl⟩

/-- A token that is given out brings the source nearer to its end. -/
theorem nearer_of_next? {s s' : TokenSource} {t : Token} (h : s.next? = (.ok (some t), s')) :
    Nearer s' s := by
  have hp := s.fill_progress
  unfold next? at h
  split at h
  · simp at h
  · next s₁ hf =>
    rw [hf] at hp
    split at h
    · simp at h
    · next hr =>
      simp only [Prod.mk.injEq] at h
      rw [← h.2]
      have := waiting_dropReady_lt (s := s₁) (by simp [hr])
      rcases hp with hp | hp
      · exact .inl (by simpa using hp)
      · exact .inr ⟨by simpa using hp.1, by simp only at hp; omega⟩

end TokenSource

end SentenceReader
