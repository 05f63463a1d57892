import Gamebook.Text.Bytes

/-!
# Spans

A span is a half-open range of byte offsets.  A cursor right behind a word still belongs to it,
so membership of an offset includes the end.
-/

namespace Gamebook

/-- A range of byte offsets, from `start` up to but not including `stop`. -/
structure Span where
  start : Nat
  stop : Nat
deriving DecidableEq, Repr, Inhabited

namespace Span

/-- The span of `size` bytes that begins at `start`. -/
def ofSize (start size : Nat) : Span :=
  ⟨start, start + size⟩

def size (span : Span) : Nat :=
  span.stop - span.start

def isEmpty (span : Span) : Bool :=
  span.start == span.stop

/-- Whether a cursor at `offset` touches the span; both ends count. -/
def touches (span : Span) (offset : Nat) : Bool :=
  span.start ≤ offset && offset ≤ span.stop

/-- The least span that covers both. -/
def merge (first second : Span) : Span :=
  ⟨min first.start second.start, max first.stop second.stop⟩

def shift (span : Span) (distance : Nat) : Span :=
  ⟨span.start + distance, span.stop + distance⟩

/-- The characters the span covers, or nothing when an end lies outside the text or inside a
character. -/
def slice? (span : Span) (text : List Char) : Option (List Char) :=
  if span.start ≤ span.stop then
    (dropBytes? span.start text).bind (takeBytes? span.size)
  else
    none

/-- The text the span covers; empty when the span does not fit. -/
def text (span : Span) (source : List Char) : String :=
  String.ofList ((span.slice? source).getD [])

def render (span : Span) : String :=
  s!"{span.start}..{span.stop}"

@[simp]
theorem touches_iff (span : Span) (offset : Nat) :
    span.touches offset = true ↔ span.start ≤ offset ∧ offset ≤ span.stop := by
  simp [touches]

end Span

end Gamebook
