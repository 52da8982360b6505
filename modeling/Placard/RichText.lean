import Placard.Number.Size
import Placard.Style
import Placard.Text.Metrics
import Placard.Text.Search

/-!
Styled text: characters, and ranges of style laid over them. Ranges are kept in the order in
which they were laid, and the style of a character is what the ranges over it add up to. All
offsets count characters.
-/

namespace Placard

/-- A span over the characters from `start` up to, and without, `stop`. -/
structure StyledRange where
  span : Span
  start : Nat
  stop : Nat
  deriving DecidableEq, Inhabited

namespace StyledRange

def covers (range : StyledRange) (index : Nat) : Bool := range.start ≤ index && index < range.stop

def shift (range : StyledRange) (offset : Nat) : StyledRange :=
  { range with start := range.start + offset, stop := range.stop + offset }

/-- Where a range goes when `count` characters are inserted at `position`. It moves if it starts
there or later, and grows if it reaches beyond. -/
def insertAt (position count : Nat) (range : StyledRange) : StyledRange :=
  if position ≤ range.start then range.shift count
  else if position < range.stop then { range with stop := range.stop + count }
  else range

end StyledRange

/-- Characters with ranges of style, and the number of the characters, which is counted along. -/
structure Buffer where
  text : List Char := []
  ranges : List StyledRange := []
  chars : Nat := text.length
  deriving DecidableEq, Inhabited

namespace Buffer

/-- Adds a character without style. -/
def push (b : Buffer) (c : Char) : Buffer :=
  { b with text := b.text ++ [c], chars := b.chars + 1 }

/-- Adds text without style. -/
def pushText (b : Buffer) (text : List Char) : Buffer :=
  { b with text := b.text ++ text, chars := b.chars + text.length }

/-- Adds styled text, whose ranges move along. -/
def append (b other : Buffer) : Buffer where
  text := b.text ++ other.text
  ranges := b.ranges ++ other.ranges.map (·.shift b.chars)
  chars := b.chars + other.chars

/-- Inserts text without style at an offset; one beyond the end counts as the end. -/
def insertText (b : Buffer) (offset : Nat) (text : List Char) : Buffer :=
  let offset := min offset b.chars
  { text := b.text.take offset ++ text ++ b.text.drop offset
    ranges := b.ranges.map (StyledRange.insertAt offset text.length)
    chars := b.chars + text.length }

/-- Inserts styled text, with its ranges on top. -/
def insert (b : Buffer) (offset : Nat) (other : Buffer) : Buffer :=
  let offset := min offset b.chars
  let inserted := b.insertText offset other.text
  { inserted with ranges := inserted.ranges ++ other.ranges.map (·.shift offset) }

/-- Where a position of a layer comes to lie. An offset within the text is far from the limit of
sizes, so that only with one beyond its end the sum may be no size any more. -/
def layPosition (b : Buffer) (offset position : Nat) : Nat :=
  if offset ≤ b.chars then position + offset else Number.addSizes position offset

/-- Lays the ranges of `other` on top, starting at an offset and cut at the end of the text. -/
def layer (b : Buffer) (offset : Nat) (other : Buffer) : Buffer :=
  let laid := other.ranges.map fun range =>
    { range with
      start := b.layPosition offset range.start
      stop := min (b.layPosition offset range.stop) b.chars }
  { b with ranges := b.ranges ++ laid.filter fun range => range.start < range.stop }

/-- Ends the first range of this span and start at `stop`; `none` if there is no such range. -/
def restop (span : Span) (start stop : Nat) : List StyledRange → Option (List StyledRange)
  | [] => none
  | range :: ranges =>
    if range.span = span ∧ range.start = start then some ({ range with stop } :: ranges)
    else (restop span start stop ranges).map (range :: ·)

/-- Lays a span over `start` to `stop`, cut at the end of the text. A range with the same span
and start is stretched or cut instead, so that an open style which is laid again after each
addition remains a single range. -/
def setSpan (b : Buffer) (span : Span) (start stop : Nat) : Buffer :=
  let stop := min stop b.chars
  if stop ≤ start then b
  else
    { b with
      ranges := (restop span start stop b.ranges).getD (b.ranges ++ [⟨span, start, stop⟩]) }

/-- The number that was counted along is that of the characters. -/
def Counted (b : Buffer) : Prop := b.chars = b.text.length

variable {b other : Buffer}

theorem Counted.pushText (h : b.Counted) (text : List Char) : (b.pushText text).Counted :=
  (congrArg (· + text.length) h).trans List.length_append.symm

theorem Counted.push (h : b.Counted) (c : Char) : (b.push c).Counted := h.pushText [c]

theorem Counted.append (h : b.Counted) (hother : other.Counted) : (b.append other).Counted := by
  unfold Counted at h hother ⊢
  simp only [Buffer.append, List.length_append, h, hother]

theorem Counted.insertText (h : b.Counted) (offset : Nat) (text : List Char) :
    (b.insertText offset text).Counted := by
  unfold Counted at h ⊢
  simp only [Buffer.insertText, List.length_append, List.length_take, List.length_drop]
  omega

theorem Counted.insert (h : b.Counted) (offset : Nat) (other : Buffer) :
    (b.insert offset other).Counted := h.insertText _ other.text

theorem Counted.layer (h : b.Counted) (offset : Nat) (other : Buffer) :
    (b.layer offset other).Counted := h

theorem Counted.setSpan (h : b.Counted) (span : Span) (start stop : Nat) :
    (b.setSpan span start stop).Counted := by
  unfold Buffer.setSpan
  dsimp only
  split
  · exact h
  · exact h

end Buffer

/-- A buffer whose count is right. -/
structure RichText extends Buffer where
  counted : chars = text.length := by exact rfl
  deriving DecidableEq

namespace RichText

instance : Inhabited RichText := ⟨{}⟩

theorem eq_of_toBuffer {r other : RichText} (h : r.toBuffer = other.toBuffer) : r = other := by
  cases r
  cases other
  cases h
  rfl

/-- Two texts with the same characters have the same count. -/
theorem eq_of_text_ranges {r other : RichText} (htext : r.text = other.text)
    (hranges : r.ranges = other.ranges) : r = other := by
  have hchars : r.chars = other.chars :=
    r.counted.trans ((congrArg List.length htext).trans other.counted.symm)
  obtain ⟨⟨_, _, _⟩, _⟩ := r
  obtain ⟨⟨_, _, _⟩, _⟩ := other
  cases htext
  cases hranges
  cases hchars
  rfl

/-- Text without any style. -/
def plain (text : List Char) : RichText := { text }

def length (r : RichText) : Nat := r.chars

theorem length_eq (r : RichText) : r.length = r.text.length := r.counted

theorem length_eq_of_text_eq {r other : RichText} (h : r.text = other.text) :
    r.length = other.length := by rw [length_eq, length_eq, h]

theorem length_le_of_prefix {r other : RichText} (h : r.text <+: other.text) :
    r.length ≤ other.length := by
  rw [length_eq, length_eq]
  exact h.length_le

def isEmpty (r : RichText) : Bool := r.chars == 0

def isStyled (r : RichText) : Bool := !r.ranges.isEmpty

def toString (r : RichText) : String := String.ofList r.text

/-- Columns of the visible text. -/
def width (σ : Type) [Text.Metrics σ] (r : RichText) : Nat := Text.Metrics.width σ r.text

def glyphCount (σ : Type) [Text.Metrics σ] (r : RichText) : Nat := Text.Metrics.glyphCount σ r.text

def contains (r : RichText) (needle : List Char) : Bool := Text.contains needle r.text

def push (r : RichText) (c : Char) : RichText :=
  ⟨r.toBuffer.push c, Buffer.Counted.push r.counted c⟩

def pushText (r : RichText) (text : List Char) : RichText :=
  ⟨r.toBuffer.pushText text, Buffer.Counted.pushText r.counted text⟩

def append (r other : RichText) : RichText :=
  ⟨r.toBuffer.append other.toBuffer, Buffer.Counted.append r.counted other.counted⟩

def insertText (r : RichText) (offset : Nat) (text : List Char) : RichText :=
  ⟨r.toBuffer.insertText offset text, Buffer.Counted.insertText r.counted offset text⟩

def insert (r : RichText) (offset : Nat) (other : RichText) : RichText :=
  ⟨r.toBuffer.insert offset other.toBuffer, Buffer.Counted.insert r.counted offset _⟩

def layer (r : RichText) (offset : Nat) (other : RichText) : RichText :=
  ⟨r.toBuffer.layer offset other.toBuffer, r.counted⟩

def setSpan (r : RichText) (span : Span) (start stop : Nat) : RichText :=
  ⟨r.toBuffer.setSpan span start stop, Buffer.Counted.setSpan r.counted span start stop⟩

@[simp] theorem text_setSpan (r : RichText) (span : Span) (start stop : Nat) :
    (r.setSpan span start stop).text = r.text := by
  unfold setSpan Buffer.setSpan
  dsimp only
  split
  · rfl
  · rfl

@[simp] theorem text_layer (r : RichText) (offset : Nat) (other : RichText) :
    (r.layer offset other).text = r.text := rfl

@[simp] theorem text_pushText (r : RichText) (text : List Char) :
    (r.pushText text).text = r.text ++ text := rfl

@[simp] theorem text_append (r other : RichText) :
    (r.append other).text = r.text ++ other.text := rfl

@[simp] theorem text_plain (text : List Char) : (plain text).text = text := rfl

@[simp] theorem ranges_plain (text : List Char) : (plain text).ranges = [] := rfl

@[simp] theorem ranges_append (r other : RichText) :
    (r.append other).ranges = r.ranges ++ other.ranges.map (·.shift r.length) := rfl

theorem ranges_insert (r : RichText) (offset : Nat) (other : RichText) :
    (r.insert offset other).ranges = (r.insertText offset other.text).ranges ++
      other.ranges.map (·.shift (min offset r.length)) := by
  simp only [insert, insertText, length, Buffer.insert, Buffer.insertText, Nat.min_assoc,
    Nat.min_self]

theorem pushText_plain (text more : List Char) :
    (plain text).pushText more = plain (text ++ more) := eq_of_text_ranges rfl rfl

theorem append_plain (text more : List Char) :
    (plain text).append (plain more) = plain (text ++ more) := eq_of_text_ranges rfl rfl

theorem length_setSpan (r : RichText) (span : Span) (start stop : Nat) :
    (r.setSpan span start stop).length = r.length := length_eq_of_text_eq (text_setSpan ..)

theorem layer_plain (r : RichText) (offset : Nat) (text : List Char) :
    r.layer offset (plain text) = r := eq_of_text_ranges rfl (List.append_nil _)

/-- The style of the character at `index`. -/
def styleAt (r : RichText) (index : Nat) : Style :=
  Style.plain.applyAll ((r.ranges.filter (·.covers index)).map (·.span))

/-- Every character with its style. -/
def styled (r : RichText) : List (Style × Char) :=
  r.text.zipIdx.map fun (c, index) => (r.styleAt index, c)

/-- Joins neighbours of one style. -/
def group : List (Style × Char) → List (Style × List Char)
  | [] => []
  | (style, c) :: rest =>
    match group rest with
    | [] => [(style, [c])]
    | (next, text) :: runs =>
      if style = next then (style, c :: text) :: runs else (style, [c]) :: (next, text) :: runs

/-- The text cut where the style changes. -/
def runs (r : RichText) : List (Style × List Char) := group r.styled

/-- The text of the given ranges, each laid in turn. -/
def ofRanges (text : List Char) (ranges : List StyledRange) : RichText :=
  ranges.foldl (fun r range => r.setSpan range.span range.start range.stop) (plain text)

end RichText

end Placard
