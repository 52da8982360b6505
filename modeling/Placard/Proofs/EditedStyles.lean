import Placard.Proofs.Alignment
import Placard.Proofs.LaidSpan

/-! # Styles after an edit

Every character keeps its style when a text is edited, wherever it is afterwards
(`RichText.styleAt_edited`). What is inserted comes on top of the ranges that reach over the seam:
one that ends there does not grow, and one that begins there moves. What is appended takes nothing
from before it, and a layer comes on top of what it covers, as far as the text goes. Only from an
offset so far behind the text that its positions would be no sizes, a layer can come out at the
beginning (`RichText.styleAt_layer_ne_applyAll`). -/

namespace Placard

namespace Style

/-- A style on top of another. -/
def overlay (style top : Style) : Style where
  fg := top.fg.or style.fg
  bg := top.bg.or style.bg
  modifiers := style.modifiers.union top.modifiers

theorem overlay_plain (style : Style) : style.overlay plain = style := by
  obtain ⟨fg, bg, modifiers⟩ := style
  simp [overlay, plain, Modifiers.union]

theorem apply_overlay (style top : Style) (span : Span) :
    (style.overlay top).apply span = style.overlay (top.apply span) := by
  cases span with
  | foreground color => rfl
  | background color => rfl
  | emphasis modifiers => simp only [overlay, apply, Modifiers.union, Bool.or_assoc]

theorem applyAll_overlay (style top : Style) (spans : List Span) :
    (style.overlay top).applyAll spans = style.overlay (top.applyAll spans) := by
  induction spans generalizing top with
  | nil => rfl
  | cons span spans ih =>
    change ((style.overlay top).apply span).applyAll spans = _
    rw [apply_overlay, ih]
    rfl

/-- Spans add up before they come on top of a style. -/
theorem applyAll_eq_overlay (style : Style) (spans : List Span) :
    style.applyAll spans = style.overlay (plain.applyAll spans) := by
  rw [← applyAll_overlay, overlay_plain]

end Style

namespace StyledRange

/-- The range begins before the position and ends behind it. -/
def across (range : StyledRange) (position : Nat) : Bool :=
  range.start < position && position < range.stop

theorem across_iff {range : StyledRange} : range.across position = true ↔
    range.start < position ∧ position < range.stop := by
  simp only [across, Bool.and_eq_true, decide_eq_true_eq]

/-- A range moves, grows or stays as it is. -/
theorem insertAt_cases (position count : Nat) (range : StyledRange) :
    let moved := range.insertAt position count
    position ≤ range.start ∧ moved.start = range.start + count ∧ moved.stop = range.stop + count ∨
    range.start < position ∧ position < range.stop ∧ moved.start = range.start ∧
      moved.stop = range.stop + count ∨
    range.start < position ∧ range.stop ≤ position ∧ moved = range := by
  unfold insertAt
  by_cases hstart : position ≤ range.start
  · rw [if_pos hstart]
    exact .inl ⟨hstart, rfl, rfl⟩
  · have hlt := Nat.lt_of_not_le hstart
    rw [if_neg hstart]
    by_cases hstop : position < range.stop
    · rw [if_pos hstop]
      exact .inr (.inl ⟨hlt, hstop, rfl, rfl⟩)
    · rw [if_neg hstop]
      exact .inr (.inr ⟨hlt, Nat.le_of_not_lt hstop, rfl⟩)

variable {position count index : Nat}

/-- What was covered before the insertion stays so. -/
theorem covers_insertAt_of_lt (range : StyledRange) (count : Nat) (h : index < position) :
    (range.insertAt position count).covers index = range.covers index := by
  rw [Bool.eq_iff_iff, covers_iff, covers_iff]
  obtain ⟨hle, hstart, hstop⟩ | ⟨hlt, hover, hstart, hstop⟩ | ⟨-, -, heq⟩ :=
    insertAt_cases position count range
  · omega
  · omega
  · rw [heq]

/-- What is inserted is covered by what reaches over its position. -/
theorem covers_insertAt_inside (range : StyledRange) (h : index < count) :
    (range.insertAt position count).covers (position + index) = range.across position := by
  rw [Bool.eq_iff_iff, covers_iff, across_iff]
  obtain ⟨hle, hstart, hstop⟩ | ⟨hlt, hover, hstart, hstop⟩ | ⟨hlt, hbefore, heq⟩ :=
    insertAt_cases position count range
  · omega
  · omega
  · rw [heq]
    omega

/-- What was covered behind the insertion moves along. -/
theorem covers_insertAt_behind (range : StyledRange) (count : Nat) (h : position ≤ index) :
    (range.insertAt position count).covers (index + count) = range.covers index := by
  rw [Bool.eq_iff_iff, covers_iff, covers_iff]
  obtain ⟨hle, hstart, hstop⟩ | ⟨hlt, hover, hstart, hstop⟩ | ⟨hlt, hbefore, heq⟩ :=
    insertAt_cases position count range
  · omega
  · omega
  · rw [heq]
    omega

end StyledRange

namespace RichText

/-- The style that the ranges over a position make: those that begin before it and end behind. -/
def styleAcross (r : RichText) (position : Nat) : Style :=
  Style.plain.applyAll ((r.ranges.filter (·.across position)).map (·.span))

variable {r other : RichText} {index offset : Nat}

/-! ## Insertions -/

/-- The ranges that were there come out below the new ones. -/
theorem styleAt_insert (r other : RichText) (offset index : Nat) :
    (r.insert offset other).styleAt index =
      ((r.insertText offset other.text).styleAt index).overlay
        (Style.plain.applyAll
          (Ranges.spansAt (other.ranges.map (·.shift (min offset r.length))) index)) := by
  have hranges : (r.insert offset other).ranges = (r.insertText offset other.text).ranges ++
      other.ranges.map (·.shift (min offset r.length)) := ranges_insert r offset other
  rw [← Style.applyAll_eq_overlay, styleAt_eq (r.insertText offset other.text),
    ← Style.applyAll_append, ← Ranges.spansAt_append, ← hranges]
  rfl

theorem spansAt_insertText (r : RichText) (offset : Nat) (text : List Char) (index : Nat) :
    Ranges.spansAt (r.insertText offset text).ranges index =
      (r.ranges.filter fun range =>
        (range.insertAt (min offset r.length) text.length).covers index).map (·.span) := by
  refine Ranges.spansAt_map (fun range => ?_) r.ranges index
  unfold StyledRange.insertAt
  split
  · rfl
  · split
    · rfl
    · rfl

theorem styleAt_insert_of_lt (other : RichText) (h : index < min offset r.length) :
    (r.insert offset other).styleAt index = r.styleAt index := by
  rw [styleAt_insert, Ranges.spansAt_map_shift, if_neg (Nat.not_le.mpr h), styleAt_eq,
    spansAt_insertText]
  simp only [StyledRange.covers_insertAt_of_lt _ _ h]
  exact Style.overlay_plain _

theorem styleAt_insert_inside (r : RichText) (offset : Nat) (h : index < other.length) :
    (r.insert offset other).styleAt (min offset r.length + index) =
      (r.styleAcross (min offset r.length)).overlay (other.styleAt index) := by
  have hcovers (range : StyledRange) :
      (range.insertAt (min offset r.length) other.text.length).covers
        (min offset r.length + index) = range.across (min offset r.length) :=
    range.covers_insertAt_inside (other.length_eq ▸ h)
  rw [styleAt_insert, Ranges.spansAt_map_shift, if_pos (Nat.le_add_right ..),
    Nat.add_sub_cancel_left, styleAt_eq, spansAt_insertText]
  simp only [hcovers]
  rfl

theorem styleAt_insert_behind (r : RichText) (hother : other.WellFormed)
    (h : min offset r.length ≤ index) :
    (r.insert offset other).styleAt (index + other.length) = r.styleAt index := by
  have hnone : Ranges.spansAt other.ranges (index + other.length - min offset r.length) = [] :=
    hother.spansAt_eq_nil (by omega)
  have hcovers (range : StyledRange) :
      (range.insertAt (min offset r.length) other.text.length).covers (index + other.length) =
        range.covers index := by
    rw [other.length_eq]
    exact range.covers_insertAt_behind other.text.length h
  rw [styleAt_insert, Ranges.spansAt_map_shift, if_pos (Nat.le_add_right_of_le h), hnone,
    styleAt_eq, spansAt_insertText]
  simp only [hcovers]
  exact Style.overlay_plain _

/-! ## Layers -/

/-- A layer is over its own characters, as far as the text goes. -/
theorem spansAt_layered_of_wellFormed (h : other.WellFormed) (offset stop index : Nat) :
    Ranges.spansAt (other.layered offset stop) index =
      if offset ≤ index ∧ index < min (offset + other.length) stop then
        Ranges.spansAt other.ranges (index - offset)
      else [] := by
  by_cases hle : offset ≤ index
  · obtain ⟨inner, rfl⟩ := Nat.exists_eq_add_of_le hle
    by_cases hstop : offset + inner < stop
    · rw [spansAt_layered other hstop, Nat.add_sub_cancel_left]
      split
      · rfl
      · exact h.spansAt_eq_nil (by omega)
    · rw [if_neg (by omega)]
      refine Ranges.spansAt_eq_nil fun range hrange => ?_
      obtain ⟨-, -, hend⟩ := mem_layered hrange
      rw [Bool.eq_false_iff, Ne, StyledRange.covers_iff]
      omega
  · rw [if_neg fun hinside => hle hinside.1]
    exact spansAt_layered_of_lt other (Nat.lt_of_not_le hle)

/-- Where all positions of a layer are sizes, it is added as it is. -/
theorem ranges_layer_of_fits (r : RichText) (h : other.WellFormed)
    (hfits : offset ≤ r.length ∨ offset + other.length < Number.sizeLimit) :
    (r.layer offset other).ranges = r.ranges ++ other.layered offset r.length := by
  obtain hle | hfits := hfits
  · exact ranges_layer hle other
  · have hposition {position : Nat} (hinside : position ≤ other.length) :
        r.toBuffer.layPosition offset position = position + offset := by
      unfold Buffer.layPosition
      split
      · rfl
      · exact Number.addSizes_eq (by omega)
    refine congrArg (r.ranges ++ List.filter _ ·) (List.map_congr_left fun range hrange => ?_)
    obtain ⟨hlt, hle⟩ := h.within range hrange
    rw [hposition hle, hposition (Nat.le_of_lt (Nat.lt_of_lt_of_le hlt hle))]
    rfl

theorem styleAt_layer (r : RichText) (h : other.WellFormed)
    (hfits : offset ≤ r.length ∨ offset + other.length < Number.sizeLimit) (index : Nat) :
    (r.layer offset other).styleAt index =
      if offset ≤ index ∧ index < min (offset + other.length) r.length then
        (r.styleAt index).applyAll (Ranges.spansAt other.ranges (index - offset))
      else r.styleAt index := by
  rw [styleAt_eq, ranges_layer_of_fits r h hfits, Ranges.spansAt_append, Style.applyAll_append,
    ← styleAt_eq, spansAt_layered_of_wellFormed h]
  split
  · rfl
  · rfl

/-! ## All edits -/

/-- What was before an insertion keeps its style, and so does what was behind it; the new characters
have their own on top of what the ranges over the position make. Appending changes no character. A
layer leaves the text alone, and comes on top of the characters that are there, if its positions are
sizes. -/
theorem styleAt_edited (hr : r.WellFormed) (hother : other.WellFormed) (offset : Nat) :
    let position := min offset r.length
    (∀ index, (r.insert offset other).styleAt index =
      if index < position then r.styleAt index
      else if index < position + other.length then
        (r.styleAcross position).overlay (other.styleAt (index - position))
      else r.styleAt (index - other.length)) ∧
    (∀ index, (r.append other).styleAt index =
      if index < r.length then r.styleAt index else other.styleAt (index - r.length)) ∧
    (r.layer offset other).text = r.text ∧
    (offset ≤ r.length ∨ offset + other.length < Number.sizeLimit → ∀ index,
      (r.layer offset other).styleAt index =
        if offset ≤ index ∧ index < min (offset + other.length) r.length then
          (r.styleAt index).applyAll (Ranges.spansAt other.ranges (index - offset))
        else r.styleAt index) := by
  intro position
  refine ⟨fun index => ?_, fun index => ?_, rfl, styleAt_layer r hother⟩
  · by_cases hbefore : index < position
    · rw [if_pos hbefore]
      exact styleAt_insert_of_lt other hbefore
    · rw [if_neg hbefore]
      obtain ⟨inner, rfl⟩ := Nat.exists_eq_add_of_le (Nat.le_of_not_lt hbefore)
      by_cases hinside : inner < other.length
      · rw [if_pos (Nat.add_lt_add_left hinside position), Nat.add_sub_cancel_left]
        exact styleAt_insert_inside r offset hinside
      · rw [if_neg (by omega)]
        have hbehind : position + inner = position + (inner - other.length) + other.length := by
          omega
        rw [hbehind, Nat.add_sub_cancel]
        exact styleAt_insert_behind r hother (Nat.le_add_right ..)
  · by_cases hbefore : index < r.length
    · rw [if_pos hbefore, styleAt_append_of_lt hbefore]
    · obtain ⟨inner, rfl⟩ := Nat.exists_eq_add_of_le (Nat.le_of_not_lt hbefore)
      rw [if_neg hbefore, styleAt_append_length_add hr, Nat.add_sub_cancel_left]

/-- Two characters on black go between two red ones, behind them, and over the second one. -/
theorem styleAt_edited_two :
    let red : Span := .foreground ⟨255, 0, 0⟩
    let black : Span := .background .black
    let r : RichText := { text := ['a', 'b'], ranges := [⟨red, 0, 2⟩] }
    let other : RichText := { text := ['x', 'y'], ranges := [⟨black, 0, 2⟩] }
    let both : Style := { fg := some ⟨255, 0, 0⟩, bg := some .black }
    r.WellFormed ∧ other.WellFormed ∧
      (r.insert 1 other).styleAt 2 = both ∧ (r.insert 1 other).styleAt 3 = r.styleAt 1 ∧
      (r.append other).styleAt 2 = other.styleAt 0 ∧
      1 ≤ r.length ∧
      (r.layer 1 other).styleAt 0 = r.styleAt 0 ∧ (r.layer 1 other).styleAt 1 = both := by
  intro red black r other both
  have hr : r.WellFormed := ⟨rfl, by decide⟩
  have hother : other.WellFormed := ⟨rfl, by decide⟩
  have hinside : 1 ≤ r.length := by decide
  obtain ⟨hinsert, happend, -, hlayer⟩ := styleAt_edited hr hother 1
  exact ⟨hr, hother, (hinsert 2).trans (by decide), hinsert 3, happend 2, hinside,
    hlayer (.inl hinside) 0, (hlayer (.inl hinside) 1).trans (by decide)⟩

/-- Behind the end of the text there is nothing for a layer to cover. From an offset at the limit of
sizes, a range that would begin there begins with the text. -/
theorem styleAt_layer_ne_applyAll :
    let red : Span := .foreground ⟨255, 0, 0⟩
    let r := plain ['a']
    let other : RichText := { text := ['x', 'y'], ranges := [⟨red, 0, 2⟩] }
    let second : RichText := { text := ['x', 'y'], ranges := [⟨red, 1, 2⟩] }
    let last := Number.sizeLimit - 1
    r.WellFormed ∧ other.WellFormed ∧ second.WellFormed ∧
      (0 ≤ 1 ∧ 1 < 0 + other.length ∧
        (r.layer 0 other).styleAt 1 ≠ (r.styleAt 1).applyAll (Ranges.spansAt other.ranges 1)) ∧
      0 < last ∧ (r.layer last second).styleAt 0 ≠ r.styleAt 0 := by
  intro red r other second last
  exact ⟨.plain ['a'], ⟨rfl, by decide⟩, ⟨rfl, by decide⟩, ⟨by decide, by decide, by decide⟩,
    by decide, by decide⟩

end RichText

end Placard
