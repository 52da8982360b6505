import Placard.Proofs.Ranges

/-! # A span that is laid

Laying a span over a text where no range begins with it puts it on top of the characters up to its
end and leaves all others alone. Where such a range is there already, that range gets the new end
and stays where it is among the others: it is still below the ranges that were laid after it, and
the characters behind its new end lose it. `RichText.styleAt_setSpan` says what the style of each
character is in all these cases. -/

namespace Placard

/-- Both spans set the color of one plane. -/
def Span.rivals : Span → Span → Bool
  | .foreground _, .foreground _ | .background _, .background _ => true
  | _, _ => false

namespace Style

theorem apply_apply_self (style : Style) (span : Span) :
    (style.apply span).apply span = style.apply span := by
  cases span <;> simp [apply, Modifiers.union]

/-- Of two spans that set the same color the last one counts. -/
theorem apply_apply_of_rivals (style : Style) {span other : Span} (h : other.rivals span = true) :
    (style.apply span).apply other = style.apply other := by
  cases span <;> cases other <;> first | rfl | cases h

/-- Other spans may be laid in any order. -/
theorem apply_apply_comm (style : Style) {span other : Span} (h : other.rivals span = false) :
    (style.apply span).apply other = (style.apply other).apply span := by
  cases span <;> cases other
  case foreground.foreground | background.background => cases h
  case emphasis.emphasis =>
    simp only [apply, Modifiers.union, Bool.or_comm, Bool.or_left_comm]
  all_goals rfl

theorem applyAll_append (style : Style) (spans others : List Span) :
    style.applyAll (spans ++ others) = (style.applyAll spans).applyAll others := List.foldl_append

/-- A span below others comes out on top of them, unless one of them sets its color. -/
theorem applyAll_apply (style : Style) (span : Span) (spans : List Span) :
    (style.apply span).applyAll spans =
      if spans.any (·.rivals span) then style.applyAll spans
      else (style.applyAll spans).apply span := by
  induction spans generalizing style with
  | nil => rfl
  | cons other spans ih =>
    change ((style.apply span).apply other).applyAll spans = _
    rw [List.any_cons]
    cases h : other.rivals span with
    | true => rw [apply_apply_of_rivals style h, Bool.true_or, if_pos rfl]; rfl
    | false => rw [apply_apply_comm style h, Bool.false_or, ih]; rfl

end Style

namespace Ranges

/-- Some of the ranges sets the color of the span over the character. -/
def hides (above : List StyledRange) (span : Span) (index : Nat) : Bool :=
  above.any fun range => range.covers index && range.span.rivals span

theorem any_spansAt (ranges : List StyledRange) (span : Span) (index : Nat) :
    (spansAt ranges index).any (·.rivals span) = hides ranges span index := by
  unfold spansAt hides
  rw [List.any_map, List.any_filter]
  rfl

variable {ranges below above : List StyledRange} {range : StyledRange} {place : Place}

/-- Without a range for the place there is a new one on top. -/
theorem lay_of_new (stop : Nat) (h : ∀ range ∈ ranges, range.place ≠ place) :
    lay stop ranges place = ranges ++ [.ofPlace stop place] := by
  have hplace : place ∉ ranges.map (·.place) := by
    intro hmem
    obtain ⟨range, hrange, heq⟩ := List.mem_map.mp hmem
    exact h range hrange heq
  have happend := lay_append stop ranges [] place
  rwa [List.append_nil, if_neg hplace] at happend

/-- The first range for the place gets the new end. -/
theorem lay_of_first (stop : Nat) (hplace : range.place = place)
    (h : ∀ other ∈ below, other.place ≠ place) :
    lay stop (below ++ range :: above) place = below ++ { range with stop } :: above := by
  have hbelow : place ∉ below.map (·.place) := by
    intro hmem
    obtain ⟨other, hother, heq⟩ := List.mem_map.mp hmem
    exact h other hother heq
  rw [lay_append, if_neg hbelow, lay, if_pos hplace]

end Ranges

namespace RichText

theorem styleAt_eq (r : RichText) (index : Nat) :
    r.styleAt index = Style.plain.applyAll (Ranges.spansAt r.ranges index) := rfl

/-- What one of the ranges does to the style of a character. -/
theorem styleAt_of_split {r : RichText} (h : r.ranges = below ++ range :: above) (index : Nat) :
    r.styleAt index =
      if range.covers index then
        if Ranges.hides above range.span index then
          { r with ranges := below ++ above }.styleAt index
        else ({ r with ranges := below ++ above }.styleAt index).apply range.span
      else { r with ranges := below ++ above }.styleAt index := by
  have hwithout : { r with ranges := below ++ above }.styleAt index =
      (Style.plain.applyAll (Ranges.spansAt below index)).applyAll
        (Ranges.spansAt above index) := by
    rw [styleAt_eq, Ranges.spansAt_append, Style.applyAll_append]
  rw [hwithout, styleAt_eq, h, Ranges.spansAt_append, Style.applyAll_append, Ranges.spansAt_cons]
  split
  · rw [← Ranges.any_spansAt]
    exact Style.applyAll_apply _ range.span (Ranges.spansAt above index)
  · rfl

theorem ofPlace_covers_iff : (StyledRange.ofPlace stop (span, start)).covers index = true ↔
    start ≤ index ∧ index < stop := StyledRange.covers_iff

/-- Where no range of the text begins with the span it comes on top of the characters up to its
end. -/
theorem styleAt_setSpan_of_new {r : RichText} (h : ∀ range ∈ r.ranges, range.place ≠ (span, start))
    (stop index : Nat) : (r.setSpan span start stop).styleAt index =
      if start ≤ index ∧ index < min stop r.length then (r.styleAt index).apply span
      else r.styleAt index := by
  by_cases hlt : start < min stop r.length
  · have hafter : (r.setSpan span start stop).ranges =
        r.ranges ++ .ofPlace (min stop r.length) (span, start) :: [] := by
      rw [ranges_setSpan_of_lt span hlt, Ranges.lay_of_new _ h]
    have hwithout : { r.setSpan span start stop with ranges := r.ranges ++ [] }.styleAt index =
        r.styleAt index := by
      rw [styleAt_eq, List.append_nil]
      rfl
    rw [styleAt_of_split hafter, hwithout]
    simp only [ofPlace_covers_iff]
    rfl
  · rw [setSpan_eq_self span (Nat.le_of_not_lt hlt), if_neg]
    omega

/-- Where one does, the first such range gets the new end and stays where it is. -/
theorem styleAt_setSpan_of_first {r : RichText} (hranges : r.ranges = below ++ range :: above)
    (hplace : range.place = (span, start)) (hbelow : ∀ other ∈ below, other.place ≠ (span, start))
    (hlt : start < min stop r.length) (index : Nat) :
    (r.setSpan span start stop).styleAt index =
      if start ≤ index ∧ index < min stop r.length then
        if Ranges.hides above span index then r.styleAt index else (r.styleAt index).apply span
      else if range.covers index then { r with ranges := below ++ above }.styleAt index
      else r.styleAt index := by
  have hafter : (r.setSpan span start stop).ranges =
      below ++ .ofPlace (min stop r.length) (span, start) :: above := by
    rw [ranges_setSpan_of_lt span hlt, hranges, Ranges.lay_of_first _ hplace hbelow, ← hplace]
    rfl
  have hspan : range.span = span := congrArg (·.1) hplace
  have hwithout : { r.setSpan span start stop with ranges := below ++ above }.styleAt index =
      { r with ranges := below ++ above }.styleAt index := rfl
  have hspan' : (StyledRange.ofPlace (min stop r.length) (span, start)).span = span := rfl
  rw [styleAt_of_split hafter, styleAt_of_split hranges, hwithout, hspan, hspan']
  simp only [ofPlace_covers_iff]
  generalize { r with ranges := below ++ above }.styleAt index = without
  split
  · split
    · split <;> rfl
    · split
      · exact (Style.apply_apply_self without span).symm
      · rfl
  · split
    · rfl
    · rfl

/-- Laying a span over nothing does nothing. Where no range of the text begins with it, it comes on
top of the characters up to its end. Where one does, the first such range gets the new end, and it
comes on top of the characters up to this end, unless a range that was laid after that one sets its
color there; the characters of that range behind the new end are without it. All others stay as they
are. -/
theorem styleAt_setSpan (r : RichText) (span : Span) (start stop : Nat) :
    (min stop r.length ≤ start → r.setSpan span start stop = r) ∧
    ((∀ range ∈ r.ranges, range.place ≠ (span, start)) → ∀ index,
      (r.setSpan span start stop).styleAt index =
        if start ≤ index ∧ index < min stop r.length then (r.styleAt index).apply span
        else r.styleAt index) ∧
    ∀ below range above, r.ranges = below ++ range :: above → range.place = (span, start) →
      (∀ other ∈ below, other.place ≠ (span, start)) → start < min stop r.length → ∀ index,
      (r.setSpan span start stop).styleAt index =
        if start ≤ index ∧ index < min stop r.length then
          if Ranges.hides above span index then r.styleAt index else (r.styleAt index).apply span
        else if range.covers index then { r with ranges := below ++ above }.styleAt index
        else r.styleAt index :=
  ⟨setSpan_eq_self span, fun h => styleAt_setSpan_of_new h stop,
    fun _ _ _ hranges hplace hbelow hlt => styleAt_setSpan_of_first hranges hplace hbelow hlt⟩

/-- Red over a text with green on some of it: over nothing, from another start on, and again from
the same start on, but not as far as before. -/
theorem styleAt_setSpan_red_green :
    let red : Span := .foreground ⟨255, 0, 0⟩
    let green : Span := .foreground ⟨0, 255, 0⟩
    let r := ((plain "abc".toList).setSpan red 0 3).setSpan green 1 2
    (min 9 r.length ≤ 3 ∧ r.setSpan red 3 9 = r) ∧
    ((∀ range ∈ r.ranges, range.place ≠ (red, 1)) ∧ (r.setSpan red 1 9).styleAt 1 =
      (r.styleAt 1).apply red) ∧
    (r.ranges = [] ++ ⟨red, 0, 3⟩ :: [⟨green, 1, 2⟩] ∧ 0 < min 2 r.length ∧
      (r.setSpan red 0 2).styleAt 0 = (r.styleAt 0).apply red ∧
      (r.setSpan red 0 2).styleAt 1 = r.styleAt 1 ∧
      (r.setSpan red 0 2).styleAt 2 = { r with ranges := [⟨green, 1, 2⟩] }.styleAt 2) := by
  intro red green r
  have hover : min 9 r.length ≤ 3 := by decide
  have hnew : ∀ range ∈ r.ranges, range.place ≠ (red, 1) := by decide
  have hranges : r.ranges = [] ++ ⟨red, 0, 3⟩ :: [⟨green, 1, 2⟩] := rfl
  have hlt : 0 < min 2 r.length := by decide
  have hfirst := (styleAt_setSpan r red 0 2).2.2 _ _ _ hranges rfl nofun hlt
  exact ⟨⟨hover, (styleAt_setSpan r red 3 9).1 hover⟩,
    ⟨hnew, (styleAt_setSpan r red 1 9).2.1 hnew 1⟩,
    ⟨hranges, hlt, hfirst 0, hfirst 1, hfirst 2⟩⟩

/-- A color that is laid again from the same start on stays below what came over it, and where it
now ends before its old end the characters behind lose it. -/
theorem styleAt_setSpan_ne_apply :
    let red : Span := .foreground ⟨255, 0, 0⟩
    let green : Span := .foreground ⟨0, 255, 0⟩
    let r := ((plain "ab".toList).setSpan red 0 2).setSpan green 0 1
    (r.setSpan red 0 2).styleAt 0 ≠ (r.styleAt 0).apply red ∧
      (r.setSpan red 0 1).styleAt 1 ≠ r.styleAt 1 := by
  decide

end RichText

end Placard
