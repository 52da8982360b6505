import Placard.Style

/-! # What spans add up to

Of the spans over a character the last one of each plane settles its color
(`Style.color?_applyAll`), and all of them together its modifiers (`Style.modifiers_applyAll`). So
spans below others that hold the same ones do not matter (`Style.applyAll_append_of_subset`). -/

namespace Placard

/-- The two colors of a style. -/
inductive Plane where
  | foreground
  | background

/-- The color that a span sets in a plane. -/
def Span.color? (plane : Plane) : Span → Option Rgb
  | .foreground color => match plane with | .foreground => some color | .background => none
  | .background color => match plane with | .foreground => none | .background => some color
  | .emphasis _ => none

/-- The modifiers that a span adds. -/
def Span.modifiers : Span → Modifiers
  | .emphasis modifiers => modifiers
  | .foreground _ | .background _ => .none

/-- The last color that is set in a plane. -/
def lastColor? (plane : Plane) (spans : List Span) : Option Rgb :=
  (spans.filterMap (·.color? plane)).getLast?

/-- All modifiers that some of the given ones hold. -/
def Modifiers.unionAll (all : List Modifiers) : Modifiers where
  bold := all.any (·.bold)
  italic := all.any (·.italic)
  underline := all.any (·.underline)
  blink := all.any (·.blink)
  strikethrough := all.any (·.strikethrough)

theorem Modifiers.unionAll_eq {all others : List Modifiers} (h : ∀ m, m ∈ all ↔ m ∈ others) :
    unionAll all = unionAll others := by
  have hany (p : Modifiers → Bool) : all.any p = others.any p := by
    rw [Bool.eq_iff_iff, List.any_eq_true, List.any_eq_true]
    exact exists_congr fun m => and_congr_left fun _ => h m
  unfold unionAll
  simp only [hany]

namespace Style

def color? (plane : Plane) (style : Style) : Option Rgb :=
  match plane with
  | .foreground => style.fg
  | .background => style.bg

theorem ext_color? {s t : Style} (h : ∀ plane, s.color? plane = t.color? plane)
    (hm : s.modifiers = t.modifiers) : s = t := by
  obtain ⟨fg, bg, modifiers⟩ := s
  obtain ⟨fg', bg', modifiers'⟩ := t
  obtain rfl : fg = fg' := h .foreground
  obtain rfl : bg = bg' := h .background
  obtain rfl : modifiers = modifiers' := hm
  rfl

theorem color?_apply (plane : Plane) (style : Style) (span : Span) :
    (style.apply span).color? plane = (span.color? plane).or (style.color? plane) := by
  cases span <;> cases plane <;> rfl

theorem modifiers_apply (style : Style) (span : Span) :
    (style.apply span).modifiers = style.modifiers.union span.modifiers := by
  cases span with
  | emphasis modifiers => rfl
  | foreground color | background color =>
    simp only [apply, Span.modifiers, Modifiers.union, Modifiers.none, Bool.or_false]

/-- The last color of a plane wins. -/
theorem color?_applyAll (plane : Plane) (style : Style) (spans : List Span) :
    (style.applyAll spans).color? plane = (lastColor? plane spans).or (style.color? plane) := by
  unfold applyAll lastColor?
  induction spans generalizing style with
  | nil => rfl
  | cons span spans ih =>
    rw [List.foldl_cons, ih, color?_apply, List.filterMap_cons]
    cases span.color? plane with
    | none => rfl
    | some color =>
      rw [List.getLast?_cons]
      cases (spans.filterMap (·.color? plane)).getLast? <;> rfl

/-- Modifiers add up. -/
theorem modifiers_applyAll (spans : List Span) :
    (plain.applyAll spans).modifiers = .unionAll (spans.map (·.modifiers)) := by
  have h (style : Style) : (style.applyAll spans).modifiers =
      style.modifiers.union (.unionAll (spans.map (·.modifiers))) := by
    unfold applyAll
    induction spans generalizing style with
    | nil => simp [Modifiers.union, Modifiers.unionAll]
    | cons span spans ih =>
      rw [List.foldl_cons, ih, modifiers_apply]
      simp [Modifiers.union, Modifiers.unionAll, Bool.or_assoc]
  rw [h]
  simp [Modifiers.union, plain]

/-- Which color each plane comes to and which modifiers there are is all that counts. -/
theorem applyAll_eq {spans others : List Span}
    (hcolor : ∀ plane, lastColor? plane spans = lastColor? plane others)
    (hmem : ∀ span, span ∈ spans ↔ span ∈ others) :
    plain.applyAll spans = plain.applyAll others := by
  refine ext_color? (fun plane => ?_) ?_
  · rw [color?_applyAll, color?_applyAll, hcolor]
  · rw [modifiers_applyAll, modifiers_applyAll]
    refine Modifiers.unionAll_eq fun m => ?_
    simp only [List.mem_map, hmem]

/-- Spans that come again on top of others have no effect below. -/
theorem applyAll_append_of_subset {below spans : List Span} (h : ∀ span ∈ below, span ∈ spans) :
    plain.applyAll (below ++ spans) = plain.applyAll spans := by
  refine applyAll_eq (fun plane => ?_) fun span => ?_
  · unfold lastColor?
    rw [List.filterMap_append, List.getLast?_append]
    cases htop : (spans.filterMap (·.color? plane)).getLast? with
    | some color => rfl
    | none =>
      rw [List.getLast?_eq_none_iff] at htop
      have hbelow : below.filterMap (·.color? plane) = [] := by
        rw [List.filterMap_eq_nil_iff] at htop ⊢
        exact fun span hspan => htop span (h span hspan)
      rw [hbelow]
      rfl
  · rw [List.mem_append]
    exact or_iff_right_of_imp (h span)

end Style

end Placard
