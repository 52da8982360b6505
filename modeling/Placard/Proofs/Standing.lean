import Placard.Proofs.Untaken

/-! # Parts that stand for a tag

The text of a tag is a value, or the text of one of its parts: of the branch of a condition that is
taken, or of a part that is cut off. `Standing` says which part this is and in which state it is
followed. Then the part leaves the styles as the tag does (`Standing.yields`). A tag without such a
part has a value, which is that of an info or a percentage in its color (`Valued`), or says nothing
(`valued_or_standing`). -/

namespace Placard.Template

variable {σ : Type} [Provider σ]

section

variable (nested : Info.Nested σ) (name : String) (evaluate : Bool) (c : Context σ)

/-- The value of a tag that is evaluated: of the info whose name is its text, or the percentage, in
the color of its level, of the numbers that its operands are. -/
inductive Valued : Tag → (value : RichText) → (d : Context σ) → Prop
  | info : (evalBody nested name true {} spec).Yields c draft c' → spec.isClosed = true →
      (Info.resolve nested draft.text.text).Yields c' value d →
      Valued (.info spec) value.toRich d
  | percentage : (evalBody nested name true {} numerator).Yields c first c' →
      numerator.isClosed = true → (evalBody nested name true {} denominator).Yields c' second c'' →
      denominator.isClosed = true → splitInversion first.text.text = (inverted, amount) →
      Number.readReal? amount = some n →
      Number.readReal? (Text.trim second.text.text) = some total →
      (Info.coloredPercentage nested (ratio n total) inverted).Yields c'' value d →
      Valued (.percentage numerator denominator) value d

/-- The operands of a condition are followed up to `d`. -/
def Compared (left right : Body) (equal : Bool) (d : Context σ) : Prop :=
  ∃ first second c', (evalBody nested name evaluate {} left).Yields c first c' ∧
    left.isClosed = true ∧ (evalBody nested name evaluate {} right).Yields c' second d ∧
    right.isClosed = true ∧ equal = decide (first.text.text = second.text.text)

/-- The part of a tag whose text stands for the tag, whether it is evaluated, and the state that it
is followed from. -/
inductive Standing : Tag → Bool → Body → Context σ → Prop
  | info : spec.isClosed = false → Standing (.info spec) evaluate spec c
  | color : token.isClosed = false → Standing (.color token) evaluate token c
  | numerator : numerator.isClosed = false →
      Standing (.percentage numerator denominator) evaluate numerator c
  | denominator : (evalBody nested name evaluate {} numerator).Yields c first d →
      numerator.isClosed = true → denominator.isClosed = false →
      Standing (.percentage numerator denominator) evaluate denominator d
  | left : left.isClosed = false →
      Standing (.conditional left right whenEqual whenDifferent) evaluate left c
  | right : (evalBody nested name evaluate {} left).Yields c first d → left.isClosed = true →
      right.isClosed = false →
      Standing (.conditional left right whenEqual whenDifferent) evaluate right d
  | whenEqual : Compared nested name evaluate c left right equal d →
      whenEqual.isClosed = false ∨ whenDifferent.isClosed = true ∧ equal = true →
      Standing (.conditional left right whenEqual whenDifferent) (evaluate && equal) whenEqual d
  | whenDifferent : Compared nested name evaluate c left right equal d →
      (evalBody nested name (evaluate && equal) {} whenEqual).Yields d third e →
      whenEqual.isClosed = true → whenDifferent.isClosed = false ∨ equal = false →
      Standing (.conditional left right whenEqual whenDifferent) (evaluate && !equal)
        whenDifferent e

end

variable {nested : Info.Nested σ} {name : String} {evaluate evaluate' : Bool} {c c' d e : Context σ}
  {tag : Tag} {body left right whenEqual whenDifferent : Body} {added : Piece}

/-- After the operands of a condition, its branches. -/
theorem Compared.yields_iff (h : Compared nested name evaluate c left right equal d) :
    (evalTag nested name evaluate (.conditional left right whenEqual whenDifferent)).Yields c added
        e ↔
      ∃ third c₃, (evalBody nested name (evaluate && equal) {} whenEqual).Yields d third c₃ ∧
        if whenEqual.isClosed = true then
          ∃ fourth c₄,
            (evalBody nested name (evaluate && !equal) {} whenDifferent).Yields c₃ fourth c₄ ∧
            added = (if whenDifferent.isClosed = true ∧ equal = true then third.toPiece
              else fourth.toPiece) ∧ e = c₄
        else added = third.toPiece ∧ e = c₃ := by
  obtain ⟨first, second, c', hfirst, hleft, hsecond, hright, rfl⟩ := h
  rw [evalTag, hfirst.bind_iff, hleft, hright]
  simp only [Bool.not_true, Bool.false_eq_true, if_false]
  rw [hsecond.bind_iff]
  rw [Eval.yields_bind]
  refine exists_congr fun third => exists_congr fun c₃ => and_congr_right fun _ => ?_
  cases whenEqual.isClosed with
  | false => exact Eval.yields_pure
  | true =>
    simp only [Bool.not_true, Bool.false_eq_true, if_false, if_true, Eval.yields_bind]
    refine exists_congr fun fourth => exists_congr fun c₄ => and_congr_right fun _ => ?_
    cases whenDifferent.isClosed with
    | false => exact Eval.yields_pure
    | true =>
      simp only [Bool.not_true, Bool.false_eq_true, if_false, true_and, decide_eq_true_eq]
      split
      · exact Eval.yields_pure
      · exact Eval.yields_pure

/-- A part that is not evaluated leaves the styles alone. -/
theorem styles_eq_of_untaken {draft result : Draft}
    (h : (evalBody nested name false draft body).Yields c result d) : d.styles = c.styles := by
  obtain ⟨_, h'⟩ := onlyReports_evalBody nested name body draft c
  exact congrArg (·.styles) (h'.unique h).2

/-- The text of the tag is that of the part, which leaves the styles as the tag does. -/
theorem Standing.yields (hs : Standing nested name evaluate c tag evaluate' body c')
    (h : (evalTag nested name evaluate tag).Yields c added d) :
    ∃ draft d', (evalBody nested name evaluate' {} body).Yields c' draft d' ∧
      added = draft.toPiece ∧ d.styles = d'.styles := by
  cases hs with
  | info hopen | color hopen | numerator hopen | left hopen =>
    rw [evalTag, Eval.yields_bind] at h
    obtain ⟨draft, d', hbody, h⟩ := h
    rw [hopen] at h
    obtain ⟨rfl, rfl⟩ := Eval.yields_pure.mp h
    exact ⟨draft, _, hbody, rfl, rfl⟩
  | denominator hfirst hclosed hopen | right hfirst hclosed hopen =>
    rw [evalTag, hfirst.bind_iff, hclosed] at h
    obtain ⟨draft, d', hbody, h⟩ := Eval.yields_bind.mp h
    rw [hopen] at h
    obtain ⟨rfl, rfl⟩ := Eval.yields_pure.mp h
    exact ⟨draft, _, hbody, rfl, rfl⟩
  | @whenEqual _ _ equal _ _ _ hcompared hstands =>
    obtain ⟨third, c₃, hthird, h⟩ := hcompared.yields_iff.mp h
    refine ⟨third, c₃, hthird, ?_⟩
    obtain hopen | ⟨hclosed, rfl⟩ := hstands
    · rw [hopen] at h
      exact ⟨h.1, congrArg (·.styles) h.2⟩
    · split at h
      · obtain ⟨fourth, c₄, hfourth, hadded, rfl⟩ := h
        rw [if_pos ⟨hclosed, rfl⟩] at hadded
        rw [Bool.not_true, Bool.and_false] at hfourth
        exact ⟨hadded, styles_eq_of_untaken hfourth⟩
      · exact ⟨h.1, congrArg (·.styles) h.2⟩
  | @whenDifferent _ _ equal _ _ _ _ _ hcompared hthird hclosed hstands =>
    obtain ⟨third, c₃, hthird', h⟩ := hcompared.yields_iff.mp h
    obtain ⟨rfl, rfl⟩ := hthird.unique hthird'
    rw [hclosed, if_pos rfl] at h
    obtain ⟨fourth, c₄, hfourth, hadded, rfl⟩ := h
    rw [if_neg] at hadded
    · exact ⟨fourth, _, hfourth, hadded, rfl⟩
    · rintro ⟨hclosed', rfl⟩
      obtain h | h := hstands
      · rw [h] at hclosed'
        cases hclosed'
      · cases h

/-- The value is what the tag says. -/
theorem Valued.yields {value : RichText} (h : Valued nested name c tag value d) :
    (evalTag nested name true tag).Yields c { text := value } d := by
  cases h with
  | @info _ _ _ value _ hspec hclosed hvalue =>
    rw [evalTag, hspec.bind_iff, hclosed]
    exact Eval.yields_bind.mpr ⟨value, d, hvalue, rfl⟩
  | percentage hfirst hclosed hsecond hclosed' hsplit hn htotal hvalue =>
    rw [evalTag, hfirst.bind_iff, hclosed]
    refine hsecond.bind_iff.mpr ?_
    rw [hclosed']
    refine Eval.yields_bind.mpr ⟨value, d, ?_, rfl⟩
    simp only [Template.percentage, hsplit, hn, htotal]
    exact hvalue

omit [Provider σ] in
/-- The text of a percentage tag is a percentage in its color, or it is empty. -/
theorem yields_percentage {first second : List Char} {value : RichText}
    (h : (percentage nested first second).Yields c value d) :
    value = {} ∨ ∃ inverted amount n total, splitInversion first = (inverted, amount) ∧
      Number.readReal? amount = some n ∧ Number.readReal? (Text.trim second) = some total ∧
      (Info.coloredPercentage nested (ratio n total) inverted).Yields c value d := by
  have hreported {diagnostic : Diagnostic}
      (h : (do Eval.report diagnostic; return {} : Eval σ RichText).Yields c value d) :
      value = {} := by
    obtain ⟨_, _, -, h⟩ := Eval.yields_bind.mp h
    exact (Eval.yields_pure.mp h).1
  unfold percentage at h
  dsimp only at h
  split at h
  · exact .inr ⟨_, _, _, _, rfl, ‹_›, ‹_›, h⟩
  · exact .inl (hreported h)
  · exact .inl (hreported h)

/-- A tag has a value, says nothing, or a part stands for it. -/
theorem valued_or_standing (h : (evalTag nested name evaluate tag).Yields c added d) :
    (evaluate = true ∧ ∃ value, Valued nested name c tag value d ∧ added = { text := value }) ∨
      added = {} ∨ ∃ evaluate' body c', Standing nested name evaluate c tag evaluate' body c' := by
  cases tag with
  | info spec =>
    cases hclosed : spec.isClosed with
    | false => exact .inr (.inr ⟨_, _, _, .info hclosed⟩)
    | true =>
      rw [evalTag, hclosed, Eval.yields_bind] at h
      obtain ⟨draft, d', hspec, h⟩ := h
      cases evaluate with
      | false =>
        obtain ⟨rfl, -⟩ := Eval.yields_pure.mp h
        exact .inr (.inl rfl)
      | true =>
        obtain ⟨value, _, hvalue, h⟩ := Eval.yields_bind.mp h
        obtain ⟨rfl, rfl⟩ := Eval.yields_pure.mp h
        exact .inl ⟨rfl, _, .info hspec hclosed hvalue, rfl⟩
  | color token =>
    cases hclosed : token.isClosed with
    | false => exact .inr (.inr ⟨_, _, _, .color hclosed⟩)
    | true =>
      right
      left
      rw [evalTag, hclosed, Eval.yields_bind] at h
      obtain ⟨draft, d', -, h⟩ := h
      cases evaluate with
      | false => exact (Eval.yields_pure.mp h).1
      | true =>
        obtain ⟨_, _, -, h⟩ := Eval.yields_bind.mp h
        exact (Eval.yields_pure.mp h).1
  | percentage numerator denominator =>
    cases hclosed : numerator.isClosed with
    | false => exact .inr (.inr ⟨_, _, _, .numerator hclosed⟩)
    | true =>
      rw [evalTag, hclosed, Eval.yields_bind] at h
      obtain ⟨first, c₁, hfirst, h⟩ := h
      cases hclosed' : denominator.isClosed with
      | false => exact .inr (.inr ⟨_, _, _, .denominator hfirst hclosed hclosed'⟩)
      | true =>
        obtain ⟨second, c₂, hsecond, h⟩ := Eval.yields_bind.mp h
        rw [hclosed'] at h
        cases evaluate with
        | false =>
          obtain ⟨rfl, -⟩ := Eval.yields_pure.mp h
          exact .inr (.inl rfl)
        | true =>
          obtain ⟨value, _, hvalue, h⟩ := Eval.yields_bind.mp h
          obtain ⟨rfl, rfl⟩ := Eval.yields_pure.mp h
          obtain rfl | ⟨_, _, _, _, hsplit, hn, htotal, hvalue⟩ := yields_percentage hvalue
          · exact .inr (.inl rfl)
          · exact .inl ⟨rfl, _,
              .percentage hfirst hclosed hsecond hclosed' hsplit hn htotal hvalue, rfl⟩
  | conditional left right whenEqual whenDifferent =>
    right
    right
    cases hleft : left.isClosed with
    | false => exact ⟨_, _, _, .left hleft⟩
    | true =>
      rw [evalTag, hleft, Eval.yields_bind] at h
      obtain ⟨first, c₁, hfirst, h⟩ := h
      cases hright : right.isClosed with
      | false => exact ⟨_, _, _, .right hfirst hleft hright⟩
      | true =>
        obtain ⟨second, c₂, hsecond, h⟩ := Eval.yields_bind.mp h
        rw [hright] at h
        obtain ⟨third, c₃, hthird, -⟩ := Eval.yields_bind.mp h
        have hcompared : Compared nested name evaluate c left right
            (decide (first.text.text = second.text.text)) c₂ :=
          ⟨first, second, c₁, hfirst, hleft, hsecond, hright, rfl⟩
        cases hequal : whenEqual.isClosed with
        | false => exact ⟨_, _, _, .whenEqual hcompared (.inl hequal)⟩
        | true =>
          by_cases htexts : first.text.text = second.text.text
          · cases hdifferent : whenDifferent.isClosed with
            | false => exact ⟨_, _, _, .whenDifferent hcompared hthird hequal (.inl hdifferent)⟩
            | true =>
              exact ⟨_, _, _, .whenEqual hcompared (.inr ⟨hdifferent, decide_eq_true htexts⟩)⟩
          · exact ⟨_, _, _, .whenDifferent hcompared hthird hequal (.inr (decide_eq_false htexts))⟩

/-- A part is shorter than the tag for which it stands. -/
theorem Standing.sizeOf_lt (hs : Standing nested name evaluate c tag evaluate' body c') :
    sizeOf body < sizeOf tag := by
  cases hs <;> simp only [Tag.info.sizeOf_spec, Tag.color.sizeOf_spec, Tag.percentage.sizeOf_spec,
    Tag.conditional.sizeOf_spec] <;> omega

end Placard.Template
