import Placard.Proofs.LastReport
import Placard.Proofs.SetAside
import Placard.Proofs.Values

/-! # Texts under other styles

What a template says has nothing to do with the styles that are open around it
(`yields_under_styles`), with the text that it is added to (`yields_onto`) or with its name. What it
does to the rest of the state is the same, too. -/

namespace Placard

variable {σ : Type} {c d e : Context σ}

/-- The same state, but for the styles that are open. -/
def Context.SameButActive (c d : Context σ) : Prop :=
  d = { c with styles.active := d.styles.active }

namespace Context.SameButActive

theorem cleared (c : Context σ) : SameButActive { c with styles := c.styles.cleared } c := rfl

theorem symm (h : SameButActive c d) : SameButActive d c := by
  unfold SameButActive at h ⊢
  rw [h]

theorem trans (h : SameButActive c d) (h' : SameButActive d e) : SameButActive c e := by
  unfold SameButActive at h h' ⊢
  rw [h', h]

/-- Nothing is left of the difference when the styles are closed. -/
theorem cleared_eq (h : SameButActive c d) :
    { d with styles := d.styles.cleared } = { c with styles := c.styles.cleared } := by
  rw [h]
  rfl

end Context.SameButActive

open Context (SameButActive)

namespace Coupling

/-- The openings go on with the same number. -/
abbrev sameNumber : Coupling := stylesApart fun styles other => other.count = styles.count

theorem sameButActive_iff : sameNumber.State c d ↔ SameButActive c d := by
  refine stylesApart_iff.trans ⟨fun ⟨heq, hnext⟩ => ?_, fun h => ?_⟩
  · have hstyles : d.styles = { c.styles with active := d.styles.active } :=
      congrArg (OpenStyles.mk d.styles.active) hnext
    unfold SameButActive
    rwa [← hstyles]
  · unfold SameButActive at h
    rw [h]
    exact ⟨rfl, rfl⟩

/-- How many styles a color opens has nothing to do with those that are open. -/
theorem count_after {styles other : OpenStyles} (h : other.count = styles.count)
    (action : ColorToken.Action) : (other.after action).count = (styles.after action).count := by
  unfold OpenStyles.after
  split
  · exact congrArg (· + 1) h
  · exact h
  · rename_i spans
    induction spans generalizing styles other with
    | nil => exact h
    | cons span spans ih => exact ih (congrArg (· + 1) h)

variable [Provider σ]

theorem nested_sameNumber (depth : Nat) :
    sameNumber.Nested (σ := σ) (Template.evalNested depth) (Template.evalNested depth) := by
  intro template c d h
  obtain ⟨heq, hnext⟩ := stylesApart_iff.mp h
  have hstart : (stylesApart (Around c.styles.active d.styles.active 0 0)).State c d :=
    stylesApart_iff.mpr ⟨heq, rfl, rfl, hnext.symm⟩
  refine (simulates_evalNested_around _ _ 0 0 depth template c d hstart).mono_state fun _ _ h => ?_
  obtain ⟨heq, -, -, hnext⟩ := stylesApart_iff.mp h
  exact stylesApart_iff.mpr ⟨heq, hnext.symm⟩

end Coupling

namespace Template

variable [Provider σ]

/-- Which styles are open is irrelevant to the texts. -/
theorem comparable_sameNumber (depth : Nat) :
    Comparable {} .all Coupling.sameNumber.State (fun r s => s.text = r.text)
      (fun p q => q.text.text = p.text.text) (evalNested (σ := σ) depth) (evalNested depth) where
  text_eq h := h
  plain _ := rfl
  ofRich h := h
  toRich h := h
  add _ h text := by rw [Piece.text_add, Piece.text_add, h]
  addPiece _ h h' := by rw [Piece.text_addPiece, Piece.text_addPiece, h, h']
  report _ h := { h with diagnostics := congrArg (· ++ [_]) h.diagnostics }
  applyColor := Coupling.stylesApart_applyColor fun h action => Coupling.count_after h action
  resolve _ :=
    (Coupling.simulates_resolve (Coupling.nested_sameNumber depth) _).mono fun _ _ h => by
      rw [Info.eq_of_related h]
  coloredPercentage _ percent inverted :=
    (Coupling.simulates_coloredPercentage (Coupling.nested_sameNumber depth) percent
      inverted).mono fun _ _ h => congrArg (·.text) h.symm
  reset := False.elim
  addReset := False.elim

variable {depth : Nat} {name : String} {evaluate : Bool}

/-- Under other styles a body says the same, and does the same to the rest of the state. -/
theorem yields_under_styles {result : Draft} {c c' d : Context σ} (hc : SameButActive c c')
    (h : (evalBody (evalNested depth) name evaluate {} body).Yields c result d) :
    ∃ result' d', (evalBody (evalNested depth) name evaluate {} body).Yields c' result' d' ∧
      result'.text.text = result.text.text ∧ SameButActive d d' := by
  have hC := comparable_sameNumber (σ := σ) depth
  have hbody := hC.simulates_evalBody (hC.sameReports name) evaluate
    (.refl (fun _ => trivial) trivial body) hC.drafts_empty
  obtain ⟨result', d', h', hresult, hd⟩ :=
    hbody.yields nofun (Coupling.sameButActive_iff.mpr hc) h
  exact ⟨result', d', h', hresult.piece, Coupling.sameButActive_iff.mp hd⟩

/-- The end of a body adds nothing. -/
theorem yields_done_onto {nested : Info.Nested σ} {draft result : Draft} {c d : Context σ}
    (h : (evalBody nested name evaluate draft (.done ending)).Yields c result d) (other : Draft) :
    (evalBody nested name evaluate other (.done ending)).Yields c other d := by
  cases ending with
  | unclosed delimiter =>
    obtain ⟨_, _, hreport, h⟩ := Eval.yields_bind.mp h
    obtain ⟨-, rfl⟩ := Eval.yields_pure.mp h
    exact Eval.yields_bind.mpr ⟨_, _, hreport, Eval.yields_pure.mpr ⟨rfl, rfl⟩⟩
  | closed | interrupted => exact Eval.yields_pure.mpr ⟨rfl, (Eval.yields_pure.mp h).2⟩

/-- What a body adds to a draft it adds to any other one. -/
theorem yields_onto {nested : Info.Nested σ} : (body : Body) → ∀ {draft result : Draft}
    {c d : Context σ}, (evalBody nested name evaluate draft body).Yields c result d →
    ∀ other : Draft, ∃ result' text, (evalBody nested name evaluate other body).Yields c result' d ∧
      result.text.text = draft.text.text ++ text ∧ result'.text.text = other.text.text ++ text
  | .done ending, draft, result, c, d, h, other => by
    refine ⟨other, [], yields_done_onto h other, ?_, (List.append_nil _).symm⟩
    rw [(eq_of_yields_done h).1, List.append_nil]
  | .char x rest, draft, result, c, d, h, other => by
    obtain ⟨result', text, h', htext, htext'⟩ := yields_onto rest (yields_char_iff.mp h) _
    refine ⟨result', [x] ++ text, yields_char_iff.mpr h', ?_, ?_⟩
    · rw [htext, Draft.edited, Piece.text_add, List.append_assoc]
    · rw [htext', Draft.edited, Piece.text_add, List.append_assoc]
  | .escaped x rest, draft, result, c, d, h, other => by
    obtain ⟨result', text, h', htext, htext'⟩ := yields_onto rest (yields_escaped_iff.mp h) _
    refine ⟨result', [x] ++ text, yields_escaped_iff.mpr h', ?_, ?_⟩
    · rw [htext, Draft.edited, Piece.text_add, List.append_assoc]
    · rw [htext', Draft.edited, Piece.text_add, List.append_assoc]
  | .backslash rest, draft, result, c, d, h, other => by
    obtain ⟨result', text, h', htext, htext'⟩ := yields_onto rest (yields_backslash_iff.mp h) _
    refine ⟨result', ['\\'] ++ text, yields_backslash_iff.mpr h', ?_, ?_⟩
    · rw [htext, Draft.edited, Piece.text_add, List.append_assoc]
    · rw [htext', Draft.edited, Piece.text_add, List.append_assoc]
  | .tag tag length rest, draft, result, c, d, h, other => by
    obtain ⟨added, c', htag, h⟩ := yields_tag_iff.mp h
    obtain ⟨result', text, h', htext, htext'⟩ := yields_onto rest h _
    refine ⟨result', added.text.text ++ text, yields_tag_iff.mpr ⟨added, c', htag, h'⟩, ?_, ?_⟩
    · rw [htext, Draft.edited, Piece.text_addPiece, List.append_assoc]
    · rw [htext', Draft.edited, Piece.text_addPiece, List.append_assoc]

/-- Elsewhere a body adds the same text: in a template of another name, to another draft and under
other styles. -/
theorem yields_elsewhere (hr : ReadsBody stop cutOff cs body left) {draft result : Draft}
    {c c' d : Context σ} (hc : SameButActive c c')
    (h : (evalBody (evalNested depth) name evaluate draft body).Yields c result d) (other : Draft)
    (name' : String) : ∃ result' d' text,
      (evalBody (evalNested depth) name' evaluate other body).Yields c' result' d' ∧
      result.text.text = draft.text.text ++ text ∧ result'.text.text = other.text.text ++ text := by
  obtain ⟨result₁, text, h₁, htext, htext₁⟩ := yields_onto body h {}
  obtain ⟨c₁, hnames⟩ := (reportsLast_evalBody (evalNested depth) hr evaluate {}).exists_state h₁
  obtain ⟨result₂, d', h₂, htext₂, -⟩ := yields_under_styles hc (hnames name')
  obtain ⟨result', text', h', htext', hother⟩ := yields_onto body h₂ other
  have hsame : text' = text := htext'.symm.trans (htext₂.trans htext₁)
  exact ⟨result', d', text, h', htext, hsame ▸ hother⟩

end Template

end Placard
