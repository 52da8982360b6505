import Placard.Proofs.ColorTag
import Placard.Proofs.Draft
import Placard.Proofs.Render
import Placard.Proofs.TemplateCoupling
import Placard.Provider.Snapshot

/-! # Renders without colors

With colors switched off a render says the same. The states of the two renders are tied by
`colorless`: on the second side colors are off, texts have no styles, and no color is reported as
unknown. A color tag moves only the first state, and only in its tint and its diagnostics
(`Template.exists_of_applyColor`), so the rest of the render cannot tell the difference
(`render_disableColors`). -/

namespace Placard

variable {σ : Type}

/-- Nothing but the text and the other diagnostics of the first side is on the second one. -/
def Coupling.colorless : Coupling where
  demand := .successes
  tint _ b := b.disabled = true
  reported l m := m = l.filter (!·.isUnknownColor)
  resetApplied := Eq
  resetApplied_self _ := rfl
  rich r s := s = .plain r.text
  pushText := by
    rintro r _ rfl text
    exact RichText.pushText_plain r.text text

/-- A color tag does nothing on the second side, and nothing that matters there on the first. -/
theorem Coupling.simulates_applyColor (token : String) :
    colorless.Simulates (σ := σ) Eq (Template.applyColor token) (Template.applyColor token) := by
  intro c d h
  have hd : d.config.disableColors = true := h.tint
  have hskip : (Template.applyColor token).outcome d = (.ok (), d) := by
    rw [Template.applyColor, Eval.outcome_bind, Eval.outcome_get]
    dsimp only
    rw [if_pos hd, Eval.outcome_pure]
  rw [hskip]
  obtain ⟨styles, autoColors, firstColorSeen, diagnostics, hc, hdiagnostics⟩ :=
    Template.exists_of_applyColor token c
  generalize (Template.applyColor token).outcome c = outcome at hc
  obtain ⟨_ | _, _⟩ := outcome
  · exact .free _ fun hall => by cases hall
  · obtain rfl := hc
    exact .ok rfl { h with tint := hd, diagnostics := h.diagnostics.trans hdiagnostics.symm }

/-- The coupling holds for whole templates: without open styles and without styles in what is added,
nothing is laid over a text. -/
def TemplateCoupling.colorless : TemplateCoupling where
  toCoupling := Coupling.colorless
  piece p q := q.text = .plain p.text.text
  text_eq := by
    rintro r _ rfl
    rfl
  plain text := rfl
  append := by
    rintro r _ r' _ rfl rfl
    exact RichText.append_plain r.text r'.text
  ofRich h := h
  toRich h := h
  add := by
    intro a b p q hb hq text
    have hlaid : b.laid = [] := if_pos hb
    rw [hlaid, Template.Piece.text_add]
    simp only [Template.Piece.add, Template.Piece.stretchAll, List.foldl_nil, hq,
      RichText.pushText_plain]
  addPiece := by
    intro a b p q p' q' hb hq hq'
    have hlaid : b.laid = [] := if_pos hb
    rw [hlaid, Template.Piece.text_addPiece]
    simp only [Template.Piece.addPiece, Template.Piece.stretchAll, List.foldl_nil, hq, hq',
      RichText.text_plain, RichText.pushText_plain, RichText.layer_plain]
  cleared h := h
  restored _ h := h
  report := by
    intro l m diagnostic h hd
    have hm : m = l.filter (!·.isUnknownColor) := h
    change m ++ [diagnostic] = (l ++ [diagnostic]).filter (!·.isUnknownColor)
    rw [List.filter_append, hm]
    simp [hd]
  applyColor := Coupling.simulates_applyColor

/-! ## Renders -/

theorem plainLines_eq {lines others : List RichText}
    (h : List.Forall₂ Coupling.colorless.rich lines others) :
    others.map RichText.toString = lines.map RichText.toString ∧
      ∀ line ∈ others, line.ranges = [] := by
  induction h with
  | nil => exact ⟨rfl, nofun⟩
  | cons hrs _ ih =>
    obtain rfl := hrs
    refine ⟨congrArg (_ :: ·) ih.1, ?_⟩
    intro line hline
    cases hline with
    | head => rfl
    | tail _ hline => exact ih.2 line hline

/-- Where a render succeeds, it also succeeds with colors switched off: it says the same, has asked
the provider the same, and reports all but the unknown colors. Nothing of it is styled. -/
theorem render_disableColors [Provider σ] {config : Config} {provider after : σ} {art : String}
    {output : Output} (h : render config provider art = (.ok output, after)) :
    ∃ plain, render { config with disableColors := true } provider art = (.ok plain, after) ∧
      plain.plainLines = output.plainLines ∧
      plain.diagnostics = output.diagnostics.filter (!·.isUnknownColor) ∧
      (∀ line ∈ plain.lines, line.ranges = []) ∧ plain.styled = false := by
  obtain ⟨c, hrun, hdiagnostics, -, rfl⟩ := render_eq_ok_iff.mp h
  have hstart : Coupling.colorless.State (Context.reset { config, provider })
      (Context.reset { config := { config with disableColors := true }, provider }) :=
    { config := rfl, provider := rfl, cache := .nil, tint := rfl, parsingLayout := rfl,
      sepResetApplied := rfl, spliced := .nil, diagnostics := rfl }
  obtain ⟨lines, d, hrun', hlines, hstate⟩ :=
    (TemplateCoupling.colorless.simulates_renderLines art).yields nofun hstart hrun
  obtain ⟨htext, hranges⟩ := plainLines_eq hlines
  refine ⟨⟨lines, d.diagnostics, false⟩, ?_, htext, ?_, hranges, rfl⟩
  · exact render_eq_ok_iff.mpr ⟨d, hrun', rfl, (Bool.and_false _).symm, hstate.provider.symm⟩
  · rw [hdiagnostics]
    exact hstate.diagnostics

/-- A styled render with an unknown color, a line that is left out and a condition. -/
theorem render_disableColors_arch :
    let config : Config :=
      { layout := ["$\x7bred\x7d$<os.name>$\x7bnope\x7d on $<user.name>", "Battery: $<battery>",
          "$[$<os.name>,Arch,$\x7bgreen\x7dyes,no]: $<os.name>"] }
    let provider : Snapshot := { facts := { os := { name := "Arch" }, user := { name := "me" } } }
    let art := "$\x7b#f00\x7d##\n#"
    ∃ output after, render config provider art = (.ok output, after) ∧
      output.plainLines = ["##     Arch on me", "#      yes: Arch"] ∧ output.styled = true ∧
      output.diagnostics = [.unknownColor "nope"] ∧
      ∃ plain, render { config with disableColors := true } provider art = (.ok plain, after) ∧
        plain.plainLines = output.plainLines ∧
        plain.diagnostics = output.diagnostics.filter (!·.isUnknownColor) ∧
        (∀ line ∈ plain.lines, line.ranges = []) ∧ plain.styled = false := by
  intro config provider art
  refine exists_render (p := fun output =>
    output.plainLines = ["##     Arch on me", "#      yes: Arch"] && output.styled
      && output.diagnostics = [.unknownColor "nope"]) (by decide +kernel) fun output after h hp => ?_
  simp only [Bool.and_eq_true, decide_eq_true_eq] at hp
  obtain ⟨⟨hlines, hstyled⟩, hdiagnostics⟩ := hp
  exact ⟨hlines, hstyled, hdiagnostics, render_disableColors h⟩

end Placard
