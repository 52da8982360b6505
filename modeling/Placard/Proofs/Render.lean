import Placard.Proofs.Eval
import Placard.Render

/-! # What a render is made of

A render that succeeds is a run of `Render.renderLines` on a context that was just reset
(`render_eq_ok_iff`). It reads the art and the layout (`Render.Reads`) and places what it has read
(`Render.lines_of_render`). -/

namespace Placard

variable {σ : Type} [Provider σ]

theorem render_eq_ok_iff {config : Config} {provider after : σ} {art : String} {output : Output} :
    render config provider art = (.ok output, after) ↔
      ∃ context, (Render.renderLines art).Yields
          (Context.reset { config, provider }) output.lines context ∧
        output.diagnostics = context.diagnostics ∧
        output.styled = (context.firstColorSeen && !config.disableColors) ∧
        after = context.provider := by
  unfold Eval.Yields Eval.outcome render
  dsimp only
  rcases (Render.renderLines art).run (Context.reset { config, provider }) with ⟨_ | lines, c⟩
  · simp [Except.map]
  · obtain ⟨lines', diagnostics, styled⟩ := output
    simp only [Except.map, Prod.mk.injEq, Except.ok.injEq, Output.mk.injEq]
    constructor
    · rintro ⟨⟨rfl, rfl, rfl⟩, rfl⟩
      exact ⟨c, ⟨rfl, rfl⟩, rfl, rfl, rfl⟩
    · rintro ⟨_, ⟨rfl, rfl⟩, rfl, rfl, rfl⟩
      exact ⟨⟨rfl, rfl, rfl⟩, rfl⟩

/-- A render that can be evaluated gives what it is seen to give. -/
theorem exists_render {config : Config} {provider : σ} {art : String} {p : Output → Bool}
    {Q : Output → σ → Prop} (h : (render config provider art).1.toOption.any p = true)
    (hQ : ∀ output after, render config provider art = (.ok output, after) → p output = true →
      Q output after) :
    ∃ output after, render config provider art = (.ok output, after) ∧ Q output after := by
  rcases hrender : render config provider art with ⟨_ | output, after⟩ <;> rw [hrender] at h
  · exact absurd h Bool.false_ne_true
  · exact ⟨output, after, rfl, hQ output after hrender h⟩

namespace Render

/-- The lines of art and of info that a render reads. Without art, or with nothing but the art, the
others are not read. -/
def Reads (config : Config) (provider : σ) (art : String) (drawn : List ArtLine)
    (info : List RichText) : Prop :=
  ∃ c, (if config.disableSource then pure [] else parseArt art : Eval σ (List ArtLine)).Yields
      (Context.reset { config, provider }) drawn c ∧
    if config.printLogoOnly then info = [] else ∃ d, parseLayout.Yields c info d

/-- Where what was read stands in the output. -/
def place (config : Config) (drawn : List ArtLine) (info : List RichText) : List RichText :=
  if config.printLogoOnly then
    List.replicate config.logoPaddingTop (RichText.plain []) ++ drawn.map (·.rich)
  else Layout.compose config drawn info

theorem lines_of_render {config : Config} {provider after : σ} {art : String} {output : Output}
    (h : render config provider art = (.ok output, after)) :
    ∃ drawn info, Reads config provider art drawn info ∧ output.lines = place config drawn info := by
  obtain ⟨d, hrun, -⟩ := render_eq_ok_iff.mp h
  rw [renderLines, Eval.yields_bind] at hrun
  obtain ⟨_, _, hget, hrun⟩ := hrun
  obtain ⟨rfl, rfl⟩ := Eval.yields_get.mp hget
  -- The art is read first, and what follows is the same for all art.
  have hplace (drawn : List ArtLine) (c : Context σ)
      (hdrawn : (if config.disableSource then pure [] else parseArt art :
        Eval σ (List ArtLine)).Yields (Context.reset { config, provider }) drawn c)
      (hrest : (if config.printLogoOnly then
          return List.replicate config.logoPaddingTop (RichText.plain []) ++ drawn.map (·.rich)
        else return Layout.compose config drawn (← parseLayout) :
          Eval σ (List RichText)).Yields c output.lines d) :
      ∃ drawn info, Reads config provider art drawn info ∧ output.lines = place config drawn info := by
    split at hrest
    · next hlogo =>
      obtain ⟨hlines, -⟩ := Eval.yields_pure.mp hrest
      exact ⟨drawn, [], ⟨c, hdrawn, by rw [if_pos hlogo]⟩, by rw [place, if_pos hlogo, hlines]⟩
    · next hlogo =>
      obtain ⟨info, _, hinfo, hrest⟩ := Eval.yields_bind.mp hrest
      obtain ⟨hlines, -⟩ := Eval.yields_pure.mp hrest
      refine ⟨drawn, info, ⟨c, hdrawn, ?_⟩, by rw [place, if_neg hlogo, hlines]⟩
      rw [if_neg hlogo]
      exact ⟨_, hinfo⟩
  dsimp only [Context.reset] at hrun
  split at hrun
  · next hsource =>
    obtain ⟨drawn, c, hdrawn, hrest⟩ := Eval.yields_bind.mp hrun
    exact hplace drawn c (by rwa [if_pos hsource]) hrest
  · next hsource =>
    obtain ⟨drawn, c, hdrawn, hrest⟩ := Eval.yields_bind.mp hrun
    exact hplace drawn c (by rwa [if_neg hsource]) hrest

end Render

end Placard
