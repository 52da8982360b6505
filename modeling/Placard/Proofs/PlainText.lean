import Placard.Proofs.Draft
import Placard.Proofs.Eval
import Placard.Proofs.Grammar
import Placard.Provider.Snapshot
import Placard.Render

/-! # The two forms of a template agree

A template that is evaluated gives styled text, and edits that make plain text of the template
itself. The two are kept by different means: the text grows at its end, the edits are carried out
on the template from the left. `Draft.Tracks` is the invariant that ties them: the edits so far
turn the template into the text so far, followed by the part that is not read yet. Every step of a
body keeps it (`evalBody_tracks`), and at the end nothing is left to read
(`plain_eq_text_of_parseLine`). -/

namespace Placard.Template

/-- The edits of the draft turn the template into the text of the draft and the unread part, on
which later edits work. -/
def Draft.Tracks (draft : Draft) (template unread : List Char) : Prop :=
  ∀ later, Edit.applyAll (draft.edits.reverse ++ later) template =
    draft.text.text ++ Edit.applyAll later unread

namespace Draft.Tracks

theorem start (template : List Char) : Tracks {} template template := fun _ => rfl

/-- What the edits so far make of the template: the text, and then the raw template. -/
theorem plain_eq {draft : Draft} (h : draft.Tracks template unread) :
    draft.plain template = draft.text.text ++ unread := by
  have := h []
  rwa [List.append_nil] at this

theorem keep {draft : Draft} {piece : Piece} (h : draft.Tracks template (c :: unread))
    (hp : piece.text.text = draft.text.text ++ [c]) :
    (draft.edited piece (.keep 1)).Tracks template unread := by
  intro later
  have := h (.keep 1 :: later)
  simp only [Draft.edited, List.reverse_cons, List.append_assoc, List.singleton_append, this, hp,
    Edit.applyAll, List.take_succ_cons, List.take_zero, List.drop_succ_cons, List.drop_zero]

theorem replace {draft : Draft} {piece : Piece} {text : List Char}
    (h : draft.Tracks template (taken ++ unread)) (hlen : taken.length = length)
    (hp : piece.text.text = draft.text.text ++ text) :
    (draft.edited piece (.replace length text)).Tracks template unread := by
  intro later
  have := h (.replace length text :: later)
  subst hlen
  simp only [Draft.edited, List.reverse_cons, List.append_assoc, List.singleton_append, this, hp,
    Edit.applyAll, List.drop_left]

end Draft.Tracks

variable {σ : Type} [Provider σ]

/-- The steps of a body: each consumes what its node stands for, and tracks it. -/
theorem evalBody_tracks {nested : Info.Nested σ} {name : String} {evaluate : Bool}
    {template : List Char} :
    ∀ {body : Body} {cutOff : Bool} {cs left : List Char} {draft result : Draft} {c d : Context σ},
    ReadsBody none cutOff cs body left → draft.Tracks template cs →
    (evalBody nested name evaluate draft body).Yields c result d → result.Tracks template left
  | .done ending, _, _, _, _, _, _, _, hr, ht, h => by
    cases hr
    simp only [evalBody, Ending.atEnd, Eval.yields_pure] at h
    obtain ⟨rfl, _⟩ := h
    exact ht
  | .char _ rest, _, _, _, _, _, _, _, hr, ht, h => by
    simp only [evalBody, Eval.yields_bind] at h
    obtain ⟨styles, _, _, h⟩ := h
    cases hr with
    | char _ _ _ hr => exact evalBody_tracks hr (ht.keep (Piece.text_add ..)) h
  | .escaped _ rest, _, _, _, _, _, _, _, hr, ht, h => by
    simp only [evalBody, Eval.yields_bind] at h
    obtain ⟨styles, _, _, h⟩ := h
    cases hr with
    | escaped _ hr =>
      change Draft.Tracks _ _ (['\\', _] ++ _) at ht
      exact evalBody_tracks hr (ht.replace rfl (Piece.text_add ..)) h
  | .backslash rest, _, _, _, _, _, _, _, hr, ht, h => by
    simp only [evalBody, Eval.yields_bind] at h
    obtain ⟨styles, _, _, h⟩ := h
    cases hr with
    | backslash _ => exact evalBody_tracks .atEnd (ht.keep (Piece.text_add ..)) h
  | .tag tag length rest, _, _, _, _, _, _, _, hr, ht, h => by
    simp only [evalBody, Eval.yields_bind] at h
    obtain ⟨added, _, _, styles, _, _, h⟩ := h
    cases hr with
    | tag _ htag hr =>
      obtain ⟨taken, heq, hlen⟩ := htag.exists_taken
      rw [heq] at ht
      exact evalBody_tracks hr (ht.replace hlen (Piece.text_addPiece ..)) h

/-- The plain form is the text of the styled form, so the width that a line of art is given is that
of the text that is placed. -/
theorem plain_eq_text_of_parseLine {template : String} {parsed : Parsed} {c d : Context σ}
    (h : (parseLine template).Yields c parsed d) :
    parsed.plain = parsed.rich.text ∧ (Render.artLine σ parsed).width = parsed.rich.width σ := by
  simp only [parseLine, evalWhole, Eval.yields_bind, Eval.yields_modify, Eval.yields_pure] at h
  obtain ⟨draft, _, hbody, _, _, _, rfl, _⟩ := h
  have ht := evalBody_tracks (reads_read _) (Draft.Tracks.start _) hbody
  have hplain := ht.plain_eq
  rw [List.append_nil] at hplain
  refine ⟨hplain, ?_⟩
  change Text.Metrics.width σ (draft.plain _) = Text.Metrics.width σ draft.text.text
  rw [hplain]

/-- Escapes, a lone dollar sign, a wide character, a resolved tag, a condition with a cut off tag in
its last branch and open styles: both forms are the same text, of 12 characters in 13 columns. -/
theorem plain_eq_text_of_cut_off :
    ∃ parsed d, (parseLine "\\$日$ $<os.name>$\x7bred\x7d$[a,a,b,c$<cpu").Yields
        ({ config := {}, provider := { facts := { os := { name := "Arch" } } } } : Context Snapshot)
        parsed d ∧
      parsed.plain = "$日$ Archccpu".toList ∧ parsed.plain = parsed.rich.text ∧
      parsed.rich.length = 12 ∧ (Render.artLine Snapshot parsed).width = 13 ∧
      parsed.rich.width Snapshot = 13 := by
  refine Eval.exists_yields (p := (·.plain = "$日$ Archccpu".toList)) (by decide +kernel) ?_
  intro parsed d h hp
  have hplain : parsed.plain = "$日$ Archccpu".toList := of_decide_eq_true hp
  obtain ⟨htext, hwidth⟩ := plain_eq_text_of_parseLine h
  have hcolumns : (Render.artLine Snapshot parsed).width = 13 := by
    unfold Render.artLine
    dsimp only
    rw [hplain]
    decide +kernel
  have hlength : parsed.rich.length = 12 :=
    parsed.rich.length_eq.trans (congrArg List.length (htext.symm.trans hplain))
  exact ⟨hplain, htext, hlength, hcolumns, hwidth.symm.trans hcolumns⟩

end Placard.Template
