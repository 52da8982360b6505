import Placard.Proofs.Coupling
import Placard.Proofs.TreeSimulation
import Placard.Render

/-! # Templates and renders on two states

Templates open and close styles and lay them over text. Where that keeps a coupling
(`TemplateCoupling`), a template stands for the same on coupled states
(`TemplateCoupling.simulates_parseLine`), and two renders go side by side
(`TemplateCoupling.simulates_renderLines`). -/

namespace Placard

variable {σ : Type}

/-- The styles that are laid over new text. -/
def Tint.laid (tint : Tint) : List OpenStyle := if tint.disabled then [] else tint.styles.active

/-- A coupling that colors and open styles keep. -/
structure TemplateCoupling extends Coupling where
  piece : Template.Piece → Template.Piece → Prop
  text_eq : rich r s → s.text = r.text
  plain (text : List Char) : rich (.plain text) (.plain text)
  append : rich r s → rich r' s' → rich (r.append r') (s.append s')
  ofRich : rich r s → piece { text := r } { text := s }
  toRich : piece p q → rich p.text q.text
  add : tint a b → piece p q → ∀ text, piece (p.add a.laid text) (q.add b.laid text)
  addPiece : tint a b → piece p q → piece p' q' →
    piece (p.addPiece a.laid p') (q.addPiece b.laid q')
  cleared : tint a b →
    tint { a with styles := a.styles.cleared } { b with styles := b.styles.cleared }
  restored : tint a b → tint a' b' → tint { a' with styles.active := a.styles.active }
    { b' with styles.active := b.styles.active }
  report : reported l m → diagnostic.isUnknownColor = false →
    reported (l ++ [diagnostic]) (m ++ [diagnostic])
  applyColor : ∀ {σ : Type} (token : String), toCoupling.Simulates Eq
    (Template.applyColor token : Eval σ Unit) (Template.applyColor token)

namespace TemplateCoupling

open Template

variable {K : TemplateCoupling}

theorem toRich_value {v w : Info.Value} (h : K.Value v w) : K.rich v.toRich w.toRich := by
  cases h with
  | text s => exact K.plain _
  | rich hr => exact hr
  | count n => exact K.plain _
  | real x => exact K.plain _

variable {nested nested' : Info.Nested σ} [Provider σ]

/-- Trees that are alike go side by side, if the coupling allows for the further resets of the
second one. -/
theorem comparable (shape : Shape)
    (hreset : shape.resets →
      K.Simulates (σ := σ) (fun _ _ => True) (pure ()) (Template.applyColor "0"))
    (haddReset : shape.resets → ∀ {a b p q}, K.tint a b → K.piece p q →
      K.piece p (q.addPiece b.laid {}))
    (hn : K.Nested nested nested') :
    Comparable shape K.demand (K.State (σ := σ)) K.rich K.piece nested nested' where
  text_eq := K.text_eq
  plain := K.plain
  ofRich := K.ofRich
  toRich := K.toRich
  add h := K.add h.tint
  addPiece h := K.addPiece h.tint
  report hd h := { h with diagnostics := K.report h.diagnostics hd }
  applyColor := K.applyColor
  resolve _ := (K.simulates_resolve hn _).mono fun _ _ => toRich_value
  coloredPercentage _ := K.simulates_coloredPercentage hn
  reset := hreset
  addReset hresets h := haddReset hresets h.tint

/-- The two forms of a whole template. -/
def Parsed (K : TemplateCoupling) (parsed other : Template.Parsed) : Prop :=
  K.rich parsed.rich other.rich ∧ other.plain = parsed.plain

theorem simulates_evalWhole (hn : K.Nested nested nested') (template : List Char) :
    K.Simulates K.Parsed (evalWhole nested template) (evalWhole nested' template) := by
  have hC := comparable {} False.elim False.elim hn
  have hbody := hC.simulates_evalBody (hC.sameReports (String.ofList template)) true
    (.refl (fun _ => trivial) trivial (.read template)) (hC.drafts_empty)
  refine hbody.bind fun draft other hd => ?_
  refine (Eval.Simulates.modify fun c d h => ?_).bind_eq fun _ => .pure ⟨K.toRich hd.piece, ?_⟩
  · exact { h with tint := K.cleared h.tint }
  · simp only [Draft.plain, hd.edits not_false]

theorem simulates_evalNested (depth : Nat) (template : List Char) :
    K.Simulates (σ := σ) K.rich (evalNested depth template) (evalNested depth template) := by
  induction depth generalizing template with
  | zero => exact .throw .tooDeep
  | succ depth ih =>
    refine Eval.Simulates.withoutStyles (fun c d h => { h with tint := K.cleared h.tint })
      (fun _ _ _ _ h h' => { h' with tint := K.restored h.tint h'.tint }) ?_
    exact (simulates_evalWhole ih template).bind fun _ _ hp => .pure hp.1

/-- A template stands for the same on coupled states. -/
theorem simulates_parseLine (template : String) :
    K.Simulates (σ := σ) K.Parsed (parseLine template) (parseLine template) :=
  simulates_evalWhole (simulates_evalNested maxDepth) template.toList

/-! ## Renders -/

open Render

structure Art (K : TemplateCoupling) (line other : ArtLine) : Prop where
  rich : K.rich line.rich other.rich
  width : other.width = line.width

theorem simulates_parseArt (art : String) :
    K.Simulates (σ := σ) (List.Forall₂ K.Art) (parseArt art) (parseArt art) := by
  refine (Eval.Simulates.modify fun c d h => ?_).bind_eq fun _ => ?_
  · exact { h with parsingLayout := rfl }
  · refine Eval.Simulates.mapM (fun line => ?_) _
    exact (simulates_parseLine _).bind fun _ _ hp => .pure ⟨hp.1, congrArg (Text.Metrics.width σ) hp.2⟩

theorem simulates_parseLayoutLine (template : String) :
    K.Simulates (σ := σ) (List.Forall₂ K.rich) (parseLayoutLine template)
      (parseLayoutLine template) := by
  refine (K.simulates_injectSeparatorReset _).bind_eq fun line => ?_
  refine ((simulates_parseLine _).bind fun _ _ hp => .pure hp.1).bind fun r s hr => ?_
  refine Eval.Simulates.get.bind fun c d h => ?_
  have hspliced := h.spliced
  generalize c.spliced = l, d.spliced = m at hspliced
  cases hspliced with
  | nil => exact .pure (.cons hr .nil)
  | cons hrs hlm =>
    refine (Eval.Simulates.modify fun c d h => ?_).bind_eq fun _ => .pure (.cons hrs hlm)
    exact { h with spliced := .nil }

theorem isMissing_eq (h : K.rich r s) : isMissing s = isMissing r := by
  simp only [isMissing, RichText.contains, K.text_eq h]

theorem simulates_parseLayout :
    K.Simulates (σ := σ) (List.Forall₂ K.rich) parseLayout parseLayout := by
  refine (Eval.Simulates.modify fun c d h => ?_).bind_eq fun _ => ?_
  · exact { h with parsingLayout := rfl }
  refine Eval.Simulates.get.bind fun c d h => ?_
  have hlayout : d.config.layout = c.config.layout := congrArg (·.layout) h.config
  rw [hlayout]
  refine (Eval.Simulates.mapM simulates_parseLayoutLine _).bind fun l m hlm => .pure ?_
  have hfilter (r s : RichText) (hr : K.rich r s) :
      (!isMissing r) = true ↔ (!isMissing s) = true := by
    rw [isMissing_eq hr]
  exact List.rel_filter hfilter (List.rel_flatten hlm)

theorem spaces_append (h : K.rich r s) (count : Nat) :
    K.rich ((RichText.plain (Layout.spaces count)).append r)
      ((RichText.plain (Layout.spaces count)).append s) := K.append (K.plain _) h

/-- The settings of the second render may switch colors off. -/
theorem rich_artCell (config : Config) (b : Bool) (column : Nat) {line other : ArtLine}
    (h : K.Art line other) : K.rich (Layout.artCell config column line)
      (Layout.artCell { config with disableColors := b } column other) := by
  simp only [Layout.artCell, h.width]
  exact K.pushText (spaces_append h.rich _) _

theorem rich_sideBySide (config : Config) (b : Bool) (column : Nat)
    {art other : List ArtLine} (hart : List.Forall₂ K.Art art other)
    {info info' : List RichText} (hinfo : List.Forall₂ K.rich info info') :
    List.Forall₂ K.rich (Layout.sideBySide config column art info)
      (Layout.sideBySide { config with disableColors := b } column other info') := by
  induction hinfo generalizing art other with
  | nil =>
    cases hart with
    | nil => exact .nil
    | cons hline hart =>
      unfold Layout.sideBySide
      exact List.rel_map (fun _ _ h => spaces_append h.rich _) (.cons hline hart)
  | cons hr _ ih =>
    cases hart with
    | nil => exact .cons (K.append (rich_artCell config b column ⟨K.plain [], rfl⟩) hr) (ih .nil)
    | cons hline hart => exact .cons (K.append (rich_artCell config b column hline) hr) (ih hart)

theorem map_width_eq {art other : List ArtLine} (h : List.Forall₂ K.Art art other) :
    other.map (·.width) = art.map (·.width) := by
  induction h with
  | nil => rfl
  | cons hline _ ih => rw [List.map_cons, List.map_cons, hline.width, ih]

theorem forall₂_replicate {R : α → β → Prop} (count : Nat) (h : R a b) :
    List.Forall₂ R (List.replicate count a) (List.replicate count b) := by
  induction count with
  | zero => exact .nil
  | succ count ih => exact .cons h ih

theorem rich_compose (config : Config) (b : Bool) {art other : List ArtLine}
    (hart : List.Forall₂ K.Art art other) {info info' : List RichText}
    (hinfo : List.Forall₂ K.rich info info') :
    List.Forall₂ K.rich (Layout.compose config art info)
      (Layout.compose { config with disableColors := b } other info') := by
  have hblank : K.Art {} {} := ⟨K.plain [], rfl⟩
  have hart' : List.Forall₂ K.Art (List.replicate config.logoPaddingTop ({} : ArtLine) ++ art)
      (List.replicate config.logoPaddingTop ({} : ArtLine) ++ other) :=
    List.rel_append (forall₂_replicate _ hblank) hart
  have hinfo' : List.Forall₂ K.rich
      (List.replicate config.layoutPaddingTop (RichText.plain []) ++ info)
      (List.replicate config.layoutPaddingTop (RichText.plain []) ++ info') :=
    List.rel_append (forall₂_replicate _ (K.plain [])) hinfo
  have hrich := List.rel_map (fun _ _ h => Art.rich h) hart'
  have hcolumn : Layout.infoColumn { config with disableColors := b }
      (List.replicate config.logoPaddingTop ({} : ArtLine) ++ other) =
        Layout.infoColumn config (List.replicate config.logoPaddingTop ({} : ArtLine) ++ art) := by
    rw [Layout.infoColumn, Layout.infoColumn, Layout.widest, map_width_eq hart']
    rfl
  have hleft := rich_sideBySide config b (Layout.infoColumn config
    (List.replicate config.logoPaddingTop ({} : ArtLine) ++ art)) hart' hinfo'
  unfold Layout.compose
  dsimp only
  rw [hcolumn]
  split
  · exact List.rel_append hrich hinfo'
  · exact List.rel_append hinfo' hrich
  · exact hleft

/-- Two renders of one art go side by side. -/
theorem simulates_renderLines (art : String) :
    K.Simulates (σ := σ) (List.Forall₂ K.rich) (renderLines art) (renderLines art) := by
  refine Eval.Simulates.get.bind fun c d h => ?_
  rw [h.config]
  generalize c.config = config, d.config.disableColors = b
  -- What is done with the art does not depend on where it comes from.
  have hplace (lines others : List ArtLine) (hlines : List.Forall₂ K.Art lines others) :
      K.Simulates (σ := σ) (List.Forall₂ K.rich)
        (if config.printLogoOnly then
          return List.replicate config.logoPaddingTop (RichText.plain []) ++ lines.map (·.rich)
        else return Layout.compose config lines (← parseLayout))
        (if config.printLogoOnly then
          return List.replicate config.logoPaddingTop (RichText.plain []) ++ others.map (·.rich)
        else return Layout.compose { config with disableColors := b } others (← parseLayout)) := by
    split
    · refine .pure (List.rel_append (forall₂_replicate _ (K.plain [])) ?_)
      exact List.rel_map (fun _ _ h => h.rich) hlines
    · exact simulates_parseLayout.bind fun _ _ hinfo => .pure (rich_compose _ b hlines hinfo)
  dsimp only
  split
  · exact (Eval.Simulates.pure .nil).bind hplace
  · exact (simulates_parseArt art).bind hplace

end TemplateCoupling

end Placard
