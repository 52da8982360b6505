import Placard.Proofs.ColorTag
import Placard.Proofs.Draft
import Placard.Proofs.Simulation
import Placard.Template.Evaluate

/-! # Templates side by side

`Comparable` lists what two evaluations of templates need to go side by side: what the states and
the texts under construction have to keep, and that the tags do the same. Then trees that are built
alike stand for related texts (`simulates_evalBody`, `simulates_evalTag`). A `Shape` says what such
trees may be made of, and if the second one may hold color resets that the first one lacks. -/

namespace Placard

variable {σ : Type}

/-- The styles that a state lays over new text. -/
def Context.laid (c : Context σ) : List OpenStyle :=
  if c.config.disableColors then [] else c.styles.active

namespace Template

/-! ## Trees that are built alike -/

/-- What a body can say: its own characters, and anything for a tag. -/
inductive MaySay : Body → List Char → Prop
  | done : MaySay (.done ending) []
  | char : MaySay rest text → MaySay (.char c rest) (c :: text)
  | escaped : MaySay rest text → MaySay (.escaped c rest) (c :: text)
  | backslash : MaySay rest text → MaySay (.backslash rest) ('\\' :: text)
  | tag (said) : MaySay rest text → MaySay (.tag tag length rest) (said ++ text)

/-- What trees may be made of, and how the second one may differ. -/
structure Shape where
  /-- What info tags may ask for. -/
  asks : List Char → Prop := fun _ => True
  /-- There may be percentage tags. -/
  percentages : Prop := True
  /-- The second tree may hold color resets that the first one lacks. -/
  resets : Prop := False

/-- The tag that closes all styles. -/
def Tag.reset : Tag := .color (.char '0' (.done .closed))

variable {shape : Shape}

mutual

inductive BodyAlike (shape : Shape) : Body → Body → Prop
  | done (ending) : BodyAlike shape (.done ending) (.done ending)
  | char (c) : BodyAlike shape rest rest' → BodyAlike shape (.char c rest) (.char c rest')
  | escaped (c) : BodyAlike shape rest rest' → BodyAlike shape (.escaped c rest) (.escaped c rest')
  | backslash : BodyAlike shape rest rest' → BodyAlike shape (.backslash rest) (.backslash rest')
  | tag : TagAlike shape tag tag' → (¬ shape.resets → length' = length) →
      BodyAlike shape rest rest' → BodyAlike shape (.tag tag length rest) (.tag tag' length' rest')
  | reset (length) : shape.resets → BodyAlike shape body rest' →
      BodyAlike shape body (.tag .reset length rest')

inductive TagAlike (shape : Shape) : Tag → Tag → Prop
  | info : BodyAlike shape name name' → (∀ spec, MaySay name spec → shape.asks spec) →
      TagAlike shape (.info name) (.info name')
  | color : BodyAlike shape token token' → TagAlike shape (.color token) (.color token')
  | percentage : shape.percentages → BodyAlike shape numerator numerator' →
      BodyAlike shape denominator denominator' →
      TagAlike shape (.percentage numerator denominator) (.percentage numerator' denominator')
  | conditional : BodyAlike shape left left' → BodyAlike shape right right' →
      BodyAlike shape whenEqual whenEqual' → BodyAlike shape whenDifferent whenDifferent' →
      TagAlike shape (.conditional left right whenEqual whenDifferent)
        (.conditional left' right' whenEqual' whenDifferent')

end

theorem BodyAlike.isClosed_eq : BodyAlike shape body body' → body'.isClosed = body.isClosed
  | .done _ => rfl
  | .char _ h | .escaped _ h | .backslash h | .tag _ _ h | .reset _ _ h => h.isClosed_eq

mutual

/-- Without restrictions a tree is like itself. -/
theorem BodyAlike.refl (hasks : ∀ spec, shape.asks spec) (hpercent : shape.percentages) :
    ∀ body : Body, BodyAlike shape body body
  | .done ending => .done ending
  | .char c rest => .char c (.refl hasks hpercent rest)
  | .escaped c rest => .escaped c (.refl hasks hpercent rest)
  | .backslash rest => .backslash (.refl hasks hpercent rest)
  | .tag tag _ rest => .tag (.refl hasks hpercent tag) (fun _ => rfl) (.refl hasks hpercent rest)

theorem TagAlike.refl (hasks : ∀ spec, shape.asks spec) (hpercent : shape.percentages) :
    ∀ tag : Tag, TagAlike shape tag tag
  | .info name => .info (.refl hasks hpercent name) fun spec _ => hasks spec
  | .color token => .color (.refl hasks hpercent token)
  | .percentage numerator denominator =>
    .percentage hpercent (.refl hasks hpercent numerator) (.refl hasks hpercent denominator)
  | .conditional left right whenEqual whenDifferent =>
    .conditional (.refl hasks hpercent left) (.refl hasks hpercent right)
      (.refl hasks hpercent whenEqual) (.refl hasks hpercent whenDifferent)

end

/-- Trees of the first shape are of the second one, too. -/
structure Shape.Le (shape shape' : Shape) : Prop where
  asks : shape.asks spec → shape'.asks spec
  percentages : shape.percentages → shape'.percentages
  resets : shape'.resets ↔ shape.resets

mutual

theorem BodyAlike.mono (hle : shape.Le shape') :
    BodyAlike shape body body' → BodyAlike shape' body body'
  | .done ending => .done ending
  | .char c h => .char c (h.mono hle)
  | .escaped c h => .escaped c (h.mono hle)
  | .backslash h => .backslash (h.mono hle)
  | .tag ht hlength h => .tag (ht.mono hle) (fun hno => hlength (hle.resets.not.mp hno)) (h.mono hle)
  | .reset length hresets h => .reset length (hle.resets.mpr hresets) (h.mono hle)

theorem TagAlike.mono (hle : shape.Le shape') : TagAlike shape tag tag' → TagAlike shape' tag tag'
  | .info h hasks => .info (h.mono hle) fun spec hsaid => hle.asks (hasks spec hsaid)
  | .color h => .color (h.mono hle)
  | .percentage hp h₁ h₂ => .percentage (hle.percentages hp) (h₁.mono hle) (h₂.mono hle)
  | .conditional h₁ h₂ h₃ h₄ => .conditional (h₁.mono hle) (h₂.mono hle) (h₃.mono hle) (h₄.mono hle)

end

variable [Provider σ]

theorem maySay_of_evalBody {nested : Info.Nested σ} {name : String} {evaluate : Bool} :
    ∀ (body : Body) {draft result : Draft} {c d : Context σ},
    (evalBody nested name evaluate draft body).Yields c result d →
    ∃ text, MaySay body text ∧ result.text.text = draft.text.text ++ text
  | .done ending, draft, result, _, _, h => by
    refine ⟨[], .done, ?_⟩
    rw [List.append_nil]
    cases ending with
    | unclosed =>
      simp only [evalBody, Eval.yields_bind, Eval.yields_pure] at h
      obtain ⟨_, _, -, rfl, -⟩ := h
      rfl
    | closed | interrupted =>
      obtain ⟨rfl, -⟩ := Eval.yields_pure.mp h
      rfl
  | .char _ rest, draft, result, _, _, h => by
    simp only [evalBody, Eval.yields_bind] at h
    obtain ⟨_, _, -, h⟩ := h
    obtain ⟨text, hsaid, htext⟩ := maySay_of_evalBody rest h
    refine ⟨_, .char hsaid, htext.trans ?_⟩
    simp only [Draft.edited, Piece.text_add, List.append_assoc, List.singleton_append]
  | .escaped _ rest, draft, result, _, _, h => by
    simp only [evalBody, Eval.yields_bind] at h
    obtain ⟨_, _, -, h⟩ := h
    obtain ⟨text, hsaid, htext⟩ := maySay_of_evalBody rest h
    refine ⟨_, .escaped hsaid, htext.trans ?_⟩
    simp only [Draft.edited, Piece.text_add, List.append_assoc, List.singleton_append]
  | .backslash rest, draft, result, _, _, h => by
    simp only [evalBody, Eval.yields_bind] at h
    obtain ⟨_, _, -, h⟩ := h
    obtain ⟨text, hsaid, htext⟩ := maySay_of_evalBody rest h
    refine ⟨_, .backslash hsaid, htext.trans ?_⟩
    simp only [Draft.edited, Piece.text_add, List.append_assoc, List.singleton_append]
  | .tag tag length rest, draft, result, _, _, h => by
    simp only [evalBody, Eval.yields_bind] at h
    obtain ⟨added, _, -, _, _, -, h⟩ := h
    obtain ⟨text, hsaid, htext⟩ := maySay_of_evalBody rest h
    refine ⟨_, .tag added.text.text hsaid, htext.trans ?_⟩
    simp only [Draft.edited, Piece.text_addPiece, List.append_assoc]

/-! ## Two evaluations -/

/-- What two evaluations need to go side by side. `rich` and `piece` say which texts count as the
same, finished and under construction. -/
structure Comparable [Provider σ] (shape : Shape) (demand : Eval.Demand)
    (R : Context σ → Context σ → Prop) (rich : RichText → RichText → Prop)
    (piece : Piece → Piece → Prop) (nested nested' : Info.Nested σ) : Prop where
  text_eq : rich r s → s.text = r.text
  plain (text : List Char) : rich (.plain text) (.plain text)
  ofRich : rich r s → piece { text := r } { text := s }
  toRich : piece p q → rich p.text q.text
  add : R c d → piece p q → ∀ text, piece (p.add c.laid text) (q.add d.laid text)
  addPiece : R c d → piece p q → piece p' q' → piece (p.addPiece c.laid p') (q.addPiece d.laid q')
  report : diagnostic.isUnknownColor = false → R c d → R (c.report diagnostic) (d.report diagnostic)
  applyColor (token : String) : Eval.Simulates demand R Eq (applyColor token) (applyColor token)
  resolve : shape.asks spec → Eval.Simulates demand R (fun v w => rich v.toRich w.toRich)
    (Info.resolve nested spec) (Info.resolve nested' spec)
  coloredPercentage : shape.percentages → ∀ percent inverted, Eval.Simulates demand R rich
    (Info.coloredPercentage nested percent inverted)
    (Info.coloredPercentage nested' percent inverted)
  reset : shape.resets → Eval.Simulates demand R (fun _ _ => True) (pure ())
    (Template.applyColor "0")
  addReset : shape.resets → R c d → piece p q → piece p (q.addPiece d.laid {})

section

variable {demand : Eval.Demand} {R : Context σ → Context σ → Prop}
  {rich : RichText → RichText → Prop} {piece : Piece → Piece → Prop}
  {nested nested' : Info.Nested σ}

/-- The texts are related; without further resets the same edits lead to them. -/
structure Comparable.Drafts (shape : Shape) (piece : Piece → Piece → Prop) (draft other : Draft) :
    Prop where
  piece : piece draft.toPiece other.toPiece
  edits : ¬ shape.resets → other.edits = draft.edits

/-- Tags that are cut off in these templates may be reported. -/
def SameReports (R : Context σ → Context σ → Prop) (name name' : String) : Prop :=
  ∀ delimiter {c d}, R c d →
    R (c.report (.unclosedTag delimiter name)) (d.report (.unclosedTag delimiter name'))

variable (hC : Comparable shape demand R rich piece nested nested')

namespace Comparable

include hC

theorem drafts_empty : Drafts shape piece {} {} := ⟨hC.ofRich (hC.plain []), fun _ => rfl⟩

theorem text_eq_of_piece {p q : Piece} (h : piece p q) : q.text.text = p.text.text :=
  hC.text_eq (hC.toRich h)

theorem simulates_report (h : diagnostic.isUnknownColor = false) :
    Eval.Simulates demand R Eq (Eval.report diagnostic) (Eval.report diagnostic) :=
  .modify fun _ _ => hC.report h

omit [Provider σ] hC in
theorem simulates_openStyles : Eval.Simulates demand R
    (fun laid laid' => ∃ c d, R c d ∧ laid = c.laid ∧ laid' = d.laid) openStyles openStyles :=
  Eval.Simulates.get.bind fun c d h => .pure ⟨c, d, h, rfl, rfl⟩

theorem sameReports (name : String) : SameReports R name name := fun _ _ _ => hC.report rfl

/-- New text is laid under the open styles of each side. -/
theorem simulates_add {draft other : Draft} (hd : Drafts shape piece draft other)
    (text : List Char) (edit : Edit) {f g : Draft → Eval σ Draft}
    (hf : ∀ {draft other}, Drafts shape piece draft other →
      Eval.Simulates demand R (Drafts shape piece) (f draft) (g other)) :
    Eval.Simulates demand R (Drafts shape piece)
      (do f (draft.edited (draft.add (← openStyles) text) edit))
      (do g (other.edited (other.add (← openStyles) text) edit)) := by
  refine simulates_openStyles.bind fun _ _ ⟨c, d, hR, hc, hd'⟩ => ?_
  subst hc hd'
  exact hf ⟨hC.add hR hd.piece text, fun hresets => congrArg (edit :: ·) (hd.edits hresets)⟩

theorem simulates_percentage (hpercent : shape.percentages) (numerator denominator : List Char) :
    Eval.Simulates demand R rich (percentage nested numerator denominator)
      (percentage nested' numerator denominator) := by
  unfold percentage
  dsimp only
  split
  · exact hC.coloredPercentage hpercent _ _
  · exact (hC.simulates_report rfl).bind_eq fun _ => .pure (hC.plain [])
  · exact (hC.simulates_report rfl).bind_eq fun _ => .pure (hC.plain [])

omit hC in
/-- A reset is no part of the text, and what it does does not depend on the open styles. -/
theorem evalTag_reset (nested : Info.Nested σ) (name : String) (evaluate : Bool) :
    evalTag nested name evaluate .reset = do
      if evaluate then Template.applyColor "0"
      return {} := by
  have htoken (c : Context σ) : ∃ draft : Draft, draft.text.toString = "0" ∧
      (evalBody nested name evaluate {} (.char '0' (.done .closed))).outcome c = (.ok draft, c) :=
    ⟨_, congrArg String.ofList (Piece.text_add {} c.laid ['0']), rfl⟩
  funext c
  obtain ⟨draft, htext, hbody⟩ := htoken c
  change (evalTag nested name evaluate .reset).outcome c = _
  unfold Tag.reset evalTag
  rw [Eval.outcome_bind, hbody]
  simp only [htext]
  rfl

/-- A further reset on the second side. -/
theorem simulates_reset (hresets : shape.resets) (name' : String) (evaluate : Bool) :
    Eval.Simulates demand R (fun _ q => q = ({} : Piece)) (pure () : Eval σ Unit)
      (evalTag nested' name' evaluate .reset) := by
  rw [evalTag_reset]
  cases evaluate with
  | false => exact .pure rfl
  | true =>
    have h := (hC.reset hresets).bind (W := fun _ q => q = ({} : Piece))
      (f := fun _ => pure ()) (g := fun _ => pure {}) fun _ _ _ => .pure rfl
    rwa [pure_bind] at h

variable {name name' : String}

mutual

theorem simulates_evalBody (hname : SameReports R name name') (evaluate : Bool) :
    BodyAlike shape body body' →
    ∀ {draft other : Draft}, Drafts shape piece draft other →
    Eval.Simulates demand R (Drafts shape piece) (evalBody nested name evaluate draft body)
      (evalBody nested' name' evaluate other body')
  | .done ending, _, _, hd => by
    unfold evalBody
    cases ending with
    | unclosed delimiter => exact (Eval.Simulates.modify fun _ _ => hname _).bind_eq fun _ => .pure hd
    | closed | interrupted => exact .pure hd
  | .char _ h, _, _, hd => by
    unfold evalBody
    exact hC.simulates_add hd _ _ fun hd => simulates_evalBody hname evaluate h hd
  | .escaped _ h, _, _, hd => by
    unfold evalBody
    exact hC.simulates_add hd _ _ fun hd => simulates_evalBody hname evaluate h hd
  | .backslash h, _, _, hd => by
    unfold evalBody
    exact hC.simulates_add hd _ _ fun hd => simulates_evalBody hname evaluate h hd
  | .tag ht hlength h, _, _, hd => by
    unfold evalBody
    refine (simulates_evalTag hname evaluate ht).bind fun added added' hadded => ?_
    refine simulates_openStyles.bind fun _ _ ⟨_, _, hR, hc, hd'⟩ => ?_
    subst hc hd'
    refine simulates_evalBody hname evaluate h ⟨hC.addPiece hR hd.piece hadded, fun hresets => ?_⟩
    have htext := hC.text_eq_of_piece hadded
    simp only [Draft.edited, htext, hlength hresets, hd.edits hresets]
  | .reset length hresets h, draft, other, hd => by
    rw [evalBody.eq_def nested' name' evaluate _ (.tag ..)]
    rw [← pure_bind () fun _ => evalBody nested name evaluate draft _]
    refine (hC.simulates_reset hresets name' evaluate).bind fun _ added hadded => ?_
    subst hadded
    rw [← pure_bind () fun _ => evalBody nested name evaluate draft _]
    refine Eval.Simulates.bind (V := fun _ laid => ∃ c d, R c d ∧ laid = d.laid) ?_ ?_
    · exact fun c d hR => .ok ⟨c, d, hR, rfl⟩ hR
    rintro _ _ ⟨c, d, hR, rfl⟩
    exact simulates_evalBody hname evaluate h ⟨hC.addReset hresets hR hd.piece, absurd hresets⟩

theorem simulates_evalTag (hname : SameReports R name name') (evaluate : Bool) :
    TagAlike shape tag tag' → Eval.Simulates demand R piece (evalTag nested name evaluate tag)
      (evalTag nested' name' evaluate tag')
  | .info h hasks => by
    unfold evalTag
    rw [h.isClosed_eq]
    have hspec := (simulates_evalBody hname evaluate h hC.drafts_empty).and_left fun _ hx =>
      maySay_of_evalBody _ hx
    refine hspec.bind fun draft other ⟨hd, _, hsaid, htext⟩ => ?_
    split
    · exact .pure hd.piece
    · split
      · exact .pure hC.drafts_empty.piece
      · rw [hC.text_eq_of_piece hd.piece, htext]
        exact (hC.resolve (hasks _ hsaid)).bind fun _ _ hv => .pure (hC.ofRich hv)
  | .color h => by
    unfold evalTag
    rw [h.isClosed_eq]
    refine (simulates_evalBody hname evaluate h hC.drafts_empty).bind fun draft other hd => ?_
    split
    · exact .pure hd.piece
    · split
      · have htext := hC.text_eq_of_piece hd.piece
        have htoken : other.text.toString = draft.text.toString := congrArg String.ofList htext
        rw [htoken]
        exact (hC.applyColor _).bind_eq fun _ => .pure hC.drafts_empty.piece
      · exact .pure hC.drafts_empty.piece
  | .percentage hpercent hn hd => by
    unfold evalTag
    rw [hn.isClosed_eq, hd.isClosed_eq]
    refine (simulates_evalBody hname evaluate hn hC.drafts_empty).bind fun first first' h₁ => ?_
    split
    · exact .pure h₁.piece
    refine (simulates_evalBody hname evaluate hd hC.drafts_empty).bind fun second second' h₂ => ?_
    split
    · exact .pure h₂.piece
    split
    · exact .pure hC.drafts_empty.piece
    rw [hC.text_eq_of_piece h₁.piece, hC.text_eq_of_piece h₂.piece]
    exact (hC.simulates_percentage hpercent _ _).bind fun _ _ hr => .pure (hC.ofRich hr)
  | .conditional hl hr he hd => by
    unfold evalTag
    rw [hl.isClosed_eq, hr.isClosed_eq, he.isClosed_eq, hd.isClosed_eq]
    refine (simulates_evalBody hname evaluate hl hC.drafts_empty).bind fun first first' h₁ => ?_
    split
    · exact .pure h₁.piece
    refine (simulates_evalBody hname evaluate hr hC.drafts_empty).bind fun second second' h₂ => ?_
    split
    · exact .pure h₂.piece
    rw [hC.text_eq_of_piece h₁.piece, hC.text_eq_of_piece h₂.piece]
    refine (simulates_evalBody hname _ he hC.drafts_empty).bind fun third third' h₃ => ?_
    split
    · exact .pure h₃.piece
    refine (simulates_evalBody hname _ hd hC.drafts_empty).bind fun fourth fourth' h₄ => ?_
    split
    · exact .pure h₄.piece
    split
    · exact .pure h₃.piece
    · exact .pure h₄.piece

end

end Comparable

end

end Template

end Placard
