import Placard.Proofs.Invariant
import Placard.Proofs.TemplateCoupling

/-! # Open styles set aside

A template inside another one starts without open styles, and those around it are back at its end.
So nothing that an info tag does depends on the styles that are open, but for the numbers that its
own openings get. No text shows these numbers or their ids: two runs whose numbers are apart by the
same distance all along do the same (`TemplateCoupling.renumbered`). Hence info tags and percentages
leave the open styles as they were, with success and without, and do the same under any other ones
(`ignoresStyles_of_simulates`). -/

namespace Placard

variable {σ : Type}

/-! ## Numbers that are apart -/

/-- The two numbers are as far apart as `n` and `m`. -/
def Apart (n m number other : Nat) : Prop := number + m = other + n

variable {n m : Nat}

theorem Apart.succ (h : Apart n m a b) : Apart n m (a + 1) (b + 1) := by
  unfold Apart at h ⊢
  omega

/-- The ids of openings with such numbers. -/
def IdsApart (n m id other : Nat) : Prop :=
  ∃ number number', Apart n m number number' ∧ id = number % OpenStyle.idLimit ∧
    other = number' % OpenStyle.idLimit

/-- Ids come again on both sides after as many openings. -/
theorem IdsApart.eq_iff (h : IdsApart n m a a') (h' : IdsApart n m b b') : a = b ↔ a' = b' := by
  obtain ⟨first, first', hfirst, rfl, rfl⟩ := h
  obtain ⟨second, second', hsecond, rfl, rfl⟩ := h'
  unfold Apart at hfirst hsecond
  unfold OpenStyle.idLimit
  omega

/-- The same span, numbered apart. -/
def OpenStyle.Renumbered (n m : Nat) (style other : OpenStyle) : Prop :=
  other.span = style.span ∧ Apart n m style.number other.number

theorem OpenStyle.Renumbered.id {style other : OpenStyle} (h : Renumbered n m style other) :
    IdsApart n m style.id other.id := ⟨_, _, h.2, rfl, rfl⟩

/-- The same open styles, numbered apart. -/
structure OpenStyles.Renumbered (n m : Nat) (styles other : OpenStyles) : Prop where
  active : List.Forall₂ (OpenStyle.Renumbered n m) styles.active other.active
  count : Apart n m styles.count other.count

namespace OpenStyles.Renumbered

variable {styles other : OpenStyles}

theorem cleared (h : Renumbered n m styles other) :
    Renumbered n m styles.cleared other.cleared := ⟨.nil, h.count⟩

theorem opened (h : Renumbered n m styles other) (span : Span) :
    Renumbered n m (styles.opened span) (other.opened span) :=
  ⟨List.rel_append h.active (.cons ⟨rfl, h.count⟩ .nil), h.count.succ⟩

theorem after (h : Renumbered n m styles other) (action : ColorToken.Action) :
    Renumbered n m (styles.after action) (other.after action) := by
  unfold OpenStyles.after
  split
  · exact h.cleared.opened _
  · exact h.cleared
  · rename_i spans
    induction spans generalizing styles other with
    | nil => exact h
    | cons span spans ih => exact ih (h.opened span)

end OpenStyles.Renumbered

namespace Template

/-- The same places where styles began, numbered apart. -/
def StartsRenumbered (n m : Nat) (starts other : List (Nat × Nat)) : Prop :=
  List.Forall₂ (fun start start' => start'.2 = start.2 ∧ IdsApart n m start.1 start'.1) starts other

namespace StartsRenumbered

theorem lookup_eq {id id' : Nat} (h : StartsRenumbered n m starts other)
    (hid : IdsApart n m id id') : other.lookup id' = starts.lookup id := by
  induction h with
  | nil => rfl
  | @cons start start' _ _ hstart _ ih =>
    obtain ⟨first, offset⟩ := start
    obtain ⟨first', offset'⟩ := start'
    obtain ⟨rfl, hfirst⟩ := hstart
    have hiff := hid.eq_iff hfirst
    rw [List.lookup_cons, List.lookup_cons, ih]
    by_cases heq : id = first
    · simp [heq, hiff.mp heq]
    · rw [beq_false_of_ne heq, beq_false_of_ne (mt hiff.mpr heq)]

theorem any_eq {id id' : Nat} (h : StartsRenumbered n m starts other)
    (hid : IdsApart n m id id') : other.any (·.1 = id') = starts.any (·.1 = id) := by
  induction h with
  | nil => rfl
  | cons hstart _ ih =>
    rw [List.any_cons, List.any_cons, ih, decide_eq_decide.mpr (hstart.2.eq_iff hid).symm]

theorem addStarts (h : StartsRenumbered n m known known')
    (hnew : StartsRenumbered n m new new') :
    StartsRenumbered n m (addStarts known new) (addStarts known' new') := by
  unfold Template.addStarts
  induction hnew generalizing known known' with
  | nil => exact h
  | cons hstart _ ih =>
    refine ih ?_
    dsimp only
    rw [h.any_eq hstart.2]
    split
    · exact h
    · exact List.rel_append h (.cons hstart .nil)

theorem shifted (h : StartsRenumbered n m starts other) (offset : Nat) :
    StartsRenumbered n m (starts.map fun (id, start) => (id, offset + start))
      (other.map fun (id, start) => (id, offset + start)) :=
  List.rel_map (fun _ _ hstart => ⟨congrArg (offset + ·) hstart.1, hstart.2⟩) h

end StartsRenumbered

/-- The same text, in which the same open styles began, numbered apart. -/
structure Piece.Renumbered (n m : Nat) (piece other : Piece) : Prop where
  text : other.text = piece.text
  starts : StartsRenumbered n m piece.starts other.starts

namespace Piece.Renumbered

variable {piece other added added' : Piece} {styles styles' : List OpenStyle}

theorem stretchAll (h : Renumbered n m piece other)
    (hstyles : List.Forall₂ (OpenStyle.Renumbered n m) styles styles') (offset : Nat) :
    Renumbered n m (piece.stretchAll offset styles) (other.stretchAll offset styles') := by
  unfold Piece.stretchAll
  induction hstyles generalizing piece other with
  | nil => exact h
  | cons hstyle _ ih =>
    have hid := hstyle.id
    refine ih ⟨?_, h.starts.addStarts (.cons ⟨rfl, hid⟩ .nil)⟩
    simp only [Piece.stretch, h.text, hstyle.1, h.starts.lookup_eq hid]

theorem add (h : Renumbered n m piece other)
    (hstyles : List.Forall₂ (OpenStyle.Renumbered n m) styles styles') (text : List Char) :
    Renumbered n m (piece.add styles text) (other.add styles' text) := by
  unfold Piece.add
  rw [h.text]
  have hpushed : Renumbered n m { piece with text := piece.text.pushText text }
      { other with text := piece.text.pushText text } := ⟨rfl, h.starts⟩
  exact hpushed.stretchAll hstyles _

theorem addPiece (h : Renumbered n m piece other) (hadded : Renumbered n m added added')
    (hstyles : List.Forall₂ (OpenStyle.Renumbered n m) styles styles') :
    Renumbered n m (piece.addPiece styles added) (other.addPiece styles' added') := by
  unfold Piece.addPiece
  dsimp only
  rw [h.text, hadded.text]
  have hstarts := h.starts.addStarts (hadded.starts.shifted piece.text.length)
  have hpushed : Renumbered n m
      ⟨piece.text.pushText added.text.text, Template.addStarts piece.starts
        (added.starts.map fun (id, start) => (id, piece.text.length + start))⟩
      ⟨piece.text.pushText added.text.text, Template.addStarts other.starts
        (added'.starts.map fun (id, start) => (id, piece.text.length + start))⟩ := ⟨rfl, hstarts⟩
  obtain ⟨htext, hstarts⟩ := hpushed.stretchAll hstyles piece.text.length
  exact ⟨congrArg (·.layer piece.text.length added.text) htext, hstarts⟩

end Piece.Renumbered

end Template

/-! ## States with different open styles -/

/-- States that differ in nothing but the open styles. -/
def Coupling.stylesApart (R : OpenStyles → OpenStyles → Prop) : Coupling where
  demand := .all
  tint a b := b = { a with styles := b.styles } ∧ R a.styles b.styles
  reported := Eq
  resetApplied := Eq
  resetApplied_self _ := rfl
  rich := Eq
  pushText := by
    rintro r _ rfl text
    rfl

namespace Coupling

variable {R : OpenStyles → OpenStyles → Prop} {c d : Context σ}

theorem eq_of_cache_related {cache other : Info.Cache} (h : cache.Related Eq other) :
    other = cache := by
  obtain ⟨entries⟩ := cache
  obtain ⟨others⟩ := other
  have heq : List.Forall₂ Eq entries others :=
    h.imp fun _ _ hentry => Prod.ext hentry.1 (Info.eq_of_related hentry.2)
  rw [List.forall₂_eq_eq_eq] at heq
  rw [heq]

theorem cache_related_self (cache : Info.Cache) : cache.Related Eq cache := by
  refine List.forall₂_same.mpr fun entry _ => ⟨rfl, ?_⟩
  cases entry.2 with
  | text s => exact .text s
  | rich r => exact .rich rfl
  | count k => exact .count k
  | real x => exact .real x

/-- Such states share all but the open styles. -/
theorem stylesApart_iff :
    (stylesApart R).State c d ↔ d = { c with styles := d.styles } ∧ R c.styles d.styles := by
  constructor
  · intro h
    obtain ⟨htint, hR⟩ := h.tint
    have hdisabled : d.config.disableColors = c.config.disableColors := congrArg (·.disabled) htint
    have hconfig : d.config = c.config := by rw [h.config, hdisabled]
    have hprovider := h.provider
    have hcache := eq_of_cache_related h.cache
    have hcolors : d.autoColors = c.autoColors := congrArg (·.autoColors) htint
    have hparsing := h.parsingLayout
    have happlied : c.sepResetApplied = d.sepResetApplied := h.sepResetApplied
    have hseen : d.firstColorSeen = c.firstColorSeen := congrArg (·.firstColorSeen) htint
    have hspliced : c.spliced = d.spliced := List.forall₂_eq_eq_eq ▸ h.spliced
    have hdiagnostics : c.diagnostics = d.diagnostics := h.diagnostics
    refine ⟨?_, hR⟩
    calc d = ⟨d.config, d.provider, d.cache, d.styles, d.autoColors, d.parsingLayout,
          d.sepResetApplied, d.firstColorSeen, d.spliced, d.diagnostics⟩ := rfl
      _ = { c with styles := d.styles } := by
        rw [hconfig, hprovider, hcache, hcolors, hparsing, happlied, hseen, hspliced, hdiagnostics]
  · rintro ⟨heq, hR⟩
    generalize d.styles = styles at heq hR
    subst heq
    exact
      { config := rfl, provider := rfl, cache := cache_related_self c.cache, tint := ⟨rfl, hR⟩,
        parsingLayout := rfl, sepResetApplied := rfl, spliced := List.forall₂_same.mpr fun _ _ => rfl,
        diagnostics := rfl }

theorem stylesApart_plain (R : OpenStyles → OpenStyles → Prop) (text : List Char) :
    (stylesApart R).rich (.plain text) (.plain text) := rfl

/-- Color tags do the same on both sides if what they do to the open styles is the same. -/
theorem stylesApart_applyColor
    (hafter : ∀ {styles other}, R styles other → ∀ action, R (styles.after action) (other.after action))
    (token : String) :
    (stylesApart R).Simulates (σ := σ) Eq (Template.applyColor token) (Template.applyColor token) := by
  intro c d h
  obtain ⟨heq, hR⟩ := stylesApart_iff.mp h
  generalize d.styles = styles at heq hR
  subst heq
  rw [Template.outcome_applyColor, Template.outcome_applyColor]
  split
  · exact .ok rfl (stylesApart_iff.mpr ⟨rfl, hR⟩)
  rcases ColorToken.resolve c.config token c.autoColors with ⟨failure | _ | resolved, colors⟩
  · exact .error (stylesApart_iff.mpr ⟨rfl, hR⟩)
  · exact .ok rfl (stylesApart_iff.mpr ⟨rfl, hR⟩)
  · exact .ok rfl (stylesApart_iff.mpr ⟨rfl, hafter hR resolved.action⟩)

end Coupling

theorem Tint.laid_renumbered {a b : Tint} (h : b = { a with styles := b.styles })
    (hstyles : a.styles.Renumbered n m b.styles) :
    List.Forall₂ (OpenStyle.Renumbered n m) a.laid b.laid := by
  have hdisabled : b.disabled = a.disabled := congrArg (·.disabled) h
  unfold Tint.laid
  rw [hdisabled]
  split
  · exact .nil
  · exact hstyles.active

/-- Templates do the same when the open styles are numbered apart. -/
def TemplateCoupling.renumbered (n m : Nat) : TemplateCoupling where
  toCoupling := .stylesApart (OpenStyles.Renumbered n m)
  piece := Template.Piece.Renumbered n m
  text_eq h := congrArg (·.text) h.symm
  plain := Coupling.stylesApart_plain _
  append := by
    rintro r _ r' _ rfl rfl
    rfl
  ofRich h := ⟨h.symm, .nil⟩
  toRich h := h.text.symm
  add h hp text := hp.add (Tint.laid_renumbered h.1 h.2) text
  addPiece h hp hq := hp.addPiece hq (Tint.laid_renumbered h.1 h.2)
  cleared := by
    rintro a b ⟨h, hstyles⟩
    rw [h]
    exact ⟨rfl, hstyles.cleared⟩
  restored := by
    rintro a b a' b' ⟨-, hstyles⟩ ⟨h', hstyles'⟩
    rw [h']
    exact ⟨rfl, hstyles.active, hstyles'.count⟩
  report := by
    rintro l _ diagnostic rfl -
    rfl
  applyColor := Coupling.stylesApart_applyColor fun h => h.after

/-! ## Info tags under any open styles -/

/-- On each side there are open styles of its own, and the numbers are apart. -/
def Around (outer other : List OpenStyle) (n m : Nat) (styles styles' : OpenStyles) : Prop :=
  styles.active = outer ∧ styles'.active = other ∧ Apart n m styles.count styles'.count

/-- A template inside another one does the same under any open styles, and leaves them alone. -/
theorem simulates_evalNested_around [Provider σ] (outer other : List OpenStyle) (n m depth : Nat)
    (template : List Char) : (Coupling.stylesApart (Around outer other n m)).Simulates (σ := σ) Eq
      (Template.evalNested depth template) (Template.evalNested depth template) := by
  cases depth with
  | zero => exact .throw .tooDeep
  | succ depth =>
    refine Eval.Simulates.withoutStyles_of_inner
      (S := (TemplateCoupling.renumbered n m).State) (fun c d h => ?_) (fun c d c' d' h h' => ?_) ?_
    · obtain ⟨heq, -, -, hnext⟩ := Coupling.stylesApart_iff.mp h
      rw [heq]
      exact Coupling.stylesApart_iff.mpr ⟨rfl, .nil, hnext⟩
    · obtain ⟨-, houter, hother, -⟩ := Coupling.stylesApart_iff.mp h
      obtain ⟨heq, -, hnext⟩ := Coupling.stylesApart_iff.mp h'
      rw [heq]
      exact Coupling.stylesApart_iff.mpr ⟨rfl, houter, hother, hnext⟩
    · have hwhole := TemplateCoupling.simulates_evalWhole
        ((TemplateCoupling.renumbered n m).simulates_evalNested (σ := σ) depth) template
      exact hwhole.bind fun _ _ hp => .pure hp.1

namespace Eval

/-- The computation leaves the open styles as they were, whether it succeeds or not. Under any other
ones it gives the same, and does the same to the rest of the state. -/
def IgnoresStyles (x : Eval σ α) : Prop :=
  ∀ (c : Context σ) (styles : OpenStyles), (x.outcome c).2.styles.active = c.styles.active ∧
    ∃ after : OpenStyles, after.active = styles.active ∧
      x.outcome { c with styles } = ((x.outcome c).1, { (x.outcome c).2 with styles := after })

theorem ignoresStyles_of_simulates {x : Eval σ α} {V : α → α → Prop}
    (h : ∀ outer other n m, (Coupling.stylesApart (Around outer other n m)).Simulates V x x)
    (hV : ∀ a b, V a b → a = b) : IgnoresStyles x := by
  intro c styles
  have hstart : (Coupling.stylesApart
      (Around c.styles.active styles.active c.styles.count styles.count)).State c
        { c with styles } :=
    Coupling.stylesApart_iff.mpr ⟨rfl, rfl, rfl, Nat.add_comm ..⟩
  have hf := h _ _ _ _ _ _ hstart
  generalize x.outcome c = p, x.outcome { c with styles } = q at hf
  cases hf with
  | ok hab hstate =>
    obtain ⟨heq, houter, hother, -⟩ := Coupling.stylesApart_iff.mp hstate
    obtain rfl := hV _ _ hab
    exact ⟨houter, _, hother, congrArg (Prod.mk _) heq⟩
  | error hstate =>
    obtain ⟨heq, houter, hother, -⟩ := Coupling.stylesApart_iff.mp hstate
    exact ⟨houter, _, hother, congrArg (Prod.mk _) heq⟩
  | free _ hd => exact absurd rfl hd
  | lost _ hd => cases hd

end Eval

/-- What info tags and percentages do has nothing to do with the styles around them. -/
theorem ignoresStyles_resolve_and_coloredPercentage [Provider σ] (depth : Nat) :
    (∀ spec, (Info.resolve (Template.evalNested (σ := σ) depth) spec).IgnoresStyles) ∧
      ∀ percent inverted,
        (Info.coloredPercentage (Template.evalNested (σ := σ) depth) percent inverted).IgnoresStyles := by
  have hn (outer other : List OpenStyle) (n m : Nat) :
      (Coupling.stylesApart (Around outer other n m)).Nested (σ := σ) (Template.evalNested depth)
        (Template.evalNested depth) := simulates_evalNested_around outer other n m depth
  constructor
  · intro spec
    exact Eval.ignoresStyles_of_simulates
      (fun outer other n m => Coupling.simulates_resolve (hn outer other n m) spec)
      fun _ _ => Info.eq_of_related
  · intro percent inverted
    exact Eval.ignoresStyles_of_simulates
      (fun outer other n m =>
        Coupling.simulates_coloredPercentage (hn outer other n m) percent inverted)
      fun _ _ => id

end Placard
