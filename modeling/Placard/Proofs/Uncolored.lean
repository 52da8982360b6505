import Placard.Proofs.Colorless
import Placard.Proofs.Remembered
import Placard.Proofs.SeparatorReset

/-! # Renders in which no color was applied

The text of a line gets styles from the open styles, and with what is put into it: remembered values,
templates inside, spliced lines, the art. `Context.Bare` says that none of these has a style. A
computation leaves a bare state bare, and gives a bare result, unless a color was applied by its end
(`Eval.StaysBare`); it never forgets that one was. So a render that is not marked as styled has no
styles, and one that is ends all its lines in a reset (`render_styled`). -/

namespace Placard

variable {σ α β : Type}

/-- A value without styles. -/
def Info.Value.IsBare (value : Value) : Prop := value.toRich.ranges = []

theorem Info.Value.IsPlain.isBare {value : Value} (h : value.IsPlain) : value.IsBare := by
  cases value with
  | rich => exact h.elim
  | text | count | real => rfl

/-- Nothing that can get into a line has a style. -/
structure Context.Bare (c : Context σ) : Prop where
  active : c.styles.active = []
  cache : ∀ entry ∈ c.cache.entries, entry.2.IsBare
  spliced : ∀ line ∈ c.spliced, line.ranges = []

namespace Eval

/-- From a bare state the computation comes to a bare one, with a result as described if `φ` holds, or
a color was applied. -/
structure StaysBare (φ : Prop) (x : Eval σ α) (V : α → Prop) : Prop where
  colored : x.Yields c a d → c.firstColorSeen = true → d.firstColorSeen = true
  bare : φ → x.Yields c a d → c.Bare → d.firstColorSeen = true ∨ d.Bare ∧ V a

namespace StaysBare

variable {φ ψ : Prop} {V : α → Prop} {W : β → Prop} {x : Eval σ α}

theorem weaken (h : StaysBare φ x V) (hψ : ψ → φ) : StaysBare ψ x V :=
  ⟨h.colored, fun hφ => h.bare (hψ hφ)⟩

/-! ## Primitives -/

theorem pure (h : φ → V a) : StaysBare φ (pure a : Eval σ α) V where
  colored hx hc := (yields_pure.mp hx).2 ▸ hc
  bare hφ hx hc := by
    obtain ⟨rfl, rfl⟩ := yields_pure.mp hx
    exact .inr ⟨hc, h hφ⟩

theorem throw (e : Halt) : StaysBare φ (throw e : Eval σ α) V :=
  ⟨fun hx => absurd hx not_yields_throw, fun _ hx => absurd hx not_yields_throw⟩

theorem modifyGet {f : Context σ → α × Context σ}
    (hcolored : ∀ c, c.firstColorSeen = true → (f c).2.firstColorSeen = true)
    (hbare : φ → ∀ c, c.Bare → (f c).2.Bare ∧ V (f c).1) : StaysBare φ (modifyGet f) V where
  colored {c a d} hx hc := by
    obtain ⟨-, rfl⟩ := yields_modifyGet.mp hx
    exact hcolored c hc
  bare {c a d} hφ hx hc := by
    obtain ⟨rfl, rfl⟩ := yields_modifyGet.mp hx
    exact .inr (hbare hφ c hc)

theorem modify {f : Context σ → Context σ}
    (hcolored : ∀ c, c.firstColorSeen = true → (f c).firstColorSeen = true)
    (hbare : φ → ∀ c, c.Bare → (f c).Bare) :
    StaysBare φ (modify f : Eval σ PUnit) (fun _ => True) where
  colored {c u d} hx hc := by
    obtain rfl := yields_modify.mp hx
    exact hcolored c hc
  bare {c u d} hφ hx hc := by
    obtain rfl := yields_modify.mp hx
    exact .inr ⟨hbare hφ c hc, trivial⟩

theorem ask [Provider σ] (query : Query) :
    StaysBare φ (Eval.ask query : Eval σ _) (fun _ => True) :=
  modifyGet (fun _ => id) fun _ _ hc => ⟨{ hc with }, trivial⟩

theorem report (diagnostic : Diagnostic) :
    StaysBare φ (Eval.report diagnostic : Eval σ Unit) (fun _ => True) :=
  modify (fun _ => id) fun _ _ hc => { hc with }

theorem ofExcept (result : Except Failure α) :
    StaysBare φ (Eval.ofExcept result : Eval σ α) (fun _ => True) := by
  cases result with
  | ok a => exact pure fun _ => trivial
  | error failure => exact throw (.failure failure)

/-- A color tag applies a color, or it changes no style. -/
theorem applyColor (token : String) :
    StaysBare φ (Template.applyColor token : Eval σ Unit) (fun _ => True) := by
  have hcases (c d : Context σ) (u : Unit) (hx : (Template.applyColor token).Yields c u d) :
      (∃ autoColors diagnostics, d = { c with autoColors, diagnostics }) ∨
        d.firstColorSeen = true := by
    rw [Yields, Template.outcome_applyColor] at hx
    split at hx
    · cases hx
      exact .inl ⟨_, _, rfl⟩
    generalize ColorToken.resolve c.config token c.autoColors = outcome at hx
    obtain ⟨failure | _ | resolved, colors⟩ := outcome
    · cases hx
    · cases hx
      exact .inl ⟨_, _, rfl⟩
    · cases hx
      exact .inr rfl
  refine ⟨fun {c u d} hx hc => ?_, fun {c u d} _ hx hc => ?_⟩
  · obtain ⟨autoColors, diagnostics, rfl⟩ | hd := hcases c d u hx
    · exact hc
    · exact hd
  · obtain ⟨autoColors, diagnostics, rfl⟩ | hd := hcases c d u hx
    · exact .inr ⟨{ hc with }, trivial⟩
    · exact .inl hd

/-! ## Combinations -/

/-- What holds of the first result may be used for the second part. -/
theorem bind {f : α → Eval σ β} (hx : StaysBare φ x V)
    (hf : ∀ a, StaysBare (φ ∧ V a) (f a) W) : StaysBare φ (x >>= f) W where
  colored hxf hc := by
    obtain ⟨a, c', ha, hb⟩ := yields_bind.mp hxf
    exact (hf a).colored hb (hx.colored ha hc)
  bare hφ hxf hc := by
    obtain ⟨a, c', ha, hb⟩ := yields_bind.mp hxf
    obtain hc' | ⟨hc', hV⟩ := hx.bare hφ ha hc
    · exact .inl ((hf a).colored hb hc')
    · exact (hf a).bare ⟨hφ, hV⟩ hb hc'

theorem get_bind {f : Context σ → Eval σ β} (hf : ∀ c, StaysBare (φ ∧ c.Bare) (f c) W) :
    StaysBare φ (get >>= f) W := by
  refine bind (V := Context.Bare) ⟨fun hx hc => ?_, fun _ hx hc => ?_⟩ hf
  · rwa [(yields_get.mp hx).2]
  · obtain ⟨rfl, rfl⟩ := yields_get.mp hx
    exact .inr ⟨hc, hc⟩

theorem map {f : α → β} (hx : StaysBare φ x V) (hf : ∀ a, V a → W (f a)) :
    StaysBare φ (f <$> x) W := by
  rw [← bind_pure_comp]
  exact hx.bind fun a => pure fun h => hf a h.2

theorem mapM {ι : Type} {f : ι → Eval σ α} (hf : ∀ i, StaysBare True (f i) V) (is : List ι) :
    StaysBare φ (is.mapM f) (fun l => ∀ a ∈ l, V a) := by
  induction is generalizing φ with
  | nil => exact pure fun _ => nofun
  | cons i is ih =>
    rw [List.mapM_cons]
    refine ((hf i).weaken fun _ => trivial).bind fun a => ih.bind fun l => pure ?_
    rintro ⟨⟨-, ha⟩, hl⟩
    exact List.forall_mem_cons.mpr ⟨ha, hl⟩

theorem withoutStyles (hx : StaysBare φ x V) : StaysBare φ (Eval.withoutStyles x) V := by
  refine ⟨fun {c a d} h hc => ?_, fun {c a d} hφ h hc => ?_⟩
  · obtain ⟨d', hd', rfl⟩ := yields_withoutStyles.mp h
    have hcolored : d'.firstColorSeen = true := hx.colored hd' hc
    exact hcolored
  · obtain ⟨d', hd', rfl⟩ := yields_withoutStyles.mp h
    obtain hcolored | ⟨hbare, hV⟩ := hx.bare hφ hd' { hc with active := rfl }
    · exact .inl hcolored
    · exact .inr ⟨{ hbare with active := hc.active }, hV⟩

end StaysBare

end Eval

/-! ## Info tags -/

namespace Info

open Eval (StaysBare)

variable {φ : Prop} {nested : Nested σ}

/-- The templates inside give texts without styles. -/
def Nested.StaysBare (nested : Nested σ) : Prop :=
  ∀ template, Eval.StaysBare True (nested template) (·.ranges = [])

theorem Nested.StaysBare.under (hn : nested.StaysBare) (template : List Char) :
    Eval.StaysBare φ (nested template) (·.ranges = []) := (hn template).weaken fun _ => trivial

theorem staysBare_coloredPercentage (hn : nested.StaysBare) (percent : Float) (inverted : Bool) :
    StaysBare φ (coloredPercentage nested percent inverted) (·.ranges = []) :=
  .get_bind fun _ => hn.under _

/-- A member that is a percentage. -/
theorem staysBare_percentageMember (hn : nested.StaysBare) (percent : Float) (inverted : Bool) :
    StaysBare φ (do return some (Value.rich (← coloredPercentage nested percent inverted)))
      (fun member => ∀ value ∈ member, value.IsBare) := by
  refine (staysBare_coloredPercentage hn percent inverted).bind fun rich => .pure ?_
  rintro ⟨-, hrich⟩ _ ⟨⟩
  exact hrich

/-- A member that is made of plain values. -/
theorem staysBare_plainMember {member : Option Value} (h : ∀ value ∈ member, value.IsPlain) :
    StaysBare φ (pure member : Eval σ _) (fun member => ∀ value ∈ member, value.IsBare) :=
  .pure fun _ value hvalue => (h value hvalue).isBare

theorem staysBare_memoryMember (hn : nested.StaysBare) (memory : MemoryInfo) (member : String) :
    StaysBare φ (memoryMember nested memory member)
      (fun member => ∀ value ∈ member, value.IsBare) := by
  refine .get_bind fun c => ?_
  dsimp only
  split
  iterate 3 exact staysBare_plainMember (by simp)
  iterate 4 exact staysBare_percentageMember hn _ _
  exact staysBare_plainMember (isPlain_amountInUnit memory _)

theorem staysBare_diskMember (hn : nested.StaysBare) (disk : DiskInfo) (member : String) :
    StaysBare φ (diskMember nested disk member)
      (fun member => ∀ value ∈ member, value.IsBare) := by
  unfold diskMember
  split
  iterate 4 exact staysBare_plainMember (by simp)
  exact staysBare_memoryMember hn disk.memory member

theorem staysBare_batteryMember (hn : nested.StaysBare) (battery : BatteryInfo) (member : String) :
    StaysBare φ (batteryMember nested battery member)
      (fun member => ∀ value ∈ member, value.IsBare) := by
  unfold batteryMember
  split
  iterate 2 exact staysBare_percentageMember hn _ _
  all_goals exact staysBare_plainMember (by simp)

variable [Provider σ]

/-- A value that is read off the answer to one query. -/
theorem staysBare_answer (query : Query) {read : query.Answer → Value}
    (h : ∀ answer, (read answer).IsPlain) :
    StaysBare φ (do return read (← Eval.ask query) : Eval σ _) Value.IsBare :=
  (StaysBare.ask query).bind fun answer => .pure fun _ => (h answer).isBare

omit [Provider σ] in
theorem staysBare_rich (hn : nested.StaysBare) (template : List Char) :
    StaysBare φ (Value.rich <$> nested template) Value.IsBare :=
  (hn.under template).map fun _ => id

theorem staysBare_summary (hn : nested.StaysBare) (module : Module) :
    StaysBare φ (summary nested module) Value.IsBare := by
  have htext (ψ : Prop) (s : String) :
      StaysBare ψ (pure (.text s) : Eval σ _) Value.IsBare := .pure fun _ => rfl
  cases module with
  | cpu | ram | title | colors | colorsLight | colorsSymbol | colorsLightSymbol =>
    exact staysBare_rich hn _
  | gpu index =>
    refine (StaysBare.ask (.gpu index)).bind fun gpu => ?_
    cases gpu with
    | none => exact htext _ _
    | some _ => exact staysBare_rich hn _
  | swap =>
    refine (StaysBare.ask .swap).bind fun swap => ?_
    split
    · exact htext _ _
    · exact staysBare_rich hn _
  | disk path =>
    refine (StaysBare.ask (.disk path)).bind fun disk => ?_
    cases disk with
    | none => exact htext _ _
    | some disk =>
      refine (hn.under _).bind fun rich => ?_
      dsimp only
      split
      · exact .pure fun h => h.2
      · exact .pure fun h => h.2
  | battery =>
    refine (StaysBare.ask .battery).bind fun battery => ?_
    cases battery with
    | none => exact htext _ _
    | some _ => exact staysBare_rich hn _
  | titleSep =>
    refine (StaysBare.ask .user).bind fun user => (StaysBare.ask .os).bind fun os => ?_
    exact .get_bind fun c => htext _ _
  | os | system | user | theme | themeGtk | auto => exact htext _ _

theorem staysBare_member (hn : nested.StaysBare) (module : Module) (member : String) :
    StaysBare φ (Info.member nested module member) Value.IsBare := by
  have hgetD {ψ : Prop} (value : Option Value) (h : ψ → ∀ v ∈ value, v.IsBare) :
      StaysBare ψ (pure (value.getD .missing) : Eval σ _) Value.IsBare := by
    refine .pure fun hψ => ?_
    cases value with
    | none => rfl
    | some v => exact h hψ v rfl
  cases module with
  | os =>
    refine (StaysBare.ask .os).bind fun os => .get_bind fun c => .pure fun _ => ?_
    exact (isPlain_getD (isPlain_osMember _ os member)).isBare
  | system => exact staysBare_answer .host fun _ => isPlain_getD (isPlain_systemMember _ _)
  | user => exact staysBare_answer .user fun _ => isPlain_getD (isPlain_userMember _ _)
  | cpu => exact staysBare_answer .cpu fun _ => isPlain_getD (isPlain_cpuMember _ _)
  | gpu index =>
    refine staysBare_answer (.gpu index) fun gpu => isPlain_getD ?_
    cases gpu with
    | none => exact nofun
    | some gpu => exact isPlain_gpuMember gpu member
  | ram =>
    refine (StaysBare.ask .ram).bind fun ram => ?_
    exact (staysBare_memoryMember hn ram member).bind fun value => hgetD value And.right
  | swap =>
    refine (StaysBare.ask .swap).bind fun swap => ?_
    exact (staysBare_memoryMember hn swap member).bind fun value => hgetD value And.right
  | disk path =>
    refine (StaysBare.ask (.disk path)).bind fun disk => ?_
    cases disk with
    | none => exact .pure fun _ => rfl
    | some disk =>
      exact (staysBare_diskMember hn disk member).bind fun value => hgetD value And.right
  | battery =>
    refine (StaysBare.ask .battery).bind fun battery => ?_
    cases battery with
    | none => exact .pure fun _ => rfl
    | some battery =>
      exact (staysBare_batteryMember hn battery member).bind fun value => hgetD value And.right
  | theme => exact staysBare_answer .theme fun _ => isPlain_getD (isPlain_themeMember _ _)
  | themeGtk version =>
    exact staysBare_answer (.gtkTheme version) fun _ => isPlain_getD (isPlain_gtkMember _ _)
  | auto | title | titleSep | colors | colorsLight | colorsSymbol | colorsLightSymbol =>
    unfold Info.member
    exact staysBare_summary hn _

omit [Provider σ] in
theorem staysBare_injectSeparatorReset (line : List Char) :
    StaysBare φ (modifyGet fun context =>
      { context with sepResetApplied := false }.injectSeparatorReset line : Eval σ (List Char))
      (fun _ => True) := by
  refine .modifyGet (fun c hc => ?_) fun _ c hc => ⟨?_, trivial⟩
  · obtain ⟨_, hreset⟩ := yields_injectSeparatorReset c line
    rw [← (Eval.yields_modifyGet.mp hreset).2]
    exact hc
  · obtain ⟨_, hreset⟩ := yields_injectSeparatorReset c line
    rw [← (Eval.yields_modifyGet.mp hreset).2]
    exact { hc with }

omit [Provider σ] in
theorem staysBare_spliceLines (hn : nested.StaysBare) (lines : List (List Char)) :
    StaysBare φ (spliceLines nested lines) (fun _ => True) := by
  induction lines generalizing φ with
  | nil => exact .pure fun _ => trivial
  | cons line lines ih =>
    refine (staysBare_injectSeparatorReset line).bind fun line => (hn.under line).bind fun rich => ?_
    refine (StaysBare.modify (fun c hc => ?_) fun h c hc => ?_).bind fun _ => ih
    · exact hc
    · exact { hc with spliced := List.forall_mem_append.mpr ⟨hc.spliced, by simpa using h.2⟩ }

theorem staysBare_expand (hn : nested.StaysBare) (member : Option String) :
    StaysBare φ (expand nested member) Value.IsBare := by
  refine .get_bind fun c => ?_
  split
  · exact .pure fun _ => rfl
  split
  · refine .get_bind fun c => (StaysBare.ask .volumes).bind fun disks => ?_
    dsimp only
    split
    · exact .pure fun _ => rfl
    · exact (staysBare_spliceLines hn _).bind fun _ => .pure fun _ => rfl
  · exact .pure fun _ => rfl

omit [Provider σ] in
/-- A value that is remembered, or was. -/
theorem staysBare_remember (key : String × String) (value : Value) :
    StaysBare value.IsBare (remember key value : Eval σ _) Value.IsBare := by
  refine .modifyGet (fun c hc => ?_) fun hvalue c hc => ?_
  · exact hc
  · rcases hget : c.cache.get? key.1 key.2 with _ | kept
    · simp only [Cache.insert, hget]
      exact ⟨{ hc with cache := List.forall_mem_append.mpr ⟨hc.cache, by simpa using hvalue⟩ },
        hvalue⟩
    · simp only [Cache.insert, hget]
      exact ⟨{ hc with }, hc.cache _ (Cache.mem_of_get? hget)⟩

theorem staysBare_resolve (hn : nested.StaysBare) (spec : List Char) :
    StaysBare φ (resolve nested spec) Value.IsBare := by
  cases hlookup : Module.lookup (String.ofList (splitSpec spec).1) with
  | error failure =>
    rw [resolve_eq_throw nested hlookup]
    exact .throw _
  | ok module =>
    cases hexpanding : module.isExpanding with
    | true =>
      rw [resolve_eq_expand nested hlookup hexpanding]
      exact staysBare_expand hn _
    | false =>
      rw [resolve_eq nested ⟨module, hlookup, hexpanding⟩]
      refine .get_bind fun c => ?_
      cases hget : c.cache.get? (keyOf spec).1 (keyOf spec).2 with
      | some value => exact .pure fun h => h.2.cache _ (Cache.mem_of_get? hget)
      | none =>
        have hcompute (ψ : Prop) : StaysBare ψ (compute nested spec) Value.IsBare := by
          unfold compute
          refine (StaysBare.ofExcept _).bind fun module => ?_
          dsimp only
          split
          · exact staysBare_member hn module _
          · exact staysBare_summary hn module
        exact (hcompute _).bind fun value => (staysBare_remember _ value).weaken And.right

end Info

/-! ## Templates -/

namespace RichText

theorem ranges_layer_of_bare (r : RichText) (offset : Nat) {other : RichText}
    (h : other.ranges = []) : (r.layer offset other).ranges = r.ranges := by
  simp [layer, Buffer.layer, h]

end RichText

namespace Template

open Eval (StaysBare)

variable {nested : Info.Nested σ}

theorem staysBare_openStyles {φ : Prop} : StaysBare φ (openStyles : Eval σ _) (· = []) := by
  refine .get_bind fun c => .pure fun ⟨_, hc⟩ => ?_
  split
  · rfl
  · exact hc.active

theorem staysBare_percentage {φ : Prop} (hn : nested.StaysBare)
    (numerator denominator : List Char) :
    StaysBare φ (percentage nested numerator denominator) (·.ranges = []) := by
  unfold percentage
  dsimp only
  split
  · exact Info.staysBare_coloredPercentage hn _ _
  · exact (StaysBare.report _).bind fun _ => .pure fun _ => rfl
  · exact (StaysBare.report _).bind fun _ => .pure fun _ => rfl

/-- Text is added without styles. -/
theorem Piece.ranges_add_of_bare {piece : Piece} {styles : List OpenStyle}
    (hpiece : piece.text.ranges = [])
    (hstyles : styles = []) (text : List Char) : (piece.add styles text).text.ranges = [] := by
  subst hstyles
  exact hpiece

theorem Piece.ranges_addPiece_of_bare {piece added : Piece} {styles : List OpenStyle}
    (hpiece : piece.text.ranges = []) (hstyles : styles = []) (hadded : added.text.ranges = []) :
    (piece.addPiece styles added).text.ranges = [] := by
  subst hstyles
  exact (RichText.ranges_layer_of_bare _ _ hadded).trans hpiece

variable [Provider σ]

mutual

theorem staysBare_evalBody (hn : nested.StaysBare) (name : String) (evaluate : Bool)
    (draft : Draft) : (body : Body) → StaysBare (draft.text.ranges = [])
      (evalBody nested name evaluate draft body) (·.text.ranges = [])
  | .done ending => by
    unfold evalBody
    cases ending with
    | unclosed delimiter => exact (StaysBare.report _).bind fun _ => .pure And.left
    | closed | interrupted => exact .pure id
  | .char c rest | .escaped c rest | .backslash rest => by
    unfold evalBody
    refine staysBare_openStyles.bind fun styles => ?_
    exact (staysBare_evalBody hn name evaluate _ rest).weaken fun h =>
      Piece.ranges_add_of_bare h.1 h.2 _
  | .tag tag length rest => by
    unfold evalBody
    refine (staysBare_evalTag hn name evaluate tag).bind fun added => ?_
    refine staysBare_openStyles.bind fun styles => ?_
    exact (staysBare_evalBody hn name evaluate _ rest).weaken fun ⟨⟨hdraft, hadded⟩, hstyles⟩ =>
      Piece.ranges_addPiece_of_bare hdraft hstyles hadded

theorem staysBare_evalTag {φ : Prop} (hn : nested.StaysBare) (name : String) (evaluate : Bool) :
    (tag : Tag) → StaysBare φ (evalTag nested name evaluate tag) (·.text.ranges = [])
  | .info body => by
    unfold evalTag
    refine ((staysBare_evalBody hn name evaluate {} body).weaken fun _ => rfl).bind fun draft => ?_
    split
    · exact .pure And.right
    split
    · exact .pure fun _ => rfl
    exact (Info.staysBare_resolve hn _).bind fun value => .pure And.right
  | .color token => by
    unfold evalTag
    refine ((staysBare_evalBody hn name evaluate {} token).weaken fun _ => rfl).bind fun draft => ?_
    split
    · exact .pure And.right
    split
    · exact (StaysBare.applyColor _).bind fun _ => .pure fun _ => rfl
    · exact .pure fun _ => rfl
  | .percentage numerator denominator => by
    unfold evalTag
    refine ((staysBare_evalBody hn name evaluate {} numerator).weaken fun _ => rfl).bind
      fun first => ?_
    split
    · exact .pure And.right
    refine ((staysBare_evalBody hn name evaluate {} denominator).weaken fun _ => rfl).bind
      fun second => ?_
    split
    · exact .pure And.right
    split
    · exact .pure fun _ => rfl
    exact (staysBare_percentage hn _ _).bind fun rich => .pure And.right
  | .conditional left right whenEqual whenDifferent => by
    unfold evalTag
    refine ((staysBare_evalBody hn name evaluate {} left).weaken fun _ => rfl).bind fun first => ?_
    split
    · exact .pure And.right
    refine ((staysBare_evalBody hn name evaluate {} right).weaken fun _ => rfl).bind
      fun second => ?_
    split
    · exact .pure And.right
    refine ((staysBare_evalBody hn name _ {} whenEqual).weaken fun _ => rfl).bind fun third => ?_
    split
    · exact .pure And.right
    refine ((staysBare_evalBody hn name _ {} whenDifferent).weaken fun _ => rfl).bind
      fun fourth => ?_
    split
    · exact .pure And.right
    refine .pure fun h => ?_
    split
    · exact h.1.2
    · exact h.2

end

theorem staysBare_evalWhole {φ : Prop} (hn : nested.StaysBare) (template : List Char) :
    StaysBare φ (evalWhole nested template) (·.rich.ranges = []) := by
  unfold evalWhole
  refine ((staysBare_evalBody hn _ true {} _).weaken fun _ => rfl).bind fun draft => ?_
  refine (StaysBare.modify (fun c hc => ?_) fun _ c hc => ?_).bind fun _ => .pure fun h => h.1.2
  · exact hc
  · exact { hc with active := rfl }

/-- A template inside another one, at any depth. -/
theorem staysBare_evalNested (depth : Nat) : (evalNested (σ := σ) depth).StaysBare := by
  induction depth with
  | zero => exact fun _ => .throw .tooDeep
  | succ depth ih =>
    intro template
    exact .withoutStyles ((staysBare_evalWhole ih template).bind fun _ => .pure And.right)

theorem staysBare_parseLine {φ : Prop} (template : String) :
    StaysBare φ (parseLine template : Eval σ _) (·.rich.ranges = []) :=
  staysBare_evalWhole (staysBare_evalNested maxDepth) template.toList

end Template

/-! ## Renders -/

namespace Render

open Eval (StaysBare)

variable {φ : Prop} [Provider σ]

theorem staysBare_parseArt (art : String) :
    StaysBare φ (parseArt art : Eval σ _) (fun lines => ∀ line ∈ lines, line.rich.ranges = []) := by
  refine (StaysBare.modify (fun c hc => ?_) fun _ c hc => ?_).bind fun _ => .mapM (fun line => ?_) _
  · exact hc
  · exact { hc with }
  · exact (Template.staysBare_parseLine _).bind fun parsed => .pure And.right

theorem staysBare_parseLayoutLine (template : String) :
    StaysBare φ (parseLayoutLine template : Eval σ _)
      (fun lines => ∀ line ∈ lines, line.ranges = []) := by
  refine (Info.staysBare_injectSeparatorReset _).bind fun line => ?_
  have hparse (ψ : Prop) : StaysBare ψ (Template.parse (String.ofList line) : Eval σ _)
      (·.ranges = []) := (Template.staysBare_parseLine _).bind fun parsed => .pure And.right
  refine (hparse _).bind fun rich => .get_bind fun c => ?_
  dsimp only
  split
  · exact .pure fun h line hline => List.mem_singleton.mp hline ▸ h.1.2
  refine (StaysBare.modify (fun c hc => ?_) fun _ c hc => ?_).bind fun _ => .pure fun h => ?_
  · exact hc
  · exact { hc with spliced := nofun }
  · exact h.1.2.spliced

theorem staysBare_parseLayout :
    StaysBare φ (parseLayout : Eval σ _) (fun lines => ∀ line ∈ lines, line.ranges = []) := by
  refine (StaysBare.modify (fun c hc => ?_) fun _ c hc => ?_).bind fun _ => .get_bind fun c => ?_
  · exact hc
  · exact { hc with }
  refine (StaysBare.mapM staysBare_parseLayoutLine _).bind fun lines => .pure ?_
  rintro ⟨-, hlines⟩ line hline
  obtain ⟨block, hblock, hline⟩ := List.mem_flatten.mp (List.mem_filter.mp hline).1
  exact hlines block hblock line hline

end Render

namespace Layout

variable {art : List ArtLine} {info : List RichText}

theorem ranges_append_spaces (count : Nat) {line : RichText} (h : line.ranges = []) :
    ((RichText.plain (spaces count)).append line).ranges = [] := by
  simp [h]

theorem ranges_artCell (config : Config) (column : Nat) {line : ArtLine}
    (h : line.rich.ranges = []) : (artCell config column line).ranges = [] :=
  ranges_append_spaces _ h

theorem ranges_sideBySide (config : Config) (column : Nat)
    (hart : ∀ line ∈ art, line.rich.ranges = []) (hinfo : ∀ line ∈ info, line.ranges = []) :
    ∀ line ∈ sideBySide config column art info, line.ranges = [] := by
  have hbeside {line : ArtLine} {text : RichText} (hline : line.rich.ranges = [])
      (htext : text.ranges = []) : ((artCell config column line).append text).ranges = [] := by
    simp [ranges_artCell config column hline, htext]
  induction art generalizing info with
  | nil =>
    induction info with
    | nil => exact nofun
    | cons text info ih =>
      rw [List.forall_mem_cons] at hinfo
      unfold sideBySide
      exact List.forall_mem_cons.mpr ⟨hbeside rfl hinfo.1, ih hinfo.2⟩
  | cons line art ih =>
    cases info with
    | nil =>
      unfold sideBySide
      exact List.forall_mem_map.mpr fun line hline => ranges_append_spaces _ (hart line hline)
    | cons text info =>
      rw [List.forall_mem_cons] at hart hinfo
      unfold sideBySide
      exact List.forall_mem_cons.mpr ⟨hbeside hart.1 hinfo.1, ih hart.2 hinfo.2⟩

theorem ranges_compose (config : Config) (hart : ∀ line ∈ art, line.rich.ranges = [])
    (hinfo : ∀ line ∈ info, line.ranges = []) :
    ∀ line ∈ compose config art info, line.ranges = [] := by
  have hart' : ∀ line ∈ List.replicate config.logoPaddingTop ({} : ArtLine) ++ art,
      line.rich.ranges = [] :=
    List.forall_mem_append.mpr ⟨fun line hline => List.eq_of_mem_replicate hline ▸ rfl, hart⟩
  have hinfo' : ∀ line ∈ List.replicate config.layoutPaddingTop (RichText.plain []) ++ info,
      line.ranges = [] :=
    List.forall_mem_append.mpr ⟨fun line hline => List.eq_of_mem_replicate hline ▸ rfl, hinfo⟩
  have hrich : ∀ line ∈ (List.replicate config.logoPaddingTop ({} : ArtLine) ++ art).map (·.rich),
      line.ranges = [] := List.forall_mem_map.mpr hart'
  unfold compose
  dsimp only
  split
  · exact List.forall_mem_append.mpr ⟨hrich, hinfo'⟩
  · exact List.forall_mem_append.mpr ⟨hinfo', hrich⟩
  · exact ranges_sideBySide config _ hart' hinfo'

end Layout

theorem Render.staysBare_renderLines [Provider σ] (art : String) :
    Eval.StaysBare True (renderLines art : Eval σ _) (fun lines => ∀ line ∈ lines, line.ranges = []) := by
  refine .get_bind fun c => ?_
  dsimp only
  have hplace (φ : Prop) (drawn : List ArtLine) :
      Eval.StaysBare (φ ∧ ∀ line ∈ drawn, line.rich.ranges = [])
        (if c.config.printLogoOnly then
          return List.replicate c.config.logoPaddingTop (RichText.plain []) ++ drawn.map (·.rich)
        else return Layout.compose c.config drawn (← parseLayout) : Eval σ (List RichText))
        (fun lines => ∀ line ∈ lines, line.ranges = []) := by
    split
    · refine .pure fun ⟨_, hdrawn⟩ => List.forall_mem_append.mpr ⟨fun line hline => ?_, ?_⟩
      · exact List.eq_of_mem_replicate hline ▸ rfl
      · exact List.forall_mem_map.mpr hdrawn
    · exact staysBare_parseLayout.bind fun info => .pure fun ⟨⟨_, hdrawn⟩, hinfo⟩ =>
        Layout.ranges_compose c.config hdrawn hinfo
  split
  · exact (Eval.StaysBare.pure fun _ => nofun).bind (hplace _)
  · exact (staysBare_parseArt art).bind (hplace _)

/-! ## Lines for the terminal -/

namespace Sgr

theorem group_of_plain (text : List Char) :
    RichText.group (text.map (Style.plain, ·)) = if text = [] then [] else [(Style.plain, text)] := by
  induction text with
  | nil => rfl
  | cons c text ih =>
    rw [List.map_cons, RichText.group, ih]
    cases text <;> rfl

/-- A line without styles is shown as it is. -/
theorem encode_of_bare {line : RichText} (h : line.ranges = []) : encode line false = line.text := by
  have hstyled : line.styled = line.text.map (Style.plain, ·) := by
    have hplain (index : Nat) : line.styleAt index = Style.plain := by
      rw [RichText.styleAt, h]
      rfl
    simp only [RichText.styled, hplain]
    conv_rhs => rw [← List.zipIdx_map_fst 0 line.text, List.map_map]
    rfl
  have hencode : encodeRuns .plain line.runs = (line.text, Style.plain) := by
    rw [RichText.runs, hstyled, group_of_plain]
    split
    · next hempty => rw [hempty]; rfl
    · simp [encodeRuns, transition]
  rw [encode, hencode]
  exact List.append_nil _

theorem reset_isSuffixOf_encode (line : RichText) : reset <:+ encode line true :=
  List.suffix_append _ _

end Sgr

/-- With colors switched off no line has styles. -/
theorem Render.ranges_of_disableColors [Provider σ] {config : Config} {provider : σ}
    {c : Context σ} {art : String} {lines : List RichText} (hdisabled : config.disableColors = true)
    (h : (renderLines art).Yields (Context.reset { config, provider }) lines c) :
    ∀ line ∈ lines, line.ranges = [] := by
  have hstart : Coupling.colorless.State (Context.reset { config, provider })
      (Context.reset { config, provider }) :=
    { config := rfl, provider := rfl, cache := .nil, tint := hdisabled, parsingLayout := rfl,
      sepResetApplied := rfl, spliced := .nil, diagnostics := rfl }
  obtain ⟨others, _, hother, hlines, -⟩ :=
    (TemplateCoupling.colorless.simulates_renderLines art).yields nofun hstart h
  obtain ⟨rfl, -⟩ := h.unique hother
  exact (plainLines_eq hlines).2

/-- A render that is not styled has no styles, and its lines for a terminal are the plain ones. One
that is styled ends each line for a terminal in a reset. -/
theorem render_styled [Provider σ] {config : Config} {provider after : σ} {art : String}
    {output : Output} (h : render config provider art = (.ok output, after)) :
    (output.styled = false →
      (∀ line ∈ output.lines, line.ranges = []) ∧ output.ansiLines = output.plainLines) ∧
    (output.styled = true → ∀ line ∈ output.ansiLines, Sgr.reset <:+ line.toList) := by
  obtain ⟨c, hrun, -, hstyled, -⟩ := render_eq_ok_iff.mp h
  have hbare (hplain : output.styled = false) : ∀ line ∈ output.lines, line.ranges = [] := by
    cases hdisabled : config.disableColors with
    | true => exact Render.ranges_of_disableColors hdisabled hrun
    | false =>
      have hunseen : c.firstColorSeen = false := by simpa [hplain, hdisabled] using hstyled
      have hstart : (Context.reset { config, provider } : Context σ).Bare := ⟨rfl, nofun, nofun⟩
      obtain hseen | ⟨-, hlines⟩ := (Render.staysBare_renderLines art).bare trivial hrun hstart
      · rw [hunseen] at hseen
        cases hseen
      · exact hlines
  refine ⟨fun hplain => ⟨hbare hplain, ?_⟩, fun hcolored line hline => ?_⟩
  · rw [Output.ansiLines, Output.plainLines, hplain]
    exact List.map_congr_left fun line hline =>
      congrArg _ (Sgr.encode_of_bare (hbare hplain line hline))
  · obtain ⟨rich, -, rfl⟩ := List.mem_map.mp hline
    rw [hcolored, String.toList_ofList]
    exact Sgr.reset_isSuffixOf_encode rich

/-- Art, a remembered percentage that is shown again, and spliced lines, with colors and without. -/
theorem render_styled_volumes :
    let config : Config :=
      { layout := ["$<auto.disk>", "$<ram.used_perc> of $<ram>"], autoDisk.format := "%1 (%7)" }
    let facts : Facts :=
      { ram := { used := 1, total := 2 }, disks := [{ mountdir := "/", types := { regular := true } }] }
    let provider : Snapshot := { facts }
    let art := "$\x7bred\x7d##"
    let first := "\x1b[38;2;255;0;0m\x1b[1m##\x1b[0m     / (\x1b[38;2;0;255;0m\x1b[1m0.00%\x1b[0m)\x1b[0m"
    (∃ output after, render config provider art = (.ok output, after) ∧ output.styled = true ∧
      first ∈ output.ansiLines ∧ Sgr.reset <:+ first.toList ∧
      ∀ line ∈ output.ansiLines, Sgr.reset <:+ line.toList) ∧
    ∃ output after, render { config with disableColors := true } provider art = (.ok output, after) ∧
      output.styled = false ∧ (∀ line ∈ output.lines, line.ranges = []) ∧
      output.ansiLines = output.plainLines := by
  intro config facts provider art first
  constructor
  · refine exists_render (p := fun output => output.styled && first ∈ output.ansiLines)
      (by decide +kernel) fun output after h hp => ?_
    obtain ⟨hstyled, hfirst⟩ := Bool.and_eq_true_iff.mp hp
    have hmem : first ∈ output.ansiLines := of_decide_eq_true hfirst
    have hreset := (render_styled h).2 hstyled
    exact ⟨hstyled, hmem, hreset first hmem, hreset⟩
  · refine exists_render (p := (!·.styled)) (by decide +kernel) fun output after h hstyled => ?_
    rw [Bool.not_eq_true'] at hstyled
    exact ⟨hstyled, (render_styled h).1 hstyled⟩

end Placard
