import Placard.Proofs.Members
import Placard.Proofs.Resolve
import Placard.Proofs.TreeSimulation

/-! # What templates are made of

A template is a sequence of steps: it looks at the state, asks the provider, reports, applies colors
and remembers values, and it evaluates templates inside itself. `Eval.StepClosed` says that a
property of computations holds of these steps and of what is put together from computations that
have it. Then it holds of members and summaries, of an info tag (`StepClosed.resolve`) and of a tree
(`StepClosed.evalBody`), if it holds of the templates and tags inside. -/

namespace Placard

variable {σ : Type}

/-- A property of computations that steps have, but for the query for the volumes, and that
sequences of computations keep. Runs are looked at from the states of `start` only. -/
structure Eval.StepClosed [Provider σ] (start : Context σ → Prop)
    (P : ∀ {α : Type}, Eval σ α → Prop) : Prop where
  pure {α : Type} (a : α) : P (pure a : Eval σ α)
  fail {α : Type} (failure : Failure) : P (Eval.fail failure : Eval σ α)
  get : P (get : Eval σ (Context σ))
  ask : query ≠ .volumes → P (Eval.ask query)
  report (diagnostic : Diagnostic) : P (Eval.report diagnostic)
  applyColor (token : String) : P (Template.applyColor token)
  remember (key : String × String) (value : Info.Value) : P (Info.remember key value)
  cleared : P (modify fun context => { context with styles := context.styles.cleared })
  /-- What is known of the results of the first part may be used for the second one. -/
  bind {α β : Type} {x : Eval σ α} {f : α → Eval σ β} : P x →
    (∀ a, (∃ c d, start c ∧ x.Yields c a d) → P (f a)) → P (x >>= f)
  withoutStyles {α : Type} {x : Eval σ α} : P x → P (Eval.withoutStyles x)

/-- The one name of what stands for lines. -/
theorem Info.name_of_isExpanding {name : String} (h : Module.lookup name = .ok module)
    (hexpanding : module.isExpanding = true) : name = "auto" := by
  obtain rfl : module = .auto := by
    cases module <;> first | rfl | cases hexpanding
  obtain hknown | hargument := Module.named_of_lookup h
  · unfold Module.ofName? at hknown
    split at hknown <;> first | rfl | cases hknown
  · cases hargument

/-- The tag that lists the volumes. -/
def Info.volumesTag : List Char := "auto.disk".toList

theorem Info.eq_volumesTag_of_isExpanding {spec : List Char}
    (hlookup : Module.lookup (String.ofList (splitSpec spec).1) = .ok module)
    (hexpanding : module.isExpanding = true)
    (hdisk : (splitSpec spec).2.map String.ofList = some "disk") : spec = volumesTag := by
  obtain ⟨member, hmember, hdisk⟩ := Option.map_eq_some_iff.mp hdisk
  have hname : (splitSpec spec).1 = "auto".toList :=
    String.ofList_injective (name_of_isExpanding hlookup hexpanding)
  have hmember' : member = "disk".toList := String.ofList_injective hdisk
  rw [eq_of_splitSpec (Prod.eta (splitSpec spec)).symm, hmember, hname, hmember']
  rfl

namespace Eval.StepClosed

variable [Provider σ] {start : Context σ → Prop} {P : ∀ {α : Type}, Eval σ α → Prop}
  (hP : StepClosed start P) {nested : Info.Nested σ} {α β : Type}

include hP

theorem seq {x : Eval σ α} {f : α → Eval σ β} (hx : P x) (hf : ∀ a, P (f a)) : P (x >>= f) :=
  hP.bind hx fun a _ => hf a

theorem map {x : Eval σ α} (hx : P x) (f : α → β) : P (f <$> x) := by
  rw [← bind_pure_comp]
  exact hP.seq hx fun a => hP.pure (f a)

/-- What looks at the state first. -/
theorem get_bind {f : Context σ → Eval σ β} (hf : ∀ c, start c → P (f c)) :
    P (MonadState.get >>= f) := by
  refine hP.bind hP.get fun c ⟨_, _, hc, hget⟩ => hf c ?_
  obtain ⟨rfl, -⟩ := yields_get.mp hget
  exact hc

theorem mapM {ι : Type} {f : ι → Eval σ α} (hf : ∀ i, P (f i)) (is : List ι) : P (is.mapM f) := by
  induction is with
  | nil => exact hP.pure []
  | cons i is ih =>
    rw [List.mapM_cons]
    exact hP.seq (hf i) fun _ => hP.seq ih fun _ => hP.pure _

theorem ofExcept (result : Except Failure α) : P (Eval.ofExcept result : Eval σ α) := by
  cases result with
  | ok a => exact hP.pure a
  | error failure => exact hP.fail failure

/-! ## Members and summaries -/

open Info

section

variable (hp : ∀ percent inverted, P (coloredPercentage nested percent inverted))

include hp

theorem memoryMember (memory : MemoryInfo) (member : String) :
    P (Info.memoryMember nested memory member) := by
  unfold Info.memoryMember
  refine hP.get_bind fun c _ => ?_
  dsimp only
  split
  iterate 3 exact hP.pure _
  iterate 4 exact hP.seq (hp _ _) fun _ => hP.pure _
  exact hP.pure _

theorem diskMember (disk : DiskInfo) (member : String) :
    P (Info.diskMember nested disk member) := by
  unfold Info.diskMember
  split
  iterate 4 exact hP.pure _
  exact hP.memoryMember hp disk.memory member

theorem batteryMember (battery : BatteryInfo) (member : String) :
    P (Info.batteryMember nested battery member) := by
  unfold Info.batteryMember
  split
  iterate 2 exact hP.seq (hp _ _) fun _ => hP.pure _
  all_goals exact hP.pure _

theorem member (module : Module) (member : String)
    (hs : module.isBuiltIn = true → P (Info.summary nested module)) :
    P (Info.member nested module member) := by
  cases module with
  | os => exact hP.seq (hP.ask nofun) fun _ => hP.get_bind fun _ _ => hP.pure _
  | system | user | cpu | gpu | theme | themeGtk => exact hP.seq (hP.ask nofun) fun _ => hP.pure _
  | ram | swap =>
    exact hP.seq (hP.ask nofun) fun _ => hP.seq (hP.memoryMember hp _ member) fun _ => hP.pure _
  | disk path =>
    refine hP.seq (hP.ask nofun) fun disk => ?_
    cases disk with
    | none => exact hP.pure _
    | some disk => exact hP.seq (hP.diskMember hp disk member) fun _ => hP.pure _
  | battery =>
    refine hP.seq (hP.ask nofun) fun battery => ?_
    cases battery with
    | none => exact hP.pure _
    | some battery => exact hP.seq (hP.batteryMember hp battery member) fun _ => hP.pure _
  | auto | title | titleSep | colors | colorsLight | colorsSymbol | colorsLightSymbol =>
    unfold Info.member
    exact hs rfl

end

theorem titleSeparator : P (Info.titleSeparator : Eval σ Value) :=
  hP.seq (hP.ask nofun) fun _ => hP.seq (hP.ask nofun) fun _ => hP.get_bind fun _ _ => hP.pure _

/-- A summary is made by the template of its module. -/
theorem summary (module : Module)
    (hn : ∀ template, Summarizes module template → P (nested template)) :
    P (Info.summary nested module) := by
  cases module with
  | cpu => exact hP.map (hn _ .cpu) _
  | ram => exact hP.map (hn _ .ram) _
  | title => exact hP.map (hn _ .title) _
  | colors => exact hP.map (hn _ .colors) _
  | colorsLight => exact hP.map (hn _ .colorsLight) _
  | colorsSymbol symbol => exact hP.map (hn _ (.colorsSymbol symbol)) _
  | colorsLightSymbol symbol => exact hP.map (hn _ (.colorsLightSymbol symbol)) _
  | gpu index =>
    refine hP.seq (hP.ask nofun) fun gpu => ?_
    cases gpu with
    | none => exact hP.pure _
    | some _ => exact hP.map (hn _ (.gpu index)) _
  | swap =>
    refine hP.seq (hP.ask nofun) fun swap => ?_
    split
    · exact hP.pure _
    · exact hP.map (hn _ .swap) _
  | disk path =>
    refine hP.seq (hP.ask nofun) fun disk => ?_
    cases disk with
    | none => exact hP.pure _
    | some disk =>
      refine hP.seq (hn _ (.disk path)) fun rich => ?_
      dsimp only
      split
      · exact hP.pure _
      · exact hP.pure _
  | battery =>
    refine hP.seq (hP.ask nofun) fun battery => ?_
    cases battery with
    | none => exact hP.pure _
    | some _ => exact hP.map (hn _ .battery) _
  | titleSep => exact hP.titleSeparator
  | os | system | user | theme | themeGtk | auto => exact hP.pure _

/-! ## Info tags -/

theorem compute {spec : List Char}
    (hmember : ∀ name member module, splitSpec spec = (name, some member) →
      Module.lookup (String.ofList name) = .ok module →
      P (Info.member nested module (String.ofList member)))
    (hmodule : ∀ name module, splitSpec spec = (name, none) →
      Module.lookup (String.ofList name) = .ok module → P (Info.summary nested module)) :
    P (Info.compute nested spec) := by
  unfold Info.compute
  rcases hspec : splitSpec spec with ⟨name, memberName⟩
  dsimp only
  refine hP.bind (hP.ofExcept _) fun module ⟨_, _, _, hlookup⟩ => ?_
  replace hlookup := (Eval.yields_ofExcept.mp hlookup).1
  cases memberName with
  | some member => exact hmember name member module hspec hlookup
  | none => exact hmodule name module hspec hlookup

theorem expand (member : Option String) (hdisk : member = some "disk" → P (autoDisk nested)) :
    P (Info.expand nested member) := by
  refine hP.get_bind fun c hc => ?_
  split
  · exact hP.pure _
  · split
    · exact hdisk ‹_›
    · exact hP.pure _

theorem resolve {spec : List Char} (hcompute : NamesValue spec → P (Info.compute nested spec))
    (hvolumes : spec = volumesTag → P (autoDisk nested)) : P (Info.resolve nested spec) := by
  cases hlookup : Module.lookup (String.ofList (splitSpec spec).1) with
  | error failure =>
    rw [resolve_eq_throw nested hlookup]
    exact hP.fail failure
  | ok module =>
    cases hexpanding : module.isExpanding with
    | true =>
      rw [resolve_eq_expand nested hlookup hexpanding]
      exact hP.expand _ fun hdisk =>
        hvolumes (eq_volumesTag_of_isExpanding hlookup hexpanding hdisk)
    | false =>
      have hnames : NamesValue spec := ⟨module, hlookup, hexpanding⟩
      rw [resolve_eq nested hnames]
      refine hP.get_bind fun c hc => ?_
      split
      · exact hP.pure _
      · exact hP.seq (hcompute hnames) fun value => hP.remember _ value

/-- An info tag, if all templates inside have the property. -/
theorem resolve_of_nested (hn : ∀ template, P (nested template))
    (hvolumes : spec = volumesTag → P (autoDisk nested)) : P (Info.resolve nested spec) := by
  have hp (percent : Float) (inverted : Bool) : P (coloredPercentage nested percent inverted) :=
    hP.get_bind fun _ _ => hn _
  have hs (module : Module) : P (Info.summary nested module) :=
    hP.summary module fun template _ => hn template
  refine hP.resolve (fun _ => hP.compute ?_ ?_) hvolumes
  · exact fun _ member module _ _ => hP.member hp module _ fun _ => hs module
  · exact fun _ module _ _ => hs module

end Eval.StepClosed

/-! ## Templates -/

namespace Template

variable [Provider σ] {nested : Info.Nested σ} {shape : Shape} {name : String}

/-- What trees of the shape may ask for has the property. -/
structure TagsHold (P : ∀ {α : Type}, Eval σ α → Prop) (shape : Shape) (nested : Info.Nested σ) :
    Prop where
  resolve : shape.asks spec → P (Info.resolve nested spec)
  coloredPercentage : shape.percentages → ∀ percent inverted,
    P (Info.coloredPercentage nested percent inverted)

/-- The tags of the template are of the shape. -/
def Within (shape : Shape) (template : List Char) : Prop :=
  BodyAlike shape (.read template) (.read template)

theorem within_unrestricted (template : List Char) : Within {} template :=
  .refl (fun _ => trivial) trivial _

end Template

namespace Eval.StepClosed

open Template

variable [Provider σ] {start : Context σ → Prop} {P : ∀ {α : Type}, Eval σ α → Prop}
  (hP : StepClosed start P) {nested : Info.Nested σ} {shape : Shape} {name : String}

include hP

theorem openStyles : P (Template.openStyles : Eval σ _) := hP.get_bind fun _ _ => hP.pure _

theorem percentage
    (hp : ∀ percent inverted, P (Info.coloredPercentage nested percent inverted))
    (numerator denominator : List Char) : P (Template.percentage nested numerator denominator) := by
  unfold Template.percentage
  dsimp only
  split
  · exact hp _ _
  · exact hP.seq (hP.report _) fun _ => hP.pure _
  · exact hP.seq (hP.report _) fun _ => hP.pure _

mutual

/-- A tree has the property if the tags have it that it may ask for. -/
theorem evalBody (hn : TagsHold P shape nested) (evaluate : Bool) :
    BodyAlike shape body body' → ∀ draft : Draft,
    P (Template.evalBody nested name evaluate draft body)
  | .done ending, draft => by
    unfold Template.evalBody
    cases ending with
    | unclosed => exact hP.seq (hP.report _) fun _ => hP.pure _
    | closed | interrupted => exact hP.pure _
  | .char _ h, draft => by
    unfold Template.evalBody
    exact hP.seq hP.openStyles fun _ => evalBody hn evaluate h _
  | .escaped _ h, draft => by
    unfold Template.evalBody
    exact hP.seq hP.openStyles fun _ => evalBody hn evaluate h _
  | .backslash h, draft => by
    unfold Template.evalBody
    exact hP.seq hP.openStyles fun _ => evalBody hn evaluate h _
  | .tag ht _ h, draft => by
    unfold Template.evalBody
    refine hP.seq (evalTag hn evaluate ht) fun added => ?_
    exact hP.seq hP.openStyles fun _ => evalBody hn evaluate h _
  | .reset _ _ h, draft => evalBody hn evaluate h draft

theorem evalTag (hn : TagsHold P shape nested) (evaluate : Bool) :
    TagAlike shape tag tag' → P (Template.evalTag nested name evaluate tag)
  | .info h hasks => by
    unfold Template.evalTag
    refine hP.bind (evalBody hn evaluate h {}) fun draft ⟨_, _, _, hdraft⟩ => ?_
    split
    · exact hP.pure _
    · split
      · exact hP.pure _
      · obtain ⟨text, hsaid, htext⟩ := maySay_of_evalBody _ hdraft
        rw [htext]
        exact hP.seq (hn.resolve (hasks _ hsaid)) fun _ => hP.pure _
  | .color h => by
    unfold Template.evalTag
    refine hP.seq (evalBody hn evaluate h {}) fun draft => ?_
    split
    · exact hP.pure _
    · split
      · exact hP.seq (hP.applyColor _) fun _ => hP.pure _
      · exact hP.pure _
  | .percentage hpercentages h₁ h₂ => by
    unfold Template.evalTag
    refine hP.seq (evalBody hn evaluate h₁ {}) fun first => ?_
    split
    · exact hP.pure _
    refine hP.seq (evalBody hn evaluate h₂ {}) fun second => ?_
    split
    · exact hP.pure _
    split
    · exact hP.pure _
    exact hP.seq (hP.percentage (hn.coloredPercentage hpercentages) _ _) fun _ => hP.pure _
  | .conditional h₁ h₂ h₃ h₄ => by
    unfold Template.evalTag
    refine hP.seq (evalBody hn evaluate h₁ {}) fun first => ?_
    split
    · exact hP.pure _
    refine hP.seq (evalBody hn evaluate h₂ {}) fun second => ?_
    split
    · exact hP.pure _
    refine hP.seq (evalBody hn _ h₃ {}) fun third => ?_
    split
    · exact hP.pure _
    refine hP.seq (evalBody hn _ h₄ {}) fun fourth => ?_
    split
    · exact hP.pure _
    exact hP.pure _

end

theorem evalWhole {template : List Char} (h : Within shape template)
    (hn : TagsHold P shape nested) : P (Template.evalWhole nested template) :=
  hP.seq (hP.evalBody hn true h {}) fun _ => hP.seq hP.cleared fun _ => hP.pure _

theorem evalNested {template : List Char} (h : Within shape template)
    (hn : TagsHold P shape (Template.evalNested depth)) :
    P (Template.evalNested (depth + 1) template) :=
  hP.withoutStyles (hP.seq (hP.evalWhole h hn) fun _ => hP.pure _)

end Eval.StepClosed

end Placard
