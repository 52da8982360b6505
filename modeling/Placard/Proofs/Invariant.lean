import Placard.Proofs.Members
import Placard.Proofs.Resolve
import Placard.Proofs.TreeSimulation

/-! # What every part of a template keeps

A property of the shared state that the queries, the reports and the color tags keep is kept by all
that a template does, if it is kept by the tags that it asks for (`TreeInvariant.keeps_evalBody`).
These keep it if the templates inside do, the values that are remembered, and the lines that take
the place of a tag (`Invariant.keeps_resolve`). A computation that keeps a property is one that
simulates itself, so that the simulations of members, summaries and trees can be used. -/

namespace Placard

variable {σ α : Type} {P : Context σ → Prop} {x : Eval σ α}

/-- The same state twice, of which `P` holds. -/
def Stays (P : Context σ → Prop) (c d : Context σ) : Prop := c = d ∧ P c

namespace Eval

/-- The computation keeps `P`, also where it fails. -/
def Keeps (P : Context σ → Prop) (x : Eval σ α) : Prop := ∀ c, P c → P (x.outcome c).2

theorem Keeps.simulates (h : Keeps P x) : Simulates .all (Stays P) Eq x x := by
  rintro c _ ⟨rfl, hc⟩
  have hP := h c hc
  generalize x.outcome c = p at hP
  obtain ⟨_ | a, d⟩ := p
  · exact .error ⟨rfl, hP⟩
  · exact .ok rfl ⟨rfl, hP⟩

theorem Simulates.keeps {V : α → α → Prop} (h : Simulates .all (Stays P) V x x) : Keeps P x := by
  intro c hc
  have hf := h c c ⟨rfl, hc⟩
  generalize x.outcome c = p at hf
  cases hf with
  | ok _ h => exact h.2
  | error h => exact h.2
  | free _ h => exact absurd rfl h
  | lost _ h => cases h

theorem Keeps.withoutStyles (h : Keeps P x) (hin : ∀ {c}, P c → P { c with styles.active := [] })
    (hout : ∀ {c d}, P c → P d → P { d with styles.active := c.styles.active }) :
    Keeps P (withoutStyles x) := fun _ hc => hout hc (h _ (hin hc))

theorem Keeps.of_yields (h : Keeps P x) (hx : x.Yields c a d) (hc : P c) : P d := by
  have hP := h c hc
  rwa [hx] at hP

end Eval

open Eval (Keeps)

theorem Eval.Keeps.rich {y : Eval σ Template.Parsed} (h : Keeps P y) :
    Keeps P (do return (← y).rich) :=
  (h.simulates.bind_eq (g := fun p => Pure.pure p.rich) (W := Eq) fun _ => .pure rfl).keeps

/-- What following a tree keeps, but for the tags that it asks for. -/
structure TreeInvariant (P : Context σ → Prop) : Prop where
  report : P c → ∀ diagnostic, P (c.report diagnostic)
  applyColor : ∀ token, Keeps P (Template.applyColor token)

/-- What the steps of a template keep, but for the values that are remembered and the lines that
take the place of a tag. -/
structure StepInvariant [Provider σ] (P : Context σ → Prop) : Prop where
  ask : P c → ∀ query, P { c with provider := (Provider.ask query c.provider).2 }
  report : P c → ∀ diagnostic, P (c.report diagnostic)
  applyColor : ∀ token, Keeps P (Template.applyColor token)

/-- What the steps of a template keep, but for the values that are remembered. -/
structure Invariant [Provider σ] (P : Context σ → Prop) : Prop where
  ask : P c → ∀ query, P { c with provider := (Provider.ask query c.provider).2 }
  sepResetApplied : P c → ∀ applied, P { c with sepResetApplied := applied }
  spliced : P c → ∀ lines, P { c with spliced := lines }
  report : P c → ∀ diagnostic, P (c.report diagnostic)
  applyColor : ∀ token, Keeps P (Template.applyColor token)

theorem Info.eq_of_related {v w : Value} (h : v.Related Eq w) : v = w := by
  cases h with
  | rich h => rw [h]
  | text | count | real => rfl

namespace TreeInvariant

open Template

variable [Provider σ] (hP : TreeInvariant P) {nested : Info.Nested σ}

include hP

variable {shape : Shape} (hresets : ¬ shape.resets)
  (hresolve : ∀ spec, shape.asks spec → Keeps P (Info.resolve nested spec))
  (hpercent : shape.percentages → ∀ percent inverted,
    Keeps P (Info.coloredPercentage nested percent inverted))

include hresets hresolve hpercent

theorem comparable : Template.Comparable shape .all (Stays P) Eq Eq nested nested where
  text_eq h := by rw [h]
  plain _ := rfl
  ofRich h := by rw [h]
  toRich h := by rw [h]
  add h hp text := by rw [h.1, hp]
  addPiece h hp hq := by rw [h.1, hp, hq]
  report := by
    rintro diagnostic c _ _ ⟨rfl, hc⟩
    exact ⟨rfl, hP.report hc _⟩
  applyColor token := (hP.applyColor token).simulates
  resolve hasks := (hresolve _ hasks).simulates.mono fun v w h => by rw [h]
  coloredPercentage hp percent inverted := (hpercent hp percent inverted).simulates
  reset := (absurd · hresets)
  addReset := (absurd · hresets)

/-- A tree that asks for nothing but what keeps the property. -/
theorem keeps_evalBody (name : String) (evaluate : Bool) (draft : Draft)
    (h : BodyAlike shape body body) : Keeps P (evalBody nested name evaluate draft body) := by
  have hC := hP.comparable hresets hresolve hpercent
  exact (hC.simulates_evalBody (hC.sameReports name) evaluate h ⟨rfl, fun _ => rfl⟩).keeps

theorem keeps_evalTag (name : String) (evaluate : Bool) (h : TagAlike shape tag tag) :
    Keeps P (evalTag nested name evaluate tag) := by
  have hC := hP.comparable hresets hresolve hpercent
  exact (hC.simulates_evalTag (hC.sameReports name) evaluate h).keeps

/-- A template by itself; at its end the open styles are closed. -/
theorem keeps_evalWhole (hcleared : ∀ {c}, P c → P { c with styles := c.styles.cleared })
    {template : List Char} (h : BodyAlike shape (.read template) (.read template)) :
    Keeps P (evalWhole nested template) := by
  refine Eval.Simulates.keeps (V := Eq) ?_
  have hbody :=
    hP.keeps_evalBody hresets hresolve hpercent (String.ofList template) true {} h
  refine hbody.simulates.bind_eq fun draft => ?_
  refine Eval.Simulates.bind_eq (Keeps.simulates fun c hc => hcleared hc) fun _ => .pure rfl

end TreeInvariant

namespace StepInvariant

open Template

variable [Provider σ] (hP : StepInvariant P) {nested : Info.Nested σ}

include hP

theorem tree : TreeInvariant P := ⟨hP.report, hP.applyColor⟩

theorem comparableMembers : Info.Comparable .all (Stays P) Eq where
  config := by
    rintro c _ ⟨rfl, -⟩
    rfl
  ask query := Keeps.simulates fun _ hc => hP.ask hc query
  pushText := by
    rintro r _ rfl text
    rfl

/-- What an info tag computes, if the templates for it keep the property. -/
theorem keeps_compute
    (hsummary : ∀ module template, Info.Summarizes module template → Keeps P (nested template))
    (hpercent : ∀ percent inverted, Keeps P (Info.coloredPercentage nested percent inverted))
    (spec : List Char) : Keeps P (Info.compute nested spec) := by
  have hsummary (module : Info.Module) : Eval.Simulates .all (Stays P) (Info.Value.Related Eq)
      (Info.summary nested module) (Info.summary nested module) :=
    Info.simulates_summary hP.comparableMembers module
      fun template htemplate => (hsummary module template htemplate).simulates
  refine Eval.Simulates.keeps (V := Eq) ?_
  unfold Info.compute
  rcases Info.splitSpec spec with ⟨name, memberName⟩
  refine (Eval.Simulates.ofExcept _).bind_eq fun module => ?_
  cases memberName with
  | none => exact (hsummary module).mono fun _ _ => Info.eq_of_related
  | some member =>
    refine (Info.simulates_member hP.comparableMembers module _ (fun percent inverted => ?_)
      fun _ => hsummary module).mono fun _ _ => Info.eq_of_related
    exact (hpercent percent inverted).simulates

omit hP in
/-- An info tag, if what it computes may be remembered. -/
theorem keeps_resolve
    (hexpand : ∀ {module}, Info.Module.lookup (String.ofList (Info.splitSpec spec).1) = .ok module →
      module.isExpanding = true →
      Keeps P (Info.expand nested ((Info.splitSpec spec).2.map String.ofList)))
    (hcompute : Keeps P (Info.compute nested spec))
    (hremember : ∀ {c value d}, P c → (Info.compute nested spec).Yields c value d →
      Keeps P (Info.remember (Info.keyOf spec) value)) : Keeps P (Info.resolve nested spec) := by
  cases hlookup : Info.Module.lookup (String.ofList (Info.splitSpec spec).1) with
  | error failure =>
    rw [Info.resolve_eq_throw nested hlookup]
    exact fun _ hc => hc
  | ok module =>
    cases hexpanding : module.isExpanding with
    | true =>
      rw [Info.resolve_eq_expand nested hlookup hexpanding]
      exact hexpand hlookup hexpanding
    | false =>
      rw [Info.resolve_eq nested ⟨module, hlookup, hexpanding⟩]
      refine Eval.Simulates.keeps (V := Eq) (Eval.Simulates.get.bind fun c d h => ?_)
      obtain ⟨rfl, -⟩ := h
      cases c.cache.get? (Info.keyOf spec).1 (Info.keyOf spec).2 with
      | some value => exact .pure rfl
      | none =>
        have hcompute := hcompute.simulates.and_left fun h hx => hremember h.2 hx
        refine hcompute.bind fun value _ ⟨heq, hvalue⟩ => ?_
        subst heq
        exact hvalue.simulates

end StepInvariant

namespace Invariant

open Template

variable [Provider σ] (hP : Invariant P) {nested : Info.Nested σ}

include hP

theorem step : StepInvariant P := ⟨hP.ask, hP.report, hP.applyColor⟩

theorem expandable : Info.Expandable .all (Stays P) Eq where
  toComparable := hP.step.comparableMembers
  parsingLayout := by
    rintro c _ ⟨rfl, -⟩
    rfl
  injectSeparatorReset line := Keeps.simulates fun c hc => by
    change P ({ c with sepResetApplied := false }.injectSeparatorReset line).2
    unfold Context.injectSeparatorReset
    dsimp only
    split
    · exact hP.sepResetApplied hc _
    · split
      · exact hP.sepResetApplied hc _
      · exact hP.sepResetApplied hc _
  splice := by
    rintro c _ r _ ⟨rfl, hc⟩ rfl
    exact ⟨rfl, hP.spliced hc _⟩

variable (hn : ∀ template, Keeps P (nested template))

include hn

omit [Provider σ] hP in
theorem keeps_coloredPercentage (percent : Float) (inverted : Bool) :
    Keeps P (Info.coloredPercentage nested percent inverted) := fun _ hc => hn _ _ hc

/-- An info tag, if what it computes may be remembered. -/
theorem keeps_resolve
    (hremember : ∀ {c value d}, P c → (Info.compute nested spec).Yields c value d →
      Keeps P (Info.remember (Info.keyOf spec) value)) : Keeps P (Info.resolve nested spec) :=
  StepInvariant.keeps_resolve
    (fun _ _ => (Info.simulates_expand hP.expandable (fun template => (hn template).simulates)
      _).keeps)
    (hP.step.keeps_compute (fun _ template _ => hn template) (keeps_coloredPercentage hn) spec)
    hremember

variable (hresolve : ∀ spec, Keeps P (Info.resolve nested spec))

include hresolve

theorem keeps_evalBody (name : String) (evaluate : Bool) (draft : Draft) (body : Body) :
    Keeps P (evalBody nested name evaluate draft body) := by
  have hbody : BodyAlike {} body body := .refl (fun _ => trivial) trivial body
  exact hP.step.tree.keeps_evalBody id (fun spec _ => hresolve spec)
    (fun _ => keeps_coloredPercentage hn) name evaluate draft hbody

theorem keeps_evalTag (name : String) (evaluate : Bool) (tag : Tag) :
    Keeps P (evalTag nested name evaluate tag) := by
  have htag : TagAlike {} tag tag := .refl (fun _ => trivial) trivial tag
  exact hP.step.tree.keeps_evalTag id (fun spec _ => hresolve spec)
    (fun _ => keeps_coloredPercentage hn) name evaluate htag

/-- A template by itself; at its end the open styles are closed. -/
theorem keeps_evalWhole (hcleared : ∀ {c}, P c → P { c with styles := c.styles.cleared })
    (template : List Char) : Keeps P (evalWhole nested template) := by
  have hbody : BodyAlike {} (.read template) (.read template) :=
    .refl (fun _ => trivial) trivial _
  exact hP.step.tree.keeps_evalWhole id (fun spec _ => hresolve spec)
    (fun _ => keeps_coloredPercentage hn) hcleared hbody

end Invariant

open Template in
/-- A template inside another one: it starts without open styles, and those around it are back at
its end. -/
theorem Invariant.keeps_evalNested [Provider σ] (hP : Invariant P)
    (hin : ∀ {c}, P c → P { c with styles.active := [] })
    (hout : ∀ {c d}, P c → P d → P { d with styles.active := c.styles.active })
    (hremember : ∀ {depth spec c value d}, P c →
      (Info.compute (evalNested depth) spec).Yields c value d →
      Keeps P (Info.remember (Info.keyOf spec) value))
    (depth : Nat) (template : List Char) : Keeps P (evalNested depth template) := by
  induction depth generalizing template with
  | zero => exact fun _ h => h
  | succ depth ih =>
    have hwhole := hP.keeps_evalWhole ih (fun _ => hP.keeps_resolve ih hremember) hin template
    exact hwhole.rich.withoutStyles hin hout

/-! ## The settings -/

/-- With these settings, in the layout or in the art. -/
structure Context.Reading (config : Config) (layout : Bool) (c : Context σ) : Prop where
  config : c.config = config
  parsingLayout : c.parsingLayout = layout

namespace Template

variable [Provider σ] (config : Config) (layout : Bool)

theorem invariant_reading : Invariant (Context.Reading (σ := σ) config layout) where
  ask h _ := { h with }
  sepResetApplied h _ := { h with }
  spliced h _ := { h with }
  report h _ := { h with }
  applyColor token c h := by
    obtain ⟨_, _, _, _, heq, -⟩ := exists_of_applyColor token c
    rw [heq]
    exact { h with }

theorem reading_evalNested (depth : Nat) (template : List Char) :
    Keeps (Context.Reading (σ := σ) config layout) (evalNested depth template) :=
  (invariant_reading config layout).keeps_evalNested (fun h => { h with }) (fun _ h => { h with })
    (fun _ _ _ h => { h with }) depth template

theorem reading_resolve (depth : Nat) (spec : List Char) :
    Keeps (Context.Reading (σ := σ) config layout) (Info.resolve (evalNested depth) spec) :=
  (invariant_reading config layout).keeps_resolve (reading_evalNested config layout depth)
    fun _ _ _ h => { h with }

theorem reading_evalBody (depth : Nat) (name : String) (evaluate : Bool) (draft : Draft)
    (body : Body) : Keeps (Context.Reading (σ := σ) config layout)
      (evalBody (evalNested depth) name evaluate draft body) :=
  (invariant_reading config layout).keeps_evalBody (reading_evalNested config layout depth)
    (reading_resolve config layout depth) name evaluate draft body

theorem reading_evalTag (depth : Nat) (name : String) (evaluate : Bool) (tag : Tag) :
    Keeps (Context.Reading (σ := σ) config layout)
      (evalTag (evalNested depth) name evaluate tag) :=
  (invariant_reading config layout).keeps_evalTag (reading_evalNested config layout depth)
    (reading_resolve config layout depth) name evaluate tag

theorem reading_parseLine (template : String) :
    Keeps (Context.Reading (σ := σ) config layout) (parseLine template) :=
  (invariant_reading config layout).keeps_evalWhole (reading_evalNested config layout maxDepth)
    (reading_resolve config layout maxDepth) (fun h => { h with }) template.toList

end Template

end Placard
