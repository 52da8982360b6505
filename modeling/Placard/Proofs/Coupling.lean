import Placard.Proofs.Members

/-! # Info tags on two states

The states of two renders of the same templates over the same facts can differ in the part that is
about colors (`Tint`), in the styles of texts and in the diagnostics. A `Coupling` says how these
parts correspond; everything else of the two states is the same (`Coupling.State`).

Info tags do not look at the tint at all, so what they do on one state they do on every coupled
one (`Coupling.simulates_resolve`). -/

namespace Placard

variable {σ : Type}

/-- The part of a state that is about colors. -/
structure Tint where
  disabled : Bool
  styles : OpenStyles
  autoColors : List String
  firstColorSeen : Bool

def Context.tint (c : Context σ) : Tint :=
  ⟨c.config.disableColors, c.styles, c.autoColors, c.firstColorSeen⟩

/-- The same keys with related values, in the same order. -/
def Info.Cache.Related (rich : RichText → RichText → Prop) (cache other : Cache) : Prop :=
  List.Forall₂ (fun e f => e.1 = f.1 ∧ Value.Related rich e.2 f.2) cache.entries other.entries

/-- A correspondence between the parts in which two states may differ. -/
structure Coupling where
  demand : Eval.Demand
  tint : Tint → Tint → Prop
  reported : List Diagnostic → List Diagnostic → Prop
  /-- For the mark that the line has had its separator reset. -/
  resetApplied : Bool → Bool → Prop
  resetApplied_self (b : Bool) : resetApplied b b
  rich : RichText → RichText → Prop
  pushText : rich r s → ∀ text, rich (r.pushText text) (s.pushText text)

namespace Coupling

/-- Two states that differ only as the coupling allows. -/
structure State (K : Coupling) (c d : Context σ) : Prop where
  config : d.config = { c.config with disableColors := d.config.disableColors }
  provider : d.provider = c.provider
  cache : c.cache.Related K.rich d.cache
  tint : K.tint c.tint d.tint
  parsingLayout : d.parsingLayout = c.parsingLayout
  sepResetApplied : K.resetApplied c.sepResetApplied d.sepResetApplied
  spliced : List.Forall₂ K.rich c.spliced d.spliced
  diagnostics : K.reported c.diagnostics d.diagnostics

variable (K : Coupling)

abbrev Simulates (V : α → β → Prop) (x : Eval σ α) (y : Eval σ β) : Prop :=
  Eval.Simulates K.demand K.State V x y

abbrev Value : Info.Value → Info.Value → Prop := Info.Value.Related K.rich

/-- Nested templates stand for related texts. -/
abbrev Nested (nested nested' : Info.Nested σ) : Prop :=
  ∀ template, K.Simulates K.rich (nested template) (nested' template)

variable {K}

/-! ## Primitives -/

theorem simulates_ask [Provider σ] (query : Query) :
    K.Simulates (σ := σ) Eq (Eval.ask query) (Eval.ask query) := by
  refine Eval.Simulates.modifyGet fun c d h => ⟨?_, ?_⟩
  · rw [h.provider]
  · exact { h with provider := by rw [h.provider] }

/-- Lines get their separator reset alike. -/
theorem simulates_injectSeparatorReset (line : List Char) :
    K.Simulates (σ := σ) Eq
      (modifyGet fun context => { context with sepResetApplied := false }.injectSeparatorReset line)
      (modifyGet fun context =>
        { context with sepResetApplied := false }.injectSeparatorReset line) := by
  refine Eval.Simulates.modifyGet fun c d h => ?_
  have hstate : K.State { c with sepResetApplied := false } { d with sepResetApplied := false } :=
    { h with sepResetApplied := K.resetApplied_self false }
  have hsep : d.config.sepReset = c.config.sepReset := congrArg (·.sepReset) h.config
  have hafter : d.config.sepResetAfter = c.config.sepResetAfter :=
    congrArg (·.sepResetAfter) h.config
  simp only [Context.injectSeparatorReset, hsep, hafter]
  split
  · exact ⟨rfl, hstate⟩
  · split
    · exact ⟨rfl, hstate⟩
    · exact ⟨rfl, { hstate with sepResetApplied := K.resetApplied_self true }⟩

/-- Values that are remembered already stay in both caches. -/
theorem related_get? {cache other : Info.Cache} (h : cache.Related K.rich other)
    (module member : String) : Option.Rel K.Value (cache.get? module member)
      (other.get? module member) := by
  obtain ⟨entries⟩ := cache
  obtain ⟨others⟩ := other
  simp only [Info.Cache.Related, Info.Cache.get?] at h ⊢
  induction h with
  | nil => exact .none
  | @cons e f entries others hef _ ih =>
    obtain ⟨key, value⟩ := e
    obtain ⟨_, other⟩ := f
    obtain ⟨rfl, hvalue⟩ := hef
    rw [List.lookup_cons, List.lookup_cons]
    cases (module, member) == key with
    | true => exact .some hvalue
    | false => exact ih

theorem related_insert {cache other : Info.Cache} (h : cache.Related K.rich other)
    (module member : String) (hv : K.Value v w) :
    K.Value (cache.insert module member v).1 (other.insert module member w).1 ∧
      (cache.insert module member v).2.Related K.rich (other.insert module member w).2 := by
  have hget := related_get? h module member
  simp only [Info.Cache.insert]
  generalize cache.get? module member = kept, other.get? module member = kept' at hget
  cases hget with
  | none => exact ⟨hv, List.rel_append h (.cons ⟨rfl, hv⟩ .nil)⟩
  | some hkept => exact ⟨hkept, h⟩

theorem simulates_remember (module member : String) (hv : K.Value v w) :
    K.Simulates (σ := σ) K.Value
      (modifyGet fun context =>
        let (kept, cache) := context.cache.insert module member v
        (kept, { context with cache }))
      (modifyGet fun context =>
        let (kept, cache) := context.cache.insert module member w
        (kept, { context with cache })) := by
  refine Eval.Simulates.modifyGet fun c d h => ?_
  obtain ⟨hkept, hcache⟩ := related_insert h.cache module member hv
  exact ⟨hkept, { h with cache := hcache }⟩

theorem expandable [Provider σ] : Info.Expandable (σ := σ) K.demand K.State K.rich where
  config h := h.config
  ask := simulates_ask
  pushText := K.pushText
  parsingLayout h := h.parsingLayout
  injectSeparatorReset := simulates_injectSeparatorReset
  splice h hr := { h with spliced := List.rel_append h.spliced (.cons hr .nil) }

/-! ## Info tags -/

section

variable {nested nested' : Info.Nested σ} (hn : K.Nested nested nested')

include hn

theorem simulates_coloredPercentage (percent : Float) (inverted : Bool) :
    K.Simulates K.rich (Info.coloredPercentage nested percent inverted)
      (Info.coloredPercentage nested' percent inverted) :=
  Info.simulates_coloredPercentage (fun _ _ h => h.config) hn percent inverted

variable [Provider σ]

theorem simulates_summary (module : Info.Module) :
    K.Simulates K.Value (Info.summary nested module) (Info.summary nested' module) :=
  Info.simulates_summary expandable.toComparable module fun template _ => hn template

/-- An info tag does on a coupled state what it does on the other one. -/
theorem simulates_resolve (spec : List Char) :
    K.Simulates K.Value (Info.resolve nested spec) (Info.resolve nested' spec) := by
  unfold Info.resolve
  rcases Info.splitSpec spec with ⟨name, memberName⟩
  dsimp only
  generalize String.ofList name = name, memberName.map String.ofList = memberName
  refine (Eval.Simulates.ofExcept _).bind_eq fun module => ?_
  split
  · exact Info.simulates_expand expandable hn _
  · refine Eval.Simulates.get.bind fun c d h => ?_
    have hget := related_get? h.cache name (memberName.getD ("module-" ++ name))
    generalize c.cache.get? _ _ = kept, d.cache.get? _ _ = kept' at hget
    cases hget with
    | some hv => exact .pure hv
    | none =>
      cases memberName with
      | some memberName =>
        exact (Info.simulates_member expandable.toComparable module memberName
            (simulates_coloredPercentage hn) fun _ => simulates_summary hn module).bind
              fun _ _ hv => simulates_remember _ _ hv
      | none => exact (simulates_summary hn module).bind fun _ _ hv => simulates_remember _ _ hv

end

end Coupling

end Placard
