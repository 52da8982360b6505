import Placard.Proofs.Invariant
import Placard.Proofs.Remembered

/-! # Whatever was read before

`Reached` are the states in which a render can come to a tag: any parts of any templates may have
been read before, at any depth, with success or without. Reading keeps what is remembered true
(`keeps_evalBody`). So a tag that does not stand for lines says there what it says on a fresh state,
or what its twin says there, the other tag with the same key (`toText_eq_of_reached`). -/

namespace Placard

open Template
open Eval (Keeps)

variable {config : Config} {facts : Facts} {c d : Context Snapshot}

/-! ## Every evaluation keeps a state true -/

theorem invariant_fits (config : Config) (facts : Facts) : Invariant (Fits config facts) where
  ask h _ := { h with }
  sepResetApplied h _ := { h with }
  spliced h _ := { h with }
  report h _ := { h with }
  applyColor token _ h := h.applyColor token

/-- What a tag says may be remembered. -/
theorem keeps_remember (hsaid : Says config facts spec value.toText) :
    Keeps (Fits config facts) (Info.remember (Info.keyOf spec) value) := by
  intro c h
  obtain ⟨kept, cache, hyields, -, hfits, -⟩ := h.remember hsaid
  rwa [show ((Info.remember (Info.keyOf spec) value).outcome c).2 = { c with cache } from
    congrArg Prod.snd hyields]

section

variable (hcolors : config.percentageColors.NoTags)

include hcolors

theorem says_of_compute (hc : Fits config facts c)
    (h : (Info.compute (evalNested depth) spec).Yields c value d) :
    Says config facts spec value.toText := by
  obtain ⟨fresh, after, hfresh, htext, -⟩ :=
    (agrees_compute_tag hcolors spec depth).yields nofun (agree_fresh hc false) h
  exact ⟨fresh, after, hfresh, htext⟩

theorem keeps_evalNested (depth : Nat) (template : List Char) :
    Keeps (Fits config facts) (evalNested depth template) :=
  (invariant_fits config facts).keeps_evalNested (fun h => { h with }) (fun _ h => { h with })
    (fun h hx => keeps_remember (says_of_compute hcolors h hx)) depth template

/-- Reading any part of a template, at any depth, leaves a state of the render. -/
theorem keeps_evalBody (depth : Nat) (name : String) (evaluate : Bool) (draft : Draft)
    (body : Body) :
    Keeps (Fits config facts) (evalBody (evalNested depth) name evaluate draft body) :=
  (invariant_fits config facts).keeps_evalBody (keeps_evalNested hcolors depth)
    (fun _ => (invariant_fits config facts).keeps_resolve (keeps_evalNested hcolors depth)
      fun h hx => keeps_remember (says_of_compute hcolors h hx))
    name evaluate draft body

end

/-! ## Whatever was read before -/

/-- The states in which a render over the settings and facts can come to a tag. Any part of any
template may have been read before, at any depth, with success or without. -/
inductive Reached (config : Config) (facts : Facts) : Context Snapshot → Prop
  /-- Nothing has been read. -/
  | start (c : Context Snapshot) : c.config = config → c.provider.facts = facts →
      c.cache.entries = [] → c.autoColors = [] → Reached config facts c
  | read (c : Context Snapshot) (depth name evaluate draft body) : Reached config facts c →
      Reached config facts ((evalBody (evalNested depth) name evaluate draft body).outcome c).2
  | ask (c : Context Snapshot) (query) : Reached config facts c →
      Reached config facts { c with provider := (Provider.ask query c.provider).2 }
  /-- Reading goes on elsewhere: in a nested template, on another line or in the layout. -/
  | move (c : Context Snapshot) (styles parsingLayout sepResetApplied spliced diagnostics) :
      Reached config facts c →
      Reached config facts
        { c with styles, parsingLayout, sepResetApplied, spliced, diagnostics }

theorem Reached.fits (hcolors : config.percentageColors.NoTags) (h : Reached config facts c) :
    Fits config facts c := by
  induction h with
  | start _ hconfig hfacts hcache hcolors =>
    refine ⟨hconfig, hfacts, ?_, ?_⟩
    · unfold Context.AutoReadable
      rw [hcolors]
      exact nofun
    · unfold Info.Cache.IsTrue
      rw [hcache]
      exact nofun
  | read _ depth name evaluate draft body _ ih =>
    exact keeps_evalBody hcolors depth name evaluate draft body _ ih
  | ask _ _ _ ih => exact { ih with }
  | move _ _ _ _ _ _ _ ih => exact { ih with }

/-- Whatever was read before, a tag has the text that it has on a state in which nothing was read,
or its twin has that text there. -/
theorem toText_eq_of_reached {value : Info.Value} (hcolors : config.percentageColors.NoTags)
    (hc : Reached config facts c) (hspec : Info.NamesValue spec)
    (h : (Info.resolve (evalNested depth) spec).Yields c value d) (parsingLayout : Bool) :
    ∃ spec', (spec' = spec ∨ Info.Twins spec spec' ∨ Info.Twins spec' spec) ∧
      ∃ fresh after, (Info.resolve (evalNested maxDepth) spec').Yields
        (.fresh config facts parsingLayout) fresh after ∧ fresh.toText = value.toText := by
  obtain ⟨⟨spec', hkey, hsaid⟩, -⟩ :=
    (hc.fits hcolors).says_of_resolve hspec (agrees_compute_tag hcolors spec depth) h
  have hspec' : Info.NamesValue spec' := by
    obtain ⟨module, hlookup, hexpanding⟩ := hspec
    have hname : String.ofList (Info.splitSpec spec').1 = String.ofList (Info.splitSpec spec).1 :=
      congrArg Prod.fst hkey
    exact ⟨module, hname ▸ hlookup, hexpanding⟩
  obtain ⟨fresh, after, hfresh, htext, -⟩ := (fits_fresh parsingLayout).yields_resolve nofun hspec'
    (agrees_compute_tag hcolors spec' maxDepth) hsaid
  exact ⟨spec', Info.eq_or_twins_of_keyOf_eq hkey, fresh, after, hfresh, htext⟩

/-- The state after a template was read. -/
def Context.afterReading (c : Context Snapshot) (template : String) : Context Snapshot :=
  ((evalBody (evalNested maxDepth) template true {} (.read template.toList)).outcome c).2

/-- A member of a module that was read as a whole. -/
theorem toText_eq_after_module :
    let facts : Facts := { gpus := [{ name := "Arc", vendor := "Intel" }] }
    let c := (Context.fresh {} facts false).afterReading "$<gpu>"
    let spec := "gpu0.name".toList
    ∃ value d, (Info.resolve (evalNested maxDepth) spec).Yields c value d ∧
      value.toText = "Arc".toList ∧ ({} : PercentageColors).NoTags ∧ Reached {} facts c ∧
      Info.NamesValue spec ∧
      ∃ spec', (spec' = spec ∨ Info.Twins spec spec' ∨ Info.Twins spec' spec) ∧
        ∃ fresh after,
          (Info.resolve (evalNested maxDepth) spec').Yields (.fresh {} facts true) fresh
          after ∧ fresh.toText = value.toText := by
  intro facts c spec
  have hcolors : ({} : PercentageColors).NoTags := by
    intro level
    cases level <;> decide
  have hc : Reached {} facts c := .read _ _ _ _ _ _ (.start _ rfl rfl rfl rfl)
  have hspec : Info.NamesValue spec := ⟨.gpu 0, by decide, rfl⟩
  obtain ⟨value, d, h, htext⟩ := Eval.exists_yields
    (x := Info.resolve (evalNested maxDepth) spec) (c := c) (p := (·.toText = "Arc".toList))
    (Q := fun value _ => value.toText = "Arc".toList)
    (by decide +kernel) fun _ _ _ hp => of_decide_eq_true hp
  exact ⟨value, d, h, htext, hcolors, hc, hspec, toText_eq_of_reached hcolors hc hspec h true⟩

/-- A whole module whose twin was read before: the twin is no member of the module, and so the
module is missing. -/
theorem toText_ne_after_twin :
    let facts : Facts := { gpus := [{ name := "Arc", vendor := "Intel" }] }
    let c := (Context.fresh {} facts false).afterReading "$<gpu.module-gpu>"
    Reached {} facts c ∧
      (∃ value d, (Info.resolve (evalNested maxDepth) "gpu".toList).Yields c value d ∧
        value.toText = Info.missingMark.toList) ∧
      ∃ fresh after, (Info.resolve (evalNested maxDepth) "gpu".toList).Yields
        (.fresh {} facts false) fresh after ∧ fresh.toText = "Intel Arc".toList := by
  intro facts c
  refine ⟨.read _ _ _ _ _ _ (.start _ rfl rfl rfl rfl), ?_, ?_⟩
  · exact Eval.exists_yields (p := (·.toText = Info.missingMark.toList)) (by decide +kernel)
      fun _ _ _ hp => of_decide_eq_true hp
  · exact Eval.exists_yields (p := (·.toText = "Intel Arc".toList)) (by decide +kernel)
      fun _ _ _ hp => of_decide_eq_true hp

end Placard
