import Mathlib.Data.List.Nodup
import Placard.Proofs.Invariant
import Placard.Provider.Snapshot

/-! # The colors of the art

Two things add to the colors of the art: an `auto` tag adds `1` when there are none yet
(`ColorToken.colors_of_resolve`), and a color tag in the art adds its token unless it is there
(`ColorToken.record`). So what a color tag leaves continues what was there
(`ColorToken.Continues`), and in the layout only the `1` can come. This goes through all that is
read on one context, with success or without (`Context.ReadsOn`). -/

namespace Placard

namespace ColorToken

/-- The colors of the art when the second list comes after the first one: none is taken out or
moved, none comes twice, and in the layout none comes but the first one of an empty list. -/
structure Continues (layout : Bool) (colors later : List String) : Prop where
  isPrefix : colors <+: later
  nodup : colors.Nodup → later.Nodup
  seed : layout = true → later = colors ∨ colors = [] ∧ later = ["1"]

variable {layout : Bool} {colors later : List String}

theorem Continues.refl (layout : Bool) (colors : List String) : Continues layout colors colors :=
  ⟨List.prefix_rfl, id, fun _ => .inl rfl⟩

theorem Continues.trans (h : Continues layout colors later) (h' : Continues layout later last) :
    Continues layout colors last where
  isPrefix := h.isPrefix.trans h'.isPrefix
  nodup := h'.nodup ∘ h.nodup
  seed hlayout := by
    obtain rfl | ⟨rfl, rfl⟩ := h.seed hlayout
    · exact h'.seed hlayout
    · obtain rfl | ⟨hlater, -⟩ := h'.seed hlayout
      · exact .inr ⟨rfl, rfl⟩
      · cases hlater

/-- Resolving a token changes the colors of the art only if there are none. -/
theorem colors_of_resolve (config : Config) (token : String) (colors : List String) :
    (resolve config token colors).2 = colors ∨
      colors = [] ∧ (resolve config token colors).2 = ["1"] := by
  obtain ⟨literal, h⟩ | ⟨suffix, h⟩ := resolve_cases config token
  · exact .inl (congrArg Prod.snd (h colors))
  · rw [h]
    cases colors with
    | nil => exact .inr ⟨rfl, rfl⟩
    | cons color colors => exact .inl rfl

theorem continues_resolve (layout : Bool) (config : Config) (token : String)
    (colors : List String) : Continues layout colors (resolve config token colors).2 := by
  obtain h | ⟨rfl, h⟩ := colors_of_resolve config token colors
  · rw [h]
    exact .refl layout colors
  · rw [h]
    exact ⟨List.nil_prefix, fun _ => List.nodup_singleton "1", fun _ => .inr ⟨rfl, rfl⟩⟩

/-- The colors of the art after a token was resolved and applied. -/
def record (layout : Bool) (colors : List String) : Except Failure (Option Resolved) → List String
  | .ok (some { token, action := .apply _ }) =>
    if layout || colors.contains token then colors else colors ++ [token]
  | _ => colors

theorem continues_record (layout : Bool) (colors : List String)
    (resolved : Except Failure (Option Resolved)) :
    Continues layout colors (record layout colors resolved) := by
  unfold record
  split
  · split
    · exact .refl layout colors
    · rename_i token _ hnew
      rw [Bool.or_eq_true, not_or, List.contains_iff_mem] at hnew
      refine ⟨List.prefix_append colors [token], fun hnodup => ?_, fun h => absurd h hnew.1⟩
      exact hnodup.append (List.nodup_singleton token) (by simpa using hnew.2)
  · exact .refl layout colors

end ColorToken

open ColorToken (Continues)
open Eval (Keeps)

variable {σ : Type} {c d e : Context σ} {layout : Bool} {colors : List String}

/-- What a color tag does to the colors of the art. -/
theorem Template.autoColors_applyColor (token : String) (c : Context σ) :
    ((applyColor token).outcome c).2.autoColors =
      if c.config.disableColors then c.autoColors
      else ColorToken.record c.parsingLayout (ColorToken.resolve c.config token c.autoColors).2
        (ColorToken.resolve c.config token c.autoColors).1 := by
  rw [outcome_applyColor]
  split
  · rfl
  rcases ColorToken.resolve c.config token c.autoColors with
    ⟨failure | _ | ⟨applied, _ | spans⟩, colors⟩ <;> rfl

theorem Template.continues_applyColor (token : String) (c : Context σ) :
    Continues c.parsingLayout c.autoColors ((applyColor token).outcome c).2.autoColors := by
  rw [autoColors_applyColor]
  split
  · exact .refl _ _
  · exact (ColorToken.continues_resolve _ _ _ _).trans (ColorToken.continues_record _ _ _)

/-- The colors of the art are the given ones or continue them. -/
structure Context.Recording (layout : Bool) (colors : List String) (c : Context σ) : Prop where
  parsingLayout : c.parsingLayout = layout
  continues : Continues layout colors c.autoColors

open Template

variable [Provider σ]

theorem invariant_recording (layout : Bool) (colors : List String) :
    Invariant (Context.Recording (σ := σ) layout colors) where
  ask h _ := { h with }
  sepResetApplied h _ := { h with }
  spliced h _ := { h with }
  report h _ := { h with }
  applyColor token c h := by
    obtain ⟨rfl, hcontinues⟩ := h
    refine ⟨?_, hcontinues.trans (continues_applyColor token c)⟩
    obtain ⟨_, _, _, _, heq, -⟩ := exists_of_applyColor token c
    rw [heq]

theorem recording_evalNested (layout : Bool) (colors : List String) (depth : Nat)
    (template : List Char) :
    Keeps (Context.Recording (σ := σ) layout colors) (evalNested depth template) :=
  (invariant_recording layout colors).keeps_evalNested (fun h => { h with })
    (fun _ h => { h with }) (fun _ _ _ h => { h with }) depth template

theorem recording_resolve (layout : Bool) (colors : List String) (depth : Nat)
    (spec : List Char) :
    Keeps (Context.Recording (σ := σ) layout colors) (Info.resolve (evalNested depth) spec) :=
  (invariant_recording layout colors).keeps_resolve (recording_evalNested layout colors depth)
    fun _ _ _ h => { h with }

theorem recording_evalBody (layout : Bool) (colors : List String) (depth : Nat) (name : String)
    (evaluate : Bool) (draft : Draft) (body : Body) :
    Keeps (Context.Recording (σ := σ) layout colors)
      (evalBody (evalNested depth) name evaluate draft body) :=
  (invariant_recording layout colors).keeps_evalBody (recording_evalNested layout colors depth)
    (recording_resolve layout colors depth) name evaluate draft body

/-! ## All that is read on one context -/

/-- The states that can come after `c` when templates are read on it; with `inLayout` no other than
those of the layout. -/
inductive Context.ReadsOn (inLayout : Bool) (c : Context σ) : Context σ → Prop
  | refl : ReadsOn inLayout c c
  /-- Any part of a template is read, at any depth, with success or without. -/
  | read (d : Context σ) (depth name evaluate draft body) : ReadsOn inLayout c d →
      ReadsOn inLayout c ((evalBody (evalNested depth) name evaluate draft body).outcome d).2
  | resolve (d : Context σ) (depth spec) : ReadsOn inLayout c d →
      ReadsOn inLayout c ((Info.resolve (evalNested depth) spec).outcome d).2
  /-- Reading goes on elsewhere; nobody else changes the colors of the art. -/
  | move (d e : Context σ) : ReadsOn inLayout c d → e.autoColors = d.autoColors →
      (inLayout = true → e.parsingLayout = d.parsingLayout) → ReadsOn inLayout c e

namespace Context.ReadsOn

/-- A whole template, whether it succeeds or fails. -/
theorem parseLine (h : c.ReadsOn inLayout d) (template : String) :
    c.ReadsOn inLayout ((Template.parseLine template).outcome d).2 := by
  have hread := h.read d maxDepth (String.ofList template.toList) true {} (.read template.toList)
  refine .move _ _ hread ?_ fun _ => ?_
  all_goals
    unfold Template.parseLine evalWhole
    rw [Eval.outcome_bind]
    rcases (evalBody (evalNested maxDepth) (String.ofList template.toList) true {}
      (.read template.toList)).outcome d with ⟨_ | _, _⟩ <;> rfl

theorem continues (h : c.ReadsOn false d) : Continues false c.autoColors d.autoColors := by
  have hself (d : Context σ) : d.Recording d.parsingLayout d.autoColors := ⟨rfl, .refl _ _⟩
  have hart {layout colors later} (h : Continues layout colors later) :
      Continues false colors later := ⟨h.isPrefix, h.nodup, nofun⟩
  induction h with
  | refl => exact .refl _ _
  | read d depth name evaluate draft body _ ih =>
    exact ih.trans (hart (recording_evalBody _ _ depth name evaluate draft body d (hself d)).2)
  | resolve d depth spec _ ih =>
    exact ih.trans (hart (recording_resolve _ _ depth spec d (hself d)).2)
  | move d e _ hcolors _ ih =>
    rw [hcolors]
    exact ih

/-- In the layout. -/
theorem recording (h : c.ReadsOn true d) (hc : c.parsingLayout = true) :
    d.Recording true c.autoColors := by
  induction h with
  | refl => exact ⟨hc, .refl _ _⟩
  | read d depth name evaluate draft body _ ih =>
    exact recording_evalBody _ _ depth name evaluate draft body d ih
  | resolve d depth spec _ ih => exact recording_resolve _ _ depth spec d ih
  | move d e _ hcolors hlayout ih =>
    obtain ⟨hd, hcontinues⟩ := ih
    refine ⟨(hlayout rfl).trans hd, ?_⟩
    rw [hcolors]
    exact hcontinues

end Context.ReadsOn

/-- Whatever is read after the colors of the art were forgotten, with success or without: no color
comes twice, and all that was there stays in its place. In the layout nothing comes, but for the `1`
that may come to an empty list. -/
theorem autoColors_of_readsOn (hc : c.autoColors = []) (hd : c.ReadsOn false d) :
    d.autoColors.Nodup ∧
    (∀ e, d.ReadsOn false e → d.autoColors <+: e.autoColors) ∧
    (d.parsingLayout = true → ∀ e, d.ReadsOn true e →
      (d.autoColors ≠ [] → e.autoColors = d.autoColors) ∧
      (d.autoColors = [] → e.autoColors = [] ∨ e.autoColors = ["1"])) := by
  refine ⟨hd.continues.nodup ?_, fun e he => he.continues.isPrefix, fun hlayout e he => ?_⟩
  · rw [hc]
    exact List.nodup_nil
  · obtain h | ⟨hnil, hseed⟩ := (he.recording hlayout).continues.seed rfl
    · exact ⟨fun _ => h, fun hnil => .inl (h.trans hnil)⟩
    · exact ⟨fun hne => absurd hnil hne, fun _ => .inr hseed⟩

/-- A line of art that fails after two colors, and lines of the layout: with these colors, and after
a reset without any. -/
theorem autoColors_of_readsOn_failure :
    let c : Context Snapshot := Context.reset { config := {}, provider := {} }
    let art := ((parseLine "$\x7bred\x7da$\x7bblue\x7d$\x7bred\x7d$<x>").outcome c).2
    let layout : Context Snapshot := { art with parsingLayout := true }
    let line := ((parseLine "$\x7bgreen\x7d$\x7bauto2\x7d").outcome layout).2
    let empty : Context Snapshot := { art.reset with parsingLayout := true }
    let seeded := ((parseLine "$\x7bgreen\x7d$\x7bauto2\x7d").outcome empty).2
    (c.autoColors = [] ∧ c.ReadsOn false layout ∧ layout.autoColors = ["red", "blue"] ∧
      layout.autoColors.Nodup) ∧
    (layout.parsingLayout = true ∧ layout.ReadsOn true line ∧
      line.autoColors = layout.autoColors) ∧
    empty.autoColors = [] ∧ empty.ReadsOn true seeded ∧ seeded.autoColors = ["1"] := by
  intro c art layout line empty seeded
  have hlayout : c.ReadsOn false layout :=
    .move _ _ (Context.ReadsOn.refl.parseLine _) rfl nofun
  have hline : layout.ReadsOn true line := Context.ReadsOn.refl.parseLine _
  have hseeded : empty.ReadsOn true seeded := Context.ReadsOn.refl.parseLine _
  have hcolors : layout.autoColors = ["red", "blue"] := by decide +kernel
  obtain ⟨hnodup, -, hstays⟩ := autoColors_of_readsOn rfl hlayout
  refine ⟨⟨rfl, hlayout, hcolors, hnodup⟩, ⟨rfl, hline, (hstays rfl line hline).1 ?_⟩, rfl,
    hseeded, ?_⟩
  · rw [hcolors]
    exact List.cons_ne_nil _ _
  · obtain ⟨-, -, hseed⟩ := autoColors_of_readsOn (d := empty) rfl .refl
    exact ((hseed rfl seeded hseeded).2 rfl).resolve_left (by decide +kernel)

end Placard
