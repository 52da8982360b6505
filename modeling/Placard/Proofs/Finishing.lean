import Placard.Proofs.SeparatorReset
import Placard.Proofs.Steps
import Placard.Render

/-! # Computations that come to an end

A computation that goes deeper than templates may go stops as `Halt.tooDeep`. `Eval.Finishes` says
that this does not happen: from every state of a render over the settings and facts the computation
has a result or fails, and it leaves such a state. All steps of templates finish
(`stepClosed_finishes`), so an info tag finishes if the templates that it is made by do, a template
if its tags do, and a render if its lines do (`Render.finishes_renderLines`). -/

namespace Placard

/-- A run came to an end, with a result or with a failure. -/
def Completes {α : Type} (result : Except Halt α) : Prop :=
  (∃ a, result = .ok a) ∨ ∃ failure, result = .error (.failure failure)

theorem completes_map {α β : Type} (f : α → β) {result : Except Halt α} (h : Completes result) :
    Completes (result.map f) := by
  obtain ⟨a, rfl⟩ | ⟨failure, rfl⟩ := h
  · exact .inl ⟨f a, rfl⟩
  · exact .inr ⟨failure, rfl⟩

/-- The state is one of a render over the settings and facts. -/
def Context.Over (config : Config) (facts : Facts) (c : Context Snapshot) : Prop :=
  c.config = config ∧ c.provider.facts = facts

variable {config : Config} {facts : Facts} {α β : Type}

namespace Eval

/-- The computation comes to an end, and leaves a state of the render. -/
def Finishes (config : Config) (facts : Facts) (x : Eval Snapshot α) : Prop :=
  ∀ c, c.Over config facts → Completes (x.outcome c).1 ∧ (x.outcome c).2.Over config facts

namespace Finishes

variable {x : Eval Snapshot α}

theorem pure (a : α) : Finishes config facts (pure a) := fun _ hc => ⟨.inl ⟨a, rfl⟩, hc⟩

theorem ofExcept (r : Except Failure α) : Finishes config facts (ofExcept r) := by
  intro c hc
  cases r with
  | ok a => exact ⟨.inl ⟨a, rfl⟩, hc⟩
  | error failure => exact ⟨.inr ⟨failure, rfl⟩, hc⟩

theorem modifyGet {f : Context Snapshot → α × Context Snapshot}
    (h : ∀ c, c.Over config facts → (f c).2.Over config facts) :
    Finishes config facts (modifyGet f) := fun c hc => ⟨.inl ⟨(f c).1, rfl⟩, h c hc⟩

theorem modify {f : Context Snapshot → Context Snapshot}
    (h : ∀ c, c.Over config facts → (f c).Over config facts) :
    Finishes config facts (modify f : Eval Snapshot PUnit) :=
  fun c hc => ⟨.inl ⟨⟨⟩, rfl⟩, h c hc⟩

theorem report (diagnostic : Diagnostic) : Finishes config facts (report diagnostic) :=
  modify fun _ hc => hc

theorem ask (query : Query) : Finishes config facts (ask query) := modifyGet fun _ hc => hc

/-- What is known of the results of the first part may be used for the second one. -/
theorem bind_of_yields {f : α → Eval Snapshot β} (hx : Finishes config facts x)
    (hf : ∀ a, (∃ c d, c.Over config facts ∧ x.Yields c a d) → Finishes config facts (f a)) :
    Finishes config facts (x >>= f) := by
  intro c hc
  obtain ⟨hend, hd⟩ := hx c hc
  rw [outcome_bind]
  rcases hxc : x.outcome c with ⟨_ | a, d⟩ <;> rw [hxc] at hend hd
  · obtain ⟨_, heq⟩ | ⟨failure, heq⟩ := hend
    · cases heq
    · cases heq
      exact ⟨.inr ⟨failure, rfl⟩, hd⟩
  · exact hf a ⟨c, d, hc, hxc⟩ d hd

theorem bind {f : α → Eval Snapshot β} (hx : Finishes config facts x)
    (hf : ∀ a, Finishes config facts (f a)) : Finishes config facts (x >>= f) :=
  hx.bind_of_yields fun a _ => hf a

/-- What looks at the state first. -/
theorem get_bind {f : Context Snapshot → Eval Snapshot β}
    (hf : ∀ c, c.Over config facts → Finishes config facts (f c)) :
    Finishes config facts (get >>= f) := fun c hc => hf c hc c hc

theorem withoutStyles (hx : Finishes config facts x) : Finishes config facts (withoutStyles x) :=
  fun _ hc => hx _ hc

end Finishes

end Eval

open Eval (Finishes)

theorem finishes_applyColor (token : String) :
    Finishes config facts (Template.applyColor token) := by
  intro c hc
  refine ⟨?_, ?_⟩
  · rw [Template.outcome_applyColor]
    split
    · exact .inl ⟨_, rfl⟩
    rcases ColorToken.resolve c.config token c.autoColors with ⟨failure | resolved, colors⟩
    · exact .inr ⟨failure, rfl⟩
    · exact .inl ⟨_, rfl⟩
  · obtain ⟨_, _, _, _, heq, -⟩ := Template.exists_of_applyColor token c
    rw [heq]
    exact hc

/-- All steps of templates finish. -/
theorem stepClosed_finishes :
    Eval.StepClosed (Context.Over config facts) (Finishes config facts) where
  pure := .pure
  fail failure := .ofExcept (.error failure)
  get c hc := ⟨.inl ⟨c, rfl⟩, hc⟩
  ask _ := .ask _
  report := .report
  applyColor := finishes_applyColor
  remember _ _ := .modifyGet fun _ hc => hc
  cleared := .modify fun _ hc => hc
  bind := .bind_of_yields
  withoutStyles := .withoutStyles

namespace Info

variable {nested : Nested Snapshot}

/-! ## The lines of volumes -/

theorem finishes_injectSeparatorReset (line : List Char) : Finishes config facts
    (modifyGet fun context =>
      { context with sepResetApplied := false }.injectSeparatorReset line) := by
  intro c hc
  obtain ⟨applied, h⟩ := yields_injectSeparatorReset c line
  rw [h]
  exact ⟨.inl ⟨_, rfl⟩, hc⟩

theorem finishes_spliceLines {lines : List (List Char)}
    (hn : ∀ line ∈ lines, Finishes config facts (nested (config.withReset line))) :
    Finishes config facts (spliceLines nested lines) := by
  induction lines with
  | nil => exact .pure _
  | cons line lines ih =>
    obtain ⟨hline, hlines⟩ := List.forall_mem_cons.mp hn
    refine (finishes_injectSeparatorReset line).bind_of_yields fun reset ⟨c, _, hc, hreset⟩ => ?_
    obtain ⟨applied, hline'⟩ := yields_injectSeparatorReset c line
    obtain ⟨rfl, -⟩ := hline'.unique hreset
    rw [hc.1]
    refine hline.bind fun _ => (Finishes.modify ?_).bind fun _ => ih hlines
    exact fun _ hc => hc

theorem finishes_autoDisk
    (hn : ∀ disk ∈ listedVolumes config.autoDisk facts.disks, Finishes config facts
      (nested (config.withReset (fillPlaceholders disk config.autoDisk.format.toList)))) :
    Finishes config facts (autoDisk nested) := by
  refine .get_bind fun c hc => ?_
  refine (Finishes.ask .volumes).bind_of_yields fun disks hdisks => ?_
  obtain ⟨d, _, hd, hyields⟩ := hdisks
  obtain ⟨rfl, -⟩ := Eval.yields_modifyGet.mp hyields
  have hfacts : (Provider.ask .volumes d.provider).1 = facts.disks := congrArg Facts.disks hd.2
  dsimp only
  rw [hfacts, hc.1]
  split
  · exact .pure _
  · refine (finishes_spliceLines fun line hline => ?_).bind fun _ => .pure _
    obtain ⟨disk, hdisk, rfl⟩ := List.mem_map.mp hline
    exact hn disk hdisk

end Info

namespace Render

open Template (parseLine)

variable (h : ∀ template, Finishes config facts (parseLine template))

include h

theorem finishes_parseArt (art : String) : Finishes config facts (parseArt art) := by
  refine (Finishes.modify ?_).bind fun _ => stepClosed_finishes.mapM (fun line => ?_) _
  · exact fun _ hc => hc
  · exact (h _).bind fun _ => .pure _

theorem finishes_parseLayoutLine (template : String) :
    Finishes config facts (parseLayoutLine template) := by
  refine (Info.finishes_injectSeparatorReset _).bind fun line => ?_
  refine ((h _).bind fun _ => .pure _).bind fun rich => .get_bind fun c _ => ?_
  dsimp only
  split
  · exact .pure _
  · refine (Finishes.modify ?_).bind fun _ => .pure _
    exact fun _ hc => hc

theorem finishes_parseLayout : Finishes config facts parseLayout := by
  refine (Finishes.modify ?_).bind fun _ => .get_bind fun c _ => ?_
  · exact fun _ hc => hc
  · exact (stepClosed_finishes.mapM (finishes_parseLayoutLine h) _).bind fun _ => .pure _

/-- A render finishes if its lines do. -/
theorem finishes_renderLines (art : String) : Finishes config facts (renderLines art) := by
  refine .get_bind fun c _ => ?_
  have hrest (drawn : List ArtLine) : Finishes config facts (do
      if c.config.printLogoOnly then
        return List.replicate c.config.logoPaddingTop (RichText.plain []) ++ drawn.map (·.rich)
      return Layout.compose c.config drawn (← parseLayout) : Eval Snapshot _) := by
    split
    · exact .pure _
    · exact (finishes_parseLayout h).bind fun _ => .pure _
  dsimp only
  split
  · exact (Finishes.pure _).bind hrest
  · exact (finishes_parseArt h art).bind hrest

end Render

end Placard
