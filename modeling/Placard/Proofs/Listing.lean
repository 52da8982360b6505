import Placard.Proofs.MissingLines
import Placard.Proofs.Selection

/-! # The lines of the volumes

Each time a line of the layout asks for the volumes, the lines of the selected ones are read and put
aside, and nothing else is (`Info.leadsByLists_parseLine`). Where these do not ask for the volumes
themselves, a line of the layout is shown as its listings, one after another, or else as its own
text (`Render.blocks_of_layout`). A line that is nothing but the tag is left out where no volume is
selected, unless a reset takes the tag apart (`Render.shown_though_none_selected`). -/

namespace Placard

open Template

variable {config : Config} {facts : Facts} {c d e : Context Snapshot}

namespace Context

/-- How often the volumes were asked for. -/
def volumeQueries (c : Context Snapshot) : Nat := c.provider.asked.count .volumes

/-- A state of a render over the settings and facts, in the layout or in the art. -/
structure Amid (config : Config) (facts : Facts) (layout : Bool) (c : Context Snapshot) : Prop
    extends Reading config layout c where
  facts : c.provider.facts = facts

abbrev InLayout (config : Config) (facts : Facts) (c : Context Snapshot) : Prop :=
  c.Amid config facts true

/-- From one state to the other, no line was put aside and the volumes were not asked for. -/
structure Apart (c d : Context Snapshot) : Prop where
  config : d.config = c.config
  parsingLayout : d.parsingLayout = c.parsingLayout
  facts : d.provider.facts = c.provider.facts
  spliced : d.spliced = c.spliced
  volumeQueries : d.volumeQueries = c.volumeQueries

theorem Apart.refl (c : Context Snapshot) : c.Apart c := ⟨rfl, rfl, rfl, rfl, rfl⟩

theorem Apart.trans (h : c.Apart d) (h' : d.Apart e) : c.Apart e where
  config := h'.config.trans h.config
  parsingLayout := h'.parsingLayout.trans h.parsingLayout
  facts := h'.facts.trans h.facts
  spliced := h'.spliced.trans h.spliced
  volumeQueries := h'.volumeQueries.trans h.volumeQueries

theorem InLayout.apart (hc : c.InLayout config facts) (h : c.Apart d) :
    d.InLayout config facts where
  config := h.config.trans hc.config
  parsingLayout := h.parsingLayout.trans hc.parsingLayout
  facts := h.facts.trans hc.facts

theorem apart_applyColor (token : String) (c : Context Snapshot) :
    c.Apart ((applyColor token).outcome c).2 := by
  obtain ⟨_, _, _, _, heq, -⟩ := exists_of_applyColor token c
  rw [heq]
  exact ⟨rfl, rfl, rfl, rfl, rfl⟩

theorem apart_ask {query : Query} (h : query ≠ .volumes) (c : Context Snapshot) :
    c.Apart { c with provider := (Provider.ask query c.provider).2 } :=
  ⟨rfl, rfl, rfl, rfl, List.count_cons_of_ne h⟩

/-- The state after the volumes were asked for. -/
def volumesAsked (c : Context Snapshot) : Context Snapshot :=
  { c with provider := (Provider.ask .volumes c.provider).2 }

theorem volumeQueries_volumesAsked (c : Context Snapshot) :
    c.volumesAsked.volumeQueries = c.volumeQueries + 1 := List.count_cons_self

/-- The state where a line begins, which may have got its reset. -/
def begun (c : Context Snapshot) (applied : Bool) : Context Snapshot :=
  { c with sepResetApplied := applied }

/-- The state after a line was put aside. -/
def put (c : Context Snapshot) (line : RichText) : Context Snapshot :=
  { c with spliced := c.spliced ++ [line] }

theorem InLayout.volumesAsked (hc : c.InLayout config facts) :
    c.volumesAsked.InLayout config facts := { hc with }

theorem InLayout.begun (hc : c.InLayout config facts) (applied : Bool) :
    (c.begun applied).InLayout config facts := { hc with }

theorem InLayout.put (hc : c.InLayout config facts) (line : RichText) :
    (c.put line).InLayout config facts := { hc with }

end Context

/-! ## Runs in the layout -/

/-- A relation between states that is kept where nothing happens to the lines of volumes, and that
goes on from run to run. -/
structure Steady (R : Context Snapshot → Context Snapshot → Prop) : Prop where
  apart {c d : Context Snapshot} : c.Apart d → R c d
  trans {c d e : Context Snapshot} : R c d → R d e → R c e

/-- Runs in the layout stay there and lead from one state to a related one. -/
def Eval.Leads (config : Config) (facts : Facts) (R : Context Snapshot → Context Snapshot → Prop)
    {α : Type} (x : Eval Snapshot α) : Prop :=
  ∀ c a d, c.InLayout config facts → x.Yields c a d → d.InLayout config facts ∧ R c d

namespace Steady

open Eval (Leads)

variable {R : Context Snapshot → Context Snapshot → Prop} (hR : Steady R) {α β : Type}

include hR

theorem leads_modifyGet {f : Context Snapshot → α × Context Snapshot}
    (h : ∀ c : Context Snapshot, c.Apart (f c).2) :
    Leads config facts R (modifyGet f : Eval Snapshot α) := by
  intro c a d hc hd
  obtain ⟨-, rfl⟩ := Eval.yields_modifyGet.mp hd
  exact ⟨hc.apart (h c), hR.apart (h c)⟩

theorem leads_pure (a : α) : Leads config facts R (pure a) := by
  intro c b d hc hd
  obtain ⟨-, rfl⟩ := Eval.yields_pure.mp hd
  exact ⟨hc, hR.apart (.refl d)⟩

theorem leads_bind {x : Eval Snapshot α} {f : α → Eval Snapshot β} (hx : Leads config facts R x)
    (hf : ∀ a, (∃ c d, c.InLayout config facts ∧ x.Yields c a d) → Leads config facts R (f a)) :
    Leads config facts R (x >>= f) := by
  intro c b e hc he
  obtain ⟨a, d, hd, he⟩ := Eval.yields_bind.mp he
  obtain ⟨hdin, hcd⟩ := hx c a d hc hd
  obtain ⟨hein, hde⟩ := hf a ⟨c, d, hc, hd⟩ d b e hdin he
  exact ⟨hein, hR.trans hcd hde⟩

theorem leads_withoutStyles {x : Eval Snapshot α} (hx : Leads config facts R x) :
    Leads config facts R (Eval.withoutStyles x) := by
  intro c a d hc hd
  have hin : c.Apart { c with styles.active := [] } := ⟨rfl, rfl, rfl, rfl, rfl⟩
  unfold Eval.Yields at hd
  rw [Eval.outcome_withoutStyles] at hd
  obtain ⟨hresult, rfl⟩ := Prod.mk.inj hd
  obtain ⟨hdin, hsteps⟩ := hx _ a _ (hc.apart hin) (Prod.ext hresult rfl)
  refine ⟨{ hdin with }, hR.trans (hR.apart hin) (hR.trans hsteps (hR.apart ?_))⟩
  exact ⟨rfl, rfl, rfl, rfl, rfl⟩

/-- Each step of a template leads to a related state. -/
theorem stepClosed : Eval.StepClosed (Context.InLayout config facts) (Leads config facts R) where
  pure := hR.leads_pure
  fail failure := fun _ _ _ _ h => absurd h Eval.not_yields_throw
  get := hR.leads_modifyGet fun c => .refl c
  ask h := hR.leads_modifyGet (Context.apart_ask h)
  report diagnostic := hR.leads_modifyGet fun _ => ⟨rfl, rfl, rfl, rfl, rfl⟩
  applyColor token := by
    intro c a d hc hd
    have happly := Context.apart_applyColor token c
    rw [hd] at happly
    exact ⟨hc.apart happly, hR.apart happly⟩
  remember key value := hR.leads_modifyGet fun _ => ⟨rfl, rfl, rfl, rfl, rfl⟩
  cleared := hR.leads_modifyGet fun _ => ⟨rfl, rfl, rfl, rfl, rfl⟩
  bind := hR.leads_bind
  withoutStyles := hR.leads_withoutStyles

/-- A template leads to a related state if the templates in it do, and the lists of volumes. -/
theorem leads_evalWhole (hn : ∀ template, Leads config facts R (evalNested depth template))
    (hvolumes : Leads config facts R (Info.autoDisk (evalNested depth))) (template : List Char) :
    Leads config facts R (evalWhole (evalNested depth) template) := by
  refine hR.stepClosed.evalWhole (within_unrestricted template)
    ⟨fun _ => ?_, fun _ percent inverted => ?_⟩
  · exact hR.stepClosed.resolve_of_nested hn fun _ => hvolumes
  · exact hR.stepClosed.get_bind fun _ _ => hn _

theorem leads_evalNested
    (hvolumes : ∀ depth, (∀ template, Leads config facts R (evalNested depth template)) →
      Leads config facts R (Info.autoDisk (evalNested depth)))
    (depth : Nat) (template : List Char) : Leads config facts R (evalNested depth template) := by
  induction depth generalizing template with
  | zero => exact fun _ _ _ _ h => absurd h Eval.not_yields_throw
  | succ depth ih =>
    have hwhole := hR.leads_evalWhole ih (hvolumes depth ih) template
    exact hR.leads_withoutStyles (hR.stepClosed.seq hwhole fun _ => hR.leads_pure _)

/-- Templates that cannot ask for the volumes lead to a related state. -/
theorem leads_of_withoutVolumes (hpercent : ∀ percent inverted, Within withoutVolumes
      (Info.percentageTemplate config.percentageColors percent inverted)) (depth : Nat)
    {template : List Char} (hwithin : Within withoutVolumes template) :
    Leads config facts R (evalNested depth template) := by
  induction depth generalizing template with
  | zero => exact fun _ _ _ _ h => absurd h Eval.not_yields_throw
  | succ depth ih =>
    have hp (percent : Float) (inverted : Bool) :
        Leads config facts R (Info.coloredPercentage (evalNested depth) percent inverted) := by
      refine hR.stepClosed.get_bind fun c hc => ?_
      rw [hc.config]
      exact ih (hpercent percent inverted)
    have hs (module : Info.Module) :
        Leads config facts R (Info.summary (evalNested depth) module) := by
      have hle : (flatShape Info.AsksMember).Le withoutVolumes :=
        ⟨Info.AsksMember.ne_volumesTag, False.elim, Iff.rfl⟩
      refine hR.stepClosed.summary module fun template htemplate => ih ?_
      exact (bodyAlike_of_flat (Info.flat_of_summarizes htemplate)).mono hle
    refine hR.stepClosed.evalNested hwithin ⟨fun hspec => ?_, fun _ => hp⟩
    refine hR.stepClosed.resolve (fun _ => hR.stepClosed.compute ?_ ?_) (absurd · hspec)
    · exact fun _ member module _ _ => hR.stepClosed.member hp module _ fun _ => hs module
    · exact fun _ module _ _ => hs module

end Steady

/-! ## What is put aside -/

namespace Info

/-- In the layout the tag for the volumes lists them. -/
theorem yields_volumesTag_iff {nested : Nested Snapshot} {value : Value}
    (hlayout : c.parsingLayout = true) :
    (resolve nested volumesTag).Yields c value d ↔ (autoDisk nested).Yields c value d := by
  have hget : (get : Eval Snapshot _).Yields c c c := rfl
  rw [resolve_volumesTag, expand, hget.bind_iff, hlayout, Bool.not_true,
    if_neg Bool.false_ne_true, if_pos rfl]

/-- The line of a volume, with the reset at its separator. -/
def volumeLine (config : Config) (disk : DiskInfo) : List Char :=
  config.withReset (fillPlaceholders disk config.autoDisk.format.toList)

/-- From `c` to `d` the lines of the volumes are read one after another and put aside. Meanwhile
the volumes were asked for `inside` times. -/
inductive ReadsVolumes (config : Config) :
    Context Snapshot → List DiskInfo → List RichText → Nat → Context Snapshot → Prop
  | nil (c : Context Snapshot) : ReadsVolumes config c [] [] 0 c
  | cons {c c' d : Context Snapshot} {disk disks line lines inside later} (applied depth) :
      (evalNested depth (volumeLine config disk)).Yields (c.begun applied) line c' →
      c'.volumeQueries = c.volumeQueries + inside →
      ReadsVolumes config (c'.put line) disks lines later d →
      ReadsVolumes config c (disk :: disks) (line :: lines) (inside + later) d

/-- From `c` to `d` the volumes are asked for and listed, once for each of these groups of lines.
While the lines were read the volumes were asked for `inside` times. -/
inductive Lists (config : Config) (facts : Facts) :
    Context Snapshot → List (List RichText) → Nat → Context Snapshot → Prop
  | nil {c d : Context Snapshot} : c.Apart d → Lists config facts c [] 0 d
  | cons {c c' d e : Context Snapshot} {lines groups inside later} : c.Apart c' →
      ReadsVolumes config c'.volumesAsked (listedVolumes config.autoDisk facts.disks) lines inside
        d →
      Lists config facts d groups later e →
      Lists config facts c (lines :: groups) (inside + later) e

variable {groups groups' : List (List RichText)} {inside inside' : Nat}

theorem Lists.apart_left (hcd : c.Apart d) (h : Lists config facts d groups inside e) :
    Lists config facts c groups inside e := by
  cases h with
  | nil h => exact .nil (hcd.trans h)
  | cons h hlines hrest => exact .cons (hcd.trans h) hlines hrest

theorem Lists.trans (h : Lists config facts c groups inside d)
    (h' : Lists config facts d groups' inside' e) :
    Lists config facts c (groups ++ groups') (inside + inside') e := by
  induction h with
  | nil hcd =>
    rw [Nat.zero_add]
    exact h'.apart_left hcd
  | cons hapart hlines _ ih =>
    rw [Nat.add_assoc]
    exact .cons hapart hlines (ih h')

theorem steady_lists (config : Config) (facts : Facts) :
    Steady fun c d => ∃ groups inside, Lists config facts c groups inside d where
  apart h := ⟨[], 0, .nil h⟩
  trans := by
    rintro c d e ⟨groups, inside, h⟩ ⟨groups', inside', h'⟩
    exact ⟨groups ++ groups', inside + inside', h.trans h'⟩

/-! ## Listings in a run -/

theorem ReadsVolumes.volumeQueries {disks : List DiskInfo} {lines : List RichText}
    (h : ReadsVolumes config c disks lines inside d) :
    d.volumeQueries = c.volumeQueries + inside := by
  induction h with
  | nil => rfl
  | cons _ _ _ hinside _ ih =>
    rw [← Nat.add_assoc, ← hinside]
    exact ih

theorem ReadsVolumes.isEmpty {disks : List DiskInfo} {lines : List RichText}
    (h : ReadsVolumes config c disks lines inside d) : lines.isEmpty = disks.isEmpty := by
  cases h <;> rfl

/-- The volumes are asked for once for each listing, and in the lines. -/
theorem Lists.volumeQueries (h : Lists config facts c groups inside d) :
    d.volumeQueries = c.volumeQueries + groups.length + inside := by
  induction h with
  | nil h => exact h.volumeQueries
  | cons hapart hlines _ ih =>
    rw [ih, hlines.volumeQueries, Context.volumeQueries_volumesAsked, hapart.volumeQueries,
      List.length_cons]
    omega

theorem Lists.apart (h : Lists config facts c groups inside d)
    (hsame : d.volumeQueries = c.volumeQueries) : c.Apart d := by
  cases h with
  | nil h => exact h
  | cons hapart hlines hrest =>
    have hcount := (Lists.cons hapart hlines hrest).volumeQueries
    rw [List.length_cons] at hcount
    omega

open Eval (Leads)

/-- Runs list volumes. -/
abbrev LeadsByLists (config : Config) (facts : Facts) {α : Type} (x : Eval Snapshot α) : Prop :=
  Leads config facts (fun c d => ∃ groups inside, Lists config facts c groups inside d) x

section

variable {depth : Nat}
  (hn : ∀ template, LeadsByLists config facts (evalNested depth template))

include hn

theorem readsVolumes_of_spliceLines {disks : List DiskInfo} {u : Unit}
    (hc : c.InLayout config facts)
    (h : (spliceLines (evalNested depth)
      (disks.map (fillPlaceholders · config.autoDisk.format.toList))).Yields c u d) :
    d.InLayout config facts ∧ ∃ lines inside, ReadsVolumes config c disks lines inside d := by
  induction disks generalizing c with
  | nil =>
    obtain ⟨-, rfl⟩ := Eval.yields_pure.mp h
    exact ⟨hc, [], 0, .nil d⟩
  | cons disk disks ih =>
    obtain ⟨applied, hreset⟩ :=
      yields_injectSeparatorReset c (fillPlaceholders disk config.autoDisk.format.toList)
    obtain rfl := hc.config
    rw [List.map_cons, spliceLines, hreset.bind_iff] at h
    obtain ⟨line, c', hline, h⟩ := Eval.yields_bind.mp h
    obtain ⟨_, _, hmodify, h⟩ := Eval.yields_bind.mp h
    obtain rfl := Eval.yields_modify.mp hmodify
    obtain ⟨hc', groups, inside, hlists⟩ := hn _ _ _ _ (hc.begun applied) hline
    obtain ⟨hd, lines, later, hrest⟩ := ih (hc'.put line) h
    refine ⟨hd, line :: lines, groups.length + inside + later, .cons applied depth hline ?_ hrest⟩
    rw [hlists.volumeQueries, Nat.add_assoc]
    rfl

/-- The lines of all volumes that are listed are read; without any, a fact is missing. -/
theorem readsVolumes_of_autoDisk {value : Value} (hc : c.InLayout config facts)
    (h : (autoDisk (evalNested depth)).Yields c value d) :
    d.InLayout config facts ∧ ∃ lines inside, ReadsVolumes config c.volumesAsked
      (listedVolumes config.autoDisk facts.disks) lines inside d ∧
      value = if lines.isEmpty then .missing else .text "" := by
  have hget : (get : Eval Snapshot _).Yields c c c := rfl
  rw [autoDisk, hget.bind_iff] at h
  obtain ⟨_, _, hask, h⟩ := Eval.yields_bind.mp h
  obtain ⟨rfl, rfl⟩ := Eval.yields_modifyGet.mp hask
  have hfacts : (Provider.ask .volumes c.provider).1 = facts.disks := congrArg Facts.disks hc.facts
  obtain rfl := hc.config
  dsimp only at h
  rw [hfacts] at h
  change Eval.Yields _ c.volumesAsked value d at h
  split at h
  · next hnone =>
    obtain ⟨rfl, rfl⟩ := Eval.yields_pure.mp h
    rw [List.isEmpty_iff, List.map_eq_nil_iff] at hnone
    rw [hnone]
    exact ⟨hc.volumesAsked, [], 0, .nil _, rfl⟩
  · next hsome =>
    obtain ⟨_, _, hsplice, h⟩ := Eval.yields_bind.mp h
    obtain ⟨rfl, rfl⟩ := Eval.yields_pure.mp h
    obtain ⟨hd, lines, inside, hlines⟩ := readsVolumes_of_spliceLines hn hc.volumesAsked hsplice
    refine ⟨hd, lines, inside, hlines, (if_neg ?_).symm⟩
    rwa [hlines.isEmpty, ← List.isEmpty_map]

theorem leadsByLists_autoDisk : LeadsByLists config facts (autoDisk (evalNested depth)) := by
  intro c value d hc h
  obtain ⟨hd, lines, inside, hlines, -⟩ := readsVolumes_of_autoDisk hn hc h
  exact ⟨hd, [lines], inside + 0, .cons (.refl c) hlines (.nil (.refl d))⟩

end

theorem leadsByLists_evalNested (depth : Nat) (template : List Char) :
    LeadsByLists config facts (evalNested depth template) :=
  (steady_lists config facts).leads_evalNested (fun _ hn => leadsByLists_autoDisk hn) depth template

/-- Nothing but the listings of a template puts lines aside. -/
theorem leadsByLists_parseLine (template : String) :
    LeadsByLists config facts (parseLine template) :=
  (steady_lists config facts).leads_evalWhole (leadsByLists_evalNested maxDepth)
    (leadsByLists_autoDisk (leadsByLists_evalNested maxDepth)) template.toList

/-! ## The lines of a listing -/

/-- What the line of the volume stands for in some state of the render. -/
def LineOf (config : Config) (facts : Facts) (disk : DiskInfo) (line : RichText) : Prop :=
  ∃ depth c d, c.InLayout config facts ∧
    (evalNested depth (volumeLine config disk)).Yields c line d

/-- One line for each selected volume, in the order of the volumes. -/
def Listing (config : Config) (facts : Facts) (lines : List RichText) : Prop :=
  ∃ disks, Picks facts.disks (Selected config.autoDisk facts.disks) disks ∧
    List.Forall₂ (LineOf config facts) disks lines

end Info

/-- The line of a volume does not ask for the volumes. -/
def Config.ListsFlatly (config : Config) (facts : Facts) : Prop :=
  ∀ disk ∈ Info.listedVolumes config.autoDisk facts.disks, ∀ depth c line d,
    c.InLayout config facts → (evalNested depth (Info.volumeLine config disk)).Yields c line d →
      d.volumeQueries = c.volumeQueries

theorem Config.listsFlatly_of_within
    (hlines : ∀ disk ∈ Info.listedVolumes config.autoDisk facts.disks,
      Within withoutVolumes (Info.volumeLine config disk))
    (hpercent : ∀ percent inverted, Within withoutVolumes
      (Info.percentageTemplate config.percentageColors percent inverted)) :
    config.ListsFlatly facts := by
  have hR : Steady fun c d => d.volumeQueries = c.volumeQueries :=
    ⟨Context.Apart.volumeQueries, fun h h' => h'.trans h⟩
  intro disk hdisk depth c line d hc h
  exact (hR.leads_of_withoutVolumes hpercent depth (hlines disk hdisk) c line d hc h).2

namespace Info

variable {disks : List DiskInfo} {lines : List RichText} {groups : List (List RichText)}
  {inside : Nat}

/-- A line that does not ask for the volumes puts no other one aside. -/
theorem of_yields_begun {depth : Nat} {template : List Char} {applied : Bool} {line : RichText}
    (hc : c.InLayout config facts)
    (h : (evalNested depth template).Yields (c.begun applied) line d) :
    d.InLayout config facts ∧ (d.volumeQueries = c.volumeQueries → d.spliced = c.spliced) := by
  obtain ⟨hd, _, _, hlists⟩ := leadsByLists_evalNested depth template _ _ _ (hc.begun applied) h
  exact ⟨hd, fun hsame => (hlists.apart hsame).spliced⟩

theorem ReadsVolumes.inLayout (h : ReadsVolumes config c disks lines inside d)
    (hc : c.InLayout config facts) : d.InLayout config facts := by
  induction h with
  | nil => exact hc
  | cons applied depth hline _ _ ih => exact ih ((of_yields_begun hc hline).1.put _)

theorem ReadsVolumes.lineOf (h : ReadsVolumes config c disks lines inside d)
    (hc : c.InLayout config facts) : List.Forall₂ (LineOf config facts) disks lines := by
  induction h with
  | nil => exact .nil
  | cons applied depth hline _ _ ih =>
    exact .cons ⟨depth, _, _, hc.begun applied, hline⟩ (ih ((of_yields_begun hc hline).1.put _))

theorem ReadsVolumes.spliced (h : ReadsVolumes config c disks lines inside d)
    (hc : c.InLayout config facts) (hinside : inside = 0) : d.spliced = c.spliced ++ lines := by
  induction h with
  | nil => exact (List.append_nil _).symm
  | cons applied depth hline hcount _ ih =>
    obtain ⟨rfl, rfl⟩ := Nat.add_eq_zero_iff.mp hinside
    obtain ⟨hc', hsame⟩ := of_yields_begun hc hline
    rw [ih (hc'.put _) rfl, List.append_cons, ← hsame hcount]
    rfl

theorem ReadsVolumes.flat (h : ReadsVolumes config c disks lines inside d)
    (hc : c.InLayout config facts)
    (hflat : ∀ disk ∈ disks, ∀ depth c line d, c.InLayout config facts →
      (evalNested depth (volumeLine config disk)).Yields c line d →
        d.volumeQueries = c.volumeQueries) : inside = 0 := by
  induction h with
  | nil => rfl
  | cons applied depth hline hcount _ ih =>
    obtain ⟨hfirst, hrest⟩ := List.forall_mem_cons.mp hflat
    have hsame := hfirst depth _ _ _ (hc.begun applied) hline
    have hlater := ih ((of_yields_begun hc hline).1.put _) hrest
    exact Nat.add_eq_zero_iff.mpr ⟨Nat.add_eq_left.mp (hcount.symm.trans hsame), hlater⟩

/-- Every group has the lines of the selected volumes. -/
theorem Lists.listing (h : Lists config facts c groups inside d) (hc : c.InLayout config facts) :
    ∀ lines ∈ groups, Listing config facts lines := by
  induction h with
  | nil => exact nofun
  | cons hapart hlines _ ih =>
    have hasked := (hc.apart hapart).volumesAsked
    exact List.forall_mem_cons.mpr ⟨⟨_, picks_listedVolumes _ _, hlines.lineOf hasked⟩,
      ih (hlines.inLayout hasked)⟩

/-- The groups are put aside one after another. -/
theorem Lists.spliced (h : Lists config facts c groups inside d) (hc : c.InLayout config facts)
    (hinside : inside = 0) : d.spliced = c.spliced ++ groups.flatten := by
  induction h with
  | nil h => rw [h.spliced, List.flatten_nil, List.append_nil]
  | cons hapart hlines _ ih =>
    obtain ⟨rfl, rfl⟩ := Nat.add_eq_zero_iff.mp hinside
    have hasked := (hc.apart hapart).volumesAsked
    rw [ih (hlines.inLayout hasked) rfl, hlines.spliced hasked rfl, List.flatten_cons,
      List.append_assoc]
    exact congrArg (· ++ _) hapart.spliced

theorem Lists.flat (h : Lists config facts c groups inside d) (hc : c.InLayout config facts)
    (hflat : config.ListsFlatly facts) : inside = 0 := by
  induction h with
  | nil => rfl
  | cons hapart hlines _ ih =>
    have hasked := (hc.apart hapart).volumesAsked
    exact Nat.add_eq_zero_iff.mpr ⟨hlines.flat hasked hflat, ih (hlines.inLayout hasked)⟩

end Info

namespace Render

open Info

/-! ## Lines of the layout -/

/-- Each time the tag for the volumes is evaluated, the volumes are asked for and listed once. -/
theorem lists_of_volumesTag {depth : Nat} {value : Value} (hc : c.InLayout config facts)
    (h : (resolve (evalNested depth) volumesTag).Yields c value d) : ∃ lines inside,
      Lists config facts c [lines] inside d ∧ Listing config facts lines ∧
      value = if lines.isEmpty then .missing else .text "" := by
  rw [yields_volumesTag_iff hc.parsingLayout] at h
  obtain ⟨-, lines, inside, hlines, hvalue⟩ :=
    readsVolumes_of_autoDisk (leadsByLists_evalNested depth) hc h
  have hlists : Lists config facts c [lines] inside d := .cons (.refl c) hlines (.nil (.refl d))
  exact ⟨lines, inside, hlists, hlists.listing hc lines (List.mem_singleton_self lines), hvalue⟩

/-- Where no volume is selected, the tag for the volumes stands for a missing fact. -/
theorem yields_volumesTag (nested : Nested Snapshot) (hc : c.InLayout config facts)
    (hnone : ∀ index, ¬ Selected config.autoDisk facts.disks index) :
    (resolve nested volumesTag).Yields c .missing c.volumesAsked := by
  have hlisted := (picks_listedVolumes config.autoDisk facts.disks).eq_nil hnone
  have hget : (get : Eval Snapshot _).Yields c c c := rfl
  have hask : (Eval.ask .volumes : Eval Snapshot _).Yields c facts.disks c.volumesAsked :=
    Eval.yields_modifyGet.mpr ⟨congrArg Facts.disks hc.facts.symm, rfl⟩
  rw [yields_volumesTag_iff hc.parsingLayout, autoDisk, hget.bind_iff, hask.bind_iff, hc.config,
    hlisted]
  rfl

/-- So does a template that is nothing but the tag. -/
theorem exists_missing_of_volumesTemplate (hc : c.InLayout config facts)
    (hnone : ∀ index, ¬ Selected config.autoDisk facts.disks index) : ∃ parsed d,
    (parseLine (String.ofList volumesTemplate)).Yields c parsed d ∧
      isMissing parsed.rich = true := by
  let nested : Nested Snapshot := evalNested maxDepth
  let name := String.ofList volumesTemplate
  have htag : (evalTag nested name true (.info (.ofChars volumesTag))).Yields c
      { text := Value.missing.toRich } c.volumesAsked := by
    obtain ⟨draft, hdraft, htext⟩ := yields_ofChars nested name true {} volumesTag c
    replace htext : draft.text.text = volumesTag := htext
    unfold evalTag
    rw [hdraft.bind_iff, isClosed_ofChars, htext]
    exact Eval.yields_bind.mpr ⟨_, _, yields_volumesTag nested hc hnone, rfl⟩
  let styles := if c.config.disableColors then [] else c.styles.active
  let added := ({} : Draft).addPiece styles { text := Value.missing.toRich }
  let draft := ({} : Draft).edited added (.replace 12 Value.missing.toRich.text)
  have hbody : (evalBody nested name true {} (.read volumesTemplate)).Yields c draft
      c.volumesAsked := by
    rw [read_volumesTemplate]
    unfold evalBody
    rw [htag.bind_iff]
    rfl
  have htext : added.text.text = missingMark.toList := by
    rw [Piece.text_addPiece]
    rfl
  refine ⟨{ rich := added.text, plain := draft.plain volumesTemplate },
    { c.volumesAsked with styles := c.styles.cleared }, ?_, ?_⟩
  · unfold parseLine
    rw [String.toList_ofList]
    exact Eval.yields_bind.mpr ⟨draft, _, hbody, rfl⟩
  · rw [isMissing_iff]
    exact htext ▸ List.infix_refl added.text.text

/-- Unless the reset comes between its first two characters, so that it is no tag. -/
theorem isMissing_of_volumesTemplate (hc : c.InLayout config facts)
    (hnone : ∀ index, ¬ Selected config.autoDisk facts.disks index)
    (hplace : ∀ rest, config.resetPlace? volumesTemplate ≠ some (['$'], rest)) {applied : Bool}
    {parsed : Parsed}
    (h : (parseLine (String.ofList (config.withReset volumesTemplate))).Yields (c.begun applied)
      parsed d) : isMissing parsed.rich = true := by
  obtain ⟨plain, _, hplain, hmissing⟩ := exists_missing_of_volumesTemplate hc hnone
  have hreset : ResetIn volumesTemplate (config.withReset volumesTemplate) := by
    refine resetIn_withReset fun before rest hparts => ?_
    have happend := Config.append_of_resetPlace? hparts
    refine isGap_of_plain (fun hescape => ?_) fun hdollar => ?_
    · have : '\\' ∉ volumesTemplate := by decide
      exact this (happend ▸ List.mem_append_left _ hescape)
    · obtain ⟨front, rfl⟩ := List.getLast?_eq_some_iff.mp hdollar
      cases front with
      | nil => exact hplace rest hparts
      | cons first front =>
        have : '$' ∉ volumesTemplate.tail := by decide
        rw [← happend] at this
        simp at this
  have htext := text_eq_of_resetIn hreset (Coupling.sameText_self c applied) hplain h
  rw [isMissing_iff] at hmissing ⊢
  rwa [htext]

/-- A line of the layout is read from `c` to `d`. It asks for the volumes once for each group of
lines, and `inside` times in these lines. What takes its place is its own. -/
structure Block (config : Config) (facts : Facts) (template : String) (c : Context Snapshot)
    (parsed : Parsed) (groups : List (List RichText)) (inside : Nat) (own : List RichText)
    (d : Context Snapshot) : Prop where
  reads : ∃ applied, (parseLine (String.ofList (config.withReset template.toList))).Yields
    (c.begun applied) parsed d
  lists : Lists config facts c groups inside d
  volumeQueries : d.volumeQueries = c.volumeQueries + groups.length + inside
  listing : ∀ lines ∈ groups, Listing config facts lines
  own_eq : own = if d.spliced.isEmpty then [parsed.rich] else d.spliced
  /-- Where no line of a volume asks for the volumes itself, nothing else takes the place. -/
  spliced : inside = 0 → d.spliced = groups.flatten
  flat : config.ListsFlatly facts → inside = 0
  /-- A line that does not ask for the volumes stands for its own text. -/
  plain : groups = [] → own = [parsed.rich]
  lone : template = "$<auto.disk>" → (∀ index, ¬ Selected config.autoDisk facts.disks index) →
    (∀ rest, config.resetPlace? template.toList ≠ some (['$'], rest)) →
      own = [parsed.rich] ∧ isMissing parsed.rich = true

/-- The lines of the layout are read one after another. What is put aside for one of them is not
left for the next one. -/
inductive Blocks (config : Config) (facts : Facts) :
    Context Snapshot → List String → List (List RichText) → Context Snapshot → Prop
  | nil (c : Context Snapshot) : Blocks config facts c [] [] c
  | cons {c d e : Context Snapshot} {template templates parsed groups inside own blocks} :
      Block config facts template c parsed groups inside own d →
      Blocks config facts { d with spliced := [] } templates blocks e →
      Blocks config facts c (template :: templates) (own :: blocks) e

theorem exists_block (hc : c.InLayout config facts) (hspliced : c.spliced = []) {template : String}
    {own : List RichText} (h : (parseLayoutLine template).Yields c own e) :
    ∃ parsed groups inside d, Block config facts template c parsed groups inside own d ∧
      e = { d with spliced := [] } ∧ e.InLayout config facts := by
  obtain ⟨-, applied, parsed, d, hparsed, howns, rfl⟩ :=
    exists_of_parseLayoutLine ⟨hc.toReading, hspliced⟩ h
  obtain ⟨hd, groups, inside, hlists⟩ := leadsByLists_parseLine _ _ _ _ (hc.begun applied) hparsed
  have hapart : c.Apart (c.begun applied) := ⟨rfl, rfl, rfl, rfl, rfl⟩
  replace hlists := hlists.apart_left hapart
  have hputs (hinside : inside = 0) : d.spliced = groups.flatten := by
    rw [hlists.spliced hc hinside, hspliced, List.nil_append]
  have hlone (hnone : ∀ index, ¬ Selected config.autoDisk facts.disks index) :
      d.spliced = [] := by
    have hlisted := (picks_listedVolumes config.autoDisk facts.disks).eq_nil hnone
    have hflat : config.ListsFlatly facts := by
      intro disk hdisk
      rw [hlisted] at hdisk
      cases hdisk
    rw [hputs (hlists.flat hc hflat), List.flatten_eq_nil_iff]
    intro lines hlines
    obtain ⟨disks, hpicks, hlineOf⟩ := hlists.listing hc lines hlines
    rw [hpicks.eq_nil hnone] at hlineOf
    cases hlineOf
    rfl
  refine ⟨parsed, groups, inside, d, ⟨⟨applied, hparsed⟩, hlists, hlists.volumeQueries,
    hlists.listing hc, howns, hputs, hlists.flat hc, ?_, ?_⟩, rfl, { hd with }⟩
  · rintro rfl
    cases hlists
    rw [howns, hputs rfl]
    rfl
  · rintro rfl hnone hplace
    rw [howns, hlone hnone]
    exact ⟨rfl, isMissing_of_volumesTemplate hc hnone hplace hparsed⟩

theorem blocks_of_mapM (hc : c.InLayout config facts) (hspliced : c.spliced = [])
    {templates : List String} {blocks : List (List RichText)}
    (h : (templates.mapM parseLayoutLine).Yields c blocks d) :
    Blocks config facts c templates blocks d := by
  induction templates generalizing c blocks with
  | nil =>
    obtain ⟨rfl, rfl⟩ := Eval.yields_pure.mp h
    exact .nil d
  | cons template templates ih =>
    rw [List.mapM_cons, Eval.yields_bind] at h
    obtain ⟨own, _, hown, h⟩ := h
    obtain ⟨rest, _, hrest, h⟩ := Eval.yields_bind.mp h
    obtain ⟨rfl, rfl⟩ := Eval.yields_pure.mp h
    obtain ⟨parsed, groups, inside, d', hblock, rfl, hd⟩ := exists_block hc hspliced hown
    exact .cons hblock (ih hd rfl hrest)

/-! ## The art -/

/-- Whatever is read, the render goes on over the same settings and facts. -/
theorem invariant_amid (config : Config) (facts : Facts) (layout : Bool) :
    Invariant (Context.Amid config facts layout) where
  ask h _ := { h with }
  sepResetApplied h _ := { h with }
  spliced h _ := { h with }
  report h _ := { h with }
  applyColor token c h := by
    obtain ⟨_, _, _, _, heq, -⟩ := exists_of_applyColor token c
    rw [heq]
    exact { h with }

theorem keeps_amid_parseLine (layout : Bool) (template : String) :
    Eval.Keeps (Context.Amid config facts layout) (parseLine template) := by
  have hP := invariant_amid config facts layout
  have hn := hP.keeps_evalNested (fun h => { h with }) (fun _ h => { h with })
    (fun _ _ _ h => { h with }) maxDepth
  exact hP.keeps_evalWhole hn (fun _ => hP.keeps_resolve hn fun _ _ _ h => { h with })
    (fun h => { h with }) template.toList

/-- Each line of the art stands for one. -/
theorem length_of_art {provider : Snapshot} {art : String} {drawn : List ArtLine}
    (h : (if config.disableSource then pure [] else parseArt art :
      Eval Snapshot (List ArtLine)).Yields (Context.reset { config, provider }) drawn c) :
    drawn.length = if config.disableSource then 0 else (lines art).length := by
  split at h
  · next hsource =>
    obtain ⟨rfl, -⟩ := Eval.yields_pure.mp h
    rw [if_pos hsource, List.length_nil]
  · next hsource =>
    obtain ⟨_, _, -, h⟩ := Eval.yields_bind.mp h
    rw [if_neg hsource]
    exact Eval.length_of_yields_mapM h

/-- Each evaluated tag for the volumes lists them once. Each line of the art stands for one, and
each line of the layout for what its listings put in its place, or for its own text. Those of the
layout are shown that hold no mark of a missing fact. -/
theorem blocks_of_layout {provider after : Snapshot} {art : String} {output : Output}
    (h : render config provider art = (.ok output, after)) :
    (∀ depth c value d, c.InLayout config provider.facts →
      (resolve (evalNested depth) volumesTag).Yields c value d → ∃ lines inside,
        Lists config provider.facts c [lines] inside d ∧ Listing config provider.facts lines ∧
        value = if lines.isEmpty then .missing else .text "") ∧
    ∃ drawn c,
      (if config.disableSource then pure [] else parseArt art :
        Eval Snapshot (List ArtLine)).Yields (Context.reset { config, provider }) drawn c ∧
      drawn.length = (if config.disableSource then 0 else (lines art).length) ∧
      c.spliced = [] ∧
      if config.printLogoOnly then output.lines = place config drawn []
      else ∃ blocks d,
        Blocks config provider.facts { c with parsingLayout := true } config.layout blocks d ∧
        output.lines = Layout.compose config drawn (blocks.flatten.filter (!isMissing ·)) := by
  obtain ⟨drawn, info, ⟨c, hart, hinfo⟩, hlines⟩ := lines_of_render h
  have hspliced := (unspliced_of_art hart).spliced
  refine ⟨fun _ _ _ _ => lists_of_volumesTag, drawn, c, hart, length_of_art hart, hspliced, ?_⟩
  split at hinfo
  · next hlogo =>
    rw [if_pos hlogo, hlines, hinfo]
  · next hlogo =>
    rw [place, if_neg hlogo] at hlines
    rw [if_neg hlogo]
    obtain ⟨d, hinfo⟩ := hinfo
    obtain ⟨blocks, hread, rfl⟩ := exists_of_parseLayout hinfo
    have hc : c.Amid config provider.facts false :=
      of_art (keeps_amid_parseLine false) ⟨⟨rfl, rfl⟩, rfl⟩ hart
    have hlayout : { c with parsingLayout := true }.InLayout config provider.facts :=
      { hc with parsingLayout := rfl }
    have htemplates : c.config.layout = config.layout := by rw [hc.config]
    rw [htemplates] at hread
    exact ⟨blocks, d, blocks_of_mapM hlayout hspliced hread, hlines⟩

/-- A second volume of the same device and a hidden one are left out, and the hidden one does not
stand in the way of the one after it. -/
theorem blocks_of_layout_devices :
    let config : Config :=
      { layout := ["top", "$<auto.disk>", "bottom"], autoDisk := { format := "%1 on %2" } }
    let volume (mountdir device : String) : DiskInfo :=
      { mountdir, device, types := { regular := true } }
    let provider : Snapshot := { facts := { disks := [volume "/" "sda", volume "/home" "sda",
      { mountdir := "/boot", device := "sdb", types := { isHidden := true } },
      volume "/srv" "sdb"] } }
    config.ListsFlatly provider.facts ∧
      ∃ output after, render config provider "##" = (.ok output, after) ∧
        output.plainLines =
          ["##     top", "       / on sda", "       /srv on sdb", "       bottom"] ∧
        after.asked = [.volumes] ∧
        ∃ (drawn : List ArtLine) (c : Context Snapshot) (blocks : List (List RichText))
          (d : Context Snapshot), drawn.length = 1 ∧ c.spliced = [] ∧
          Blocks config provider.facts { c with parsingLayout := true } config.layout blocks d ∧
          output.lines = Layout.compose config drawn (blocks.flatten.filter (!isMissing ·)) := by
  intro config volume provider
  have hlisted : listedVolumes config.autoDisk provider.facts.disks =
      [volume "/" "sda", volume "/srv" "sdb"] := rfl
  have hflat : config.ListsFlatly provider.facts := by
    refine Config.listsFlatly_of_within (fun disk hdisk => ?_) fun percent _ => ?_
    · have hle : (flatShape (· ≠ volumesTag)).Le withoutVolumes := ⟨id, False.elim, Iff.rfl⟩
      have hroot : volumeLine config (volume "/" "sda") = "/ on sda".toList := by decide +kernel
      have hsrv : volumeLine config (volume "/srv" "sdb") = "/srv on sdb".toList := by
        decide +kernel
      rw [hlisted] at hdisk
      simp only [List.mem_cons, List.not_mem_nil, or_false] at hdisk
      obtain rfl | rfl := hdisk
      · rw [hroot]
        exact (bodyAlike_of_flat (flat_literal "/ on sda" (by simp))).mono hle
      · rw [hsrv]
        exact (bodyAlike_of_flat (flat_literal "/srv on sdb" (by simp))).mono hle
    · have hcolors (level : Level) : '$' ∉ (config.percentageColors.get level).toList := by
        cases level <;> decide
      exact bodyAlike_of_onlyColors (reads_read _) (onlyColors_percentage (hcolors _) percent)
  have hasked : (render config provider "##").2.asked = [.volumes] := by decide +kernel
  refine ⟨hflat, exists_render (p := (·.plainLines =
    ["##     top", "       / on sda", "       /srv on sdb", "       bottom"])) (by decide +kernel)
    fun output after h hp => ⟨of_decide_eq_true hp, ?_, ?_⟩⟩
  · rwa [h] at hasked
  · obtain ⟨-, drawn, c, -, hdrawn, hspliced, blocks, d, hblocks, hlines⟩ := blocks_of_layout h
    have hart : (lines "##").length = 1 := by decide
    rw [if_neg Bool.false_ne_true, hart] at hdrawn
    exact ⟨drawn, c, blocks, d, hdrawn, hspliced, hblocks, hlines⟩

/-- A reset that takes the tag apart. The line is shown, although no volume is selected. -/
theorem shown_though_none_selected :
    let config : Config := { layout := ["$<auto.disk>"], sepReset := "<", disableColors := true }
    config.ListsFlatly {} ∧
      (∀ index, ¬ Selected config.autoDisk ({} : Facts).disks index) ∧
      ∃ output after, render config ({} : Snapshot) "" = (.ok output, after) ∧
        output.plainLines = ["     $<auto.disk>"] := by
  intro config
  refine ⟨nofun, fun index => ?_, ?_⟩
  · rintro ⟨_, hget, -⟩
    cases hget
  · exact exists_render (p := (·.plainLines = ["     $<auto.disk>"])) (by decide +kernel)
      fun output after _ hp => of_decide_eq_true hp

end Render

end Placard
