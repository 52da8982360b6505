import Placard.Proofs.Finishing
import Placard.Proofs.Remembered

/-! # How deep templates make templates

The line of a volume, the summary of a module and a percentage are made by templates, which may ask
for tags again. Nothing bounds this: a line that asks for the volumes makes itself again and again
(`overruns_resolve`). But where no template makes itself again (`Config.Grounded`), a line asks at
most for summaries, a summary for percentages, and a percentage for summaries without percentages,
so that no more than four templates are inside one another and everything comes to an end
(`completes_of_grounded`). The default settings are of this kind, whatever the volumes are called,
and stay so where percentages ask for answers of the provider (`Config.grounded_of_default`). -/

namespace Placard

open Template
open Eval (Finishes)

variable {config : Config} {facts : Facts}

namespace Info

/-- The template of a percentage. -/
def percentageTemplate (colors : PercentageColors) (percent : Float) (inverted : Bool) :
    List Char :=
  colorTag (colors.get (.shown percent inverted)).toList ++ Number.writeFixed percent ++ ['%'] ++
    colorTag ['0']

/-- What the tag stands for is made by no template. -/
def MadeByNone (spec : List Char) : Prop :=
  ∀ nested nested' : Nested Snapshot, resolve nested spec = resolve nested' spec

/-- Where all templates finish, so do all tags. -/
theorem finishes_resolve_of_nested {nested : Nested Snapshot}
    (hn : ∀ template, Finishes config facts (nested template)) (spec : List Char) :
    Finishes config facts (resolve nested spec) :=
  stepClosed_finishes.resolve_of_nested hn fun _ => finishes_autoDisk fun _ _ => hn _

theorem MadeByNone.finishes (h : MadeByNone spec) (nested : Nested Snapshot) :
    Finishes config facts (resolve nested spec) := by
  rw [h nested fun _ => pure {}]
  exact finishes_resolve_of_nested (fun _ => .pure _) spec

theorem splitSpec_volumesTag : splitSpec volumesTag = ("auto".toList, some "disk".toList) := by
  decide

theorem lookup_auto : Module.lookup (String.ofList "auto".toList) = .ok .auto := rfl

theorem resolve_volumesTag (nested : Nested Snapshot) :
    resolve nested volumesTag = expand nested (some "disk") := by
  have hlookup : Module.lookup (String.ofList (splitSpec volumesTag).1) = .ok .auto := by
    rw [splitSpec_volumesTag, lookup_auto]
  rw [resolve_eq_expand nested hlookup rfl, splitSpec_volumesTag]
  rfl

theorem not_namesValue_volumesTag : ¬ NamesValue volumesTag := by
  rintro ⟨module, hlookup, hexpanding⟩
  rw [splitSpec_volumesTag, lookup_auto] at hlookup
  cases hlookup
  cases hexpanding

theorem AsksMember.ne_volumesTag (h : AsksMember spec) : spec ≠ volumesTag := by
  rintro rfl
  obtain ⟨_, _, hsplit, -, hmodule⟩ := h
  cases splitSpec_volumesTag.symm.trans hsplit
  cases hmodule _ lookup_auto

end Info

/-! ## What percentages may ask for -/

/-- The members of these modules are answers of the provider. -/
def Info.Module.isAnswered : Module → Bool
  | .os | .system | .user | .cpu | .gpu _ | .theme | .themeGtk _ => true
  | _ => false

theorem Info.member_eq_of_isAnswered {module : Module} (h : module.isAnswered = true)
    (nested nested' : Nested Snapshot) (member : String) :
    Info.member nested module member = Info.member nested' module member := by
  unfold Info.member
  cases module <;> first | rfl | cases h

/-- The tag asks for such a member. -/
def Info.AsksAnswer (spec : List Char) : Prop :=
  ∃ name member module, splitSpec spec = (name, some member) ∧
    Module.lookup (String.ofList name) = .ok module ∧ module.isAnswered = true

theorem Info.AsksAnswer.madeByNone (h : AsksAnswer spec) : MadeByNone spec := by
  obtain ⟨name, member, module, hsplit, hlookup, hanswered⟩ := h
  intro nested nested'
  have hnames : NamesValue spec := by
    refine ⟨module, by rw [hsplit, hlookup], ?_⟩
    cases module <;> first | rfl | cases hanswered
  have hcompute : compute nested spec = compute nested' spec := by
    simp only [compute, hsplit, hlookup, Eval.ofExcept, pure_bind,
      member_eq_of_isAnswered hanswered nested nested']
  rw [resolve_eq nested hnames, resolve_eq nested' hnames, hcompute]

namespace Template

/-- Trees whose tags are made by no template. -/
abbrev withoutTemplates : Shape := { asks := Info.MadeByNone, percentages := False }

/-- Trees that do not ask for the volumes. -/
abbrev withoutVolumes : Shape := { asks := (· ≠ Info.volumesTag) }

end Template

/-- What the tag stands for is made by no templates but those whose tags are made by none. -/
def Info.MadeFlatly (spec : List Char) : Prop :=
  ∀ nested nested' : Nested Snapshot,
    (∀ template, Within withoutTemplates template → nested template = nested' template) →
      resolve nested spec = resolve nested' spec

theorem Info.MadeByNone.madeFlatly (h : MadeByNone spec) : MadeFlatly spec :=
  fun nested nested' _ => h nested nested'

theorem Info.MadeFlatly.finishes (h : MadeFlatly spec) (depth : Nat) :
    Finishes config facts (resolve (evalNested (depth + 1)) spec) := by
  classical
  -- the other templates do not matter, so they may as well do nothing
  rw [h _ fun template =>
    if Within withoutTemplates template then evalNested (depth + 1) template else pure {}]
  · refine finishes_resolve_of_nested (fun template => ?_) spec
    have hn : TagsHold (Finishes config facts) withoutTemplates (evalNested depth) :=
      ⟨fun hspec => hspec.finishes _, False.elim⟩
    split
    · exact stepClosed_finishes.evalNested ‹_› hn
    · exact .pure _
  · exact fun template htemplate => (if_pos htemplate).symm

/-- Trees that ask for no percentages, nor for a tag that does. -/
abbrev Template.withoutPercentages : Shape := { asks := Info.MadeFlatly, percentages := False }

/-- No template makes itself again: a percentage asks for nothing that is made by percentages, and
the line of a volume does not ask for the volumes. -/
structure Config.Grounded (config : Config) (facts : Facts) : Prop where
  percentage : ∀ percent inverted,
    Within withoutPercentages (Info.percentageTemplate config.percentageColors percent inverted)
  line : ∀ disk ∈ Info.listedVolumes config.autoDisk facts.disks,
    Within withoutVolumes
      (config.withReset (Info.fillPlaceholders disk config.autoDisk.format.toList))

/-! ## Four templates inside one another -/

namespace Config.Grounded

variable (h : config.Grounded facts)

include h

/-- A percentage is made by two templates at most. -/
theorem finishes_coloredPercentage (depth : Nat) (percent : Float) (inverted : Bool) :
    Finishes config facts (Info.coloredPercentage (evalNested (depth + 2)) percent inverted) := by
  refine .get_bind fun c hc => ?_
  rw [hc.1]
  exact stepClosed_finishes.evalNested (h.percentage percent inverted)
    ⟨fun hspec => hspec.finishes depth, False.elim⟩

/-- So is a member of a module that has members. -/
theorem finishes_resolve_member (hspec : Info.AsksMember spec) (depth : Nat) :
    Finishes config facts (Info.resolve (evalNested (depth + 2)) spec) := by
  have hne := hspec.ne_volumesTag
  obtain ⟨name, member, hsplit, -, hmodule⟩ := hspec
  refine stepClosed_finishes.resolve (fun _ => stepClosed_finishes.compute ?_ ?_) (absurd · hne)
  · intro name' member' module hsplit' hlookup
    obtain ⟨rfl, -⟩ := Prod.mk.inj (hsplit.symm.trans hsplit')
    refine stepClosed_finishes.member (h.finishes_coloredPercentage depth) module _
      fun hbuiltIn => ?_
    exact absurd (hmodule module hlookup) (by simp [hbuiltIn])
  · intro _ _ hsplit'
    cases hsplit.symm.trans hsplit'

/-- A summary asks for members. -/
theorem finishes_summary (depth : Nat) (module : Info.Module) :
    Finishes config facts (Info.summary (evalNested (depth + 3)) module) := by
  refine stepClosed_finishes.summary module fun template htemplate => ?_
  exact stepClosed_finishes.evalNested (bodyAlike_of_flat (Info.flat_of_summarizes htemplate))
    ⟨fun hspec => h.finishes_resolve_member hspec depth, False.elim⟩

/-- All tags but the one that lists the volumes are made by three templates at most. -/
theorem finishes_resolve_of_ne (hspec : spec ≠ Info.volumesTag) (depth : Nat) :
    Finishes config facts (Info.resolve (evalNested (depth + 3)) spec) := by
  refine stepClosed_finishes.resolve (fun _ => stepClosed_finishes.compute ?_ ?_) (absurd · hspec)
  · intro _ member module _ _
    exact stepClosed_finishes.member (h.finishes_coloredPercentage _) module _ fun _ =>
      h.finishes_summary depth module
  · exact fun _ module _ _ => h.finishes_summary depth module

/-- The lines of the volumes do not ask for that one. -/
theorem finishes_autoDisk (depth : Nat) :
    Finishes config facts (Info.autoDisk (evalNested (depth + 4))) := by
  refine Info.finishes_autoDisk fun disk hdisk => ?_
  exact stepClosed_finishes.evalNested (h.line disk hdisk)
    ⟨fun hspec => h.finishes_resolve_of_ne hspec depth, fun _ => h.finishes_coloredPercentage _⟩

/-- Four templates are enough for any tag. -/
theorem finishes_resolve (depth : Nat) (spec : List Char) :
    Finishes config facts (Info.resolve (evalNested (depth + 4)) spec) := by
  by_cases hspec : spec = Info.volumesTag
  · subst hspec
    exact stepClosed_finishes.resolve (absurd · Info.not_namesValue_volumesTag) fun _ =>
      h.finishes_autoDisk depth
  · exact h.finishes_resolve_of_ne hspec (depth + 1)

theorem finishes_evalWhole (depth : Nat) (template : List Char) :
    Finishes config facts (evalWhole (evalNested (depth + 4)) template) := by
  exact stepClosed_finishes.evalWhole (within_unrestricted template)
    ⟨fun _ => h.finishes_resolve depth _, fun _ => h.finishes_coloredPercentage _⟩

end Config.Grounded

/-- Where no template makes itself again, every render comes to an end, and so does every template
and every tag, on any state of a render. No more than four templates are inside one another. -/
theorem completes_of_grounded (h : config.Grounded facts) :
    (∀ (provider : Snapshot) (art : String), provider.facts = facts →
      Completes (render config provider art).1) ∧
    ∀ c : Context Snapshot, c.Over config facts → ∀ depth, 4 ≤ depth →
      (∀ template, Completes ((evalWhole (evalNested depth) template).outcome c).1) ∧
      ∀ spec, Completes ((Info.resolve (evalNested depth) spec).outcome c).1 := by
  refine ⟨fun provider art hprovider => ?_, fun c hc depth hdepth => ?_⟩
  · have hlines (template : String) : Finishes config facts (parseLine template) :=
      h.finishes_evalWhole _ _
    have hstart : (Context.reset { config, provider }).Over config facts := ⟨rfl, hprovider⟩
    exact completes_map _ (Render.finishes_renderLines hlines art _ hstart).1
  · obtain ⟨depth, rfl⟩ := Nat.exists_eq_add_of_le' hdepth
    exact ⟨fun template => (h.finishes_evalWhole depth template c hc).1,
      fun spec => (h.finishes_resolve depth spec c hc).1⟩

/-! ## The default settings -/

namespace Template

theorem flat_resetTag {asks : List Char → Prop} : Flat asks resetTag :=
  flat_colorTag ['0'] (by simp)

/-- A reset between two flat parts. -/
theorem flat_withReset {asks : List Char → Prop} {before rest : List Char}
    (hsep : config.sepReset = ":") (hcolon : ':' ∉ before) (hbefore : Flat asks before)
    (hrest : Flat asks rest) : Flat asks (config.withReset (before ++ ':' :: rest)) := by
  have hcut : config.resetPlace? (before ++ ':' :: rest) =
      if config.sepResetAfter then some (before ++ [':'], rest)
      else some (before, ':' :: rest) := by
    unfold Config.resetPlace?
    rw [hsep, show (":" : String).toList = [':'] from rfl, Text.cutAt?_append hcolon]
    cases config.sepResetAfter <;> simp
  have hmark : Flat asks [':'] := flat_text (by simp)
  unfold Config.withReset
  rw [hcut]
  split
  · rename_i heq
    split at heq <;> cases heq
  · rename_i heq
    split at heq <;> cases heq
    · exact ((hbefore.append hmark).append flat_resetTag).append hrest
    · exact (hbefore.append flat_resetTag).append (.char (by decide) (by decide) hrest)

theorem not_mem_quote {c : Char} (hescape : c ≠ '\\') {cs : List Char} (h : c ∉ cs) :
    c ∉ quote cs := by
  unfold quote
  rw [List.mem_flatMap]
  rintro ⟨d, hd, hc⟩
  split at hc
  · obtain rfl | hc := List.mem_cons.mp hc
    · exact hescape rfl
    · obtain rfl := List.mem_singleton.mp hc
      exact h hd
  · obtain rfl := List.mem_singleton.mp hc
    exact h hd

end Template

/-- The tag for a volume as a whole. -/
theorem Info.flat_diskTag (path : String) :
    Flat (· ≠ volumesTag) ("$<".toList ++ diskName path ++ ['>']) := by
  have hasks : "disk(".toList ++ path.toList ++ [')'] ≠ volumesTag := by
    intro heq
    have hhead : 'd' = 'a' := List.head_eq_of_cons_eq heq
    exact absurd hhead (by decide)
  have hname : quote ("disk(".toList ++ path.toList ++ [')']) = diskName path := by
    rw [quote_append, quote_append]
    rfl
  have h : Flat (· ≠ volumesTag) ("$<".toList ++ (quote _ ++ ['>'])) := .info hasks .nil
  rwa [hname] at h

/-- Quoted text and a colon after it: the first colon stands in text, in or after what is quoted. -/
theorem Template.exists_first_colon {asks : List Char → Prop} {start mark rest : List Char}
    (hcolon : ':' ∉ start) (hstart : Flat asks start) (hmark : ∀ c ∈ mark, c ≠ '\\' ∧ c ≠ '$')
    (hmark' : ':' ∉ mark) (hrest : Flat asks rest) (text : List Char) : ∃ before after,
    start ++ (quote text ++ (mark ++ ':' :: rest)) = before ++ ':' :: after ∧ ':' ∉ before ∧
      Flat asks before ∧ Flat asks after := by
  by_cases hmem : ':' ∈ text
  · obtain ⟨front, back, rfl, hfront⟩ := List.eq_append_cons_of_mem hmem
    have hquote : quote (front ++ ':' :: back) = quote front ++ ':' :: quote back := by
      rw [quote_append]
      rfl
    refine ⟨start ++ quote front, quote back ++ (mark ++ ':' :: rest), ?_, ?_, ?_, ?_⟩
    · simp only [hquote, List.append_assoc, List.cons_append]
    · exact List.not_mem_append hcolon (not_mem_quote (by decide) hfront)
    · exact hstart.append (flat_quote front)
    · have hafter : Flat asks (':' :: rest) := .char (by decide) (by decide) hrest
      exact (flat_quote back).append ((flat_text hmark).append hafter)
  · refine ⟨start ++ (quote text ++ mark), rest, ?_, ?_, ?_, hrest⟩
    · simp only [List.append_assoc]
    · have hquote : ':' ∉ quote text := not_mem_quote (by decide) hmem
      exact List.not_mem_append hcolon (List.not_mem_append hquote hmark')
    · exact hstart.append ((flat_quote text).append (flat_text hmark))

/-- The default format makes flat lines, in which the first colon stands in text. -/
theorem Info.exists_flat_line (disk : DiskInfo) : ∃ before rest,
    fillPlaceholders disk ({} : AutoDisk).format.toList = before ++ ':' :: rest ∧ ':' ∉ before ∧
      Flat (· ≠ volumesTag) before ∧ Flat (· ≠ volumesTag) rest := by
  have hline : fillPlaceholders disk ({} : AutoDisk).format.toList =
      (colorTag "auto".toList ++ "Disk (".toList) ++ (quote disk.mountdir.toList ++ ([')'] ++
        ':' :: ' ' :: ("$<".toList ++ diskName disk.mountdir ++ ['>']))) := by
    have hname : diskName disk.mountdir =
      "disk(".toList ++ (quote disk.mountdir.toList ++ [')']) := List.append_assoc ..
    rw [hname]
    simp only [List.append_assoc]
    rfl
  rw [hline]
  refine exists_first_colon (by decide) ?_ (by simp) (by decide) ?_ _
  · refine .append ?_ (flat_literal "Disk (" (by simp))
    exact flat_colorTag _ (by simp)
  · exact .char (by decide) (by decide) (flat_diskTag _)

/-- A percentage in a color of this kind asks at most for answers. -/
def Info.AsksAnswers (color : String) : Prop :=
  '$' ∉ color.toList ∨ Flat AsksAnswer (colorTag color.toList)

theorem Info.AsksAnswers.within {colors : PercentageColors} {percent : Float} {inverted : Bool}
    (h : AsksAnswers (colors.get (.shown percent inverted))) :
    Within withoutPercentages (percentageTemplate colors percent inverted) := by
  obtain h | h := h
  · exact bodyAlike_of_onlyColors (reads_read _) (onlyColors_percentage h percent)
  · have hnumber : Flat AsksAnswer (Number.writeFixed percent) := by
      refine flat_text fun c hc => ⟨?_, ?_⟩ <;> rintro rfl <;>
        exact absurd (plain_of_mem_writeFixed hc) (by decide)
    have hmark : Flat AsksAnswer ['%'] := flat_text (by simp)
    have hle : (flatShape AsksAnswer).Le withoutPercentages :=
      ⟨fun hasks => hasks.madeByNone.madeFlatly, id, Iff.rfl⟩
    exact (bodyAlike_of_flat (((h.append hnumber).append hmark).append flat_resetTag)).mono hle

/-- The default format with the default separator. -/
theorem Config.grounded_of_default
    (hcolors : ∀ level, Info.AsksAnswers (config.percentageColors.get level))
    (hformat : config.autoDisk.format = ({} : AutoDisk).format) (hsep : config.sepReset = ":")
    (facts : Facts) : config.Grounded facts where
  percentage _ _ := (hcolors _).within
  line disk _ := by
    rw [hformat]
    obtain ⟨before, rest, hline, hcolon, hbefore, hrest⟩ := Info.exists_flat_line disk
    rw [hline]
    have h := bodyAlike_of_flat (flat_withReset hsep hcolon hbefore hrest)
    have hle : (flatShape (· ≠ Info.volumesTag)).Le withoutVolumes := ⟨id, False.elim, Iff.rfl⟩
    exact h.mono hle

/-- The default settings but for a name in a percentage, over a volume with a colon in its own. -/
theorem completes_of_default :
    let colors : PercentageColors := { low := "green\x7d$<os.name>$\x7b0" }
    let config : Config := { percentageColors := colors }
    let facts : Facts := { disks := [{ mountdir := "/a:b", types := { regular := true } }] }
    let c : Context Snapshot := { config, provider := { facts }, parsingLayout := true }
    config.Grounded facts ∧ c.Over config facts ∧
      Completes (render config ({ facts } : Snapshot) "##").1 ∧
      Completes ((evalWhole (evalNested 4) "$<auto.disk>".toList).outcome c).1 ∧
      Completes ((Info.resolve (evalNested 4) "auto.disk".toList).outcome c).1 := by
  intro colors config facts c
  have hname : Info.AsksAnswer "os.name".toList :=
    ⟨"os".toList, "name".toList, .os, by decide, by decide, rfl⟩
  have hcolors (level : Info.Level) : Info.AsksAnswers (config.percentageColors.get level) := by
    cases level with
    | low =>
      have hlow : Info.colorTag (config.percentageColors.get .low).toList =
          Info.colorTag "green".toList ++
            ('$' :: '<' :: (quote "os.name".toList ++ '>' :: resetTag)) := by
        decide
      right
      rw [hlow]
      exact .color (by simp) (.info hname flat_resetTag)
    | medium => exact .inl (by decide)
    | high => exact .inl (by decide)
  have hgrounded : config.Grounded facts := Config.grounded_of_default hcolors rfl rfl facts
  have hc : c.Over config facts := ⟨rfl, rfl⟩
  obtain ⟨hrender, hother⟩ := completes_of_grounded hgrounded
  obtain ⟨htemplate, htag⟩ := hother c hc 4 (Nat.le_refl 4)
  exact ⟨hgrounded, hc, hrender { facts } "##" rfl, htemplate _, htag _⟩

/-! ## Lines that ask for the volumes -/

namespace Eval

variable {σ α β : Type} {x : Eval σ α} {c d : Context σ}

/-- The run from `c` goes deeper than templates may go. -/
def Overruns (x : Eval σ α) (c : Context σ) : Prop := (x.outcome c).1 = .error .tooDeep

theorem Overruns.bind (h : x.Overruns c) (f : α → Eval σ β) : (x >>= f).Overruns c := by
  unfold Overruns at h ⊢
  rw [outcome_bind]
  rcases hx : x.outcome c with ⟨_ | _, _⟩ <;> rw [hx] at h <;> cases h
  rfl

theorem Overruns.after {f : α → Eval σ β} (h : (f a).Overruns d) (hx : x.Yields c a d) :
    (x >>= f).Overruns c := by
  unfold Overruns at h ⊢
  rwa [outcome_bind, hx]

theorem Overruns.after_get {f : Context σ → Eval σ β} (h : (f c).Overruns c) :
    (get >>= f).Overruns c := h

theorem Overruns.after_modify {g : Context σ → Context σ} {f : PUnit → Eval σ β}
    (h : (f ⟨⟩).Overruns (g c)) : (modify g >>= f).Overruns c := h

end Eval

/-- The template that is nothing but the tag for the volumes. -/
def volumesTemplate : List Char := "$<auto.disk>".toList

theorem read_volumesTemplate :
    Body.read volumesTemplate = .tag (.info (.ofChars Info.volumesTag)) 12 (.done .closed) := by
  with_unfolding_all rfl

/-- The template goes as deep as its tag. -/
theorem overruns_evalWhole {nested : Info.Nested Snapshot} {c : Context Snapshot}
    (h : (Info.resolve nested Info.volumesTag).Overruns c) :
    (evalWhole nested volumesTemplate).Overruns c := by
  obtain ⟨name, hname, htext⟩ := yields_ofChars nested (String.ofList volumesTemplate) true {}
    Info.volumesTag c
  replace htext : name.text.text = Info.volumesTag := htext
  unfold evalWhole
  rw [read_volumesTemplate]
  refine .bind ?_ _
  unfold evalBody
  refine .bind ?_ _
  unfold evalTag
  refine .after ?_ hname
  rw [isClosed_ofChars, htext]
  exact h.bind _

/-- Lines go as deep as the first one. -/
theorem overruns_spliceLines {nested : Info.Nested Snapshot} {line : List Char}
    (hn : ∀ d : Context Snapshot, d.Over config facts → d.parsingLayout = true →
      (nested (config.withReset line)).Overruns d)
    {c : Context Snapshot} (hc : c.Over config facts) (hlayout : c.parsingLayout = true)
    (lines : List (List Char)) : (Info.spliceLines nested (line :: lines)).Overruns c := by
  obtain ⟨rfl, rfl⟩ := hc
  obtain ⟨applied, hreset⟩ := yields_injectSeparatorReset c line
  have hinner := hn { c with sepResetApplied := applied } ⟨rfl, rfl⟩ hlayout
  exact .after (hinner.bind _) hreset

/-- The settings list a volume whose line is nothing but the tag for the volumes. -/
def Config.ListsItself (config : Config) (facts : Facts) : Prop :=
  ∃ disk disks, Info.listedVolumes config.autoDisk facts.disks = disk :: disks ∧
    config.withReset (Info.fillPlaceholders disk config.autoDisk.format.toList) = volumesTemplate

section

variable (h : config.ListsItself facts)

include h

/-- In the layout the tag goes as deep as that line. -/
theorem overruns_resolve_of_nested {nested : Info.Nested Snapshot}
    (hn : ∀ d : Context Snapshot, d.Over config facts → d.parsingLayout = true →
      (nested volumesTemplate).Overruns d)
    {c : Context Snapshot} (hc : c.Over config facts) (hlayout : c.parsingLayout = true) :
    (Info.resolve nested Info.volumesTag).Overruns c := by
  obtain ⟨disk, disks, hlisted, hline⟩ := h
  have hlines := overruns_spliceLines (hline ▸ hn)
    (c := { c with provider := (Provider.ask .volumes c.provider).2 }) hc hlayout
    (disks.map (Info.fillPlaceholders · config.autoDisk.format.toList))
  obtain ⟨rfl, rfl⟩ := hc
  rw [Info.resolve_volumesTag]
  refine .after_get ?_
  rw [hlayout]
  refine .after_get ?_
  refine .after ?_ (Eval.yields_modifyGet.mpr ⟨rfl, rfl⟩)
  have hlisted' : Info.listedVolumes c.config.autoDisk (Provider.ask .volumes c.provider).1 =
      disk :: disks := hlisted
  dsimp only
  rw [hlisted']
  exact hlines.bind _

/-- However deep templates may go, the tag goes deeper. -/
theorem overruns_resolve (depth : Nat) {c : Context Snapshot} (hc : c.Over config facts)
    (hlayout : c.parsingLayout = true) :
    (Info.resolve (evalNested depth) Info.volumesTag).Overruns c := by
  induction depth generalizing c with
  | zero =>
    refine overruns_resolve_of_nested h (fun d _ _ => ?_) hc hlayout
    rfl
  | succ depth ih =>
    refine overruns_resolve_of_nested h (fun d hd hlayout => ?_) hc hlayout
    have hwhole := overruns_evalWhole (ih (c := { d with styles.active := [] }) hd hlayout)
    exact (hwhole.bind _ :)

theorem overruns_parseLine {c : Context Snapshot} (hc : c.Over config facts)
    (hlayout : c.parsingLayout = true) :
    (parseLine (String.ofList volumesTemplate)).Overruns c := by
  unfold parseLine
  rw [String.toList_ofList]
  exact overruns_evalWhole (overruns_resolve h maxDepth hc hlayout)

theorem overruns_parseLayoutLine (hplain : config.withReset volumesTemplate = volumesTemplate)
    {c : Context Snapshot} (hc : c.Over config facts) (hlayout : c.parsingLayout = true) :
    (Render.parseLayoutLine (String.ofList volumesTemplate)).Overruns c := by
  obtain ⟨rfl, rfl⟩ := hc
  obtain ⟨applied, hreset⟩ := yields_injectSeparatorReset c volumesTemplate
  rw [hplain] at hreset
  have hinner :=
    overruns_parseLine h (c := { c with sepResetApplied := applied }) ⟨rfl, rfl⟩ hlayout
  unfold Render.parseLayoutLine
  rw [String.toList_ofList]
  exact .after ((hinner.bind _ :).bind _) hreset

/-- A layout that begins with the tag, beside no art. -/
theorem overruns_renderLines (hplain : config.withReset volumesTemplate = volumesTemplate)
    {layout : List String} (hlayout : config.layout = String.ofList volumesTemplate :: layout)
    (hlogo : config.printLogoOnly = false) {c : Context Snapshot} (hc : c.Over config facts) :
    (Render.renderLines "").Overruns c := by
  obtain ⟨rfl, rfl⟩ := hc
  have hinfo (parsingLayout : Bool) :
      (Render.parseLayout : Eval Snapshot _).Overruns { c with parsingLayout } := by
    have hline := overruns_parseLayoutLine h hplain (c := { c with parsingLayout := true })
      ⟨rfl, rfl⟩ rfl
    refine .after_modify (.after_get ?_)
    dsimp only
    rw [hlayout, List.mapM_cons]
    exact (hline.bind _).bind _
  refine .after_get ?_
  dsimp only
  rw [hlogo]
  split
  · exact .after ((hinfo c.parsingLayout).bind _) (Eval.yields_pure.mpr ⟨rfl, rfl⟩)
  · exact .after ((hinfo false).bind _) rfl

end

theorem render_eq_of_overruns {σ : Type} [Provider σ] {provider : σ} {art : String}
    (h : (Render.renderLines art).Overruns (Context.reset { config, provider })) :
    (render config provider art).1 = .error .tooDeep := congrArg (Except.map _) h

/-- A layout and a format that are nothing but the tag for the volumes: nothing of it comes to an
end, however deep templates may go. -/
theorem not_completes_of_listsItself :
    let config : Config :=
      { layout := ["$<auto.disk>"], autoDisk := { format := "$<auto.disk>" } }
    let facts : Facts := { disks := [{ types := { regular := true } }] }
    ¬ Completes (render config ({ facts } : Snapshot) "").1 ∧
      ∀ c : Context Snapshot, c.Over config facts → c.parsingLayout = true →
        ¬ Completes ((parseLine "$<auto.disk>").outcome c).1 ∧
        ∀ depth,
          ¬ Completes ((Info.resolve (evalNested depth) "auto.disk".toList).outcome c).1 := by
  intro config facts
  have hlists : config.ListsItself facts := ⟨_, [], rfl, by decide⟩
  have hplain : config.withReset volumesTemplate = volumesTemplate := by decide
  have hname : "$<auto.disk>" = String.ofList volumesTemplate := String.ofList_toList.symm
  have hlayout : config.layout = [String.ofList volumesTemplate] := congrArg ([·]) hname
  have hnot {α : Type} {result : Except Halt α} (h : result = .error .tooDeep) :
      ¬ Completes result := by
    subst h
    rintro (⟨_, h⟩ | ⟨_, h⟩) <;> cases h
  refine ⟨hnot ?_, fun c hc hparsing => ⟨hnot ?_, fun depth => hnot ?_⟩⟩
  · exact render_eq_of_overruns (overruns_renderLines hlists hplain hlayout rfl ⟨rfl, rfl⟩)
  · rw [hname]
    exact overruns_parseLine hlists hc hparsing
  · exact overruns_resolve hlists depth hc hparsing

end Placard
