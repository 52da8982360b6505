import Placard.Proofs.MissingMark
import Placard.Proofs.Nesting
import Placard.Proofs.Values

/-! # Lines that are left out

A line of the layout stands for its own text, unless a tag in it lists the volumes: then the lines
of these take its place (`Render.ReadsLine`). Nothing else puts lines in the place of another one
(`keeps_unspliced_evalNested`). Each line is left out if its text holds the mark of a missing fact,
and so it is if a value in it holds the mark, at the top or in a part that stands for a tag
(`Render.lines_of_layout`). A value that is compared or measured is not in the text: then the line
is shown, although a fact is missing (`Render.shown_though_missing`). -/

namespace Placard

open Template
open Eval (Keeps)

variable {σ : Type}

/-- No lines are to take the place of the one that is read. -/
structure Context.Unspliced (config : Config) (layout : Bool) (c : Context σ) : Prop
    extends Reading config layout c where
  spliced : c.spliced = []

/-- Trees without a tag that lists the volumes where it would. -/
abbrev Template.unsplicing (layout : Bool) : Shape :=
  { asks := fun spec => layout = true → spec ≠ Info.volumesTag }

section

variable [Provider σ] {config : Config} {layout : Bool}

theorem stepInvariant_unspliced :
    StepInvariant (σ := σ) (Context.Unspliced config layout) where
  ask hc _ := { hc with }
  report hc _ := { hc with }
  applyColor token c hc := by
    obtain ⟨_, _, _, _, heq, -⟩ := exists_of_applyColor token c
    rw [heq]
    exact { hc with }

/-- A tag that stands for lines has none outside of the layout, nor for another name. -/
theorem keeps_unspliced_expand (nested : Info.Nested σ) {member : Option String}
    (hmember : layout = true → member ≠ some "disk") :
    Keeps (Context.Unspliced config layout) (Info.expand nested member) := by
  intro c hc
  unfold Info.expand
  rw [Eval.outcome_bind, Eval.outcome_get]
  dsimp only
  rw [hc.parsingLayout]
  cases layout with
  | false => exact hc
  | true =>
    rw [if_neg (hmember rfl)]
    exact hc

variable (hpercent : ∀ percent inverted, Within (unsplicing layout)
    (Info.percentageTemplate config.percentageColors percent inverted))

include hpercent

theorem keeps_unspliced_evalWhole {nested : Info.Nested σ}
    (hn : ∀ template, Within (unsplicing layout) template →
      Keeps (Context.Unspliced config layout) (nested template))
    {template : List Char} (hwithin : Within (unsplicing layout) template) :
    Keeps (Context.Unspliced config layout) (evalWhole nested template) := by
  have hstep : StepInvariant (σ := σ) (Context.Unspliced config layout) := stepInvariant_unspliced
  have hcolored (percent : Float) (inverted : Bool) : Keeps (Context.Unspliced config layout)
      (Info.coloredPercentage nested percent inverted) := fun c hc =>
    hn _ (hc.config ▸ hpercent percent inverted) c hc
  refine hstep.tree.keeps_evalWhole id (fun spec hspec => ?_) (fun _ => hcolored)
    (fun hc => { hc with }) hwithin
  refine StepInvariant.keeps_resolve (fun hlookup hexpanding => ?_) ?_ fun _ _ _ hc =>
    { hc with }
  · exact keeps_unspliced_expand _ fun hlayout hdisk =>
      hspec hlayout (Info.eq_volumesTag_of_isExpanding hlookup hexpanding hdisk)
  · refine hstep.keeps_compute (fun module template htemplate => hn _ ?_) hcolored spec
    have hle : (flatShape Info.AsksMember).Le (unsplicing layout) :=
      ⟨fun hasks _ => hasks.ne_volumesTag, False.elim, Iff.rfl⟩
    exact (bodyAlike_of_flat (Info.flat_of_summarizes htemplate)).mono hle

/-- Templates put lines in the place of another one only where they ask for the volumes. -/
theorem keeps_unspliced_evalNested (depth : Nat) {template : List Char}
    (hwithin : Within (unsplicing layout) template) :
    Keeps (Context.Unspliced (σ := σ) config layout) (evalNested depth template) := by
  induction depth generalizing template with
  | zero => exact fun _ hc => hc
  | succ depth ih =>
    have hwhole := keeps_unspliced_evalWhole (σ := σ) hpercent (fun _ h => ih h) hwithin
    exact hwhole.rich.withoutStyles (fun hc => { hc with })
      fun _ hc => { hc with }

theorem keeps_unspliced_parseLine {template : String}
    (hwithin : Within (unsplicing layout) template.toList) :
    Keeps (Context.Unspliced (σ := σ) config layout) (parseLine template) :=
  keeps_unspliced_evalWhole hpercent
    (fun _ => keeps_unspliced_evalNested hpercent maxDepth) hwithin

end

/-! ## Lines of the layout -/

namespace Eval

variable {α β : Type} {P : Context σ → Prop} {f : α → Eval σ β}

theorem yields_mapM_append {as as' : List α} {bs : List β} {c d : Context σ} :
    ((as ++ as').mapM f).Yields c bs d ↔ ∃ first c' second, (as.mapM f).Yields c first c' ∧
      (as'.mapM f).Yields c' second d ∧ bs = first ++ second := by
  rw [List.mapM_append]
  simp only [yields_bind, yields_pure]
  constructor
  · rintro ⟨first, c', hfirst, second, _, hsecond, rfl, rfl⟩
    exact ⟨first, c', second, hfirst, hsecond, rfl⟩
  · rintro ⟨first, c', second, hfirst, hsecond, rfl⟩
    exact ⟨first, c', hfirst, second, d, hsecond, rfl, rfl⟩

theorem length_of_yields_mapM {as : List α} {bs : List β} {c d : Context σ}
    (h : (as.mapM f).Yields c bs d) : bs.length = as.length := by
  induction as generalizing c bs d with
  | nil =>
    obtain ⟨rfl, -⟩ := yields_pure.mp h
    rfl
  | cons a as ih =>
    rw [List.mapM_cons, yields_bind] at h
    obtain ⟨b, c', -, h⟩ := h
    obtain ⟨bs', d', hbs, h⟩ := yields_bind.mp h
    obtain ⟨rfl, -⟩ := yields_pure.mp h
    rw [List.length_cons, List.length_cons, ih hbs]

theorem of_yields_mapM (h : ∀ a {c b d}, P c → (f a).Yields c b d → P d) {as : List α}
    {bs : List β} {c d : Context σ} (hc : P c) (hbs : (as.mapM f).Yields c bs d) : P d := by
  induction as generalizing c bs with
  | nil =>
    obtain ⟨-, rfl⟩ := yields_pure.mp hbs
    exact hc
  | cons a as ih =>
    rw [List.mapM_cons, yields_bind] at hbs
    obtain ⟨b, c', hb, hbs⟩ := hbs
    obtain ⟨bs', d', hbs, h'⟩ := yields_bind.mp hbs
    obtain ⟨-, rfl⟩ := yields_pure.mp h'
    exact ih (h a hc hb) hbs

end Eval

/-- Neither the line, as it is read, nor the template of a percentage can ask for the volumes. -/
structure Config.AsksNoVolumes (config : Config) (line : List Char) : Prop where
  line : Within withoutVolumes (config.withReset line)
  percentage : ∀ percent inverted,
    Within withoutVolumes (Info.percentageTemplate config.percentageColors percent inverted)

/-- A percentage asks for nothing if it is shown in colors without tags. -/
theorem Config.AsksNoVolumes.of_colors {config : Config} {line : List Char}
    (hline : Within withoutVolumes (config.withReset line))
    (hcolors : ∀ level, '$' ∉ (config.percentageColors.get level).toList) :
    config.AsksNoVolumes line where
  line := hline
  percentage percent _ :=
    bodyAlike_of_onlyColors (reads_read _) (Info.onlyColors_percentage (hcolors _) percent)

namespace Render

variable [Provider σ] {config : Config} {c d : Context σ}

/-- A line is read with its reset, and stands for itself or for the lines that take its place. -/
theorem exists_of_parseLayoutLine (hc : c.Unspliced config true)
    (h : (parseLayoutLine template).Yields c own d) : d.Unspliced config true ∧
      ∃ applied parsed d', (parseLine (String.ofList (config.withReset template.toList))).Yields
        { c with sepResetApplied := applied } parsed d' ∧
      own = (if d'.spliced.isEmpty then [parsed.rich] else d'.spliced) ∧
      d = { d' with spliced := [] } := by
  obtain ⟨applied, hreset⟩ := yields_injectSeparatorReset c template.toList
  have hline : c.config.withReset template.toList = config.withReset template.toList := by
    rw [hc.config]
  rw [hline] at hreset
  unfold parseLayoutLine at h
  rw [hreset.bind_iff] at h
  obtain ⟨_, d', hparse, h⟩ := Eval.yields_bind.mp h
  obtain ⟨parsed, _, hparsed, hparse⟩ := Eval.yields_bind.mp hparse
  obtain ⟨rfl, rfl⟩ := Eval.yields_pure.mp hparse
  have hget : (get : Eval σ _).Yields d' d' d' := rfl
  rw [hget.bind_iff] at h
  have hd := (reading_parseLine config true _).of_yields hparsed { hc with }
  have hsame : d = { d' with spliced := [] } ∧
      own = if d'.spliced.isEmpty then [parsed.rich] else d'.spliced := by
    dsimp only at h
    by_cases hnone : d'.spliced.isEmpty = true
    · rw [if_pos hnone] at h ⊢
      obtain ⟨rfl, rfl⟩ := Eval.yields_pure.mp h
      rw [List.isEmpty_iff] at hnone
      exact ⟨by rw [← hnone], rfl⟩
    · rw [if_neg hnone] at h ⊢
      obtain ⟨_, _, hmodify, h⟩ := Eval.yields_bind.mp h
      obtain rfl := Eval.yields_modify.mp hmodify
      exact (Eval.yields_pure.mp h).symm
  obtain ⟨rfl, rfl⟩ := hsame
  exact ⟨{ hd with spliced := rfl }, applied, parsed, d', hparsed, rfl, rfl⟩

/-- What the lines of the art keep holds where the layout begins. -/
theorem of_art {P : Context σ → Prop} (hP : ∀ template, Keeps P (parseLine template)) {provider : σ}
    (hstart : P (Context.reset { config, provider })) {art : String} {drawn : List ArtLine}
    (h : (if config.disableSource then pure [] else parseArt art : Eval σ (List ArtLine)).Yields
      (Context.reset { config, provider }) drawn c) : P c := by
  split at h
  · obtain ⟨-, rfl⟩ := Eval.yields_pure.mp h
    exact hstart
  · obtain ⟨_, _, hmodify, h⟩ := Eval.yields_bind.mp h
    obtain rfl := Eval.yields_modify.mp hmodify
    refine Eval.of_yields_mapM (fun _ _ _ _ hc hline => ?_) hstart h
    obtain ⟨parsed, _, hparsed, hline⟩ := Eval.yields_bind.mp hline
    obtain ⟨-, rfl⟩ := Eval.yields_pure.mp hline
    exact (hP _).of_yields hparsed hc

/-- The art leaves no lines for the layout. -/
theorem unspliced_of_art {provider : σ} {art : String} {drawn : List ArtLine}
    (h : (if config.disableSource then pure [] else parseArt art : Eval σ (List ArtLine)).Yields
      (Context.reset { config, provider }) drawn c) : c.Unspliced config false := by
  have hwithin (template : List Char) : Within (unsplicing false) template :=
    .refl (fun _ h => absurd h Bool.false_ne_true) trivial _
  exact of_art (fun _ => keeps_unspliced_parseLine (fun _ _ => hwithin _) (hwithin _))
    ⟨⟨rfl, rfl⟩, rfl⟩ h

/-- The lines of the layout are read one after another. -/
theorem exists_of_parseLayout {info : List RichText} (h : parseLayout.Yields c info d) :
    ∃ blocks, (c.config.layout.mapM parseLayoutLine).Yields { c with parsingLayout := true } blocks
      d ∧ info = blocks.flatten.filter (!isMissing ·) := by
  obtain ⟨_, _, hmodify, h⟩ := Eval.yields_bind.mp h
  obtain rfl := Eval.yields_modify.mp hmodify
  obtain ⟨_, _, hget, h⟩ := Eval.yields_bind.mp h
  obtain ⟨rfl, rfl⟩ := Eval.yields_get.mp hget
  obtain ⟨blocks, _, hread, h⟩ := Eval.yields_bind.mp h
  obtain ⟨rfl, rfl⟩ := Eval.yields_pure.mp h
  exact ⟨blocks, hread, rfl⟩

/-- The mark is in the text if it is in a value that comes there. -/
theorem isMissing_of_valueAt {nested : Info.Nested σ} {template : List Char} {parsed : Parsed}
    {index : Nat} {tag : Tag} {value : RichText}
    (h : (evalWhole nested template).Yields c parsed d)
    (hvalue : ValueAt nested (String.ofList template) true {} (.read template) c index tag value)
    (hmark : isMissing value = true) : isMissing parsed.rich = true := by
  obtain ⟨draft, c', hbody, h⟩ := Eval.yields_bind.mp h
  obtain ⟨_, _, -, h⟩ := Eval.yields_bind.mp h
  obtain ⟨rfl, -⟩ := Eval.yields_pure.mp h
  obtain ⟨before, after, -, htext⟩ := text_of_valueAt hvalue hbody
  rw [isMissing_iff] at hmark ⊢
  exact hmark.trans ⟨before, after, htext.symm⟩

/-- A render comes to a line of its layout. It has read the art and the lines before, reads the line
from `c` to `d`, and goes on with the lines after it. -/
structure ReadsLine (config : Config) (provider : σ) (art : String) (before : List String)
    (template : String) (later : List String) (drawn : List ArtLine) (above : List RichText)
    (c : Context σ) (parsed : Parsed) (d : Context σ) (below : List RichText) : Prop where
  before : ∃ c₀ lines c₁ applied,
    (if config.disableSource then pure [] else parseArt art : Eval σ (List ArtLine)).Yields
      (Context.reset { config, provider }) drawn c₀ ∧
    (before.mapM parseLayoutLine).Yields { c₀ with parsingLayout := true } lines c₁ ∧
    above = lines.flatten ∧ c = { c₁ with sepResetApplied := applied }
  line : (parseLine (String.ofList (config.withReset template.toList))).Yields c parsed d
  later : ∃ lines e, (later.mapM parseLayoutLine).Yields { d with spliced := [] } lines e ∧
    below = lines.flatten

/-- Where the layout is read, each of its lines is, and no lines wait to take its place. -/
theorem exists_readsLine {provider : σ} {art : String} {drawn : List ArtLine}
    {before : List String} {template : String} {later : List String} {info : List RichText}
    (hart : (if config.disableSource then pure [] else parseArt art : Eval σ (List ArtLine)).Yields
      (Context.reset { config, provider }) drawn c)
    (hlayout : config.layout = before ++ template :: later) (h : parseLayout.Yields c info d) :
    ∃ above c' parsed d' below,
      ReadsLine config provider art before template later drawn above c' parsed d' below ∧
      c'.Unspliced config true ∧
      info = (above ++ (if d'.spliced.isEmpty then [parsed.rich] else d'.spliced) ++ below).filter
        (!isMissing ·) := by
  have hc := unspliced_of_art hart
  have hlayout : c.config.layout = before ++ template :: later := by rw [hc.config, hlayout]
  obtain ⟨lines, hread, rfl⟩ := exists_of_parseLayout h
  rw [hlayout] at hread
  obtain ⟨above, c₁, rest, habove, hrest, rfl⟩ := Eval.yields_mapM_append.mp hread
  rw [List.mapM_cons, Eval.yields_bind] at hrest
  obtain ⟨own, _, hown, hrest⟩ := hrest
  obtain ⟨below, _, hbelow, hrest⟩ := Eval.yields_bind.mp hrest
  obtain ⟨rfl, rfl⟩ := Eval.yields_pure.mp hrest
  have hstart : { c with parsingLayout := true }.Unspliced config true :=
    ⟨⟨hc.config, rfl⟩, hc.spliced⟩
  have hc₁ := Eval.of_yields_mapM (f := parseLayoutLine)
    (fun _ _ _ _ hc h => (exists_of_parseLayoutLine hc h).1) hstart habove
  obtain ⟨-, applied, parsed, d', hparsed, rfl, rfl⟩ := exists_of_parseLayoutLine hc₁ hown
  refine ⟨above.flatten, _, parsed, d', below.flatten,
    ⟨⟨c, above, c₁, applied, hart, habove, rfl, rfl⟩, hparsed, ⟨below, _, hbelow, rfl⟩⟩,
    { hc₁ with }, ?_⟩
  rw [List.flatten_append, List.flatten_cons, ← List.append_assoc]

/-- A line of the layout stands for its own text, or for the lines that are to take its place. Those
are shown that hold no mark of a missing fact. So the line is left out if nothing in it can ask for
the volumes, and a value in its text holds the mark. -/
theorem lines_of_layout {provider after : σ} {art : String} {output : Output}
    {before : List String} {template : String} {later : List String}
    (h : render config provider art = (.ok output, after)) (hlogo : config.printLogoOnly = false)
    (hlayout : config.layout = before ++ template :: later) :
    ∃ drawn above c parsed d below,
      ReadsLine config provider art before template later drawn above c parsed d below ∧
      output.lines = Layout.compose config drawn
        ((above ++ (if d.spliced.isEmpty then [parsed.rich] else d.spliced) ++ below).filter
          (!isMissing ·)) ∧
      (config.AsksNoVolumes template.toList →
        d.spliced = [] ∧ ∀ index tag value,
          ValueAt (evalNested maxDepth) (String.ofList (config.withReset template.toList)) true {}
            (.read (config.withReset template.toList)) c index tag value →
          isMissing value = true →
          output.lines = Layout.compose config drawn ((above ++ below).filter (!isMissing ·))) := by
  obtain ⟨drawn, info, ⟨c₀, hart, hinfo⟩, hlines⟩ := lines_of_render h
  rw [place, if_neg (by simp [hlogo])] at hlines
  rw [if_neg (by simp [hlogo])] at hinfo
  obtain ⟨_, hinfo⟩ := hinfo
  obtain ⟨above, c, parsed, d, below, hline, hc, rfl⟩ := exists_readsLine hart hlayout hinfo
  refine ⟨drawn, above, c, parsed, d, below, hline, hlines, fun hno => ?_⟩
  have hparsed := hline.line
  have hle : withoutVolumes.Le (unsplicing true) := ⟨fun hne _ => hne, id, Iff.rfl⟩
  have hwithin : Within (unsplicing true)
      (String.ofList (config.withReset template.toList)).toList := by
    rw [String.toList_ofList]
    exact hno.line.mono hle
  have hspliced : d.spliced = [] := ((keeps_unspliced_parseLine
    (fun _ _ => (hno.percentage _ _).mono hle) hwithin).of_yields hparsed hc).spliced
  refine ⟨hspliced, fun index tag value hvalue hmark => ?_⟩
  unfold parseLine at hparsed
  rw [String.toList_ofList] at hparsed
  have hmissing := isMissing_of_valueAt hparsed hvalue hmark
  rw [hlines, hspliced]
  simp [List.filter_append, hmissing]

/-- A fact that is missing in the text of a line, which is left out with the other text in it. -/
theorem lines_of_layout_battery :
    let config : Config := { layout := ["No $<battery>", "Host"], disableSource := true }
    config.printLogoOnly = false ∧ config.layout = [] ++ "No $<battery>" :: ["Host"] ∧
      config.AsksNoVolumes "No $<battery>".toList ∧
      ∃ output after, render config ({} : Snapshot) "" = (.ok output, after) ∧
        output.plainLines = [" Host"] ∧
        ∃ drawn above c parsed d below index tag value,
          ReadsLine config ({} : Snapshot) "" [] "No $<battery>" ["Host"] drawn above c parsed d
            below ∧
          ValueAt (evalNested maxDepth) "No $<battery>" true {} (.read "No $<battery>".toList) c
            index tag value ∧
          isMissing value = true ∧
          output.lines = Layout.compose config drawn ((above ++ below).filter (!isMissing ·)) := by
  intro config
  have hline : config.withReset "No $<battery>".toList = "No $<battery>".toList := by decide
  have hno : config.AsksNoVolumes "No $<battery>".toList := by
    refine .of_colors ?_ fun level => by cases level <;> decide
    have hbattery : Flat (· ≠ Info.volumesTag)
        ('$' :: '<' :: (quote "battery".toList ++ ['>'])) := .info (by decide) .nil
    have hflat : Flat (· ≠ Info.volumesTag) "No $<battery>".toList :=
      (Info.flat_literal "No " (by simp)).append hbattery
    have hle : (flatShape (· ≠ Info.volumesTag)).Le withoutVolumes := ⟨id, False.elim, Iff.rfl⟩
    rw [hline]
    exact (bodyAlike_of_flat hflat).mono hle
  have hlayout : config.layout = [] ++ "No $<battery>" :: ["Host"] := rfl
  refine ⟨rfl, hlayout, hno, exists_render (p := (·.plainLines = [" Host"])) (by decide +kernel)
    fun output after h hp => ⟨of_decide_eq_true hp, ?_⟩⟩
  obtain ⟨drawn, above, c, parsed, d, below, hreads, -, hleft⟩ := lines_of_layout h rfl hlayout
  obtain ⟨-, hleft⟩ := hleft hno
  rw [hline, String.ofList_toList] at hleft
  obtain ⟨_, _, _, applied, hart, hbefore, -, hc⟩ := hreads.before
  obtain ⟨-, rfl⟩ := Eval.yields_pure.mp hart
  obtain ⟨-, rfl⟩ := Eval.yields_pure.mp hbefore
  let battery : Tag := .info (.ofChars "battery".toList)
  have htree : Body.read "No $<battery>".toList =
      .char 'N' (.char 'o' (.char ' ' (.tag battery 10 (.done .closed)))) := by
    with_unfolding_all rfl
  obtain ⟨value, _, hbattery, hmark⟩ := Eval.exists_yields
    (x := Info.resolve (evalNested maxDepth) "battery".toList) (c := c)
    (p := fun value => isMissing value.toRich) (Q := fun value _ => isMissing value.toRich = true)
    (by rw [hc]; cases applied <;> decide +kernel) fun _ _ _ hp => hp
  have hvalue : ValueAt (evalNested maxDepth) "No $<battery>" true {}
      (.char 'N' (.char 'o' (.char ' ' (.tag battery 10 (.done .closed))))) c _ battery
      value.toRich :=
    .afterChar 'N' (.afterChar 'o' (.afterChar ' '
      (.value 10 (.done .closed) (valued_ofChars hbattery))))
  rw [← htree] at hvalue
  exact ⟨drawn, above, c, parsed, d, below, _, battery, value.toRich, hreads, hvalue, hmark,
    hleft _ battery value.toRich hvalue hmark⟩

/-- A missing fact that is compared. The line is shown. -/
theorem shown_though_missing :
    let config : Config := { layout := ["$[$<battery>,x,a,b]"] }
    let battery : Tag := .info (.quoted "battery".toList (.done .closed))
    config.AsksNoVolumes "$[$<battery>,x,a,b]".toList ∧
    Body.read "$[$<battery>,x,a,b]".toList =
      .tag (.conditional (.tag battery 10 (.done .closed)) (.ofChars ['x']) (.ofChars ['a'])
        (.ofChars ['b'])) 19 (.done .closed) ∧
    ∃ c parsed d value c',
      ReadsLine config ({} : Snapshot) "" [] "$[$<battery>,x,a,b]" [] [] [] c parsed d [] ∧
      (evalTag (evalNested maxDepth) "$[$<battery>,x,a,b]" true battery).Yields c value c' ∧
      isMissing value.text = true ∧
      ∃ output after, render config ({} : Snapshot) "" = (.ok output, after) ∧
        output.plainLines = ["     b"] := by
  intro config battery
  have htree : Body.read "$[$<battery>,x,a,b]".toList =
      .tag (.conditional (.tag battery 10 (.done .closed)) (.ofChars ['x']) (.ofChars ['a'])
        (.ofChars ['b'])) 19 (.done .closed) := by
    with_unfolding_all rfl
  have hline : config.withReset "$[$<battery>,x,a,b]".toList = "$[$<battery>,x,a,b]".toList := by
    decide
  have hno : config.AsksNoVolumes "$[$<battery>,x,a,b]".toList := by
    refine .of_colors ?_ fun level => by cases level <;> decide
    rw [hline, Within, htree]
    have hbattery : TagAlike withoutVolumes battery battery :=
      .info (.quoted "battery".toList (.done .closed)) fun said hsaid => by
        rw [eq_of_maySay_quoted hsaid]
        decide
    exact .tag (.conditional (.tag hbattery (fun _ => rfl) (.done .closed))
      (.char 'x' (.done .closed)) (.char 'a' (.done .closed)) (.char 'b' (.done .closed)))
      (fun _ => rfl) (.done .closed)
  let c : Context Snapshot :=
    { Context.reset { config, provider := {} } with parsingLayout := true }
  obtain ⟨parsed, d, hparsed, -⟩ := Eval.exists_yields
    (x := parseLine "$[$<battery>,x,a,b]") (c := c) (p := fun _ => true) (Q := fun _ _ => True)
    (by decide +kernel) fun _ _ _ _ => trivial
  obtain ⟨added, c', hbattery, hmark⟩ := Eval.exists_yields
    (x := evalTag (evalNested maxDepth) "$[$<battery>,x,a,b]" true battery) (c := c)
    (p := (isMissing ·.text)) (Q := fun added _ => isMissing added.text = true)
    (by decide +kernel) fun _ _ _ hp => hp
  refine ⟨hno, htree, c, parsed, d, added, c', ⟨?_, ?_, ?_⟩, hbattery, hmark, ?_⟩
  · exact ⟨_, [], c, false, rfl, rfl, rfl, rfl⟩
  · rw [hline, String.ofList_toList]
    exact hparsed
  · exact ⟨[], _, rfl, rfl⟩
  · exact exists_render (p := (·.plainLines = ["     b"])) (by decide +kernel)
      fun output after _ hp => of_decide_eq_true hp

end Render

end Placard
