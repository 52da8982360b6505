import Placard.Info.Resolve
import Placard.Proofs.Simulation

/-! # Members and summaries on two states

Members and summaries do not look at the shared state but for the settings, the answers of the
provider, and what the templates do that some of them are made of. So they are the same, but for
the styles of texts, on any two states that agree in this (`Info.Comparable`):
`Info.simulates_member`, `Info.simulates_summary`. The tags that stand for lines also look at where
they are and add to the lines that were read (`Info.Expandable`, `Info.simulates_expand`). -/

namespace Placard

namespace Info

variable {σ : Type}

/-- The built-in texts have no members and stand for themselves. -/
def Module.isBuiltIn : Module → Bool
  | .auto | .title | .titleSep | .colors | .colorsLight | .colorsSymbol _ | .colorsLightSymbol _ => true
  | .os | .system | .user | .cpu | .gpu _ | .ram | .swap | .disk _ | .battery | .theme
  | .themeGtk _ => false

/-! ## Values without styles -/

/-- The value is no styled text. -/
def Value.IsPlain : Value → Prop
  | .rich _ => False
  | _ => True

@[simp] theorem isPlain_text (s : String) : (Value.text s).IsPlain := trivial

@[simp] theorem isPlain_count (n : Nat) : (Value.count n).IsPlain := trivial

@[simp] theorem isPlain_real (x : Float) : (Value.real x).IsPlain := trivial

@[simp] theorem isPlain_missing : Value.missing.IsPlain := trivial

@[simp] theorem isPlain_ofOption (fact : Option String) : (Value.ofOption fact).IsPlain := by
  cases fact <;> trivial

@[simp] theorem isPlain_withVersion (name version : Option String) :
    (withVersion name version).IsPlain := by
  cases name <;> cases version <;> trivial

@[simp] theorem isPlain_temperature (celsius : Option Float) (convert : Float → Float) :
    (temperature celsius convert).IsPlain := by
  cases celsius <;> trivial

@[simp] theorem isPlain_hostLine (host : HostInfo) : (hostLine host).IsPlain := by
  unfold hostLine
  dsimp only
  split <;> trivial

theorem isPlain_getD {value : Option Value} (h : ∀ v ∈ value, v.IsPlain) :
    (value.getD .missing).IsPlain := by
  cases value with
  | none => trivial
  | some v => exact h v rfl

theorem isPlain_osMember (suffixes : UptimeSuffixes) (os : OsInfo) (member : String) :
    ∀ v ∈ osMember suffixes os member, v.IsPlain := by
  unfold osMember
  dsimp only
  split <;> simp

theorem isPlain_systemMember (host : HostInfo) (member : String) :
    ∀ v ∈ systemMember host member, v.IsPlain := by
  unfold systemMember
  split <;> simp

theorem isPlain_userMember (user : UserInfo) (member : String) :
    ∀ v ∈ userMember user member, v.IsPlain := by
  unfold userMember
  split <;> simp

theorem isPlain_cpuMember (cpu : CpuInfo) (member : String) :
    ∀ v ∈ cpuMember cpu member, v.IsPlain := by
  unfold cpuMember
  split <;> simp

theorem isPlain_gpuMember (gpu : GpuInfo) (member : String) :
    ∀ v ∈ gpuMember gpu member, v.IsPlain := by
  unfold gpuMember
  split <;> simp

theorem isPlain_amountInUnit (memory : MemoryInfo) (member : String) :
    ∀ v ∈ amountInUnit? memory member, v.IsPlain := by
  intro v hv
  simp only [amountInUnit?, Option.mem_def, Option.bind_eq_bind, Option.bind_eq_some_iff,
    Option.pure_def, Option.some.injEq] at hv
  obtain ⟨_, _, _, _, _, _, rfl⟩ := hv
  trivial

theorem isPlain_themeMember (theme : ThemeInfo) (member : String) :
    ∀ v ∈ themeMember theme member, v.IsPlain := by
  unfold themeMember
  split <;> simp

theorem isPlain_gtkMember (theme : GtkThemeInfo) (member : String) :
    ∀ v ∈ gtkMember theme member, v.IsPlain := by
  unfold gtkMember
  split <;> simp

/-- Equal but for the styles of a text. -/
inductive Value.Related (rich : RichText → RichText → Prop) : Value → Value → Prop
  | text (s : String) : Related rich (.text s) (.text s)
  | rich : rich r s → Related rich (.rich r) (.rich s)
  | count (n : Nat) : Related rich (.count n) (.count n)
  | real (x : Float) : Related rich (.real x) (.real x)

theorem Value.IsPlain.related {rich : RichText → RichText → Prop} {v : Value}
    (h : v.IsPlain) : v.Related rich v := by
  cases v with
  | text s => exact .text s
  | rich r => exact h.elim
  | count n => exact .count n
  | real x => exact .real x

theorem related_of_isPlain {rich : RichText → RichText → Prop} {value : Option Value}
    (h : ∀ v ∈ value, v.IsPlain) : Option.Rel (Value.Related rich) value value := by
  cases value with
  | none => exact .none
  | some v => exact .some (h v rfl).related

/-! ## Templates of summaries -/

/-- The templates that stand for whole modules. -/
inductive Summarizes : Module → List Char → Prop
  | cpu : Summarizes .cpu "$<cpu.name> ($<cpu.nproc>) @ $<cpu.freq_max> GHz".toList
  | gpu (index : Nat) : Summarizes (.gpu index)
      (memberTag ("gpu".toList ++ Number.decimal index) "vendor" ++
        ' ' :: memberTag ("gpu".toList ++ Number.decimal index) "name")
  | ram : Summarizes .ram "$<ram.used> / $<ram.total> ($<ram.used_perc>)".toList
  | swap : Summarizes .swap "$<swap.used> / $<swap.total> ($<swap.used_perc>)".toList
  | disk (path : String) : Summarizes (.disk path)
      (memberTag (diskName path) "used" ++ " / ".toList ++ memberTag (diskName path) "total" ++
        " (".toList ++ memberTag (diskName path) "used_perc" ++ ") - ".toList ++
        memberTag (diskName path) "fs")
  | battery : Summarizes .battery "$<battery.perc> [$<battery.status>]".toList
  | title : Summarizes .title
      "$\x7bauto2\x7d$<user.name>$\x7b0\x7d@$\x7bauto2\x7d$<os.hostname>".toList
  | colors : Summarizes .colors (paletteRow 40 blankCell)
  | colorsLight : Summarizes .colorsLight (paletteRow 100 blankCell)
  | colorsSymbol (symbol : String) :
      Summarizes (.colorsSymbol symbol) (paletteRow 30 (symbolCell symbol))
  | colorsLightSymbol (symbol : String) :
      Summarizes (.colorsLightSymbol symbol) (paletteRow 90 (symbolCell symbol))

/-! ## Two states -/

/-- What two states have to share for members and summaries. `rich` says which texts count as the
same. -/
structure Comparable [Provider σ] (demand : Eval.Demand) (R : Context σ → Context σ → Prop)
    (rich : RichText → RichText → Prop) : Prop where
  config : R c d → d.config = { c.config with disableColors := d.config.disableColors }
  ask : ∀ query, Eval.Simulates demand R Eq (Eval.ask query) (Eval.ask query)
  pushText : rich r s → ∀ text, rich (r.pushText text) (s.pushText text)

section

variable {demand : Eval.Demand} {R : Context σ → Context σ → Prop}
  {rich : RichText → RichText → Prop} {nested nested' : Nested σ}

theorem simulates_coloredPercentage
    (hconfig : ∀ c d, R c d → d.config = { c.config with disableColors := d.config.disableColors })
    (hn : ∀ template, Eval.Simulates demand R rich (nested template) (nested' template))
    (percent : Float) (inverted : Bool) :
    Eval.Simulates demand R rich (coloredPercentage nested percent inverted)
      (coloredPercentage nested' percent inverted) := by
  refine Eval.Simulates.get.bind fun c d h => ?_
  have hcolors : d.config.percentageColors = c.config.percentageColors :=
    congrArg (·.percentageColors) (hconfig c d h)
  rw [hcolors]
  exact hn _

section

variable (hp : ∀ percent inverted, Eval.Simulates demand R rich
    (coloredPercentage nested percent inverted) (coloredPercentage nested' percent inverted))
  (hconfig : ∀ c d, R c d → d.config = { c.config with disableColors := d.config.disableColors })

include hp

theorem simulates_percentageMember (percent : Float) (inverted : Bool) :
    Eval.Simulates demand R (Option.Rel (Value.Related rich))
      (do return some (.rich (← coloredPercentage nested percent inverted)))
      (do return some (.rich (← coloredPercentage nested' percent inverted))) :=
  (hp percent inverted).bind fun _ _ hr => .pure (.some (.rich hr))

theorem simulates_batteryMember (battery : BatteryInfo) (member : String) :
    Eval.Simulates demand R (Option.Rel (Value.Related rich)) (batteryMember nested battery member)
      (batteryMember nested' battery member) := by
  unfold batteryMember
  split
  · exact simulates_percentageMember hp _ true
  · exact simulates_percentageMember hp _ true
  · exact .pure (.some (.text _))
  · exact .pure (.some (.text _))
  · exact .pure (.some (.text _))
  · exact .pure (.some (.text _))
  · exact .pure (.some (.text _))
  · exact .pure (.some (isPlain_temperature _ _).related)
  · exact .pure (.some (isPlain_temperature _ _).related)
  · exact .pure (.some (isPlain_temperature _ _).related)
  · exact .pure .none

include hconfig

theorem simulates_memoryMember (memory : MemoryInfo) (member : String) :
    Eval.Simulates demand R (Option.Rel (Value.Related rich)) (memoryMember nested memory member)
      (memoryMember nested' memory member) := by
  refine Eval.Simulates.get.bind fun c d h => ?_
  have hsi : d.config.useSiByteUnit = c.config.useSiByteUnit :=
    congrArg (·.useSiByteUnit) (hconfig c d h)
  rw [hsi]
  dsimp only
  split
  · exact .pure (.some (.text _))
  · exact .pure (.some (.text _))
  · exact .pure (.some (.text _))
  · exact simulates_percentageMember hp _ false
  · exact simulates_percentageMember hp _ false
  · exact simulates_percentageMember hp _ true
  · exact simulates_percentageMember hp _ true
  · exact .pure (related_of_isPlain (isPlain_amountInUnit memory _))

theorem simulates_diskMember (disk : DiskInfo) (member : String) :
    Eval.Simulates demand R (Option.Rel (Value.Related rich)) (diskMember nested disk member)
      (diskMember nested' disk member) := by
  unfold diskMember
  split
  · exact .pure (.some (.text _))
  · exact .pure (.some (.text _))
  · exact .pure (.some (.text _))
  · exact .pure (.some (.text _))
  · exact simulates_memoryMember hp hconfig disk.memory member

end

/-- What is evaluated by a template is related to what the other template evaluation gives. -/
theorem simulates_rich
    (hn : Eval.Simulates demand R rich (nested template) (nested' template)) :
    Eval.Simulates demand R (Value.Related rich) (.rich <$> nested template)
      (.rich <$> nested' template) := hn.map fun _ _ => .rich

variable [Provider σ] (hR : Comparable demand R rich)

include hR

theorem simulates_titleSeparator :
    Eval.Simulates demand R (Value.Related rich) titleSeparator titleSeparator := by
  refine (hR.ask .user).bind_eq fun user => ?_
  refine (hR.ask .os).bind_eq fun os => ?_
  refine Eval.Simulates.get.bind fun c d h => ?_
  have htitle : d.config.titleSep = c.config.titleSep := congrArg (·.titleSep) (hR.config h)
  rw [htitle]
  exact .pure (.text _)

/-- A summary is the same where the templates of the module are. -/
theorem simulates_summary (module : Module)
    (hn : ∀ template, Summarizes module template →
      Eval.Simulates demand R rich (nested template) (nested' template)) :
    Eval.Simulates demand R (Value.Related rich) (summary nested module)
      (summary nested' module) := by
  cases module with
  | cpu => exact simulates_rich (hn _ .cpu)
  | ram => exact simulates_rich (hn _ .ram)
  | title => exact simulates_rich (hn _ .title)
  | colors => exact simulates_rich (hn _ .colors)
  | colorsLight => exact simulates_rich (hn _ .colorsLight)
  | colorsSymbol symbol => exact simulates_rich (hn _ (.colorsSymbol symbol))
  | colorsLightSymbol symbol => exact simulates_rich (hn _ (.colorsLightSymbol symbol))
  | gpu index =>
    refine (hR.ask (.gpu index)).bind_eq fun gpu => ?_
    cases gpu with
    | none => exact .pure (.text _)
    | some _ => exact simulates_rich (hn _ (.gpu index))
  | swap =>
    refine (hR.ask .swap).bind_eq fun swap => ?_
    split
    · exact .pure (.text _)
    · exact simulates_rich (hn _ .swap)
  | disk path =>
    refine (hR.ask (.disk path)).bind_eq fun disk => ?_
    cases disk with
    | none => exact .pure (.text _)
    | some disk =>
      refine (hn _ (.disk path)).bind fun r s hr => ?_
      dsimp only
      split
      · exact .pure (.rich hr)
      · exact .pure (.rich (hR.pushText hr _))
  | battery =>
    refine (hR.ask .battery).bind_eq fun battery => ?_
    cases battery with
    | none => exact .pure (.text _)
    | some _ => exact simulates_rich (hn _ .battery)
  | titleSep => exact simulates_titleSeparator hR
  | os | system | user | theme | themeGtk | auto => exact .pure (.text _)

/-- A member that is read off the answer to one query. -/
theorem simulates_answer (query : Query) {read : query.Answer → Value}
    (h : ∀ answer, (read answer).IsPlain) :
    Eval.Simulates demand R (Value.Related rich) (do return read (← Eval.ask query))
      (do return read (← Eval.ask query)) :=
  (hR.ask query).bind_eq fun answer => .pure (h answer).related

theorem simulates_member (module : Module) (member : String)
    (hp : ∀ percent inverted, Eval.Simulates demand R rich
      (coloredPercentage nested percent inverted) (coloredPercentage nested' percent inverted))
    (hs : module.isBuiltIn = true → Eval.Simulates demand R (Value.Related rich)
      (summary nested module) (summary nested' module)) :
    Eval.Simulates demand R (Value.Related rich) (Info.member nested module member)
      (Info.member nested' module member) := by
  have hgetD {v w : Option Value} (h : Option.Rel (Value.Related rich) v w) :
      (v.getD .missing).Related rich (w.getD .missing) := by
    cases h with
    | none => exact .text _
    | some hv => exact hv
  have hconfig := fun c d (h : R c d) => hR.config h
  cases module with
  | os =>
    refine (hR.ask .os).bind_eq fun os => ?_
    refine Eval.Simulates.get.bind fun c d h => ?_
    have huptime : d.config.uptime = c.config.uptime := congrArg (·.uptime) (hR.config h)
    rw [huptime]
    exact .pure (isPlain_getD (isPlain_osMember _ os member)).related
  | system => exact simulates_answer hR .host fun _ => isPlain_getD (isPlain_systemMember _ _)
  | user => exact simulates_answer hR .user fun _ => isPlain_getD (isPlain_userMember _ _)
  | cpu => exact simulates_answer hR .cpu fun _ => isPlain_getD (isPlain_cpuMember _ _)
  | gpu index =>
    refine simulates_answer hR (.gpu index) fun gpu => isPlain_getD ?_
    cases gpu with
    | none => exact nofun
    | some gpu => exact isPlain_gpuMember gpu member
  | ram =>
    refine (hR.ask .ram).bind_eq fun ram => ?_
    exact (simulates_memoryMember hp hconfig ram member).bind fun _ _ hv => .pure (hgetD hv)
  | swap =>
    refine (hR.ask .swap).bind_eq fun swap => ?_
    exact (simulates_memoryMember hp hconfig swap member).bind fun _ _ hv => .pure (hgetD hv)
  | disk path =>
    refine (hR.ask (.disk path)).bind_eq fun disk => ?_
    cases disk with
    | none => exact .pure (.text _)
    | some disk =>
      exact (simulates_diskMember hp hconfig disk member).bind fun _ _ hv => .pure (hgetD hv)
  | battery =>
    refine (hR.ask .battery).bind_eq fun battery => ?_
    cases battery with
    | none => exact .pure (.text _)
    | some battery =>
      exact (simulates_batteryMember hp battery member).bind fun _ _ hv => .pure (hgetD hv)
  | theme => exact simulates_answer hR .theme fun _ => isPlain_getD (isPlain_themeMember _ _)
  | themeGtk version =>
    exact simulates_answer hR (.gtkTheme version) fun _ => isPlain_getD (isPlain_gtkMember _ _)
  | auto | title | titleSep | colors | colorsLight | colorsSymbol | colorsLightSymbol =>
    unfold Info.member
    exact hs rfl

end

/-! ## Lines in the place of a tag -/

/-- What two states have to share besides for the tags that stand for lines. -/
structure Expandable [Provider σ] (demand : Eval.Demand) (R : Context σ → Context σ → Prop)
    (rich : RichText → RichText → Prop) : Prop extends Comparable demand R rich where
  parsingLayout : R c d → d.parsingLayout = c.parsingLayout
  injectSeparatorReset (line : List Char) : Eval.Simulates demand R Eq
    (modifyGet fun context => { context with sepResetApplied := false }.injectSeparatorReset line)
    (modifyGet fun context => { context with sepResetApplied := false }.injectSeparatorReset line)
  splice : R c d → rich r s →
    R { c with spliced := c.spliced ++ [r] } { d with spliced := d.spliced ++ [s] }

section

variable [Provider σ] {demand : Eval.Demand} {R : Context σ → Context σ → Prop}
  {rich : RichText → RichText → Prop} {nested nested' : Nested σ}
  (hR : Expandable demand R rich)
  (hn : ∀ template, Eval.Simulates demand R rich (nested template) (nested' template))

include hR hn

theorem simulates_spliceLines (lines : List (List Char)) :
    Eval.Simulates demand R Eq (spliceLines nested lines) (spliceLines nested' lines) := by
  induction lines with
  | nil => exact .pure rfl
  | cons line lines ih =>
    refine (hR.injectSeparatorReset line).bind_eq fun line => ?_
    refine (hn line).bind fun r s hr => ?_
    exact (Eval.Simulates.modify fun c d h => hR.splice h hr).bind_eq fun _ => ih

theorem simulates_autoDisk : Eval.Simulates demand R (Value.Related rich) (autoDisk nested)
    (autoDisk nested') := by
  refine Eval.Simulates.get.bind fun c d h => ?_
  have hdisk : d.config.autoDisk = c.config.autoDisk := congrArg (·.autoDisk) (hR.config h)
  rw [hdisk]
  refine (hR.ask .volumes).bind_eq fun disks => ?_
  dsimp only
  split
  · exact .pure (.text _)
  · exact (simulates_spliceLines hR hn _).bind_eq fun _ => .pure (.text _)

theorem simulates_expand (member : Option String) :
    Eval.Simulates demand R (Value.Related rich) (expand nested member) (expand nested' member) := by
  refine Eval.Simulates.get.bind fun c d h => ?_
  rw [hR.parsingLayout h]
  split
  · exact .pure (.text _)
  · split
    · exact simulates_autoDisk hR hn
    · exact .pure (.text _)

end

end Info

end Placard
