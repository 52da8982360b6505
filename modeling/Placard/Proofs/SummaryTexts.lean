import Placard.Proofs.DiskTags
import Placard.Proofs.SummaryParts

/-! # The texts of summaries

The summary of a module is the tag of a template that is spelled from a few parts (`SummaryTag`,
`SummaryTag.exists_template`). Its members show what they find in the answers of the provider
(`SummaryTag.resolves`), and this is inserted as it is, tags and all. So the texts of the parts
follow one another in the summary, and nothing is asked or reported but for the parts
(`SummaryTag.exists_resolve`, `yields_summaryTags`). -/

namespace Placard

theorem RichText.pushText_nil (r : RichText) : r.pushText [] = r :=
  eq_of_text_ranges (List.append_nil _) rfl

theorem flatten_intersperse_nil (l : List (List α)) : (l.intersperse []).flatten = l.flatten := by
  induction l with
  | nil => rfl
  | cons as l ih =>
    cases l with
    | nil => rfl
    | cons bs l =>
      rw [List.intersperse_cons_cons, List.flatten_cons, List.flatten_cons, List.nil_append, ih,
        ← List.flatten_cons]

theorem toList_intercalate_replicate (n : Nat) (s : String) :
    ("".intercalate (List.replicate n s)).toList = (List.replicate n s.toList).flatten := by
  rw [String.toList_intercalate, List.map_replicate]
  exact flatten_intersperse_nil _

namespace Info

open Template

/-! ## The parts of the summaries

A part for a member holds what the member shows. -/

def cpuParts (cpu : CpuInfo) : List SummaryPart :=
  [.member .cpu "cpu".toList "name" (.value (.text cpu.name)), .text " (".toList,
    .member .cpu "cpu".toList "nproc" (.value (.count cpu.nproc.toNat)), .text ") @ ".toList,
    .member .cpu "cpu".toList "freq_max" (.value (.real cpu.freqMax)), .text " GHz".toList]

def gpuName (index : Nat) : List Char := "gpu".toList ++ Number.decimal index

def gpuParts (index : Nat) (gpu : GpuInfo) : List SummaryPart :=
  [.member (.gpu index) (gpuName index) "vendor" (.value (.text gpu.vendor)), .text " ".toList,
    .member (.gpu index) (gpuName index) "name" (.value (.text gpu.name))]

def titleParts (user : UserInfo) (os : OsInfo) : List SummaryPart :=
  [.color "auto2", .member .user "user".toList "name" (.value (.text user.name)), .color "0",
    .text "@".toList, .color "auto2",
    .member .os "os".toList "hostname" (.value (.text os.hostname))]

def batteryParts (battery : BatteryInfo) : List SummaryPart :=
  [.member .battery "battery".toList "perc" (.share battery.percentage true), .text " [".toList,
    .member .battery "battery".toList "status" (.value (.text battery.status)), .text "]".toList]

/-- An amount in the unit that suits it. -/
def Shown.amount (config : Config) (bytes : UInt64) : Shown :=
  .value (.text (autoDivide bytes config.useSiByteUnit).toString)

def diskParts (config : Config) (path : String) (disk : DiskInfo) : List SummaryPart :=
  let member := SummaryPart.member (.disk path) (diskSpec path none)
  [member "used" (.amount config disk.used), .text " / ".toList,
    member "total" (.amount config disk.total), .text " (".toList,
    member "used_perc" (.share (percentageOf disk.used disk.total) false), .text ") - ".toList,
    member "fs" (.value (.text disk.fsType))]

def symbolParts (symbol : String) : List SummaryPart :=
  (List.range 8).flatMap (fun i =>
    [.color (String.ofList ('\x1b' :: '[' :: (Number.decimal (30 + i) ++ ['m']))), .text [' '],
      .text symbol.toList, .text [' ']]) ++ [.color "0"]

/-- What is added to the summary of a volume. -/
def labelText (types : VolumeTypes) : List Char :=
  if (labels types).isEmpty then [] else (" [" ++ labels types ++ "]").toList

/-! ## How their templates are spelled -/

theorem Spelled.memberTag {name : String} (hname : ∀ c ∈ name.toList, isSpecial c = false)
    (query : Query) (module : List Char) (shown : Shown) (h : Spelled cs parts) :
    Spelled (memberTag (quote module) name ++ cs) (.member query module name shown :: parts) := by
  have htag := Spelled.member query module name shown h
  rw [memberTag_quote module hname]
  simpa only [List.cons_append, List.append_assoc, List.nil_append] using htag

theorem Spelled.literal (text : String) (htext : ∀ c ∈ text.toList, c ≠ '\\' ∧ c ≠ '$')
    (h : Spelled cs parts) : Spelled (text.toList ++ cs) (.text text.toList :: parts) :=
  .text htext h

/-- A member of a module by its literal name. -/
theorem Spelled.known (name : String) {member : String}
    (hplain : ∀ c ∈ name.toList ++ '.' :: member.toList, isSpecial c = false) (query : Query)
    (shown : Shown) (h : Spelled cs parts) : Spelled (Info.memberTag name.toList member ++ cs)
      (.member query name.toList member shown :: parts) := by
  have hname : quote name.toList = name.toList :=
    quote_eq_self fun c hc => hplain c (List.mem_append_left _ hc)
  have htag := Spelled.memberTag (fun c hc =>
    hplain c (List.mem_append_right _ (List.mem_cons_of_mem _ hc))) query name.toList shown h
  rwa [hname] at htag

theorem spelled_cpu (cpu : CpuInfo) :
    Spelled "$<cpu.name> ($<cpu.nproc>) @ $<cpu.freq_max> GHz".toList (cpuParts cpu) := by
  have h : Spelled _ (cpuParts cpu) :=
    .known "cpu" (by simp [isSpecial]) .cpu _ <| .literal " (" (by simp) <|
    .known "cpu" (by simp [isSpecial]) .cpu _ <| .literal ") @ " (by simp) <|
    .known "cpu" (by simp [isSpecial]) .cpu _ <| .literal " GHz" (by simp) .nil
  exact h

theorem spelled_gpu (index : Nat) (gpu : GpuInfo) :
    Spelled (memberTag (gpuName index) "vendor" ++ ' ' :: memberTag (gpuName index) "name")
      (gpuParts index gpu) := by
  have hname : quote (gpuName index) = gpuName index := by
    refine quote_eq_self (List.forall_mem_append.mpr ⟨by simp [isSpecial], fun c hc => ?_⟩)
    exact (plain_of_mem_decimal hc).1
  have h : Spelled _ (gpuParts index gpu) :=
    .memberTag (by simp [isSpecial]) (.gpu index) (gpuName index) _ <| .literal " " (by simp) <|
    .memberTag (by simp [isSpecial]) (.gpu index) (gpuName index) _ .nil
  rw [hname, List.append_nil] at h
  exact h

theorem spelled_title (user : UserInfo) (os : OsInfo) :
    Spelled "$\x7bauto2\x7d$<user.name>$\x7b0\x7d@$\x7bauto2\x7d$<os.hostname>".toList
      (titleParts user os) := by
  have hcolor : IsToken "auto2".toList := by simp [IsToken]
  have hreset : IsToken "0".toList := by simp [IsToken]
  have h : Spelled _ (titleParts user os) :=
    .color hcolor <| .known "user" (by simp [isSpecial]) .user _ <| .color hreset <|
    .literal "@" (by simp) <| .color hcolor <| .known "os" (by simp [isSpecial]) .os _ .nil
  exact h

theorem spelled_battery (battery : BatteryInfo) :
    Spelled "$<battery.perc> [$<battery.status>]".toList (batteryParts battery) := by
  have h : Spelled _ (batteryParts battery) :=
    .known "battery" (by simp [isSpecial]) .battery _ <| .literal " [" (by simp) <|
    .known "battery" (by simp [isSpecial]) .battery _ <| .literal "]" (by simp) .nil
  exact h

theorem spelled_disk (config : Config) (path : String) (disk : DiskInfo) :
    Spelled (memberTag (diskName path) "used" ++ " / ".toList ++
      memberTag (diskName path) "total" ++ " (".toList ++ memberTag (diskName path) "used_perc" ++
      ") - ".toList ++ memberTag (diskName path) "fs") (diskParts config path disk) := by
  have h : Spelled _ (diskParts config path disk) :=
    .memberTag (by simp [isSpecial]) (.disk path) (diskSpec path none) _ <|
    .literal " / " (by simp) <|
    .memberTag (by simp [isSpecial]) (.disk path) (diskSpec path none) _ <|
    .literal " (" (by simp) <|
    .memberTag (by simp [isSpecial]) (.disk path) (diskSpec path none) _ <|
    .literal ") - " (by simp) <|
    .memberTag (by simp [isSpecial]) (.disk path) (diskSpec path none) _ .nil
  rw [diskSpec, quote_diskName, List.append_nil] at h
  simp only [List.append_assoc]
  exact h

/-- Repeated templates stand for repeated parts. -/
theorem Spelled.flatMap {f : α → List Char} {g : α → List SummaryPart}
    (hstep : ∀ a cs parts, Spelled cs parts → Spelled (f a ++ cs) (g a ++ parts)) (as : List α)
    (h : Spelled cs parts) : Spelled (as.flatMap f ++ cs) (as.flatMap g ++ parts) := by
  induction as with
  | nil => exact h
  | cons a as ih =>
    rw [List.flatMap_cons, List.flatMap_cons, List.append_assoc, List.append_assoc]
    exact hstep a _ _ ih

theorem spelled_symbol (symbol : String) :
    Spelled (paletteRow 30 (symbolCell symbol)) (symbolParts symbol) := by
  have hreset : IsToken "0".toList := by simp [IsToken]
  have hlast : Spelled (colorTag "0".toList ++ []) [.color "0"] := .color hreset .nil
  rw [List.append_nil] at hlast
  refine Spelled.flatMap (fun i cs parts h => ?_) _ hlast
  have hcode : IsToken (String.ofList
      ('\x1b' :: '[' :: (Number.decimal (30 + i) ++ ['m']))).toList := by
    rw [String.toList_ofList]
    exact isToken_code (30 + i)
  have hcell := Spelled.color hcode <| .literal " " (by simp) <| .quoted symbol.toList <|
    .literal " " (by simp) h
  rw [String.toList_ofList] at hcell
  simpa [symbolCell] using hcell

/-! ## Their names -/

theorem splitSpec_gpuName (index : Nat) :
    splitSpec (gpuName index) = (gpuName index, none) ∧
      ∀ member : List Char, '(' ∉ member →
        splitSpec (gpuName index ++ '.' :: member) = (gpuName index, some member) := by
  have hplain : ∀ c ∈ gpuName index, c ≠ '.' ∧ c ≠ '(' :=
    List.forall_mem_append.mpr ⟨by simp, fun c hc => (plain_of_mem_decimal hc).2⟩
  have hdot : '.' ∉ gpuName index := fun hc => (hplain _ hc).1 rfl
  have hparenthesis : '(' ∉ gpuName index := fun hc => (hplain _ hc).2 rfl
  refine ⟨splitSpec_of_plain hdot hparenthesis, fun member hmember => ?_⟩
  exact splitSpec_of_not_mem hdot fun hc => (List.mem_append.mp hc).elim hparenthesis fun hc =>
    hmember ((List.mem_cons.mp hc).resolve_left (by decide))

theorem lookup_gpuName {index : Nat} (hindex : index ≤ 65535) :
    Module.lookup (String.ofList (gpuName index)) = .ok (.gpu index) := by
  have hname : (String.ofList (gpuName index)).toList = gpuName index := String.toList_ofList
  generalize String.ofList (gpuName index) = name at hname
  have hne : Number.decimal index ≠ [] := List.ne_nil_of_length_pos Nat.length_toDigits_pos
  obtain ⟨c, hc⟩ := List.exists_mem_of_ne_nil _ hne
  have hmem : c ∈ name.toList := by
    rw [hname]
    exact List.mem_append_right _ hc
  have hgpu : Module.lookupWithArgument name = Module.gpuOf name (Number.decimal index) := by
    unfold Module.lookupWithArgument
    rw [hname]
    rfl
  have hnumber : ¬ (Number.decimal index).isEmpty = true := by simpa using hne
  have hdigit := Number.isDigit_of_mem_decimal hc
  rw [Module.lookup_eq_lookupWithArgument hmem (.inr hdigit), hgpu, Module.gpuOf,
    if_neg hnumber, Number.readUnsigned?_decimal hindex]

theorem splitSpec_diskMember (path : String) {member : String} (hmember : ')' ∉ member.toList) :
    splitSpec (diskSpec path none ++ '.' :: member.toList) =
      (diskSpec path none, some member.toList) := by
  rw [← diskSpec_some]
  exact splitSpec_diskSpec path fun name hname => Option.mem_some.mp hname ▸ hmember

theorem lookup_colorsSymbol {symbol : String} (hsymbol : symbol ≠ "") :
    Module.lookup (String.ofList ("colors_symbol(".toList ++ symbol.toList ++ [')'])) =
      .ok (.colorsSymbol symbol) := by
  have hname : (String.ofList ("colors_symbol(".toList ++ symbol.toList ++ [')'])).toList =
      "colors_symbol".toList ++ '(' :: (symbol.toList ++ [')']) := by
    rw [String.toList_ofList]
    rfl
  generalize String.ofList ("colors_symbol(".toList ++ symbol.toList ++ [')']) = name at hname
  have hstem : Module.lookupWithArgument name =
      Module.withArgument name "colors_symbol" .symbol .colorsSymbol := by
    unfold Module.lookupWithArgument
    rw [hname]
    rfl
  rw [lookup_parenthesized hname hstem, if_neg hsymbol]

/-! ## What their members show -/

variable {config : Config} {facts : Facts} {nested : Nested Snapshot}

/-- A member that shows what it finds in an answer. -/
theorem resolves_value {query : Query} {module : List Char} {name : String} {value : Value}
    {about : Module}
    (hsplit : splitSpec (module ++ '.' :: name.toList) = (module, some name.toList))
    (hlookup : Module.lookup (String.ofList module) = .ok about)
    (hexpanding : about.isExpanding = false)
    (hmember : ∀ c, Context.Over config facts c → (Info.member nested about name).Yields c value
      { c with provider := c.provider.asking [query] }) :
    (SummaryPart.member query module name (.value value)).Resolves config facts nested :=
  resolves_of_member hsplit hlookup hexpanding (evaluates_value value) hmember

theorem resolves_cpuParts : ∀ part ∈ cpuParts facts.cpu, part.Resolves config facts nested := by
  simp only [cpuParts, List.forall_mem_cons]
  refine ⟨?_, trivial, ?_, trivial, ?_, trivial, nofun⟩
  all_goals
    refine resolves_value rfl rfl rfl ?_
    rintro c ⟨-, rfl⟩
    rfl

theorem resolves_titleParts :
    ∀ part ∈ titleParts facts.user facts.os, part.Resolves config facts nested := by
  simp only [titleParts, List.forall_mem_cons]
  refine ⟨trivial, ?_, trivial, trivial, trivial, ?_, nofun⟩
  all_goals
    refine resolves_value rfl rfl rfl ?_
    rintro c ⟨-, rfl⟩
    rfl

theorem resolves_gpuParts {index : Nat} (hindex : index ≤ 65535)
    (hgpu : facts.answer (.gpu index) = some gpu) :
    ∀ part ∈ gpuParts index gpu, part.Resolves config facts nested := by
  have hlookup := lookup_gpuName hindex
  have hsplit := (splitSpec_gpuName index).2
  simp only [gpuParts, List.forall_mem_cons]
  refine ⟨resolves_value (hsplit _ (by decide)) hlookup rfl ?_, trivial,
    resolves_value (hsplit _ (by decide)) hlookup rfl ?_, nofun⟩
  all_goals
    rintro c ⟨-, rfl⟩
    exact (yields_ask c (.gpu index) hgpu).bind_iff.mpr (Eval.yields_pure.mpr ⟨rfl, rfl⟩)

/-- A percentage that is the value of a member. -/
theorem member_of_percentage (percent : Float) (inverted : Bool) :
    (do
      let value ← (do return some (.rich (← coloredPercentage nested percent inverted)) :
        Eval Snapshot (Option Value))
      return value.getD .missing) = (Shown.share percent inverted).eval nested := by
  rw [bind_assoc]
  rfl

section

variable (hcolors : ∀ level, IsToken (config.percentageColors.get level).toList)

include hcolors

theorem resolves_batteryParts (hbattery : facts.answer .battery = some battery) (depth : Nat) :
    ∀ part ∈ batteryParts battery, part.Resolves config facts (evalNested (depth + 1)) := by
  simp only [batteryParts, List.forall_mem_cons]
  refine ⟨resolves_of_member rfl rfl rfl (evaluates_share _ _ (hcolors _) depth) ?_, trivial,
    resolves_value rfl rfl rfl ?_, trivial, nofun⟩
  · rintro c ⟨-, rfl⟩
    rw [← member_of_percentage, Info.member, Eval.outcome_bind, yields_ask c .battery hbattery]
    rfl
  · rintro c ⟨-, rfl⟩
    exact (yields_ask c .battery hbattery).bind_iff.mpr (Eval.yields_pure.mpr ⟨rfl, rfl⟩)

theorem resolves_diskParts (hpath : path ≠ "")
    (hdisk : facts.answer (.disk path) = some disk) (depth : Nat) :
    ∀ part ∈ diskParts config path disk, part.Resolves config facts (evalNested (depth + 1)) := by
  have hlookup := lookup_diskSpec hpath
  simp only [diskParts, Shown.amount, List.forall_mem_cons]
  refine ⟨resolves_value (splitSpec_diskMember path (by decide)) hlookup rfl ?_, trivial,
    resolves_value (splitSpec_diskMember path (by decide)) hlookup rfl ?_, trivial,
    resolves_of_member (splitSpec_diskMember path (by decide)) hlookup rfl
      (evaluates_share _ _ (hcolors _) depth) ?_, trivial,
    resolves_value (splitSpec_diskMember path (by decide)) hlookup rfl ?_, nofun⟩
  · rintro c ⟨rfl, rfl⟩
    exact (yields_ask c (.disk path) hdisk).bind_iff.mpr rfl
  · rintro c ⟨rfl, rfl⟩
    exact (yields_ask c (.disk path) hdisk).bind_iff.mpr rfl
  · rintro c ⟨-, rfl⟩
    rw [← member_of_percentage, Info.member, Eval.outcome_bind, yields_ask c (.disk path) hdisk]
    rfl
  · rintro c ⟨-, rfl⟩
    exact (yields_ask c (.disk path) hdisk).bind_iff.mpr rfl

end

theorem resolves_symbolParts (symbol : String) :
    ∀ part ∈ symbolParts symbol, part.Resolves config facts nested := by
  intro part hpart
  simp only [symbolParts, List.mem_append, List.mem_flatMap, List.mem_cons, List.not_mem_nil,
    or_false] at hpart
  obtain ⟨_, -, rfl | rfl | rfl | rfl⟩ | rfl := hpart
  all_goals trivial

/-! ## Tags for whole modules -/

/-- The tags of summaries, on a machine with these facts: the name, the module that it stands for,
what is asked for this first, the parts of its template, and what is added behind them. -/
inductive SummaryTag (config : Config) (facts : Facts) :
    List Char → Module → List Query → List SummaryPart → List Char → Prop
  | cpu : SummaryTag config facts "cpu".toList .cpu [] (cpuParts facts.cpu) []
  | gpu : index ≤ 65535 → facts.answer (.gpu index) = some gpu →
      SummaryTag config facts (gpuName index) (.gpu index) [.gpu index] (gpuParts index gpu) []
  | title :
      SummaryTag config facts "title".toList .title [] (titleParts facts.user facts.os) []
  | battery : facts.answer .battery = some battery →
      SummaryTag config facts "battery".toList .battery [.battery] (batteryParts battery) []
  | disk : path ≠ "" → facts.answer (.disk path) = some disk →
      SummaryTag config facts (diskSpec path none) (.disk path) [.disk path]
        (diskParts config path disk) (labelText disk.types)
  | colorsSymbol : symbol ≠ "" →
      SummaryTag config facts ("colors_symbol(".toList ++ symbol.toList ++ [')'])
        (.colorsSymbol symbol) [] (symbolParts symbol) []

namespace SummaryTag

variable {spec : List Char} {about : Module} {asked : List Query} {parts : List SummaryPart}
  {behind : List Char}

theorem split (h : SummaryTag config facts spec about asked parts behind) :
    splitSpec spec = (spec, none) := by
  cases h with
  | cpu | title | battery => rfl
  | @gpu index => exact (splitSpec_gpuName index).1
  | @disk path => exact splitSpec_diskSpec path nofun
  | colorsSymbol => exact splitSpec_of_argument_end (List.mem_append_left _ (by decide))

theorem lookup (h : SummaryTag config facts spec about asked parts behind) :
    Module.lookup (String.ofList spec) = .ok about := by
  cases h with
  | cpu | title | battery => rfl
  | gpu hindex => exact lookup_gpuName hindex
  | disk hpath => exact lookup_diskSpec hpath
  | colorsSymbol hsymbol => exact lookup_colorsSymbol hsymbol

theorem isExpanding (h : SummaryTag config facts spec about asked parts behind) :
    about.isExpanding = false := by
  cases h <;> rfl

theorem names (h : SummaryTag config facts spec about asked parts behind) :
    (parts.flatMap (·.names)).Nodup ∧
      ∀ name ∈ parts.flatMap (·.names), name.toList.head? ≠ some 'm' := by
  cases h with
  | cpu => simp [cpuParts, SummaryPart.names]
  | gpu => simp [gpuParts, SummaryPart.names]
  | title => simp [titleParts, SummaryPart.names]
  | battery => simp [batteryParts, SummaryPart.names]
  | disk => simp [diskParts, SummaryPart.names]
  | @colorsSymbol symbol =>
    have hnone : (symbolParts symbol).flatMap (·.names) = [] := rfl
    rw [hnone]
    exact ⟨List.nodup_nil, nofun⟩

theorem resolves (hcolors : ∀ level, IsToken (config.percentageColors.get level).toList)
    (h : SummaryTag config facts spec about asked parts behind) (depth : Nat) :
    ∀ part ∈ parts, part.Resolves config facts (evalNested (depth + 1)) := by
  cases h with
  | cpu => exact resolves_cpuParts
  | gpu hindex hgpu => exact resolves_gpuParts hindex hgpu
  | title => exact resolves_titleParts
  | battery hbattery => exact resolves_batteryParts hcolors hbattery depth
  | disk hpath hdisk => exact resolves_diskParts hcolors hpath hdisk depth
  | @colorsSymbol symbol => exact resolves_symbolParts symbol

/-- After the first queries the summary is made by one template, and the text is added. -/
theorem exists_template (h : SummaryTag config facts spec about asked parts behind) :
    ∃ template, Spelled template parts ∧ ∀ (nested : Nested Snapshot) c,
      Context.Over config facts c → (summary nested about).outcome c =
        (do return Value.rich ((← nested template).pushText behind)).outcome
          { c with provider := c.provider.asking asked } := by
  cases h with
  | cpu =>
    refine ⟨_, spelled_cpu facts.cpu, fun nested c _ => ?_⟩
    simp only [RichText.pushText_nil]
    rfl
  | @gpu index gpu _ hgpu =>
    refine ⟨_, spelled_gpu index gpu, ?_⟩
    rintro nested c ⟨-, rfl⟩
    rw [summary, Eval.outcome_bind, yields_ask c (.gpu index) hgpu]
    simp only [RichText.pushText_nil]
    rfl
  | title =>
    refine ⟨_, spelled_title facts.user facts.os, fun nested c _ => ?_⟩
    simp only [RichText.pushText_nil]
    rfl
  | @battery battery hbattery =>
    refine ⟨_, spelled_battery battery, ?_⟩
    rintro nested c ⟨-, rfl⟩
    rw [summary, Eval.outcome_bind, yields_ask c .battery hbattery]
    simp only [RichText.pushText_nil]
    rfl
  | @disk path disk _ hdisk =>
    refine ⟨_, spelled_disk config path disk, ?_⟩
    rintro nested c ⟨-, rfl⟩
    rw [summary, diskSummary, Eval.outcome_bind, yields_ask c (.disk path) hdisk]
    unfold labelText
    dsimp only
    split
    · simp only [RichText.pushText_nil]
    · rfl
  | @colorsSymbol symbol =>
    refine ⟨_, spelled_symbol symbol, fun nested c _ => ?_⟩
    simp only [RichText.pushText_nil]
    rfl

end SummaryTag

/-! ## The texts -/

/-- The tag with this name, its special characters quoted. -/
def infoTag (spec : List Char) : String := String.ofList ('$' :: '<' :: (quote spec ++ ['>']))

/-- A template that is one tag shows what this stands for. -/
theorem exists_parseLine {spec : List Char} {value : Value} {c d : Context Snapshot}
    (h : (resolve (evalNested maxDepth) spec).Yields c value d) : ∃ parsed,
      (parseLine (infoTag spec)).Yields c parsed { d with styles := d.styles.cleared } ∧
        parsed.rich.text = value.toText := by
  have htag : (infoTag spec).toList = '$' :: '<' :: (quote spec ++ '>' :: []) :=
    String.toList_ofList
  rw [parseLine, htag]
  obtain ⟨added, hadded, hbody⟩ := outcome_info (evalNested maxDepth)
    (String.ofList ('$' :: '<' :: (quote spec ++ '>' :: []))) spec [] {} h
  rw [read_nil] at hbody
  exact ⟨_, yields_evalWhole _ hbody, hadded⟩

/-- A tag for a whole module shows the parts of its summary, and does nothing but for these. -/
theorem SummaryTag.exists_resolve {spec : List Char} {about : Module} {asked : List Query}
    {parts : List SummaryPart} {behind : List Char} {e e' c : Context Snapshot}
    {provider : Snapshot} (hcolors : ∀ level, IsToken (config.percentageColors.get level).toList)
    (h : SummaryTag config facts spec about asked parts behind) (hstage : Stage e provider [] c)
    (hconfig : e.config = config) (hfacts : provider.facts = facts)
    (happly : ((parts.flatMap (·.tokens config.percentageColors)).forM applyColor).Yields e () e')
    (depth : Nat) : ∃ value d, (resolve (evalNested (depth + 2)) spec).Yields c value d ∧
      value.toText = parts.flatMap (·.said) ++ behind ∧
      Stage e' (provider.asking (asked ++ parts.flatMap (·.queries)))
        (("module-" ++ String.ofList spec) :: parts.flatMap (·.names)) d := by
  obtain ⟨template, hspelled, hsummary⟩ := h.exists_template
  obtain ⟨hnodup, hnames⟩ := h.names
  have hover : Context.Over config facts c :=
    ⟨hstage.colors.config.trans hconfig, hstage.provider ▸ hfacts⟩
  obtain ⟨rich, d, hrich, htext, hd⟩ := hspelled.exists_evalNested (hstage.asking asked) hconfig
    hfacts happly hnodup (fun _ _ => List.not_mem_nil) (depth + 1) (h.resolves hcolors depth)
  have hcompute : (compute (evalNested (depth + 2)) spec).Yields c
      (.rich (rich.pushText behind)) d := by
    rw [compute_eq_summary _ h.split h.lookup]
    refine (hsummary (evalNested (depth + 2)) c hover).trans (hrich.bind_iff.mpr ?_)
    exact Eval.yields_pure.mpr ⟨rfl, rfl⟩
  have hkey : (keyOf spec).2 = "module-" ++ String.ofList spec := by
    rw [keyOf, h.split]
    rfl
  have hseen : (keyOf spec).2 ∉ parts.flatMap (·.names) ++ [] := by
    rw [List.append_nil, hkey]
    exact fun hmem => ne_module_append (hnames _ hmem) _ rfl
  obtain ⟨d', hresolve, hlast⟩ := Info.exists_resolve
    ⟨about, h.split.symm ▸ h.lookup, h.isExpanding⟩ List.not_mem_nil hseen hstage hcompute hd
  rw [hkey, List.append_nil, ← Snapshot.asking_append] at hlast
  exact ⟨_, d', hresolve, congrArg (· ++ behind) htext, hlast⟩

/-- The colors of the parts apply one after another, and this leads from one state to the other. -/
def Colored (parts : List SummaryPart) (c e : Context Snapshot) : Prop :=
  ((parts.flatMap (·.tokens c.config.percentageColors)).forM applyColor).Yields c () e

theorem colored_of_isSome {parts : List SummaryPart} {c : Context Snapshot}
    (h : (((parts.flatMap (·.tokens c.config.percentageColors)).forM applyColor).outcome
      c).1.toOption.isSome = true) : Colored parts c
        (((parts.flatMap (·.tokens c.config.percentageColors)).forM applyColor).outcome c).2 := by
  refine Prod.ext ?_ rfl
  generalize (((parts.flatMap (·.tokens c.config.percentageColors)).forM applyColor).outcome c).1 =
    result at h
  cases result with
  | error => cases h
  | ok => rfl

theorem isToken_defaultColor (level : Level) :
    IsToken (({} : PercentageColors).get level).toList := by
  cases level <;> simp [PercentageColors.get, IsToken]

theorem stage_of_empty {c : Context Snapshot} (hcache : c.cache = {}) :
    Stage c c.provider [] c :=
  ⟨.refl c, rfl, hcache ▸ nofun⟩

theorem said_titleParts (user : UserInfo) (os : OsInfo) :
    (titleParts user os).flatMap (·.said) = (user.name ++ "@" ++ os.hostname).toList := by
  simp [titleParts, SummaryPart.said, Shown.said, Value.toText]

theorem said_symbolParts (symbol : String) : (symbolParts symbol).flatMap (·.said) =
    (List.replicate 8 (' ' :: (symbol.toList ++ [' ']))).flatten := by
  simp [symbolParts, SummaryPart.said, List.range_succ]

/-- The separator of the title takes two queries, and no color. -/
theorem exists_resolve_titleSep {c : Context Snapshot} (hcache : c.cache = {})
    (nested : Nested Snapshot) : ∃ value d, (resolve nested "title_sep".toList).Yields c value d ∧
      value.toText = (List.replicate (Text.Metrics.glyphCount Snapshot
        (c.provider.facts.user.name ++ "@" ++ c.provider.facts.os.hostname).toList)
        c.config.titleSep.toList).flatten ∧
      Stage c (c.provider.asking [.user, .os]) ["module-title_sep"] d := by
  have hcompute : (compute nested "title_sep".toList).Yields c _
      { c with provider := c.provider.asking [.user, .os] } := rfl
  have hstage := stage_of_empty hcache
  obtain ⟨d, hresolve, hd⟩ := Info.exists_resolve ⟨.titleSep, rfl, rfl⟩ List.not_mem_nil
    List.not_mem_nil hstage hcompute (hstage.asking [.user, .os])
  exact ⟨_, d, hresolve, toList_intercalate_replicate _ _, hd⟩

/-- On a state in which nothing is remembered, and with the default colors of percentages, a summary
shows the texts of its parts one after another, whatever the facts hold. No text of the facts is
read as a template: nothing is asked, reported or remembered but for the parts. A member alone shows
what it shows as a part. The separator is repeated for each glyph of the title as this is shown,
and a symbol is shown eight times. -/
theorem yields_summaryTags (c : Context Snapshot) (hcache : c.cache = {})
    (hpercent : c.config.percentageColors = {}) :
    (∀ {spec about asked parts behind e},
      SummaryTag c.config c.provider.facts spec about asked parts behind → Colored parts c e →
      ∃ parsed d, (parseLine (infoTag spec)).Yields c parsed d ∧
        parsed.rich.text = parts.flatMap (·.said) ++ behind ∧
        Stage e (c.provider.asking (asked ++ parts.flatMap (·.queries)))
          (("module-" ++ String.ofList spec) :: parts.flatMap (·.names)) d) ∧
    (∀ {spec about asked parts behind e query module name shown},
      SummaryTag c.config c.provider.facts spec about asked parts behind →
      .member query module name shown ∈ parts → Colored [.member query module name shown] c e →
      ∃ parsed d, (parseLine (infoTag (module ++ '.' :: name.toList))).Yields c parsed d ∧
        parsed.rich.text = shown.said ∧ Stage e (c.provider.asking [query]) [name] d) ∧
    (∀ {e}, Colored (titleParts c.provider.facts.user c.provider.facts.os) c e →
      ∃ title separator d d', (parseLine (infoTag "title".toList)).Yields c title d ∧
        (parseLine (infoTag "title_sep".toList)).Yields c separator d' ∧
        separator.rich.text =
          (List.replicate (title.rich.glyphCount Snapshot) c.config.titleSep.toList).flatten ∧
        Stage c (c.provider.asking [.user, .os]) ["module-title_sep"] d') ∧
    ∀ symbol, (symbolParts symbol).flatMap (·.said) =
      (List.replicate 8 (' ' :: (symbol.toList ++ [' ']))).flatten := by
  have hstage := stage_of_empty hcache
  have htokens : ∀ level, IsToken (c.config.percentageColors.get level).toList := by
    rw [hpercent]
    exact isToken_defaultColor
  have hsummary {spec about asked parts behind e}
      (h : SummaryTag c.config c.provider.facts spec about asked parts behind)
      (happly : Colored parts c e) : ∃ parsed d, (parseLine (infoTag spec)).Yields c parsed d ∧
        parsed.rich.text = parts.flatMap (·.said) ++ behind ∧
        Stage e (c.provider.asking (asked ++ parts.flatMap (·.queries)))
          (("module-" ++ String.ofList spec) :: parts.flatMap (·.names)) d := by
    obtain ⟨value, d, hvalue, htext, hd⟩ :=
      h.exists_resolve htokens hstage rfl rfl happly 998
    obtain ⟨parsed, hparsed, hshown⟩ := exists_parseLine hvalue
    exact ⟨parsed, _, hparsed, hshown.trans htext, hd.activate []⟩
  refine ⟨hsummary, fun h hmem happly => ?_, fun happly => ?_, said_symbolParts⟩
  · obtain ⟨value, d, hvalue, htext, hd⟩ := h.resolves htokens 999 _ hmem hstage rfl rfl
      (by simpa [Colored, SummaryPart.tokens] using happly) List.not_mem_nil
    obtain ⟨parsed, hparsed, hshown⟩ := exists_parseLine hvalue
    exact ⟨parsed, _, hparsed, hshown.trans htext, hd.activate []⟩
  · obtain ⟨title, d, htitle, hsaid, -⟩ := hsummary .title happly
    obtain ⟨value, d', hvalue, htext, hd'⟩ :=
      exists_resolve_titleSep hcache (evalNested maxDepth)
    obtain ⟨separator, hseparator, hshown⟩ := exists_parseLine hvalue
    rw [List.append_nil, said_titleParts] at hsaid
    refine ⟨title, separator, d, _, htitle, hseparator, ?_, hd'.activate []⟩
    rw [hshown, htext, RichText.glyphCount, hsaid]

/-- Facts that are full of tags. -/
theorem yields_summaryTags_tags :
    let path := "/a>b,$<os.kernel>"
    let disk : DiskInfo := { mountdir := path, fsType := "$[x,y", types := { readOnly := true } }
    let facts : Facts :=
      { os := { hostname := "],%1>" }, user := { name := "$\x7bred\x7d$<" }, disks := [disk] }
    let c : Context Snapshot := { config := {}, provider := { facts } }
    c.cache = {} ∧ c.config.percentageColors = {} ∧
      (∃ parsed d, (parseLine "$<title>").Yields c parsed d ∧
        parsed.rich.text = "$\x7bred\x7d$<@],%1>".toList ∧ d.diagnostics = []) ∧
      (∃ parsed d, (parseLine "$<disk(/a\\>b\\,\\$<os.kernel\\>)>").Yields c parsed d ∧
        parsed.rich.text = (diskParts {} path disk).flatMap (·.said) ++ " [Read-only]".toList) ∧
      ∃ parsed d, (parseLine "$<colors_symbol(\\]\\$<)>").Yields c parsed d ∧
        parsed.rich.text = (List.replicate 8 " ]$< ".toList).flatten := by
  intro path disk facts c
  obtain ⟨hsummary, -, -, hsymbol⟩ := yields_summaryTags c rfl rfl
  refine ⟨rfl, rfl, ?_, ?_, ?_⟩
  · have htag : infoTag "title".toList = "$<title>" := by decide +kernel
    have happly : Colored (titleParts facts.user facts.os) c _ :=
      colored_of_isSome (by decide +kernel)
    obtain ⟨parsed, d, hparsed, htext, hd⟩ := hsummary .title happly
    rw [htag] at hparsed
    refine ⟨parsed, d, hparsed, htext.trans (by decide +kernel), ?_⟩
    exact hd.colors.diagnostics.trans (by decide +kernel)
  · have htag : infoTag (diskSpec path none) = "$<disk(/a\\>b\\,\\$<os.kernel\\>)>" := by
      decide +kernel
    have hdisk : SummaryTag c.config c.provider.facts (diskSpec path none) (.disk path)
      [.disk path] (diskParts {} path disk) (labelText disk.types) := .disk (by decide) rfl
    have hlevel (level : Level) : (([({} : PercentageColors).get level, "0"].forM
        applyColor).outcome c).1.toOption.isSome = true := by
      cases level <;> decide +kernel
    have happly : Colored (diskParts {} path disk) c _ := colored_of_isSome (hlevel _)
    obtain ⟨parsed, d, hparsed, htext, -⟩ := hsummary hdisk happly
    rw [htag] at hparsed
    exact ⟨parsed, d, hparsed, htext⟩
  · have htag : infoTag ("colors_symbol(".toList ++ "]$<".toList ++ [')']) =
        "$<colors_symbol(\\]\\$<)>" := by
      decide +kernel
    have happly : Colored (symbolParts "]$<") c _ := colored_of_isSome (by decide +kernel)
    obtain ⟨parsed, d, hparsed, htext, -⟩ := hsummary (.colorsSymbol (by decide)) happly
    rw [htag] at hparsed
    exact ⟨parsed, d, hparsed, htext.trans ((List.append_nil _).trans (hsymbol _))⟩

/-- A path that is written into the tag as it is may leave it without an argument, or end it. -/
theorem not_yields_diskTag_unquoted :
    let facts : Facts := { disks := [{ mountdir := "" }, { mountdir := ">" }] }
    let c : Context Snapshot := { config := {}, provider := { facts } }
    c.cache = {} ∧ c.config.percentageColors = {} ∧
      ∀ path ∈ ["", ">"], ∃ disk, c.provider.facts.answer (.disk path) = some disk ∧
        (∃ e, Colored (diskParts c.config path disk) c e) ∧
        ∀ parsed d, ¬ (parseLine ("$<disk(" ++ path ++ ")>")).Yields c parsed d := by
  intro facts c
  have hlevel (level : Level) : (([({} : PercentageColors).get level, "0"].forM
      applyColor).outcome c).1.toOption.isSome = true := by
    cases level <;> decide +kernel
  have hfails : ∀ path ∈ ["", ">"],
      ((parseLine ("$<disk(" ++ path ++ ")>")).outcome c).1.toOption.isSome = false := by
    decide +kernel
  refine ⟨rfl, rfl, fun path hpath => ?_⟩
  have hdisk : ∃ disk, c.provider.facts.answer (.disk path) = some disk := by
    simp only [List.mem_cons, List.not_mem_nil, or_false] at hpath
    obtain rfl | rfl := hpath
    · exact ⟨_, rfl⟩
    · exact ⟨_, rfl⟩
  obtain ⟨disk, hdisk⟩ := hdisk
  have happly : Colored (diskParts c.config path disk) c _ := colored_of_isSome (hlevel _)
  refine ⟨disk, hdisk, ⟨_, happly⟩, fun parsed d hyields => ?_⟩
  have hnone := hfails path hpath
  rw [hyields] at hnone
  cases hnone

end Info

end Placard
