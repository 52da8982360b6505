import Placard.Proofs.Computed
import Placard.Proofs.Listing
import Placard.Proofs.Shown
import Placard.Proofs.VolumeStrings

/-! # The amounts of a volume in its line

Where the format of the lines is made of text and placeholders, each part of it is shown by itself
(`Info.exists_shown_of_literal`). The placeholders for strings show those of the volume. The ones for
amounts are filled in as tags for its members, and these look for the volume by its mount point. So
they show the amounts of the first volume with that mount point, whatever is remembered
(`Info.describes_of_volumesTag`). For a second volume with the same mount point these are not its own
(`Info.amounts_of_first_mounted`). -/

namespace Placard.Info

open Template

variable {config : Config} {facts : Facts} {disk mounted : DiskInfo}

/-! ## Placeholders for amounts -/

/-- The member of the volume that a percent sign with this digit stands for. -/
def memberAt? : Char → Option String
  | '4' => some "total"
  | '5' => some "free"
  | '6' => some "used"
  | '7' => some "used_perc"
  | '8' => some "free_perc"
  | _ => none

/-- The amount for this digit. -/
def amountAt? (memory : MemoryInfo) : Char → Option UInt64
  | '4' => some memory.total
  | '5' => some memory.free
  | '6' => some memory.used
  | _ => none

/-- The percentage for this digit, and whether much of it is good. -/
def percentageAt? (memory : MemoryInfo) : Char → Option (Float × Bool)
  | '7' => some (percentageOf memory.used memory.total, false)
  | '8' => some (percentageOf memory.free memory.total, true)
  | _ => none

theorem placeholder?_cases (h : placeholder? disk digit = some text) :
    (∃ string, volumeString? disk digit = some string ∧ text = quote string.toList) ∨
      ∃ name, memberAt? digit = some name ∧ text = memberTag (diskName disk.mountdir) name := by
  unfold placeholder? at h
  split at h <;> cases h <;> first | exact .inl ⟨_, rfl, rfl⟩ | exact .inr ⟨_, rfl, rfl⟩

theorem plain_of_memberAt? (h : memberAt? digit = some name) :
    (∀ c ∈ name.toList, isSpecial c = false) ∧ ')' ∉ name.toList ∧
      name.toList.head? ≠ some 'm' := by
  unfold memberAt? at h
  split at h <;> cases h <;> simp [isSpecial]

/-- Such a member is an amount or a percentage. -/
theorem shown_of_diskMember {nested : Nested Snapshot} {shown : Option Value}
    {c d : Context Snapshot} (hname : memberAt? digit = some name)
    (h : (diskMember nested disk name).Yields c shown d) :
    (∃ bytes, amountAt? disk.memory digit = some bytes ∧
      shown = some (.text (autoDivide bytes c.config.useSiByteUnit).toString)) ∨
    ∃ percent inverted rich, percentageAt? disk.memory digit = some (percent, inverted) ∧
      (coloredPercentage nested percent inverted).Yields c rich d ∧ shown = some (.rich rich) := by
  have hget : (get : Eval Snapshot _).Yields c c c := rfl
  have hamount (bytes : UInt64)
      (h : (do
        let si := (← get).config.useSiByteUnit
        return some (.text (autoDivide bytes si).toString) : Eval Snapshot _).Yields c shown d) :
      shown = some (.text (autoDivide bytes c.config.useSiByteUnit).toString) := by
    rw [hget.bind_iff] at h
    exact (Eval.yields_pure.mp h).1
  have hpercentage (percent : Float) (inverted : Bool)
      (h : (do
        let _ ← get
        return some (.rich (← coloredPercentage nested percent inverted)) :
          Eval Snapshot _).Yields c shown d) :
      ∃ rich, (coloredPercentage nested percent inverted).Yields c rich d ∧
        shown = some (.rich rich) := by
    rw [hget.bind_iff] at h
    obtain ⟨rich, _, hrich, h⟩ := Eval.yields_bind.mp h
    obtain ⟨rfl, rfl⟩ := Eval.yields_pure.mp h
    exact ⟨rich, hrich, rfl⟩
  unfold memberAt? at hname
  split at hname <;> cases hname
  · exact .inl ⟨_, rfl, hamount _ h⟩
  · exact .inl ⟨_, rfl, hamount _ h⟩
  · exact .inl ⟨_, rfl, hamount _ h⟩
  · obtain ⟨rich, hrich⟩ := hpercentage _ _ h
    exact .inr ⟨_, _, rich, rfl, hrich⟩
  · obtain ⟨rich, hrich⟩ := hpercentage _ _ h
    exact .inr ⟨_, _, rich, rfl, hrich⟩

/-! ## Formats of text and placeholders -/

/-- A part of a format. -/
inductive FormatPart where
  | char (c : Char)
  | escaped (c : Char)
  | placeholder (digit : Char)

def FormatPart.write : FormatPart → List Char
  | .char c => [c]
  | .escaped c => ['\\', c]
  | .placeholder digit => ['%', digit]

def writeFormat (parts : List FormatPart) : List Char := parts.flatMap FormatPart.write

/-- The parts keep apart in the line of the volume: no percent sign is that of a placeholder by
accident, and no dollar sign is that of a tag. -/
inductive Literal (disk : DiskInfo) : List FormatPart → Prop
  | nil : Literal disk []
  /-- At the end a backslash escapes nothing. -/
  | backslash : Literal disk [.char '\\']
  | char : c ≠ '\\' →
      (∀ d ds, c = '%' → writeFormat parts = d :: ds → placeholder? disk d = none) →
      (c = '$' → ¬ OpensTag (fillPlaceholders disk (writeFormat parts))) →
      Literal disk parts → Literal disk (.char c :: parts)
  | escaped :
      (∀ d ds, c = '%' → writeFormat parts = d :: ds → placeholder? disk d = none) →
      Literal disk parts → Literal disk (.escaped c :: parts)
  | placeholder : (placeholder? disk digit).isSome = true → Literal disk parts →
      Literal disk (.placeholder digit :: parts)

/-- A percentage shows the text in some state over the settings and facts. -/
structure ShowsPercentage (config : Config) (facts : Facts) (percent : Float) (inverted : Bool)
    (text : List Char) : Prop where
  evaluated : ∃ depth c rich d, Context.Over config facts c ∧
    (coloredPercentage (evalNested depth) percent inverted).Yields c rich d ∧ rich.text = text
  /-- If the color is a token, it adds nothing to the text. -/
  digits : IsToken (config.percentageColors.get (.shown percent inverted)).toList →
    text = Number.writeFixed percent ++ ['%']

/-- What a part of the format shows in the line of a volume that has its own strings and the amounts
of the other one. -/
inductive FormatPart.Shows (config : Config) (facts : Facts) (disk mounted : DiskInfo) :
    FormatPart → List Char → Prop
  | char (c) : Shows config facts disk mounted (.char c) [c]
  | escaped (c) : Shows config facts disk mounted (.escaped c) [c]
  | string : volumeString? disk digit = some string →
      Shows config facts disk mounted (.placeholder digit) string.toList
  | amount : amountAt? mounted.memory digit = some bytes →
      Shows config facts disk mounted (.placeholder digit)
        (autoDivide bytes config.useSiByteUnit).toString.toList
  | percentage : percentageAt? mounted.memory digit = some (percent, inverted) →
      ShowsPercentage config facts percent inverted text →
      Shows config facts disk mounted (.placeholder digit) text

/-- What was computed for a member of the volume. -/
theorem FormatPart.shows_of_computed {value : Value} (hname : memberAt? digit = some name)
    (hmounted : facts.disks.find? (·.mountdir = disk.mountdir) = some mounted)
    (h : Computed config facts (memberSpec disk.mountdir name) value) :
    FormatPart.Shows config facts disk mounted (.placeholder digit) value.toText := by
  obtain ⟨depth, c, shown, d, hc, hshown, rfl⟩ :=
    h.of_memberSpec (plain_of_memberAt? hname).2.1 hmounted
  obtain ⟨bytes, hbytes, rfl⟩ | ⟨percent, inverted, rich, hpercent, hrich, rfl⟩ :=
    shown_of_diskMember hname hshown
  · rw [hc.1]
    exact .amount hbytes
  · refine .percentage hpercent ⟨⟨depth, c, rich, d, hc, hrich, rfl⟩, fun hcolor => ?_⟩
    obtain rfl := hc.1
    exact text_of_coloredPercentage hcolor hrich

/-! ## Reading such a format -/

/-- A tag for a member shows what was computed for it. -/
def ShowsMember (config : Config) (facts : Facts) (spec text : List Char) : Prop :=
  AsksMember spec → ∃ value, Computed config facts spec value ∧ text = value.toText

theorem showing_faithful (config : Config) (facts : Facts) (depth : Nat) :
    Showing (Context.Faithful config facts) (evalNested depth) (ShowsMember config facts) where
  invariant := invariant_faithful config facts
  keeps_nested := keeps_faithful_evalNested depth
  keeps_resolve := keeps_faithful_resolve depth
  shows_of_resolve hc h hspec := ⟨_, hc.computed_of_resolve hspec h, rfl⟩

/-- The placeholder for a member. -/
theorem exists_shown_of_memberTag (hname : memberAt? digit = some name)
    (hmounted : facts.disks.find? (·.mountdir = disk.mountdir) = some mounted)
    (h : BodyShows (ShowsMember config facts)
      (.read (memberTag (diskName disk.mountdir) name ++ cs)) text) :
    ∃ shown later, FormatPart.Shows config facts disk mounted (.placeholder digit) shown ∧
      BodyShows (ShowsMember config facts) (.read cs) later ∧ text = shown ++ later := by
  obtain ⟨hspecial, hplain, hm⟩ := plain_of_memberAt? hname
  have htag : memberTag (diskName disk.mountdir) name ++ cs =
      '$' :: '<' :: (quote (memberSpec disk.mountdir name) ++ '>' :: cs) := by
    rw [memberTag_diskName _ hspecial]
    simp only [List.cons_append, List.append_assoc, List.nil_append]
  obtain ⟨length, hread⟩ := read_infoTag (memberSpec disk.mountdir name) cs
  rw [htag, hread] at h
  cases h with
  | @tag _ shown _ later _ hshown hlater =>
    obtain ⟨spec, hspec, hshows⟩ := hshown.of_info (Body.isClosed_quoted _ _)
    obtain ⟨rest, hrest, rfl⟩ := exists_of_bodyShows_quoted hspec
    cases hrest
    rw [List.append_nil] at hshows
    obtain ⟨value, hvalue, rfl⟩ := hshows (asksMember_disk _ hplain hm)
    exact ⟨_, later, FormatPart.shows_of_computed hname hmounted hvalue, hlater, rfl⟩

/-- The parts are shown one after another. -/
theorem exists_shown_of_literal
    (hmounted : facts.disks.find? (·.mountdir = disk.mountdir) = some mounted)
    {parts : List FormatPart} (hparts : Literal disk parts)
    (h : BodyShows (ShowsMember config facts)
      (.read (fillPlaceholders disk (writeFormat parts))) text) :
    ∃ shown, List.Forall₂ (FormatPart.Shows config facts disk mounted) parts shown ∧
      text = shown.flatten := by
  induction hparts generalizing text with
  | nil =>
    rw [writeFormat, List.flatMap_nil, fillPlaceholders, read_nil] at h
    cases h
    exact ⟨[], .nil, rfl⟩
  | backslash =>
    have hfill : fillPlaceholders disk (writeFormat [.char '\\']) = ['\\'] :=
      fillPlaceholders_cons fun _ _ hc => absurd hc (by decide)
    rw [hfill, read_backslash] at h
    cases h with
    | backslash h =>
      cases h
      exact ⟨[['\\']], .cons (.char '\\') .nil, rfl⟩
  | @char c parts hescape hpercent hdollar _ ih =>
    have hfill : fillPlaceholders disk (writeFormat (.char c :: parts)) =
        c :: fillPlaceholders disk (writeFormat parts) := fillPlaceholders_cons hpercent
    rw [hfill, read_char hescape hdollar] at h
    cases h with
    | char h =>
      obtain ⟨shown, hshown, rfl⟩ := ih h
      exact ⟨[c] :: shown, .cons (.char c) hshown, rfl⟩
  | @escaped c parts hpercent _ ih =>
    have hfill : fillPlaceholders disk (writeFormat (.escaped c :: parts)) =
        '\\' :: c :: fillPlaceholders disk (writeFormat parts) := by
      rw [← fillPlaceholders_cons hpercent]
      exact fillPlaceholders_cons fun _ _ hc => absurd hc (by decide)
    rw [hfill, read_escaped] at h
    cases h with
    | escaped h =>
      obtain ⟨shown, hshown, rfl⟩ := ih h
      exact ⟨[c] :: shown, .cons (.escaped c) hshown, rfl⟩
  | @placeholder digit parts hdigit _ ih =>
    obtain ⟨filled, hfilled⟩ := Option.isSome_iff_exists.mp hdigit
    have hfill : fillPlaceholders disk (writeFormat (.placeholder digit :: parts)) =
        filled ++ fillPlaceholders disk (writeFormat parts) := fillPlaceholders_append hfilled [] _
    rw [hfill] at h
    obtain ⟨string, hstring, rfl⟩ | ⟨name, hname, rfl⟩ := placeholder?_cases hfilled
    · rw [read_quote_append] at h
      obtain ⟨later, hlater, rfl⟩ := exists_of_bodyShows_quoted h
      obtain ⟨shown, hshown, rfl⟩ := ih hlater
      exact ⟨string.toList :: shown, .cons (.string hstring) hshown, rfl⟩
    · obtain ⟨first, later, hfirst, hlater, rfl⟩ := exists_shown_of_memberTag hname hmounted h
      obtain ⟨shown, hshown, rfl⟩ := ih hlater
      exact ⟨first :: shown, .cons hfirst hshown, rfl⟩

/-! ## Lines -/

/-- The line shows the parts of the format, with the strings of the volume and the amounts of the
first volume with its mount point. That is the volume itself, unless one before it has the same
mount point. -/
def Describes (config : Config) (facts : Facts) (parts : List FormatPart) (disk : DiskInfo)
    (line : RichText) : Prop :=
  ∃ mounted shown, facts.disks.find? (·.mountdir = disk.mountdir) = some mounted ∧
    (∀ before after, facts.disks = before ++ disk :: after →
      (∀ other ∈ before, other.mountdir ≠ disk.mountdir) → mounted = disk) ∧
    List.Forall₂ (FormatPart.Shows config facts disk mounted) parts shown ∧
    line.text = shown.flatten

theorem eq_of_first_mounted {disks before after : List DiskInfo}
    (hmounted : disks.find? (·.mountdir = disk.mountdir) = some mounted)
    (hdisks : disks = before ++ disk :: after)
    (hbefore : ∀ other ∈ before, other.mountdir ≠ disk.mountdir) : mounted = disk := by
  have hnone : before.find? (·.mountdir = disk.mountdir) = none := by
    simpa using hbefore
  rw [hdisks, List.find?_append, hnone, Option.none_or, List.find?_cons_of_pos (by simp)] at hmounted
  exact (Option.some.inj hmounted).symm

theorem describes_of_evalNested {parts : List FormatPart} {depth : Nat} {line : RichText}
    {c d : Context Snapshot} (hformat : config.autoDisk.format.toList = writeFormat parts)
    (hparts : Literal disk parts)
    (hgap : ∀ before rest,
      config.resetPlace? (fillPlaceholders disk config.autoDisk.format.toList) =
        some (before, rest) → IsGap before rest)
    (hdisk : disk ∈ facts.disks) (hc : c.Faithful config facts)
    (h : (evalNested depth (volumeLine config disk)).Yields c line d) :
    Describes config facts parts disk line := by
  have hfound : (facts.disks.find? (·.mountdir = disk.mountdir)).isSome = true :=
    List.find?_isSome.mpr ⟨disk, hdisk, by simp⟩
  obtain ⟨mounted, hmounted⟩ := Option.isSome_iff_exists.mp hfound
  cases depth with
  | zero => exact absurd h Eval.not_yields_throw
  | succ depth =>
    have hshown := bodyShows_of_evalNested (showing_faithful config facts depth) { hc with } h
    have halike := bodyAlike_read (resetIn_withReset hgap)
    replace hshown := halike.bodyShows hshown
    rw [hformat] at hshown
    obtain ⟨shown, hparts, htext⟩ := exists_shown_of_literal hmounted hparts hshown
    exact ⟨mounted, shown, hmounted, fun before after => eq_of_first_mounted hmounted, hparts, htext⟩

theorem ReadsVolumes.describes {parts : List FormatPart} {disks : List DiskInfo}
    {lines : List RichText} {c d : Context Snapshot}
    (hlines : ∀ disk ∈ disks, ∀ depth c line d, Context.Faithful config facts c →
      (evalNested depth (volumeLine config disk)).Yields c line d →
        Describes config facts parts disk line)
    (h : ReadsVolumes config c disks lines inside d) (hc : c.Faithful config facts) :
    List.Forall₂ (Describes config facts parts) disks lines := by
  induction h with
  | nil => exact .nil
  | @cons c c' _ disk _ line _ _ _ applied depth hline _ _ ih =>
    obtain ⟨hfirst, hrest⟩ := List.forall_mem_cons.mp hlines
    have hbegun : (c.begun applied).Faithful config facts := { hc with }
    have hc' := (keeps_faithful_evalNested depth _).of_yields hline hbegun
    have hput : (c'.put line).Faithful config facts := { hc' with }
    exact .cons (hfirst depth _ line c' hbegun hline) (ih hrest hput)

/-- Each time the volumes are asked for in the layout, whatever was read before, one line is put
aside for each listed volume, which describes it as the format says. -/
theorem describes_of_volumesTag {parts : List FormatPart} {depth : Nat} {value : Value}
    {c d : Context Snapshot} (hformat : config.autoDisk.format.toList = writeFormat parts)
    (hparts : ∀ disk ∈ listedVolumes config.autoDisk facts.disks, Literal disk parts)
    (hgap : ∀ disk ∈ listedVolumes config.autoDisk facts.disks, ∀ before rest,
      config.resetPlace? (fillPlaceholders disk config.autoDisk.format.toList) =
        some (before, rest) → IsGap before rest)
    (hc : Reached config facts c) (hlayout : c.parsingLayout = true)
    (h : (resolve (evalNested depth) volumesTag).Yields c value d) :
    ∃ lines inside, ReadsVolumes config c.volumesAsked (listedVolumes config.autoDisk facts.disks)
        lines inside d ∧
      (inside = 0 → d.spliced = c.spliced ++ lines) ∧
      List.Forall₂ (Describes config facts parts) (listedVolumes config.autoDisk facts.disks)
        lines := by
  have hfaithful := hc.faithful
  have hin : c.InLayout config facts := ⟨⟨hfaithful.isOver.1, hlayout⟩, hfaithful.isOver.2⟩
  rw [yields_volumesTag_iff hlayout] at h
  obtain ⟨-, lines, inside, hlines, -⟩ :=
    readsVolumes_of_autoDisk (leadsByLists_evalNested depth) hin h
  have hasked : c.volumesAsked.Faithful config facts := { hfaithful with }
  refine ⟨lines, inside, hlines, hlines.spliced hin.volumesAsked, hlines.describes ?_ hasked⟩
  intro disk hdisk depth c line d hc hline
  have hmem := (picks_listedVolumes config.autoDisk facts.disks).subset disk hdisk
  exact describes_of_evalNested hformat (hparts disk hdisk) (hgap disk hdisk) hmem hc hline

/-- Two volumes, one of which is on the device of the other. The reset is before the colon. -/
theorem describes_of_volumesTag_two_volumes :
    let config : Config := { autoDisk := { format := "%2: %6 of %4 (%7)", showDuplicated := true } }
    let volume (mountdir : String) (used : UInt64) : DiskInfo :=
      { mountdir, device := "sda", total := 2048, used, types := { regular := true } }
    let facts : Facts := { disks := [volume "/" 512, volume "/a:b" 1024] }
    let c : Context Snapshot := { config, provider := { facts }, parsingLayout := true }
    let parts : List FormatPart := [.placeholder '2', .char ':', .char ' ', .placeholder '6',
      .char ' ', .char 'o', .char 'f', .char ' ', .placeholder '4', .char ' ', .char '(',
      .placeholder '7', .char ')']
    config.autoDisk.format.toList = writeFormat parts ∧
      listedVolumes config.autoDisk facts.disks = facts.disks ∧
      (∀ disk ∈ listedVolumes config.autoDisk facts.disks, Literal disk parts) ∧
      (∀ disk ∈ listedVolumes config.autoDisk facts.disks, ∀ before rest,
        config.resetPlace? (fillPlaceholders disk config.autoDisk.format.toList) =
          some (before, rest) → IsGap before rest) ∧
      Reached config facts c ∧
      ∃ value d, (resolve (evalNested maxDepth) volumesTag).Yields c value d ∧
        d.spliced.map (·.text) = ["sda: 512.00 B of 2.00 KiB (25.00%)".toList,
          "sda: 1.00 KiB of 2.00 KiB (50.00%)".toList] ∧
        ∃ lines inside, ReadsVolumes config c.volumesAsked
            (listedVolumes config.autoDisk facts.disks) lines inside d ∧
          (inside = 0 → d.spliced = c.spliced ++ lines) ∧
          List.Forall₂ (Describes config facts parts)
            (listedVolumes config.autoDisk facts.disks) lines := by
  intro config volume facts c parts
  have hformat : config.autoDisk.format.toList = writeFormat parts := by decide
  have hparts : ∀ disk ∈ listedVolumes config.autoDisk facts.disks, Literal disk parts := by
    have hchar {disk : DiskInfo} {c : Char} {parts : List FormatPart}
        (hc : c ≠ '\\' ∧ c ≠ '%' ∧ c ≠ '$') (h : Literal disk parts) :
        Literal disk (.char c :: parts) :=
      .char hc.1 (fun _ _ heq => absurd heq hc.2.1) (fun heq => absurd heq hc.2.2) h
    intro disk _
    exact .placeholder rfl <| hchar (by decide) <| hchar (by decide) <| .placeholder rfl <|
      hchar (by decide) <| hchar (by decide) <| hchar (by decide) <| hchar (by decide) <|
      .placeholder rfl <| hchar (by decide) <| hchar (by decide) <| .placeholder rfl <|
      hchar (by decide) .nil
  have hgap : ∀ disk ∈ listedVolumes config.autoDisk facts.disks, ∀ before rest,
      config.resetPlace? (fillPlaceholders disk config.autoDisk.format.toList) =
        some (before, rest) → IsGap before rest := by
    have hplaces : ∀ disk ∈ facts.disks, (config.resetPlace? (fillPlaceholders disk
        config.autoDisk.format.toList)).map (·.1) = some "sda".toList := by decide +kernel
    intro disk hdisk before rest hplace
    have hbefore := hplaces disk hdisk
    rw [hplace] at hbefore
    obtain rfl : before = "sda".toList := Option.some.inj hbefore
    exact isGap_of_plain (by decide) (by decide)
  have hc : Reached config facts c := .start c rfl rfl rfl rfl
  have hspliced : ((resolve (evalNested maxDepth) volumesTag).outcome c).2.spliced.map (·.text) =
      ["sda: 512.00 B of 2.00 KiB (25.00%)".toList,
        "sda: 1.00 KiB of 2.00 KiB (50.00%)".toList] := by decide +kernel
  refine ⟨hformat, rfl, hparts, hgap, hc, Eval.exists_yields (p := fun _ => true)
    (by decide +kernel) fun value d h _ => ?_⟩
  rw [h] at hspliced
  exact ⟨hspliced, describes_of_volumesTag hformat hparts hgap hc rfl h⟩

/-- Two volumes with one mount point. The line of the second one shows the amount of the first
one. -/
theorem amounts_of_first_mounted :
    let config : Config :=
      { layout := ["$<auto.disk>"], autoDisk := { format := "%2 %4" }, disableColors := true }
    let volume (device : String) (total : UInt64) : DiskInfo :=
      { mountdir := "/mnt", device, total, types := { regular := true } }
    let provider : Snapshot := { facts := { disks := [volume "a" 100, volume "b" 200] } }
    listedVolumes config.autoDisk provider.facts.disks = provider.facts.disks ∧
      ∃ output after, render config provider "" = (.ok output, after) ∧
        output.plainLines = ["     a 100.00 B", "     b 100.00 B"] := by
  intro config volume provider
  exact ⟨rfl, exists_render (p := (·.plainLines = ["     a 100.00 B", "     b 100.00 B"]))
    (by decide +kernel) fun output after _ hp => of_decide_eq_true hp⟩

end Placard.Info
