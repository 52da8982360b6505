import Placard.Proofs.Concatenation
import Placard.Proofs.Listing

/-! # The strings of a volume in its line

The placeholders for the mount point, the device and the file system of a volume are filled in as
quoted text (`Info.volumeString?`). In a place that takes up nothing of what follows, such a text
stands for itself: its characters are read one by one, and following them only adds them to the text
(`Info.volumeString_verbatim`). Behind a backslash the quotes are read as something else
(`Info.volumeString_after_backslash`). -/

namespace Placard.Info

open Template

variable {disk : DiskInfo} {digit : Char}

/-- The string of the volume that a percent sign with this digit stands for. -/
def volumeString? (disk : DiskInfo) : Char → Option String
  | '1' => some disk.mountdir
  | '2' => some disk.device
  | '3' => some disk.fsType
  | _ => none

theorem placeholder?_of_volumeString {string : String}
    (h : volumeString? disk digit = some string) :
    placeholder? disk digit = some (quote string.toList) := by
  unfold volumeString? at h
  split at h <;> cases h <;> rfl

/-- A character that is no placeholder stays. -/
theorem fillPlaceholders_cons
    (h : ∀ d ds, c = '%' → cs = d :: ds → placeholder? disk d = none) :
    fillPlaceholders disk (c :: cs) = c :: fillPlaceholders disk cs := by
  rw [fillPlaceholders.eq_def]
  split
  · next heq => cases heq
  · next d ds heq =>
    cases heq
    rw [h d ds rfl rfl]
  · next heq =>
    cases heq
    rfl

/-- A percent sign is never the digit of the one before it. -/
theorem fillPlaceholders_append (hdigit : placeholder? disk digit = some text)
    (before after : List Char) : fillPlaceholders disk (before ++ '%' :: digit :: after) =
      fillPlaceholders disk before ++ (text ++ fillPlaceholders disk after) := by
  fun_induction fillPlaceholders disk before with
  | case1 =>
    rw [List.nil_append, fillPlaceholders, hdigit]
    rfl
  | case2 c rest filled hfilled ih =>
    rw [List.cons_append, List.cons_append, fillPlaceholders, hfilled]
    dsimp only
    rw [ih, List.append_assoc]
  | case3 c rest hnone ih =>
    rw [List.cons_append, List.cons_append, fillPlaceholders, hnone]
    exact congrArg ('%' :: ·) ih
  | case4 c rest hother ih =>
    rw [List.cons_append, fillPlaceholders_cons, ih]
    · rfl
    · rintro d ds rfl hds
      cases rest with
      | nil =>
        obtain ⟨rfl, -⟩ := List.cons.inj hds
        rfl
      | cons d rest => exact (hother d rest rfl rfl).elim

/-- Without a separator no line has a reset. -/
theorem volumeLine_of_no_separator {config : Config} (h : config.sepReset = "") (disk : DiskInfo) :
    volumeLine config disk = fillPlaceholders disk config.autoDisk.format.toList := by
  rw [volumeLine, Config.withReset, Config.resetPlace?, h]
  rfl

/-- In a place that takes up nothing of what follows, a string of the volume stands for itself in its
line. It is read as its own characters. Where what stands before it fails, the line fails. Where that
succeeds the line goes on behind the string, in the same state and with the string added to the text,
and so the string is in the text of the line. -/
theorem volumeString_verbatim {σ : Type} [Provider σ] {config : Config}
    {before after : List Char} {string : String} (hsep : config.sepReset = "")
    (hformat : config.autoDisk.format.toList = before ++ '%' :: digit :: after)
    (hstring : volumeString? disk digit = some string)
    (hends : (Body.read (fillPlaceholders disk before)).EndsBefore
      (quote string.toList ++ fillPlaceholders disk after)) :
    let front := Body.read (fillPlaceholders disk before)
    let back := Body.read (fillPlaceholders disk after)
    let line := volumeLine config disk
    Body.read line = front.append (.quoted string.toList back) ∧
    (∀ (nested : Nested σ) (name : String) (c : Context σ),
      match (evalBody nested name true {} front).outcome c with
      | (.error e, d) => (evalBody nested name true {} (.read line)).outcome c = (.error e, d)
      | (.ok draft, d) => ∃ added : Draft, added.text.text = draft.text.text ++ string.toList ∧
          (evalBody nested name true {} (.read line)).outcome c =
            (evalBody nested name true added back).outcome d) ∧
    ∀ depth (c : Context σ) rich e, (evalNested (depth + 1) line).Yields c rich e →
      ∃ draft d said, (evalBody (evalNested depth) (String.ofList line) true {} front).Yields
          { c with styles.active := [] } draft d ∧ MaySay back said ∧
        rich.text = draft.text.text ++ string.toList ++ said := by
  intro front back line
  have hread : Body.read line = front.append (.quoted string.toList back) := by
    have hline : line = fillPlaceholders disk before ++
        (quote string.toList ++ fillPlaceholders disk after) := by
      rw [← fillPlaceholders_append (placeholder?_of_volumeString hstring), ← hformat]
      exact volumeLine_of_no_separator hsep disk
    rw [hline, read_append hends, read_quote_append]
  have hoff (nested : Nested σ) (name : String) :
      evalBody nested name true {} (.read line) = evalBody nested name true {} front >>=
        fun draft => evalBody nested name true draft (.quoted string.toList back) := by
    rw [hread]
    exact evalBody_append nested name true _ front {} (isClosed_of_endsBefore front hends)
  refine ⟨hread, fun nested name c => ?_, fun depth c rich e h => ?_⟩
  · rw [hoff, Eval.outcome_bind]
    rcases (evalBody nested name true {} front).outcome c with ⟨_ | draft, d⟩
    · rfl
    · exact outcome_quoted nested name true string.toList back draft d
  · obtain ⟨result, d, hbody, rfl, -⟩ := exists_of_evalNested h
    rw [hoff, Eval.yields_bind] at hbody
    obtain ⟨draft, d', hfront, hrest⟩ := hbody
    obtain ⟨added, htext, heq⟩ :=
      outcome_quoted (evalNested depth) (String.ofList line) true string.toList back draft d'
    rw [Eval.Yields, heq] at hrest
    obtain ⟨said, hsaid, hresult⟩ := maySay_of_evalBody back hrest
    exact ⟨draft, d', said, hfront, hsaid, by rw [hresult, htext]⟩

/-- Strings that would be tags, and a backslash at the end of one. -/
theorem volumeString_verbatim_tag :
    let config : Config := { autoDisk.format := "[%2] %1", sepReset := "" }
    let disk : DiskInfo := { mountdir := "$<nope>\\", device := "$\x7bred\x7d" }
    let front := Body.read (fillPlaceholders disk "[%2] ".toList)
    let line := volumeLine config disk
    let c : Context Snapshot := { config, provider := {} }
    config.sepReset = "" ∧
      config.autoDisk.format.toList = "[%2] ".toList ++ '%' :: '1' :: [] ∧
      volumeString? disk '1' = some disk.mountdir ∧
      front.EndsBefore (quote disk.mountdir.toList ++ fillPlaceholders disk []) ∧
      ∃ rich e, (evalNested 1 line).Yields c rich e ∧
        rich.text = "[$\x7bred\x7d] $<nope>\\".toList ∧ e.diagnostics = [] ∧
        ∃ draft d said, (evalBody (evalNested 0) (String.ofList line) true {} front).Yields
            { c with styles.active := [] } draft d ∧ MaySay (.read []) said ∧
          rich.text = draft.text.text ++ disk.mountdir.toList ++ said := by
  intro config disk front line c
  have hends : front.EndsBefore (quote disk.mountdir.toList ++ fillPlaceholders disk []) := by
    decide +kernel
  have hformat : config.autoDisk.format.toList = "[%2] ".toList ++ '%' :: '1' :: [] := by decide
  have hdiagnostics : ((evalNested 1 line).outcome c).2.diagnostics = [] := by decide +kernel
  refine ⟨rfl, hformat, rfl, hends, Eval.exists_yields
    (p := (·.text = "[$\x7bred\x7d] $<nope>\\".toList)) (by decide +kernel) fun rich e h hp => ?_⟩
  rw [h] at hdiagnostics
  exact ⟨of_decide_eq_true hp, hdiagnostics,
    (volumeString_verbatim rfl hformat rfl hends).2.2 0 c rich e h⟩

/-- A backslash before the placeholder goes with the first backslash of the quoted string, whose dollar
sign then opens a tag. -/
theorem volumeString_after_backslash :
    let config : Config :=
      { layout := ["$<auto.disk>"], autoDisk.format := "\\%1", sepReset := "" }
    let disk : DiskInfo :=
      { mountdir := "$<battery>", device := "d", types := { regular := true } }
    let provider : Snapshot := { facts := { disks := [disk] } }
    volumeString? disk '1' = some "$<battery>" ∧
      Body.read (fillPlaceholders disk "\\".toList) = .backslash (.done .closed) ∧
      ∃ output after, render config provider "" = (.ok output, after) ∧
        output.plainLines = ["     \\battery>"] ∧
        output.diagnostics = [.unclosedTag '>' "\\\\$<battery\\>"] := by
  intro config disk provider
  refine ⟨rfl, read_backslash, exists_render
    (p := fun output => output.plainLines = ["     \\battery>"] &&
      output.diagnostics = [.unclosedTag '>' "\\\\$<battery\\>"]) (by decide +kernel)
    fun output after _ hp => ?_⟩
  simpa using hp

end Placard.Info
