import Mathlib.Data.List.Basic
import Placard.Proofs.Render
import Placard.Provider.Snapshot

/-! # Where the mark of a missing fact shows

A fact that is not known is marked in the text (`Info.missingMark`), and a line that holds the mark
is not to be shown. The layout keeps to that (`isMissing_eq_false_of_parseLayout`). The art does
not, nor does anything look at the lines that are made of both. So a render shows the mark if a line
of the art holds it, or if it begins in the cell of a line of art and ends in the info line beside
it (`Straddles`), and in no other case (`exists_isMissing_iff`). -/

namespace Placard.Render

variable {σ : Type}

theorem isMissing_iff {line : RichText} :
    isMissing line = true ↔ Info.missingMark.toList <:+: line.text := Text.contains_iff

/-! ## The mark and the padding -/

/-- A needle is not looked for where its first character cannot be. -/
theorem cons_infix_append_iff {c : α} {needle xs ys : List α} (h : c ∉ xs) :
    c :: needle <:+: xs ++ ys ↔ c :: needle <:+: ys := by
  constructor
  · intro hi
    rw [List.infix_append_iff_ne_nil] at hi
    rcases hi with hi | hi | ⟨s, t, hs, -, heq, hsuffix, -⟩
    · exact absurd (hi.subset List.mem_cons_self) h
    · exact hi
    · obtain ⟨d, s, rfl⟩ := List.exists_cons_of_ne_nil hs
      obtain ⟨rfl, -⟩ := List.cons.inj heq
      exact absurd (hsuffix.subset List.mem_cons_self) h
  · exact List.infix_append_of_infix_right

theorem concat_infix_append_iff {c : α} {needle xs ys : List α} (h : c ∉ ys) :
    needle ++ [c] <:+: xs ++ ys ↔ needle ++ [c] <:+: xs := by
  rw [← List.reverse_infix, ← @List.reverse_infix _ _ xs, List.reverse_append, List.reverse_append]
  exact cons_infix_append_iff (by rwa [List.mem_reverse])

theorem not_mem_spaces {c : Char} (hc : c ≠ ' ') (count : Nat) : c ∉ Layout.spaces count :=
  fun h => hc (List.eq_of_mem_replicate h)

theorem isMissing_spaces_append (count : Nat) (line : RichText) :
    isMissing ((RichText.plain (Layout.spaces count)).append line) = isMissing line := by
  rw [Bool.eq_iff_iff, isMissing_iff, isMissing_iff]
  exact cons_infix_append_iff (not_mem_spaces (by decide) count)

theorem isMissing_pushSpaces (count : Nat) (line : RichText) :
    isMissing (line.pushText (Layout.spaces count)) = isMissing line := by
  rw [Bool.eq_iff_iff, isMissing_iff, isMissing_iff]
  have hlast : Info.missingMark.toList = Info.missingMark.toList.dropLast ++ [')'] := rfl
  rw [hlast]
  exact concat_infix_append_iff (not_mem_spaces (by decide) count)

theorem isMissing_artCell (config : Config) (column : Nat) (line : ArtLine) :
    isMissing (Layout.artCell config column line) = isMissing line.rich := by
  rw [Layout.artCell, isMissing_pushSpaces, isMissing_spaces_append]

/-! ## Art and info in one line -/

/-- The mark begins in the one text and ends in the other. -/
def Straddles (cell info : RichText) : Prop :=
  ∃ s t, s ≠ [] ∧ t ≠ [] ∧ Info.missingMark.toList = s ++ t ∧ s <:+ cell.text ∧ t <+: info.text

theorem isMissing_append_iff {cell info : RichText} :
    isMissing (cell.append info) = true ↔
      isMissing cell = true ∨ isMissing info = true ∨ Straddles cell info := by
  rw [isMissing_iff, isMissing_iff, isMissing_iff]
  exact List.infix_append_iff_ne_nil

/-- No part of the mark is in the cell beside an info line without art. -/
theorem not_straddles_blank (config : Config) (column : Nat) (info : RichText) :
    ¬ Straddles (Layout.artCell config column {}) info := by
  rintro ⟨s, t, hs, -, heq, hsuffix, -⟩
  obtain ⟨c, s, rfl⟩ := List.exists_cons_of_ne_nil hs
  obtain ⟨rfl, -⟩ := List.cons.inj heq
  have hmem := hsuffix.subset List.mem_cons_self
  simp only [Layout.artCell, RichText.text_pushText, RichText.text_append, RichText.text_plain,
    List.append_nil, List.mem_append] at hmem
  exact hmem.elim (not_mem_spaces (by decide) _) (not_mem_spaces (by decide) _)

theorem exists_isMissing_sideBySide (config : Config) (column : Nat) (art : List ArtLine)
    (info : List RichText) :
    (∃ line ∈ Layout.sideBySide config column art info, isMissing line = true) ↔
      (∃ line ∈ art, isMissing line.rich = true) ∨ (∃ line ∈ info, isMissing line = true) ∨
        ∃ pair ∈ (art.map (Layout.artCell config column)).zip info, Straddles pair.1 pair.2 := by
  fun_induction Layout.sideBySide config column art info with
  | case1 line art text info ih =>
    simp only [List.mem_cons, exists_eq_or_imp, List.map_cons, List.zip_cons_cons,
      isMissing_append_iff, isMissing_artCell, ih, or_assoc, or_left_comm]
  | case2 text info ih =>
    have hblank : isMissing (Layout.artCell config column {}) = false := by
      rw [isMissing_artCell]
      decide
    simp only [List.mem_cons, exists_eq_or_imp, List.map_nil, List.zip_nil_left,
      isMissing_append_iff, hblank, ih, not_straddles_blank, List.not_mem_nil, false_and,
      exists_false, or_false, false_or, Bool.false_eq_true]
  | case3 art =>
    simp only [List.mem_map, exists_exists_and_eq_and, isMissing_spaces_append, List.zip_nil_right,
      List.not_mem_nil, false_and, exists_false, or_false]

/-! ## Renders -/

theorem isMissing_eq_false_of_parseLayout [Provider σ] {c d : Context σ} {info : List RichText}
    (h : parseLayout.Yields c info d) : ∀ line ∈ info, isMissing line = false := by
  simp only [parseLayout, Eval.yields_bind, Eval.yields_pure] at h
  obtain ⟨_, _, _, _, _, _, _, _, _, rfl, -⟩ := h
  intro line hline
  simpa using (List.mem_filter.mp hline).2

/-- The lines of art and of info that are placed beside each other, the art in its cell. -/
def pairs (config : Config) (drawn : List ArtLine) (info : List RichText) :
    List (RichText × RichText) :=
  let art := List.replicate config.logoPaddingTop ({} : ArtLine) ++ drawn
  (art.map (Layout.artCell config (Layout.infoColumn config art))).zip
    (List.replicate config.layoutPaddingTop (RichText.plain []) ++ info)

theorem exists_mem_replicate_append (p : α → Prop) {a : α} (h : ¬ p a) (count : Nat) (as : List α) :
    (∃ b ∈ List.replicate count a ++ as, p b) ↔ ∃ b ∈ as, p b := by
  constructor
  · rintro ⟨b, hb, hp⟩
    rcases List.mem_append.mp hb with hb | hb
    · exact absurd (List.eq_of_mem_replicate hb ▸ hp) h
    · exact ⟨b, hb, hp⟩
  · rintro ⟨b, hb, hp⟩
    exact ⟨b, List.mem_append_right _ hb, hp⟩

theorem exists_isMissing_place (config : Config) (drawn : List ArtLine) {info : List RichText}
    (hinfo : ∀ line ∈ info, isMissing line = false) :
    (∃ line ∈ place config drawn info, isMissing line = true) ↔
      (∃ line ∈ drawn, isMissing line.rich = true) ∨
        config.printLogoOnly = false ∧ config.logoPosition = .left ∧
          ∃ pair ∈ pairs config drawn info, Straddles pair.1 pair.2 := by
  have hblank : ¬ isMissing (.plain []) = true := by decide
  have hinfo' : ¬ ∃ line ∈ List.replicate config.layoutPaddingTop (RichText.plain []) ++ info,
      isMissing line = true := by
    rw [exists_mem_replicate_append (isMissing · = true) hblank]
    rintro ⟨line, hline, hm⟩
    exact absurd hm (by rw [hinfo line hline]; exact Bool.false_ne_true)
  have hart : (∃ line ∈ List.replicate config.logoPaddingTop ({} : ArtLine) ++ drawn,
      isMissing line.rich = true) ↔ ∃ line ∈ drawn, isMissing line.rich = true :=
    exists_mem_replicate_append (fun line : ArtLine => isMissing line.rich = true) hblank _ _
  have hrich : (∃ line ∈ (List.replicate config.logoPaddingTop ({} : ArtLine) ++ drawn).map (·.rich),
      isMissing line = true) ↔ ∃ line ∈ drawn, isMissing line.rich = true := by
    rw [← hart]
    simp only [List.mem_map, exists_exists_and_eq_and]
  have happend (lines others : List RichText) : (∃ line ∈ lines ++ others, isMissing line = true) ↔
      (∃ line ∈ lines, isMissing line = true) ∨ ∃ line ∈ others, isMissing line = true := by
    simp only [List.mem_append, or_and_right, exists_or]
  unfold place
  split
  · next hlogo =>
    rw [exists_mem_replicate_append (isMissing · = true) hblank, hlogo]
    simp only [List.mem_map, exists_exists_and_eq_and, Bool.true_eq_false, false_and, or_false]
  · next hlogo =>
    have hlogo : config.printLogoOnly = false := by simpa using hlogo
    unfold Layout.compose pairs
    dsimp only
    cases config.logoPosition with
    | top =>
      rw [happend, hrich]
      simp only [hinfo', reduceCtorEq, false_and, and_false, or_false]
    | bottom =>
      rw [happend, hrich]
      simp only [hinfo', reduceCtorEq, false_and, and_false, or_false, false_or]
    | left =>
      simp only [exists_isMissing_sideBySide, hart, hinfo', false_or, hlogo, true_and]

/-- The mark of a missing fact is in the output if and only if a line of the art holds it, or it
begins in a line of art and ends in the info line beside it. -/
theorem exists_isMissing_iff [Provider σ] {config : Config} {provider after : σ} {art : String}
    {output : Output} (h : render config provider art = (.ok output, after)) :
    ∃ drawn info, Reads config provider art drawn info ∧
      output.lines = place config drawn info ∧ (∀ line ∈ info, isMissing line = false) ∧
      ((∃ line ∈ output.lines, isMissing line = true) ↔
        (∃ line ∈ drawn, isMissing line.rich = true) ∨
          config.printLogoOnly = false ∧ config.logoPosition = .left ∧
            ∃ pair ∈ pairs config drawn info, Straddles pair.1 pair.2) := by
  obtain ⟨drawn, info, hreads, hlines⟩ := lines_of_render h
  have hinfo : ∀ line ∈ info, isMissing line = false := by
    obtain ⟨c, -, hinfo⟩ := hreads
    split at hinfo
    · rw [hinfo]
      exact nofun
    · obtain ⟨d, hinfo⟩ := hinfo
      exact isMissing_eq_false_of_parseLayout hinfo
  exact ⟨drawn, info, hreads, hlines, hinfo, hlines ▸ exists_isMissing_place config drawn hinfo⟩

/-- There is no battery, and the art beside the layout says so. -/
theorem exists_isMissing_iff_battery :
    let config : Config := { layout := ["Host", "Battery: $<battery>"] }
    ∃ output after, render config ({} : Snapshot) "##\n$<battery>" = (.ok output, after) ∧
      output.lines.length = 2 ∧
      ∃ drawn info, Reads config ({} : Snapshot) "##\n$<battery>" drawn info ∧
        output.lines = place config drawn info ∧ (∀ line ∈ info, isMissing line = false) ∧
        ((∃ line ∈ output.lines, isMissing line = true) ↔
          (∃ line ∈ drawn, isMissing line.rich = true) ∨
            config.printLogoOnly = false ∧ config.logoPosition = .left ∧
              ∃ pair ∈ pairs config drawn info, Straddles pair.1 pair.2) := by
  intro config
  refine exists_render (p := fun output => output.lines.length = 2) (by decide +kernel)
    fun output after h hp => ?_
  exact ⟨of_decide_eq_true hp, exists_isMissing_iff h⟩

/-- The art holds no mark, but a tag in it does; or the art holds the first part of the mark and the
info line the last one. Both are shown. -/
theorem exists_isMissing_of_art :
    (∃ output after, render { layout := [] } ({} : Snapshot) "$<battery>" = (.ok output, after) ∧
      Text.contains Info.missingMark.toList "$<battery>".toList = false ∧
      ∃ line ∈ output.lines, isMissing line = true) ∧
    ∃ output after, render { layout := [")"], offset := 0 } ({} : Snapshot)
        "(cut this line NOW!! RAHHH" = (.ok output, after) ∧
      Text.contains Info.missingMark.toList "(cut this line NOW!! RAHHH".toList = false ∧
      ∃ line ∈ output.lines, isMissing line = true := by
  constructor
  · refine exists_render (p := fun output => output.lines.any isMissing) (by decide +kernel)
      fun output after _ hp => ⟨by decide, ?_⟩
    simpa using hp
  · refine exists_render (p := fun output => output.lines.any isMissing) (by decide +kernel)
      fun output after _ hp => ⟨by decide, ?_⟩
    simpa using hp

end Placard.Render
