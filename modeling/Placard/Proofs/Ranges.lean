import Placard.Proofs.Draft
import Placard.Proofs.Spans

/-! # Ranges of open spans

A text that is under construction has a range for each span that is open, and each time the text
grows they are laid again, up to its end. `Reaches` is what holds between two such times: the ranges
of the open spans are there, they end where the text ends, and they are in the order in which the
spans were opened. So laying them again moves their ends only (`Reaches.layAll`), the spans over a
character that is there do not change (`Reaches.spansAt_layAll`), and over a new character there are
the open spans in order, each place once (`Reaches.spansAt_layAll_new`). -/

namespace Placard

/-- A span and the offset at which it begins. -/
abbrev Place := Span × Nat

namespace Place

/-- The spans at the given places, the last one on top; a place that comes again does not count. -/
def spans (places : List Place) : List Span := places.eraseDups.map (·.1)

theorem mem_spans {places : List Place} {span : Span} :
    span ∈ spans places ↔ span ∈ places.map (·.1) := by
  simp only [spans, List.mem_map, List.mem_eraseDups]

/-- The last colors are the same if each place counts once. -/
def Settled (places : List Place) : Prop :=
  ∀ plane, lastColor? plane (spans places) = lastColor? plane (places.map (·.1))

/-- If no place comes twice. -/
theorem settled_of_nodup {places : List Place} (h : places.Nodup) : Settled places := by
  have hself : places.eraseDups = places := by
    induction places with
    | nil => rfl
    | cons place places ih =>
      obtain ⟨hplace, hplaces⟩ := List.nodup_cons.mp h
      rw [List.eraseDups_cons, List.filter_eq_self.mpr, ih hplaces]
      intro other hother
      simp only [Bool.not_eq_true', beq_eq_false_iff_ne]
      rintro rfl
      exact hplace hother
  intro plane
  unfold spans
  rw [hself]

/-- Counting each place once is without effect in this case only. -/
theorem applyAll_spans_iff {places : List Place} :
    Style.plain.applyAll (spans places) = Style.plain.applyAll (places.map (·.1)) ↔
      Settled places := by
  constructor
  · intro h plane
    have hcolor := congrArg (Style.color? plane) h
    rw [Style.color?_applyAll, Style.color?_applyAll] at hcolor
    have hplain : Style.plain.color? plane = none := by cases plane <;> rfl
    rwa [hplain, Option.or_none, Option.or_none] at hcolor
  · exact fun h => Style.applyAll_eq h fun _ => mem_spans

end Place

namespace StyledRange

def place (range : StyledRange) : Place := (range.span, range.start)

/-- The range from a place up to `stop`. -/
def ofPlace (stop : Nat) (place : Place) : StyledRange := ⟨place.1, place.2, stop⟩

theorem covers_iff {range : StyledRange} : range.covers index = true ↔
    range.start ≤ index ∧ index < range.stop := by
  simp only [covers, Bool.and_eq_true, decide_eq_true_eq]

end StyledRange

namespace Ranges

/-- Lays a span from its place up to `stop`. The first range that is there for the place is moved,
and without one there is a new range on top. -/
def lay (stop : Nat) : List StyledRange → Place → List StyledRange
  | [], place => [.ofPlace stop place]
  | range :: ranges, place =>
    if range.place = place then { range with stop } :: ranges else range :: lay stop ranges place

def layAll (stop : Nat) (ranges : List StyledRange) (places : List Place) : List StyledRange :=
  places.foldl (lay stop) ranges

/-- The spans over a character, from below. -/
def spansAt (ranges : List StyledRange) (index : Nat) : List Span :=
  (ranges.filter (·.covers index)).map (·.span)

section

variable {ranges : List StyledRange} {place : Place} {stop : Nat}

theorem mem_lay {range : StyledRange} (h : range ∈ lay stop ranges place) :
    range ∈ ranges ∨ range.place = place ∧ range.stop = stop := by
  induction ranges with
  | nil =>
    obtain rfl := List.mem_singleton.mp h
    exact .inr ⟨rfl, rfl⟩
  | cons first ranges ih =>
    unfold lay at h
    split at h
    · rename_i hplace
      obtain rfl | h := List.mem_cons.mp h
      · exact .inr ⟨hplace, rfl⟩
      · exact .inl (List.mem_cons_of_mem _ h)
    · obtain rfl | h := List.mem_cons.mp h
      · exact .inl List.mem_cons_self
      · exact (ih h).imp_left (List.mem_cons_of_mem _)

/-- A range is one of before or one that was laid. -/
theorem mem_layAll {places : List Place} {range : StyledRange}
    (h : range ∈ layAll stop ranges places) :
    range ∈ ranges ∨ range.place ∈ places ∧ range.stop = stop := by
  induction places generalizing ranges with
  | nil => exact .inl h
  | cons place places ih =>
    obtain h | ⟨hplace, hstop⟩ := ih h
    · obtain h | ⟨hplace, hstop⟩ := mem_lay h
      · exact .inl h
      · exact .inr ⟨List.mem_cons.mpr (.inl hplace), hstop⟩
    · exact .inr ⟨List.mem_cons_of_mem _ hplace, hstop⟩

/-- A span goes to the first range that is there for its place. -/
theorem lay_append (stop : Nat) (ranges others : List StyledRange) (place : Place) :
    lay stop (ranges ++ others) place =
      if place ∈ ranges.map (·.place) then lay stop ranges place ++ others
      else ranges ++ lay stop others place := by
  induction ranges with
  | nil => rfl
  | cons range ranges ih =>
    rw [List.cons_append, lay, lay, ih, List.map_cons]
    by_cases hplace : range.place = place
    · rw [if_pos hplace, if_pos hplace, if_pos (List.mem_cons.mpr (.inl hplace.symm))]
      rfl
    · simp only [if_neg hplace, List.mem_cons, Ne.symm hplace, false_or]
      split
      · rfl
      · rfl

/-- The first range takes all that is laid from its place. -/
theorem layAll_cons (stop : Nat) (range : StyledRange) (ranges : List StyledRange)
    (places : List Place) :
    layAll stop (range :: ranges) places =
      (if range.place ∈ places then { range with stop } else range) ::
        layAll stop ranges (places.filter fun place => !place == range.place) := by
  unfold layAll
  induction places generalizing range ranges with
  | nil => simp
  | cons place places ih =>
    rw [List.foldl_cons, lay]
    by_cases h : range.place = place
    · rw [if_pos h, ih, List.filter_cons_of_neg (by simp [h])]
      have hplace : ({ range with stop } : StyledRange).place = range.place := rfl
      rw [hplace, if_pos (List.mem_cons.mpr (.inl h))]
      simp
    · rw [if_neg h, ih, List.filter_cons_of_pos (by simpa using Ne.symm h), List.foldl_cons]
      simp [h]

/-- On a text without ranges each place gets one. -/
theorem layAll_nil (stop : Nat) (places : List Place) :
    layAll stop [] places = places.eraseDups.map (.ofPlace stop) := by
  match places with
  | [] => rfl
  | place :: places =>
    have hfirst : ({ StyledRange.ofPlace stop place with stop } : StyledRange) =
        .ofPlace stop place := rfl
    change layAll stop [.ofPlace stop place] places = _
    rw [layAll_cons, List.eraseDups_cons, hfirst, ite_self]
    exact congrArg _ (layAll_nil stop _)
termination_by places.length
decreasing_by exact Nat.lt_succ_of_le (List.length_filter_le ..)

/-- Nothing is left out where the place is new. -/
theorem filter_eq_of_not_mem {places : List Place} (h : place ∉ places) :
    (places.filter fun other => !other == place) = places := by
  rw [List.filter_eq_self]
  intro other hother
  simp only [Bool.not_eq_true', beq_eq_false_iff_ne]
  rintro rfl
  exact h hother

theorem layAll_cons_of_not_mem {places : List Place} (stop : Nat) (h : range.place ∉ places) :
    layAll stop (range :: ranges) places = range :: layAll stop ranges places := by
  rw [layAll_cons, if_neg h, filter_eq_of_not_mem h]

theorem layAll_cons_place (stop : Nat) (range : StyledRange) (ranges : List StyledRange)
    (places : List Place) :
    layAll stop (range :: ranges) (range.place :: places) =
      { range with stop } ::
        layAll stop ranges (places.filter fun place => !place == range.place) := by
  rw [layAll_cons, if_pos List.mem_cons_self, List.filter_cons_of_neg (by simp)]

/-! ## The spans over a character -/

theorem spansAt_cons (range : StyledRange) (ranges : List StyledRange) (index : Nat) :
    spansAt (range :: ranges) index =
      if range.covers index then range.span :: spansAt ranges index else spansAt ranges index := by
  unfold spansAt
  rw [List.filter_cons]
  split <;> rfl

theorem spansAt_eq_nil (h : ∀ range ∈ ranges, range.covers index = false) :
    spansAt ranges index = [] := by
  unfold spansAt
  have hnone : ranges.filter (·.covers index) = [] :=
    List.filter_eq_nil_iff.mpr fun range hrange => Bool.eq_false_iff.mp (h range hrange)
  rw [hnone]
  rfl

theorem spansAt_append (ranges others : List StyledRange) (index : Nat) :
    spansAt (ranges ++ others) index = spansAt ranges index ++ spansAt others index := by
  unfold spansAt
  rw [List.filter_append, List.map_append]

/-- Moving ranges changes where their spans are, not which ones they have. -/
theorem spansAt_map {f : StyledRange → StyledRange} (hspan : ∀ range, (f range).span = range.span)
    (ranges : List StyledRange) (index : Nat) : spansAt (ranges.map f) index =
      (ranges.filter fun range => (f range).covers index).map (·.span) := by
  unfold spansAt
  rw [List.filter_map, List.map_map]
  exact List.map_congr_left fun range _ => hspan range

theorem spansAt_map_shift (ranges : List StyledRange) (offset index : Nat) :
    spansAt (ranges.map (·.shift offset)) index =
      if offset ≤ index then spansAt ranges (index - offset) else [] := by
  split
  · next hle =>
    rw [spansAt_map fun range => show (range.shift offset).span = range.span from rfl]
    refine congrArg (List.map _) (List.filter_congr fun range _ => ?_)
    rw [Bool.eq_iff_iff, StyledRange.covers_iff, StyledRange.covers_iff]
    simp only [StyledRange.shift]
    omega
  · next hlt =>
    refine spansAt_eq_nil fun range hrange => ?_
    obtain ⟨range, -, rfl⟩ := List.mem_map.mp hrange
    rw [Bool.eq_false_iff, Ne, StyledRange.covers_iff]
    exact fun hcovers => hlt (Nat.le_trans (Nat.le_add_left ..) hcovers.1)

end

/-! ## The ranges of open spans -/

/-- But for the `rest` of them, there is a range for each of the places, in the same order and up to
`stop`. For a place that comes again there is no other one. -/
inductive Reaches (stop : Nat) (rest : List Place) : List StyledRange → List Place → Prop
  | nil : Reaches stop rest [] rest
  | other {range ranges places} : range.place ∉ places → Reaches stop rest ranges places →
      Reaches stop rest (range :: ranges) places
  | next {range ranges places} : range.stop = stop →
      Reaches stop rest ranges (places.filter fun place => !place == range.place) →
      Reaches stop rest (range :: ranges) (range.place :: places)

namespace Reaches

variable {ranges : List StyledRange} {places rest : List Place} {stop : Nat}

theorem of_nil (stop : Nat) (ranges : List StyledRange) : Reaches stop [] ranges [] := by
  induction ranges with
  | nil => exact .nil
  | cons range ranges ih => exact .other List.not_mem_nil ih

theorem append (h : Reaches stop [] ranges places) (others : List StyledRange) :
    Reaches stop [] (ranges ++ others) places := by
  induction h with
  | nil => exact of_nil stop others
  | other hplace _ ih => exact .other hplace ih
  | next hstop _ ih => exact .next hstop ih

/-- Places without a range may follow. -/
theorem append_rest (h : Reaches stop [] ranges places)
    (hrest : ∀ range ∈ ranges, range.place ∉ rest) : Reaches stop rest ranges (places ++ rest) := by
  induction h with
  | nil => exact .nil
  | other hplace _ ih =>
    obtain ⟨hrange, hrest⟩ := List.forall_mem_cons.mp hrest
    exact .other (List.not_mem_append hplace hrange) (ih hrest)
  | next hstop _ ih =>
    obtain ⟨hrange, hrest⟩ := List.forall_mem_cons.mp hrest
    refine .next hstop ?_
    change Reaches stop rest _ ((_ ++ rest).filter _)
    rw [List.filter_append, filter_eq_of_not_mem hrange]
    exact ih hrest

theorem ofPlaces (stop : Nat) (places : List Place) :
    Reaches stop [] (places.eraseDups.map (.ofPlace stop)) places := by
  match places with
  | [] => exact .nil
  | place :: places =>
    rw [List.eraseDups_cons]
    exact .next rfl (ofPlaces stop _)
termination_by places.length
decreasing_by exact Nat.lt_succ_of_le (List.length_filter_le ..)

/-- When all places are laid again the ranges are in the same order. -/
theorem layAll (h : Reaches stop rest ranges places) (later : Nat) :
    Reaches later [] (Ranges.layAll later ranges places) places := by
  induction h with
  | nil =>
    rw [layAll_nil]
    exact ofPlaces later rest
  | other hplace _ ih =>
    rw [layAll_cons_of_not_mem later hplace]
    exact .other hplace ih
  | next _ _ ih =>
    rw [layAll_cons_place]
    exact .next rfl ih

/-- Over a character that is there nothing changes, if the new ranges begin after it. -/
theorem spansAt_layAll (h : Reaches stop rest ranges places) (hindex : index < stop)
    (hlater : index < later) (hrest : ∀ place ∈ rest, index < place.2) :
    spansAt (Ranges.layAll later ranges places) index = spansAt ranges index := by
  induction h with
  | nil =>
    refine spansAt_eq_nil fun range hrange => ?_
    obtain hrange | ⟨hplace, -⟩ := mem_layAll hrange
    · cases hrange
    · have hstart := hrest _ hplace
      rw [Bool.eq_false_iff, Ne, StyledRange.covers_iff]
      exact fun hcovers => Nat.not_le.mpr hstart hcovers.1
  | other hplace _ ih => rw [layAll_cons_of_not_mem later hplace, spansAt_cons, spansAt_cons, ih]
  | @next range _ _ hstop _ ih =>
    have hcovers : ({ range with stop := later } : StyledRange).covers index =
        range.covers index := by
      rw [Bool.eq_iff_iff, StyledRange.covers_iff, StyledRange.covers_iff, hstop]
      exact and_congr_right fun _ => iff_of_true hlater hindex
    rw [layAll_cons_place, spansAt_cons, spansAt_cons, hcovers, ih]

/-- Over a character behind all ranges there are the spans that are laid. -/
theorem spansAt_layAll_new (h : Reaches stop rest ranges places)
    (hranges : ∀ range ∈ ranges, range.stop ≤ index) (hplaces : ∀ place ∈ places, place.2 ≤ index)
    (hlater : index < later) :
    spansAt (Ranges.layAll later ranges places) index = Place.spans places := by
  induction h with
  | nil =>
    rw [layAll_nil]
    unfold spansAt Place.spans
    rw [List.filter_eq_self.mpr, List.map_map]
    · rfl
    · intro range hrange
      obtain ⟨place, hplace, rfl⟩ := List.mem_map.mp hrange
      rw [List.mem_eraseDups] at hplace
      exact StyledRange.covers_iff.mpr ⟨hplaces place hplace, hlater⟩
  | @other range _ _ hplace _ ih =>
    obtain ⟨hrange, hranges⟩ := List.forall_mem_cons.mp hranges
    have hcovers : range.covers index = false := by
      rw [Bool.eq_false_iff, Ne, StyledRange.covers_iff]
      exact fun hcovers => Nat.not_lt.mpr hrange hcovers.2
    rw [layAll_cons_of_not_mem later hplace, spansAt_cons, hcovers, if_neg Bool.false_ne_true]
    exact ih hranges hplaces
  | @next range _ places hstop _ ih =>
    obtain ⟨-, hranges⟩ := List.forall_mem_cons.mp hranges
    obtain ⟨hplace, hplaces⟩ := List.forall_mem_cons.mp hplaces
    have hcovers : ({ range with stop := later } : StyledRange).covers index = true :=
      StyledRange.covers_iff.mpr ⟨hplace, hlater⟩
    rw [layAll_cons_place, spansAt_cons, hcovers, if_pos rfl,
      ih hranges fun place h => hplaces place (List.mem_filter.mp h).1]
    unfold Place.spans
    rw [List.eraseDups_cons]
    rfl

end Reaches

end Ranges

/-! ## Layers -/

namespace RichText

/-- The ranges that a layer adds to a text of the length `stop`. -/
def layered (other : RichText) (offset stop : Nat) : List StyledRange :=
  (other.ranges.map fun range =>
    { range.shift offset with stop := min (range.stop + offset) stop }).filter fun range =>
      range.start < range.stop

/-- A layer that begins in the text, or at its end, is added as it is. -/
theorem ranges_layer {r : RichText} (h : offset ≤ r.length) (other : RichText) :
    (r.layer offset other).ranges = r.ranges ++ other.layered offset r.length := by
  have hposition (position : Nat) : r.toBuffer.layPosition offset position = position + offset :=
    if_pos h
  unfold layer Buffer.layer layered StyledRange.shift
  simp only [hposition]
  rfl

theorem mem_layered {other : RichText} (h : range ∈ other.layered offset stop) :
    offset ≤ range.start ∧ range.start < range.stop ∧ range.stop ≤ stop := by
  obtain ⟨hmem, hlt⟩ := List.mem_filter.mp h
  obtain ⟨range, -, rfl⟩ := List.mem_map.mp hmem
  exact ⟨Nat.le_add_left .., of_decide_eq_true hlt, Nat.min_le_right ..⟩

/-- A layer begins at its offset. -/
theorem spansAt_layered_of_lt (other : RichText) (h : index < offset) :
    Ranges.spansAt (other.layered offset stop) index = [] := by
  refine Ranges.spansAt_eq_nil fun range hrange => ?_
  rw [Bool.eq_false_iff, Ne, StyledRange.covers_iff]
  exact fun hcovers => Nat.not_le.mpr h (Nat.le_trans (mem_layered hrange).1 hcovers.1)

/-- The spans over a character of a layer are those over it in its own text. -/
theorem spansAt_layered (other : RichText) (h : offset + index < stop) :
    Ranges.spansAt (other.layered offset stop) (offset + index) =
      Ranges.spansAt other.ranges index := by
  unfold layered Ranges.spansAt
  rw [List.filter_filter, List.filter_map, List.map_map]
  refine congrArg (List.map _) (List.filter_congr fun range _ => ?_)
  rw [Bool.eq_iff_iff]
  simp only [Function.comp_apply, Bool.and_eq_true, decide_eq_true_eq, StyledRange.covers_iff,
    StyledRange.shift]
  omega

/-! ## Laying a span over a text -/

/-- Laying a span as it is written. -/
theorem restop_eq_lay (stop : Nat) (ranges : List StyledRange) (place : Place) :
    (Buffer.restop place.1 place.2 stop ranges).getD (ranges ++ [.ofPlace stop place]) =
      Ranges.lay stop ranges place := by
  induction ranges with
  | nil => rfl
  | cons range ranges ih =>
    have hplace : (range.span = place.1 ∧ range.start = place.2) ↔ range.place = place :=
      ⟨fun h => Prod.ext h.1 h.2, fun h => ⟨congrArg (·.1) h, congrArg (·.2) h⟩⟩
    simp only [Buffer.restop, Ranges.lay, hplace]
    split
    · rfl
    · rw [← ih]
      cases Buffer.restop place.1 place.2 stop ranges <;> rfl

theorem setSpan_eq_self {r : RichText} (span : Span) (h : min stop r.length ≤ start) :
    r.setSpan span start stop = r := eq_of_toBuffer (if_pos h)

theorem ranges_setSpan_of_lt {r : RichText} (span : Span) (h : start < min stop r.length) :
    (r.setSpan span start stop).ranges = Ranges.lay (min stop r.length) r.ranges (span, start) := by
  have hlaid := congrArg Buffer.ranges (if_neg (Nat.not_le.mpr h) :
    r.toBuffer.setSpan span start stop = _)
  exact hlaid.trans (restop_eq_lay (min stop r.length) r.ranges (span, start))

theorem ranges_setSpan (r : RichText) (place : Place) :
    (r.setSpan place.1 place.2 r.length).ranges =
      Ranges.layAll r.length r.ranges ([place].filter (·.2 < r.length)) := by
  by_cases h : place.2 < r.length
  · rw [ranges_setSpan_of_lt place.1 (by rwa [Nat.min_self]), Nat.min_self,
      List.filter_cons_of_pos (by simpa using h)]
    rfl
  · rw [setSpan_eq_self place.1 (by rw [Nat.min_self]; exact Nat.le_of_not_lt h),
      List.filter_cons_of_neg (by simpa using h)]
    rfl

end RichText

end Placard
