import Placard.Proofs.Openings
import Placard.Proofs.Ranges

/-! # Where open styles began

A text under construction knows where each open style began in it (`Begun`), and has laid the open
spans up to its end (`Laid`). Each piece that is added to it, under the styles that are open by
then, keeps this (`Laid.addPiece`) and leaves what is there as it was (`Laid.extends_addPiece`).
Over a new character there are the spans that are open, each place once (`Laid.spansAt_add`); over a
character of an added piece there are those of the piece, and below them some that are open from
before it (`Laid.spansAt_addPiece`). -/

namespace Placard.Template

theorem lookup_cons_pair (id first offset : Nat) (starts : List (Nat × Nat)) :
    ((first, offset) :: starts).lookup id =
      if id = first then some offset else starts.lookup id := by
  rw [List.lookup_cons]
  by_cases h : id = first
  · simp [h]
  · rw [beq_false_of_ne h, if_neg h]

/-- Where a style is known to have begun, it began. -/
theorem lookup_addStarts (known new : List (Nat × Nat)) (id : Nat) :
    (addStarts known new).lookup id = (known.lookup id).or (new.lookup id) := by
  unfold addStarts
  induction new generalizing known with
  | nil => exact (Option.or_none).symm
  | cons start new ih =>
    obtain ⟨first, offset⟩ := start
    rw [List.foldl_cons, ih, lookup_cons_pair]
    by_cases hfirst : known.any (·.1 = first) = true
    · rw [if_pos hfirst]
      split
      · rename_i hid
        have hsome : (known.lookup id).isSome := by
          obtain ⟨pair, hmem, heq⟩ := List.any_eq_true.mp hfirst
          rw [List.lookup_isSome_iff]
          refine ⟨pair, hmem, ?_⟩
          rw [hid, of_decide_eq_true heq]
          exact beq_self_eq_true first
        obtain ⟨found, hfound⟩ := Option.isSome_iff_exists.mp hsome
        rw [hfound]
        rfl
      · rfl
    · rw [if_neg hfirst, List.lookup_append, lookup_cons_pair, List.lookup_nil, Option.or_assoc]
      split <;> rfl

theorem lookup_shifted (starts : List (Nat × Nat)) (offset id : Nat) :
    (starts.map fun (id, start) => (id, offset + start)).lookup id =
      (starts.lookup id).map (offset + ·) := by
  induction starts with
  | nil => rfl
  | cons start starts ih =>
    obtain ⟨first, start⟩ := start
    rw [List.map_cons, List.lookup_cons, List.lookup_cons, ih]
    cases id == first <;> rfl

namespace Piece

/-- Where the styles began. One of which that is not known begins at the end. -/
def places (piece : Piece) (styles : List OpenStyle) : List Place :=
  styles.map fun style => (style.span, (piece.starts.lookup style.id).getD piece.text.length)

/-- The piece knows where each of the styles began. -/
def Knows (piece : Piece) (styles : List OpenStyle) : Prop :=
  ∀ style ∈ styles, (piece.starts.lookup style.id).isSome

theorem lookup_stretch (offset : Nat) (piece : Piece) (style : OpenStyle) (id : Nat) :
    (piece.stretch offset style).starts.lookup id =
      (piece.starts.lookup id).or (if id = style.id then some offset else none) := by
  rw [stretch, lookup_addStarts, lookup_cons_pair, List.lookup_nil]

theorem lookup_stretchAll (offset : Nat) (piece : Piece) (styles : List OpenStyle)
    (id : Nat) :
    (piece.stretchAll offset styles).starts.lookup id =
      (piece.starts.lookup id).or
        (if ∃ style ∈ styles, style.id = id then some offset else none) := by
  unfold stretchAll
  induction styles generalizing piece with
  | nil => simp
  | cons style styles ih =>
    rw [List.foldl_cons, ih, lookup_stretch, Option.or_assoc]
    refine congrArg (Option.or _) ?_
    by_cases h : id = style.id
    · simp [h]
    · simp [h, Ne.symm h]

theorem ranges_stretchAll (offset : Nat) (piece : Piece) (styles : List OpenStyle) :
    (piece.stretchAll offset styles).text.ranges =
      Ranges.layAll piece.text.length piece.text.ranges ((styles.map fun style =>
        (style.span, (piece.starts.lookup style.id).getD offset)).filter
          (·.2 < piece.text.length)) := by
  unfold stretchAll
  induction styles generalizing piece with
  | nil => rfl
  | cons style styles ih =>
    have hlength : (piece.stretch offset style).text.length = piece.text.length :=
      RichText.length_setSpan ..
    have hstart (other : OpenStyle) :
        ((piece.stretch offset style).starts.lookup other.id).getD offset =
          (piece.starts.lookup other.id).getD offset := by
      rw [lookup_stretch]
      cases piece.starts.lookup other.id with
      | some start => rfl
      | none => split <;> rfl
    have hranges : (piece.stretch offset style).text.ranges = Ranges.layAll piece.text.length
        piece.text.ranges ([(style.span, (piece.starts.lookup style.id).getD offset)].filter
          (·.2 < piece.text.length)) :=
      RichText.ranges_setSpan piece.text (style.span, (piece.starts.lookup style.id).getD offset)
    rw [List.foldl_cons, ih, hlength, hranges]
    simp only [hstart]
    refine (List.foldl_append ..).symm.trans ?_
    rw [← List.filter_append]
    rfl

section

variable (piece : Piece) (styles : List OpenStyle) (added : Piece)

/-- Adding text is adding a piece without styles. -/
theorem add_eq_addPiece (text : List Char) :
    piece.add styles text = piece.addPiece styles { text := .plain text } := by
  unfold add addPiece
  simp [addStarts, RichText.layer_plain]

theorem length_addPiece :
    (piece.addPiece styles added).text.length = piece.text.length + added.text.length := by
  rw [RichText.length_eq, text_addPiece, List.length_append, ← RichText.length_eq,
    ← RichText.length_eq]

/-- A style began where it is known to have begun, or as long after the end of the text as in the
added piece, or at this end. -/
theorem lookup_addPiece (id : Nat) :
    (piece.addPiece styles added).starts.lookup id =
      ((piece.starts.lookup id).or
        ((added.starts.lookup id).map (piece.text.length + ·))).or
        (if ∃ style ∈ styles, style.id = id then some piece.text.length else none) := by
  unfold addPiece
  dsimp only
  rw [lookup_stretchAll, lookup_addStarts, lookup_shifted]

theorem knows_addPiece : (piece.addPiece styles added).Knows styles := by
  intro style hstyle
  rw [lookup_addPiece, if_pos ⟨style, hstyle, rfl⟩, Option.isSome_or]
  exact Bool.or_true _

/-- The open spans are laid to the new end, and the ranges of the piece on top. -/
theorem ranges_addPiece :
    (piece.addPiece styles added).text.ranges =
      Ranges.layAll (piece.addPiece styles added).text.length piece.text.ranges
        (((piece.addPiece styles added).places styles).filter
          (·.2 < (piece.addPiece styles added).text.length)) ++
      added.text.layered piece.text.length (piece.addPiece styles added).text.length := by
  have hplaces : (piece.addPiece styles added).places styles = styles.map fun style =>
      (style.span, (((addStarts piece.starts (added.starts.map fun (id, start) =>
        (id, piece.text.length + start))).lookup style.id).getD piece.text.length)) := by
    refine List.map_congr_left fun style hstyle => congrArg _ ?_
    rw [lookup_addPiece, if_pos ⟨style, hstyle, rfl⟩, lookup_addStarts, lookup_shifted]
    cases (piece.starts.lookup style.id).or
      ((added.starts.lookup style.id).map (piece.text.length + ·)) <;> rfl
  have hlength : (piece.addPiece styles added).text.length =
      (piece.text.pushText added.text.text).length :=
    RichText.length_eq_of_text_eq (text_addPiece piece styles added)
  have hle : piece.text.length ≤ (piece.text.pushText added.text.text).length :=
    Nat.le_add_right ..
  rw [hplaces, hlength]
  unfold addPiece
  dsimp only
  rw [RichText.ranges_layer (by rwa [length_stretchAll]), length_stretchAll, ranges_stretchAll]
  rfl

end

/-! ## Two lists of places -/

theorem filter_map_congr {f g : α → β} {q : β → Bool} {l : List α}
    (h : ∀ a ∈ l, f a = g a ∨ q (f a) = false ∧ q (g a) = false) :
    (l.map f).filter q = (l.map g).filter q := by
  induction l with
  | nil => rfl
  | cons a l ih =>
    obtain ⟨ha, hl⟩ := List.forall_mem_cons.mp h
    rw [List.map_cons, List.map_cons, List.filter_cons, List.filter_cons, ih hl]
    obtain heq | ⟨hf, hg⟩ := ha
    · rw [heq]
    · rw [hf, hg]
      rfl

/-- In a list in order those before an offset come first. -/
theorem exists_filter_lt_eq_append {places : List Place} (h : places.Pairwise (·.2 ≤ ·.2))
    (hle : first ≤ second) : ∃ new : List Place, (∀ place ∈ new, first ≤ place.2) ∧
      places.filter (·.2 < second) = places.filter (·.2 < first) ++ new := by
  induction places with
  | nil => exact ⟨[], nofun, rfl⟩
  | cons place places ih =>
    obtain ⟨hplace, hplaces⟩ := List.pairwise_cons.mp h
    by_cases hlt : place.2 < first
    · obtain ⟨new, hnew, heq⟩ := ih hplaces
      refine ⟨new, hnew, ?_⟩
      rw [List.filter_cons_of_pos (by simpa using Nat.lt_of_lt_of_le hlt hle),
        List.filter_cons_of_pos (by simpa using hlt), heq, List.cons_append]
    · have hnone : (place :: places).filter (·.2 < first) = [] := by
        rw [List.filter_eq_nil_iff]
        refine List.forall_mem_cons.mpr ⟨by simpa using hlt, fun other hother => ?_⟩
        simpa using Nat.le_trans (Nat.not_lt.mp hlt) (hplace other hother)
      refine ⟨_, fun other hother => ?_, by rw [hnone, List.nil_append]⟩
      obtain hmem | hmem := List.mem_cons.mp (List.mem_filter.mp hother).1
      · exact hmem ▸ Nat.not_lt.mp hlt
      · exact Nat.le_trans (Nat.not_lt.mp hlt) (hplace other hmem)

/-! ## Texts under construction -/

/-- The piece knows where the open styles began, one after the other. It may know none of them. Of
the openings from `base` on with different ids, it knows only those that were made. -/
structure Begun (base : Nat) (piece : Piece) (styles : OpenStyles) : Prop where
  bounded : ∀ number start, base ≤ number → number < base + OpenStyle.idLimit →
    piece.starts.lookup (number % OpenStyle.idLimit) = some start →
      number < styles.count ∧ start ≤ piece.text.length
  known : ∀ id start, piece.starts.lookup id = some start → piece.Knows styles.active
  ordered : ∀ first ∈ styles.active, ∀ second ∈ styles.active, first.number < second.number →
    ∀ a b, piece.starts.lookup first.id = some a → piece.starts.lookup second.id = some b → a ≤ b

/-- The open spans are laid up to the end of the piece. -/
structure Laid (base : Nat) (piece : Piece) (styles : OpenStyles) : Prop extends
    Begun base piece styles where
  started : piece.text.text ≠ [] → piece.Knows styles.active
  inside : ∀ range ∈ piece.text.ranges,
    range.start < range.stop ∧ range.stop ≤ piece.text.length
  reaches : Ranges.Reaches piece.text.length [] piece.text.ranges
    ((piece.places styles.active).filter (·.2 < piece.text.length))

/-- What was added to a text leaves it as it was, and the styles that are new begin after it. -/
structure Extends (piece later : Piece) : Prop where
  text : piece.text.text <+: later.text.text
  starts : ∀ id start, later.starts.lookup id = some start →
    piece.starts.lookup id = some start ∨ piece.text.length ≤ start
  spansAt : ∀ index < piece.text.length,
    Ranges.spansAt later.text.ranges index = Ranges.spansAt piece.text.ranges index

theorem begun_of_starts_eq_nil (h : piece.starts = []) (base : Nat) (styles : OpenStyles) :
    Begun base piece styles := by
  refine ⟨?_, ?_, ?_⟩ <;> simp [h]

/-- A style that is known was opened by then. -/
theorem Begun.lt_count {styles later : OpenStyles} (h : Begun base piece styles)
    (hlater : later.Recent base) (hstyle : style ∈ later.active)
    (hstart : piece.starts.lookup style.id = some start) :
    style.number < styles.count ∧ start ≤ piece.text.length :=
  h.bounded _ _ (hlater.le_number style hstyle)
    (Nat.lt_of_lt_of_le (hlater.lt_count style hstyle) hlater.count_le) hstart

theorem laid_empty (base : Nat) (styles : OpenStyles) : Laid base {} styles where
  toBegun := begun_of_starts_eq_nil rfl base styles
  started h := absurd rfl h
  inside := nofun
  reaches := by
    rw [List.filter_eq_nil_iff.mpr]
    · exact .nil
    · exact fun place _ h => Nat.not_lt_zero _ (of_decide_eq_true h)

namespace Extends

theorem refl (piece : Piece) : Extends piece piece :=
  ⟨List.prefix_rfl, fun _ _ h => .inl h, fun _ _ => rfl⟩

theorem length_le (h : Extends piece later) : piece.text.length ≤ later.text.length :=
  RichText.length_le_of_prefix h.text

theorem trans (h : Extends first second) (h' : Extends second third) : Extends first third where
  text := h.text.trans h'.text
  starts id start hstart := by
    obtain hstart | hstart := h'.starts id start hstart
    · exact h.starts id start hstart
    · exact .inr (Nat.le_trans h.length_le hstart)
  spansAt index hindex := by
    rw [h'.spansAt index (Nat.lt_of_lt_of_le hindex h.length_le), h.spansAt index hindex]

end Extends

/-! ## Adding a piece -/

section

variable {piece added : Piece} {styles : List OpenStyle} {id start : Nat}

theorem lookup_addPiece_of_known (h : piece.starts.lookup id = some start) :
    (piece.addPiece styles added).starts.lookup id = some start := by
  rw [lookup_addPiece, h]
  rfl

theorem lookup_addPiece_of_added (hnew : piece.starts.lookup id = none)
    (h : added.starts.lookup id = some start) :
    (piece.addPiece styles added).starts.lookup id = some (piece.text.length + start) := by
  rw [lookup_addPiece, hnew, h]
  rfl

/-- A style that is in neither of the two pieces begins where they meet. -/
theorem eq_of_lookup_addPiece (hnew : piece.starts.lookup id = none)
    (h : added.starts.lookup id = none)
    (hstart : (piece.addPiece styles added).starts.lookup id = some start) :
    start = piece.text.length ∧ ∃ style ∈ styles, style.id = id := by
  rw [lookup_addPiece, hnew, h, Option.map_none, Option.or_none, Option.none_or] at hstart
  split at hstart
  · rename_i hstyle
    cases hstart
    exact ⟨rfl, hstyle⟩
  · cases hstart

/-- A style that is not in the piece begins after it. -/
theorem le_of_lookup_addPiece (hnew : piece.starts.lookup id = none)
    (hstart : (piece.addPiece styles added).starts.lookup id = some start) :
    piece.text.length ≤ start := by
  cases hadded : added.starts.lookup id with
  | some offset =>
    rw [lookup_addPiece_of_added hnew hadded] at hstart
    cases hstart
    exact Nat.le_add_right ..
  | none => exact Nat.le_of_eq (eq_of_lookup_addPiece hnew hadded hstart).1.symm

end

section

variable {base : Nat} {piece added : Piece} {styles later : OpenStyles} (h : Laid base piece styles)
  (hleads : styles.Leads later) (hlater : later.Recent base) (hadded : Begun base added later)

include h hleads hlater hadded

theorem Laid.begun_addPiece : Begun base (piece.addPiece later.active added) later where
  bounded number start hbase hlimit hstart := by
    rw [length_addPiece]
    cases hpiece : piece.starts.lookup (number % OpenStyle.idLimit) with
    | some known =>
      obtain rfl := Option.some.inj ((lookup_addPiece_of_known hpiece).symm.trans hstart)
      obtain ⟨hnumber, hle⟩ := h.bounded number _ hbase hlimit hpiece
      exact ⟨Nat.lt_of_lt_of_le hnumber hleads.count_le, Nat.le_add_right_of_le hle⟩
    | none =>
      cases hnew : added.starts.lookup (number % OpenStyle.idLimit) with
      | some offset =>
        obtain rfl := Option.some.inj ((lookup_addPiece_of_added hpiece hnew).symm.trans hstart)
        obtain ⟨hnumber, hle⟩ := hadded.bounded number _ hbase hlimit hnew
        exact ⟨hnumber, Nat.add_le_add_left hle _⟩
      | none =>
        obtain ⟨rfl, style, hstyle, hid⟩ := eq_of_lookup_addPiece hpiece hnew hstart
        obtain rfl := hlater.number_eq hstyle hbase hlimit hid
        exact ⟨hlater.lt_count style hstyle, Nat.le_add_right ..⟩
  known _ _ _ := knows_addPiece _ _ _
  ordered first hfirst second hsecond hlt a b ha hb := by
    cases hpiece : piece.starts.lookup second.id with
    | some known =>
      -- Both were open before, and so both are known.
      obtain rfl := Option.some.inj ((lookup_addPiece_of_known hpiece).symm.trans hb)
      have hnumber := (h.lt_count hlater hsecond hpiece).1
      have hfirst := hleads.mem_of_lt hfirst (Nat.lt_trans hlt hnumber)
      have hsecond := hleads.mem_of_lt hsecond hnumber
      obtain ⟨known', hknown⟩ := Option.isSome_iff_exists.mp (h.known _ _ hpiece first hfirst)
      obtain rfl := Option.some.inj ((lookup_addPiece_of_known hknown).symm.trans ha)
      exact h.ordered first hfirst second hsecond hlt _ _ hknown hpiece
    | none =>
      have hlength := le_of_lookup_addPiece hpiece hb
      cases hpiece' : piece.starts.lookup first.id with
      | some known =>
        obtain rfl := Option.some.inj ((lookup_addPiece_of_known hpiece').symm.trans ha)
        exact Nat.le_trans (h.lt_count hlater hfirst hpiece').2 hlength
      | none =>
        cases hnew : added.starts.lookup first.id with
        | none => exact (eq_of_lookup_addPiece hpiece' hnew ha).1 ▸ hlength
        | some offset =>
          obtain ⟨offset', hnew'⟩ :=
            Option.isSome_iff_exists.mp (hadded.known _ _ hnew second hsecond)
          obtain rfl := Option.some.inj ((lookup_addPiece_of_added hpiece' hnew).symm.trans ha)
          obtain rfl := Option.some.inj ((lookup_addPiece_of_added hpiece hnew').symm.trans hb)
          have hle := hadded.ordered first hfirst second hsecond hlt _ _ hnew hnew'
          exact Nat.add_le_add_left hle _

omit hadded in
/-- The open styles that began before the end of the text are the ones of before, or none. -/
theorem Laid.places_before :
    ((piece.addPiece later.active added).places later.active).filter
        (·.2 < piece.text.length) = [] ∨
    ((piece.addPiece later.active added).places later.active).filter (·.2 < piece.text.length) =
      (piece.places styles.active).filter (·.2 < piece.text.length) := by
  have hplace {style : OpenStyle} (hstyle : style ∈ later.active)
      (hnew : piece.starts.lookup style.id = none) : piece.text.length ≤
        ((piece.addPiece later.active added).starts.lookup style.id).getD
          (piece.addPiece later.active added).text.length := by
    obtain ⟨start, hstart⟩ := Option.isSome_iff_exists.mp
      (knows_addPiece piece later.active added style hstyle)
    rw [hstart]
    exact le_of_lookup_addPiece hnew hstart
  obtain ⟨-, kept, new, hactive, hkept, hnew⟩ := hleads
  have hafter : ((piece.addPiece later.active added).places new).filter
      (·.2 < piece.text.length) = [] := by
    rw [List.filter_eq_nil_iff]
    intro place hmem
    obtain ⟨style, hstyle, rfl⟩ := List.mem_map.mp hmem
    have hunknown : piece.starts.lookup style.id = none := by
      rw [Option.eq_none_iff_forall_ne_some]
      intro start hstart
      have hmem : style ∈ later.active := hactive ▸ List.mem_append_right kept hstyle
      exact Nat.not_lt.mpr (hnew style hstyle) (h.lt_count hlater hmem hstart).1
    simpa using hplace (hactive ▸ List.mem_append_right kept hstyle) hunknown
  have hplaces : (piece.addPiece later.active added).places later.active =
      (piece.addPiece later.active added).places kept ++
        (piece.addPiece later.active added).places new := by
    conv => lhs; arg 2; rw [hactive]
    exact List.map_append
  rw [hplaces, List.filter_append, hafter, List.append_nil]
  obtain rfl | rfl := hkept
  · exact .inl rfl
  · right
    have hmem {style : OpenStyle} (hstyle : style ∈ styles.active) : style ∈ later.active :=
      hactive ▸ List.mem_append_left new hstyle
    refine filter_map_congr fun style hstyle => ?_
    cases hknown : piece.starts.lookup style.id with
    | some start =>
      left
      rw [lookup_addPiece_of_known hknown]
      rfl
    | none =>
      right
      have hlength := hplace (hmem hstyle) hknown
      simp only [Option.getD_none, Nat.lt_irrefl, decide_false, decide_eq_false_iff_not, and_true]
      exact Nat.not_lt.mpr hlength

/-- The places are in order. -/
theorem Laid.places_pairwise : ((piece.addPiece later.active added).places later.active).Pairwise
    (·.2 ≤ ·.2) := by
  have hbegun := h.begun_addPiece hleads hlater hadded
  refine List.pairwise_map.mpr
    (hlater.increasing.imp_of_mem fun {first second} hfirst hsecond hlt => ?_)
  have hknows := knows_addPiece piece later.active added
  obtain ⟨a, ha⟩ := Option.isSome_iff_exists.mp (hknows first hfirst)
  obtain ⟨b, hb⟩ := Option.isSome_iff_exists.mp (hknows second hsecond)
  rw [ha, hb]
  exact hbegun.ordered first hfirst second hsecond hlt a b ha hb

/-- The ranges of the open styles are there already, but for styles that begin at the end. -/
theorem Laid.reaches_addPiece : ∃ new, (∀ place ∈ new, piece.text.length ≤ place.2) ∧
    Ranges.Reaches piece.text.length new piece.text.ranges
      (((piece.addPiece later.active added).places later.active).filter
        (·.2 < (piece.addPiece later.active added).text.length)) := by
  have hlength := length_addPiece piece later.active added
  obtain ⟨new, hnew, hsplit⟩ := exists_filter_lt_eq_append
    (h.places_pairwise hleads hlater hadded) (hlength ▸ Nat.le_add_right ..)
  refine ⟨new, hnew, ?_⟩
  rw [hsplit]
  refine Ranges.Reaches.append_rest ?_ fun range hrange hmem => ?_
  · obtain hbefore | hbefore := h.places_before hleads hlater
    · rw [hbefore]
      exact .of_nil ..
    · rw [hbefore]
      exact h.reaches
  · have hinside := h.inside range hrange
    exact Nat.not_le.mpr (Nat.lt_of_lt_of_le hinside.1 hinside.2) (hnew _ hmem)

/-- Adding a piece lays the open spans up to the new end. -/
theorem Laid.addPiece : Laid base (piece.addPiece later.active added) later where
  toBegun := h.begun_addPiece hleads hlater hadded
  started _ := knows_addPiece _ _ _
  inside range hrange := by
    rw [ranges_addPiece] at hrange
    obtain hrange | hrange := List.mem_append.mp hrange
    · obtain hrange | ⟨hplace, hstop⟩ := Ranges.mem_layAll hrange
      · obtain ⟨hlt, hle⟩ := h.inside range hrange
        refine ⟨hlt, Nat.le_trans hle ?_⟩
        rw [length_addPiece]
        exact Nat.le_add_right ..
      · have hstart := of_decide_eq_true (List.mem_filter.mp hplace).2
        exact ⟨hstop ▸ hstart, Nat.le_of_eq hstop⟩
    · exact (RichText.mem_layered hrange).2
  reaches := by
    obtain ⟨new, -, hreaches⟩ := h.reaches_addPiece hleads hlater hadded
    rw [ranges_addPiece]
    exact (hreaches.layAll _).append _

theorem Laid.extends_addPiece : Extends piece (piece.addPiece later.active added) where
  text := ⟨added.text.text, (text_addPiece piece later.active added).symm⟩
  starts id start hstart := by
    cases hpiece : piece.starts.lookup id with
    | some known => exact .inl ((lookup_addPiece_of_known hpiece).symm.trans hstart)
    | none => exact .inr (le_of_lookup_addPiece hpiece hstart)
  spansAt index hindex := by
    obtain ⟨new, hnew, hreaches⟩ := h.reaches_addPiece hleads hlater hadded
    have hlater : index < (piece.addPiece later.active added).text.length := by
      rw [length_addPiece]
      exact Nat.lt_add_right _ hindex
    rw [ranges_addPiece, Ranges.spansAt_append, RichText.spansAt_layered_of_lt _ hindex,
      List.append_nil]
    exact hreaches.spansAt_layAll hindex hlater fun place hplace =>
      Nat.lt_of_lt_of_le hindex (hnew place hplace)

omit hleads hlater hadded in
/-- Over a character of the piece there are the spans that are over it in the piece, and below them
some that are open and began before it. -/
theorem Laid.spansAt_addPiece {index : Nat} (hindex : index < added.text.length) :
    ∃ below : List Span, (∀ span ∈ below, ∃ style ∈ later.active, style.span = span ∧ ∃ start,
        (piece.addPiece later.active added).starts.lookup style.id = some start ∧
          start ≤ piece.text.length + index) ∧
      Ranges.spansAt (piece.addPiece later.active added).text.ranges (piece.text.length + index) =
        below ++ Ranges.spansAt added.text.ranges index := by
  have hlength := length_addPiece piece later.active added
  rw [ranges_addPiece, Ranges.spansAt_append,
    RichText.spansAt_layered _ (hlength ▸ Nat.add_lt_add_left hindex _)]
  refine ⟨_, fun span hspan => ?_, rfl⟩
  obtain ⟨range, hrange, rfl⟩ := List.mem_map.mp hspan
  obtain ⟨hrange, hcovers⟩ := List.mem_filter.mp hrange
  rw [StyledRange.covers_iff] at hcovers
  obtain hrange | ⟨hplace, -⟩ := Ranges.mem_layAll hrange
  · have hstop := (h.inside range hrange).2
    exact absurd hcovers.2 (Nat.not_lt.mpr (Nat.le_add_right_of_le hstop))
  · obtain ⟨style, hstyle, hplace⟩ := List.mem_map.mp (List.mem_filter.mp hplace).1
    obtain ⟨start, hstart⟩ := Option.isSome_iff_exists.mp
      (knows_addPiece piece later.active added style hstyle)
    rw [hstart] at hplace
    refine ⟨style, hstyle, congrArg (·.1) hplace, start, hstart, ?_⟩
    have heq : start = range.start := congrArg (·.2) hplace
    exact heq ▸ hcovers.1

end

/-! ## Adding a character -/

section

variable {base : Nat} {piece : Piece} {styles : OpenStyles} (h : Laid base piece styles)
  (hstyles : styles.Recent base) (x : Char)

include h hstyles

theorem Laid.add : Laid base (piece.add styles.active [x]) styles := by
  rw [add_eq_addPiece]
  exact h.addPiece (.refl styles) hstyles (begun_of_starts_eq_nil rfl base styles)

theorem Laid.extends_add : Extends piece (piece.add styles.active [x]) := by
  rw [add_eq_addPiece]
  exact h.extends_addPiece (.refl styles) hstyles (begun_of_starts_eq_nil rfl base styles)

/-- Over a new character there are the open spans, each place once. -/
theorem Laid.spansAt_add :
    Ranges.spansAt (piece.add styles.active [x]).text.ranges piece.text.length =
      Place.spans (piece.places styles.active) := by
  rw [add_eq_addPiece]
  let added : Piece := { text := .plain [x] }
  have hlength : (piece.addPiece styles.active added).text.length = piece.text.length + 1 :=
    length_addPiece ..
  have hplaces : (piece.addPiece styles.active added).places styles.active =
      piece.places styles.active := by
    refine List.map_congr_left fun style hstyle => congrArg _ ?_
    rw [lookup_addPiece, if_pos ⟨style, hstyle, rfl⟩]
    cases piece.starts.lookup style.id <;> rfl
  have hstart : ∀ place ∈ piece.places styles.active, place.2 ≤ piece.text.length := by
    intro place hplace
    obtain ⟨style, hstyle, rfl⟩ := List.mem_map.mp hplace
    cases hknown : piece.starts.lookup style.id with
    | some start => exact (h.lt_count hstyles hstyle hknown).2
    | none => exact Nat.le_refl _
  have hadded : Begun base added styles := begun_of_starts_eq_nil rfl base styles
  obtain ⟨new, hnew, hreaches⟩ := h.reaches_addPiece (.refl styles) hstyles hadded
  have hall : (piece.places styles.active).filter (·.2 < piece.text.length + 1) =
      piece.places styles.active :=
    List.filter_eq_self.mpr fun place hplace =>
      decide_eq_true (Nat.lt_succ_of_le (hstart place hplace))
  have hlayered : added.text.layered piece.text.length (piece.text.length + 1) = [] := rfl
  rw [hlength, hplaces, hall] at hreaches
  rw [ranges_addPiece, hlength, hplaces, hall, hlayered, List.append_nil]
  exact hreaches.spansAt_layAll_new (fun range hrange => (h.inside range hrange).2) hstart
    (Nat.lt_succ_self _)

end

end Piece

end Placard.Template
