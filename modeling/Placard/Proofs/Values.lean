import Placard.Proofs.MostRecent

/-! # Values keep their styles

The value of an info tag or a percentage comes with ranges of its own, which are laid on top of the
styles that are open (`ValueAt` says where this happens while a body is followed). From then on the
text has them between two other parts (`Piece.Carries`): below are the places of all open styles
that began before the end of the value, so these are found there when they are laid again, and what
is on top begins after the value. So the ranges of the value stay as they are, they are the last
ones over its characters, and nothing overrides the style that they make
(`keeps_style_of_valueAt`). All this is as long as no opening gets the id of one before
(`not_includes_of_wrapped`). -/

namespace Placard

namespace Ranges

variable {below mid above ranges : List StyledRange} {stop bound : Nat}

/-- Where there is a range for the place nothing but its end changes. -/
theorem map_place_lay (stop : Nat) (ranges : List StyledRange) (place : Place) :
    (lay stop ranges place).map (·.place) =
      if place ∈ ranges.map (·.place) then ranges.map (·.place)
      else ranges.map (·.place) ++ [place] := by
  induction ranges with
  | nil => rfl
  | cons range ranges ih =>
    rw [lay, List.map_cons]
    by_cases hplace : range.place = place
    · rw [if_pos hplace, if_pos (List.mem_cons.mpr (.inl hplace.symm))]
      rfl
    · simp only [if_neg hplace, List.mem_cons, Ne.symm hplace, false_or, List.map_cons, ih]
      split
      · rfl
      · rfl

/-- No place is lost, and the ones that were laid are there. -/
theorem mem_map_place_layAll {places : List Place}
    (h : place ∈ ranges.map (·.place) ∨ place ∈ places) :
    place ∈ (layAll stop ranges places).map (·.place) := by
  induction places generalizing ranges with
  | nil => exact h.resolve_right List.not_mem_nil
  | cons first places ih =>
    refine ih ?_
    rw [map_place_lay]
    obtain h | h := h
    · left
      split
      · exact h
      · exact List.mem_append_left _ h
    · refine (List.mem_cons.mp h).imp_left ?_
      rintro rfl
      split
      · assumption
      · exact List.mem_append_right _ List.mem_cons_self

/-- Ranges that begin before `bound` stay as they are, if all places before it are found below them
and what is above them begins later. -/
theorem layAll_append (stop : Nat) (hmid : ∀ range ∈ mid, range.start < bound)
    {places : List Place}
    (hplaces : ∀ place ∈ places, place.2 < bound → place ∈ below.map (·.place))
    (habove : ∀ range ∈ above, bound ≤ range.start) :
    ∃ below' above', layAll stop (below ++ mid ++ above) places = below' ++ mid ++ above' ∧
      below'.map (·.place) = below.map (·.place) ∧ ∀ range ∈ above', bound ≤ range.start := by
  induction places generalizing below above with
  | nil => exact ⟨below, above, rfl, rfl, habove⟩
  | cons place places ih =>
    obtain ⟨hplace, hplaces⟩ := List.forall_mem_cons.mp hplaces
    by_cases hfound : place ∈ below.map (·.place)
    · have hkept : (lay stop below place).map (·.place) = below.map (·.place) := by
        rw [map_place_lay, if_pos hfound]
      obtain ⟨below', above', hlaid, hbelow', habove'⟩ := ih (hkept.symm ▸ hplaces) habove
      refine ⟨below', above', ?_, hbelow'.trans hkept, habove'⟩
      rw [← hlaid, List.append_assoc, List.append_assoc]
      change layAll stop (lay stop _ place) places = _
      rw [lay_append, if_pos hfound]
    · have hlater : bound ≤ place.2 := Nat.not_lt.mp fun hlt => hfound (hplace hlt)
      have hother : place ∉ (below ++ mid).map (·.place) := by
        rw [List.map_append, List.mem_append, not_or]
        refine ⟨hfound, fun hmem => ?_⟩
        obtain ⟨range, hrange, rfl⟩ := List.mem_map.mp hmem
        exact Nat.not_lt.mpr hlater (hmid range hrange)
      have hnew : ∀ range ∈ lay stop above place, bound ≤ range.start := by
        intro range hrange
        obtain hrange | ⟨rfl, -⟩ := mem_lay hrange
        · exact habove range hrange
        · exact hlater
      obtain ⟨below', above', hlaid, hbelow', habove'⟩ := ih hplaces hnew
      refine ⟨below', above', ?_, hbelow', habove'⟩
      change layAll stop (lay stop _ place) places = _
      rw [lay_append, if_neg hother, hlaid]

end Ranges

namespace RichText

/-- The layer of a part of the ranges. -/
theorem layered_of_ranges {other : RichText} {below mid above : List StyledRange}
    (h : other.ranges = below ++ mid ++ above) (offset stop : Nat) :
    other.layered offset stop = layered { ranges := below } offset stop ++
      layered { ranges := mid } offset stop ++ layered { ranges := above } offset stop := by
  simp only [layered, h, List.map_append, List.filter_append]

/-- A layer that is laid on another text is one on this text. -/
theorem layered_layered (value : RichText) {index offset stop : Nat}
    (h : offset + (index + value.length) ≤ stop) :
    layered { ranges := value.layered index (index + value.length) } offset stop =
      value.layered (offset + index) (offset + index + value.length) := by
  simp only [layered, List.filter_map, List.filter_filter, List.map_map]
  have hmoved (range : StyledRange) :
      min (min (range.stop + index) (index + value.length) + offset) stop =
        min (range.stop + (offset + index)) (offset + index + value.length) := by omega
  congr 1
  · funext range
    simp only [Function.comp_apply, StyledRange.shift, hmoved, Nat.add_assoc,
      Nat.add_comm index offset]
  · refine List.filter_congr fun range _ => ?_
    rw [Bool.eq_iff_iff]
    simp only [Function.comp_apply, StyledRange.shift, Bool.and_eq_true, decide_eq_true_eq]
    omega

end RichText

namespace Style

/-- The style has the colors that `top` sets, and at least its modifiers. -/
structure Includes (style top : Style) : Prop where
  color : ∀ plane color, top.color? plane = some color → style.color? plane = some color
  modifiers : (top.modifiers.difference style.modifiers).isEmpty = true

theorem includes_applyAll_append (below spans : List Span) :
    (plain.applyAll (below ++ spans)).Includes (plain.applyAll spans) where
  color plane color h := by
    have hplain : plain.color? plane = none := by cases plane <;> rfl
    rw [color?_applyAll, hplain, Option.or_none] at h ⊢
    unfold lastColor? at h ⊢
    rw [List.filterMap_append, List.getLast?_append, h]
    rfl
  modifiers := by
    have hnone (b b' : Bool) : (b && !(b' || b)) = false := by cases b <;> cases b' <;> rfl
    rw [modifiers_applyAll, modifiers_applyAll, List.map_append]
    simp only [Modifiers.difference, Modifiers.unionAll, Modifiers.isEmpty, List.any_append, hnone,
      Bool.or_false, Bool.not_false]

end Style

namespace Template.Piece

/-- The ranges of the value are between others. The styles that began before its end are laid below
them, and what is on top begins after it. -/
structure Carries (piece : Piece) (styles : List OpenStyle) (index : Nat) (value : RichText) :
    Prop where
  add_length_le : index + value.length ≤ piece.text.length
  ranges : ∃ below above,
    piece.text.ranges = below ++ value.layered index (index + value.length) ++ above ∧
    (∀ range ∈ above, index + value.length ≤ range.start) ∧
    ∀ place ∈ piece.places styles, place.2 < index + value.length → place ∈ below.map (·.place)

namespace Carries

variable {piece added : Piece} {styles later : List OpenStyle} {index : Nat} {value : RichText}

/-- A value that is added. -/
theorem of_added (piece : Piece) (styles : List OpenStyle) (added : Piece) :
    (piece.addPiece styles added).Carries styles piece.text.length added.text where
  add_length_le := Nat.le_of_eq (length_addPiece piece styles added).symm
  ranges := by
    have hranges := ranges_addPiece piece styles added
    rw [length_addPiece] at hranges
    refine ⟨_, [], hranges.trans (List.append_nil _).symm, nofun, fun place hplace hlt => ?_⟩
    exact Ranges.mem_map_place_layAll (.inr (List.mem_filter.mpr ⟨hplace, decide_eq_true hlt⟩))

/-- A value of a piece that is added. -/
theorem addPiece (h : added.Carries styles index value) (piece : Piece) (later : List OpenStyle) :
    (piece.addPiece later added).Carries later (piece.text.length + index) value := by
  have hlength := length_addPiece piece later added
  have hle := h.add_length_le
  refine ⟨by omega, ?_⟩
  obtain ⟨below, above, hranges, habove, -⟩ := h.ranges
  have hlayered := RichText.layered_of_ranges hranges piece.text.length
    (piece.addPiece later added).text.length
  rw [RichText.layered_layered value (hlength ▸ Nat.add_le_add_left hle _)] at hlayered
  have hall := ranges_addPiece piece later added
  rw [hlayered, ← List.append_assoc, ← List.append_assoc] at hall
  refine ⟨_, _, hall, fun range hrange => ?_, fun place hplace hlt => ?_⟩
  · obtain ⟨hrange, -⟩ := List.mem_filter.mp hrange
    obtain ⟨moved, hmoved, rfl⟩ := List.mem_map.mp hrange
    have hstart := habove moved hmoved
    simp only [StyledRange.shift]
    omega
  · have hinside : place.2 < (piece.addPiece later added).text.length := by omega
    rw [List.map_append]
    exact List.mem_append_left _ (Ranges.mem_map_place_layAll
      (.inr (List.mem_filter.mpr ⟨hplace, decide_eq_true hinside⟩)))

/-- A value that is there already, if no more styles began before the end of the text. -/
theorem kept (h : piece.Carries styles index value)
    (hplaces : ∀ place ∈ (piece.addPiece later added).places later, place.2 < piece.text.length →
      place ∈ piece.places styles) :
    (piece.addPiece later added).Carries later index value := by
  have hlength := length_addPiece piece later added
  have hle := h.add_length_le
  refine ⟨by omega, ?_⟩
  obtain ⟨below, above, hranges, habove, hbelow⟩ := h.ranges
  have hmid : ∀ range ∈ value.layered index (index + value.length),
      range.start < index + value.length := fun range hrange =>
    Nat.lt_of_lt_of_le (RichText.mem_layered hrange).2.1 (RichText.mem_layered hrange).2.2
  have hfound : ∀ place ∈ (piece.addPiece later added).places later,
      place.2 < index + value.length → place ∈ below.map (·.place) := fun place hplace hlt =>
    hbelow place (hplaces place hplace (Nat.lt_of_lt_of_le hlt hle)) hlt
  obtain ⟨below', above', hlaid, hplaces', habove'⟩ :=
    Ranges.layAll_append (piece.addPiece later added).text.length hmid
      (fun place hplace => hfound place (List.mem_filter.mp hplace).1) habove
  refine ⟨below', above' ++ added.text.layered piece.text.length
    (piece.addPiece later added).text.length, ?_, ?_, hplaces'.symm ▸ hfound⟩
  · rw [ranges_addPiece, hranges, hlaid, List.append_assoc]
  · refine List.forall_mem_append.mpr ⟨habove', fun range hrange => ?_⟩
    exact Nat.le_trans hle (RichText.mem_layered hrange).1

theorem kept_add {text : List Char} (h : piece.Carries styles index value)
    (hplaces : ∀ place ∈ (piece.add later text).places later, place.2 < piece.text.length →
      place ∈ piece.places styles) :
    (piece.add later text).Carries later index value := by
  rw [add_eq_addPiece] at hplaces ⊢
  exact h.kept hplaces

end Carries

end Template.Piece

/-! ## Values in a run -/

namespace Template

variable {σ : Type}

/-- Following a body from `c` evaluates a tag to the value of an info or a percentage, which comes
at `index` in the text of the body. The tag is one of the body or of a part that stands for a tag in
it. -/
inductive ValueAt [Provider σ] (nested : Info.Nested σ) (name : String) :
    Bool → Draft → Body → Context σ → (index : Nat) → Tag → (value : RichText) → Prop
  | value (length rest) : Valued nested name c tag value d →
      ValueAt nested name true draft (.tag tag length rest) c draft.text.length tag value
  | inTag (length rest) : Standing nested name evaluate c tag evaluate' body d →
      ValueAt nested name evaluate' {} body d index tag' value →
      ValueAt nested name evaluate draft (.tag tag length rest) c (draft.text.length + index) tag'
        value
  | afterChar (x) :
      ValueAt nested name evaluate (draft.edited (draft.add c.laid [x]) (.keep 1)) rest c
        index tag value →
      ValueAt nested name evaluate draft (.char x rest) c index tag value
  | afterEscaped (x) :
      ValueAt nested name evaluate (draft.edited (draft.add c.laid [x]) (.replace 2 [x])) rest c
        index tag value →
      ValueAt nested name evaluate draft (.escaped x rest) c index tag value
  | afterBackslash :
      ValueAt nested name evaluate (draft.edited (draft.add c.laid ['\\']) (.keep 1)) rest c
        index tag value →
      ValueAt nested name evaluate draft (.backslash rest) c index tag value
  | afterTag (length) : (evalTag nested name evaluate first).Yields c added d →
      ValueAt nested name evaluate
        (draft.edited (draft.addPiece d.laid added) (.replace length added.text.text)) rest d
        index tag value →
      ValueAt nested name evaluate draft (.tag first length rest) c index tag value

/-- The value of an info whose name is there in full. -/
theorem valued_ofChars [Provider σ] {nested : Info.Nested σ} {name : String} {spec : List Char}
    {c d : Context σ} {value : Info.Value} (h : (Info.resolve nested spec).Yields c value d) :
    Valued nested name c (.info (.ofChars spec)) value.toRich d := by
  obtain ⟨draft, hspec, htext⟩ := yields_ofChars nested name true {} spec c
  exact .info hspec (isClosed_ofChars spec) (htext.symm ▸ h)

/-- With colors, the open spans are laid over the piece. -/
def Piece.Follows (base : Nat) (piece : Piece) (c : Context σ) : Prop :=
  c.config.disableColors = true ∨ c.After base c.styles ∧ piece.Laid base c.styles

/-- From `c` to `d` a piece is added that knows, with colors, where the open styles began. -/
def Adds (base : Nat) (c : Context σ) (added : Piece) (d : Context σ) : Prop :=
  d.config.disableColors = true ∨ c.After base c.styles ∧ d.After base c.styles ∧
    d.styles.Recent base ∧ added.Begun base d.styles

namespace Piece.Follows

variable {base : Nat} {piece added : Piece} {c d : Context σ}

/-- A step keeps this, and the styles that began before the end of the text are known to it. -/
theorem addPiece (h : piece.Follows base c) (ha : Adds base c added d) :
    (piece.addPiece d.laid added).Follows base d ∧
      ∀ place ∈ (piece.addPiece d.laid added).places d.laid, place.2 < piece.text.length →
        place ∈ piece.places c.laid := by
  obtain hd | ⟨hc, hd, hrecent, hadded⟩ := ha
  · have hlaid : d.laid = [] := if_pos hd
    rw [hlaid]
    exact ⟨.inl hd, fun _ hplace => absurd hplace List.not_mem_nil⟩
  · obtain hoff | ⟨-, hpiece⟩ := h
    · rw [hc.colors] at hoff
      cases hoff
    · rw [hc.laid_eq, hd.laid_eq]
      refine ⟨.inr ⟨hd.self, hpiece.addPiece hd.leads hrecent hadded⟩, fun place hplace hlt => ?_⟩
      let before := ((piece.addPiece d.styles.active added).places d.styles.active).filter
        (·.2 < piece.text.length)
      have hmem : place ∈ before := List.mem_filter.mpr ⟨hplace, decide_eq_true hlt⟩
      have hbefore : before = [] ∨
          before = (piece.places c.styles.active).filter (·.2 < piece.text.length) :=
        hpiece.places_before hd.leads hrecent
      obtain hnone | hbefore := hbefore
      · rw [hnone] at hmem
        cases hmem
      · exact (List.mem_filter.mp (hbefore ▸ hmem)).1

/-- A character is added under the styles that are open. -/
theorem adds (h : piece.Follows base c) (hids : ¬ c.Wrapped base) (x : Char) :
    Adds base c { text := .plain [x] } c :=
  h.imp_right fun h => ⟨h.1, h.1, h.1.recent (h.1.count_le hids), begun_of_starts_eq_nil rfl ..⟩

theorem add (h : piece.Follows base c) (hids : ¬ c.Wrapped base) (x : Char) :
    (piece.add c.laid [x]).Follows base c ∧
      ∀ place ∈ (piece.add c.laid [x]).places c.laid, place.2 < piece.text.length →
        place ∈ piece.places c.laid := by
  rw [add_eq_addPiece]
  exact h.addPiece (h.adds hids x)

/-- A text that is begun follows the styles that are open. -/
theorem empty (h : c.styles.Numbered) : ({} : Piece).Follows c.styles.oldest c := by
  unfold Piece.Follows
  cases hcolors : c.config.disableColors with
  | true => exact .inl rfl
  | false => exact .inr ⟨⟨hcolors, .refl _, h, h.since_oldest⟩, laid_empty ..⟩

end Piece.Follows

section

variable [Provider σ] {nested : Info.Nested σ} {name : String} {evaluate : Bool}
  {draft result : Draft} {c d : Context σ}

/-- The end of a body is at most reported. -/
theorem eq_of_yields_done {ending : Ending}
    (h : (evalBody nested name evaluate draft (.done ending)).Yields c result d) :
    result = draft ∧ c.laid = d.laid := by
  cases ending with
  | unclosed delimiter =>
    simp only [evalBody, Eval.yields_bind, Eval.yields_report, Eval.yields_pure] at h
    obtain ⟨_, _, rfl, rfl, rfl⟩ := h
    exact ⟨rfl, rfl⟩
  | closed | interrupted =>
    obtain ⟨rfl, rfl⟩ := Eval.yields_pure.mp h
    exact ⟨rfl, rfl⟩

theorem yields_char_iff : (evalBody nested name evaluate draft (.char x rest)).Yields c result d ↔
    (evalBody nested name evaluate (draft.edited (draft.add c.laid [x]) (.keep 1)) rest).Yields c
      result d := by
  have hopen : openStyles.Yields c c.laid c := rfl
  rw [evalBody, hopen.bind_iff]

theorem yields_escaped_iff :
    (evalBody nested name evaluate draft (.escaped x rest)).Yields c result d ↔
      (evalBody nested name evaluate (draft.edited (draft.add c.laid [x]) (.replace 2 [x]))
        rest).Yields c result d := by
  have hopen : openStyles.Yields c c.laid c := rfl
  rw [evalBody, hopen.bind_iff]

theorem yields_backslash_iff :
    (evalBody nested name evaluate draft (.backslash rest)).Yields c result d ↔
      (evalBody nested name evaluate (draft.edited (draft.add c.laid ['\\']) (.keep 1)) rest).Yields
        c result d := by
  have hopen : openStyles.Yields c c.laid c := rfl
  rw [evalBody, hopen.bind_iff]

theorem yields_tag_iff :
    (evalBody nested name evaluate draft (.tag tag length rest)).Yields c result d ↔
      ∃ added c', (evalTag nested name evaluate tag).Yields c added c' ∧
        (evalBody nested name evaluate (draft.edited (draft.addPiece c'.laid added)
          (.replace length added.text.text)) rest).Yields c' result d := by
  rw [evalBody, Eval.yields_bind]
  refine exists_congr fun added => exists_congr fun c' => and_congr_right fun _ => ?_
  have hopen : openStyles.Yields c' c'.laid c' := rfl
  rw [hopen.bind_iff]

/-- A whole template is its tree, and at the end its styles are closed. -/
theorem yields_evalWhole_iff : (evalWhole nested template).Yields c parsed d ↔
    ∃ (draft : Draft) (c' : Context σ),
      (evalBody nested (String.ofList template) true {} (.read template)).Yields c draft c' ∧
      parsed = ⟨draft.text, draft.plain template⟩ ∧
      d = { c' with styles := c'.styles.cleared } := by
  rw [evalWhole, Eval.yields_bind]
  refine exists_congr fun draft => exists_congr fun c' => and_congr_right fun _ => ?_
  have hclear (c : Context σ) : (modify fun context => { context with
      styles := context.styles.cleared } : Eval σ PUnit).Yields c ()
      { c with styles := c.styles.cleared } := rfl
  rw [(hclear c').bind_iff, Eval.yields_pure]

/-- A template that can be evaluated says what it is seen to say. -/
theorem exists_parsed (template : String) (c : Context σ) (text : List Char)
    (h : ((parseLine template).outcome c).1.toOption.any (·.rich.text = text) = true) :
    ∃ parsed, (parseLine template).Yields c parsed ((parseLine template).outcome c).2 ∧
      parsed.rich.text = text := by
  obtain ⟨parsed, d, hyields, htext⟩ := Eval.exists_yields (Q := fun parsed _ =>
    parsed.rich.text = text) h fun _ _ _ hp => of_decide_eq_true hp
  obtain rfl : ((parseLine template).outcome c).2 = d := congrArg (·.2) hyields
  exact ⟨parsed, hyields, htext⟩

/-- The text of a body has the values in it that come in its tags. -/
theorem text_of_valueAt {index : Nat} {tag : Tag} {value : RichText} {body : Body}
    (hvalue : ValueAt nested name evaluate draft body c index tag value)
    (h : (evalBody nested name evaluate draft body).Yields c result d) :
    ∃ before after, before.length = index ∧
      result.text.text = before ++ value.text ++ after := by
  have hextended {tag : Tag} {length : Nat} {rest : Body} {draft result : Draft} {c d : Context σ}
      {evaluate : Bool}
      (h : (evalBody nested name evaluate draft (.tag tag length rest)).Yields c result d) :
      ∃ added c' after, (evalTag nested name evaluate tag).Yields c added c' ∧
        result.text.text = draft.text.text ++ added.text.text ++ after := by
    obtain ⟨added, c', htag, h⟩ := yields_tag_iff.mp h
    obtain ⟨after, -, htext⟩ := maySay_of_evalBody rest h
    refine ⟨added, c', after, htag, htext.trans ?_⟩
    simp only [Draft.edited, Piece.text_addPiece]
  induction hvalue generalizing result d with
  | @value _ _ _ _ draft length rest hvalue =>
    obtain ⟨added, c', after, htag, htext⟩ := hextended h
    obtain ⟨rfl, rfl⟩ := hvalue.yields.unique htag
    exact ⟨draft.text.text, after, draft.text.length_eq.symm, htext⟩
  | @inTag _ _ _ _ _ _ _ _ _ draft length rest hs _ ih =>
    obtain ⟨added, c', after, htag, htext⟩ := hextended h
    obtain ⟨part, d', hpart, rfl, -⟩ := hs.yields htag
    obtain ⟨before, after', rfl, hpart⟩ := ih hpart
    refine ⟨draft.text.text ++ before, after' ++ after, ?_, ?_⟩
    · rw [List.length_append, draft.text.length_eq]
    · rw [htext, hpart]
      simp only [List.append_assoc]
  | afterChar x _ ih => exact ih (yields_char_iff.mp h)
  | afterEscaped x _ ih => exact ih (yields_escaped_iff.mp h)
  | afterBackslash _ ih => exact ih (yields_backslash_iff.mp h)
  | afterTag length htag _ ih =>
    obtain ⟨added, c', htag', h⟩ := yields_tag_iff.mp h
    obtain ⟨rfl, rfl⟩ := htag.unique htag'
    exact ih h

theorem Piece.length_add (piece : Piece) (styles : List OpenStyle) (text : List Char) :
    (piece.add styles text).text.length = piece.text.length + text.length := by
  rw [add_eq_addPiece, length_addPiece]
  rfl

/-- The part that stands for a tag was read as a body. -/
theorem Standing.exists_reads
    (hs : Standing nested name evaluate c tag evaluate' body d) (hr : ReadsTag cs tag unread) :
    ∃ delimiter cutOff cs' left', ReadsBody delimiter cutOff cs' body left' := by
  cases hs with
  | info | color =>
    cases hr
    exact ⟨_, _, _, _, ‹_›⟩
  | numerator =>
    cases hr with
    | percentage h _ => exact ⟨_, _, _, _, h⟩
  | denominator =>
    cases hr with
    | percentage _ h => exact ⟨_, _, _, _, h⟩
  | left =>
    cases hr with
    | conditional h _ _ _ => exact ⟨_, _, _, _, h⟩
  | right =>
    cases hr with
    | conditional _ h _ _ => exact ⟨_, _, _, _, h⟩
  | whenEqual =>
    cases hr with
    | conditional _ _ h _ => exact ⟨_, _, _, _, h⟩
  | whenDifferent =>
    cases hr with
    | conditional _ _ _ h => exact ⟨_, _, _, _, h⟩

/-- Each character that a body adds was read as itself, or belongs to a value. -/
theorem readAt_or_valueAt {evaluate : Bool} {draft result : Draft} {c d : Context σ} {index : Nat}
    {body : Body} (hr : ReadsBody delimiter cutOff cs body left)
    (h : (evalBody nested name evaluate draft body).Yields c result d)
    (hindex : draft.text.length ≤ index) (hlt : index < result.text.length) :
    (∃ x before e, ReadAt nested name evaluate draft body c index x before e) ∨
      ∃ first tag value, ValueAt nested name evaluate draft body c first tag value ∧
        first ≤ index ∧ index < first + value.length := by
  match body with
  | .done _ =>
    obtain ⟨rfl, -⟩ := eq_of_yields_done h
    exact absurd hlt (Nat.not_lt.mpr hindex)
  | .backslash rest =>
    cases hr
    obtain ⟨rfl, -⟩ := eq_of_yields_done (yields_backslash_iff.mp h)
    have hlength : _ = draft.text.length + 1 := Piece.length_add draft.toPiece c.laid ['\\']
    obtain rfl := Nat.le_antisymm hindex (Nat.le_of_lt_succ (Nat.lt_of_lt_of_eq hlt hlength))
    exact .inl ⟨_, _, _, .backslash _⟩
  | .char x rest =>
    cases hr with | char _ _ _ hrest =>
    have hlength := Piece.length_add draft.toPiece c.laid
    obtain rfl | hindex := Nat.eq_or_lt_of_le hindex
    · exact .inl ⟨_, _, _, .char _ _⟩
    · refine (readAt_or_valueAt hrest (yields_char_iff.mp h) ?_ hlt).imp ?_ ?_
      · exact hlength _ ▸ hindex
      · exact fun ⟨_, _, _, hread⟩ => ⟨_, _, _, .afterChar _ hread⟩
      · exact fun ⟨_, _, _, hvalue, hbounds⟩ => ⟨_, _, _, .afterChar _ hvalue, hbounds⟩
  | .escaped x rest =>
    cases hr with | escaped _ hrest =>
    have hlength := Piece.length_add draft.toPiece c.laid
    obtain rfl | hindex := Nat.eq_or_lt_of_le hindex
    · exact .inl ⟨_, _, _, .escaped _ _⟩
    · refine (readAt_or_valueAt hrest (yields_escaped_iff.mp h) ?_ hlt).imp ?_ ?_
      · exact hlength _ ▸ hindex
      · exact fun ⟨_, _, _, hread⟩ => ⟨_, _, _, .afterEscaped _ hread⟩
      · exact fun ⟨_, _, _, hvalue, hbounds⟩ => ⟨_, _, _, .afterEscaped _ hvalue, hbounds⟩
  | .tag tag length rest =>
    cases hr with | tag _ ht hrest =>
    obtain ⟨added, c', htag, h⟩ := yields_tag_iff.mp h
    have hlength := Piece.length_addPiece draft.toPiece c'.laid added
    by_cases hinside : index < draft.text.length + added.text.length
    · obtain ⟨offset, rfl⟩ := Nat.exists_eq_add_of_le hindex
      have hoffset : offset < added.text.length := Nat.lt_of_add_lt_add_left hinside
      obtain ⟨rfl, value, hvalue, rfl⟩ | rfl | ⟨_, part, _, hs⟩ := valued_or_standing htag
      · exact .inr ⟨_, _, _, .value _ _ hvalue, hindex, hinside⟩
      · exact absurd hoffset (Nat.not_lt_zero _)
      · obtain ⟨result', d', hpart, rfl, -⟩ := hs.yields htag
        obtain ⟨_, _, _, _, hreads⟩ := hs.exists_reads ht
        have hshort := hs.sizeOf_lt
        refine (readAt_or_valueAt hreads hpart (Nat.zero_le _) hoffset).imp ?_ ?_
        · exact fun ⟨_, _, _, hread⟩ => ⟨_, _, _, .inTag _ _ hs hread⟩
        · rintro ⟨first, _, _, hvalue, hfirst, hlast⟩
          refine ⟨_, _, _, .inTag _ _ hs hvalue, Nat.add_le_add_left hfirst _, ?_⟩
          rw [Nat.add_assoc]
          exact Nat.add_lt_add_left hlast _
    · refine (readAt_or_valueAt hrest h ?_ hlt).imp ?_ ?_
      · exact hlength ▸ Nat.not_lt.mp hinside
      · exact fun ⟨_, _, _, hread⟩ => ⟨_, _, _, .afterTag _ htag hread⟩
      · exact fun ⟨_, _, _, hvalue, hbounds⟩ => ⟨_, _, _, .afterTag _ htag hvalue, hbounds⟩
termination_by sizeOf body
decreasing_by
  all_goals simp only [Body.char.sizeOf_spec, Body.escaped.sizeOf_spec, Body.tag.sizeOf_spec]
  all_goals omega

end

section

variable [Provider σ] {base depth : Nat} {name : String} {evaluate : Bool}
  {draft result : Draft} {c d : Context σ} {index : Nat} {value : RichText}

theorem config_evalBody {body : Body}
    (h : (evalBody (evalNested depth) name evaluate draft body).Yields c result d) :
    d.config = c.config :=
  ((reading_evalBody c.config c.parsingLayout depth name evaluate draft body).of_yields h
    ⟨rfl, rfl⟩).config

theorem config_evalTag {tag : Tag}
    (h : (evalTag (evalNested depth) name evaluate tag).Yields c added d) : d.config = c.config :=
  ((reading_evalTag c.config c.parsingLayout depth name evaluate tag).of_yields h
    ⟨rfl, rfl⟩).config

theorem Standing.config_eq
    (hs : Standing (evalNested depth) name evaluate c tag evaluate' body d) :
    d.config = c.config := by
  have hcompared {left right : Body} {equal : Bool} {d : Context σ}
      (h : Compared (evalNested depth) name evaluate c left right equal d) :
      d.config = c.config := by
    obtain ⟨first, second, c', hfirst, -, hsecond, -, -⟩ := h
    rw [config_evalBody hsecond, config_evalBody hfirst]
  cases hs with
  | info | color | numerator | left => rfl
  | denominator h | right h => exact config_evalBody h
  | whenEqual h => exact hcompared h
  | whenDifferent h h' => rw [config_evalBody h', hcompared h]

/-- Ids that have come again at the start of a body have done so at its end. -/
theorem not_wrapped_of_yields {body : Body}
    (h : (evalBody (evalNested depth) name evaluate draft body).Yields c result d)
    (hids : ¬ d.Wrapped base) : ¬ c.Wrapped base :=
  fun hwrapped => hids ((wrapped_evalBody base depth name evaluate draft body).of_yields h hwrapped)

namespace Piece.Follows

variable {piece : Piece} (h : piece.Follows base c)

include h

theorem adds_tag (htag : (evalTag (evalNested depth) name evaluate tag).Yields c added d)
    (hids : ¬ d.Wrapped base) : Adds base c added d := by
  refine h.imp (fun h => by rwa [config_evalTag htag]) fun ⟨hc, _⟩ => ?_
  have hd := after_evalTag (after_evalNested base depth) hc htag
  have hrecent := hd.recent (hd.count_le hids)
  refine ⟨hc, hd, hrecent, ?_⟩
  exact begun_of_parts (after_evalNested base depth) (fun {_ body _ _ _} _ hc' hpart hlast =>
    (laid_evalBody (after_evalNested base depth) body hc' (laid_empty ..) hpart hlast).1.toBegun)
    hc htag hrecent.count_le

/-- The part that stands for a tag is followed from an empty text. -/
theorem standing (hs : Standing (evalNested depth) name evaluate c tag evaluate' body d) :
    ({} : Piece).Follows base d :=
  h.imp (fun h => by rwa [hs.config_eq]) fun ⟨hc, _⟩ =>
    ⟨(hs.after (after_evalNested base depth) hc).self, laid_empty ..⟩

end Piece.Follows

/-- Following a body adds to the text, and a value that is in it keeps its ranges. -/
theorem carries_evalBody {draft result : Draft} {c d : Context σ} (body : Body)
    (hd : draft.toPiece.Follows base c) (hvalue : draft.toPiece.Carries c.laid index value)
    (h : (evalBody (evalNested depth) name evaluate draft body).Yields c result d)
    (hids : ¬ d.Wrapped base) : result.toPiece.Carries d.laid index value := by
  have hbefore := not_wrapped_of_yields h hids
  match body with
  | .done ending =>
    obtain ⟨rfl, hlaid⟩ := eq_of_yields_done h
    exact hlaid ▸ hvalue
  | .char x rest =>
    obtain ⟨hd', hplaces⟩ := hd.add hbefore x
    exact carries_evalBody rest hd' (hvalue.kept_add hplaces) (yields_char_iff.mp h) hids
  | .escaped x rest =>
    obtain ⟨hd', hplaces⟩ := hd.add hbefore x
    exact carries_evalBody rest hd' (hvalue.kept_add hplaces) (yields_escaped_iff.mp h) hids
  | .backslash rest =>
    obtain ⟨hd', hplaces⟩ := hd.add hbefore '\\'
    exact carries_evalBody rest hd' (hvalue.kept_add hplaces) (yields_backslash_iff.mp h) hids
  | .tag tag length rest =>
    obtain ⟨added, c', htag, h⟩ := yields_tag_iff.mp h
    obtain ⟨hd', hplaces⟩ := hd.addPiece (hd.adds_tag htag (not_wrapped_of_yields h hids))
    exact carries_evalBody rest hd' (hvalue.kept hplaces) h hids

/-- The text of a body carries the values that come in its tags. -/
theorem carries_of_valueAt {body : Body}
    (hvalue : ValueAt (evalNested depth) name evaluate draft body c index tag value)
    (hd : draft.toPiece.Follows base c)
    (h : (evalBody (evalNested depth) name evaluate draft body).Yields c result d)
    (hids : ¬ d.Wrapped base) : result.toPiece.Carries d.laid index value := by
  induction hvalue generalizing result d with
  | value length rest hvalue =>
    obtain ⟨added, c', htag, h⟩ := yields_tag_iff.mp h
    obtain ⟨rfl, rfl⟩ := hvalue.yields.unique htag
    obtain ⟨hd', -⟩ := hd.addPiece (hd.adds_tag htag (not_wrapped_of_yields h hids))
    exact carries_evalBody rest hd' (.of_added ..) h hids
  | inTag length rest hs _ ih =>
    obtain ⟨added, c', htag, h⟩ := yields_tag_iff.mp h
    have hids' := not_wrapped_of_yields h hids
    obtain ⟨part, d', hpart, rfl, hstyles⟩ := hs.yields htag
    obtain ⟨hd', -⟩ := hd.addPiece (hd.adds_tag htag hids')
    refine carries_evalBody rest hd' ((ih (hd.standing hs) hpart ?_).addPiece ..) h hids
    unfold Context.Wrapped at hids' ⊢
    rwa [config_evalBody hpart, hs.config_eq, ← config_evalTag htag, ← hstyles]
  | afterChar x _ ih =>
    have h := yields_char_iff.mp h
    exact ih (hd.add (not_wrapped_of_yields h hids) x).1 h hids
  | afterEscaped x _ ih =>
    have h := yields_escaped_iff.mp h
    exact ih (hd.add (not_wrapped_of_yields h hids) x).1 h hids
  | afterBackslash _ ih =>
    have h := yields_backslash_iff.mp h
    exact ih (hd.add (not_wrapped_of_yields h hids) _).1 h hids
  | afterTag length htag _ ih =>
    obtain ⟨added, c', htag', h⟩ := yields_tag_iff.mp h
    obtain ⟨rfl, rfl⟩ := htag.unique htag'
    exact ih (hd.addPiece (hd.adds_tag htag (not_wrapped_of_yields h hids))).1 h hids

/-- A value keeps its style, in a template at any depth and under any open styles. Its ranges are
as they were laid, and end with it at the latest. What is below them does not show where the value
sets a color, and what is on top begins after the value. The openings are numbered in turn, as they
are in all states that can be reached (`OpenStyles.reached_iff`, `numbered_parseLine`), and from the
oldest of the open styles to the end of the template there are not more of them than ids. -/
theorem keeps_style_of_valueAt {template : List Char} {parsed : Parsed}
    (h : (evalWhole (evalNested depth) template).Yields c parsed d)
    (hvalue : ValueAt (evalNested depth) (String.ofList template) true {} (.read template) c index
      tag value) :
    (∃ before after, before.length = index ∧
      parsed.rich.text = before ++ value.text ++ after) ∧
    (c.styles.Numbered → ¬ d.Wrapped c.styles.oldest →
      (∃ below own above, parsed.rich.ranges = below ++ own ++ above ∧
        own = value.layered index (index + value.length) ∧
        (∀ range ∈ own, index ≤ range.start ∧ range.stop ≤ index + value.length) ∧
        ∀ range ∈ above, index + value.length ≤ range.start) ∧
      ∀ offset < value.length,
        (parsed.rich.styleAt (index + offset)).Includes (value.styleAt offset)) := by
  obtain ⟨draft, c', hbody, rfl, rfl⟩ := yields_evalWhole_iff.mp h
  refine ⟨text_of_valueAt hvalue hbody, fun hstyles hids => ?_⟩
  obtain ⟨-, below, above, hranges, habove, -⟩ :=
    carries_of_valueAt hvalue (.empty hstyles) hbody hids
  refine ⟨⟨below, _, above, hranges, rfl, fun range hrange => ?_, habove⟩, fun offset hoffset => ?_⟩
  · obtain ⟨hstart, -, hstop⟩ := RichText.mem_layered hrange
    exact ⟨hstart, hstop⟩
  · have hlater : Ranges.spansAt above (index + offset) = [] := by
      refine Ranges.spansAt_eq_nil fun range hrange => ?_
      have hstart := habove range hrange
      rw [Bool.eq_false_iff, Ne, StyledRange.covers_iff]
      omega
    change (Style.plain.applyAll (Ranges.spansAt draft.text.ranges _)).Includes
      (Style.plain.applyAll (Ranges.spansAt value.ranges offset))
    rw [hranges, Ranges.spansAt_append, hlater, List.append_nil, Ranges.spansAt_append,
      RichText.spansAt_layered value (Nat.add_lt_add_left hoffset index)]
    exact Style.includes_applyAll_append _ _

end

/-- Colored symbols in the branch of a condition, under a color from before it. -/
theorem keeps_style_of_valueAt_branch :
    let c : Context Snapshot := { config := {}, provider := {} }
    let template := "$\x7b#00ff00\x7da$[1,1,$<colors_symbol(#)>,]b".toList
    ∃ parsed d tag value, c.styles.Numbered ∧
      (evalWhole (evalNested maxDepth) template).Yields c parsed d ∧
      ¬ d.Wrapped c.styles.oldest ∧
      ValueAt (evalNested maxDepth) (String.ofList template) true {} (.read template) c 1 tag
        value ∧
      value.styleAt 4 = { fg := some ⟨255, 0, 0⟩ } ∧
      (parsed.rich.styleAt 5).fg = some ⟨255, 0, 0⟩ ∧
      (parsed.rich.styleAt 0).fg = some ⟨0, 255, 0⟩ := by
  intro c template
  let green : Span := .foreground ⟨0, 255, 0⟩
  let c₁ := c.colored "#00ff00" (some ⟨"#00ff00", .apply [green]⟩)
  let name := String.ofList template
  let symbols : Tag := .info (.ofChars "colors_symbol(#)".toList)
  have hgreen : (evalTag (evalNested maxDepth) name true
      (.color (.ofChars "#00ff00".toList))).Yields c {} c₁ :=
    yields_colorTag _ _ rfl (by decide +kernel)
  have hcompared :
      Compared (evalNested maxDepth) name true c₁ (.ofChars ['1']) (.ofChars ['1']) true c₁ := by
    obtain ⟨first, hfirst, -⟩ := yields_ofChars (evalNested maxDepth) name true {} ['1'] c₁
    exact ⟨first, first, c₁, hfirst, rfl, hfirst, rfl, (decide_eq_true rfl).symm⟩
  obtain ⟨value, d', hsymbols, hlength, hred⟩ := Eval.exists_yields
    (x := Info.resolve (evalNested maxDepth) "colors_symbol(#)".toList) (c := c₁)
    (p := fun value =>
      value.toRich.length = 24 && value.toRich.styleAt 4 = { fg := some ⟨255, 0, 0⟩ })
    (Q := fun value _ =>
      value.toRich.length = 24 ∧ value.toRich.styleAt 4 = { fg := some ⟨255, 0, 0⟩ })
    (by decide +kernel) fun _ _ _ hp => by simpa using hp
  let tree : Body := .tag (.color (.ofChars "#00ff00".toList)) 10 (.char 'a'
    (.tag (.conditional (.ofChars ['1']) (.ofChars ['1'])
      (.tag symbols 19 (.done .closed)) (.done .closed)) 27 (.char 'b' (.done .closed))))
  have htree : Body.read template = tree := by with_unfolding_all rfl
  have hvalue : ValueAt (evalNested maxDepth) name true {} tree c _ symbols value.toRich :=
    .afterTag 10 hgreen (.afterChar 'a' (.inTag 27 _ (.whenEqual hcompared (.inr ⟨rfl, rfl⟩))
      (.value 19 (.done .closed) (valued_ofChars hsymbols))))
  rw [← htree] at hvalue
  obtain ⟨parsed, d, h, hfirst⟩ := Eval.exists_yields
    (x := evalWhole (evalNested maxDepth) template) (c := c)
    (p := (·.rich.styleAt 0 = { fg := some ⟨0, 255, 0⟩ }))
    (Q := fun parsed _ => parsed.rich.styleAt 0 = { fg := some ⟨0, 255, 0⟩ }) (by decide +kernel)
    fun _ _ _ hp => of_decide_eq_true hp
  have hnumbered : c.styles.Numbered := ⟨.nil, nofun⟩
  have hids : ¬ ((evalWhole (evalNested maxDepth) template).outcome c).2.Wrapped
      c.styles.oldest := by decide +kernel
  rw [h] at hids
  obtain ⟨-, hkept⟩ := keeps_style_of_valueAt h hvalue
  have hstyle := (hkept hnumbered hids).2
  have hshown := (hstyle 4 (hlength ▸ by decide)).color .foreground ⟨255, 0, 0⟩ (by rw [hred]; rfl)
  exact ⟨parsed, d, symbols, value.toRich, hnumbered, h, hids, hvalue, hred, hshown, by rw [hfirst]⟩

/-- Red was opened, and after it so many styles that the color behind the percentage has the id of
red. It is laid from where red began, over the percentage. -/
theorem not_includes_of_wrapped :
    let red : Span := .foreground ⟨255, 0, 0⟩
    let styles : OpenStyles := Nat.repeat (fun styles => (styles.opened red).closed red)
      (OpenStyle.idLimit - 3) (({} : OpenStyles).opened red)
    let facts : Facts := { ram := { used := 1, total := 2 } }
    let c : Context Snapshot := { config := {}, provider := { facts }, styles }
    let template := "$<ram.used_perc>$\x7b#00ff00\x7db".toList
    ∃ parsed d tag value, c.styles.Numbered ∧
      (evalWhole (evalNested maxDepth) template).Yields c parsed d ∧
      ValueAt (evalNested maxDepth) (String.ofList template) true {} (.read template) c 0 tag
        value ∧
      d.Wrapped c.styles.oldest ∧ 0 < value.length ∧
      (value.styleAt 0).fg = some ⟨255, 255, 0⟩ ∧
      (parsed.rich.styleAt 0).fg = some ⟨0, 255, 0⟩ ∧
      ¬ (parsed.rich.styleAt 0).Includes (value.styleAt 0) := by
  intro red styles facts c template
  have hstyles : styles = { active := [⟨0, red⟩], count := 1 + (OpenStyle.idLimit - 3) } :=
    OpenStyles.repeat_closed_opened_first red _
  clear_value styles
  subst hstyles
  have hnumbered : c.styles.Numbered :=
    ⟨List.pairwise_singleton .., List.forall_mem_singleton.mpr (by decide)⟩
  let percentage : Tag := .info (.ofChars "ram.used_perc".toList)
  have htree : Body.read template = .tag percentage 16
      (.tag (.color (.ofChars "#00ff00".toList)) 10 (.char 'b' (.done .closed))) := by
    with_unfolding_all rfl
  obtain ⟨value, d', hpercentage, hlength, hyellow⟩ := Eval.exists_yields
    (x := Info.resolve (evalNested maxDepth) "ram.used_perc".toList) (c := c)
    (p := fun value =>
      0 < value.toRich.length && (value.toRich.styleAt 0).fg = some ⟨255, 255, 0⟩)
    (Q := fun value _ =>
      0 < value.toRich.length ∧ (value.toRich.styleAt 0).fg = some ⟨255, 255, 0⟩)
    (by decide +kernel) fun _ _ _ hp => by simpa using hp
  have hvalue : ValueAt (evalNested maxDepth) (String.ofList template) true {} (.read template) c 0
      percentage value.toRich := by
    rw [htree]
    exact .value 16 _ (valued_ofChars hpercentage)
  obtain ⟨parsed, d, h, hgreen⟩ := Eval.exists_yields
    (x := evalWhole (evalNested maxDepth) template) (c := c)
    (p := fun parsed => (parsed.rich.styleAt 0).fg = some ⟨0, 255, 0⟩)
    (Q := fun parsed _ => (parsed.rich.styleAt 0).fg = some ⟨0, 255, 0⟩) (by decide +kernel)
    fun _ _ _ hp => of_decide_eq_true hp
  have hids : ((evalWhole (evalNested maxDepth) template).outcome c).2.Wrapped c.styles.oldest := by
    decide +kernel
  rw [h] at hids
  refine ⟨parsed, d, percentage, value.toRich, hnumbered, h, hvalue, hids, hlength, hyellow, hgreen,
    fun hincludes => ?_⟩
  have hshown := hincludes.color .foreground ⟨255, 255, 0⟩ hyellow
  rw [show (parsed.rich.styleAt 0).color? .foreground = some ⟨0, 255, 0⟩ from hgreen] at hshown
  cases hshown

end Template

end Placard
