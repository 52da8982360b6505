import Mathlib.Data.List.Chain
import Placard.RichText

/-! # Runs

The runs of a styled text are its only cut into pieces of one style that are not empty and of which
no two neighbours have the same style (`RichText.decomposes_iff`). They are found in one pass from
the left, which completes a run when the style changes and the last one at the end
(`RichText.scanned_eq_runs`). -/

namespace Placard.RichText

/-- The characters of a run, each with the style of the run. -/
def cells : Style × List Char → List (Style × Char)
  | (style, text) => text.map (style, ·)

variable {cs : List (Style × Char)} {runs : List (Style × List Char)}

/-! ## Grouping -/

/-- A character goes to the run behind it, or is a run of its own in front of the others. -/
theorem group_cons_cases (style : Style) (c : Char) (cs : List (Style × Char)) :
    (∃ text runs, group cs = (style, text) :: runs ∧
      group ((style, c) :: cs) = (style, c :: text) :: runs) ∨
    (∀ run ∈ (group cs).head?, style ≠ run.1) ∧
      group ((style, c) :: cs) = (style, [c]) :: group cs := by
  rw [group]
  cases group cs with
  | nil => exact .inr ⟨nofun, rfl⟩
  | cons run runs =>
    obtain ⟨next, text⟩ := run
    by_cases h : style = next
    · subst h
      exact .inl ⟨text, runs, rfl, if_pos rfl⟩
    · refine .inr ⟨fun run hrun => ?_, if_neg h⟩
      cases hrun
      exact h

/-- Nothing is lost, and each character keeps its style. -/
theorem cells_group (cs : List (Style × Char)) : (group cs).flatMap cells = cs := by
  induction cs with
  | nil => rfl
  | cons first rest ih =>
    obtain ⟨style, c⟩ := first
    obtain ⟨text, runs, hrest, hgroup⟩ | ⟨-, hgroup⟩ := group_cons_cases style c rest
    · rw [hrest] at ih
      rw [hgroup, ← ih]
      rfl
    · rw [hgroup, List.flatMap_cons, ih]
      rfl

theorem ne_nil_of_mem_group {run : Style × List Char} (h : run ∈ group cs) : run.2 ≠ [] := by
  induction cs with
  | nil => cases h
  | cons first rest ih =>
    obtain ⟨style, c⟩ := first
    obtain ⟨text, runs, hrest, hgroup⟩ | ⟨-, hgroup⟩ := group_cons_cases style c rest
    · rw [hgroup] at h
      obtain rfl | hmem := List.mem_cons.mp h
      · exact List.cons_ne_nil c text
      · exact ih (hrest ▸ List.mem_cons_of_mem _ hmem)
    · rw [hgroup] at h
      obtain rfl | hmem := List.mem_cons.mp h
      · exact List.cons_ne_nil c []
      · exact ih hmem

/-- Neighbours have different styles. -/
theorem isChain_group (cs : List (Style × Char)) :
    (group cs).IsChain fun run next => run.1 ≠ next.1 := by
  induction cs with
  | nil => exact .nil
  | cons first rest ih =>
    obtain ⟨style, c⟩ := first
    obtain ⟨text, runs, hrest, hgroup⟩ | ⟨hhead, hgroup⟩ := group_cons_cases style c rest
    · rw [hrest] at ih
      rw [hgroup]
      exact List.isChain_cons.mpr (List.isChain_cons.mp ih)
    · rw [hgroup]
      exact List.isChain_cons.mpr ⟨hhead, ih⟩

/-- A run before others of another style stays a run. -/
theorem group_cells_append {style : Style} {text : List Char} (htext : text ≠ [])
    (h : ∀ run ∈ (group cs).head?, style ≠ run.1) :
    group (cells (style, text) ++ cs) = (style, text) :: group cs := by
  induction text with
  | nil => exact absurd rfl htext
  | cons c text ih =>
    change group ((style, c) :: (cells (style, text) ++ cs)) = _
    obtain ⟨text', runs, hrest, hgroup⟩ | ⟨hhead, hgroup⟩ :=
      group_cons_cases style c (cells (style, text) ++ cs)
    · cases text with
      | nil =>
        change group cs = _ at hrest
        rw [hrest] at h
        exact absurd rfl (h (style, text') rfl)
      | cons d text =>
        rw [ih (List.cons_ne_nil d text)] at hrest
        cases hrest
        exact hgroup
    · cases text with
      | nil => exact hgroup
      | cons d text =>
        rw [ih (List.cons_ne_nil d text)] at hhead
        exact absurd rfl (hhead (style, d :: text) rfl)

/-- Runs that are not empty and differ from their neighbours are found again. -/
theorem group_cells (hne : ∀ run ∈ runs, run.2 ≠ [])
    (hchain : runs.IsChain fun run next => run.1 ≠ next.1) : group (runs.flatMap cells) = runs := by
  induction runs with
  | nil => rfl
  | cons run runs ih =>
    obtain ⟨style, text⟩ := run
    have hrest := ih (fun run hrun => hne run (List.mem_cons_of_mem _ hrun)) hchain.tail
    have hhead : ∀ next ∈ (group (runs.flatMap cells)).head?, style ≠ next.1 := by
      rw [hrest]
      exact (List.isChain_cons.mp hchain).1
    rw [List.flatMap_cons, group_cells_append (hne _ List.mem_cons_self) hhead, hrest]

/-! ## Positions -/

/-- A run has one style from the place on where it begins. -/
theorem map_eq_zipIdx_iff (styleAt : Nat → Style) (start : Nat) (style : Style) (text : List Char) :
    text.map (style, ·) = (text.zipIdx start).map (fun (c, index) => (styleAt index, c)) ↔
      ∀ index < text.length, styleAt (start + index) = style := by
  induction text generalizing start with
  | nil => simp
  | cons c text ih =>
    rw [List.map_cons, List.zipIdx_cons, List.map_cons, List.cons.injEq, ih, Prod.mk.injEq]
    constructor
    · rintro ⟨⟨hc, -⟩, hrest⟩ index hindex
      cases index with
      | zero => exact hc.symm
      | succ index =>
        rw [← Nat.add_assoc, Nat.add_right_comm]
        exact hrest index (Nat.lt_of_succ_lt_succ hindex)
    · intro h
      refine ⟨⟨(h 0 (Nat.succ_pos _)).symm, rfl⟩, fun index hindex => ?_⟩
      rw [Nat.add_right_comm, Nat.add_assoc]
      exact h (index + 1) (Nat.succ_lt_succ hindex)

/-- Runs are of the styles that the places of their characters have. -/
theorem cells_eq_zipIdx_iff (styleAt : Nat → Style) (start : Nat)
    (runs : List (Style × List Char)) :
    runs.flatMap cells =
        ((runs.flatMap (·.2)).zipIdx start).map (fun (c, index) => (styleAt index, c)) ↔
      ∀ before style text after, runs = before ++ (style, text) :: after →
        ∀ index < text.length, styleAt (start + (before.flatMap (·.2)).length + index) = style := by
  induction runs generalizing start with
  | nil =>
    refine iff_of_true rfl fun before style text after h => ?_
    exact absurd h (List.append_ne_nil_of_right_ne_nil _ (List.cons_ne_nil _ _)).symm
  | cons run runs ih =>
    obtain ⟨style, text⟩ := run
    have hlength : (cells (style, text)).length =
        ((text.zipIdx start).map fun (c, index) => (styleAt index, c)).length := by
      rw [cells, List.length_map, List.length_map, List.length_zipIdx]
    rw [List.flatMap_cons, List.flatMap_cons, List.zipIdx_append, List.map_append]
    constructor
    · intro h before style' text' after heq
      obtain ⟨hfirst, hrest⟩ := List.append_inj h hlength
      cases before with
      | nil =>
        cases heq
        exact (map_eq_zipIdx_iff styleAt start style text).mp hfirst
      | cons run before =>
        cases heq
        rw [List.flatMap_cons, List.length_append, ← Nat.add_assoc]
        exact (ih _).mp hrest before style' text' after rfl
    · intro h
      refine congrArg₂ (· ++ ·) ((map_eq_zipIdx_iff styleAt start style text).mpr ?_)
        ((ih _).mpr fun before style' text' after heq => ?_)
      · exact h [] style text runs rfl
      · have hrun := h ((style, text) :: before) style' text' after (heq ▸ rfl)
        rw [List.flatMap_cons, List.length_append, ← Nat.add_assoc] at hrun
        exact hrun

/-! ## The runs of a text -/

theorem cells_runs (r : RichText) : r.runs.flatMap cells = r.styled := cells_group _

theorem flatten_of_cells (runs : List (Style × List Char)) :
    (runs.flatMap cells).map (·.2) = runs.flatMap (·.2) := by
  rw [List.map_flatMap]
  refine congrArg (runs.flatMap ·) (funext fun run => ?_)
  rw [cells, List.map_map]
  exact List.map_id _

theorem map_snd_styled (r : RichText) : r.styled.map (·.2) = r.text := by
  rw [styled, List.map_map]
  exact List.zipIdx_map_fst 0 r.text

/-- A cut of the text into pieces with a style each. Nothing is lost and nothing is empty, each
character has the style of its piece, and no piece goes on in the next one. -/
structure Decomposes (r : RichText) (runs : List (Style × List Char)) : Prop where
  text_eq : runs.flatMap (·.2) = r.text
  ne_nil : ∀ run ∈ runs, run.2 ≠ []
  styleAt_eq : ∀ before style text after, runs = before ++ (style, text) :: after →
    ∀ index < text.length, r.styleAt ((before.flatMap (·.2)).length + index) = style
  isChain : runs.IsChain fun run next => run.1 ≠ next.1

theorem Decomposes.cells_eq {r : RichText} (h : r.Decomposes runs) :
    runs.flatMap cells = r.styled := by
  rw [styled, ← h.text_eq, cells_eq_zipIdx_iff]
  intro before style text after heq index hindex
  rw [Nat.zero_add]
  exact h.styleAt_eq before style text after heq index hindex

theorem decomposes_runs (r : RichText) : r.Decomposes r.runs where
  text_eq := by rw [← flatten_of_cells, cells_runs, map_snd_styled]
  ne_nil _ h := ne_nil_of_mem_group h
  styleAt_eq before style text after heq index hindex := by
    have hcells := cells_runs r
    rw [styled, ← map_snd_styled r, ← cells_runs, flatten_of_cells, cells_eq_zipIdx_iff] at hcells
    have hstyle := hcells before style text after heq index hindex
    rwa [Nat.zero_add] at hstyle
  isChain := isChain_group r.styled

/-! ## A single pass -/

/-- A pass over the text from the left: the runs that are complete, and of the next one the style
and the place where it begins. -/
structure Scan where
  complete : List (Style × List Char) := []
  style : Style := .plain
  start : Nat := 0

namespace Scan

/-- The first place begins a run, and so does each one with another style than the one before. -/
def step (r : RichText) (scan : Scan) (index : Nat) : Scan :=
  let style := r.styleAt index
  if index = 0 then { scan with style }
  else if style = scan.style then scan
  else
    { complete := scan.complete ++ [(scan.style, (r.text.take index).drop scan.start)]
      style, start := index }

/-- With the run that has begun, the pass has found the runs of the text so far. -/
structure Upto (r : RichText) (index : Nat) (scan : Scan) : Prop where
  start_lt : scan.start < index
  group_eq : group (r.styled.take index) =
    scan.complete ++ [(scan.style, (r.text.take index).drop scan.start)]

end Scan

/-- One more character goes on with the last run or begins a new one. -/
theorem group_concat (next : Style) (c : Char) {style : Style} {text : List Char}
    (h : group cs = runs ++ [(style, text)]) :
    group (cs ++ [(next, c)]) =
      if next = style then runs ++ [(style, text ++ [c])]
      else runs ++ [(style, text)] ++ [(next, [c])] := by
  have hne : ∀ run ∈ runs ++ [(style, text)], run.2 ≠ [] :=
    fun run hrun => ne_nil_of_mem_group (h ▸ hrun)
  have hchain := isChain_group cs
  rw [h] at hchain
  have hcells : cs = (runs ++ [(style, text)]).flatMap cells := by rw [← h, cells_group]
  split
  · next heq =>
    subst heq
    have hall : cs ++ [(next, c)] = (runs ++ [(next, text ++ [c])]).flatMap cells := by
      simp [hcells, cells]
    have hlonger : text ++ [c] ≠ [] :=
      List.append_ne_nil_of_right_ne_nil text (List.cons_ne_nil c [])
    obtain ⟨hruns, -, hlast⟩ := List.isChain_append.mp hchain
    rw [hall]
    refine group_cells (List.forall_mem_append.mpr ⟨(List.forall_mem_append.mp hne).1,
      List.forall_mem_singleton.mpr hlonger⟩) (List.isChain_append.mpr ⟨hruns, .singleton _, ?_⟩)
    intro run hrun last hmem
    cases hmem
    exact hlast run hrun (next, text) rfl
  · next hdiffers =>
    have hall : cs ++ [(next, c)] = (runs ++ [(style, text)] ++ [(next, [c])]).flatMap cells := by
      simp [hcells, cells]
    rw [hall]
    refine group_cells (List.forall_mem_append.mpr ⟨hne, List.forall_mem_singleton.mpr
      (List.cons_ne_nil c [])⟩) (List.isChain_append.mpr ⟨hchain, .singleton _, ?_⟩)
    intro run hrun last hmem
    rw [List.getLast?_concat] at hrun
    cases hrun
    cases hmem
    exact Ne.symm hdiffers

theorem take_styled {r : RichText} {index : Nat} (h : index < r.text.length) :
    r.styled.take (index + 1) = r.styled.take index ++ [(r.styleAt index, r.text[index])] := by
  have hlength : index < r.styled.length := by
    rwa [styled, List.length_map, List.length_zipIdx]
  rw [List.take_succ_eq_append_getElem hlength]
  simp [styled]

namespace Scan

variable {r : RichText} {index : Nat} {scan : Scan}

theorem upto_first (h : 0 < r.text.length) : (step r {} 0).Upto r 1 where
  start_lt := Nat.one_pos
  group_eq := by
    rw [take_styled h, List.take_succ_eq_append_getElem h]
    rfl

theorem Upto.step (hscan : scan.Upto r index) (h : index < r.text.length) :
    (step r scan index).Upto r (index + 1) := by
  have hindex : index ≠ 0 := Nat.ne_of_gt (Nat.zero_lt_of_lt hscan.start_lt)
  have hdrop (start : Nat) (hstart : start ≤ index) : (r.text.take (index + 1)).drop start =
      (r.text.take index).drop start ++ [r.text[index]] := by
    rw [List.take_succ_eq_append_getElem h, List.drop_append_of_le_length]
    rw [List.length_take, Nat.min_eq_left (Nat.le_of_lt h)]
    exact hstart
  have hgroup := group_concat (r.styleAt index) r.text[index] hscan.group_eq
  rw [← take_styled h] at hgroup
  unfold Scan.step
  rw [if_neg hindex]
  split
  · next heq =>
    rw [if_pos heq, ← hdrop _ (Nat.le_of_lt hscan.start_lt)] at hgroup
    exact ⟨Nat.lt_succ_of_lt hscan.start_lt, hgroup⟩
  · next hne =>
    refine ⟨Nat.lt_succ_self index, ?_⟩
    rw [if_neg hne] at hgroup
    rw [hgroup, hdrop index (Nat.le_refl index),
      List.drop_eq_nil_of_le (List.length_take_le index r.text)]
    rfl

theorem upto_foldl (h : index < r.text.length) :
    ((List.range (index + 1)).foldl (Scan.step r) {}).Upto r (index + 1) := by
  induction index with
  | zero => exact upto_first h
  | succ index ih =>
    rw [List.range_succ, List.foldl_append]
    exact (ih (Nat.lt_of_succ_lt h)).step h

end Scan

/-- The runs after a whole pass. -/
def scanned (r : RichText) : List (Style × List Char) :=
  let scan := (List.range r.length).foldl (Scan.step r) {}
  scan.complete ++
    if scan.start < r.length then [(scan.style, r.text.drop scan.start)] else []

theorem scanned_eq_runs (r : RichText) : r.scanned = r.runs := by
  unfold scanned runs
  rw [length_eq]
  cases hlength : r.text.length with
  | zero =>
    rw [styled, List.length_eq_zero_iff.mp hlength]
    rfl
  | succ index =>
    have hindex : index < r.text.length := hlength ▸ Nat.lt_succ_self index
    have hscan := Scan.upto_foldl hindex
    have hstyled : r.styled.take (index + 1) = r.styled := by
      rw [← hlength]
      exact List.take_of_length_le (by rw [styled, List.length_map, List.length_zipIdx])
    have htext : r.text.take (index + 1) = r.text := by rw [← hlength, List.take_length]
    have hgroup := hscan.group_eq
    rw [hstyled, htext] at hgroup
    dsimp only
    rw [if_pos hscan.start_lt, hgroup]

/-! ## The main statement -/

/-- A text is cut into its runs and in no other way, and one without characters has no runs. -/
theorem decomposes_iff (r : RichText) :
    (∀ runs, r.Decomposes runs ↔ runs = r.runs) ∧ (r.runs = [] ↔ r.text = []) := by
  refine ⟨fun runs => ⟨fun h => ?_, fun h => h ▸ decomposes_runs r⟩, fun h => ?_, fun h => ?_⟩
  · rw [RichText.runs, ← h.cells_eq, group_cells h.ne_nil h.isChain]
  · rw [← (decomposes_runs r).text_eq, h]
    rfl
  · rw [RichText.runs, styled, h]
    rfl

end Placard.RichText
