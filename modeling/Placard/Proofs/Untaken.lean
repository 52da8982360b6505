import Placard.Proofs.Eval
import Placard.Proofs.Grammar
import Placard.Provider.Snapshot
import Placard.Template.Evaluate

/-! # Branches that are not taken

A body that is not to be evaluated is only followed. Whatever its tags name, following it succeeds
and leaves the state as it was, but for reports of places where the input was cut off
(`onlyReports_evalBody`). A tree that was read from a text has at most one such place, and none if
it is closed (`ReadsBody.cutOffs`). So the untaken branch of a condition is without effect
(`evalBody_untaken`). -/

namespace Placard

namespace Eval

variable {σ α β : Type} {x : Eval σ α} {l m : List Diagnostic}

/-- The computation succeeds, and all it does to the state is to report `l`. -/
def OnlyReports (x : Eval σ α) (l : List Diagnostic) : Prop :=
  ∀ c, ∃ a, x.Yields c a { c with diagnostics := c.diagnostics ++ l }

namespace OnlyReports

theorem pure (a : α) : OnlyReports (pure a : Eval σ α) [] := by
  intro c
  refine ⟨a, yields_pure.mpr ⟨rfl, ?_⟩⟩
  rw [List.append_nil]

theorem get : OnlyReports (get : Eval σ (Context σ)) [] := by
  intro c
  refine ⟨c, yields_get.mpr ⟨rfl, ?_⟩⟩
  rw [List.append_nil]

theorem report (diagnostic : Diagnostic) :
    OnlyReports (Eval.report diagnostic : Eval σ Unit) [diagnostic] :=
  fun _ => ⟨(), yields_report.mpr rfl⟩

theorem bind {f : α → Eval σ β} (hx : OnlyReports x l) (hf : ∀ a, OnlyReports (f a) m) :
    OnlyReports (x >>= f) (l ++ m) := by
  intro c
  obtain ⟨a, ha⟩ := hx c
  obtain ⟨b, hb⟩ := hf a { c with diagnostics := c.diagnostics ++ l }
  rw [List.append_assoc] at hb
  exact ⟨b, yields_bind.mpr ⟨a, _, ha, hb⟩⟩

/-- A part without reports before the others. -/
theorem bind_nil {f : α → Eval σ β} (hx : OnlyReports x []) (hf : ∀ a, OnlyReports (f a) m) :
    OnlyReports (x >>= f) m := hx.bind hf

/-- A part with reports before one without. -/
theorem bind_pure {f : α → Eval σ β} (hx : OnlyReports x l) (hf : ∀ a, OnlyReports (f a) []) :
    OnlyReports (x >>= f) l := by
  have h := hx.bind hf
  rwa [List.append_nil] at h

/-- What does nothing but succeed may be left out where its result is not needed. -/
theorem bind_eq (hx : OnlyReports x []) (y : Eval σ β) : (x >>= fun _ => y) = y := by
  funext c
  obtain ⟨a, ha⟩ := hx c
  rw [List.append_nil] at ha
  change (x >>= fun _ => y).outcome c = y.outcome c
  rw [outcome_bind, ha]

end OnlyReports

end Eval

namespace Template

/-! ## Places where the input was cut off -/

/-- The delimiters that are missed when a body that ends so is followed. -/
def Ending.cutOffs : Ending → List Char
  | .unclosed delimiter => [delimiter]
  | .closed | .interrupted => []

mutual

/-- The delimiters that are missed when a body is followed. -/
def Body.cutOffs : Body → List Char
  | .done ending => ending.cutOffs
  | .char _ rest => rest.cutOffs
  | .escaped _ rest => rest.cutOffs
  | .backslash rest => rest.cutOffs
  | .tag tag _ rest => tag.cutOffs ++ rest.cutOffs

/-- The parts after one that was cut off are not followed. -/
def Tag.cutOffs : Tag → List Char
  | .info name => name.cutOffs
  | .color token => token.cutOffs
  | .percentage numerator denominator =>
    numerator.cutOffs ++ if numerator.isClosed then denominator.cutOffs else []
  | .conditional left right whenEqual whenDifferent =>
    left.cutOffs ++ if left.isClosed then
      right.cutOffs ++ if right.isClosed then
        whenEqual.cutOffs ++ if whenEqual.isClosed then whenDifferent.cutOffs else []
      else []
    else []

end

variable {σ : Type} [Provider σ] (nested : Info.Nested σ) (name : String)

/-- The reports of cut off tags in a template. -/
def unclosedTags (template : String) (delimiters : List Char) : List Diagnostic :=
  delimiters.map (.unclosedTag · template)

omit [Provider σ] in
theorem onlyReports_openStyles : (openStyles : Eval σ (List OpenStyle)).OnlyReports [] :=
  Eval.OnlyReports.get.bind_nil fun _ => .pure _

mutual

/-- Following a body succeeds and does nothing but report where it was cut off. -/
theorem onlyReports_evalBody : ∀ (body : Body) (draft : Draft),
    (evalBody nested name false draft body).OnlyReports (unclosedTags name body.cutOffs)
  | .done ending, draft => by
    unfold evalBody
    cases ending with
    | unclosed delimiter => exact (Eval.OnlyReports.report _).bind_pure fun _ => .pure draft
    | closed | interrupted => exact .pure draft
  | .char _ rest, draft => by
    unfold evalBody
    exact onlyReports_openStyles.bind_nil fun _ => onlyReports_evalBody rest _
  | .escaped _ rest, draft => by
    unfold evalBody
    exact onlyReports_openStyles.bind_nil fun _ => onlyReports_evalBody rest _
  | .backslash rest, draft => by
    unfold evalBody
    exact onlyReports_openStyles.bind_nil fun _ => onlyReports_evalBody rest _
  | .tag tag _ rest, draft => by
    unfold evalBody unclosedTags
    rw [Body.cutOffs, List.map_append]
    refine (onlyReports_evalTag tag).bind fun added => ?_
    exact onlyReports_openStyles.bind_nil fun _ => onlyReports_evalBody rest _

theorem onlyReports_evalTag : ∀ tag : Tag,
    (evalTag nested name false tag).OnlyReports (unclosedTags name tag.cutOffs)
  | .info spec => by
    unfold evalTag
    refine (onlyReports_evalBody spec {}).bind_pure fun draft => ?_
    split
    · exact .pure _
    · exact .pure _
  | .color token => by
    unfold evalTag
    refine (onlyReports_evalBody token {}).bind_pure fun draft => ?_
    split
    · exact .pure _
    · exact .pure _
  | .percentage numerator denominator => by
    unfold evalTag unclosedTags
    rw [Tag.cutOffs, List.map_append]
    refine (onlyReports_evalBody numerator {}).bind fun first => ?_
    cases numerator.isClosed with
    | false => exact .pure _
    | true =>
      refine (onlyReports_evalBody denominator {}).bind_pure fun second => ?_
      split
      · exact .pure _
      · exact .pure _
  | .conditional left right whenEqual whenDifferent => by
    unfold evalTag unclosedTags
    rw [Tag.cutOffs, List.map_append]
    refine (onlyReports_evalBody left {}).bind fun first => ?_
    cases left.isClosed with
    | false => exact .pure _
    | true =>
      rw [if_pos rfl, List.map_append]
      refine (onlyReports_evalBody right {}).bind fun second => ?_
      cases right.isClosed with
      | false => exact .pure _
      | true =>
        rw [if_pos rfl, List.map_append]
        refine (onlyReports_evalBody whenEqual {}).bind fun third => ?_
        cases whenEqual.isClosed with
        | false => exact .pure _
        | true =>
          refine (onlyReports_evalBody whenDifferent {}).bind_pure fun fourth => ?_
          split
          · exact .pure _
          · split
            · exact .pure _
            · exact .pure _

end

/-! ## What was read is cut off at one place at most -/

/-- A part either ends at its delimiter, and nothing is missed in it, or at the end of the input,
and one delimiter is missed at most. -/
def EndsOnce (isClosed : Bool) (cutOffs left : List Char) : Prop :=
  if isClosed then cutOffs = [] else left = [] ∧ cutOffs.length ≤ 1

theorem EndsOnce.length_le (h : EndsOnce isClosed cutOffs left) : cutOffs.length ≤ 1 := by
  cases isClosed with
  | true =>
    obtain rfl : cutOffs = [] := h
    exact Nat.zero_le 1
  | false => exact h.2

/-- One part after another; the second one is not followed if the first one was cut off. -/
theorem EndsOnce.append (h : EndsOnce a first rest) (h' : EndsOnce b second left)
    (hleft : left.length ≤ rest.length) :
    EndsOnce (a && b) (first ++ if a then second else []) left := by
  cases a with
  | true =>
    obtain rfl : first = [] := h
    exact h'
  | false =>
    obtain ⟨rfl, hlength⟩ := h
    refine ⟨List.eq_nil_of_length_eq_zero (Nat.le_zero.mp hleft), ?_⟩
    rwa [if_neg Bool.false_ne_true, List.append_nil]

/-- After a tag that was cut off there is nothing more to miss. -/
theorem eq_done_of_reads_nil (h : ReadsBody stop cutOff [] body left) :
    body = .done (.atEnd stop cutOff) ∧ left = [] := by
  cases h
  exact ⟨rfl, rfl⟩

mutual

theorem endsOnce_of_readsBody : ReadsBody stop cutOff cs body left →
    body.cutOffs.length ≤ 1 ∧ (stop.isSome → EndsOnce body.isClosed body.cutOffs left)
  | .atEnd => by
    cases stop with
    | none => exact ⟨Nat.zero_le 1, nofun⟩
    | some d =>
      cases cutOff with
      | true => exact ⟨Nat.zero_le 1, fun _ => ⟨rfl, Nat.zero_le 1⟩⟩
      | false => exact ⟨Nat.le_refl 1, fun _ => ⟨rfl, Nat.le_refl 1⟩⟩
  | .delimiter => ⟨Nat.zero_le 1, fun _ => rfl⟩
  | .backslash _ => by
    cases stop with
    | none => exact ⟨Nat.zero_le 1, nofun⟩
    | some d => exact ⟨Nat.le_refl 1, fun _ => ⟨rfl, Nat.le_refl 1⟩⟩
  | .escaped _ h => (endsOnce_of_readsBody h :)
  | .char _ _ _ h => (endsOnce_of_readsBody h :)
  | .tag _ ht h => by
    rename_i tag _ _ _
    have htag := endsOnce_of_readsTag ht
    unfold Body.cutOffs
    cases hclosed : tag.isClosed with
    | true =>
      rw [hclosed] at htag
      have hnil : tag.cutOffs = [] := htag
      rw [hnil]
      exact endsOnce_of_readsBody h
    | false =>
      rw [hclosed] at htag h
      obtain ⟨rfl, hlength⟩ := htag
      obtain ⟨rfl, rfl⟩ := eq_done_of_reads_nil h
      cases stop with
      | none =>
        refine ⟨?_, nofun⟩
        rwa [Body.cutOffs, Ending.atEnd, Ending.cutOffs, List.append_nil]
      | some d =>
        have hcutOffs : tag.cutOffs ++ (Body.done (.atEnd (some d) true)).cutOffs = tag.cutOffs :=
          List.append_nil _
        rw [Bool.not_false, hcutOffs]
        exact ⟨hlength, fun _ => ⟨rfl, hlength⟩⟩

theorem endsOnce_of_readsTag : ReadsTag cs tag left → EndsOnce tag.isClosed tag.cutOffs left
  | .info h => (endsOnce_of_readsBody h).2 rfl
  | .color h => (endsOnce_of_readsBody h).2 rfl
  | .percentage h₁ h₂ =>
    ((endsOnce_of_readsBody h₁).2 rfl).append ((endsOnce_of_readsBody h₂).2 rfl) h₂.suffix.length_le
  | .conditional h₁ h₂ h₃ h₄ => by
    have h₃₄ := ((endsOnce_of_readsBody h₃).2 rfl).append ((endsOnce_of_readsBody h₄).2 rfl)
      h₄.suffix.length_le
    have h₂₄ := ((endsOnce_of_readsBody h₂).2 rfl).append h₃₄ (h₄.suffix.trans h₃.suffix).length_le
    have h₁₄ := ((endsOnce_of_readsBody h₁).2 rfl).append h₂₄
      (h₄.suffix.trans (h₃.suffix.trans h₂.suffix)).length_le
    rw [← Bool.and_assoc, ← Bool.and_assoc] at h₁₄
    exact h₁₄

end

theorem ReadsBody.cutOffs_eq_nil (h : ReadsBody (some d) cutOff cs body left)
    (hclosed : body.isClosed = true) : body.cutOffs = [] := by
  have hends := (endsOnce_of_readsBody h).2 rfl
  rwa [hclosed] at hends

theorem ReadsTag.cutOffs_eq_nil (h : ReadsTag cs tag left) (hclosed : tag.isClosed = true) :
    tag.cutOffs = [] := by
  have hends := endsOnce_of_readsTag h
  rwa [hclosed] at hends

/-- Behind a tag that was cut off there is nothing. -/
theorem eq_done_of_open (ht : ReadsTag cs tag after)
    (h : ReadsBody stop (!tag.isClosed) after body left) (hopen : tag.isClosed = false) :
    body = .done (.atEnd stop true) ∧ after = [] := by
  have hends := endsOnce_of_readsTag ht
  rw [hopen] at hends h
  obtain ⟨rfl, -⟩ := hends
  exact ⟨(eq_done_of_reads_nil h).1, rfl⟩

/-! ## Conditions -/

/-- A condition of which no more than the taken branch is looked at. -/
def evalTaken (left right whenEqual whenDifferent : Body) : Eval σ Piece := do
  let first ← evalBody nested name true {} left
  let second ← evalBody nested name true {} right
  let taken := if first.text.text = second.text.text then whenEqual else whenDifferent
  return (← evalBody nested name true {} taken).toPiece

/-- A closed branch has nothing to report. -/
theorem onlyReports_closed (h : ReadsBody (some delimiter) cutOff cs body left)
    (hclosed : body.isClosed = true) (draft : Draft) :
    (evalBody nested name false draft body).OnlyReports [] := by
  have hreports := onlyReports_evalBody nested name body draft
  rwa [h.cutOffs_eq_nil hclosed] at hreports

theorem evalTag_conditional_eq_evalTaken
    (h : ReadsTag cs (.conditional left right whenEqual whenDifferent) after)
    (hclosed : (Tag.conditional left right whenEqual whenDifferent).isClosed = true) :
    evalTag nested name true (.conditional left right whenEqual whenDifferent) =
      evalTaken nested name left right whenEqual whenDifferent := by
  simp only [Tag.isClosed, Bool.and_eq_true] at hclosed
  obtain ⟨⟨⟨hleft, hright⟩, hequal⟩, hdifferent⟩ := hclosed
  cases h with
  | conditional _ _ h₃ h₄ =>
    have hthird := onlyReports_closed nested name h₃ hequal {}
    have hfourth := onlyReports_closed nested name h₄ hdifferent {}
    unfold evalTag evalTaken
    rw [hleft, hright, hequal, hdifferent]
    refine bind_congr fun first => bind_congr fun second => ?_
    by_cases htexts : first.text.text = second.text.text
    · simp only [htexts, decide_true, Bool.and_true, Bool.not_true, Bool.and_false, if_true]
      refine bind_congr fun third => ?_
      exact hfourth.bind_eq _
    · simp only [htexts, decide_false, Bool.not_true, Bool.and_false, if_false]
      exact hthird.bind_eq _

/-- Following any part of a template without evaluating it succeeds, asks nothing and leaves the
state as it was, but for one report if the input ends in the part. So a condition does what its
operands and its taken branch do, whatever the other branch holds. -/
theorem evalBody_untaken (delimiter : Option Char) (cutOff : Bool) (cs : List Char) (draft : Draft)
    (c : Context σ) :
    (∃ result reported,
      (evalBody nested name false draft (readBody delimiter cutOff cs).1.1).Yields c result
        { c with diagnostics := c.diagnostics ++ reported } ∧
      (reported = [] ∨ ∃ missed, reported = [.unclosedTag missed name])) ∧
    ∀ left right whenEqual whenDifferent after,
      ReadsTag cs (.conditional left right whenEqual whenDifferent) after →
      (Tag.conditional left right whenEqual whenDifferent).isClosed = true →
      evalTag nested name true (.conditional left right whenEqual whenDifferent) =
        evalTaken nested name left right whenEqual whenDifferent := by
  refine ⟨?_, fun _ _ _ _ _ h hclosed => evalTag_conditional_eq_evalTaken nested name h hclosed⟩
  obtain ⟨result, hresult⟩ :=
    onlyReports_evalBody nested name (readBody delimiter cutOff cs).1.1 draft c
  refine ⟨result, _, hresult, ?_⟩
  have hlength := (endsOnce_of_readsBody (reads_readBody delimiter cutOff cs)).1
  unfold unclosedTags
  match (readBody delimiter cutOff cs).1.1.cutOffs, hlength with
  | [], _ => exact .inl rfl
  | [missed], _ => exact .inr ⟨missed, rfl⟩

/-- The branch that is not taken names a module that there is not. -/
theorem evalBody_untaken_unknown_module :
    let cs := "[a,b,$<x>,c]".toList
    let tag := Tag.conditional (.char 'a' (.done .closed)) (.char 'b' (.done .closed))
      (.tag (.info (.char 'x' (.done .closed))) 4 (.done .closed)) (.char 'c' (.done .closed))
    ReadsTag cs tag [] ∧ tag.isClosed = true ∧
      evalTag (evalNested maxDepth : Info.Nested Snapshot) "" true tag =
        evalTaken (evalNested maxDepth) "" (.char 'a' (.done .closed)) (.char 'b' (.done .closed))
          (.tag (.info (.char 'x' (.done .closed))) 4 (.done .closed))
          (.char 'c' (.done .closed)) := by
  intro cs tag
  have htag : ReadsTag cs tag [] :=
    .conditional (reads_ordinary (by decide) (by decide) (by decide) .delimiter)
      (reads_ordinary (by decide) (by decide) (by decide) .delimiter)
      (.tag (by decide)
        (.info (reads_ordinary (by decide) (by decide) (by decide) .delimiter)) .delimiter)
      (reads_ordinary (by decide) (by decide) (by decide) .delimiter)
  have hclosed : tag.isClosed = true := rfl
  refine ⟨htag, hclosed, ?_⟩
  exact (evalBody_untaken _ _ none false cs {} { config := {}, provider := {} }).2 _ _ _ _ _
    htag hclosed

end Template

end Placard
