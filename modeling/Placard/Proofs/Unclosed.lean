import Placard.Proofs.LastReport
import Placard.Proofs.Values

/-! # Tags that are not closed

The input may end in a part of a tag, in a part of that part, and so on (`EndsInPart`). The
innermost of these parts misses its delimiter (`exists_endsInPart`), and each of them gives its text
to all that is around it (`EndsInPart.yields`), evaluated or not. Together with the grammar, which
says what is missed (`cutOffs_read`), and with the one report of it, which comes last
(`reportsLast_evalBody`), this is `reports_innermost_once`. -/

namespace Placard.Template

variable {σ : Type} [Provider σ] (nested : Info.Nested σ)

/-! ## The part that is cut off -/

section

variable (name : String)

/-- A run of a body comes to its last tag, which is cut off. `before` is what it has added to the
text until then. -/
inductive EndsInTag (evaluate : Bool) : Body → Context σ → List Char → Tag → Context σ → Prop
  | here (length) : tag.isClosed = false → Ending.cutOffs ending = [] →
      EndsInTag evaluate (.tag tag length (.done ending)) c [] tag c
  | afterChar (x) : EndsInTag evaluate rest c before tag d →
      EndsInTag evaluate (.char x rest) c (x :: before) tag d
  | afterEscaped (x) : EndsInTag evaluate rest c before tag d →
      EndsInTag evaluate (.escaped x rest) c (x :: before) tag d
  | afterTag (length) : (evalTag nested name evaluate first).Yields c added c' →
      EndsInTag evaluate rest c' before tag d →
      EndsInTag evaluate (.tag first length rest) c (added.text.text ++ before) tag d

/-- A run of a body comes to a part that is cut off, through tags that are all cut off by it.
`before` is the text of the bodies around it. -/
inductive EndsInPart : Bool → Body → Context σ → List Char → Bool → Body → Context σ → Prop
  | here : EndsInPart evaluate body c [] evaluate body c
  | inTag : EndsInTag nested name evaluate body c before tag d →
      Standing nested name evaluate d tag evaluate₁ part c₁ → part.isClosed = false →
      EndsInPart evaluate₁ part c₁ before' evaluate₂ part' c₂ →
      EndsInPart evaluate body c (before ++ before') evaluate₂ part' c₂

end

variable {nested} {name : String} {evaluate evaluate' : Bool} {c c' d : Context σ}

/-- A part that is cut off gives the tag its text, and is the last thing of it. -/
theorem Standing.yields_iff (hs : Standing nested name evaluate c tag evaluate' part c')
    (hopen : part.isClosed = false) : (evalTag nested name evaluate tag).Yields c added d ↔
      ∃ draft, (evalBody nested name evaluate' {} part).Yields c' draft d ∧
        added = draft.toPiece := by
  have hpart {x : Eval σ Draft} {c₁ : Context σ} :
      (do return (← x).toPiece : Eval σ Piece).Yields c₁ added d ↔
        ∃ draft, x.Yields c₁ draft d ∧ added = draft.toPiece := by
    rw [Eval.yields_bind]
    constructor
    · rintro ⟨draft, _, hx, h⟩
      obtain ⟨rfl, rfl⟩ := Eval.yields_pure.mp h
      exact ⟨draft, hx, rfl⟩
    · rintro ⟨draft, hx, rfl⟩
      exact ⟨draft, _, hx, Eval.yields_pure.mpr ⟨rfl, rfl⟩⟩
  cases hs with
  | info | color | numerator | left =>
    rw [evalTag, hopen]
    exact hpart
  | denominator hfirst hclosed | right hfirst hclosed =>
    rw [evalTag, hfirst.bind_iff, hclosed, hopen]
    exact hpart
  | whenEqual hcompared =>
    obtain ⟨first, second, _, hfirst, hleft, hsecond, hright, rfl⟩ := hcompared
    rw [evalTag, hfirst.bind_iff, hleft]
    refine hsecond.bind_iff.trans ?_
    rw [hright, hopen]
    exact hpart
  | whenDifferent hcompared hthird hclosed =>
    obtain ⟨first, second, _, hfirst, hleft, hsecond, hright, rfl⟩ := hcompared
    rw [evalTag, hfirst.bind_iff, hleft]
    refine hsecond.bind_iff.trans ?_
    rw [hright]
    refine hthird.bind_iff.trans ?_
    rw [hclosed, hopen]
    exact hpart

/-- A tag that is not closed has a part that is cut off. -/
theorem exists_standing_of_open (h : (evalTag nested name evaluate tag).Yields c added d)
    (hopen : tag.isClosed = false) : ∃ evaluate' part c',
      Standing nested name evaluate c tag evaluate' part c' ∧ part.isClosed = false := by
  cases tag with
  | info spec => exact ⟨_, _, _, .info hopen, hopen⟩
  | color token => exact ⟨_, _, _, .color hopen, hopen⟩
  | percentage numerator denominator =>
    cases hclosed : numerator.isClosed with
    | false => exact ⟨_, _, _, .numerator hclosed, hclosed⟩
    | true =>
      rw [Tag.isClosed, hclosed, Bool.true_and] at hopen
      rw [evalTag, Eval.yields_bind] at h
      obtain ⟨first, c₁, hfirst, -⟩ := h
      exact ⟨_, _, _, .denominator hfirst hclosed hopen, hopen⟩
  | conditional left right whenEqual whenDifferent =>
    cases hleft : left.isClosed with
    | false => exact ⟨_, _, _, .left hleft, hleft⟩
    | true =>
      rw [evalTag, hleft, Eval.yields_bind] at h
      obtain ⟨first, c₁, hfirst, h⟩ := h
      cases hright : right.isClosed with
      | false => exact ⟨_, _, _, .right hfirst hleft hright, hright⟩
      | true =>
        obtain ⟨second, c₂, hsecond, h⟩ := Eval.yields_bind.mp h
        rw [hright] at h
        obtain ⟨third, c₃, hthird, -⟩ := Eval.yields_bind.mp h
        have hcompared : Compared nested name evaluate c left right
            (decide (first.text.text = second.text.text)) c₂ :=
          ⟨first, second, c₁, hfirst, hleft, hsecond, hright, rfl⟩
        cases hequal : whenEqual.isClosed with
        | false => exact ⟨_, _, _, .whenEqual hcompared (.inl hequal), hequal⟩
        | true =>
          have hdifferent : whenDifferent.isClosed = false := by
            rwa [Tag.isClosed, hleft, hright, hequal] at hopen
          exact ⟨_, _, _, .whenDifferent hcompared hthird hequal (.inl hdifferent), hdifferent⟩

/-- What is missed in a tag is missed in the part that is cut off. -/
theorem Standing.cutOffs_eq (hs : Standing nested name evaluate c tag evaluate' part c')
    (hopen : part.isClosed = false) (hr : ReadsTag cs tag unread) : tag.cutOffs = part.cutOffs := by
  cases hs with
  | info | color => rfl
  | numerator | left => rw [Tag.cutOffs, hopen, if_neg Bool.false_ne_true, List.append_nil]
  | denominator _ hnumerator =>
    cases hr with
    | percentage h₁ _ =>
      rw [Tag.cutOffs, h₁.cutOffs_eq_nil hnumerator, hnumerator]
      rfl
  | right _ hleft =>
    cases hr with
    | conditional h₁ _ _ _ =>
      rw [Tag.cutOffs, h₁.cutOffs_eq_nil hleft, hleft, hopen]
      exact List.append_nil _
  | whenEqual hcompared =>
    obtain ⟨_, _, _, -, hleft, -, hright, -⟩ := hcompared
    cases hr with
    | conditional h₁ h₂ _ _ =>
      rw [Tag.cutOffs, h₁.cutOffs_eq_nil hleft, hleft, h₂.cutOffs_eq_nil hright, hright, hopen]
      exact List.append_nil _
  | whenDifferent hcompared _ hequal =>
    obtain ⟨_, _, _, -, hleft, -, hright, -⟩ := hcompared
    cases hr with
    | conditional h₁ h₂ h₃ _ =>
      rw [Tag.cutOffs, h₁.cutOffs_eq_nil hleft, hleft, h₂.cutOffs_eq_nil hright, hright,
        h₃.cutOffs_eq_nil hequal, hequal]
      rfl

/-- The last tag of a body gives its text to the body, and is the last thing that is done. -/
theorem EndsInTag.yields {draft result : Draft}
    (hends : EndsInTag nested name evaluate body c before tag d)
    (h : (evalBody nested name evaluate draft body).Yields c result e) :
    ∃ added, (evalTag nested name evaluate tag).Yields d added e ∧
      result.text.text = draft.text.text ++ before ++ added.text.text := by
  induction hends generalizing draft with
  | here length _ hending =>
    obtain ⟨added, c', htag, h⟩ := yields_tag_iff.mp h
    rw [evalBody_done _ hending] at h
    obtain ⟨rfl, rfl⟩ := Eval.yields_pure.mp h
    refine ⟨added, htag, ?_⟩
    rw [List.append_nil]
    exact Piece.text_addPiece ..
  | afterChar x _ ih =>
    obtain ⟨added, htag, htext⟩ := ih (yields_char_iff.mp h)
    refine ⟨added, htag, htext.trans ?_⟩
    simp only [Draft.edited, Piece.text_add, List.append_assoc, List.singleton_append]
  | afterEscaped x _ ih =>
    obtain ⟨added, htag, htext⟩ := ih (yields_escaped_iff.mp h)
    refine ⟨added, htag, htext.trans ?_⟩
    simp only [Draft.edited, Piece.text_add, List.append_assoc, List.singleton_append]
  | afterTag length hfirst _ ih =>
    obtain ⟨added', c', hfirst', h⟩ := yields_tag_iff.mp h
    obtain ⟨rfl, rfl⟩ := hfirst.unique hfirst'
    obtain ⟨added, htag, htext⟩ := ih h
    refine ⟨added, htag, htext.trans ?_⟩
    simp only [Draft.edited, Piece.text_addPiece, List.append_assoc]

/-- A part that is cut off gives its text to all that is around it. -/
theorem EndsInPart.yields (hends : EndsInPart nested name evaluate body c before evaluate' part c')
    (h : (evalBody nested name evaluate {} body).Yields c result d) :
    ∃ inner, (evalBody nested name evaluate' {} part).Yields c' inner d ∧
      result.text.text = before ++ inner.text.text := by
  induction hends generalizing result with
  | here => exact ⟨result, h, rfl⟩
  | inTag htag hs hopen _ ih =>
    obtain ⟨added, hadded, htext⟩ := htag.yields h
    obtain ⟨draft, hpart, rfl⟩ := (hs.yields_iff hopen).mp hadded
    obtain ⟨inner, hinner, hdraft⟩ := ih hpart
    refine ⟨inner, hinner, ?_⟩
    rw [htext, hdraft, ← List.append_assoc]
    rfl

/-- What is missed in a body is its own delimiter, or is missed in its last tag. -/
theorem exists_endsInTag {draft result : Draft} {c d : Context σ}
    (hr : ReadsBody stop cutOff cs body left) (hmissed : body.cutOffs = [m])
    (h : (evalBody nested name evaluate draft body).Yields c result d) :
    body.ending = .unclosed m ∨ ∃ before tag c',
      EndsInTag nested name evaluate body c before tag c' ∧ tag.cutOffs = [m] ∧
      ∃ cs' left', ReadsTag cs' tag left' := by
  have hdone {ending : Ending} (hmissed : ending.cutOffs = [m]) : ending = .unclosed m := by
    cases ending with
    | unclosed d =>
      obtain rfl : d = m := List.singleton_inj.mp hmissed
      rfl
    | closed | interrupted => cases hmissed
  match hr with
  | .atEnd => exact .inl (hdone hmissed)
  | .delimiter => exact .inl (hdone hmissed)
  | .backslash _ => exact .inl (hdone hmissed)
  | .escaped _ hr =>
    have h := yields_escaped_iff.mp h
    obtain hend | ⟨before, tag, c', hends, htag⟩ := exists_endsInTag hr hmissed h
    · exact .inl hend
    · exact .inr ⟨_, tag, c', .afterEscaped _ hends, htag⟩
  | .char _ _ _ hr =>
    have h := yields_char_iff.mp h
    obtain hend | ⟨before, tag, c', hends, htag⟩ := exists_endsInTag hr hmissed h
    · exact .inl hend
    · exact .inr ⟨_, tag, c', .afterChar _ hends, htag⟩
  | .tag _ ht hr =>
    rw [(cutOffs_of_tag ht hr).1] at hmissed
    split at hmissed
    · rename_i hclosed
      rw [ht.cutOffs_eq_nil hclosed] at hmissed
      obtain ⟨added, c₁, hfirst, h⟩ := yields_tag_iff.mp h
      obtain hend | ⟨before, tag, c', hends, htag⟩ := exists_endsInTag hr hmissed h
      · exact .inl hend
      · exact .inr ⟨_, tag, c', .afterTag _ hfirst hends, htag⟩
    · rename_i hopen
      have hopen := eq_false_of_ne_true hopen
      obtain ⟨rfl, -⟩ := eq_done_of_open ht hr hopen
      rw [List.append_nil] at hmissed
      exact .inr ⟨_, _, _, .here _ hopen (cutOffs_atEnd_true stop), hmissed, _, _, ht⟩

theorem EndsInTag.sizeOf_lt (hends : EndsInTag nested name evaluate body c before tag c') :
    sizeOf tag < sizeOf body := by
  induction hends with
  | here => simp only [Body.tag.sizeOf_spec]; omega
  | afterChar _ _ ih => simp only [Body.char.sizeOf_spec]; omega
  | afterEscaped _ _ ih => simp only [Body.escaped.sizeOf_spec]; omega
  | afterTag _ _ _ ih => simp only [Body.tag.sizeOf_spec]; omega

theorem EndsInTag.isClosed_eq (hends : EndsInTag nested name evaluate body c before tag c') :
    tag.isClosed = false := by
  induction hends with
  | here _ hopen => exact hopen
  | afterChar _ _ ih | afterEscaped _ _ ih | afterTag _ _ _ ih => exact ih

/-- What is missed in a body is the delimiter of a part of it. -/
theorem exists_endsInPart {evaluate : Bool} {result : Draft} {c d : Context σ}
    (hr : ReadsBody stop cutOff cs body left)
    (hmissed : body.cutOffs = [m]) (h : (evalBody nested name evaluate {} body).Yields c result d) :
    ∃ before evaluate' part c', EndsInPart nested name evaluate body c before evaluate' part c' ∧
      part.ending = .unclosed m := by
  obtain hend | ⟨before, tag, c', hends, htag, _, _, hread⟩ := exists_endsInTag hr hmissed h
  · exact ⟨[], evaluate, body, c, .here, hend⟩
  · obtain ⟨added, hadded, -⟩ := hends.yields h
    obtain ⟨evaluate₁, part, c₁, hs, hopen⟩ := exists_standing_of_open hadded hends.isClosed_eq
    obtain ⟨draft, hpart, -⟩ := (hs.yields_iff hopen).mp hadded
    obtain ⟨_, _, _, _, hreads⟩ := hs.exists_reads hread
    rw [hs.cutOffs_eq hopen hread] at htag
    have hsize := Nat.lt_trans hs.sizeOf_lt hends.sizeOf_lt
    obtain ⟨before', evaluate', inner, c₂, hinner, hend⟩ := exists_endsInPart hreads htag hpart
    exact ⟨_, evaluate', inner, c₂, .inTag hends hs hopen hinner, hend⟩
termination_by sizeOf body

/-- Where a template is evaluated at all, one tag is reported as not closed if there are delimiters
that are awaited at its end, and none if there are none. The one that is missed is the delimiter of
the innermost part that the template ends in, evaluated or not. The report is the last thing that is
done: all else would be done under any other name. Each tag around that part takes its text, and
fails only where the part does. -/
theorem reports_innermost_once {template : String} {parsed : Parsed}
    (h : (parseLine template).Yields c parsed d) :
    let nested : Info.Nested σ := evalNested maxDepth
    let tree := Body.read template.toList
    let missed := (awaited [] template.toList).head?
    ∃ (draft : Draft) (c' : Context σ),
      (∀ name, (evalBody nested name true {} tree).Yields c draft
        { c' with diagnostics := c'.diagnostics ++ unclosedTags name missed.toList }) ∧
      parsed.rich = draft.text ∧
      d = { c' with
        diagnostics := c'.diagnostics ++ unclosedTags template missed.toList
        styles := c'.styles.cleared } ∧
      (∀ delimiter ∈ missed, ∃ before evaluate part c₁,
        EndsInPart nested template true tree c before evaluate part c₁ ∧
        part.ending = .unclosed delimiter) ∧
      (∀ before evaluate part c₁, EndsInPart nested template true tree c before evaluate part c₁ →
        ∃ (inner : Draft) (c₂ : Context σ),
          (evalBody nested template evaluate {} part).Yields c₁ inner c₂ ∧
          parsed.rich.text = before ++ inner.text.text) ∧
      ∀ evaluate c₁ tag evaluate' part c₂ added c₃,
        Standing nested template evaluate c₁ tag evaluate' part c₂ → part.isClosed = false →
        ((evalTag nested template evaluate tag).Yields c₁ added c₃ ↔
          ∃ inner, (evalBody nested template evaluate' {} part).Yields c₂ inner c₃ ∧
            added = inner.toPiece) := by
  intro nested tree missed
  obtain ⟨draft, c₀, hbody, rfl, rfl⟩ := yields_evalWhole_iff.mp h
  rw [String.ofList_toList] at hbody
  have hreads := reads_read template.toList
  have hmissed : tree.cutOffs = missed.toList := cutOffs_read template.toList
  have hlast := reportsLast_evalBody nested hreads true {}
  rw [hmissed] at hlast
  obtain ⟨c', hyields⟩ := hlast.exists_state hbody
  obtain rfl := ((hyields template).unique hbody).2
  refine ⟨draft, c', hyields, rfl, rfl, fun delimiter hdelimiter => ?_, fun _ _ _ _ hends => ?_,
    fun _ _ _ _ _ _ _ _ hs hopen => hs.yields_iff hopen⟩
  · have hsingle : tree.cutOffs = [delimiter] := by
      rw [hmissed, Option.mem_def.mp hdelimiter]
      rfl
    exact exists_endsInPart hreads hsingle hbody
  · obtain ⟨inner, hinner, htext⟩ := hends.yields hbody
    exact ⟨inner, _, hinner, htext⟩

/-- The input ends in an info tag in the branch of a condition that is not taken. -/
theorem reports_innermost_once_untaken :
    let template := "a$[1,2,b$<c"
    let c : Context Snapshot := { config := {}, provider := {} }
    ∃ parsed d, (parseLine template).Yields c parsed d ∧ parsed.rich.text = "abc".toList ∧
      awaited [] template.toList = ['>', ',', ']'] ∧
      (∃ c' : Context Snapshot, d = { c' with
        diagnostics := c'.diagnostics ++ [.unclosedTag '>' template]
        styles := c'.styles.cleared }) ∧
      ∃ before evaluate part c₁ inner c₂,
        EndsInPart (evalNested maxDepth) template true (.read template.toList) c before evaluate
          part c₁ ∧ part.ending = .unclosed '>' ∧
        (evalBody (evalNested maxDepth) template evaluate {} part).Yields c₁ inner c₂ ∧
        parsed.rich.text = before ++ inner.text.text := by
  intro template c
  have hawaited : awaited [] template.toList = ['>', ',', ']'] := by decide
  obtain ⟨parsed, h, htext⟩ := exists_parsed template c "abc".toList (by decide +kernel)
  obtain ⟨draft, c', -, -, hd, hinnermost, hpartial, -⟩ := reports_innermost_once h
  rw [hawaited] at hd hinnermost
  obtain ⟨before, evaluate, part, c₁, hends, hending⟩ := hinnermost '>' rfl
  obtain ⟨inner, c₂, hinner, hbefore⟩ := hpartial before evaluate part c₁ hends
  exact ⟨parsed, _, h, htext, hawaited, ⟨c', hd⟩, before, evaluate, part, c₁, inner, c₂, hends,
    hending, hinner, hbefore⟩

end Placard.Template
