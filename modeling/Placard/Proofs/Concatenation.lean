import Placard.Proofs.SeparatorReset
import Placard.Proofs.Untaken

/-! # Templates one after another

A body that was read up to its delimiter is read in the same way whatever follows
(`ReadsBody.extend`). So a template and what stands after it are read one after the other
(`ReadsBody.append`), if the template cuts off no tag and does not end in a character that takes up
what comes next: a backslash, or a dollar sign before the opening of a tag (`Body.EndsBefore`). They
are followed one after the other, too (`evalBody_append`). -/

namespace Placard.Template

/-- One tree behind the other; the end of the first one is given up. -/
def Body.append : Body → Body → Body
  | .done _, back => back
  | .char c rest, back => .char c (rest.append back)
  | .escaped c rest, back => .escaped c (rest.append back)
  | .backslash rest, back => .backslash (rest.append back)
  | .tag t length rest, back => .tag t length (rest.append back)

/-- The tree is at its end. -/
def Body.isDone : Body → Bool
  | .done _ => true
  | _ => false

/-- Nothing of the tree takes up what comes next: its tags are whole, and it does not end in a
backslash or in a dollar sign that would open a tag there. -/
def Body.EndsBefore (next : List Char) : Body → Prop
  | .done ending => ending = .closed
  | .char c rest => (c = '$' → rest.isDone = true → ¬ OpensTag next) ∧ rest.EndsBefore next
  | .escaped _ rest => rest.EndsBefore next
  | .backslash _ => False
  | .tag t _ rest => t.isClosed = true ∧ rest.EndsBefore next

instance : (cs : List Char) → Decidable (OpensTag cs)
  | [] => isFalse nofun
  | _ :: _ => decidable_of_iff _ opensTag_cons.symm

instance decidableEndsBefore (next : List Char) : (body : Body) → Decidable (body.EndsBefore next)
  | .done _ => inferInstanceAs (Decidable (_ = _))
  | .char _ rest =>
    have := decidableEndsBefore next rest
    inferInstanceAs (Decidable ((_ → _ → ¬ _) ∧ rest.EndsBefore next))
  | .escaped _ rest => decidableEndsBefore next rest
  | .backslash _ => inferInstanceAs (Decidable False)
  | .tag _ _ rest =>
    have := decidableEndsBefore next rest
    inferInstanceAs (Decidable (_ = _ ∧ rest.EndsBefore next))

/-! ## Reading -/

theorem not_opensTag_append (h : ¬ OpensTag cs) (hcs : cs ≠ []) : ¬ OpensTag (cs ++ more) := by
  rintro ⟨c, rest, heq, hc⟩
  obtain ⟨d, cs, rfl⟩ := List.exists_cons_of_ne_nil hcs
  obtain ⟨rfl, -⟩ := List.cons.inj heq
  exact h ⟨_, _, rfl, hc⟩

/-- What follows a tag does not change how many characters it takes. -/
theorem tag_length_append (cs after more : List Char) :
    cs.length + 1 - after.length = (cs ++ more).length + 1 - (after ++ more).length := by
  simp only [List.length_append]
  omega

theorem readsBody_tag {t : Tag} (hd : stop ≠ some '$') (ht : ReadsTag cs t after)
    (h : ReadsBody stop (!t.isClosed) after body left)
    (hlength : length = cs.length + 1 - after.length) :
    ReadsBody stop cutOff ('$' :: cs) (.tag t length body) left := hlength ▸ .tag hd ht h

/-- After a tag that was cut off a body is not closed any more. -/
theorem tag_isClosed_of_body (ht : ReadsTag cs tag after)
    (h : ReadsBody (some d) (!tag.isClosed) after body left) (hclosed : body.isClosed = true) :
    tag.isClosed = true := by
  cases htag : tag.isClosed with
  | true => rfl
  | false =>
    obtain ⟨rfl, -⟩ := eq_done_of_open ht h htag
    cases hclosed

mutual

/-- A body that is closed is read the same, whatever follows. -/
theorem ReadsBody.extend (more : List Char) : ReadsBody (some d) cutOff cs body left →
    body.isClosed = true → ReadsBody (some d) cutOff (cs ++ more) body (left ++ more)
  | .atEnd, hclosed => by cases cutOff <;> cases hclosed
  | .delimiter, _ => .delimiter
  | .backslash _, hclosed => by cases hclosed
  | .escaped hb h, hclosed => .escaped hb (h.extend more hclosed)
  | .tag hd ht h, hclosed => by
    have htag := tag_isClosed_of_body ht h hclosed
    exact readsBody_tag hd (ht.extend more htag) (h.extend more hclosed)
      (tag_length_append _ _ more)
  | .char hc hb hd h, hclosed => by
    refine .char hc hb (fun hdollar => not_opensTag_append (hd hdollar) ?_) (h.extend more hclosed)
    rintro rfl
    obtain ⟨rfl, -⟩ := eq_done_of_reads_nil h
    cases hclosed

theorem ReadsTag.extend (more : List Char) : ReadsTag cs tag left → tag.isClosed = true →
    ReadsTag (cs ++ more) tag (left ++ more)
  | .info h, hclosed => .info (h.extend more hclosed)
  | .color h, hclosed => .color (h.extend more hclosed)
  | .percentage h₁ h₂, hclosed => by
    rw [Tag.isClosed, Bool.and_eq_true] at hclosed
    exact .percentage (h₁.extend more hclosed.1) (h₂.extend more hclosed.2)
  | .conditional h₁ h₂ h₃ h₄, hclosed => by
    simp only [Tag.isClosed, Bool.and_eq_true] at hclosed
    obtain ⟨⟨⟨hc₁, hc₂⟩, hc₃⟩, hc₄⟩ := hclosed
    exact .conditional (h₁.extend more hc₁) (h₂.extend more hc₂) (h₃.extend more hc₃)
      (h₄.extend more hc₄)

end

/-- No tag is opened at the seam, if none is opened on either side. -/
theorem not_opensTag_before {cs : List Char} (h : ReadsBody none cutOff cs body left)
    (hcs : ¬ OpensTag cs) (hmore : body.isDone = true → ¬ OpensTag more) :
    ¬ OpensTag (cs ++ more) := by
  cases cs with
  | nil =>
    obtain ⟨rfl, -⟩ := eq_done_of_reads_nil h
    exact hmore rfl
  | cons c cs => exact not_opensTag_append hcs nofun

/-- What stands behind a whole template is read behind it. -/
theorem ReadsBody.append {cs : List Char} {front : Body} (h : ReadsBody none cutOff cs front left)
    (hends : front.EndsBefore more) (hback : ReadsBody none false more back []) :
    ReadsBody none false (cs ++ more) (front.append back) [] :=
  match h with
  | .atEnd => hback
  | .backslash _ => hends.elim
  | .escaped hb h => .escaped hb (h.append hends hback)
  | .tag hd ht h =>
    readsBody_tag hd (ht.extend more hends.1)
      (by rw [hends.1]; exact h.append hends.2 hback) (tag_length_append _ _ more)
  | .char hc hb hd h => by
    refine .char hc hb (fun hdollar => ?_) (h.append hends.2 hback)
    exact not_opensTag_before h (hd hdollar) (hends.1 hdollar)

/-- Two templates that stand one after the other. -/
theorem read_append (hends : (Body.read cs).EndsBefore more) :
    Body.read (cs ++ more) = (Body.read cs).append (.read more) :=
  ((reads_read cs).append hends (reads_read more)).read_eq

/-! ## Following -/

theorem isClosed_of_endsBefore : (front : Body) → front.EndsBefore next → front.isClosed = true
  | .done _, h => decide_eq_true h
  | .char _ rest, h => isClosed_of_endsBefore rest h.2
  | .escaped _ rest, h => isClosed_of_endsBefore rest h
  | .backslash _, h => h.elim
  | .tag _ _ rest, h => isClosed_of_endsBefore rest h.2

variable {σ : Type} [Provider σ] (nested : Info.Nested σ) (name : String) (evaluate : Bool)

/-- Trees one behind the other are followed one after the other. -/
theorem evalBody_append (back : Body) : (front : Body) → (draft : Draft) → front.isClosed = true →
    evalBody nested name evaluate draft (front.append back) =
      evalBody nested name evaluate draft front >>= fun draft =>
        evalBody nested name evaluate draft back
  | .done ending, draft, h => by
    obtain rfl : ending = .closed := of_decide_eq_true h
    rw [Body.append, evalBody.eq_def _ _ _ _ (.done _)]
    rfl
  | .char c rest, draft, h => by
    rw [Body.append, evalBody, evalBody.eq_def _ _ _ _ (.char c rest), bind_assoc]
    exact bind_congr fun _ => evalBody_append back rest _ h
  | .escaped c rest, draft, h => by
    rw [Body.append, evalBody, evalBody.eq_def _ _ _ _ (.escaped c rest), bind_assoc]
    exact bind_congr fun _ => evalBody_append back rest _ h
  | .backslash rest, draft, h => by
    rw [Body.append, evalBody, evalBody.eq_def _ _ _ _ (.backslash rest), bind_assoc]
    exact bind_congr fun _ => evalBody_append back rest _ h
  | .tag t length rest, draft, h => by
    rw [Body.append, evalBody, evalBody.eq_def _ _ _ _ (.tag t length rest), bind_assoc]
    refine bind_congr fun _ => ?_
    rw [bind_assoc]
    exact bind_congr fun _ => evalBody_append back rest _ h

/-- A template inside another one is its tree, followed without the open styles. -/
theorem exists_of_evalNested {depth : Nat} {c d : Context σ}
    (h : (evalNested (depth + 1) template).Yields c rich d) : ∃ draft c',
      (evalBody (evalNested depth) (String.ofList template) true {} (.read template)).Yields
        { c with styles.active := [] } draft c' ∧ rich = draft.text ∧
      d = { c' with styles.active := c.styles.active } := by
  obtain ⟨d', hinner, rfl⟩ := Eval.yields_withoutStyles.mp h
  obtain ⟨parsed, _, hwhole, hparsed⟩ := Eval.yields_bind.mp hinner
  obtain ⟨rfl, rfl⟩ := Eval.yields_pure.mp hparsed
  obtain ⟨draft, c', hbody, hrest⟩ := Eval.yields_bind.mp hwhole
  obtain ⟨_, _, hcleared, hresult⟩ := Eval.yields_bind.mp hrest
  obtain rfl := Eval.yields_modify.mp hcleared
  obtain ⟨rfl, rfl⟩ := Eval.yields_pure.mp hresult
  exact ⟨draft, c', hbody, rfl, rfl⟩

end Placard.Template
