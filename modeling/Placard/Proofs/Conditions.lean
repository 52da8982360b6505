import Placard.Proofs.Concatenation
import Placard.Proofs.OtherStyles
import Placard.Proofs.Quoted
import Placard.Provider.Snapshot

/-! # Conditions between templates

A template whose tags are closed, and which does not hold a character outside of them, is read as
its own tree up to this character (`ReadsBody.before`). So a condition that is made of four
templates is read as the condition of their trees (`readsTag_conditional`), and it does what its
operands and its taken branch do as templates of their own, one after the other
(`yields_condition`). -/

namespace Placard.Template

/-- The character stands for itself nowhere in the tree, outside of tags; the tags are closed, and
there is no backslash at the end. -/
def Body.Avoids (d : Char) : Body → Prop
  | .done ending => ending = .closed
  | .char c rest => c ≠ d ∧ rest.Avoids d
  | .escaped _ rest => rest.Avoids d
  | .backslash _ => False
  | .tag t _ rest => t.isClosed = true ∧ rest.Avoids d

instance decidableAvoids (d : Char) : (body : Body) → Decidable (body.Avoids d)
  | .done _ => inferInstanceAs (Decidable (_ = _))
  | .char c rest =>
    have := decidableAvoids d rest
    inferInstanceAs (Decidable (c ≠ d ∧ rest.Avoids d))
  | .escaped _ rest => decidableAvoids d rest
  | .backslash _ => inferInstanceAs (Decidable False)
  | .tag _ _ rest =>
    have := decidableAvoids d rest
    inferInstanceAs (Decidable (_ = _ ∧ rest.Avoids d))

theorem isClosed_of_avoids : (body : Body) → body.Avoids d → body.isClosed = true
  | .done _, h => decide_eq_true h
  | .char _ rest, h => isClosed_of_avoids rest h.2
  | .escaped _ rest, h => isClosed_of_avoids rest h
  | .backslash _, h => h.elim
  | .tag _ _ rest, h => isClosed_of_avoids rest h.2

/-! ## Reading -/

/-- A delimiter that is no backslash and no dollar sign, and opens no tag. -/
def IsDelimiter (d : Char) : Prop := d ≠ '\\' ∧ d ≠ '$' ∧ ∀ cs, ¬ OpensTag (d :: cs)

/-- What is read of a whole template is read of it before a delimiter that is not in it. -/
theorem ReadsBody.before (hd : IsDelimiter d) (more : List Char) {cs : List Char} {front : Body}
    (h : ReadsBody none cutOff cs front left) (havoids : front.Avoids d) :
    ReadsBody (some d) cutOff (cs ++ d :: more) front more := by
  have hescape : some d ≠ some '\\' := fun heq => hd.1 (Option.some.inj heq)
  have hdollar : some d ≠ some '$' := fun heq => hd.2.1 (Option.some.inj heq)
  match h with
  | .atEnd => exact .delimiter
  | .backslash _ => exact havoids.elim
  | .escaped _ h => exact .escaped hescape (h.before hd more havoids)
  | .tag _ ht h =>
    rw [havoids.1] at h
    have hrest := h.before hd more havoids.2
    refine readsBody_tag hdollar (ht.extend (d :: more) havoids.1) ?_ (tag_length_append _ _ _)
    rwa [havoids.1]
  | .char _ hb hopens h =>
    refine .char (fun heq => havoids.1 (Option.some.inj heq).symm) hb (fun hc => ?_)
      (h.before hd more havoids.2)
    exact not_opensTag_before h (hopens hc) fun _ => hd.2.2 more

theorem isDelimiter_comma : IsDelimiter ',' := by
  refine ⟨by decide, by decide, fun cs => ?_⟩
  rw [opensTag_cons]
  decide

theorem isDelimiter_bracket : IsDelimiter ']' := by
  refine ⟨by decide, by decide, fun cs => ?_⟩
  rw [opensTag_cons]
  decide

/-- A condition between four templates is the condition of their trees. -/
theorem readsTag_conditional (hleft : (Body.read left).Avoids ',')
    (hright : (Body.read right).Avoids ',') (hequal : (Body.read whenEqual).Avoids ',')
    (hdifferent : (Body.read whenDifferent).Avoids ']') (more : List Char) :
    ReadsTag ('[' :: (left ++ ',' :: (right ++ ',' :: (whenEqual ++ ',' ::
        (whenDifferent ++ ']' :: more)))))
      (.conditional (.read left) (.read right) (.read whenEqual) (.read whenDifferent)) more := by
  have hcomma {cs : List Char} (havoids : (Body.read cs).Avoids ',') (rest : List Char) :=
    (reads_read cs).before isDelimiter_comma rest havoids
  have hclosed {d} {cs : List Char} (havoids : (Body.read cs).Avoids d) :
      (!(Body.read cs).isClosed) = false :=
    (Bool.not_eq_false' _).mpr (isClosed_of_avoids _ havoids)
  have hbracket := (reads_read whenDifferent).before isDelimiter_bracket more hdifferent
  exact .conditional (hcomma hleft _) (hclosed hleft ▸ hcomma hright _)
    (hclosed hright ▸ hcomma hequal _) (hclosed hequal ▸ hbracket)

theorem cutOffs_of_avoids (hd : IsDelimiter d) (havoids : (Body.read cs).Avoids d) :
    (Body.read cs).cutOffs = [] :=
  ((reads_read cs).before hd [] havoids).cutOffs_eq_nil (isClosed_of_avoids _ havoids)

/-! ## Following -/

variable {σ : Type} [Provider σ] {c c' d : Context σ} {depth : Nat}

/-- What a template says by itself its tree says in another one, under any styles. -/
theorem yields_as_part {template : List Char} {parsed : Parsed}
    (hclosed : (Body.read template).cutOffs = [])
    (h : (evalWhole (evalNested depth) template).Yields c parsed d)
    (hc : Context.SameButActive c c') (name : String) : ∃ draft d',
      (evalBody (evalNested depth) name true {} (.read template)).Yields c' draft d' ∧
      draft.text.text = parsed.rich.text ∧ Context.SameButActive d d' := by
  obtain ⟨draft, c₁, hbody, rfl, rfl⟩ := yields_evalWhole_iff.mp h
  have hlast := reportsLast_evalBody (evalNested (σ := σ) depth) (reads_read template) true {}
  rw [hclosed] at hlast
  rw [hlast.eq (String.ofList template) name] at hbody
  obtain ⟨draft', d', hbody', htext, hd⟩ := yields_under_styles hc hbody
  exact ⟨draft', d', hbody', htext, (Context.SameButActive.cleared c₁).trans hd⟩

/-- A template leaves no styles open. -/
theorem cleared_of_evalWhole {nested : Info.Nested σ} {parsed : Parsed}
    (h : (evalWhole nested template).Yields c parsed d) :
    { d with styles := d.styles.cleared } = d := by
  obtain ⟨draft, c', -, -, rfl⟩ := yields_evalWhole_iff.mp h
  rfl

theorem yields_evalTaken {left right whenEqual whenDifferent : Body} {nested : Info.Nested σ}
    {name : String} {first second third : Draft} {c₁ c₂ : Context σ}
    (hleft : (evalBody nested name true {} left).Yields c first c₁)
    (hright : (evalBody nested name true {} right).Yields c₁ second c₂)
    (htaken : (evalBody nested name true {} (if first.text.text = second.text.text then whenEqual
      else whenDifferent)).Yields c₂ third d) :
    (evalTaken nested name left right whenEqual whenDifferent).Yields c third.toPiece d := by
  rw [evalTaken, hleft.bind_iff, hright.bind_iff, htaken.bind_iff]
  exact Eval.yields_pure.mpr ⟨rfl, rfl⟩

/-- A condition that is read as that of four trees does what its operands and its taken branch do as
templates, one after the other. -/
theorem yields_of_readsTag {left right whenEqual whenDifferent : List Char}
    {first second taken : Parsed} {c₁ c₂ : Context σ}
    (htag : ReadsTag cs (.conditional (.read left) (.read right) (.read whenEqual)
      (.read whenDifferent)) [])
    (hleft : (Body.read left).Avoids ',') (hright : (Body.read right).Avoids ',')
    (hequal : (Body.read whenEqual).Avoids ',')
    (hdifferent : (Body.read whenDifferent).Avoids ']')
    (hfirst : (evalWhole (evalNested depth) left).Yields c first c₁)
    (hsecond : (evalWhole (evalNested depth) right).Yields c₁ second c₂)
    (htaken : (evalWhole (evalNested depth) (if first.rich.text = second.rich.text then whenEqual
      else whenDifferent)).Yields c₂ taken d) :
    ∃ parsed, (evalWhole (evalNested depth) ('$' :: cs)).Yields c parsed d ∧
      parsed.rich.text = taken.rich.text := by
  have hclosed : (Tag.conditional (.read left) (.read right) (.read whenEqual)
      (.read whenDifferent)).isClosed = true := by
    simp only [Tag.isClosed, isClosed_of_avoids _ hleft, isClosed_of_avoids _ hright,
      isClosed_of_avoids _ hequal, isClosed_of_avoids _ hdifferent, Bool.and_self]
  have hbranch : (Body.read (if first.rich.text = second.rich.text then whenEqual
      else whenDifferent)).cutOffs = [] := by
    split
    · exact cutOffs_of_avoids isDelimiter_comma hequal
    · exact cutOffs_of_avoids isDelimiter_bracket hdifferent
  let name := String.ofList ('$' :: cs)
  have hstart : Context.SameButActive c c := rfl
  obtain ⟨draft₁, d₁, h₁, htext₁, hd₁⟩ :=
    yields_as_part (cutOffs_of_avoids isDelimiter_comma hleft) hfirst hstart name
  obtain ⟨draft₂, d₂, h₂, htext₂, hd₂⟩ :=
    yields_as_part (cutOffs_of_avoids isDelimiter_comma hright) hsecond hd₁ name
  obtain ⟨draft₃, d₃, h₃, htext₃, hd₃⟩ := yields_as_part hbranch htaken hd₂ name
  rw [← htext₁, ← htext₂, apply_ite Body.read] at h₃
  have hpiece := yields_evalTaken h₁ h₂ h₃
  rw [← evalTag_conditional_eq_evalTaken _ _ htag hclosed] at hpiece
  obtain ⟨length, hread⟩ := read_tag htag hclosed
  have hbody := yields_tag _ _ true length {} hpiece
  rw [← read_nil, ← hread] at hbody
  have hwhole := yields_evalWhole _ hbody
  rw [hd₃.cleared_eq, cleared_of_evalWhole htaken] at hwhole
  refine ⟨_, hwhole, ?_⟩
  rw [← htext₃]
  exact Piece.text_addPiece {} _ draft₃.toPiece

/-- A condition between templates is taken apart: if its operands and then the branch that is taken
succeed as templates of their own, one after the other, the condition succeeds with the text of that
branch and leaves the state that they leave. -/
theorem yields_condition {left right whenEqual whenDifferent : String}
    {first second taken : Parsed} {c₁ c₂ : Context σ}
    (hleft : (Body.read left.toList).Avoids ',') (hright : (Body.read right.toList).Avoids ',')
    (hequal : (Body.read whenEqual.toList).Avoids ',')
    (hdifferent : (Body.read whenDifferent.toList).Avoids ']')
    (hfirst : (parseLine left).Yields c first c₁)
    (hsecond : (parseLine right).Yields c₁ second c₂)
    (htaken : (parseLine (if first.rich.text = second.rich.text then whenEqual
      else whenDifferent)).Yields c₂ taken d) :
    ∃ parsed, (parseLine ("$[" ++ left ++ "," ++ right ++ "," ++ whenEqual ++ "," ++
        whenDifferent ++ "]")).Yields c parsed d ∧
      parsed.rich.text = taken.rich.text := by
  have htemplate : ("$[" ++ left ++ "," ++ right ++ "," ++ whenEqual ++ "," ++ whenDifferent ++
      "]").toList = '$' :: '[' :: (left.toList ++ ',' :: (right.toList ++ ',' ::
        (whenEqual.toList ++ ',' :: (whenDifferent.toList ++ [']'])))) := by
    simp [String.toList_append]
  rw [parseLine, apply_ite String.toList] at htaken
  rw [parseLine, htemplate]
  exact yields_of_readsTag (readsTag_conditional hleft hright hequal hdifferent []) hleft hright
    hequal hdifferent hfirst hsecond htaken

/-- All of the parts hold what closes or separates parts, in tags of their own or behind a
backslash. -/
theorem yields_condition_nested :
    let left := "$[a,a,x,y]$"
    let right := "x\\$"
    let whenEqual := "[$[b,c,d,e\\]]]"
    let whenDifferent := "f,"
    let c : Context Snapshot := { config := {}, provider := {} }
    ∃ first c₁ second c₂ taken d parsed,
      (Body.read left.toList).Avoids ',' ∧ (Body.read right.toList).Avoids ',' ∧
      (Body.read whenEqual.toList).Avoids ',' ∧ (Body.read whenDifferent.toList).Avoids ']' ∧
      (parseLine left).Yields c first c₁ ∧ (parseLine right).Yields c₁ second c₂ ∧
      (parseLine whenEqual).Yields c₂ taken d ∧ taken.rich.text = "[e]]".toList ∧
      (parseLine "$[$[a,a,x,y]$,x\\$,[$[b,c,d,e\\]]],f,]").Yields c parsed d ∧
      parsed.rich.text = taken.rich.text := by
  intro left right whenEqual whenDifferent c
  have hleft : (Body.read left.toList).Avoids ',' := by decide +kernel
  have hright : (Body.read right.toList).Avoids ',' := by decide +kernel
  have hequal : (Body.read whenEqual.toList).Avoids ',' := by decide +kernel
  have hdifferent : (Body.read whenDifferent.toList).Avoids ']' := by decide +kernel
  let c₁ := ((parseLine left).outcome c).2
  let c₂ := ((parseLine right).outcome c₁).2
  obtain ⟨first, hfirst, hx⟩ := exists_parsed left c "x$".toList (by decide +kernel)
  obtain ⟨second, hsecond, hx'⟩ := exists_parsed right c₁ "x$".toList (by decide +kernel)
  obtain ⟨taken, htaken, htext⟩ := exists_parsed whenEqual c₂ "[e]]".toList (by decide +kernel)
  have hbranch : (parseLine (if first.rich.text = second.rich.text then whenEqual
      else whenDifferent)).Yields c₂ taken ((parseLine whenEqual).outcome c₂).2 := by
    rwa [if_pos (hx.trans hx'.symm)]
  obtain ⟨parsed, hparsed, hsame⟩ :=
    yields_condition hleft hright hequal hdifferent hfirst hsecond hbranch
  exact ⟨first, c₁, second, c₂, taken, _, parsed, hleft, hright, hequal, hdifferent, hfirst,
    hsecond, htaken, htext, hparsed, hsame⟩

end Placard.Template
