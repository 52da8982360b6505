import Placard.Proofs.Concatenation
import Placard.Proofs.OtherStyles
import Placard.Provider.Snapshot

/-! # Text that goes on

Whatever is added to a text, the characters that are there keep their styles: open styles are laid
again from where they began, the ones that are new begin where the addition does, and the styles of
a piece are laid over the piece (`Piece.Follows.continues_addPiece`). So a body only adds to a draft
(`continues_evalBody`), and two templates that stand one after the other say what they say one by
one (`yields_append`). A style with the id of an earlier one begins where that one did, and so before
the addition (`styleAt_append_ne_of_wrapped`). -/

namespace Placard.Template

variable {σ : Type}

/-- The second text has the characters of the first one before all others, with the same styles. -/
structure Continues (before later : RichText) : Prop where
  text : before.text <+: later.text
  styleAt : ∀ index < before.length, later.styleAt index = before.styleAt index

namespace Continues

theorem refl (r : RichText) : Continues r r := ⟨List.prefix_rfl, fun _ _ => rfl⟩

theorem trans (h : Continues first second) (h' : Continues second third) :
    Continues first third where
  text := h.text.trans h'.text
  styleAt index hindex := by
    have hlt := Nat.lt_of_lt_of_le hindex (RichText.length_le_of_prefix h.text)
    rw [h'.styleAt index hlt, h.styleAt index hindex]

end Continues

theorem Piece.Extends.continues {piece later : Piece} (h : piece.Extends later) :
    Continues piece.text later.text where
  text := h.text
  styleAt index hindex := congrArg Style.plain.applyAll (h.spansAt index hindex)

/-- Where no styles are open, only the styles of the piece are laid. -/
theorem Piece.continues_addPiece_nil (piece added : Piece) :
    Continues piece.text (piece.addPiece [] added).text := by
  refine ⟨?_, fun index hindex => ?_⟩
  · rw [text_addPiece]
    exact List.prefix_append _ _
  · have hspans : Ranges.spansAt (piece.addPiece [] added).text.ranges index =
        Ranges.spansAt piece.text.ranges index := by
      rw [ranges_addPiece, Ranges.spansAt_append, RichText.spansAt_layered_of_lt _ hindex,
        List.append_nil]
      rfl
    exact congrArg Style.plain.applyAll hspans

namespace Piece.Follows

variable {base : Nat} {piece added : Piece} {c d : Context σ}

theorem continues_addPiece (h : piece.Follows base c) (ha : Adds base c added d) :
    Continues piece.text (piece.addPiece d.laid added).text := by
  obtain hoff | ⟨hc, hd, hrecent, hadded⟩ := ha
  · have hlaid : d.laid = [] := if_pos hoff
    rw [hlaid]
    exact continues_addPiece_nil piece added
  · obtain hoff | ⟨-, hpiece⟩ := h
    · exact absurd hoff (Bool.eq_false_iff.mp hc.colors)
    · rw [hd.laid_eq]
      exact (hpiece.extends_addPiece hd.leads hrecent hadded).continues

theorem continues_add (h : piece.Follows base c) (hids : ¬ c.Wrapped base) (x : Char) :
    Continues piece.text (piece.add c.laid [x]).text := by
  rw [add_eq_addPiece]
  exact h.continues_addPiece (h.adds hids x)

theorem congr (h : piece.Follows base c) (hconfig : d.config = c.config)
    (hstyles : d.styles = c.styles) : piece.Follows base d := by
  refine h.imp (fun hoff => hconfig ▸ hoff) fun ⟨hc, hpiece⟩ => ?_
  rw [hstyles]
  exact ⟨hc.congr hconfig hstyles, hpiece⟩

end Piece.Follows

variable [Provider σ]

/-- Following a body adds to a draft, and leaves what is there. -/
theorem continues_evalBody {base depth : Nat} {name : String} {evaluate : Bool}
    {draft result : Draft} {c d : Context σ} (body : Body) (hd : draft.toPiece.Follows base c)
    (h : (evalBody (evalNested depth) name evaluate draft body).Yields c result d)
    (hids : ¬ d.Wrapped base) :
    result.toPiece.Follows base d ∧ Continues draft.text result.text := by
  have hbefore := not_wrapped_of_yields h hids
  match body with
  | .done (.unclosed _) =>
    obtain ⟨_, _, hreport, h⟩ := Eval.yields_bind.mp h
    obtain rfl := Eval.yields_report.mp hreport
    obtain ⟨rfl, rfl⟩ := Eval.yields_pure.mp h
    exact ⟨hd.congr rfl rfl, .refl _⟩
  | .done .closed | .done .interrupted =>
    obtain ⟨rfl, rfl⟩ := Eval.yields_pure.mp h
    exact ⟨hd, .refl _⟩
  | .char x rest =>
    obtain ⟨hfollows, hrest⟩ :=
      continues_evalBody rest (hd.add hbefore x).1 (yields_char_iff.mp h) hids
    exact ⟨hfollows, (hd.continues_add hbefore x).trans hrest⟩
  | .escaped x rest =>
    obtain ⟨hfollows, hrest⟩ :=
      continues_evalBody rest (hd.add hbefore x).1 (yields_escaped_iff.mp h) hids
    exact ⟨hfollows, (hd.continues_add hbefore x).trans hrest⟩
  | .backslash rest =>
    obtain ⟨hfollows, hrest⟩ :=
      continues_evalBody rest (hd.add hbefore '\\').1 (yields_backslash_iff.mp h) hids
    exact ⟨hfollows, (hd.continues_add hbefore '\\').trans hrest⟩
  | .tag tag length rest =>
    obtain ⟨added, e, htag, h⟩ := yields_tag_iff.mp h
    have hadds := hd.adds_tag htag (not_wrapped_of_yields h hids)
    obtain ⟨hfollows, hrest⟩ := continues_evalBody rest (hd.addPiece hadds).1 h hids
    exact ⟨hfollows, (hd.continues_addPiece hadds).trans hrest⟩

/-! ## Numbers of openings -/

/-- The openings are numbered in turn, and the next number is not below `n`. -/
structure NumberedFrom (n : Nat) (c : Context σ) : Prop where
  le_count : n ≤ c.styles.count
  numbered : c.styles.Numbered

theorem invariant_numberedFrom (n : Nat) : Invariant (NumberedFrom (σ := σ) n) where
  ask h _ := { h with }
  sepResetApplied h _ := { h with }
  spliced h _ := { h with }
  report h _ := { h with }
  applyColor token c h := by
    rw [outcome_applyColor]
    split
    · exact h
    rcases ColorToken.resolve c.config token c.autoColors with ⟨failure | _ | resolved, colors⟩
    · exact { h with }
    · exact { h with }
    · exact ⟨Nat.le_trans h.le_count (OpenStyles.Leads.after _ _).count_le, h.numbered.after _⟩

theorem numberedFrom_evalWhole {nested : Info.Nested σ}
    (hn : ∀ template, Eval.Keeps (NumberedFrom n) (nested template)) (template : List Char) :
    Eval.Keeps (NumberedFrom n) (evalWhole nested template) := by
  have hP := invariant_numberedFrom (σ := σ) n
  refine hP.keeps_evalWhole hn (fun _ => hP.keeps_resolve hn fun _ _ _ h => { h with }) ?_ template
  exact fun h => ⟨h.le_count, OpenStyles.numbered_cleared _⟩

/-- The openings around a template inside another one keep their numbers, and those in it come
after them. -/
theorem numberedFrom_evalNested (depth n : Nat) (template : List Char) :
    Eval.Keeps (NumberedFrom (σ := σ) n) (evalNested depth template) := by
  induction depth generalizing n template with
  | zero => exact fun _ h => h
  | succ depth ih =>
    intro c h
    have hinner := (numberedFrom_evalWhole (ih c.styles.count) template).rich
      { c with styles.active := [] } ⟨Nat.le_refl _, .nil, nofun⟩
    refine ⟨Nat.le_trans h.le_count hinner.le_count, h.numbered.increasing, fun style hmem => ?_⟩
    exact Nat.lt_of_lt_of_le (h.numbered.lt_count style hmem) hinner.le_count

/-- Whatever a template does, also where it fails, the openings stay numbered in turn. -/
theorem numbered_parseLine (template : String) :
    Eval.Keeps (fun c : Context σ => c.styles.Numbered) (parseLine template) := by
  intro c h
  have hafter := numberedFrom_evalWhole (numberedFrom_evalNested maxDepth 0) template.toList c
    ⟨Nat.zero_le _, h⟩
  exact hafter.numbered

/-! ## Two templates -/

/-- A template that ends before what follows leaves nothing out. -/
theorem cutOffs_of_endsBefore {cs : List Char} {body : Body}
    (h : ReadsBody none cutOff cs body left) (hends : body.EndsBefore next) : body.cutOffs = [] :=
  match h with
  | .atEnd => rfl
  | .backslash _ => hends.elim
  | .escaped _ h => (cutOffs_of_endsBefore h hends :)
  | .char _ _ _ h => (cutOffs_of_endsBefore h hends.2 :)
  | .tag _ ht h => by
    rw [Body.cutOffs, ht.cutOffs_eq_nil hends.1, cutOffs_of_endsBefore h hends.2]
    rfl

/-- Behind a template that ends before it, the second template is followed on the draft of the first
one. -/
theorem yields_append_iff {depth : Nat} {first second : List Char} {draft : Draft}
    {c c' d : Context σ} {whole : Parsed} (hends : (Body.read first).EndsBefore second)
    (h : (evalBody (evalNested depth) (String.ofList first) true {} (.read first)).Yields c draft
      c') :
    (evalWhole (evalNested depth) (first ++ second)).Yields c whole d ↔
      ∃ (result : Draft) (d' : Context σ),
        (evalBody (evalNested depth) (String.ofList (first ++ second)) true draft
          (.read second)).Yields c' result d' ∧
        whole = ⟨result.text, result.plain (first ++ second)⟩ ∧
        d = { d' with styles := d'.styles.cleared } := by
  have hlast := reportsLast_evalBody (evalNested (σ := σ) depth) (reads_read first) true {}
  rw [cutOffs_of_endsBefore (reads_read first) hends] at hlast
  rw [hlast.eq (String.ofList first) (String.ofList (first ++ second))] at h
  rw [yields_evalWhole_iff, read_append hends,
    evalBody_append _ _ _ _ _ _ (isClosed_of_endsBefore _ hends)]
  simp only [h.bind_iff]

/-- Two templates one after the other, where the first one ends before the second: they succeed if
and only if the second one does in the state that the first one leaves. Then the text is that of the
first one and that of the second one behind it, and all characters of the first one have the styles
there that they have without the second one. For the styles the openings are numbered in turn, as
they are in all states that can be reached (`OpenStyles.reached_iff`, `numbered_parseLine`), and
from the oldest of the open styles to the end of the templates there are not more of them than
ids. -/
theorem yields_append {first second : String} {parsed : Parsed} {c c₁ : Context σ}
    (hends : (Body.read first.toList).EndsBefore second.toList)
    (h : (parseLine first).Yields c parsed c₁) :
    ((∃ whole d, (parseLine (first ++ second)).Yields c whole d) ↔
      ∃ later d, (parseLine second).Yields c₁ later d) ∧
    ∀ whole d later d', (parseLine (first ++ second)).Yields c whole d →
      (parseLine second).Yields c₁ later d' →
      whole.rich.text = parsed.rich.text ++ later.rich.text ∧
      (c.styles.Numbered → ¬ d.Wrapped c.styles.oldest →
        ∀ index < parsed.rich.length, whole.rich.styleAt index = parsed.rich.styleAt index) := by
  obtain ⟨draft, c', hbody, rfl, rfl⟩ := yields_evalWhole_iff.mp h
  have hwhole {whole : Parsed} {d : Context σ} :
      (evalWhole (evalNested maxDepth) (first.toList ++ second.toList)).Yields c whole d ↔ _ :=
    yields_append_iff hends hbody
  have hreads := reads_read second.toList
  have hcleared := Context.SameButActive.cleared c'
  unfold parseLine
  rw [String.toList_append]
  refine ⟨⟨?_, ?_⟩, fun whole d later d' hyields hlater => ?_⟩
  · rintro ⟨whole, d, hyields⟩
    obtain ⟨result, d', hresult, -, -⟩ := hwhole.mp hyields
    obtain ⟨later, e, _, hlater, -, -⟩ := yields_elsewhere hreads hcleared.symm hresult {} _
    exact ⟨_, _, yields_evalWhole_iff.mpr ⟨later, e, hlater, rfl, rfl⟩⟩
  · rintro ⟨later, d, hlater⟩
    obtain ⟨draft', d', hlater, -, -⟩ := yields_evalWhole_iff.mp hlater
    obtain ⟨result, e, _, hresult, -, -⟩ := yields_elsewhere hreads hcleared hlater draft _
    exact ⟨_, _, hwhole.mpr ⟨result, e, hresult, rfl, rfl⟩⟩
  · obtain ⟨result, e, hresult, rfl, rfl⟩ := hwhole.mp hyields
    obtain ⟨draft', e', halone, rfl, rfl⟩ := yields_evalWhole_iff.mp hlater
    obtain ⟨later, _, text, halone', htext, htext'⟩ :=
      yields_elsewhere hreads hcleared.symm hresult {} (String.ofList second.toList)
    obtain ⟨rfl, -⟩ := halone.unique halone'
    refine ⟨?_, fun hstyles hids => ?_⟩
    · rw [htext, htext']
      rfl
    · have hfollows := (continues_evalBody _ (.empty hstyles) hbody
        (not_wrapped_of_yields hresult hids)).1
      exact (continues_evalBody _ hfollows hresult hids).2.styleAt

/-- The first template leaves a color open and ends in a dollar sign, and the second one closes the
color and ends in a tag. -/
theorem yields_append_red :
    let first := "a$\x7b#ff0000\x7db$"
    let second := ">c$\x7b0\x7dd$<"
    let c : Context Snapshot := { config := {}, provider := {} }
    ∃ parsed c₁ whole d later d',
      (Body.read first.toList).EndsBefore second.toList ∧ c.styles.Numbered ∧
      (parseLine first).Yields c parsed c₁ ∧ parsed.rich.text = "ab$".toList ∧
      (parseLine (first ++ second)).Yields c whole d ∧ ¬ d.Wrapped c.styles.oldest ∧
      (parseLine second).Yields c₁ later d' ∧ later.rich.text = ">cd".toList ∧
      whole.rich.text = parsed.rich.text ++ later.rich.text ∧
      whole.rich.styleAt 1 = parsed.rich.styleAt 1 := by
  intro first second c
  have hends : (Body.read first.toList).EndsBefore second.toList := by decide +kernel
  have hstyles : c.styles.Numbered := ⟨.nil, nofun⟩
  let c₁ := ((parseLine first).outcome c).2
  obtain ⟨parsed, h, htext⟩ := exists_parsed first c "ab$".toList (by decide +kernel)
  obtain ⟨later, hlater, htext'⟩ := exists_parsed second c₁ ">cd".toList (by decide +kernel)
  obtain ⟨hiff, hsame⟩ := yields_append hends h
  obtain ⟨whole, d, hwhole⟩ := hiff.mpr ⟨later, _, hlater⟩
  obtain ⟨happend, hstyle⟩ := hsame whole d later _ hwhole hlater
  have hids : ¬ ((parseLine (first ++ second)).outcome c).2.Wrapped c.styles.oldest := by
    decide +kernel
  rw [hwhole] at hids
  have hlength : parsed.rich.length = 3 :=
    parsed.rich.length_eq.trans (congrArg List.length htext)
  have hlt : 1 < parsed.rich.length := hlength ▸ Nat.succ_lt_succ (Nat.succ_pos 1)
  exact ⟨parsed, c₁, whole, d, later, _, hends, hstyles, h, htext, hwhole, hids, hlater, htext',
    happend, hstyle hstyles hids 1 hlt⟩

/-- Red was opened, and after it as many styles were opened and closed as there are other ids. Then
the next color has the id of red, and is laid from where red began. -/
theorem styleAt_append_ne_of_wrapped :
    let red : Span := .foreground ⟨255, 0, 0⟩
    let styles : OpenStyles := Nat.repeat (fun styles => (styles.opened red).closed red)
      (OpenStyle.idLimit - 1) (({} : OpenStyles).opened red)
    let c : Context Snapshot := { config := {}, provider := {}, styles }
    let second := "$\x7b#00ff00\x7db"
    ∃ parsed c₁ whole d, (Body.read "a".toList).EndsBefore second.toList ∧ c.styles.Numbered ∧
      (parseLine "a").Yields c parsed c₁ ∧ (parseLine ("a" ++ second)).Yields c whole d ∧
      d.Wrapped c.styles.oldest ∧ 0 < parsed.rich.length ∧
      parsed.rich.styleAt 0 = { fg := some ⟨255, 0, 0⟩ } ∧
      whole.rich.styleAt 0 = { fg := some ⟨0, 255, 0⟩ } := by
  intro red styles c second
  have hstyles : styles = { active := [⟨0, red⟩], count := 1 + (OpenStyle.idLimit - 1) } :=
    OpenStyles.repeat_closed_opened_first red _
  clear_value styles
  subst hstyles
  have hends : (Body.read "a".toList).EndsBefore second.toList := by decide +kernel
  have hnumbered : c.styles.Numbered :=
    ⟨List.pairwise_singleton .., List.forall_mem_singleton.mpr (by decide)⟩
  obtain ⟨parsed, c₁, h, hred⟩ := Eval.exists_yields (x := parseLine "a") (c := c)
    (p := fun parsed =>
      0 < parsed.rich.length && parsed.rich.styleAt 0 = { fg := some ⟨255, 0, 0⟩ })
    (Q := fun parsed _ =>
      0 < parsed.rich.length ∧ parsed.rich.styleAt 0 = { fg := some ⟨255, 0, 0⟩ })
    (by decide +kernel) fun _ _ _ hp => by simpa using hp
  obtain ⟨whole, d, hwhole, hgreen⟩ := Eval.exists_yields (x := parseLine ("a" ++ second)) (c := c)
    (p := (·.rich.styleAt 0 = { fg := some ⟨0, 255, 0⟩ }))
    (Q := fun whole _ => whole.rich.styleAt 0 = { fg := some ⟨0, 255, 0⟩ }) (by decide +kernel)
    fun _ _ _ hp => of_decide_eq_true hp
  have hids : ((parseLine ("a" ++ second)).outcome c).2.Wrapped c.styles.oldest := by
    decide +kernel
  rw [hwhole] at hids
  exact ⟨parsed, c₁, whole, d, hends, hnumbered, h, hwhole, hids, hred.1, hred.2, hgreen⟩

end Placard.Template
