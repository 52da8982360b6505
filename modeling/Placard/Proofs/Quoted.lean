import Placard.Proofs.Draft
import Placard.Proofs.Eval
import Placard.Proofs.Grammar
import Placard.Proofs.TreeSimulation
import Placard.Provider.Snapshot

/-! # Quoted text

Quoted text is read as its own characters in any place of a template (`readsBody_quote`), and
following these adds the text to the draft and does nothing else (`outcome_quoted`). So a quoted
text stands for itself as a whole template, in the four places of a condition, and before each
delimiter (`yields_quote`). -/

namespace Placard.Template

/-- What quoted text is read as, before what follows it. -/
def Body.quoted (text : List Char) (rest : Body) : Body :=
  text.foldr (fun c rest => if isSpecial c then .escaped c rest else .char c rest) rest

theorem Body.isClosed_quoted (text : List Char) (rest : Body) :
    (Body.quoted text rest).isClosed = rest.isClosed := by
  induction text with
  | nil => rfl
  | cons c text ih =>
    unfold quoted
    rw [List.foldr_cons]
    split
    · exact ih
    · exact ih

/-- It may only say that text. -/
theorem eq_of_maySay_quoted (h : MaySay (.quoted text (.done ending)) said) : said = text := by
  induction text generalizing said with
  | nil =>
    cases h
    rfl
  | cons c text ih =>
    rw [Body.quoted, List.foldr_cons] at h
    split at h
    · cases h with
      | escaped h => rw [ih h]
    · cases h with
      | char h => rw [ih h]

theorem BodyAlike.quoted (text : List Char) (h : BodyAlike shape body body') :
    BodyAlike shape (.quoted text body) (.quoted text body') := by
  induction text with
  | nil => exact h
  | cons c text ih =>
    rw [Body.quoted, Body.quoted, List.foldr_cons, List.foldr_cons]
    split
    · exact .escaped c ih
    · exact .char c ih

/-! ## Reading -/

theorem quote_cons (c : Char) (text : List Char) :
    quote (c :: text) = (if isSpecial c then ['\\', c] else [c]) ++ quote text :=
  List.flatMap_cons

/-- A body ends at a special character, and not at a backslash, or at the end of the template. -/
def StopsAtSpecial (stop : Option Char) : Prop := ∀ d ∈ stop, isSpecial d = true ∧ d ≠ '\\'

/-- Quoted text is read up to its end, whatever it holds. -/
theorem readsBody_quote (hstop : StopsAtSpecial stop) (text : List Char)
    (h : ReadsBody stop false cs body left) :
    ReadsBody stop false (quote text ++ cs) (.quoted text body) left := by
  induction text with
  | nil => exact h
  | cons c text ih =>
    rw [quote_cons, Body.quoted, List.foldr_cons]
    cases hc : isSpecial c with
    | true =>
      have hescape : stop ≠ some '\\' := fun heq => (hstop _ heq).2 rfl
      exact .escaped hescape ih
    | false =>
      have hordinary : stop ≠ some c ∧ c ≠ '\\' ∧ c ≠ '$' := by
        refine ⟨fun heq => ?_, ?_, ?_⟩
        · rw [(hstop c heq).1] at hc
          cases hc
        · rintro rfl
          exact absurd hc (by decide)
        · rintro rfl
          exact absurd hc (by decide)
      exact reads_ordinary hordinary.1 hordinary.2.1 hordinary.2.2 ih

theorem readsBody_quote_delimiter (hd : isSpecial d = true ∧ d ≠ '\\') (text rest : List Char) :
    ReadsBody (some d) false (quote text ++ d :: rest) (.quoted text (.done .closed)) rest := by
  refine readsBody_quote (fun _ heq => ?_) text .delimiter
  cases heq
  exact hd

theorem read_quote_append (text cs : List Char) :
    Body.read (quote text ++ cs) = .quoted text (.read cs) := by
  have hnone : StopsAtSpecial none := nofun
  exact (readsBody_quote hnone text (reads_read cs)).read_eq

theorem read_quote (text : List Char) : Body.read (quote text) = .quoted text (.done .closed) := by
  have h := read_quote_append text []
  rwa [List.append_nil, read_nil] at h

/-- An info tag by its name. -/
theorem read_infoTag (spec cs : List Char) : ∃ length,
    Body.read ('$' :: '<' :: (quote spec ++ '>' :: cs)) =
      .tag (.info (.quoted spec (.done .closed))) length (.read cs) :=
  read_tag (.info (readsBody_quote_delimiter (by decide) spec cs)) (Body.isClosed_quoted spec _)

/-- A conditional tag. -/
def conditionalTag (left right whenEqual whenDifferent : List Char) : List Char :=
  '$' :: '[' :: (left ++ ',' :: (right ++ ',' :: (whenEqual ++ ',' :: (whenDifferent ++ [']']))))

theorem read_conditionalTag_quote (s t u v : List Char) :
    ∃ length, Body.read (conditionalTag (quote s) (quote t) (quote u) (quote v)) =
      .tag (.conditional (.quoted s (.done .closed)) (.quoted t (.done .closed))
        (.quoted u (.done .closed)) (.quoted v (.done .closed))) length (.done .closed) := by
  have hcomma (text rest : List Char) : ReadsBody (some ',') false (quote text ++ ',' :: rest)
      (.quoted text (.done .closed)) rest := readsBody_quote_delimiter (by decide) text rest
  have hclosed (text : List Char) : (!(Body.quoted text (.done .closed)).isClosed) = false := by
    rw [Body.isClosed_quoted]
    rfl
  have htag := ReadsTag.conditional (hcomma s _) (hclosed s ▸ hcomma t _) (hclosed t ▸ hcomma u _)
    (hclosed u ▸ readsBody_quote_delimiter (d := ']') (by decide) v [])
  have hreads : ReadsBody none false (conditionalTag (quote s) (quote t) (quote u) (quote v)) _ _ :=
    .tag nofun htag .atEnd
  exact ⟨_, hreads.read_eq⟩

/-! ## Following -/

variable {σ : Type} [Provider σ] (nested : Info.Nested σ) (name : String) (evaluate : Bool)

/-- Following quoted text adds it to the draft, and leaves the state as it is. -/
theorem outcome_quoted (text : List Char) (rest : Body) (draft : Draft) (c : Context σ) :
    ∃ added : Draft, added.text.text = draft.text.text ++ text ∧
      (evalBody nested name evaluate draft (.quoted text rest)).outcome c =
        (evalBody nested name evaluate added rest).outcome c := by
  induction text generalizing draft with
  | nil => exact ⟨draft, (List.append_nil _).symm, rfl⟩
  | cons x text ih =>
    let styles := if c.config.disableColors then [] else c.styles.active
    let edit := if isSpecial x then Edit.replace 2 [x] else .keep 1
    obtain ⟨added, htext, heq⟩ := ih (draft.edited (draft.add styles [x]) edit)
    refine ⟨added, ?_, ?_⟩
    · rw [htext]
      change (draft.add styles [x]).text.text ++ text = _
      rw [Piece.text_add, List.append_assoc]
      rfl
    · rw [← heq, Body.quoted, List.foldr_cons, ← Body.quoted]
      dsimp only [edit]
      cases isSpecial x <;> rfl

theorem yields_quoted (text : List Char) (c : Context σ) : ∃ draft : Draft,
    (evalBody nested name evaluate {} (.quoted text (.done .closed))).Yields c draft c ∧
      draft.text.text = text := by
  obtain ⟨draft, htext, heq⟩ := outcome_quoted nested name evaluate text (.done .closed) {} c
  exact ⟨draft, heq, htext⟩

/-- An info tag with a quoted name is for that name. -/
theorem outcome_infoTag (spec : List Char) (c : Context σ) :
    (evalTag nested name true (.info (.quoted spec (.done .closed)))).outcome c =
      (do return ({ text := (← Info.resolve nested spec).toRich } : Piece)).outcome c := by
  obtain ⟨draft, hdraft, htext⟩ := yields_quoted nested name true spec c
  rw [evalTag, Eval.outcome_bind, hdraft]
  dsimp only
  rw [Body.isClosed_quoted, htext]
  rfl

/-- A condition between quoted texts. -/
theorem yields_conditional_quoted (s t u v : List Char) (c : Context σ) : ∃ piece : Piece,
    (evalTag nested name evaluate (.conditional (.quoted s (.done .closed))
      (.quoted t (.done .closed)) (.quoted u (.done .closed))
      (.quoted v (.done .closed)))).Yields c piece c ∧
      piece.text.text = if s = t then u else v := by
  obtain ⟨first, hfirst, hs⟩ := yields_quoted nested name evaluate s c
  obtain ⟨second, hsecond, ht⟩ := yields_quoted nested name evaluate t c
  obtain ⟨third, hthird, hu⟩ := yields_quoted nested name (evaluate && decide (s = t)) u c
  obtain ⟨fourth, hfourth, hv⟩ := yields_quoted nested name (evaluate && !decide (s = t)) v c
  have hclosed (text : List Char) : (Body.quoted text (.done .closed)).isClosed = true :=
    Body.isClosed_quoted text _
  refine ⟨if s = t then third.toPiece else fourth.toPiece, ?_, ?_⟩
  · rw [evalTag, hfirst.bind_iff, hclosed s]
    refine hsecond.bind_iff.mpr ?_
    rw [hclosed t, hs, ht]
    refine hthird.bind_iff.mpr ?_
    rw [hclosed u]
    refine hfourth.bind_iff.mpr ?_
    rw [hclosed v]
    exact Eval.yields_pure.mpr ⟨rfl, rfl⟩
  · split
    · exact hu
    · exact hv

/-- A tag that ends a body is added under the styles that are open after it. -/
theorem yields_tag (length : Nat) (draft : Draft) {c d : Context σ}
    (h : (evalTag nested name evaluate tag).Yields c added d) :
    (evalBody nested name evaluate draft (.tag tag length (.done .closed))).Yields c
      (draft.edited (draft.addPiece d.laid added) (.replace length added.text.text)) d := by
  rw [evalBody, h.bind_iff]
  rfl

/-- At the end of a template its styles are closed, and nothing else is done. -/
theorem yields_evalWhole {template : List Char} {draft : Draft} {c d : Context σ}
    (h : (evalBody nested (String.ofList template) true {} (.read template)).Yields c draft d) :
    (evalWhole nested template).Yields c ⟨draft.text, draft.plain template⟩
      { d with styles := d.styles.cleared } := by
  rw [evalWhole, h.bind_iff]
  rfl

/-- A quoted text stands for itself: as a template, in each place of a condition, and before each
delimiter, which ends it. Apart from the end of the template, which closes the styles, the state
stays as it is. -/
theorem yields_quote (c : Context σ) (s t u v : List Char) :
    (∃ parsed, (evalWhole nested (quote s)).Yields c parsed
        { c with styles := c.styles.cleared } ∧ parsed.rich.text = s) ∧
    (∃ parsed, (evalWhole nested (conditionalTag (quote s) (quote t) (quote u) (quote v))).Yields c
        parsed { c with styles := c.styles.cleared } ∧
      parsed.rich.text = if s = t then u else v) ∧
    ∀ d ∈ [',', ']', '>', '\x7d', '%'], ∀ rest,
      let reading := (readBody (some d) false (quote s ++ d :: rest)).1
      reading.1.isClosed = true ∧ reading.2 = rest ∧
      ∃ draft : Draft, (evalBody nested name evaluate {} reading.1).Yields c draft c ∧
        draft.text.text = s := by
  refine ⟨?_, ?_, fun d hd rest => ?_⟩
  · obtain ⟨draft, hdraft, htext⟩ := yields_quoted nested (String.ofList (quote s)) true s c
    rw [← read_quote] at hdraft
    exact ⟨_, yields_evalWhole nested hdraft, htext⟩
  · obtain ⟨length, hread⟩ := read_conditionalTag_quote s t u v
    obtain ⟨piece, hpiece, htext⟩ := yields_conditional_quoted nested
      (String.ofList (conditionalTag (quote s) (quote t) (quote u) (quote v))) true s t u v c
    have hbody := yields_tag nested _ true length {} hpiece
    rw [← hread] at hbody
    refine ⟨_, yields_evalWhole nested hbody, ?_⟩
    rw [← htext]
    exact Piece.text_addPiece {} _ piece
  · have hspecial : isSpecial d = true ∧ d ≠ '\\' := by
      simp only [List.mem_cons, List.not_mem_nil, or_false] at hd
      rcases hd with rfl | rfl | rfl | rfl | rfl <;> decide
    have hreads := readsBody_quote_delimiter hspecial s rest
    obtain ⟨hbody, hleft⟩ := hreads.unique (reads_readBody (some d) false (quote s ++ d :: rest))
    dsimp only
    rw [hbody, hleft]
    exact ⟨Body.isClosed_quoted s _, rfl, yields_quoted nested name evaluate s c⟩

/-- All special characters, quoted before a comma. -/
theorem yields_quote_specials :
    let s := ",]>\x7d%$\\".toList
    let c : Context Snapshot := { config := {}, provider := {} }
    ',' ∈ [',', ']', '>', '\x7d', '%'] ∧
      let reading := (readBody (some ',') false (quote s ++ ',' :: "x".toList)).1
      reading.1.isClosed = true ∧ reading.2 = "x".toList ∧
      ∃ draft : Draft, (evalBody (evalNested maxDepth) "" true {} reading.1).Yields c draft c ∧
        draft.text.text = s := by
  intro s c
  have hcomma : ',' ∈ [',', ']', '>', '\x7d', '%'] := by decide
  exact ⟨hcomma,
    (yields_quote (evalNested maxDepth) "" true c s [] [] []).2.2 ',' hcomma "x".toList⟩

end Placard.Template
