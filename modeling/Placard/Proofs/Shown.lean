import Placard.Proofs.Concatenation
import Placard.Proofs.Invariant
import Placard.Proofs.Nesting

/-! # What is shown for a template

`BodyShows shows body text` says that the text may stand for the tree, where `shows` says what may
stand for the names in its info tags. A run shows such a text, if each of its tags does
(`bodyShows_of_evalBody`), and further resets in the tree are of no matter (`BodyAlike.bodyShows`).
So a percentage is shown as its digits and a percent sign, if its color is a token
(`Info.text_of_coloredPercentage`). -/

namespace Placard.Template

mutual

/-- What may stand for a tree, where `shows` says what may stand for the names in its info tags. -/
inductive BodyShows (shows : List Char → List Char → Prop) : Body → List Char → Prop
  | done (ending) : BodyShows shows (.done ending) []
  | char : BodyShows shows rest text → BodyShows shows (.char c rest) (c :: text)
  | escaped : BodyShows shows rest text → BodyShows shows (.escaped c rest) (c :: text)
  | backslash : BodyShows shows rest text → BodyShows shows (.backslash rest) ('\\' :: text)
  | tag : TagShows shows tag shown → BodyShows shows rest text →
      BodyShows shows (.tag tag length rest) (shown ++ text)

/-- Nothing is said of conditions, of percentages and of tags that were cut off. -/
inductive TagShows (shows : List Char → List Char → Prop) : Tag → List Char → Prop
  | info : name.isClosed = true → BodyShows shows name spec → shows spec text →
      TagShows shows (.info name) text
  | color : token.isClosed = true → TagShows shows (.color token) []
  | percentage (text) : TagShows shows (.percentage numerator denominator) text
  | conditional (text) : TagShows shows (.conditional left right whenEqual whenDifferent) text
  | cutOff (text) : tag.isClosed = false → TagShows shows tag text

end

variable {shows : List Char → List Char → Prop} {shape : Shape}

theorem TagShows.eq_nil_of_color (h : TagShows shows (.color token) text)
    (hclosed : token.isClosed = true) : text = [] := by
  cases h with
  | color => rfl
  | cutOff _ hcut => cases hclosed.symm.trans hcut

theorem TagShows.of_info (h : TagShows shows (.info name) text) (hclosed : name.isClosed = true) :
    ∃ spec, BodyShows shows name spec ∧ shows spec text := by
  cases h with
  | info _ hname hshows => exact ⟨_, hname, hshows⟩
  | cutOff _ hcut => cases hclosed.symm.trans hcut

/-- Quoted text shows itself. -/
theorem exists_of_bodyShows_quoted (h : BodyShows shows (.quoted cs rest) text) :
    ∃ later, BodyShows shows rest later ∧ text = cs ++ later := by
  induction cs generalizing text with
  | nil => exact ⟨text, h, rfl⟩
  | cons c cs ih =>
    rw [Body.quoted, List.foldr_cons] at h
    split at h
    · cases h with
      | escaped h =>
        obtain ⟨later, hlater, rfl⟩ := ih h
        exact ⟨later, hlater, rfl⟩
    · cases h with
      | char h =>
        obtain ⟨later, hlater, rfl⟩ := ih h
        exact ⟨later, hlater, rfl⟩

/-! ## Trees with further resets -/

mutual

/-- What may stand for the tree with resets may stand for the one without. -/
theorem BodyAlike.bodyShows : BodyAlike shape body body' → BodyShows shows body' text →
    BodyShows shows body text
  | .done _, .done _ => .done _
  | .char _ h, .char hs => .char (h.bodyShows hs)
  | .escaped _ h, .escaped hs => .escaped (h.bodyShows hs)
  | .backslash h, .backslash hs => .backslash (h.bodyShows hs)
  | .tag ht _ h, .tag hts hs => .tag (ht.tagShows hts) (h.bodyShows hs)
  | .reset _ _ h, .tag hts hs => by
    rw [hts.eq_nil_of_color rfl]
    exact h.bodyShows hs

theorem TagAlike.tagShows : TagAlike shape tag tag' → TagShows shows tag' text →
    TagShows shows tag text
  | .info h _, .info hclosed hs hshows => .info (h.isClosed_eq ▸ hclosed) (h.bodyShows hs) hshows
  | .color h, .color hclosed => .color (h.isClosed_eq ▸ hclosed)
  | .percentage .., .percentage _ => .percentage _
  | .conditional .., .conditional _ => .conditional _
  | h, .cutOff _ hcut => .cutOff _ (h.isClosed_eq ▸ hcut)

end

/-! ## What a run shows -/

section

variable {σ : Type} [Provider σ] {P : Context σ → Prop} {nested : Info.Nested σ}

/-- On states with the property, which templates and tags keep, each tag shows such a text. -/
structure Showing (P : Context σ → Prop) (nested : Info.Nested σ)
    (shows : List Char → List Char → Prop) : Prop where
  invariant : Invariant P
  keeps_nested : ∀ template, Eval.Keeps P (nested template)
  keeps_resolve : ∀ spec, Eval.Keeps P (Info.resolve nested spec)
  shows_of_resolve {c d : Context σ} {spec : List Char} {value : Info.Value} :
    P c → (Info.resolve nested spec).Yields c value d → shows spec value.toText

variable (hS : Showing P nested shows)

include hS

mutual

/-- A run shows what may stand for its tree. -/
theorem bodyShows_of_evalBody {name : String} : ∀ (body : Body) {draft result : Draft}
    {c d : Context σ}, P c → (evalBody nested name true draft body).Yields c result d →
    ∃ text, BodyShows shows body text ∧ result.text.text = draft.text.text ++ text
  | .done ending, draft, result, _, _, _, h => by
    obtain ⟨text, hsaid, htext⟩ := maySay_of_evalBody _ h
    cases hsaid
    exact ⟨[], .done ending, htext⟩
  | .char _ rest, draft, result, _, _, hc, h => by
    simp only [evalBody, openStyles, bind_assoc, pure_bind] at h
    obtain ⟨_, _, hget, h⟩ := Eval.yields_bind.mp h
    obtain ⟨rfl, rfl⟩ := Eval.yields_get.mp hget
    obtain ⟨text, hshown, htext⟩ := bodyShows_of_evalBody rest hc h
    refine ⟨_, .char hshown, htext.trans ?_⟩
    simp only [Draft.edited, Piece.text_add, List.append_assoc, List.singleton_append]
  | .escaped _ rest, draft, result, _, _, hc, h => by
    simp only [evalBody, openStyles, bind_assoc, pure_bind] at h
    obtain ⟨_, _, hget, h⟩ := Eval.yields_bind.mp h
    obtain ⟨rfl, rfl⟩ := Eval.yields_get.mp hget
    obtain ⟨text, hshown, htext⟩ := bodyShows_of_evalBody rest hc h
    refine ⟨_, .escaped hshown, htext.trans ?_⟩
    simp only [Draft.edited, Piece.text_add, List.append_assoc, List.singleton_append]
  | .backslash rest, draft, result, _, _, hc, h => by
    simp only [evalBody, openStyles, bind_assoc, pure_bind] at h
    obtain ⟨_, _, hget, h⟩ := Eval.yields_bind.mp h
    obtain ⟨rfl, rfl⟩ := Eval.yields_get.mp hget
    obtain ⟨text, hshown, htext⟩ := bodyShows_of_evalBody rest hc h
    refine ⟨_, .backslash hshown, htext.trans ?_⟩
    simp only [Draft.edited, Piece.text_add, List.append_assoc, List.singleton_append]
  | .tag t length rest, draft, result, _, _, hc, h => by
    simp only [evalBody, openStyles, bind_assoc, pure_bind] at h
    obtain ⟨added, c', htag, h⟩ := Eval.yields_bind.mp h
    obtain ⟨_, _, hget, h⟩ := Eval.yields_bind.mp h
    obtain ⟨rfl, rfl⟩ := Eval.yields_get.mp hget
    have hkeeps := hS.invariant.keeps_evalTag hS.keeps_nested hS.keeps_resolve name true t
    obtain ⟨text, hshown, htext⟩ := bodyShows_of_evalBody rest (hkeeps.of_yields htag hc) h
    refine ⟨_, .tag (tagShows_of_evalTag t hc htag) hshown, htext.trans ?_⟩
    simp only [Draft.edited, Piece.text_addPiece, List.append_assoc]

theorem tagShows_of_evalTag {name : String} : ∀ (tag : Tag) {added : Piece} {c d : Context σ},
    P c → (evalTag nested name true tag).Yields c added d → TagShows shows tag added.text.text
  | .info spec, _, c, _, hc, h => by
    rw [evalTag] at h
    obtain ⟨draft, c', hspec, h⟩ := Eval.yields_bind.mp h
    cases hclosed : spec.isClosed with
    | false => exact .cutOff _ hclosed
    | true =>
      rw [hclosed, Bool.not_true, if_neg Bool.false_ne_true, if_neg Bool.false_ne_true] at h
      obtain ⟨value, _, hvalue, h⟩ := Eval.yields_bind.mp h
      obtain ⟨rfl, -⟩ := Eval.yields_pure.mp h
      obtain ⟨text, hshown, htext⟩ := bodyShows_of_evalBody spec hc hspec
      have hkeeps := hS.invariant.keeps_evalBody hS.keeps_nested hS.keeps_resolve name true {} spec
      have hsaid := hS.shows_of_resolve (hkeeps.of_yields hspec hc) hvalue
      rw [htext] at hsaid
      rw [Info.text_toRich]
      exact .info hclosed hshown hsaid
  | .color token, _, c, _, _, h => by
    rw [evalTag] at h
    obtain ⟨draft, c', -, h⟩ := Eval.yields_bind.mp h
    cases hclosed : token.isClosed with
    | false => exact .cutOff _ hclosed
    | true =>
      rw [hclosed, Bool.not_true, if_neg Bool.false_ne_true, if_pos rfl] at h
      obtain ⟨_, _, -, h⟩ := Eval.yields_bind.mp h
      obtain ⟨rfl, -⟩ := Eval.yields_pure.mp h
      exact .color hclosed
  | .percentage _ _, _, _, _, _, _ => .percentage _
  | .conditional _ _ _ _, _, _, _, _, _ => .conditional _

end

end

/-- So does a template inside another one. -/
theorem bodyShows_of_evalNested {σ : Type} [Provider σ] {P : Context σ → Prop} {depth : Nat}
    {c d : Context σ} (hS : Showing P (evalNested depth) shows)
    (hc : P { c with styles.active := [] }) (h : (evalNested (depth + 1) template).Yields c rich d) :
    BodyShows shows (.read template) rich.text := by
  obtain ⟨draft, c', hbody, rfl, -⟩ := exists_of_evalNested h
  obtain ⟨text, hshown, htext⟩ := bodyShows_of_evalBody hS _ hc hbody
  rw [htext]
  exact hshown

/-! ## Percentages -/

theorem read_colorTag (htoken : IsToken token) (cs : List Char) : ∃ length,
    Body.read (Info.colorTag token ++ cs) = .tag (.color (.ofChars token)) length (.read cs) := by
  rw [colorTag_append]
  exact read_tag (.color (readsBody_token htoken cs)) (isClosed_ofChars token)

theorem read_append_of_plain (hplain : ∀ c ∈ text, isSpecial c = false) (cs : List Char) :
    Body.read (text ++ cs) = .quoted text (.read cs) := by
  rw [← read_quote_append, quote_eq_self hplain]

/-- Color tags show nothing. -/
theorem bodyShows_of_colorTag (htoken : IsToken token)
    (h : BodyShows shows (.read (Info.colorTag token ++ cs)) text) :
    BodyShows shows (.read cs) text := by
  obtain ⟨length, hread⟩ := read_colorTag htoken cs
  rw [hread] at h
  cases h with
  | tag htag h =>
    rw [htag.eq_nil_of_color (isClosed_ofChars token)]
    exact h

end Placard.Template

namespace Placard.Info

open Template

/-- A percentage is shown as its digits and a percent sign, if its color is a token. -/
theorem text_of_coloredPercentage {σ : Type} [Provider σ] {c d : Context σ}
    (hcolor : IsToken (c.config.percentageColors.get (.shown percent inverted)).toList)
    (h : (coloredPercentage (evalNested depth) percent inverted).Yields c rich d) :
    rich.text = Number.writeFixed percent ++ ['%'] := by
  have hget : (get : Eval σ _).Yields c c c := rfl
  rw [coloredPercentage, hget.bind_iff] at h
  change (evalNested depth (percentageTemplate c.config.percentageColors percent inverted)).Yields
    c rich d at h
  cases depth with
  | zero => exact absurd h Eval.not_yields_throw
  | succ depth =>
    -- The template has no info tags, so nothing need be known of them.
    have hS : Showing (fun _ => True) (evalNested depth : Nested σ) fun _ _ => True :=
      ⟨⟨fun _ _ => trivial, fun _ _ => trivial, fun _ _ => trivial, fun _ _ => trivial,
        fun _ _ _ => trivial⟩, fun _ _ _ => trivial, fun _ _ _ => trivial, fun _ _ => trivial⟩
    have hshown := bodyShows_of_evalNested hS trivial h
    rw [percentageTemplate, List.append_assoc, List.append_assoc] at hshown
    replace hshown := bodyShows_of_colorTag hcolor hshown
    rw [read_append_of_plain fun _ hc => plain_of_mem_writeFixed hc] at hshown
    obtain ⟨sign, hsign, htext⟩ := exists_of_bodyShows_quoted hshown
    rw [htext]
    rw [List.singleton_append, read_char (by decide) (absurd · (by decide))] at hsign
    cases hsign with
    | char hrest =>
      rw [← List.append_nil (colorTag _)] at hrest
      have hreset := bodyShows_of_colorTag (by simp [IsToken]) hrest
      rw [read_nil] at hreset
      cases hreset
      rfl

end Placard.Info
