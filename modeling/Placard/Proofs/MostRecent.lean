import Placard.Proofs.Invariant
import Placard.Proofs.Places
import Placard.Proofs.Standing
import Placard.Provider.Snapshot

/-! # The style of a character

`ReadAt` says that a character of a template is read as itself in a certain state, and where it
comes in the text. While a body is followed, the text under construction keeps the open spans laid
up to its end (`laid_evalBody`), and what a character shows when it is added (`Piece.Shows`) it
shows ever after (`shows_of_readAt`). So its style is the one that the spans that were open when it
was read add up to, each place counted once (`styleAt_of_readAt`). A color that is opened a second
time at its place is not counted again, and another one that came over it stays on top
(`styleAt_ne_of_reopened`). -/

namespace Placard

variable {σ : Type}

/-! ## Open styles along a run -/

/-- With colors, a state to which the open styles can have led, with the openings numbered from
`base` on. -/
structure Context.After (base : Nat) (styles : OpenStyles) (c : Context σ) : Prop where
  colors : c.config.disableColors = false
  leads : styles.Leads c.styles
  numbered : c.styles.Numbered
  since : c.styles.Since base

/-- With colors, there were more openings since `base` than there are ids. -/
def Context.Wrapped (base : Nat) (c : Context σ) : Prop :=
  c.config.disableColors = false ∧ base + OpenStyle.idLimit < c.styles.count

instance (base : Nat) (c : Context σ) : Decidable (c.Wrapped base) :=
  inferInstanceAs (Decidable (_ ∧ _))

namespace Context.After

variable {base : Nat} {styles : OpenStyles} {c d : Context σ}

theorem self (h : After base styles c) : After base c.styles c :=
  ⟨h.colors, .refl _, h.numbered, h.since⟩

theorem trans {earlier : OpenStyles} (h : After base styles c) (h' : earlier.Leads styles) :
    After base earlier c := ⟨h.colors, h'.trans h.leads, h.numbered, h.since⟩

theorem laid_eq (h : After base styles c) : c.laid = c.styles.active := by
  rw [laid, h.colors]
  rfl

theorem recent (h : After base styles c) (hlast : c.styles.count ≤ base + OpenStyle.idLimit) :
    c.styles.Recent base := ⟨h.numbered, h.since, hlast⟩

theorem count_le (h : After base styles c) (hids : ¬ c.Wrapped base) :
    c.styles.count ≤ base + OpenStyle.idLimit := Nat.le_of_not_lt fun hlt => hids ⟨h.colors, hlt⟩

/-- A state with the same styles and settings. -/
theorem congr (h : After base styles c) (hconfig : d.config = c.config)
    (hstyles : d.styles = c.styles) : After base styles d :=
  ⟨hconfig ▸ h.colors, hstyles ▸ h.leads, hstyles ▸ h.numbered, hstyles ▸ h.since⟩

end Context.After

namespace Template

open Eval (Keeps)

theorem after_applyColor (token : String) (base : Nat) (styles : OpenStyles) :
    Keeps (Context.After (σ := σ) base styles) (applyColor token) := by
  intro c h
  rw [outcome_applyColor, h.colors, if_neg Bool.false_ne_true]
  rcases ColorToken.resolve c.config token c.autoColors with ⟨failure | _ | resolved, colors⟩
  · exact h.congr rfl rfl
  · exact h.congr rfl rfl
  · have hafter := OpenStyles.Leads.after c.styles resolved.action
    exact ⟨h.colors, h.leads.trans hafter, h.numbered.after _, hafter.since h.since⟩

variable [Provider σ] {base : Nat}

theorem invariant_after (base : Nat) (styles : OpenStyles) :
    Invariant (Context.After (σ := σ) base styles) where
  ask h _ := h.congr rfl rfl
  sepResetApplied h _ := h.congr rfl rfl
  spliced h _ := h.congr rfl rfl
  report h _ := h.congr rfl rfl
  applyColor token := after_applyColor token base styles

section

variable {nested : Info.Nested σ}
  (hn : ∀ styles template, Keeps (Context.After base styles) (nested template))

include hn

theorem after_resolve (styles : OpenStyles) (spec : List Char) :
    Keeps (Context.After base styles) (Info.resolve nested spec) :=
  (invariant_after base styles).keeps_resolve (hn styles) fun _ _ _ h => h.congr rfl rfl

theorem after_evalBody {name : String} {evaluate : Bool} {draft result : Draft} {body : Body}
    {c d : Context σ} {styles : OpenStyles} (hc : c.After base styles)
    (h : (evalBody nested name evaluate draft body).Yields c result d) : d.After base styles :=
  ((invariant_after base styles).keeps_evalBody (hn styles) (after_resolve hn styles) _ _ _ _).of_yields
    h hc

theorem after_evalTag {name : String} {evaluate : Bool} {tag : Tag} {added : Piece}
    {c d : Context σ} {styles : OpenStyles} (hc : c.After base styles)
    (h : (evalTag nested name evaluate tag).Yields c added d) : d.After base styles :=
  ((invariant_after base styles).keeps_evalTag (hn styles) (after_resolve hn styles) _ _ _).of_yields
    h hc

end

/-- A template inside another one leaves its open styles alone, and the numbers go on. -/
theorem after_evalNested (base depth : Nat) (styles : OpenStyles) (template : List Char) :
    Keeps (Context.After (σ := σ) base styles) (evalNested depth template) := by
  induction depth generalizing styles template with
  | zero => exact fun _ h => h
  | succ depth ih =>
    have hwhole (styles : OpenStyles) :=
      (invariant_after (σ := σ) base styles).keeps_evalWhole (ih styles) (after_resolve ih styles)
        (fun h => ⟨h.colors, h.leads.trans (.cleared _), OpenStyles.numbered_cleared _,
          (OpenStyles.Leads.cleared _).since h.since⟩) template
    intro c h
    let inner := { c with styles.active := [] }
    have hinner : inner.After base inner.styles :=
      ⟨h.colors, .refl _, ⟨.nil, nofun⟩, h.since.le_count, nofun⟩
    have hafter := (hwhole inner.styles).rich inner hinner
    have hcount : c.styles.count ≤ _ := hafter.leads.count_le
    refine ⟨hafter.colors, ⟨Nat.le_trans h.leads.count_le hcount, h.leads.active_eq⟩,
      ⟨h.numbered.increasing, fun style hstyle => ?_⟩, hafter.since.le_count, h.since.le_number⟩
    exact Nat.lt_of_lt_of_le (h.numbered.lt_count style hstyle) hcount

/-- Openings are not taken back. -/
theorem invariant_wrapped (base : Nat) : Invariant (Context.Wrapped (σ := σ) base) where
  ask h _ := h
  sepResetApplied h _ := h
  spliced h _ := h
  report h _ := h
  applyColor token c h := by
    rw [outcome_applyColor]
    split
    · exact h
    rcases ColorToken.resolve c.config token c.autoColors with ⟨failure | _ | resolved, colors⟩
    · exact h
    · exact h
    · exact ⟨h.1, Nat.lt_of_lt_of_le h.2 (OpenStyles.Leads.after _ _).count_le⟩

theorem wrapped_evalBody (base depth : Nat) (name : String) (evaluate : Bool) (draft : Draft)
    (body : Body) : Keeps (Context.Wrapped (σ := σ) base)
      (evalBody (evalNested depth) name evaluate draft body) := by
  have hP := invariant_wrapped (σ := σ) base
  have hn := hP.keeps_evalNested id (fun _ h => h) (fun _ _ _ h => h) depth
  exact hP.keeps_evalBody hn (fun _ => hP.keeps_resolve hn fun _ _ _ h => h) _ _ _ _

/-! ## What a body lays -/

section

variable {nested : Info.Nested σ} {name : String} {base : Nat}

omit [Provider σ] in
theorem yields_openStyles {c d : Context σ} {styles : List OpenStyle} (hc : c.After base c.styles)
    (h : openStyles.Yields c styles d) : styles = c.styles.active ∧ d = c := by
  obtain ⟨_, _, hget, h⟩ := Eval.yields_bind.mp h
  obtain ⟨rfl, rfl⟩ := Eval.yields_get.mp hget
  obtain ⟨rfl, rfl⟩ := Eval.yields_pure.mp h
  exact ⟨hc.laid_eq, rfl⟩

theorem Standing.after (hn : ∀ styles template, Keeps (Context.After base styles) (nested template))
    (hs : Standing nested name evaluate c tag evaluate' body d) (hc : c.After base c.styles) :
    d.After base c.styles := by
  have hcompared {left right : Body} {equal : Bool} {d : Context σ}
      (h : Compared nested name evaluate c left right equal d) : d.After base c.styles := by
    obtain ⟨first, second, c', hfirst, -, hsecond, -, -⟩ := h
    exact after_evalBody hn (after_evalBody hn hc hfirst) hsecond
  cases hs with
  | info | color | numerator | left => exact hc
  | denominator h | right h => exact after_evalBody hn hc h
  | whenEqual h => exact hcompared h
  | whenDifferent h h' => exact after_evalBody hn (hcompared h) h'

/-- A tag knows where styles began as the part knows that stands for it. -/
theorem begun_of_parts (hn : ∀ styles template, Keeps (Context.After base styles) (nested template))
    (hpart : ∀ {evaluate' body c' part d'}, sizeOf body < sizeOf tag → c'.After base c'.styles →
      (evalBody nested name evaluate' {} body).Yields c' part d' →
      d'.styles.count ≤ base + OpenStyle.idLimit → part.toPiece.Begun base d'.styles)
    (hc : c.After base c.styles) (h : (evalTag nested name evaluate tag).Yields c added d)
    (hlast : d.styles.count ≤ base + OpenStyle.idLimit) : added.Begun base d.styles := by
  obtain ⟨-, _, -, rfl⟩ | rfl | ⟨evaluate', body, c', hs⟩ := valued_or_standing h
  · exact Piece.begun_of_starts_eq_nil rfl ..
  · exact Piece.begun_of_starts_eq_nil rfl ..
  · obtain ⟨part, d', hyields, rfl, hstyles⟩ := hs.yields h
    rw [hstyles] at hlast ⊢
    exact hpart hs.sizeOf_lt (hs.after hn hc).self hyields hlast

/-- Following a body lays the open spans over what is added, and leaves what is there. All openings
up to its end have different ids. -/
theorem laid_evalBody (hn : ∀ styles template, Keeps (Context.After base styles) (nested template))
    {evaluate : Bool} {draft result : Draft} {c d : Context σ} (body : Body)
    (hc : c.After base c.styles) (hd : draft.toPiece.Laid base c.styles)
    (h : (evalBody nested name evaluate draft body).Yields c result d)
    (hlast : d.styles.count ≤ base + OpenStyle.idLimit) :
    result.toPiece.Laid base d.styles ∧ draft.toPiece.Extends result.toPiece := by
  have hrecent := hc.recent (Nat.le_trans (after_evalBody hn hc h).leads.count_le hlast)
  match body with
  | .done ending =>
    have hresult : result = draft ∧ d.styles = c.styles := by
      cases ending with
      | unclosed delimiter =>
        simp only [evalBody, Eval.yields_bind, Eval.yields_report, Eval.yields_pure] at h
        obtain ⟨_, _, rfl, rfl, rfl⟩ := h
        exact ⟨rfl, rfl⟩
      | closed | interrupted =>
        obtain ⟨rfl, rfl⟩ := Eval.yields_pure.mp h
        exact ⟨rfl, rfl⟩
    rw [hresult.1, hresult.2]
    exact ⟨hd, .refl _⟩
  | .char x rest | .escaped x rest =>
    simp only [evalBody, Eval.yields_bind] at h
    obtain ⟨styles, _, hopen, h⟩ := h
    obtain ⟨rfl, rfl⟩ := yields_openStyles hc hopen
    obtain ⟨hlaid, hextends⟩ := laid_evalBody hn rest hc (hd.add hrecent x) h hlast
    exact ⟨hlaid, (hd.extends_add hrecent x).trans hextends⟩
  | .backslash rest =>
    simp only [evalBody, Eval.yields_bind] at h
    obtain ⟨styles, _, hopen, h⟩ := h
    obtain ⟨rfl, rfl⟩ := yields_openStyles hc hopen
    obtain ⟨hlaid, hextends⟩ := laid_evalBody hn rest hc (hd.add hrecent '\\') h hlast
    exact ⟨hlaid, (hd.extends_add hrecent '\\').trans hextends⟩
  | .tag tag length rest =>
    simp only [evalBody, Eval.yields_bind] at h
    obtain ⟨added, e, htag, styles, e', hopen, h⟩ := h
    have he := after_evalTag hn hc htag
    obtain ⟨rfl, heq⟩ := yields_openStyles he.self hopen
    subst e'
    have hafter := Nat.le_trans (after_evalBody hn he.self h).leads.count_le hlast
    have hbegun := begun_of_parts hn (fun {_ body _ _ _} _ hc' hpart hlast' =>
      (laid_evalBody hn body hc' (Piece.laid_empty ..) hpart hlast').1.toBegun) hc htag hafter
    have hadded := hd.addPiece he.leads (he.recent hafter) hbegun
    obtain ⟨hlaid, hextends⟩ := laid_evalBody hn rest he.self hadded h hlast
    exact ⟨hlaid, (hd.extends_addPiece he.leads (he.recent hafter) hbegun).trans hextends⟩
termination_by sizeOf body

/-! ## Reading a character -/

/-- Following a body from `c` reads a character that stands for itself: as `x`, into a text under
construction, while the state is the last one. In the text of the body it comes at `index`. The
character is one of the body or of a part that stands for a tag in it. -/
inductive ReadAt (nested : Info.Nested σ) (name : String) :
    Bool → Draft → Body → Context σ → (index : Nat) → (x : Char) → Piece → Context σ → Prop
  | char (x rest) : ReadAt nested name evaluate draft (.char x rest) c draft.text.length x
      draft.toPiece c
  | escaped (x rest) : ReadAt nested name evaluate draft (.escaped x rest) c draft.text.length x
      draft.toPiece c
  | backslash (rest) : ReadAt nested name evaluate draft (.backslash rest) c draft.text.length '\\'
      draft.toPiece c
  | inTag (length rest) : Standing nested name evaluate c tag evaluate' body d →
      ReadAt nested name evaluate' {} body d index x before e →
      ReadAt nested name evaluate draft (.tag tag length rest) c (draft.text.length + index) x
        before e
  | afterChar (y) :
      ReadAt nested name evaluate (draft.edited (draft.add c.laid [y]) (.keep 1)) rest c
        index x before e →
      ReadAt nested name evaluate draft (.char y rest) c index x before e
  | afterEscaped (y) :
      ReadAt nested name evaluate (draft.edited (draft.add c.laid [y]) (.replace 2 [y])) rest c
        index x before e →
      ReadAt nested name evaluate draft (.escaped y rest) c index x before e
  | afterTag (length) : (evalTag nested name evaluate tag).Yields c added d →
      ReadAt nested name evaluate
        (draft.edited (draft.addPiece d.laid added) (.replace length added.text.text)) rest d
        index x before e →
      ReadAt nested name evaluate draft (.tag tag length rest) c index x before e

/-- A character of the piece was read in the state `e` into `before`: over it there are the spans
that were open then, and below them none that were not. Styles that begin up to it were opened by
then. -/
structure Piece.Shows (base : Nat) (piece : Piece) (index : Nat) (x : Char) (before : Piece)
    (e : Context σ) : Prop where
  text : piece.text.text[index]? = some x
  spans : ∃ below : List Span, (∀ span ∈ below, span ∈ e.styles.active.map (·.span)) ∧
    Ranges.spansAt piece.text.ranges index = below ++ Place.spans (before.places e.styles.active)
  starts : ∀ number start, base ≤ number → number < base + OpenStyle.idLimit →
    piece.starts.lookup (number % OpenStyle.idLimit) = some start → start ≤ index →
      number < e.styles.count

namespace Piece.Shows

variable {piece before later : Piece} {index : Nat} {x : Char} {c d e : Context σ}

omit [Provider σ]

theorem lt_length (h : Shows base piece index x before e) : index < piece.text.length := by
  rw [RichText.length_eq]
  exact (List.getElem?_eq_some_iff.mp h.text).1

/-- What comes after a character does not matter to it. -/
theorem of_extends (h : Shows base piece index x before e) (hextends : piece.Extends later) :
    Shows base later index x before e where
  text := by
    obtain ⟨after, hafter⟩ := hextends.text
    rw [← hafter, List.getElem?_append_left (piece.text.length_eq ▸ h.lt_length)]
    exact h.text
  spans := by
    rw [hextends.spansAt index h.lt_length]
    exact h.spans
  starts number start hbase hlimit hstart hle := by
    obtain hstart | hstart := hextends.starts _ start hstart
    · exact h.starts number start hbase hlimit hstart hle
    · exact absurd h.lt_length (Nat.not_lt.mpr (Nat.le_trans hstart hle))

/-- A character that is added shows what is open. -/
theorem add (hlaid : piece.Laid base c.styles) (hc : c.styles.Recent base) (x : Char) :
    Shows base (piece.add c.styles.active [x]) piece.text.length x piece c where
  text := by
    rw [text_add, RichText.length_eq, List.getElem?_concat_length]
  spans := ⟨[], nofun, hlaid.spansAt_add hc x⟩
  starts number start hbase hlimit hstart _ :=
    ((hlaid.add hc x).bounded number start hbase hlimit hstart).1

/-- A character of a part shows in the text around it what it shows in the part. -/
theorem addPiece {added : Piece} (h : Shows base added index x before e)
    (hadded : added.Laid base d.styles) (hd : d.styles.Recent base)
    (hlaid : piece.Laid base c.styles) (hce : c.styles.count ≤ e.styles.count)
    (hed : e.styles.Leads d.styles) :
    Shows base (piece.addPiece d.styles.active added) (piece.text.length + index) x before e := by
  have hstarts (number start : Nat) (hbase : base ≤ number)
      (hlimit : number < base + OpenStyle.idLimit)
      (hstart : (piece.addPiece d.styles.active added).starts.lookup
        (number % OpenStyle.idLimit) = some start)
      (hle : start ≤ piece.text.length + index) : number < e.styles.count := by
    cases hpiece : piece.starts.lookup (number % OpenStyle.idLimit) with
    | some known =>
      exact Nat.lt_of_lt_of_le (hlaid.bounded number known hbase hlimit hpiece).1 hce
    | none =>
      cases hnew : added.starts.lookup (number % OpenStyle.idLimit) with
      | some offset =>
        obtain rfl := Option.some.inj ((lookup_addPiece_of_added hpiece hnew).symm.trans hstart)
        exact h.starts number offset hbase hlimit hnew (Nat.le_of_add_le_add_left hle)
      | none =>
        -- The part is not empty, so it knows all styles that are open at its end.
        obtain ⟨-, style, hstyle, hid⟩ := eq_of_lookup_addPiece hpiece hnew hstart
        have hne : added.text.text ≠ [] :=
          List.ne_nil_of_length_pos (added.text.length_eq ▸ Nat.zero_lt_of_lt h.lt_length)
        have hknown := hadded.started hne style hstyle
        rw [hid, hnew] at hknown
        cases hknown
  refine ⟨?_, ?_, hstarts⟩
  · rw [text_addPiece, RichText.length_eq, List.getElem?_append_right (Nat.le_add_right ..),
      Nat.add_sub_cancel_left]
    exact h.text
  · obtain ⟨below, hbelow, hspans⟩ := hlaid.spansAt_addPiece h.lt_length
    obtain ⟨below', hbelow', hspans'⟩ := h.spans
    refine ⟨below ++ below', ?_, by rw [hspans, hspans', List.append_assoc]⟩
    refine List.forall_mem_append.mpr ⟨fun span hspan => ?_, hbelow'⟩
    obtain ⟨style, hstyle, rfl, start, hstart, hle⟩ := hbelow span hspan
    have hlimit := Nat.lt_of_lt_of_le (hd.lt_count style hstyle) hd.count_le
    have hlt := hstarts _ start (hd.le_number style hstyle) hlimit hstart hle
    exact List.mem_map_of_mem (hed.mem_of_lt hstyle hlt)

end Piece.Shows

/-- What the text of a body shows at a character that was read. -/
theorem shows_of_readAt (hn : ∀ styles template, Keeps (Context.After base styles) (nested template))
    {evaluate : Bool} {draft result : Draft} {body : Body} {c d e : Context σ} {index : Nat}
    {x : Char} {before : Piece} (hread : ReadAt nested name evaluate draft body c index x before e)
    (hc : c.After base c.styles) (hd : draft.toPiece.Laid base c.styles)
    (h : (evalBody nested name evaluate draft body).Yields c result d)
    (hlast : d.styles.count ≤ base + OpenStyle.idLimit) :
    result.toPiece.Shows base index x before e ∧ e.After base c.styles ∧
      d.After base e.styles := by
  have hafter := after_evalBody hn hc h
  have hrecent := hc.recent (Nat.le_trans hafter.leads.count_le hlast)
  induction hread generalizing result d with
  | char x rest | escaped x rest =>
    simp only [evalBody, Eval.yields_bind] at h
    obtain ⟨styles, _, hopen, h⟩ := h
    obtain ⟨rfl, rfl⟩ := yields_openStyles hc hopen
    have hextends := (laid_evalBody hn rest hc (hd.add hrecent x) h hlast).2
    exact ⟨(Piece.Shows.add hd hrecent x).of_extends hextends, hc, hafter⟩
  | backslash rest =>
    simp only [evalBody, Eval.yields_bind] at h
    obtain ⟨styles, _, hopen, h⟩ := h
    obtain ⟨rfl, rfl⟩ := yields_openStyles hc hopen
    have hextends := (laid_evalBody hn rest hc (hd.add hrecent '\\') h hlast).2
    exact ⟨(Piece.Shows.add hd hrecent '\\').of_extends hextends, hc, hafter⟩
  | afterChar y _ ih | afterEscaped y _ ih =>
    simp only [evalBody, Eval.yields_bind] at h
    obtain ⟨styles, _, hopen, h⟩ := h
    obtain ⟨rfl, rfl⟩ := yields_openStyles hc hopen
    rw [hc.laid_eq] at ih
    exact ih hc (hd.add hrecent y) h hlast hafter hrecent
  | inTag length rest hs _ ih =>
    simp only [evalBody, Eval.yields_bind] at h
    obtain ⟨added, c', htag, styles, _, hopen, h⟩ := h
    have hc' := after_evalTag hn hc htag
    obtain ⟨rfl, rfl⟩ := yields_openStyles hc'.self hopen
    have hlast' := Nat.le_trans (after_evalBody hn hc'.self h).leads.count_le hlast
    obtain ⟨part, d', hpart, rfl, hstyles⟩ := hs.yields htag
    have hlast'' := hstyles ▸ hlast'
    have hfrom := (hs.after hn hc).self
    have hafter' := after_evalBody hn hfrom hpart
    obtain ⟨hshows, he, hd'⟩ := ih hfrom (Piece.laid_empty ..) hpart hlast'' hafter'
      (hfrom.recent (Nat.le_trans hafter'.leads.count_le hlast''))
    have hlaid := (laid_evalBody hn _ hfrom (Piece.laid_empty ..) hpart hlast'').1
    have hleads := hd'.leads
    rw [← hstyles] at hlaid hleads
    have hrecent' := hc'.recent hlast'
    have hextends := (laid_evalBody hn rest hc'.self
      (hd.addPiece hc'.leads hrecent' hlaid.toBegun) h hlast).2
    have hleads' := (hs.after hn hc).leads
    have hcount := (hleads'.trans he.leads).count_le
    refine ⟨(hshows.addPiece hlaid hrecent' hd hcount hleads).of_extends hextends,
      he.trans hleads', ?_⟩
    exact after_evalBody hn ⟨hc'.colors, hleads, hc'.numbered, hc'.since⟩ h
  | afterTag length htag _ ih =>
    simp only [evalBody, Eval.yields_bind] at h
    obtain ⟨added, c', htag', styles, _, hopen, h⟩ := h
    obtain ⟨rfl, rfl⟩ := htag.unique htag'
    have hc' := after_evalTag hn hc htag
    obtain ⟨rfl, rfl⟩ := yields_openStyles hc'.self hopen
    have hafter' := after_evalBody hn hc'.self h
    have hrecent' := hc'.recent (Nat.le_trans hafter'.leads.count_le hlast)
    have hbegun := begun_of_parts hn (fun {_ body _ _ _} _ hc' hpart hlast' =>
      (laid_evalBody hn body hc' (Piece.laid_empty ..) hpart hlast').1.toBegun) hc htag
      hrecent'.count_le
    rw [hc'.laid_eq] at ih
    obtain ⟨hshows, he, hd'⟩ :=
      ih hc'.self (hd.addPiece hc'.leads hrecent' hbegun) h hlast hafter' hrecent'
    exact ⟨hshows, he.trans hc'.leads, hd'⟩

/-- The style of a character that stands for itself, in a template at any depth, comes of the spans
that were open when it was read, the oldest first and each place counted once. So its modifiers are
those of all of them. Its colors are the most recent ones, unless these were open already, from the
same place on, when others came over them. The openings are numbered in turn, as they are in all
states that can be reached (`OpenStyles.reached_iff`), and from the oldest of the open styles to the
end of the template there are not more of them than ids. -/
theorem styleAt_of_readAt {depth : Nat} {template : List Char} {c d e : Context σ} {parsed : Parsed}
    {index : Nat} {x : Char} {before : Piece} (hcolors : c.config.disableColors = false)
    (hstyles : c.styles.Numbered)
    (h : (evalWhole (evalNested depth) template).Yields c parsed d)
    (hids : ¬ d.Wrapped c.styles.oldest)
    (hread : ReadAt (evalNested depth) (String.ofList template) true {} (.read template) c index x
      before e) :
    parsed.rich.text[index]? = some x ∧
      parsed.rich.styleAt index =
        Style.plain.applyAll (Place.spans (before.places e.styles.active)) ∧
      (parsed.rich.styleAt index).modifiers = .unionAll (e.styles.active.map (·.span.modifiers)) ∧
      (parsed.rich.styleAt index = Style.plain.applyAll (e.styles.active.map (·.span)) ↔
        Place.Settled (before.places e.styles.active)) := by
  obtain ⟨draft, c', hbody, h⟩ := Eval.yields_bind.mp h
  obtain ⟨_, _, hclear, h⟩ := Eval.yields_bind.mp h
  obtain rfl := Eval.yields_modify.mp hclear
  obtain ⟨rfl, rfl⟩ := Eval.yields_pure.mp h
  have hc : c.After c.styles.oldest c.styles := ⟨hcolors, .refl _, hstyles, hstyles.since_oldest⟩
  have hafter := after_evalBody (after_evalNested _ depth) hc hbody
  obtain ⟨⟨htext, ⟨below, hbelow, hspans⟩, -⟩, -, -⟩ := shows_of_readAt (after_evalNested _ depth)
    hread hc (Piece.laid_empty ..) hbody (hafter.count_le hids)
  have hplaces : (before.places e.styles.active).map (·.1) = e.styles.active.map (·.span) := by
    unfold Piece.places
    rw [List.map_map]
    rfl
  have hstyle : draft.text.styleAt index =
      Style.plain.applyAll (Place.spans (before.places e.styles.active)) := by
    change Style.plain.applyAll (Ranges.spansAt draft.text.ranges index) = _
    rw [hspans]
    refine Style.applyAll_append_of_subset fun span hspan => ?_
    rw [Place.mem_spans, hplaces]
    exact hbelow span hspan
  refine ⟨htext, hstyle, ?_, ?_⟩
  · change (draft.text.styleAt index).modifiers = _
    rw [hstyle, Style.modifiers_applyAll]
    refine Modifiers.unionAll_eq fun m => ?_
    simp only [List.mem_map, Place.mem_spans, hplaces, exists_exists_and_eq_and]
  · rw [← hplaces]
    exact (congrArg (· = _) hstyle).to_iff.trans Place.applyAll_spans_iff

end

/-- A character in the branch of a condition, under a color from before it and one that the branch
opens. -/
theorem styleAt_of_readAt_branch :
    let c : Context Snapshot := { config := {}, provider := {} }
    let template := "$\x7b#ff0000\x7da$[1,1,$\x7b#00ff00\x7db,]".toList
    ∃ parsed d before e, c.config.disableColors = false ∧ c.styles.Numbered ∧
      (evalWhole (evalNested maxDepth) template).Yields c parsed d ∧
      ¬ d.Wrapped c.styles.oldest ∧
      ReadAt (evalNested maxDepth) (String.ofList template) true {} (.read template) c 1 'b'
        before e ∧
      e.styles.active.map (·.span) = [.foreground ⟨255, 0, 0⟩, .foreground ⟨0, 255, 0⟩] ∧
      parsed.rich.text[1]? = some 'b' ∧
      parsed.rich.styleAt 1 = Style.plain.applyAll (e.styles.active.map (·.span)) := by
  intro c template
  let red : Span := .foreground ⟨255, 0, 0⟩
  let green : Span := .foreground ⟨0, 255, 0⟩
  let c₁ := c.colored "#ff0000" (some ⟨"#ff0000", .apply [red]⟩)
  let c₂ := c₁.colored "#00ff00" (some ⟨"#00ff00", .apply [green]⟩)
  let name := String.ofList template
  have hred : (evalTag (evalNested maxDepth) name true
      (.color (.ofChars "#ff0000".toList))).Yields c {} c₁ :=
    yields_colorTag _ _ rfl (by decide +kernel)
  have hgreen : (evalTag (evalNested maxDepth) name true
      (.color (.ofChars "#00ff00".toList))).Yields c₁ {} c₂ :=
    yields_colorTag _ _ rfl (by decide +kernel)
  have hcompared :
      Compared (evalNested maxDepth) name true c₁ (.ofChars ['1']) (.ofChars ['1']) true c₁ := by
    obtain ⟨first, hfirst, -⟩ := yields_ofChars (evalNested maxDepth) name true {} ['1'] c₁
    exact ⟨first, first, c₁, hfirst, rfl, hfirst, rfl, (decide_eq_true rfl).symm⟩
  let tree : Body := .tag (.color (.ofChars "#ff0000".toList)) 10 (.char 'a'
    (.tag (.conditional (.ofChars ['1']) (.ofChars ['1'])
      (.tag (.color (.ofChars "#00ff00".toList)) 10 (.char 'b' (.done .closed))) (.done .closed)) 19
      (.done .closed)))
  have htree : Body.read template = tree := by with_unfolding_all rfl
  have hread : ReadAt (evalNested maxDepth) name true {} tree c _ 'b' _ c₂ :=
    .afterTag 10 hred (.afterChar 'a' (.inTag 19 (.done .closed)
      (.whenEqual hcompared (.inr ⟨rfl, rfl⟩)) (.afterTag 10 hgreen (.char 'b' (.done .closed)))))
  rw [← htree] at hread
  obtain ⟨parsed, d, h, -⟩ := Eval.exists_yields
    (x := evalWhole (evalNested maxDepth) template) (c := c) (p := fun _ => true)
    (Q := fun _ _ => True) (by decide +kernel) fun _ _ _ _ => trivial
  have hnumbered : c.styles.Numbered := ⟨.nil, nofun⟩
  have hids : ¬ ((evalWhole (evalNested maxDepth) template).outcome c).2.Wrapped
      c.styles.oldest := by decide +kernel
  rw [h] at hids
  obtain ⟨htext, -, -, hstyle⟩ := styleAt_of_readAt rfl hnumbered h hids hread
  exact ⟨parsed, d, _, c₂, rfl, hnumbered, h, hids, hread, rfl, htext,
    hstyle.mpr (Place.settled_of_nodup (by decide +kernel))⟩

/-- A color that is opened again at its place does not come out on top. -/
theorem styleAt_ne_of_reopened :
    let c : Context Snapshot := { config := {}, provider := {} }
    let template := "$\x7b#ff0000\x7d$\x7b#00ff00\x7d$\x7b#ff0000\x7dx".toList
    ∃ parsed d before e, (evalWhole (evalNested maxDepth) template).Yields c parsed d ∧
      ReadAt (evalNested maxDepth) (String.ofList template) true {} (.read template) c 0 'x'
        before e ∧
      e.styles.active.map (·.span) =
        [.foreground ⟨255, 0, 0⟩, .foreground ⟨0, 255, 0⟩, .foreground ⟨255, 0, 0⟩] ∧
      parsed.rich.styleAt 0 ≠ Style.plain.applyAll (e.styles.active.map (·.span)) := by
  intro c template
  let red : Span := .foreground ⟨255, 0, 0⟩
  let green : Span := .foreground ⟨0, 255, 0⟩
  let c₁ := c.colored "#ff0000" (some ⟨"#ff0000", .apply [red]⟩)
  let c₂ := c₁.colored "#00ff00" (some ⟨"#00ff00", .apply [green]⟩)
  let c₃ := c₂.colored "#ff0000" (some ⟨"#ff0000", .apply [red]⟩)
  let name := String.ofList template
  have hred : (evalTag (evalNested maxDepth) name true
      (.color (.ofChars "#ff0000".toList))).Yields c {} c₁ :=
    yields_colorTag _ _ rfl (by decide +kernel)
  have hgreen : (evalTag (evalNested maxDepth) name true
      (.color (.ofChars "#00ff00".toList))).Yields c₁ {} c₂ :=
    yields_colorTag _ _ rfl (by decide +kernel)
  have hagain : (evalTag (evalNested maxDepth) name true
      (.color (.ofChars "#ff0000".toList))).Yields c₂ {} c₃ :=
    yields_colorTag _ _ rfl (by decide +kernel)
  let tree : Body := .tag (.color (.ofChars "#ff0000".toList)) 10
    (.tag (.color (.ofChars "#00ff00".toList)) 10
      (.tag (.color (.ofChars "#ff0000".toList)) 10 (.char 'x' (.done .closed))))
  have htree : Body.read template = tree := by with_unfolding_all rfl
  have hread : ReadAt (evalNested maxDepth) name true {} tree c _ 'x' _ c₃ :=
    .afterTag 10 hred (.afterTag 10 hgreen (.afterTag 10 hagain (.char 'x' (.done .closed))))
  simp only [Draft.edited, Piece.length_addPiece] at hread
  rw [← htree] at hread
  obtain ⟨parsed, d, h, hstyle⟩ := Eval.exists_yields
    (x := evalWhole (evalNested maxDepth) template) (c := c)
    (p := (·.rich.styleAt 0 = { fg := some ⟨0, 255, 0⟩ }))
    (Q := fun parsed _ => parsed.rich.styleAt 0 = { fg := some ⟨0, 255, 0⟩ }) (by decide +kernel)
    fun _ _ _ hp => of_decide_eq_true hp
  refine ⟨parsed, d, _, c₃, h, hread, rfl, ?_⟩
  rw [hstyle]
  decide

end Template

end Placard
