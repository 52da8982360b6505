import Placard.Proofs.Grammar
import Placard.Proofs.TemplateCoupling
import Placard.Provider.Snapshot

/-! # The color reset at the separator

The reset is put into the template of a line, not into its text. `ResetIn` says that one template is
the other one with a reset in it that no character before it draws into an escape or a tag of its
own. The two are read as trees that are alike (`readsBody_of_resetIn`), hence they say the same
(`text_eq_of_injectSeparatorReset`). Behind a backslash the reset is text
(`text_ne_of_escaped_separator`). -/

namespace Placard

/-- The template of a color reset. -/
def Template.resetTag : List Char := "$\x7b0\x7d".toList

/-- The two parts of a line between which the color reset goes. -/
def Config.resetPlace? (config : Config) (line : List Char) : Option (List Char × List Char) :=
  if config.sepReset.toList.isEmpty then none
  else (Text.cutAt? config.sepReset.toList line).map fun (before, rest) =>
    let taken := if config.sepResetAfter then config.sepReset.toList.length else 0
    (before ++ rest.take taken, rest.drop taken)

/-- Nothing is lost at the place of the reset. -/
theorem Config.append_of_resetPlace? {config : Config} {line before rest : List Char}
    (h : config.resetPlace? line = some (before, rest)) : before ++ rest = line := by
  unfold resetPlace? at h
  split at h
  · cases h
  obtain ⟨⟨front, back⟩, hcut, hparts⟩ := Option.map_eq_some_iff.mp h
  obtain ⟨rfl, rfl⟩ := Prod.mk.inj hparts
  rw [List.append_assoc, List.take_append_drop]
  exact Text.append_of_cutAt? hcut

/-- A line stays as it is or gets a reset at its place. -/
theorem Context.injectSeparatorReset_eq {σ : Type} (c : Context σ) (line : List Char) :
    (c.injectSeparatorReset line).1 = line ∨ ∃ before rest,
      c.config.resetPlace? line = some (before, rest) ∧
      (c.injectSeparatorReset line).1 = before ++ Template.resetTag ++ rest := by
  unfold injectSeparatorReset Config.resetPlace?
  dsimp only
  split
  · exact .inl rfl
  · rename_i h
    simp only [Bool.or_eq_true, not_or, Bool.not_eq_true] at h
    rw [h.1]
    cases Text.cutAt? c.config.sepReset.toList line with
    | none => exact .inl rfl
    | some parts => exact .inr ⟨_, _, rfl, rfl⟩

/-- The line with a reset at its place, if it has one. -/
def Config.withReset (config : Config) (line : List Char) : List Char :=
  match config.resetPlace? line with
  | none => line
  | some (before, rest) => before ++ Template.resetTag ++ rest

/-- A line that is begun gets its reset, and nothing changes but the mark that it had one. -/
theorem yields_injectSeparatorReset {σ : Type} (c : Context σ) (line : List Char) :
    ∃ applied, (modifyGet fun context =>
        { context with sepResetApplied := false }.injectSeparatorReset line : Eval σ _).Yields c
      (c.config.withReset line) { c with sepResetApplied := applied } := by
  simp only [Eval.yields_modifyGet, Context.injectSeparatorReset, Bool.or_false,
    Config.withReset, Config.resetPlace?]
  cases c.config.sepReset.toList.isEmpty
  · cases Text.cutAt? c.config.sepReset.toList line
    · exact ⟨_, rfl, rfl⟩
    · exact ⟨_, rfl, rfl⟩
  · exact ⟨_, rfl, rfl⟩

namespace Template

/-! ## Reading a template with a reset in it -/

/-- The first text, or the first text with a reset in it, which is read as such: it is not escaped,
and it does not come between a dollar sign and what makes a tag of that. -/
inductive ResetIn : List Char → List Char → Prop
  | none (cs) : ResetIn cs cs
  | here (cs) : ResetIn cs ('$' :: '\x7b' :: '0' :: '\x7d' :: cs)
  | escaped (c) : ResetIn cs cs' → ResetIn ('\\' :: c :: cs) ('\\' :: c :: cs')
  | char : c ≠ '\\' → (c = '$' → (OpensTag cs' ↔ OpensTag cs)) → ResetIn cs cs' →
      ResetIn (c :: cs) (c :: cs')

/-- Trees of which the second one may hold further resets. -/
abbrev withResets : Shape := { resets := True }

/-- The rest of a body may be read after something whole. -/
theorem ReadsBody.after_closed (h : ReadsBody stop cutOff cs body left)
    (hend : cs ≠ [] ∨ cutOff = false) : ReadsBody stop false cs body left := by
  cases h with
  | atEnd =>
    obtain rfl := hend.resolve_left (· rfl)
    exact .atEnd
  | delimiter => exact .delimiter
  | backslash hb => exact .backslash hb
  | escaped hb h => exact .escaped hb h
  | tag hd ht h => exact .tag hd ht h
  | char hc hb hd h => exact .char hc hb hd h

/-- A reset before the rest of a body. -/
theorem readsBody_resetTag (hstop : stop ≠ some '$') (hend : cs ≠ [] ∨ cutOff = false)
    (h : ReadsBody stop cutOff cs body left) : ∃ length,
    ReadsBody stop cutOff ('$' :: '\x7b' :: '0' :: '\x7d' :: cs) (.tag .reset length body)
      left := by
  have htag : ReadsTag ('\x7b' :: '0' :: '\x7d' :: cs) .reset cs :=
    .color (reads_ordinary (by decide) (by decide) (by decide) .delimiter)
  exact ⟨_, .tag hstop htag (h.after_closed hend)⟩

theorem TagAlike.isClosed_eq (h : TagAlike shape tag tag') : tag'.isClosed = tag.isClosed := by
  cases h with
  | info h | color h => exact h.isClosed_eq
  | percentage _ h₁ h₂ => simp only [Tag.isClosed, h₁.isClosed_eq, h₂.isClosed_eq]
  | conditional h₁ h₂ h₃ h₄ =>
    simp only [Tag.isClosed, h₁.isClosed_eq, h₂.isClosed_eq, h₃.isClosed_eq, h₄.isClosed_eq]

/-- The character that makes a tag of the dollar sign stays in its place. -/
theorem ResetIn.exists_tail (h : ResetIn (c :: cs) cs') (hc : c ≠ '\\') (hopens : OpensTag cs') :
    ∃ rest, cs' = c :: rest ∧ ResetIn cs rest := by
  cases h with
  | none => exact ⟨cs, rfl, .none cs⟩
  | here =>
    obtain ⟨_, _, heq, hopener⟩ := hopens
    cases heq
    exact absurd hopener (by decide)
  | escaped => exact absurd rfl hc
  | char _ _ hr => exact ⟨_, rfl, hr⟩

/-- The reset is not in the part that was read if it is still to come, and that part was closed. -/
def Pending (cs cs' : List Char) (closed : Bool) (left left' : List Char) : Prop :=
  left' ≠ left → cs' ≠ cs ∧ closed = true

theorem Pending.none : Pending cs cs' closed left left := absurd rfl

theorem Pending.cons (h : Pending cs cs' closed left left') :
    Pending (c :: cs) (c :: cs') closed left left' := by
  intro hleft
  obtain ⟨hne, hclosed⟩ := h hleft
  exact ⟨fun heq => hne (List.tail_eq_of_cons_eq heq), hclosed⟩

/-- One part after another. -/
theorem Pending.append (h : Pending cs cs' first rest rest')
    (h' : Pending rest rest' second left left') :
    Pending cs cs' (first && second) left left' := by
  intro hleft
  obtain ⟨hrest, rfl⟩ := h' hleft
  obtain ⟨hne, rfl⟩ := h hrest
  exact ⟨hne, rfl⟩

/-- Where a reset is still to come, the next part is not cut off. -/
theorem Pending.cutOff (h : Pending cs cs' closed left left') (hleft : left' ≠ left) :
    left ≠ [] ∨ (!closed) = false := .inr (congrArg not (h hleft).2)

mutual

/-- What is read with a reset in the text is alike. If the reset is still to come, then what was
read has its end before it. -/
theorem readsBody_of_resetIn (hstop : stop ≠ some '$') (hescape : stop ≠ some '\\') :
    ∀ {cs cs' left : List Char} {cutOff : Bool} {body : Body},
    ReadsBody stop cutOff cs body left → ResetIn cs cs' → (cs' ≠ cs → cs ≠ [] ∨ cutOff = false) →
    ∃ body' left', ReadsBody stop cutOff cs' body' left' ∧ BodyAlike withResets body body' ∧
      ResetIn left left' ∧ Pending cs cs' body.isClosed left left'
  | _, _, _, _, _, h, .none _, _ => ⟨_, _, h, .refl (fun _ => trivial) trivial _, .none _, .none⟩
  | cs, _, _, _, _, h, .here _, hend => by
    have hne : '$' :: '\x7b' :: '0' :: '\x7d' :: cs ≠ cs := by
      intro heq
      have := congrArg List.length heq
      simp only [List.length_cons] at this
      omega
    obtain ⟨length, h'⟩ := readsBody_resetTag hstop (hend hne) h
    exact ⟨_, _, h', .reset length trivial (.refl (fun _ => trivial) trivial _), .none _, .none⟩
  | _, _, _, _, _, .escaped hb h, .escaped c hr, _ => by
    obtain ⟨body', left', h', halike, hleft, hpending⟩ :=
      readsBody_of_resetIn hstop hescape h hr fun _ => .inr rfl
    exact ⟨_, _, .escaped hb h', .escaped c halike, hleft, hpending.cons.cons⟩
  | _, _, _, _, _, .delimiter, .escaped _ _, _ => absurd rfl hescape
  | _, _, _, _, _, .char _ hb _ _, .escaped _ _, _ => absurd rfl hb
  | _, _, _, _, _, .delimiter, .char _ _ hr, _ => by
    refine ⟨_, _, .delimiter, .done .closed, hr, fun hne => ⟨fun heq => ?_, rfl⟩⟩
    exact hne (List.tail_eq_of_cons_eq heq)
  | _, _, _, _, _, .backslash _, .char hc _ _, _ => absurd rfl hc
  | _, _, _, _, _, .escaped _ _, .char hc _ _, _ => absurd rfl hc
  | _, _, _, _, _, .char hs hc hd h, .char _ hopens hr, _ => by
    obtain ⟨body', left', h', halike, hleft, hpending⟩ :=
      readsBody_of_resetIn hstop hescape h hr fun _ => .inr rfl
    refine ⟨_, _, .char hs hc ?_ h', .char _ halike, hleft, hpending.cons⟩
    exact fun hdollar => (hopens hdollar).not.mpr (hd hdollar)
  | _, _, _, _, _, .tag hs ht h, .char _ hopens hr, _ => by
    obtain ⟨tag', after', ht', htag, hafter, hpending⟩ :=
      readsTag_of_resetIn ht hr ((hopens rfl).mpr ht.opensTag)
    obtain ⟨body', left', h', halike, hleft, hpending'⟩ :=
      readsBody_of_resetIn hstop hescape h hafter hpending.cutOff
    rw [← htag.isClosed_eq] at h'
    refine ⟨_, _, .tag hs ht' h', .tag htag (absurd trivial) halike, hleft, fun hne => ?_⟩
    obtain ⟨hne', hclosed⟩ := hpending' hne
    exact ⟨(hpending.cons hne').1, hclosed⟩

theorem readsTag_of_resetIn : ∀ {cs cs' left : List Char} {tag : Tag},
    ReadsTag cs tag left → ResetIn cs cs' → OpensTag cs' →
    ∃ tag' left', ReadsTag cs' tag' left' ∧ TagAlike withResets tag tag' ∧
      ResetIn left left' ∧ Pending cs cs' tag.isClosed left left'
  | _, _, _, _, .info h, hr, hopens => by
    obtain ⟨_, rfl, htail⟩ := hr.exists_tail (by decide) hopens
    obtain ⟨name', left', h', halike, hleft, hpending⟩ :=
      readsBody_of_resetIn (by decide) (by decide) h htail fun _ => .inr rfl
    exact ⟨_, _, .info h', .info halike fun _ _ => trivial, hleft, hpending.cons⟩
  | _, _, _, _, .color h, hr, hopens => by
    obtain ⟨_, rfl, htail⟩ := hr.exists_tail (by decide) hopens
    obtain ⟨token', left', h', halike, hleft, hpending⟩ :=
      readsBody_of_resetIn (by decide) (by decide) h htail fun _ => .inr rfl
    exact ⟨_, _, .color h', .color halike, hleft, hpending.cons⟩
  | _, _, _, _, .percentage h₁ h₂, hr, hopens => by
    obtain ⟨_, rfl, htail⟩ := hr.exists_tail (by decide) hopens
    obtain ⟨_, _, h₁', halike₁, hrest, hpending₁⟩ :=
      readsBody_of_resetIn (by decide) (by decide) h₁ htail fun _ => .inr rfl
    obtain ⟨_, _, h₂', halike₂, hleft, hpending₂⟩ :=
      readsBody_of_resetIn (by decide) (by decide) h₂ hrest hpending₁.cutOff
    rw [← halike₁.isClosed_eq] at h₂'
    exact ⟨_, _, .percentage h₁' h₂', .percentage trivial halike₁ halike₂, hleft,
      (hpending₁.append hpending₂).cons⟩
  | _, _, _, _, .conditional h₁ h₂ h₃ h₄, hr, hopens => by
    obtain ⟨_, rfl, htail⟩ := hr.exists_tail (by decide) hopens
    obtain ⟨_, _, h₁', halike₁, hrest₁, hpending₁⟩ :=
      readsBody_of_resetIn (by decide) (by decide) h₁ htail fun _ => .inr rfl
    obtain ⟨_, _, h₂', halike₂, hrest₂, hpending₂⟩ :=
      readsBody_of_resetIn (by decide) (by decide) h₂ hrest₁ hpending₁.cutOff
    obtain ⟨_, _, h₃', halike₃, hrest₃, hpending₃⟩ :=
      readsBody_of_resetIn (by decide) (by decide) h₃ hrest₂ hpending₂.cutOff
    obtain ⟨_, _, h₄', halike₄, hleft, hpending₄⟩ :=
      readsBody_of_resetIn (by decide) (by decide) h₄ hrest₃ hpending₃.cutOff
    rw [← halike₁.isClosed_eq] at h₂'
    rw [← halike₂.isClosed_eq] at h₃'
    rw [← halike₃.isClosed_eq] at h₄'
    exact ⟨_, _, .conditional h₁' h₂' h₃' h₄', .conditional halike₁ halike₂ halike₃ halike₄, hleft,
      (((hpending₁.append hpending₂).append hpending₃).append hpending₄).cons⟩

end

/-- A reset in a template makes no other tree of it, further resets aside. -/
theorem bodyAlike_read (h : ResetIn template template') :
    BodyAlike withResets (.read template) (.read template') := by
  have hstop (c : Char) : none ≠ some c := nofun
  obtain ⟨body', left', h', halike, -, -⟩ :=
    readsBody_of_resetIn (hstop '$') (hstop '\\') (reads_read template) h fun _ => .inr rfl
  obtain rfl := h'.left_eq_nil
  rwa [h'.read_eq]

/-! ## Where a reset is read as such -/

/-- Nothing before the place of the reset makes something else of it: the last character is no
backslash that escapes what comes next, and no dollar sign of a tag. -/
def IsGap : List Char → List Char → Prop
  | [], _ => True
  | ['\\'], _ => False
  | '\\' :: _ :: before, rest => IsGap before rest
  | c :: before, rest => (c = '$' → before = [] → ¬ OpensTag rest) ∧ IsGap before rest

theorem isGap_of_plain {before rest : List Char} (hescape : '\\' ∉ before)
    (hdollar : before.getLast? ≠ some '$') : IsGap before rest := by
  fun_induction IsGap before rest with
  | case1 => trivial
  | case2 => exact hescape List.mem_cons_self
  | case3 => exact absurd List.mem_cons_self hescape
  | case4 c before rest hlast hescaped ih =>
    refine ⟨?_, ih (fun h => hescape (List.mem_cons_of_mem c h)) fun h => hdollar ?_⟩
    · rintro rfl rfl
      exact absurd rfl hdollar
    · rw [List.getLast?_cons, h]
      rfl

theorem opensTag_cons : OpensTag (c :: cs) ↔ c ∈ ['<', '\x7b', '%', '['] := by
  constructor
  · rintro ⟨_, _, heq, hc⟩
    cases heq
    exact hc
  · exact fun hc => ⟨c, cs, rfl, hc⟩

theorem resetIn_of_isGap {before rest : List Char} (h : IsGap before rest) :
    ResetIn (before ++ rest) (before ++ resetTag ++ rest) := by
  fun_induction IsGap before rest with
  | case1 rest => exact .here rest
  | case2 => exact h.elim
  | case3 c before rest ih => exact .escaped c (ih h)
  | case4 c before rest hlast hescaped ih =>
    obtain ⟨hdollar, hgap⟩ := h
    refine .char ?_ (fun hc => ?_) (ih hgap)
    · rintro rfl
      cases before with
      | nil => exact hlast rfl rfl
      | cons d before => exact hescaped d before rfl rfl
    · cases before with
      | nil =>
        have hmark : ¬ OpensTag ('$' :: '\x7b' :: '0' :: '\x7d' :: rest) := by
          rw [opensTag_cons]
          decide
        exact iff_of_false hmark (hdollar hc rfl)
      | cons d before => exact opensTag_cons.trans opensTag_cons.symm

/-- A line with its reset, if nothing before its place makes something else of it. -/
theorem resetIn_withReset {config : Config} {line : List Char}
    (hgap : ∀ before rest, config.resetPlace? line = some (before, rest) → IsGap before rest) :
    ResetIn line (config.withReset line) := by
  unfold Config.withReset
  cases hplace : config.resetPlace? line with
  | none => exact .none line
  | some parts =>
    obtain ⟨before, rest⟩ := parts
    obtain rfl := Config.append_of_resetPlace? hplace
    exact resetIn_of_isGap (hgap before rest hplace)

end Template

/-! ## Templates with and without the reset -/

/-- The same text on both sides, where both succeed. -/
def Coupling.sameText : Coupling where
  demand := .jointSuccesses
  tint _ _ := True
  reported _ _ := True
  resetApplied _ _ := True
  resetApplied_self _ := trivial
  rich r s := s.text = r.text
  pushText h text := congrArg (· ++ text) h

variable {σ : Type}

/-- The mark that a line has had its reset is of no matter to the text. -/
theorem Coupling.sameText_self (c : Context σ) (applied : Bool) :
    sameText.State c { c with sepResetApplied := applied } := by
  have hvalue (v : Info.Value) : sameText.Value v v := by
    cases v with
    | text s => exact .text s
    | rich r => exact .rich rfl
    | count n => exact .count n
    | real x => exact .real x
  have hcache : c.cache.Related sameText.rich c.cache :=
    List.forall₂_same.mpr fun entry _ => ⟨rfl, hvalue entry.2⟩
  have hspliced : List.Forall₂ sameText.rich c.spliced c.spliced :=
    List.forall₂_same.mpr fun _ _ => rfl
  exact
    { config := rfl, provider := rfl, cache := hcache, tint := trivial, parsingLayout := rfl,
      sepResetApplied := trivial, spliced := hspliced, diagnostics := trivial }

/-- What color tags do is of no matter to the text. -/
theorem Coupling.sameText_after_applyColor {c d : Context σ} (token : String)
    (h : sameText.State c d) :
    sameText.State ((Template.applyColor token).outcome c).2 d ∧
      sameText.State c ((Template.applyColor token).outcome d).2 := by
  obtain ⟨_, _, _, _, hc, -⟩ := Template.exists_of_applyColor token c
  obtain ⟨_, _, _, _, hd, -⟩ := Template.exists_of_applyColor token d
  rw [hc, hd]
  exact ⟨{ h with tint := trivial, diagnostics := trivial },
    { h with tint := trivial, diagnostics := trivial }⟩

theorem Coupling.sameText_applyColor (token : String) :
    sameText.Simulates (σ := σ) Eq (Template.applyColor token) (Template.applyColor token) := by
  intro c d h
  have hc := (sameText_after_applyColor token h).1
  have hcd := (sameText_after_applyColor token hc).2
  generalize (Template.applyColor token).outcome c = p, (Template.applyColor token).outcome d = q
    at hcd
  obtain ⟨_ | _, _⟩ := p
  · exact .free _ nofun
  obtain ⟨_ | _, _⟩ := q
  · exact .lost _ rfl
  · exact .ok rfl hcd

theorem Coupling.sameText_reset :
    sameText.Simulates (σ := σ) (fun _ _ => True) (pure ()) (Template.applyColor "0") := by
  intro c d h
  have hd := (sameText_after_applyColor "0" h).2
  generalize (Template.applyColor "0").outcome d = q at hd
  obtain ⟨_ | _, _⟩ := q
  · exact .lost _ rfl
  · exact .ok trivial hd

def TemplateCoupling.sameText : TemplateCoupling where
  toCoupling := Coupling.sameText
  piece p q := q.text.text = p.text.text
  text_eq h := h
  plain _ := rfl
  append h h' := congrArg₂ (· ++ ·) h h'
  ofRich h := h
  toRich h := h
  add _ h text := by
    rw [Template.Piece.text_add, Template.Piece.text_add, h]
  addPiece _ h h' := by
    rw [Template.Piece.text_addPiece, Template.Piece.text_addPiece, h, h']
  cleared _ := trivial
  restored _ _ := trivial
  report _ _ := trivial
  applyColor := Coupling.sameText_applyColor

namespace Template

variable [Provider σ]

/-- A reset in a template does not change the text, wherever it is read as such. -/
theorem text_eq_of_resetIn {c c' d d' : Context σ} {p q : Parsed} {template template' : List Char}
    (hr : ResetIn template template') (hstate : Coupling.sameText.State c d)
    (h : (parseLine (String.ofList template)).Yields c p c')
    (h' : (parseLine (String.ofList template')).Yields d q d') : q.rich.text = p.rich.text := by
  simp only [parseLine, evalWhole, String.toList_ofList, Eval.yields_bind, Eval.yields_modify,
    Eval.yields_pure] at h h'
  obtain ⟨draft, _, hbody, -, -, -, rfl, -⟩ := h
  obtain ⟨other, _, hbody', -, -, -, rfl, -⟩ := h'
  have haddReset {a b : Tint} {p q : Piece} (_ : TemplateCoupling.sameText.tint a b)
      (h : TemplateCoupling.sameText.piece p q) :
      TemplateCoupling.sameText.piece p (q.addPiece b.laid {}) :=
    ((Piece.text_addPiece q b.laid {}).trans (List.append_nil _)).trans h
  have hC := TemplateCoupling.sameText.comparable (σ := σ) withResets
    (fun _ => Coupling.sameText_reset) (fun _ => haddReset)
    (TemplateCoupling.sameText.simulates_evalNested maxDepth)
  have hname : SameReports (σ := σ) Coupling.sameText.State (String.ofList template)
      (String.ofList template') := fun _ _ _ h => { h with diagnostics := trivial }
  exact ((hC.simulates_evalBody hname true (bodyAlike_read hr) hC.drafts_empty).related hstate
    hbody hbody').1.piece

/-- The color reset at the separator of a line is without effect on the text, unless a backslash
that escapes the separator or a dollar sign of a tag stands before its place. -/
theorem text_eq_of_injectSeparatorReset {c c' d : Context σ} {p q : Parsed} {line : List Char}
    {applied : Bool}
    (hgap : ∀ before rest, c.config.resetPlace? line = some (before, rest) → IsGap before rest)
    (h : (parseLine (String.ofList line)).Yields c p c')
    (h' : (parseLine (String.ofList (c.injectSeparatorReset line).1)).Yields
      { c with sepResetApplied := applied } q d) : q.rich.text = p.rich.text := by
  have hreset : ResetIn line (c.injectSeparatorReset line).1 := by
    obtain hsame | ⟨before, rest, hplace, hline⟩ := c.injectSeparatorReset_eq line
    · rw [hsame]
      exact .none line
    · rw [hline, ← Config.append_of_resetPlace? hplace]
      exact resetIn_of_isGap (hgap before rest hplace)
  exact text_eq_of_resetIn hreset (Coupling.sameText_self c applied) h h'

/-- A separator in the text of a line with a tag before it. -/
theorem text_eq_of_plain_separator :
    let c : Context Snapshot :=
      { config := {}, provider := { facts := { os := { name := "Arch" } } } }
    let line := "$<os.name>: x".toList
    ∃ p c' q d, c.config.resetPlace? line = some ("$<os.name>".toList, ": x".toList) ∧
      IsGap "$<os.name>".toList ": x".toList ∧
      (parseLine (String.ofList line)).Yields c p c' ∧
      (parseLine (String.ofList (c.injectSeparatorReset line).1)).Yields
        { c with sepResetApplied := true } q d ∧
      p.rich.text = "Arch: x".toList ∧ q.rich.text = p.rich.text := by
  intro c line
  have hplace : c.config.resetPlace? line = some ("$<os.name>".toList, ": x".toList) := by decide
  have hgap : IsGap "$<os.name>".toList ": x".toList := by simp [IsGap]
  obtain ⟨p, c', h, hp⟩ := Eval.exists_yields (x := parseLine (String.ofList line)) (c := c)
    (p := (·.rich.text = "Arch: x".toList)) (Q := fun p _ => p.rich.text = "Arch: x".toList)
    (by decide +kernel) fun _ _ _ hp => of_decide_eq_true hp
  obtain ⟨q, d, h', -⟩ := Eval.exists_yields
    (x := parseLine (String.ofList (c.injectSeparatorReset line).1))
    (c := { c with sepResetApplied := true }) (p := fun _ => true) (Q := fun _ _ => True)
    (by decide +kernel) fun _ _ _ _ => trivial
  refine ⟨p, c', q, d, hplace, hgap, h, h', hp, text_eq_of_injectSeparatorReset ?_ h h'⟩
  intro before rest heq
  cases hplace.symm.trans heq
  exact hgap

/-- Behind a backslash the reset is no tag: the text shows it. -/
theorem text_ne_of_escaped_separator :
    let c : Context Snapshot := { config := {}, provider := {} }
    let line := "a\\: b".toList
    ∃ p c' q d, (parseLine (String.ofList line)).Yields c p c' ∧
      (parseLine (String.ofList (c.injectSeparatorReset line).1)).Yields c q d ∧
      p.rich.text = "a: b".toList ∧ q.rich.text = "a$\x7b0\x7d: b".toList := by
  intro c line
  obtain ⟨p, c', h, hp⟩ := Eval.exists_yields (x := parseLine (String.ofList line)) (c := c)
    (p := (·.rich.text = "a: b".toList)) (Q := fun p _ => p.rich.text = "a: b".toList)
    (by decide +kernel) fun _ _ _ hp => of_decide_eq_true hp
  obtain ⟨q, d, h', hq⟩ := Eval.exists_yields
    (x := parseLine (String.ofList (c.injectSeparatorReset line).1)) (c := c)
    (p := (·.rich.text = "a$\x7b0\x7d: b".toList))
    (Q := fun q _ => q.rich.text = "a$\x7b0\x7d: b".toList)
    (by decide +kernel) fun _ _ _ hq => of_decide_eq_true hq
  exact ⟨p, c', q, d, h, h', hp, hq⟩

end Template

end Placard
