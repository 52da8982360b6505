import Placard.Proofs.Finishing
import Placard.Proofs.OtherStyles
import Placard.Proofs.Shown

/-! # Summaries part by part

The template of a summary is spelled from text, color tags and tags for members (`Spelled`). It is
followed from part to part: text stands for itself, whatever it holds, colors are applied one after
another, and each member takes one query and is remembered. `Stage` says how far this has come, next
to a state on which only the colors are applied. So the template gives the texts of its parts one
after another, and does nothing else (`Spelled.exists_evalNested`). -/

namespace Placard

namespace Template

/-! ## Following one part -/

section

variable {σ : Type} [Provider σ] (nested : Info.Nested σ) (name : String)

/-- Text without backslashes and dollar signs is added as it is. -/
theorem outcome_text {text : List Char} (htext : ∀ x ∈ text, x ≠ '\\' ∧ x ≠ '$') (cs : List Char)
    (draft : Draft) (c : Context σ) :
    ∃ added : Draft, added.text.text = draft.text.text ++ text ∧
      (evalBody nested name true draft (.read (text ++ cs))).outcome c =
        (evalBody nested name true added (.read cs)).outcome c := by
  induction text generalizing draft with
  | nil => exact ⟨draft, (List.append_nil _).symm, rfl⟩
  | cons x text ih =>
    obtain ⟨⟨hescape, hdollar⟩, htext⟩ := List.forall_mem_cons.mp htext
    obtain ⟨added, hadded, heq⟩ := ih htext (draft.edited (draft.add c.laid [x]) (.keep 1))
    refine ⟨added, ?_, ?_⟩
    · rw [hadded]
      change (draft.add c.laid [x]).text.text ++ text = _
      rw [Piece.text_add, List.append_assoc]
      rfl
    · rw [← heq, List.cons_append, read_char hescape (absurd · hdollar)]
      rfl

/-- A tag is added under the styles that are open after it. -/
theorem outcome_tag (length : Nat) (rest : Body) (draft : Draft) {piece : Piece} {c d : Context σ}
    (h : (evalTag nested name true tag).Yields c piece d) :
    ∃ added : Draft, added.text.text = draft.text.text ++ piece.text.text ∧
      (evalBody nested name true draft (.tag tag length rest)).outcome c =
        (evalBody nested name true added rest).outcome d := by
  refine ⟨draft.edited (draft.addPiece d.laid piece) (.replace length piece.text.text),
    Piece.text_addPiece .., ?_⟩
  rw [evalBody, Eval.outcome_bind, h]
  rfl

theorem outcome_colorTag {token : List Char} (htoken : IsToken token) (cs : List Char)
    (draft : Draft) {c d : Context σ} (h : (applyColor (String.ofList token)).Yields c () d) :
    ∃ added : Draft, added.text.text = draft.text.text ∧
      (evalBody nested name true draft (.read (Info.colorTag token ++ cs))).outcome c =
        (evalBody nested name true added (.read cs)).outcome d := by
  obtain ⟨length, hread⟩ := read_colorTag htoken cs
  obtain ⟨added, hadded, heq⟩ :=
    outcome_tag nested name length (.read cs) draft (yields_color nested name h)
  rw [hread]
  exact ⟨added, hadded.trans (List.append_nil _), heq⟩

theorem outcome_info (spec cs : List Char) (draft : Draft) {c d : Context σ}
    {value : Info.Value} (h : (Info.resolve nested spec).Yields c value d) :
    ∃ added : Draft, added.text.text = draft.text.text ++ value.toText ∧
      (evalBody nested name true draft
        (.read ('$' :: '<' :: (quote spec ++ '>' :: cs)))).outcome c =
          (evalBody nested name true added (.read cs)).outcome d := by
  obtain ⟨length, hread⟩ := read_infoTag spec cs
  have htag : (evalTag nested name true (.info (.quoted spec (.done .closed)))).Yields c
      { text := value.toRich } d := by
    unfold Eval.Yields
    rw [outcome_infoTag, Eval.outcome_bind, h]
    rfl
  obtain ⟨added, hadded, heq⟩ := outcome_tag nested name length (.read cs) draft htag
  rw [hread]
  refine ⟨added, hadded.trans ?_, heq⟩
  rw [Info.text_toRich]

end

end Template

/-! ## Colors alone -/

/-- The same state, but for the provider, what is remembered and which styles are open. -/
structure Context.SameColors {σ : Type} (c e : Context σ) : Prop where
  config : c.config = e.config
  count : c.styles.count = e.styles.count
  autoColors : c.autoColors = e.autoColors
  parsingLayout : c.parsingLayout = e.parsingLayout
  sepResetApplied : c.sepResetApplied = e.sepResetApplied
  firstColorSeen : c.firstColorSeen = e.firstColorSeen
  spliced : c.spliced = e.spliced
  diagnostics : c.diagnostics = e.diagnostics

namespace Context.SameColors

variable {σ : Type} {c e e' : Context σ}

theorem refl (c : Context σ) : c.SameColors c := ⟨rfl, rfl, rfl, rfl, rfl, rfl, rfl, rfl⟩

theorem colored (h : c.SameColors e) (token : String) (resolved : Option ColorToken.Resolved) :
    (c.colored token resolved).SameColors (e.colored token resolved) := by
  cases resolved with
  | none => exact { h with diagnostics := congrArg (· ++ [_]) h.diagnostics }
  | some resolved =>
    refine { h with
      count := (Coupling.count_after h.count.symm resolved.action).symm
      autoColors := ?_
      firstColorSeen := rfl }
    change c.autoColorsAfter resolved = e.autoColorsAfter resolved
    unfold autoColorsAfter
    rw [h.autoColors, h.parsingLayout]

/-- A color does the same to states that differ in nothing else. -/
theorem exists_applyColor (h : c.SameColors e)
    (happly : (Template.applyColor token).Yields e () e') :
    ∃ d, (Template.applyColor token).Yields c () d ∧ d.SameColors e' ∧
      d.provider = c.provider ∧ d.cache = c.cache := by
  have hdisable : c.config.disableColors = e.config.disableColors := by rw [h.config]
  have hresolve : ColorToken.resolve c.config token c.autoColors =
      ColorToken.resolve e.config token e.autoColors := by rw [h.config, h.autoColors]
  unfold Eval.Yields at happly ⊢
  rw [Template.outcome_applyColor] at happly ⊢
  rw [hdisable, hresolve]
  generalize ColorToken.resolve e.config token e.autoColors = r at happly ⊢
  obtain ⟨failure | resolved, colors⟩ := r
  · split at happly
    · next hdisabled =>
      cases happly
      exact ⟨c, if_pos hdisabled, h, rfl, rfl⟩
    · cases happly
  · split at happly
    · next hdisabled =>
      cases happly
      exact ⟨c, if_pos hdisabled, h, rfl, rfl⟩
    · next henabled =>
      cases happly
      have hsame : { c with autoColors := colors }.SameColors { e with autoColors := colors } :=
        { h with autoColors := rfl }
      refine ⟨_, if_neg henabled, hsame.colored token resolved, ?_, ?_⟩
      · cases resolved <;> rfl
      · cases resolved <;> rfl

end Context.SameColors

/-! ## How far a summary has come -/

/-- The snapshot after some more queries. -/
def Snapshot.asking (snapshot : Snapshot) (queries : List Query) : Snapshot :=
  { snapshot with asked := queries.reverse ++ snapshot.asked }

theorem Snapshot.asking_append (snapshot : Snapshot) (queries more : List Query) :
    snapshot.asking (queries ++ more) = (snapshot.asking queries).asking more := by
  simp only [asking, List.reverse_append, List.append_assoc]

theorem yields_ask (c : Context Snapshot) (query : Query) {answer : query.Answer}
    (h : c.provider.facts.answer query = answer) : (Eval.ask query).Yields c answer
      { c with provider := c.provider.asking [query] } := by
  subst h
  rfl

/-- How far a summary has come from a state on which only the colors are applied: the provider has
been asked some more, and nothing but members of these names is remembered. -/
structure Stage (e : Context Snapshot) (provider : Snapshot) (names : List String)
    (c : Context Snapshot) : Prop where
  colors : c.SameColors e
  provider : c.provider = provider
  cache : ∀ entry ∈ c.cache.entries, entry.1.2 ∈ names

namespace Stage

variable {e e' c : Context Snapshot} {provider : Snapshot} {names : List String}

theorem mono (h : Stage e provider names c) (hnames : ∀ name ∈ names, name ∈ more) :
    Stage e provider more c :=
  { h with cache := fun entry hentry => hnames _ (h.cache entry hentry) }

/-- The styles that are open are of no matter. -/
theorem activate (h : Stage e provider names c) (active : List OpenStyle) :
    Stage e provider names { c with styles := { c.styles with active } } :=
  ⟨{ h.colors with }, h.provider, h.cache⟩

theorem asking (h : Stage e provider names c) (queries : List Query) :
    Stage e (provider.asking queries) names { c with provider := c.provider.asking queries } :=
  ⟨{ h.colors with }, congrArg (·.asking queries) h.provider, h.cache⟩

theorem exists_applyColor (h : Stage e provider names c)
    (happly : (Template.applyColor token).Yields e () e') :
    ∃ d, (Template.applyColor token).Yields c () d ∧ Stage e' provider names d := by
  obtain ⟨d, hyields, hcolors, hprovider, hcache⟩ := h.colors.exists_applyColor happly
  exact ⟨d, hyields, hcolors, hprovider.trans h.provider, hcache ▸ h.cache⟩

theorem get?_eq_none (h : Stage e provider names c) {key : String × String}
    (hkey : key.2 ∉ names) : c.cache.get? key.1 key.2 = none := by
  cases hget : c.cache.get? key.1 key.2 with
  | none => rfl
  | some value => exact absurd (h.cache _ (Info.Cache.mem_of_get? hget)) hkey

/-- A value for a name that is new is remembered, and is what stays. -/
theorem exists_remember (h : Stage e provider names c) {key : String × String}
    (hkey : key.2 ∉ names) (value : Info.Value) :
    ∃ d, (Info.remember key value).Yields c value d ∧ Stage e provider (key.2 :: names) d := by
  have hinsert : c.cache.insert key.1 key.2 value =
      (value, ⟨c.cache.entries ++ [(key, value)]⟩) := by
    rw [Info.Cache.insert, h.get?_eq_none hkey]
  refine ⟨{ c with cache := ⟨c.cache.entries ++ [(key, value)]⟩ },
    Eval.yields_modifyGet.mpr ?_, { h.colors with }, h.provider, ?_⟩
  · rw [hinsert]
    exact ⟨rfl, rfl⟩
  · refine List.forall_mem_append.mpr ⟨fun entry hentry => ?_, ?_⟩
    · exact List.mem_cons_of_mem _ (h.cache entry hentry)
    · exact List.forall_mem_singleton.mpr List.mem_cons_self

end Stage

namespace Info

open Template

/-! ## Parts -/

/-- What a member shows: a value that is read off an answer, or a percentage in its color. -/
inductive Shown where
  | value (value : Value)
  | share (percent : Float) (inverted : Bool)

namespace Shown

def said : Shown → List Char
  | .value v => v.toText
  | .share percent _ => Number.writeFixed percent ++ ['%']

/-- The colors that are applied for it. -/
def tokens (colors : PercentageColors) : Shown → List String
  | .value _ => []
  | .share percent inverted => [colors.get (.shown percent inverted), "0"]

def eval (nested : Nested Snapshot) : Shown → Eval Snapshot Value
  | .value v => return v
  | .share percent inverted => return .rich (← coloredPercentage nested percent inverted)

end Shown

/-- A part of a summary: text, a color, or a member of a module with the query that it takes. -/
inductive SummaryPart where
  | text (text : List Char)
  | color (token : String)
  | member (query : Query) (module : List Char) (name : String) (shown : Shown)

namespace SummaryPart

def said : SummaryPart → List Char
  | .text cs => cs
  | .color _ => []
  | .member _ _ _ shown => shown.said

def tokens (colors : PercentageColors) : SummaryPart → List String
  | .text _ => []
  | .color token => [token]
  | .member _ _ _ shown => shown.tokens colors

def queries : SummaryPart → List Query
  | .member query _ _ _ => [query]
  | .text _ | .color _ => []

def names : SummaryPart → List String
  | .member _ _ name _ => [name]
  | .text _ | .color _ => []

end SummaryPart

/-- A template that is written as the parts one after another. -/
inductive Spelled : List Char → List SummaryPart → Prop
  | nil : Spelled [] []
  | text : (∀ x ∈ text, x ≠ '\\' ∧ x ≠ '$') → Spelled cs parts →
      Spelled (text ++ cs) (.text text :: parts)
  | quoted (text) : Spelled cs parts → Spelled (quote text ++ cs) (.text text :: parts)
  | color {token : String} : IsToken token.toList → Spelled cs parts →
      Spelled (colorTag token.toList ++ cs) (.color token :: parts)
  | member (query module name shown) : Spelled cs parts →
      Spelled ('$' :: '<' :: (quote (module ++ '.' :: name.toList) ++ '>' :: cs))
        (.member query module name shown :: parts)

/-- At every stage over the settings and facts the name of the member stands for what it shows, and
this takes its query. -/
def SummaryPart.Resolves (config : Config) (facts : Facts) (nested : Nested Snapshot) :
    SummaryPart → Prop
  | .text _ | .color _ => True
  | .member query module name shown => ∀ {e e' provider names c}, Stage e provider names c →
      e.config = config → provider.facts = facts →
      ((shown.tokens config.percentageColors).forM applyColor).Yields e () e' → name ∉ names →
      ∃ value d, (resolve nested (module ++ '.' :: name.toList)).Yields c value d ∧
        value.toText = shown.said ∧ Stage e' (provider.asking [query]) (name :: names) d

variable {config : Config} {facts : Facts} {nested : Nested Snapshot} {template : List Char}
  {parts : List SummaryPart} {e e' c : Context Snapshot} {provider : Snapshot}
  {names : List String}

theorem config_of_applyColor (h : (applyColor token).Yields e () e') : e'.config = e.config := by
  obtain ⟨_, _, _, _, heq, -⟩ := exists_of_applyColor token e
  rw [h] at heq
  exact congrArg (·.config) heq

theorem config_of_applyColors {tokens : List String}
    (h : (tokens.forM applyColor).Yields e () e') : e'.config = e.config := by
  induction tokens generalizing e with
  | nil =>
    obtain ⟨-, rfl⟩ := Eval.yields_pure.mp h
    rfl
  | cons token tokens ih =>
    obtain ⟨_, e₁, hfirst, hrest⟩ := Eval.yields_bind.mp h
    exact (ih hrest).trans (config_of_applyColor hfirst)

theorem yields_forM_append {tokens more : List String} :
    ((tokens ++ more).forM applyColor).Yields e () e' ↔
      ∃ e₁, (tokens.forM applyColor).Yields e () e₁ ∧ (more.forM applyColor).Yields e₁ () e' := by
  change (forM (tokens ++ more) applyColor : Eval Snapshot PUnit).Yields e () e' ↔ _
  rw [List.forM_append, Eval.yields_bind]
  exact ⟨fun ⟨_, e₁, hfirst, hrest⟩ => ⟨e₁, hfirst, hrest⟩,
    fun ⟨e₁, hfirst, hrest⟩ => ⟨⟨⟩, e₁, hfirst, hrest⟩⟩

section

variable (h : Spelled template parts) (hstage : Stage e provider names c)
  (hconfig : e.config = config) (hfacts : provider.facts = facts)
  (hcolors : ((parts.flatMap (·.tokens config.percentageColors)).forM applyColor).Yields e () e')
  (hnodup : (parts.flatMap (·.names)).Nodup)
  (hnew : ∀ name ∈ parts.flatMap (·.names), name ∉ names)

include h hstage hconfig hfacts hcolors hnodup hnew

/-- A template is followed from part to part. -/
theorem Spelled.exists_evalBody (hparts : ∀ part ∈ parts, part.Resolves config facts nested)
    (name : String) (draft : Draft) : ∃ (result : Draft) (d : Context Snapshot),
      (evalBody nested name true draft (.read template)).Yields c result d ∧
      result.text.text = draft.text.text ++ parts.flatMap (·.said) ∧
      Stage e' (provider.asking (parts.flatMap (·.queries)))
        (parts.flatMap (·.names) ++ names) d := by
  induction h generalizing e provider names c draft with
  | nil =>
    obtain ⟨-, rfl⟩ := Eval.yields_pure.mp hcolors
    refine ⟨draft, c, ?_, (List.append_nil _).symm, hstage⟩
    rw [read_nil]
    rfl
  | @text text cs parts htext _ ih =>
    obtain ⟨added, hadded, heq⟩ := outcome_text nested name htext cs draft c
    obtain ⟨result, d, hyields, hsaid, hlast⟩ :=
      ih hstage hconfig hfacts hcolors hnodup hnew (List.forall_mem_cons.mp hparts).2 added
    refine ⟨result, d, heq.trans hyields, ?_, hlast⟩
    rw [hsaid, hadded, List.append_assoc]
    rfl
  | @quoted cs parts text _ ih =>
    obtain ⟨added, hadded, heq⟩ := outcome_quoted nested name true text (.read cs) draft c
    obtain ⟨result, d, hyields, hsaid, hlast⟩ :=
      ih hstage hconfig hfacts hcolors hnodup hnew (List.forall_mem_cons.mp hparts).2 added
    rw [read_quote_append]
    refine ⟨result, d, heq.trans hyields, ?_, hlast⟩
    rw [hsaid, hadded, List.append_assoc]
    rfl
  | @color cs parts token htoken _ ih =>
    obtain ⟨_, e₁, hfirst, hrest⟩ := Eval.yields_bind.mp hcolors
    obtain ⟨d₁, hcolor, hstage₁⟩ := hstage.exists_applyColor hfirst
    have hcolor : (applyColor (String.ofList token.toList)).Yields c () d₁ := by
      rwa [String.ofList_toList]
    obtain ⟨added, hadded, heq⟩ := outcome_colorTag nested name htoken cs draft hcolor
    obtain ⟨result, d, hyields, hsaid, hlast⟩ := ih hstage₁
      ((config_of_applyColor hfirst).trans hconfig) hfacts hrest hnodup hnew
      (List.forall_mem_cons.mp hparts).2 added
    exact ⟨result, d, heq.trans hyields, hsaid.trans (congrArg (· ++ _) hadded), hlast⟩
  | @member cs parts query module member shown _ ih =>
    obtain ⟨hpart, hparts⟩ := List.forall_mem_cons.mp hparts
    obtain ⟨e₁, hfirst, hrest⟩ := yields_forM_append.mp hcolors
    obtain ⟨hmember, hnodup⟩ := List.nodup_cons.mp hnodup
    obtain ⟨hmember', hnew⟩ := List.forall_mem_cons.mp hnew
    obtain ⟨value, d₁, hvalue, htext, hstage₁⟩ := hpart hstage hconfig hfacts hfirst hmember'
    obtain ⟨added, hadded, heq⟩ := outcome_info nested name _ cs draft hvalue
    have hnew : ∀ name ∈ parts.flatMap (·.names), name ∉ member :: names := fun name hname =>
      List.not_mem_cons_of_ne_of_not_mem (ne_of_mem_of_not_mem hname hmember) (hnew name hname)
    obtain ⟨result, d, hyields, hsaid, hlast⟩ := ih hstage₁
      ((config_of_applyColors hfirst).trans hconfig) hfacts hrest hnodup hnew hparts added
    refine ⟨result, d, heq.trans hyields, ?_, ?_⟩
    · rw [hsaid, hadded, htext, List.append_assoc]
      rfl
    · rw [← Snapshot.asking_append] at hlast
      exact hlast.mono fun name hname => (List.perm_middle.mem_iff).mp hname

/-- As a template inside another one it gives the texts of its parts. -/
theorem Spelled.exists_evalNested (depth : Nat)
    (hparts : ∀ part ∈ parts, part.Resolves config facts (evalNested depth)) :
    ∃ rich d, (evalNested (depth + 1) template).Yields c rich d ∧
      rich.text = parts.flatMap (·.said) ∧
      Stage e' (provider.asking (parts.flatMap (·.queries)))
        (parts.flatMap (·.names) ++ names) d := by
  obtain ⟨draft, d, hbody, htext, hlast⟩ := h.exists_evalBody (hstage.activate []) hconfig hfacts
    hcolors hnodup hnew hparts (String.ofList template) {}
  refine ⟨draft.text, { d with styles := { d.styles with active := c.styles.active } },
    Eval.yields_withoutStyles.mpr ⟨{ d with styles := d.styles.cleared }, ?_, rfl⟩, htext,
    hlast.activate c.styles.active⟩
  rw [(yields_evalWhole (evalNested depth) hbody).bind_iff]
  exact Eval.yields_pure.mpr ⟨rfl, rfl⟩

end

/-! ## Members -/

/-- At every stage over the settings it is evaluated, and nothing is asked for it. -/
def Shown.Evaluates (config : Config) (nested : Nested Snapshot) (shown : Shown) : Prop :=
  ∀ {e e' provider names c}, Stage e provider names c → e.config = config →
    ((shown.tokens config.percentageColors).forM applyColor).Yields e () e' →
    ∃ value d, (shown.eval nested).Yields c value d ∧ value.toText = shown.said ∧
      Stage e' provider names d

theorem evaluates_value (v : Value) : (Shown.value v).Evaluates config nested := by
  intro e e' provider names c hstage _ hcolors
  obtain ⟨-, rfl⟩ := Eval.yields_pure.mp hcolors
  exact ⟨v, c, rfl, rfl, hstage⟩

/-- The template of a percentage, if its color is a token. -/
theorem spelled_percentage {color : String} (hcolor : IsToken color.toList) (percent : Float) :
    Spelled (colorTag color.toList ++ Number.writeFixed percent ++ ['%'] ++ colorTag ['0'])
      [.color color, .text (Number.writeFixed percent ++ ['%']), .color "0"] := by
  have hdigits : ∀ x ∈ Number.writeFixed percent ++ ['%'], x ≠ '\\' ∧ x ≠ '$' := by
    refine List.forall_mem_append.mpr ⟨fun x hx => ?_, by simp⟩
    have hplain := plain_of_mem_writeFixed hx
    constructor
    · rintro rfl
      exact absurd hplain (by decide)
    · rintro rfl
      exact absurd hplain (by decide)
  have hreset : IsToken "0".toList := by simp [IsToken]
  have h := Spelled.color hcolor (.text hdigits (.color hreset .nil))
  rw [List.append_nil] at h
  rw [List.append_assoc, List.append_assoc, ← List.append_assoc _ ['%']]
  exact h

/-- A percentage is shown at every depth at which there may be a template. -/
theorem evaluates_share (percent : Float) (inverted : Bool)
    (hcolor : IsToken (config.percentageColors.get (.shown percent inverted)).toList)
    (depth : Nat) : (Shown.share percent inverted).Evaluates config (evalNested (depth + 1)) := by
  intro e e' provider names c hstage hconfig hcolors
  have hget : (get : Eval Snapshot _).Yields c c c := rfl
  have hc : c.config = config := hstage.colors.config.trans hconfig
  obtain ⟨rich, d, hrich, htext, hlast⟩ := (spelled_percentage hcolor percent).exists_evalNested
    hstage hconfig rfl hcolors List.nodup_nil nofun depth (by simp [SummaryPart.Resolves])
  refine ⟨.rich rich, d, ?_, ?_, hlast⟩
  · rw [Shown.eval, coloredPercentage, bind_assoc, hget.bind_iff, hc, hrich.bind_iff]
    exact Eval.yields_pure.mpr ⟨rfl, rfl⟩
  · exact htext.trans (List.append_nil _)

/-- What is computed for a tag whose key is new is remembered. -/
theorem exists_resolve {spec : List Char} {seen : List String} {asked : Snapshot} {value : Value}
    {d : Context Snapshot} (hnames : NamesValue spec) (hnew : (keyOf spec).2 ∉ names)
    (hseen : (keyOf spec).2 ∉ seen) (hstage : Stage e provider names c)
    (h : (compute nested spec).Yields c value d) (hd : Stage e' asked seen d) :
    ∃ d', (resolve nested spec).Yields c value d' ∧ Stage e' asked ((keyOf spec).2 :: seen) d' := by
  have hget : (get : Eval Snapshot _).Yields c c c := rfl
  obtain ⟨d', hremember, hlast⟩ := hd.exists_remember hseen value
  refine ⟨d', ?_, hlast⟩
  rw [resolve_eq _ hnames, hget.bind_iff, hstage.get?_eq_none hnew]
  exact h.bind_iff.mpr hremember

/-- A member that takes its query and is then evaluated as what it shows. -/
theorem resolves_of_member {query : Query} {module : List Char} {name : String} {shown : Shown}
    {about : Module}
    (hsplit : splitSpec (module ++ '.' :: name.toList) = (module, some name.toList))
    (hlookup : Module.lookup (String.ofList module) = .ok about)
    (hexpanding : about.isExpanding = false) (hshown : shown.Evaluates config nested)
    (hmember : ∀ c, Context.Over config facts c → (Info.member nested about name).outcome c =
      (shown.eval nested).outcome { c with provider := c.provider.asking [query] }) :
    (SummaryPart.member query module name shown).Resolves config facts nested := by
  intro e e' provider names c hstage hconfig hfacts hcolors hnew
  have hkey : (keyOf (module ++ '.' :: name.toList)).2 = name := by
    rw [keyOf, hsplit]
    exact String.ofList_toList ..
  generalize module ++ '.' :: name.toList = spec at hsplit hkey ⊢
  have hover : Context.Over config facts c :=
    ⟨hstage.colors.config.trans hconfig, hstage.provider ▸ hfacts⟩
  obtain ⟨value, d, hvalue, htext, hd⟩ := hshown (hstage.asking [query]) hconfig hcolors
  have hcompute : (compute nested spec).Yields c value d := by
    rw [compute_eq_member nested hsplit hlookup, String.ofList_toList]
    exact (hmember c hover).trans hvalue
  have hnames : NamesValue spec := by
    refine ⟨about, ?_, hexpanding⟩
    rw [hsplit]
    exact hlookup
  obtain ⟨d', hresolve, hlast⟩ :=
    exists_resolve hnames (hkey.symm ▸ hnew) (hkey.symm ▸ hnew) hstage hcompute hd
  rw [hkey] at hlast
  exact ⟨value, d', hresolve, htext, hlast⟩

end Info

end Placard
