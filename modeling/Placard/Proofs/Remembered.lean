import Placard.Proofs.ColorTag
import Placard.Proofs.Resolve
import Placard.Proofs.Summaries
import Placard.Provider.Snapshot

/-! # What is remembered

The values of info tags are remembered by module and member. `Says` is what a tag says on a fresh
state, and in a state that `Fits` all that is remembered is what some tag of its key says. A member
never has the key of another tag, but a whole module may have one (`Info.Cache.OwnKeys`).

Two renders over the same settings and facts go side by side as long as the second one has read no
tag for a whole module (`Agree`). So computing a tag gives the text that it has at the greatest
depth (`agrees_compute_tag`), and what a tag yields in a state that fits is what some tag of its key
says (`Fits.says_of_resolve`). -/

namespace Placard

open Template

/-- A state in which nothing has been read. -/
def Context.fresh (config : Config) (facts : Facts) (parsingLayout : Bool) : Context Snapshot where
  config := config
  provider := { facts }
  parsingLayout := parsingLayout

namespace Info

theorem isExpanding_of_isBuiltIn {module : Module} (h : module.isBuiltIn = false) :
    module.isExpanding = false := by
  cases module <;> first | rfl | cases h

/-- A tag for a member that yields a value does not stand for lines. -/
theorem AsksMember.namesValue [Provider σ] {nested : Nested σ} (hspec : AsksMember spec)
    (h : (resolve nested spec).Yields c value d) : NamesValue spec := by
  obtain ⟨module, hlookup⟩ := exists_module_of_resolve h
  refine ⟨module, hlookup, ?_⟩
  obtain ⟨name, member, hsplit, -, hmodule⟩ := hspec
  rw [hsplit] at hlookup
  exact isExpanding_of_isBuiltIn (hmodule module hlookup)

end Info

/-! ## States that remember what is so -/

/-- Computed on a state in which nothing has been read, the tag has this text. -/
def Says (config : Config) (facts : Facts) (spec text : List Char) : Prop :=
  ∃ value after, (Info.compute (evalNested maxDepth) spec).Yields (.fresh config facts false) value
    after ∧ value.toText = text

/-- A tag says one thing. -/
theorem Says.unique (h : Says config facts spec text) (h' : Says config facts spec text') :
    text' = text := by
  obtain ⟨value, after, hvalue, rfl⟩ := h
  obtain ⟨value', after', hvalue', rfl⟩ := h'
  obtain ⟨heq, -⟩ := Prod.mk.inj (hvalue.symm.trans hvalue')
  obtain rfl := Except.ok.inj heq
  rfl

theorem Info.Cache.mem_of_get? {cache : Cache} {key : String × String}
    (h : cache.get? key.1 key.2 = some value) : (key, value) ∈ cache.entries := by
  obtain ⟨before, after, hentries, -⟩ := List.lookup_eq_some_iff.mp h
  rw [hentries]
  exact List.mem_append_right before (List.mem_cons_self ..)

/-- What is remembered for a key is what some tag of the key says. -/
def Info.Cache.IsTrue (config : Config) (facts : Facts) (cache : Cache) : Prop :=
  ∀ entry ∈ cache.entries, ∃ spec, keyOf spec = entry.1 ∧ Says config facts spec entry.2.toText

/-- No tag for a whole module shares a key with what is remembered. -/
def Info.Cache.OwnKeys (cache : Cache) : Prop :=
  ∀ entry ∈ cache.entries, entry.1.2 ≠ "module-" ++ entry.1.1

/-- A state of a render over the given settings and facts. -/
structure Fits (config : Config) (facts : Facts) (c : Context Snapshot) : Prop where
  config_eq : c.config = config
  facts_eq : c.provider.facts = facts
  readable : c.AutoReadable
  isTrue : c.cache.IsTrue config facts

variable {config : Config} {facts : Facts} {c d : Context Snapshot}

theorem fits_fresh (parsingLayout : Bool) :
    Fits config facts (.fresh config facts parsingLayout) where
  config_eq := rfl
  facts_eq := rfl
  readable := nofun
  isTrue := nofun

namespace Fits

/-- A value that a state remembers is what some tag says. -/
theorem says_of_get? (h : Fits config facts c) {key : String × String}
    (hget : c.cache.get? key.1 key.2 = some value) :
    ∃ spec, Info.keyOf spec = key ∧ Says config facts spec value.toText :=
  h.isTrue (key, value) (Info.Cache.mem_of_get? hget)

/-- Remembering what a tag says. -/
theorem remember (h : Fits config facts c) (hs : Says config facts spec value.toText) :
    ∃ kept cache, (Info.remember (Info.keyOf spec) value).Yields c kept { c with cache } ∧
      (kept = value ∨ c.cache.get? (Info.keyOf spec).1 (Info.keyOf spec).2 = some kept) ∧
      Fits config facts { c with cache } ∧
      (c.cache.OwnKeys → (Info.keyOf spec).2 ≠ "module-" ++ (Info.keyOf spec).1 →
        cache.OwnKeys) := by
  unfold Info.remember
  simp only [Eval.yields_modifyGet, Info.Cache.insert]
  cases hget : c.cache.get? (Info.keyOf spec).1 (Info.keyOf spec).2 with
  | some kept => exact ⟨kept, c.cache, ⟨rfl, rfl⟩, .inr rfl, h, fun hown _ => hown⟩
  | none =>
    refine ⟨value, _, ⟨rfl, rfl⟩, .inl rfl, { h with isTrue := ?_ }, fun hown hkey => ?_⟩
    · exact List.forall_mem_append.mpr ⟨h.isTrue, List.forall_mem_singleton.mpr ⟨spec, rfl, hs⟩⟩
    · exact List.forall_mem_append.mpr ⟨hown, List.forall_mem_singleton.mpr hkey⟩

/-- What a color tag does. -/
theorem applyColor (h : Fits config facts c) (token : String) :
    Fits config facts ((Template.applyColor token).outcome c).2 := by
  have hreadable := autoReadable_applyColor token h.readable
  obtain ⟨styles, autoColors, firstColorSeen, diagnostics, heq, -⟩ := exists_of_applyColor token c
  rw [heq] at hreadable ⊢
  exact { h with readable := hreadable }

end Fits

/-! ## The same text -/

/-- The same visible text. -/
def SameText (r s : RichText) : Prop := s.text = r.text

namespace Info

theorem text_toRich (value : Value) : value.toRich.text = value.toText := by
  cases value <;> rfl

theorem toText_eq_of_related {v w : Value} (h : v.Related SameText w) : w.toText = v.toText := by
  cases h with
  | rich h => exact h
  | text | count | real => rfl

end Info

/-! ## Two renders over the same facts -/

/-- Two states of renders over the same settings and facts. On the second one no tag for a whole
module has been read. -/
structure Agree (config : Config) (facts : Facts) (c d : Context Snapshot) : Prop where
  left : Fits config facts c
  right : Fits config facts d
  own : d.cache.OwnKeys

/-- Where the first computation succeeds, so does the second one. -/
abbrev Agrees (config : Config) (facts : Facts) (V : α → β → Prop) (x : Eval Snapshot α)
    (y : Eval Snapshot β) : Prop :=
  Eval.Simulates .successes (Agree config facts) V x y

theorem agree_fresh (h : Fits config facts c) (parsingLayout : Bool) :
    Agree config facts c (.fresh config facts parsingLayout) :=
  ⟨h, fits_fresh parsingLayout, nofun⟩

theorem agree_config (h : Agree config facts c d) : d.config = c.config :=
  h.right.config_eq.trans h.left.config_eq.symm

theorem Agree.comparable : Info.Comparable .successes (Agree config facts) SameText where
  config h := by rw [agree_config h]
  ask query := by
    refine Eval.Simulates.modifyGet fun c d h => ⟨?_, ?_⟩
    · change c.provider.facts.answer query = d.provider.facts.answer query
      rw [h.left.facts_eq, h.right.facts_eq]
    · exact ⟨{ h.left with }, { h.right with }, h.own⟩
  pushText h text := congrArg (· ++ text) h

theorem agrees_applyColor (token : String) :
    Agrees config facts Eq (Template.applyColor token) (Template.applyColor token) := by
  intro c d h
  have hresult := applyColor_result_eq token h.left.readable h.right.readable (agree_config h)
  have hleft := h.left.applyColor token
  have hright := h.right.applyColor token
  obtain ⟨_, _, _, _, hd, -⟩ := exists_of_applyColor token d
  have hown : ((Template.applyColor token).outcome d).2.cache.OwnKeys := by
    rw [hd]
    exact h.own
  generalize (Template.applyColor token).outcome c = p, (Template.applyColor token).outcome d = q
    at hresult hleft hright hown
  obtain ⟨_ | _, _⟩ := p
  · exact .free _ nofun
  · obtain ⟨_, _⟩ := q
    obtain rfl := hresult
    exact .ok rfl ⟨hleft, hright, hown⟩

/-! ## Templates -/

section

variable {shape : Shape} {nested nested' : Info.Nested Snapshot}

/-- Trees without percentage tags go side by side if what they ask for does. -/
theorem Agree.comparableTrees (hpercent : ¬ shape.percentages) (hresets : ¬ shape.resets)
    (hresolve : ∀ spec, shape.asks spec → Agrees config facts (fun v w => w.toText = v.toText)
      (Info.resolve nested spec) (Info.resolve nested' spec)) :
    Template.Comparable shape .successes (Agree config facts) SameText
      (fun p q => SameText p.text q.text) nested nested' where
  text_eq h := h
  plain _ := rfl
  ofRich h := h
  toRich h := h
  add _ h text := by
    unfold SameText at h ⊢
    rw [Piece.text_add, Piece.text_add, h]
  addPiece _ h h' := by
    unfold SameText at h h' ⊢
    rw [Piece.text_addPiece, Piece.text_addPiece, h, h']
  report _ h := ⟨{ h.left with }, { h.right with }, h.own⟩
  applyColor := agrees_applyColor
  resolve hasks := (hresolve _ hasks).mono fun v w h => by
    unfold SameText
    rwa [Info.text_toRich, Info.text_toRich]
  coloredPercentage h := absurd h hpercent
  reset h := absurd h hresets
  addReset h := absurd h hresets

/-- A template with such a tree, as deep as the tree needs it. -/
theorem agrees_evalNested (hpercent : ¬ shape.percentages) (hresets : ¬ shape.resets)
    (hresolve : ∀ depth spec, shape.asks spec → Agrees config facts (fun v w => w.toText = v.toText)
      (Info.resolve (evalNested depth) spec) (Info.resolve (evalNested enough) spec))
    (halike : BodyAlike shape (.read template) (.read template)) (depth : Nat) :
    Agrees config facts SameText (evalNested depth template)
      (evalNested (enough + 1) template) := by
  cases depth with
  | zero => exact fun _ _ _ => .free _ nofun
  | succ depth =>
    have hC := Agree.comparableTrees hpercent hresets (hresolve depth)
    have hwhole : Agrees config facts (fun p q : Parsed => SameText p.rich q.rich)
        (evalWhole (evalNested depth) template) (evalWhole (evalNested enough) template) := by
      refine (hC.simulates_evalBody (hC.sameReports _) true halike hC.drafts_empty).bind
        fun draft other hd => ?_
      refine (Eval.Simulates.modify fun c d h => ?_).bind_eq fun _ => .pure hd.piece
      exact ⟨{ h.left with }, { h.right with }, h.own⟩
    refine Eval.Simulates.withoutStyles ?_ ?_ (hwhole.bind fun _ _ hp => .pure hp)
    · exact fun c d h => ⟨{ h.left with }, { h.right with }, h.own⟩
    · exact fun c d c' d' _ h => ⟨{ h.left with }, { h.right with }, h.own⟩

/-- The colors of percentages hold no dollar sign, so that there is no tag in them. -/
def PercentageColors.NoTags (colors : PercentageColors) : Prop :=
  ∀ level, '$' ∉ (colors.get level).toList

theorem agrees_coloredPercentage (hcolors : config.percentageColors.NoTags) (depth enough : Nat)
    (percent : Float) (inverted : Bool) :
    Agrees config facts SameText (Info.coloredPercentage (evalNested depth) percent inverted)
      (Info.coloredPercentage (evalNested (enough + 1)) percent inverted) := by
  refine Eval.Simulates.get.bind fun c d h => ?_
  rw [h.left.config_eq, h.right.config_eq]
  have hreads := reads_read (Info.colorTag (config.percentageColors.get
    (Info.Level.shown percent inverted)).toList ++ Number.writeFixed percent ++ ['%'] ++
    Info.colorTag ['0'])
  have halike : BodyAlike (flatShape fun _ => False) _ _ :=
    bodyAlike_of_onlyColors hreads (Info.onlyColors_percentage (hcolors _) percent)
  exact agrees_evalNested id id (fun _ _ => False.elim) halike depth

end

/-! ## Tags -/

/-- The same text. -/
abbrev SameValue (v w : Info.Value) : Prop := w.toText = v.toText

/-- Computing what a tag names, where its members and its whole module go side by side. -/
theorem agrees_compute {nested nested' : Info.Nested Snapshot} (spec : List Char)
    (hmember : ∀ name member module, Info.splitSpec spec = (name, some member) →
      Info.Module.lookup (String.ofList name) = .ok module →
      Agrees config facts (Info.Value.Related SameText)
        (Info.member nested module (String.ofList member))
        (Info.member nested' module (String.ofList member)))
    (hmodule : ∀ name module, Info.splitSpec spec = (name, none) →
      Info.Module.lookup (String.ofList name) = .ok module →
      Agrees config facts (Info.Value.Related SameText) (Info.summary nested module)
        (Info.summary nested' module)) :
    Agrees config facts SameValue (Info.compute nested spec) (Info.compute nested' spec) := by
  unfold Info.compute
  rcases hspec : Info.splitSpec spec with ⟨name, memberName⟩
  dsimp only
  cases hlookup : Info.Module.lookup (String.ofList name) with
  | error failure => exact fun _ _ _ => .free _ nofun
  | ok module =>
    cases memberName with
    | some member =>
      exact (hmember name member module hspec hlookup).mono fun _ _ => Info.toText_eq_of_related
    | none => exact (hmodule name module hspec hlookup).mono fun _ _ => Info.toText_eq_of_related

/-- What a tag yields is what some tag of its key says, if computing it gives on every state what it
gives on a fresh one. -/
theorem Fits.says_of_resolve {nested : Info.Nested Snapshot} (h : Fits config facts c)
    (hspec : Info.NamesValue spec)
    (hcompute : Agrees config facts SameValue (Info.compute nested spec)
      (Info.compute (evalNested maxDepth) spec))
    (hyields : (Info.resolve nested spec).Yields c value d) :
    (∃ spec', Info.keyOf spec' = Info.keyOf spec ∧ Says config facts spec' value.toText) ∧
      Fits config facts d := by
  rw [Info.resolve_eq nested hspec] at hyields
  obtain ⟨_, _, hget, hrest⟩ := Eval.yields_bind.mp hyields
  obtain ⟨rfl, rfl⟩ := Eval.yields_get.mp hget
  split at hrest
  · rename_i kept hkept
    obtain ⟨rfl, rfl⟩ := Eval.yields_pure.mp hrest
    exact ⟨h.says_of_get? hkept, h⟩
  · obtain ⟨computed, c', hcomputed, hremember⟩ := Eval.yields_bind.mp hrest
    obtain ⟨fresh, d', hfresh, htext, hagree⟩ :=
      hcompute.yields nofun (agree_fresh h false) hcomputed
    have hsaid : Says config facts spec computed.toText := ⟨fresh, d', hfresh, htext⟩
    obtain ⟨kept, cache, hyields', hkept, hfits, -⟩ := hagree.left.remember hsaid
    obtain ⟨heq, rfl⟩ := Prod.mk.inj (hyields'.symm.trans hremember)
    obtain rfl := Except.ok.inj heq
    refine ⟨?_, hfits⟩
    obtain rfl | hkept := hkept
    · exact ⟨spec, rfl, hsaid⟩
    · exact hagree.left.says_of_get? hkept

/-- What is remembered for a tag that shares its key with no other one is what the tag says. -/
theorem Fits.toText_of_get? (h : Fits config facts d) (hown : d.cache.OwnKeys)
    (hget : d.cache.get? (Info.keyOf spec).1 (Info.keyOf spec).2 = some value)
    (hsaid : Says config facts spec text) : value.toText = text := by
  obtain ⟨spec', hkey, hsaid'⟩ := h.says_of_get? hget
  have hkey' := hown _ (Info.Cache.mem_of_get? hget)
  obtain rfl := Info.eq_of_keyOf_eq hkey' hkey
  exact hsaid.unique hsaid'

/-- A tag that says something on a fresh state says the same on every one that remembers no whole
module. -/
theorem Fits.yields_resolve {nested : Info.Nested Snapshot} (h : Fits config facts d)
    (hown : d.cache.OwnKeys) (hspec : Info.NamesValue spec)
    (hcompute : Agrees config facts SameValue (Info.compute (evalNested maxDepth) spec)
      (Info.compute nested spec))
    (hsaid : Says config facts spec text) :
    ∃ value d', (Info.resolve nested spec).Yields d value d' ∧ value.toText = text ∧
      Fits config facts d' ∧
      ((Info.keyOf spec).2 ≠ "module-" ++ (Info.keyOf spec).1 → d'.cache.OwnKeys) := by
  rw [Info.resolve_eq nested hspec]
  cases hget : d.cache.get? (Info.keyOf spec).1 (Info.keyOf spec).2 with
  | some value =>
    refine ⟨value, d, ?_, h.toText_of_get? hown hget hsaid, h, fun _ => hown⟩
    refine Eval.yields_bind.mpr ⟨d, d, Eval.yields_get.mpr ⟨rfl, rfl⟩, ?_⟩
    rw [hget]
    exact Eval.yields_pure.mpr ⟨rfl, rfl⟩
  | none =>
    obtain ⟨fresh, c, hfresh, htext⟩ := hsaid
    obtain ⟨value, d', hvalue, htext', hagree⟩ :=
      hcompute.yields nofun ⟨fits_fresh false, h, hown⟩ hfresh
    have hsaid : Says config facts spec text := ⟨fresh, c, hfresh, htext⟩
    have htext' := htext'.trans htext
    obtain ⟨kept, cache, hremember, hkept, hfits, hown'⟩ :=
      hagree.right.remember (htext' ▸ hsaid : Says config facts spec value.toText)
    refine ⟨kept, _, ?_, ?_, hfits, hown' hagree.own⟩
    · refine Eval.yields_bind.mpr ⟨d, d, Eval.yields_get.mpr ⟨rfl, rfl⟩, ?_⟩
      rw [hget]
      exact Eval.yields_bind.mpr ⟨value, d', hvalue, hremember⟩
    · obtain rfl | hkept := hkept
      · exact htext'
      · exact hagree.right.toText_of_get? hagree.own hkept hsaid

section

variable (hcolors : config.percentageColors.NoTags)

include hcolors

/-- A member of a module that has members goes as deep as a percentage. -/
theorem agrees_compute_member (hspec : Info.AsksMember spec) (depth enough : Nat) :
    Agrees config facts SameValue (Info.compute (evalNested depth) spec)
      (Info.compute (evalNested (enough + 1)) spec) := by
  obtain ⟨name, member, hsplit, -, hmodule⟩ := hspec
  refine agrees_compute spec (fun name' member' module hsplit' hlookup => ?_) ?_
  · obtain ⟨rfl, -⟩ := Prod.mk.inj (hsplit.symm.trans hsplit')
    exact Info.simulates_member Agree.comparable module _
      (agrees_coloredPercentage hcolors depth enough)
      fun hbuiltIn => absurd (hmodule module hlookup) (by simp [hbuiltIn])
  · intro _ _ hsplit' _
    cases hsplit.symm.trans hsplit'

theorem agrees_resolve_member (hspec : Info.AsksMember spec) (depth enough : Nat) :
    Agrees config facts SameValue (Info.resolve (evalNested depth) spec)
      (Info.resolve (evalNested (enough + 1)) spec) := by
  intro c d h
  rcases hc : (Info.resolve (evalNested depth) spec).outcome c with ⟨_ | value, c'⟩
  · exact .free _ nofun
  · have hnames := hspec.namesValue hc
    obtain ⟨⟨spec', hkey, hsaid⟩, hleft⟩ :=
      h.left.says_of_resolve hnames (agrees_compute_member hcolors hspec depth _) hc
    obtain rfl := Info.eq_of_keyOf_eq hspec.own hkey
    obtain ⟨value', d', hd, htext, hright, hown⟩ :=
      h.right.yields_resolve h.own hnames (agrees_compute_member hcolors hspec _ enough) hsaid
    have hd : (Info.resolve (evalNested (enough + 1)) spec').outcome d = (.ok value', d') := hd
    rw [hd]
    exact .ok htext ⟨hleft, hright, hown hspec.own⟩

/-- A whole module goes one template deeper. -/
theorem agrees_summary (module : Info.Module) (depth enough : Nat) :
    Agrees config facts (Info.Value.Related SameText) (Info.summary (evalNested depth) module)
      (Info.summary (evalNested (enough + 2)) module) := by
  refine Info.simulates_summary Agree.comparable module fun template h => ?_
  exact agrees_evalNested id id
    (fun depth spec hasks => agrees_resolve_member hcolors hasks depth enough)
    (bodyAlike_of_flat (Info.flat_of_summarizes h)) depth

/-- The greatest depth is enough for any tag: a summary with percentages in it takes two levels. -/
theorem agrees_compute_tag (spec : List Char) (depth : Nat) :
    Agrees config facts SameValue (Info.compute (evalNested depth) spec)
      (Info.compute (evalNested maxDepth) spec) := by
  refine agrees_compute spec (fun _ _ module _ _ => ?_) fun _ module _ _ => ?_
  · exact Info.simulates_member Agree.comparable module _
      (agrees_coloredPercentage hcolors depth _)
      fun _ => agrees_summary hcolors module depth _
  · exact agrees_summary hcolors module depth _

end

end Placard
