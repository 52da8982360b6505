import Placard.Proofs.AutoColors
import Placard.Proofs.SeparatorReset
import Placard.Proofs.Steps
import Placard.Provider.Snapshot
import Placard.Render

/-! # The colors that the art gives to `auto`

`Eval.Applies` says which color tags a run applies, in order and at any depth: each step of a
template is either a color tag or leaves the colors of the art alone, so every run has such a list
(`Render.traced_parseArt`). The colors of the art are settled by it, and they are the ones that
`auto` stands for in the layout (`autoColors_of_parseArt`), but for a `1` in the first place where
an `auto` tag came before all colors (`auto_ne_first_color`). -/

namespace Placard

variable {σ : Type}

/-- A color tag that is applied: its token as it is written, and the colors of the art by then. -/
structure AppliedTag where
  token : String
  colors : List String

namespace AppliedTag

variable (config : Config) (tag : AppliedTag)

/-- The color that it stands for, after aliases and `auto`. Resets are none. -/
def color? : Option String :=
  match (ColorToken.resolve config tag.token tag.colors).1 with
  | .ok (some { token, action := .apply _ }) => some token
  | _ => none

/-- It is an `auto` tag, and there are no colors yet. -/
def seeds : Bool :=
  (Text.afterStart? "auto".toList ((config.alias? tag.token).getD tag.token).toList).isSome &&
    tag.colors.isEmpty

/-- The colors of some tags, each once, in the order in which they came first. -/
def distinctColors (tags : List AppliedTag) : List String :=
  (tags.filterMap (·.color? config)).eraseDups

/-- The colors of the art after these tags: the distinct ones, and before them the `1` of an `auto`
tag that came when there were none. -/
def listed (tags : List AppliedTag) : List String :=
  (if tags.any (·.seeds config) then ["1"] else []) ++ distinctColors config tags

variable {config tag} {tags : List AppliedTag} {color : String}

theorem color?_eq_some_iff : tag.color? config = some color ↔
    ∃ spans, (ColorToken.resolve config tag.token tag.colors).1 =
      .ok (some { token := color, action := .apply spans }) := by
  unfold color?
  rcases ColorToken.resolve config tag.token tag.colors with
    ⟨failure | _ | ⟨applied, _ | spans⟩, colors⟩ <;> simp

/-- A color is applied as it stands, and `1` is none. -/
theorem action_of_color? (h : tag.color? config = some color) :
    (∃ spans, ColorToken.action config.palette color = .ok (some (.apply spans))) ∧
      color ≠ "1" := by
  obtain ⟨spans, hresolved⟩ := color?_eq_some_iff.mp h
  have haction := ColorToken.action_of_resolve hresolved
  refine ⟨⟨spans, haction⟩, ?_⟩
  rintro rfl
  rw [ColorToken.action_one] at haction
  cases haction

theorem mem_distinctColors : color ∈ distinctColors config tags ↔
    ∃ tag ∈ tags, tag.color? config = some color := by
  rw [distinctColors, List.mem_eraseDups, List.mem_filterMap]

/-- The first `auto` tag gives a reset. -/
theorem resolve_of_seeds (h : tag.seeds config = true) :
    ColorToken.resolve config tag.token tag.colors =
      (.ok (some { token := "1", action := .reset true }), ["1"]) := by
  obtain ⟨token, colors⟩ := tag
  simp only [seeds, Bool.and_eq_true, List.isEmpty_iff, Option.isSome_iff_exists] at h
  obtain ⟨⟨suffix, hsuffix⟩, rfl⟩ := h
  have hpick : ColorToken.pickAuto suffix [] = ("1", ["1"]) := by
    simp only [ColorToken.pickAuto]
    cases (Number.readUnsigned? Number.maxWord suffix).getD 0 - 1 <;> rfl
  simp only [ColorToken.resolve, hsuffix, hpick]
  rfl

theorem colors_of_not_seeds (h : tag.seeds config = false) :
    (ColorToken.resolve config tag.token tag.colors).2 = tag.colors := by
  unfold ColorToken.resolve
  dsimp only
  cases hauto : Text.afterStart? "auto".toList ((config.alias? tag.token).getD tag.token).toList with
  | none => rfl
  | some suffix =>
    rw [seeds, hauto] at h
    have hcolors : tag.colors.isEmpty = false := h
    simp only [ColorToken.pickAuto, hcolors, Bool.false_eq_true, if_false]

theorem record_eq (colors : List String) :
    ColorToken.record false colors (ColorToken.resolve config tag.token tag.colors).1 =
      match tag.color? config with
      | none => colors
      | some color => if color ∈ colors then colors else colors ++ [color] := by
  unfold color? ColorToken.record
  rcases ColorToken.resolve config tag.token tag.colors with
    ⟨failure | _ | ⟨applied, _ | spans⟩, _⟩ <;> simp

theorem ne_one_of_mem (h : color ∈ distinctColors config tags) : color ≠ "1" := by
  obtain ⟨tag, -, hcolor⟩ := mem_distinctColors.mp h
  exact (action_of_color? hcolor).2

/-- Those of the list that are no `1`. -/
theorem filter_listed (config : Config) (tags : List AppliedTag) :
    (listed config tags).filter (· != "1") = distinctColors config tags := by
  have hseed : (if tags.any (·.seeds config) then ["1"] else []).filter (· != "1") = [] := by
    split <;> rfl
  rw [listed, List.filter_append, hseed, List.nil_append, List.filter_eq_self]
  exact fun color hcolor => bne_iff_ne.mpr (ne_one_of_mem hcolor)

theorem eraseDups_concat (colors : List String) (color : String) :
    (colors ++ [color]).eraseDups =
      if color ∈ colors.eraseDups then colors.eraseDups else colors.eraseDups ++ [color] := by
  rw [List.eraseDups_append, List.removeAll, List.filter_cons, List.filter_nil]
  by_cases h : color ∈ colors <;> simp [h, List.eraseDups_cons]

theorem distinctColors_concat (tags : List AppliedTag) (tag : AppliedTag) :
    distinctColors config (tags ++ [tag]) = match tag.color? config with
      | none => distinctColors config tags
      | some color => if color ∈ distinctColors config tags then distinctColors config tags
        else distinctColors config tags ++ [color] := by
  unfold distinctColors
  rw [List.filterMap_append, List.filterMap_cons]
  cases tag.color? config with
  | none => rw [List.filterMap_nil, List.append_nil]
  | some color => exact eraseDups_concat _ color

/-- One more tag. -/
theorem listed_concat (h : tag.colors = listed config tags) :
    listed config (tags ++ [tag]) =
      ColorToken.record false (ColorToken.resolve config tag.token tag.colors).2
        (ColorToken.resolve config tag.token tag.colors).1 := by
  rw [listed, List.any_append, List.any_cons, List.any_nil, Bool.or_false, distinctColors_concat]
  cases hseeds : tag.seeds config with
  | true =>
    have hcolors : tag.colors = [] := by
      rw [seeds, Bool.and_eq_true] at hseeds
      exact List.isEmpty_iff.mp hseeds.2
    have hdistinct : distinctColors config tags = [] :=
      (List.append_eq_nil_iff.mp (h.symm.trans hcolors)).2
    have hcolor : tag.color? config = none := by rw [color?, resolve_of_seeds hseeds]
    simp [hcolor, hdistinct, resolve_of_seeds hseeds, ColorToken.record]
  | false =>
    rw [colors_of_not_seeds hseeds, record_eq, h, listed, Bool.or_false]
    cases hcolor : tag.color? config with
    | none => rfl
    | some color =>
      have hone : color ∉ (if tags.any (·.seeds config) then ["1"] else []) := by
        have hne := (action_of_color? hcolor).2
        split <;> simp [hne]
      have hlisted : color ∈ (if tags.any (·.seeds config) then ["1"] else []) ++
          distinctColors config tags ↔ color ∈ distinctColors config tags := by
        rw [List.mem_append, or_iff_right hone]
      dsimp only
      by_cases hmem : color ∈ distinctColors config tags
      · rw [if_pos hmem, if_pos (hlisted.mpr hmem)]
      · rw [if_neg hmem, if_neg (hlisted.not.mpr hmem), List.append_assoc]

end AppliedTag

/-- The second state has the settings of the first one and its colors of the art, and is in the art
if the first one is. -/
structure Context.Beside (c d : Context σ) : Prop where
  config : d.config = c.config
  autoColors : d.autoColors = c.autoColors
  firstColorSeen : d.firstColorSeen = c.firstColorSeen
  art : c.parsingLayout = false → d.parsingLayout = false

namespace Eval

/-- The run of a computation applies these color tags, the first one first, and has this outcome. -/
inductive Applies :
    {α : Type} → Eval σ α → Context σ → List AppliedTag → Except Halt α × Context σ → Prop
  | throw {α} (e : Halt) (c) : Applies (throw e : Eval σ α) c [] (.error e, c)
  /-- A step that leaves alone what color tags change. -/
  | modifyGet {α} (f : Context σ → α × Context σ) (c) : (∀ d : Context σ, d.Beside (f d).2) →
      Applies (modifyGet f : Eval σ α) c [] (.ok (f c).1, (f c).2)
  | color (token c) : Applies (Template.applyColor token) c [⟨token, c.autoColors⟩]
      ((Template.applyColor token).outcome c)
  | bind {α β c tags tags' a d outcome} {x : Eval σ α} {f : α → Eval σ β} :
      Applies x c tags (.ok a, d) → Applies (f a) d tags' outcome →
      Applies (x >>= f) c (tags ++ tags') outcome
  | stop {α β c tags e d} {x : Eval σ α} (f : α → Eval σ β) :
      Applies x c tags (.error e, d) → Applies (x >>= f) c tags (.error e, d)
  | withoutStyles {α c tags result d} {x : Eval σ α} :
      Applies x { c with styles.active := [] } tags (result, d) →
      Applies (withoutStyles x) c tags (result, { d with styles.active := c.styles.active })

/-- What a run comes to by its tags is its outcome. -/
theorem Applies.outcome_eq {α : Type} {x : Eval σ α} {result : Except Halt α × Context σ}
    (h : Applies x c tags result) :
    x.outcome c = result := by
  induction h with
  | throw | modifyGet | color => rfl
  | bind _ _ ih ih' =>
    rw [outcome_bind, ih]
    exact ih'
  | stop f _ ih => rw [outcome_bind, ih]
  | withoutStyles _ ih => rw [outcome_withoutStyles, ih]

/-- From every state the run has a list of the tags that it applies. -/
def Traced {α : Type} (x : Eval σ α) : Prop := ∀ c, ∃ tags, Applies x c tags (x.outcome c)

theorem traced_modifyGet {α : Type} {f : Context σ → α × Context σ}
    (h : ∀ d : Context σ, d.Beside (f d).2) :
    Traced (modifyGet f : Eval σ α) := fun c => ⟨[], .modifyGet f c h⟩

theorem traced_modify {f : Context σ → Context σ} (h : ∀ d : Context σ, d.Beside (f d)) :
    Traced (modify f : Eval σ PUnit) := traced_modifyGet h

theorem traced_bind {α β : Type} {x : Eval σ α} {f : α → Eval σ β} (hx : Traced x)
    (hf : ∀ a, (∃ c d, True ∧ x.Yields c a d) → Traced (f a)) : Traced (x >>= f) := by
  intro c
  obtain ⟨tags, h⟩ := hx c
  rw [outcome_bind]
  rcases hxc : x.outcome c with ⟨e | a, d⟩ <;> rw [hxc] at h
  · exact ⟨tags, .stop f h⟩
  · obtain ⟨tags', h'⟩ := hf a ⟨c, d, trivial, hxc⟩ d
    exact ⟨tags ++ tags', .bind h h'⟩

theorem traced_withoutStyles {α : Type} {x : Eval σ α} (h : Traced x) :
    Traced (withoutStyles x) := by
  intro c
  obtain ⟨tags, h⟩ := h { c with styles.active := [] }
  rw [outcome_withoutStyles]
  exact ⟨tags, .withoutStyles h⟩

theorem stepClosed_traced [Provider σ] : StepClosed (σ := σ) (fun _ => True) Traced where
  pure a := traced_modifyGet (f := fun c => (a, c)) fun _ => ⟨rfl, rfl, rfl, id⟩
  fail _ c := ⟨[], .throw _ c⟩
  get := traced_modifyGet (f := fun c => (c, c)) fun _ => ⟨rfl, rfl, rfl, id⟩
  ask _ := traced_modifyGet fun _ => ⟨rfl, rfl, rfl, id⟩
  report _ := traced_modify fun _ => ⟨rfl, rfl, rfl, id⟩
  applyColor token c := ⟨_, .color token c⟩
  remember _ _ := traced_modifyGet fun _ => ⟨rfl, rfl, rfl, id⟩
  cleared := traced_modify fun _ => ⟨rfl, rfl, rfl, id⟩
  bind := traced_bind
  withoutStyles := traced_withoutStyles

end Eval

/-! ## What the art applies -/

namespace Template

open Eval (Traced)

variable [Provider σ] {nested : Info.Nested σ}

omit [Provider σ] in
theorem traced_injectSeparatorReset (line : List Char) :
    Traced (σ := σ) (modifyGet fun context =>
      { context with sepResetApplied := false }.injectSeparatorReset line) := by
  refine Eval.traced_modifyGet fun d => ?_
  obtain ⟨applied, h⟩ := yields_injectSeparatorReset d line
  rw [← (Eval.yields_modifyGet.mp h).2]
  exact ⟨rfl, rfl, rfl, id⟩

theorem traced_spliceLines (hn : ∀ template, Traced (nested template))
    (lines : List (List Char)) : Traced (Info.spliceLines nested lines) := by
  induction lines with
  | nil => exact Eval.stepClosed_traced.pure _
  | cons line lines ih =>
    refine Eval.stepClosed_traced.seq (traced_injectSeparatorReset line) fun line => ?_
    refine Eval.stepClosed_traced.seq (hn line) fun rich => ?_
    refine Eval.stepClosed_traced.seq (Eval.traced_modify fun _ => ?_) fun _ => ih
    exact ⟨rfl, rfl, rfl, id⟩

theorem traced_autoDisk (hn : ∀ template, Traced (nested template)) :
    Traced (Info.autoDisk nested) := by
  refine Eval.stepClosed_traced.get_bind fun c _ => ?_
  refine Eval.stepClosed_traced.seq (Eval.traced_modifyGet fun _ => ⟨rfl, rfl, rfl, id⟩) fun _ => ?_
  dsimp only
  split
  · exact Eval.stepClosed_traced.pure _
  · exact Eval.stepClosed_traced.seq (traced_spliceLines hn _) fun _ =>
      Eval.stepClosed_traced.pure _

theorem traced_tagsHold (hn : ∀ template, Traced (nested template)) :
    TagsHold Traced {} nested where
  resolve _ := Eval.stepClosed_traced.resolve_of_nested hn fun _ => traced_autoDisk hn
  coloredPercentage _ _ _ := Eval.stepClosed_traced.get_bind fun _ _ => hn _

theorem traced_evalNested (depth : Nat) (template : List Char) :
    Traced (σ := σ) (evalNested depth template) := by
  induction depth generalizing template with
  | zero => exact fun c => ⟨[], .throw .tooDeep c⟩
  | succ depth ih =>
    exact Eval.stepClosed_traced.evalNested (within_unrestricted template) (traced_tagsHold ih)

theorem traced_parseLine (template : String) : Traced (σ := σ) (parseLine template) :=
  Eval.stepClosed_traced.evalWhole (within_unrestricted _)
    (traced_tagsHold (traced_evalNested maxDepth))

end Template

theorem Render.traced_parseArt [Provider σ] (art : String) :
    Eval.Traced (σ := σ) (parseArt art) := by
  refine Eval.stepClosed_traced.seq (Eval.traced_modify fun _ => ⟨rfl, rfl, rfl, fun _ => rfl⟩)
    fun _ => Eval.stepClosed_traced.mapM (fun line => ?_) _
  exact Eval.stepClosed_traced.seq (Template.traced_parseLine _) fun _ =>
    Eval.stepClosed_traced.pure _

/-! ## The colors after the art -/

variable {config : Config} {tags before : List AppliedTag} {c d : Context σ}

/-- In the art, after these tags. -/
structure Context.Lists (config : Config) (tags : List AppliedTag) (c : Context σ) : Prop where
  autoColors : c.autoColors = AppliedTag.listed config tags
  art : c.parsingLayout = false
  config : c.config = config

theorem Context.Lists.beside (h : c.Lists config tags) (hd : c.Beside d) : d.Lists config tags :=
  ⟨hd.autoColors.trans h.autoColors, hd.art h.art, hd.config.trans h.config⟩

theorem Context.Lists.applyColor (hcolors : config.disableColors = false)
    (h : c.Lists config tags) (token : String) :
    ((Template.applyColor token).outcome c).2.Lists config
      (tags ++ [⟨token, c.autoColors⟩]) := by
  obtain ⟨hlisted, hart, rfl⟩ := h
  obtain ⟨_, _, _, _, heq, -⟩ := Template.exists_of_applyColor token c
  refine ⟨?_, by rw [heq]; exact hart, by rw [heq]⟩
  rw [Template.autoColors_applyColor, hcolors, if_neg Bool.false_ne_true, hart,
    AppliedTag.listed_concat hlisted]

/-- What a run leaves is settled by the color tags that it applies. -/
theorem Eval.Applies.lists {x : Eval σ α} (hcolors : config.disableColors = false)
    (h : Applies x c tags result) (hc : c.Lists config before) :
    result.2.Lists config (before ++ tags) := by
  induction h generalizing before with
  | throw e c =>
    rw [List.append_nil]
    exact hc
  | modifyGet f c hf =>
    rw [List.append_nil]
    exact hc.beside (hf c)
  | color token c => exact hc.applyColor hcolors token
  | bind _ _ ih ih' =>
    rw [← List.append_assoc]
    exact ih' (ih hc)
  | stop f _ ih => exact ih hc
  | withoutStyles _ ih => exact (ih (hc.beside ⟨rfl, rfl, rfl, id⟩)).beside ⟨rfl, rfl, rfl, id⟩

theorem Text.afterStart?_append (start rest : List Char) :
    afterStart? start (start ++ rest) = some rest := by
  have hstart : start.isPrefixOf (start ++ rest) = true :=
    List.isPrefixOf_iff_prefix.mpr (List.prefix_append start rest)
  rw [afterStart?, if_pos hstart, List.drop_left]

/-- The `auto` tag for the color with this index, the first one being that with index zero. -/
def NamesAuto (index : Nat) (token : String) : Prop :=
  token = String.ofList ("auto".toList ++ Number.decimal (index + 1)) ∨
    index = 0 ∧ token = "auto"

/-- It gives the color with this index. -/
theorem ColorToken.resolve_auto {colors : List String} (hindex : index < colors.length)
    (hword : index < Number.maxWord) (htoken : NamesAuto index token)
    (halias : config.alias? token = none) :
    resolve config token colors =
      ((action config.palette colors[index]).map
        (·.map fun action => { token := colors[index], action }), colors) := by
  have hempty : colors.isEmpty = false :=
    List.isEmpty_eq_false_iff.mpr (List.ne_nil_of_length_pos (Nat.zero_lt_of_lt hindex))
  obtain ⟨suffix, hsuffix, hnumber⟩ : ∃ suffix,
      Text.afterStart? "auto".toList token.toList = some suffix ∧
        (Number.readUnsigned? Number.maxWord suffix).getD 0 - 1 = index := by
    obtain rfl | ⟨rfl, rfl⟩ := htoken
    · refine ⟨Number.decimal (index + 1), ?_, ?_⟩
      · have htext : (String.ofList ("auto".toList ++ Number.decimal (index + 1))).toList =
            "auto".toList ++ Number.decimal (index + 1) := String.toList_ofList
        rw [htext]
        exact Text.afterStart?_append ..
      · rw [Number.readUnsigned?_decimal hword]
        rfl
    · exact ⟨[], by decide, by decide⟩
  have hpick : pickAuto suffix colors = (colors[index], colors) := by
    simp only [pickAuto, hempty, hnumber, Bool.false_eq_true, if_false,
      List.getElem?_eq_getElem hindex, Option.some_or, Option.getD_some]
  simp only [resolve, halias, Option.getD_none, hsuffix, hpick]

theorem AppliedTag.action_of_mem_listed {color : String} (h : color ∈ listed config tags) :
    ∃ action, ColorToken.action config.palette color = .ok (some action) ∧
      (color ≠ "1" → ∃ spans, action = .apply spans) := by
  obtain hone | hcolor := List.mem_append.mp h
  · obtain rfl : color = "1" := by
      split at hone
      · exact List.mem_singleton.mp hone
      · cases hone
    exact ⟨_, ColorToken.action_one _, fun hne => absurd rfl hne⟩
  · obtain ⟨tag, -, htag⟩ := mem_distinctColors.mp hcolor
    obtain ⟨⟨spans, hspans⟩, -⟩ := action_of_color? htag
    exact ⟨_, hspans, fun _ => ⟨spans, rfl⟩⟩

variable [Provider σ]

/-- With colors, the colors of the art are after it the distinct ones of the tags that it applies,
at whatever depth, in the order in which they came first; before them stands `1` if an `auto` tag
came when there were none. In the layout each of them is the one that `auto` with its number stands
for, unless this is the name of an alias, and there it is applied as it is. -/
theorem autoColors_of_parseArt {provider : σ} {art : String} {drawn : List ArtLine}
    (hcolors : config.disableColors = false)
    (h : (Render.parseArt art).Yields (Context.reset { config, provider }) drawn c) :
    (∃ tags, Eval.Applies (Render.parseArt art) (Context.reset { config, provider }) tags
      (.ok drawn, c)) ∧
    ∀ tags, Eval.Applies (Render.parseArt art) (Context.reset { config, provider }) tags
        (.ok drawn, c) →
      c.autoColors = (if tags.any (·.seeds config) then ["1"] else []) ++
        AppliedTag.distinctColors config tags ∧
      ∀ d, Context.ReadsOn true { c with parsingLayout := true } d → d.config = config →
        ∀ index (hindex : index < c.autoColors.length), index < Number.maxWord →
        ∀ token, NamesAuto index token → config.alias? token = none →
          ∃ action, ColorToken.resolve d.config token d.autoColors =
              (.ok (some { token := c.autoColors[index], action }), d.autoColors) ∧
            (c.autoColors[index] ≠ "1" → ∃ spans, action = .apply spans) := by
  refine ⟨h ▸ Render.traced_parseArt art _, fun tags htags => ?_⟩
  have hstart : (Context.reset { config, provider }).Lists config [] := ⟨rfl, rfl, rfl⟩
  have hlisted : c.autoColors = AppliedTag.listed config tags :=
    (htags.lists hcolors hstart).autoColors
  refine ⟨hlisted, fun d hd hconfig index hindex hword token htoken halias => ?_⟩
  have hkept : d.autoColors = c.autoColors := by
    obtain hkept | ⟨hnil, -⟩ := (hd.recording rfl).continues.seed rfl
    · exact hkept
    · have hnil : c.autoColors = [] := hnil
      rw [hnil] at hindex
      cases hindex
  have hmem (color : String) (hcolor : color ∈ c.autoColors) :
      color ∈ AppliedTag.listed config tags := by rwa [← hlisted]
  obtain ⟨action, haction, hspans⟩ :=
    AppliedTag.action_of_mem_listed (hmem _ (List.getElem_mem hindex))
  refine ⟨action, ?_, hspans⟩
  rw [hconfig, hkept, ColorToken.resolve_auto hindex hword htoken halias, haction]
  rfl

/-- Art with two colors, the first one of them twice, and below it a tag that is made by a template.
In the layout, after other colors, `auto2` is the second one. -/
theorem autoColors_of_parseArt_title :
    let config : Config := { aliasColors := [("sky", "#0ff")] }
    let start : Context Snapshot := Context.reset { config, provider := {} }
    let art := "$\x7bsky\x7d#$\x7bred\x7d#$\x7bsky\x7d#\n$<title>"
    let c := ((Render.parseArt art).outcome start).2
    let d := ((Template.parseLine "$\x7bgreen\x7d$\x7bauto\x7d").outcome
      { c with parsingLayout := true }).2
    config.disableColors = false ∧ c.autoColors = ["#0ff", "red"] ∧
    Context.ReadsOn true { c with parsingLayout := true } d ∧ d.config = config ∧
    NamesAuto 1 "auto2" ∧ config.alias? "auto2" = none ∧
    ∃ drawn, (Render.parseArt art).Yields start drawn c ∧
      ∃ tags, Eval.Applies (Render.parseArt art) start tags (.ok drawn, c) ∧
        ["#0ff", "red"] = (if tags.any (·.seeds config) then ["1"] else []) ++
          AppliedTag.distinctColors config tags ∧
        ∃ spans, ColorToken.resolve d.config "auto2" d.autoColors =
          (.ok (some { token := "red", action := .apply spans }), d.autoColors) := by
  intro config start art c d
  have hcolors : c.autoColors = ["#0ff", "red"] := by decide +kernel
  have hd : Context.ReadsOn true { c with parsingLayout := true } d :=
    Context.ReadsOn.refl.parseLine _
  have hconfig : d.config = config := by decide +kernel
  have hauto : NamesAuto 1 "auto2" := .inl (by decide)
  have halias : config.alias? "auto2" = none := by decide
  refine ⟨rfl, hcolors, hd, hconfig, hauto, halias, ?_⟩
  obtain ⟨drawn, _, hyields, rfl⟩ := Eval.exists_yields (x := Render.parseArt art) (c := start)
    (p := fun _ => true) (Q := fun _ after => after = c) (by decide +kernel)
    fun _ _ h _ => (congrArg Prod.snd h).symm
  obtain ⟨⟨tags, htags⟩, hall⟩ := autoColors_of_parseArt rfl hyields
  obtain ⟨hlisted, hpicks⟩ := hall tags htags
  have hindex : 1 < c.autoColors.length := by
    rw [hcolors]
    decide
  have hsecond : c.autoColors[1] = "red" := by simp only [hcolors, List.getElem_cons_succ,
    List.getElem_cons_zero]
  obtain ⟨action, hresolve, hspans⟩ :=
    hpicks d hd hconfig 1 hindex (by decide) "auto2" hauto halias
  rw [hsecond] at hresolve hspans
  obtain ⟨spans, rfl⟩ := hspans (by decide)
  exact ⟨drawn, hyields, tags, htags, hcolors ▸ hlisted, spans, hresolve⟩

/-- Art that can be evaluated has a list of tags, and their colors are found in the state. -/
theorem exists_applies_parseArt (config : Config) (provider : σ) (art : String)
    (hcolors : config.disableColors = false)
    (hok : (((Render.parseArt art).outcome (Context.reset { config, provider })).1.toOption.any
      fun _ => true) = true) :
    ∃ drawn tags, Eval.Applies (Render.parseArt art) (Context.reset { config, provider }) tags
        (.ok drawn, ((Render.parseArt art).outcome (Context.reset { config, provider })).2) ∧
      AppliedTag.distinctColors config tags = ((Render.parseArt art).outcome
        (Context.reset { config, provider })).2.autoColors.filter (· != "1") := by
  generalize hstart : Context.reset { config, provider } = start at hok
  have hlists : start.Lists config [] := hstart ▸ ⟨rfl, rfl, rfl⟩
  obtain ⟨drawn, c, hyields, rfl⟩ := Eval.exists_yields (Q := fun _ c =>
    c = ((Render.parseArt art).outcome start).2) hok fun _ _ h _ => (congrArg Prod.snd h).symm
  obtain ⟨tags, htags⟩ := Render.traced_parseArt art start
  have hlisted := (htags.lists hcolors hlists).autoColors
  rw [List.nil_append] at hlisted
  refine ⟨drawn, tags, ?_, ?_⟩
  · rwa [hyields] at htags
  · rw [hlisted, AppliedTag.filter_listed]

/-- An `auto` tag before the first color of the art takes the first place, and a name of an alias is
no `auto` tag. -/
theorem auto_ne_first_color :
    (let config : Config := {}
    let start : Context Snapshot := Context.reset { config, provider := {} }
    let art := "$\x7bauto\x7dx$\x7bred\x7dy"
    let c := ((Render.parseArt art).outcome start).2
    (∃ drawn tags, Eval.Applies (Render.parseArt art) start tags (.ok drawn, c) ∧
      AppliedTag.distinctColors config tags = ["red"]) ∧
    (ColorToken.resolve config "auto" c.autoColors).1 =
      .ok (some { token := "1", action := .reset true })) ∧
    (let config : Config := { aliasColors := [("auto", "blue")] }
    let start : Context Snapshot := Context.reset { config, provider := {} }
    let art := "$\x7bred\x7dx"
    let c := ((Render.parseArt art).outcome start).2
    (∃ drawn tags, Eval.Applies (Render.parseArt art) start tags (.ok drawn, c) ∧
      AppliedTag.distinctColors config tags = ["red"]) ∧
    (ColorToken.resolve config "auto" c.autoColors).1.toOption.bind (·.map (·.token)) =
      some "blue") := by
  refine ⟨?_, ?_⟩
  · intro config start art c
    obtain ⟨drawn, tags, happlies, hdistinct⟩ :=
      exists_applies_parseArt config ({} : Snapshot) art rfl (by decide +kernel)
    exact ⟨⟨drawn, tags, happlies, hdistinct.trans (by decide +kernel)⟩, by decide +kernel⟩
  · intro config start art c
    obtain ⟨drawn, tags, happlies, hdistinct⟩ :=
      exists_applies_parseArt config ({} : Snapshot) art rfl (by decide +kernel)
    exact ⟨⟨drawn, tags, happlies, hdistinct.trans (by decide +kernel)⟩, by decide +kernel⟩

end Placard
