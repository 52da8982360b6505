import Placard.Proofs.Draft
import Placard.Proofs.Eval
import Placard.Template.Evaluate

/-! # Color tags

What a color tag does is settled by its token: `Context.colored` is the state after a token has been
resolved, and the outcome of a color tag is one of three (`outcome_applyColor`). Apart from the
styles it changes only what the render knows about colors, and it reports nothing but unknown colors
(`exists_of_applyColor`). The colors of the art are ones that could be applied, so `auto` never
fails, and whether a color tag fails is settled by its token alone (`applyColor_result_eq`). -/

namespace Placard

variable {σ : Type}

/-- The diagnostic is one that only color tags make. -/
def Diagnostic.isUnknownColor : Diagnostic → Bool
  | unknownColor _ => true
  | _ => false

/-- The effect of an action on the open styles. -/
def OpenStyles.after (styles : OpenStyles) : ColorToken.Action → OpenStyles
  | .reset true => styles.cleared.opened ColorToken.bold
  | .reset false => styles.cleared
  | .apply spans => spans.foldl opened styles

namespace Context

/-- The colors of the art after a token has been applied. Resets are not counted, and tokens outside
the art are not. -/
def autoColorsAfter (c : Context σ) (resolved : ColorToken.Resolved) : List String :=
  match resolved.action with
  | .reset _ => c.autoColors
  | .apply _ =>
    if c.parsingLayout || c.autoColors.contains resolved.token then c.autoColors
    else c.autoColors ++ [resolved.token]

/-- The state after a color token has been resolved; `none` if it is no color. -/
def colored (c : Context σ) (token : String) : Option ColorToken.Resolved → Context σ
  | none => c.report (.unknownColor token)
  | some resolved =>
    { c with
      styles := c.styles.after resolved.action
      autoColors := c.autoColorsAfter resolved
      firstColorSeen := true }

end Context

namespace Template

/-- All that a color tag does. -/
theorem outcome_applyColor (token : String) (c : Context σ) :
    (applyColor token).outcome c =
      if c.config.disableColors then (.ok (), c)
      else
        let (resolved, colors) := ColorToken.resolve c.config token c.autoColors
        let c := { c with autoColors := colors }
        match resolved with
        | .ok resolved => (.ok (), c.colored token resolved)
        | .error failure => (.error (.failure failure), c) := by
  rw [applyColor, Eval.outcome_bind, Eval.outcome_get]
  dsimp only
  split
  · rfl
  rcases ColorToken.resolve c.config token c.autoColors with
    ⟨failure | _ | ⟨applied, ⟨_ | _⟩ | spans⟩, colors⟩ <;> rfl

/-- All that a color tag can change. What it reports are unknown colors. -/
theorem exists_of_applyColor (token : String) (c : Context σ) :
    ∃ styles autoColors firstColorSeen diagnostics, ((applyColor token).outcome c).2 =
        { c with styles, autoColors, firstColorSeen, diagnostics } ∧
      diagnostics.filter (!·.isUnknownColor) = c.diagnostics.filter (!·.isUnknownColor) := by
  rw [outcome_applyColor]
  split
  · exact ⟨_, _, _, _, rfl, rfl⟩
  rcases ColorToken.resolve c.config token c.autoColors with ⟨failure | _ | resolved, colors⟩
  · exact ⟨_, _, _, _, rfl, rfl⟩
  · refine ⟨_, _, _, _, rfl, ?_⟩
    rw [List.filter_append]
    exact List.append_nil _
  · exact ⟨_, _, _, _, rfl, rfl⟩

end Template

/-! ## Colors of the art -/

namespace ColorToken

/-- All tokens are colors, or at least read without a failure. -/
def Readable (palette : Palette) (tokens : List String) : Prop :=
  ∀ token ∈ tokens, ∃ result, action palette token = .ok result

theorem action_one (palette : Palette) : action palette "1" = .ok (some (.reset true)) := rfl

/-- Of readable colors `auto` picks a readable one. -/
theorem readable_pickAuto (suffix : List Char) {palette : Palette} {colors : List String}
    (h : Readable palette colors) :
    (∃ result, action palette (pickAuto suffix colors).1 = .ok result) ∧
      Readable palette (pickAuto suffix colors).2 := by
  have hcolors : Readable palette (if colors.isEmpty then ["1"] else colors) := by
    split
    · intro token htoken
      obtain rfl := List.mem_singleton.mp htoken
      exact ⟨_, action_one palette⟩
    · exact h
  refine ⟨?_, hcolors⟩
  unfold pickAuto
  dsimp only
  generalize (if colors.isEmpty then ["1"] else colors) = colors at hcolors
  generalize (Number.readUnsigned? Number.maxWord suffix).getD 0 - 1 = index
  cases hindex : colors[index]? with
  | some token => exact hcolors token (List.mem_of_getElem? hindex)
  | none =>
    cases hhead : colors.head? with
    | some token => exact hcolors token (List.mem_of_mem_head? hhead)
    | none => exact ⟨_, action_one palette⟩

/-- What a token stands for does not depend on the colors of the art, or it is one of them. -/
theorem resolve_cases (config : Config) (token : String) :
    (∃ literal, ∀ colors, resolve config token colors =
      ((action config.palette literal).map (·.map fun action => { token := literal, action }),
        colors)) ∨
    ∃ suffix, ∀ colors, resolve config token colors =
      ((action config.palette (pickAuto suffix colors).1).map
        (·.map fun action => { token := (pickAuto suffix colors).1, action }),
        (pickAuto suffix colors).2) := by
  unfold resolve
  dsimp only
  generalize (config.alias? token).getD token = token
  cases Text.afterStart? "auto".toList token.toList with
  | none => exact .inl ⟨token, fun _ => rfl⟩
  | some suffix => exact .inr ⟨suffix, fun _ => rfl⟩

/-- A token that was resolved does what it does as it stands. -/
theorem action_of_resolve {config : Config} {token : String} {colors : List String}
    {resolved : Resolved} (h : (resolve config token colors).1 = .ok (some resolved)) :
    action config.palette resolved.token = .ok (some resolved.action) := by
  have hmap (literal : String)
      (hr : (action config.palette literal).map (·.map fun action => { token := literal, action }) =
        .ok (some resolved)) : action config.palette resolved.token = .ok (some resolved.action) := by
    cases ha : action config.palette literal with
    | error failure =>
      rw [ha] at hr
      cases hr
    | ok result =>
      rw [ha] at hr
      cases result with
      | none => cases hr
      | some result =>
        cases hr
        exact ha
  obtain ⟨literal, hliteral⟩ | ⟨suffix, hsuffix⟩ := resolve_cases config token
  · exact hmap literal (by rwa [hliteral] at h)
  · exact hmap _ (by rwa [hsuffix] at h)

/-- The colors of the art stay readable, and so is a token that was resolved. -/
theorem readable_resolve (token : String) {config : Config} {colors : List String}
    (h : Readable config.palette colors) :
    Readable config.palette (resolve config token colors).2 ∧
      ∀ resolved, (resolve config token colors).1 = .ok (some resolved) →
        ∃ result, action config.palette resolved.token = .ok result := by
  refine ⟨?_, fun resolved hresolved => ⟨_, action_of_resolve hresolved⟩⟩
  obtain ⟨literal, hliteral⟩ | ⟨suffix, hsuffix⟩ := resolve_cases config token
  · rw [hliteral]
    exact h
  · rw [hsuffix]
    exact (readable_pickAuto suffix h).2

end ColorToken

/-- The colors of the art are readable. -/
def Context.AutoReadable (c : Context σ) : Prop :=
  ColorToken.Readable c.config.palette c.autoColors

namespace Template

theorem autoReadable_applyColor (token : String) {c : Context σ} (h : c.AutoReadable) :
    ((applyColor token).outcome c).2.AutoReadable := by
  obtain ⟨hcolors, htoken⟩ := ColorToken.readable_resolve token h
  rw [outcome_applyColor]
  split
  · exact h
  generalize ColorToken.resolve c.config token c.autoColors = r at hcolors htoken
  obtain ⟨failure | _ | resolved, colors⟩ := r
  · exact hcolors
  · exact hcolors
  · have hresolved := htoken resolved rfl
    change ColorToken.Readable c.config.palette _
    dsimp only [Context.colored, Context.autoColorsAfter]
    split
    · exact hcolors
    split
    · exact hcolors
    · intro t ht
      obtain ht | ht := List.mem_append.mp ht
      · exact hcolors t ht
      · obtain rfl := List.mem_singleton.mp ht
        exact hresolved

/-- Whether a color tag fails does not depend on the colors of the art as long as these are
readable. -/
theorem applyColor_result_eq (token : String) {c d : Context σ} (hc : c.AutoReadable)
    (hd : d.AutoReadable) (hconfig : d.config = c.config) :
    ((applyColor token).outcome d).1 = ((applyColor token).outcome c).1 := by
  unfold Context.AutoReadable at hc hd
  rw [outcome_applyColor, outcome_applyColor]
  rw [hconfig] at hd ⊢
  split
  · rfl
  obtain ⟨literal, hliteral⟩ | ⟨suffix, hsuffix⟩ := ColorToken.resolve_cases c.config token
  · rw [hliteral, hliteral]
    cases ColorToken.action c.config.palette literal <;> rfl
  · rw [hsuffix, hsuffix]
    obtain ⟨result, hresult⟩ := (ColorToken.readable_pickAuto suffix hc).1
    obtain ⟨result', hresult'⟩ := (ColorToken.readable_pickAuto suffix hd).1
    rw [hresult, hresult']
    rfl

/-! ## Tokens of plain characters -/

/-- The body of characters that stand for themselves. -/
def Body.ofChars (cs : List Char) : Body := cs.foldr .char (.done .closed)

theorem isClosed_ofChars (cs : List Char) : (Body.ofChars cs).isClosed = true := by
  induction cs with
  | nil => rfl
  | cons c cs ih => exact ih

variable [Provider σ] (nested : Info.Nested σ) (name : String)

theorem yields_ofChars (evaluate : Bool) (draft : Draft) (cs : List Char) (c : Context σ) :
    ∃ result, (evalBody nested name evaluate draft (.ofChars cs)).Yields c result c ∧
      result.text.text = draft.text.text ++ cs := by
  induction cs generalizing draft with
  | nil => exact ⟨draft, rfl, (List.append_nil _).symm⟩
  | cons x cs ih =>
    let styles := if c.config.disableColors then [] else c.styles.active
    obtain ⟨result, hyields, htext⟩ := ih (draft.edited (draft.add styles [x]) (.keep 1))
    refine ⟨result, hyields, htext.trans ?_⟩
    change (draft.add styles [x]).text.text ++ cs = _
    rw [Piece.text_add, List.append_assoc]
    rfl

/-- A color tag is for its token. -/
theorem yields_color {c d : Context σ} (h : (applyColor (String.ofList token)).Yields c () d) :
    (evalTag nested name true (.color (.ofChars token))).Yields c {} d := by
  obtain ⟨draft, hyields, htext⟩ := yields_ofChars nested name true {} token c
  have htoken : draft.text.toString = String.ofList token := congrArg String.ofList htext
  rw [evalTag, hyields.bind_iff, isClosed_ofChars]
  refine Eval.yields_bind.mpr ⟨(), d, ?_, Eval.yields_pure.mpr ⟨rfl, rfl⟩⟩
  rw [htoken]
  exact h

/-- A color tag whose token is a color. -/
theorem yields_colorTag {c : Context σ} (hcolors : c.config.disableColors = false)
    (hresolve : ColorToken.resolve c.config (String.ofList token) c.autoColors =
      (.ok (some resolved), colors)) :
    (evalTag nested name true (.color (.ofChars token))).Yields c {}
      ({ c with autoColors := colors }.colored (String.ofList token) (some resolved)) := by
  refine yields_color nested name ?_
  change (applyColor (String.ofList token)).outcome c = _
  rw [outcome_applyColor, hcolors, if_neg Bool.false_ne_true, hresolve]

end Template

end Placard
