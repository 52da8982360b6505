import Placard.ColorToken
import Placard.Info.Resolve
import Placard.Number.Real
import Placard.Template.Draft
import Placard.Template.Reader

/-!
What templates stand for. A body is followed from left to right; its tags ask for facts, open and
close styles and choose between texts. A body that is not to be evaluated, as in the branch of a
condition that is not taken, is only followed: its tags stand for nothing and change nothing.
-/

namespace Placard.Template

variable {σ : Type} [Provider σ]

/-- The styles to lay over new text; none if colors are switched off. -/
def openStyles : Eval σ (List OpenStyle) := do
  let context ← get
  return if context.config.disableColors then [] else context.styles.active

/-- Lets a color tag take effect. A token that is no color is reported; with colors switched off
no token is looked at. -/
def applyColor (token : String) : Eval σ Unit := do
  let context ← get
  if context.config.disableColors then return
  let (resolved, colors) := ColorToken.resolve context.config token context.autoColors
  set { context with autoColors := colors }
  match ← Eval.ofExcept resolved with
  | none => Eval.report (.unknownColor token)
  | some { token, action } =>
    match action with
    | .reset bold =>
      modify fun context => { context with
        styles := if bold then context.styles.cleared.opened ColorToken.bold
          else context.styles.cleared }
    | .apply spans =>
      modify fun context => { context with
        styles := spans.foldl OpenStyles.opened context.styles
        autoColors := if context.parsingLayout || context.autoColors.contains token
          then context.autoColors else context.autoColors ++ [token] }
    modify fun context => { context with firstColorSeen := true }

/-- The value of a percentage tag: the first operand in percent of the second, of zero always
zero. -/
def ratio (numerator denominator : Float) : Float :=
  if denominator == 0 then 0 else numerator / denominator * 100

/-- An operand without the blanks around it. An exclamation mark before the first one says that
much is good. -/
def splitInversion (operand : List Char) : Bool × List Char :=
  match Text.trim operand with
  | '!' :: rest => (true, Text.trim rest)
  | operand => (false, operand)

/-- The text of a percentage tag; the first operand that is no number is reported. -/
def percentage (nested : Info.Nested σ) (numerator denominator : List Char) : Eval σ RichText := do
  let (inverted, numerator) := splitInversion numerator
  let denominator := Text.trim denominator
  match Number.readReal? numerator, Number.readReal? denominator with
  | some n, some d => Info.coloredPercentage nested (ratio n d) inverted
  | none, _ => Eval.report (.invalidNumber (String.ofList numerator)); return .plain []
  | _, none => Eval.report (.invalidNumber (String.ofList denominator)); return .plain []

mutual

/-- Follows a body, adding to a draft. -/
def evalBody (nested : Info.Nested σ) (template : String) (evaluate : Bool) (draft : Draft) :
    Body → Eval σ Draft
  | .done ending => do
    match ending with
    | .unclosed delimiter => Eval.report (.unclosedTag delimiter template)
    | .closed | .interrupted => pure ()
    return draft
  | .char c rest => do
    let piece := draft.add (← openStyles) [c]
    evalBody nested template evaluate (draft.edited piece (.keep 1)) rest
  | .escaped c rest => do
    let piece := draft.add (← openStyles) [c]
    evalBody nested template evaluate (draft.edited piece (.replace 2 [c])) rest
  | .backslash rest => do
    let piece := draft.add (← openStyles) ['\\']
    evalBody nested template evaluate (draft.edited piece (.keep 1)) rest
  | .tag tag length rest => do
    let added ← evalTag nested template evaluate tag
    let piece := draft.addPiece (← openStyles) added
    evalBody nested template evaluate (draft.edited piece (.replace length added.text.text)) rest

/-- The text of a tag. A part that was cut off stands for the whole tag. -/
def evalTag (nested : Info.Nested σ) (template : String) (evaluate : Bool) : Tag → Eval σ Piece
  | .info name => do
    let draft ← evalBody nested template evaluate {} name
    if !name.isClosed then return draft.toPiece
    else if !evaluate then return {}
    else return { text := (← Info.resolve nested draft.text.text).toRich }
  | .color token => do
    let draft ← evalBody nested template evaluate {} token
    if !token.isClosed then return draft.toPiece
    if evaluate then applyColor draft.text.toString
    return {}
  | .percentage numerator denominator => do
    let first ← evalBody nested template evaluate {} numerator
    if !numerator.isClosed then return first.toPiece
    let second ← evalBody nested template evaluate {} denominator
    if !denominator.isClosed then return second.toPiece
    else if !evaluate then return {}
    else return { text := ← percentage nested first.text.text second.text.text }
  | .conditional left right whenEqual whenDifferent => do
    let first ← evalBody nested template evaluate {} left
    if !left.isClosed then return first.toPiece
    let second ← evalBody nested template evaluate {} right
    if !right.isClosed then return second.toPiece
    let equal := first.text.text = second.text.text
    let third ← evalBody nested template (evaluate && equal) {} whenEqual
    if !whenEqual.isClosed then return third.toPiece
    let fourth ← evalBody nested template (evaluate && !equal) {} whenDifferent
    if !whenDifferent.isClosed then return fourth.toPiece
    return if equal then third.toPiece else fourth.toPiece

end

/-- A template in both forms: styled, and as the plain text into which it is edited. -/
structure Parsed where
  rich : RichText
  plain : List Char

/-- Evaluates a whole template. Styles that are still open at the end are closed. -/
def evalWhole (nested : Info.Nested σ) (template : List Char) : Eval σ Parsed := do
  let draft ← evalBody nested (String.ofList template) true {} (.read template)
  modify fun context => { context with styles := context.styles.cleared }
  return { rich := draft.text, plain := draft.plain template }

/-- Evaluates a template inside another one, whose open styles it leaves alone. Such templates
may go `depth` levels deeper. -/
def evalNested : (depth : Nat) → Info.Nested σ
  | 0, _ => throw .tooDeep
  | depth + 1, template =>
    Eval.withoutStyles do return (← evalWhole (evalNested depth) template).rich

/-- How deep templates made by templates may go. -/
def maxDepth : Nat := 1000

/-- Evaluates a template in both forms. -/
def parseLine (template : String) : Eval σ Parsed := evalWhole (evalNested maxDepth) template.toList

/-- The styled text of a template. -/
def parse (template : String) : Eval σ RichText := return (← parseLine template).rich

/-- The plain text of a template. -/
def parsePlain (template : String) : Eval σ String :=
  return String.ofList (← parseLine template).plain

end Placard.Template
