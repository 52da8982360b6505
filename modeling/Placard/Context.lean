import Placard.Config
import Placard.Info.Cache
import Placard.OpenStyles
import Placard.Provider

/-!
The state that the templates of one render share, and computations on it. A computation that
stops early leaves the state as it was then.
-/

namespace Placard

structure Context (σ : Type) where
  config : Config
  provider : σ
  cache : Info.Cache := {}
  styles : OpenStyles := {}
  /-- The distinct color tokens of the art, in the order in which they came. -/
  autoColors : List String := []
  /-- Info lines are being read, and not art. -/
  parsingLayout : Bool := false
  /-- The line has had its color reset at the separator. -/
  sepResetApplied : Bool := false
  /-- Some color was applied. -/
  firstColorSeen : Bool := false
  /-- Lines that take the place of the one being read. -/
  spliced : List RichText := []
  diagnostics : List Diagnostic := []

/-- Why a computation stopped. -/
inductive Halt where
  | failure (failure : Failure)
  /-- Templates made by templates went deeper than is allowed for. -/
  | tooDeep
  deriving DecidableEq

/-- Computations on the shared state; the state outlives a stop. -/
abbrev Eval (σ : Type) := ExceptT Halt (StateM (Context σ))

namespace Context

variable {σ : Type}

/-- Forgets all but the settings, and tells the provider to forget as well. The numbers of the
openings go on. -/
def reset [Provider σ] (context : Context σ) : Context σ where
  config := context.config
  provider := Provider.clear context.provider
  styles := context.styles.cleared

/-- Reports something that does not stop the render. -/
def report (context : Context σ) (diagnostic : Diagnostic) : Context σ :=
  { context with diagnostics := context.diagnostics ++ [diagnostic] }

/-- The line with a color reset before or after its first separator, once for each line. -/
def injectSeparatorReset (context : Context σ) (line : List Char) : List Char × Context σ :=
  let separator := context.config.sepReset.toList
  if separator.isEmpty || context.sepResetApplied then (line, context)
  else match Text.cutAt? separator line with
    | none => (line, context)
    | some (before, rest) =>
      let taken := if context.config.sepResetAfter then separator.length else 0
      (before ++ rest.take taken ++ "$\x7b0\x7d".toList ++ rest.drop taken,
        { context with sepResetApplied := true })

end Context

namespace Eval

variable {σ α : Type}

def fail (failure : Failure) : Eval σ α := throw (.failure failure)

def ofExcept : Except Failure α → Eval σ α
  | .ok a => pure a
  | .error failure => fail failure

def report (diagnostic : Diagnostic) : Eval σ Unit := modify (·.report diagnostic)

def ask [Provider σ] (query : Query) : Eval σ query.Answer :=
  modifyGet fun context =>
    let (answer, provider) := Provider.ask query context.provider
    (answer, { context with provider })

/-- Runs a computation without the open styles, which are back afterwards, also if it stops. -/
def withoutStyles (x : Eval σ α) : Eval σ α :=
  ExceptT.mk fun context =>
    let (result, after) := x.run { context with styles.active := [] }
    (result, { after with styles.active := context.styles.active })

end Eval

end Placard
