/-!
What can go wrong. A `Failure` ends a render or refuses a setting; a `Diagnostic` is reported
while the render goes on.
-/

namespace Placard

/-- What is wrong with an SGR escape that names a color. -/
inductive EscapeFault where
  | unterminated
  | notACode
  | notThreeValues
  | channelRange
  deriving DecidableEq

def EscapeFault.message : EscapeFault → String
  | unterminated => "missing the terminating 'm'"
  | notACode => "expected a color code number"
  | notThreeValues => "an rgb escape needs three values, e.g. \\e[38;2;255;255;255m"
  | channelRange => "rgb values must be 0-255"

/-- A module that needs an argument and was written without a proper one. -/
inductive ArgumentFault where
  | diskPath
  | symbol
  | lightSymbol
  | gtkVersion
  deriving DecidableEq

def ArgumentFault.message : ArgumentFault → String
  | diskPath => "must be disk(/path/to/fs) e.g: disk(/)"
  | symbol => "must be colors_symbol(symbol) e.g: colors_symbol(@)"
  | lightSymbol => "must be colors_light_symbol(symbol) e.g: colors_light_symbol(@)"
  | gtkVersion => "must name a gtk version e.g: theme-gtk3"

/-- What a `name=value` entry sets. -/
inductive EntryKind where
  | aliasColor
  | overrideOption
  deriving DecidableEq

def EntryKind.message : EntryKind → String
  | aliasColor => "alias color"
  | overrideOption => "override option"

/-- Ends a render, or refuses a setting. -/
inductive Failure where
  | unknownModule (name : String)
  | malformedModule (name : String) (fault : ArgumentFault)
  | malformedEscape (escape : String) (fault : EscapeFault)
  | indexedColor (escape : String)
  | unknownProperty (name : String)
  | missingSeparator (kind : EntryKind) (entry : String)
  | invalidValue (name value : String)
  deriving DecidableEq

def Failure.message : Failure → String
  | unknownModule name => "invalid module name: " ++ name
  | malformedModule name fault => "invalid module name '" ++ name ++ "': " ++ fault.message
  | malformedEscape escape fault =>
    "failed to parse ANSI escape color '" ++ escape ++ "': " ++ fault.message
  | indexedColor escape =>
    "256 color escape '" ++ escape ++ "' is not supported in styled output, only in a terminal"
  | unknownProperty name => "unknown config property: " ++ name
  | missingSeparator kind entry =>
    kind.message ++ " '" ++ entry ++ "' must contain '=' (e.g. \"name=value\")"
  | invalidValue name value => "invalid value '" ++ value ++ "' for config property '" ++ name ++ "'"

/-- Reported while the render goes on. -/
inductive Diagnostic where
  /-- The template ended inside a tag that `delimiter` would have closed. -/
  | unclosedTag (delimiter : Char) (template : String)
  | unknownColor (token : String)
  | invalidNumber (operand : String)
  deriving DecidableEq

def Diagnostic.message : Diagnostic → String
  | unclosedTag delimiter template =>
    "missing tag close bracket '" ++ delimiter.toString ++ "' in string '" ++ template ++ "'"
  | unknownColor token => "failed to parse line with color '" ++ token ++ "'"
  | invalidNumber operand => "percentage operand '" ++ operand ++ "' is not a number"

end Placard
