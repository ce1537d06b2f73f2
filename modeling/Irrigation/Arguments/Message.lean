import Irrigation.Arguments.Basic
import Irrigation.Terminal.Controls
import Irrigation.Terminal.Style

/-!
# Errors about arguments

* `ArgumentError.styledMessage`: the sentence for an error, with the words of the invocation and
  the names of options in styles.
* `ArgumentError.form`: how the program is invoked.
* `ArgumentError.plainText`: the text of an error without styles.
* `ArgumentError.text`: what is printed.

Where styles are not wanted, all control sequences are taken out, those in the words of the
invocation included.

The texts leave two things out. Where options stand before the fault, the form is made of these
options, and tips about similar options may stand in front of it. Here the form is always that of an
invocation without options, and there are no tips.
-/

namespace Irrigation

/-- A part of the words that is at fault. -/
def faultyPart (text : String) : String := "'" ++ Style.yellow.paint true text ++ "'"

/-- Text to be typed as it is. -/
def literalPart (text : String) : String := "'" ++ Style.bold.paint true text ++ "'"

/-- The line that lists the shells. -/
def shellChoices : String :=
  "\n  [possible values: " ++
    ", ".intercalate (Shell.all.map fun shell => Style.green.paint true shell.word) ++ "]"

namespace ArgumentError

/-- The sentence for the error, in styles. -/
def styledMessage : ArgumentError → String
  | unexpected word => "unexpected argument " ++ faultyPart word ++ " found"
  | missingValue option =>
    "a value is required for " ++ literalPart option.label ++ " but none was supplied" ++
      if option = .completions then shellChoices else ""
  | invalidNumber option text reason =>
    "invalid value " ++ faultyPart text ++ " for " ++ literalPart option.label ++ ": " ++
      reason.message
  | invalidTimers text reason =>
    "invalid value " ++ faultyPart text ++ " for " ++ literalPart ValueOption.timers.label ++
      ": " ++ reason.message
  | unknownShell text =>
    "invalid value " ++ faultyPart text ++ " for " ++
      literalPart ValueOption.completions.label ++ shellChoices
  | surplusValue switch text =>
    "unexpected value " ++ faultyPart text ++ " for " ++ literalPart switch.label ++
      " found; no more were expected"
  | repeated option =>
    "the argument " ++ faultyPart option.label ++ " cannot be used multiple times"

/-- Whether the form of an invocation follows: where a value is bad, the form is not. -/
def showsForm : ArgumentError → Bool
  | unexpected _ | surplusValue _ _ | repeated _ => true
  | missingValue _ | invalidNumber .. | invalidTimers .. | unknownShell _ => false

/-- The form of an invocation without options, as a paragraph. -/
def form : String :=
  Style.heading.paint true "Usage:" ++ " " ++ Style.bold.paint true "rain8net" ++ " [OPTIONS]\n\n"

/-- The text with its styles. -/
def styledText (error : ArgumentError) : String :=
  Style.alert.paint true "error:" ++ " " ++ error.styledMessage ++ "\n\n" ++
    (if error.showsForm then form else "") ++
    "For more information, try " ++ literalPart "--help" ++ ".\n"

/-- The text without styles, under a rule for white space in control sequences. -/
def plainText (error : ArgumentError) (rule : SpacingRule := .ends) : String :=
  stripControls rule error.styledText

/-- The text that is printed. Without colours it is taken from the stream that writes it, in which
white space interrupts a control sequence. -/
def text (colour : Bool) (error : ArgumentError) : String :=
  if colour then error.styledText else error.plainText .interrupts

end ArgumentError

end Irrigation
