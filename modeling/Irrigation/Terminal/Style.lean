/-!
# Styled text

A terminal shows text in a style between control sequences: one or more that select the style, and
one that resets it.

* `Style`: the styles of this program.
* `Style.paint`: a text in a style, or the plain text where styles are off.
-/

namespace Irrigation

/-- How a piece of text is shown. -/
inductive Style
  | bold
  | dimmed
  | italic
  | red
  | green
  | yellow
  | blue
  | cyan
  | boldRed
  | boldGreen
  /-- The word that an error about the arguments begins with. -/
  | alert
  /-- A heading of the help text. -/
  | heading
  deriving Repr, DecidableEq

namespace Style

/-- The parameters of the control sequences that select the style, one sequence each. -/
def parameters : Style → List String
  | bold => ["1"]
  | dimmed => ["2"]
  | italic => ["3"]
  | red => ["31"]
  | green => ["32"]
  | yellow => ["33"]
  | blue => ["34"]
  | cyan => ["36"]
  | boldRed => ["1;31"]
  | boldGreen => ["1;32"]
  | alert => ["1", "31"]
  | heading => ["1", "4"]

/-- A control sequence that selects a rendition. -/
def rendition (parameters : String) : String := "\x1b[" ++ parameters ++ "m"

/-- The text in the style if styles are shown, else the text. -/
def paint (shown : Bool) (style : Style) (text : String) : String :=
  if shown then String.join (style.parameters.map rendition) ++ text ++ rendition "0" else text

@[simp]
theorem paint_false (style : Style) (text : String) : style.paint false text = text := by
  simp [paint]

end Style

end Irrigation
