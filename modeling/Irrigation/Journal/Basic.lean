import Irrigation.Terminal.Style
import Irrigation.Text.Number

/-!
# Journals

The diagnostics of an invocation are lines on standard output, one per record.

* `Record`: what is noted, how important it is, and within which activities.
* `Journal`: which records are shown, and in which form. From verbosity 1 on the events are shown,
  from 2 on also details, the ends of activities, and the part of the program that notes.
* `Journal.note`: the line for a record, or nothing.
-/

namespace Irrigation

/-- What kind of thing a record notes. -/
inductive RecordKind
  /-- A step of the work. -/
  | event
  /-- A detail of a step. -/
  | detail
  /-- The end of an activity. -/
  | ending
  deriving Repr, DecidableEq

namespace RecordKind

/-- The least verbosity that shows records of the kind. -/
def threshold : RecordKind → Nat
  | event => 1
  | detail | ending => 2

/-- The word that a line begins with, five characters wide. -/
def levelWord (styled : Bool) : RecordKind → String
  | event | ending => Style.green.paint styled " INFO"
  | detail => Style.blue.paint styled "DEBUG"

end RecordKind

/-- An activity, with the values that identify it. -/
structure Activity where
  name : String
  fields : List (String × String)
  deriving Repr, DecidableEq

/-- A record: its kind, the activities it belongs to from the outermost on, the part of the program
that notes it, and the text. -/
structure Record where
  kind : RecordKind
  activities : List Activity
  source : String
  text : String
  deriving Repr, DecidableEq

/-- Which records are shown, and whether styles are. -/
structure Journal where
  verbosity : Nat
  styled : Bool
  deriving Repr, DecidableEq

/-- The activity in front of a record. -/
def Activity.render (styled : Bool) (activity : Activity) : String :=
  let fields := activity.fields.map fun (name, value) =>
    Style.italic.paint styled name ++ Style.dimmed.paint styled "=" ++ value
  Style.bold.paint styled activity.name ++ Style.bold.paint styled "\x7b" ++
    " ".intercalate fields ++ Style.bold.paint styled "\x7d" ++ Style.dimmed.paint styled ":"

/-- A character of a text in the journal. Controls that steer a terminal are written out. -/
def journalChar (c : Char) : List Char :=
  if c.toNat = 0x1b ∨ c.toNat = 0x07 ∨ c.toNat = 0x08 ∨ c.toNat = 0x0c ∨ c.toNat = 0x7f then
    ['\\', 'x'] ++ fixedNumeral 16 2 c.toNat
  else if 0x80 ≤ c.toNat ∧ c.toNat ≤ 0x9f then
    ['\\', 'u', '\x7b'] ++ Nat.toDigits 16 c.toNat ++ ['\x7d']
  else [c]

namespace Journal

/-- The journal that shows nothing. -/
def silent : Journal := ⟨0, false⟩

/-- The line for a record. -/
def line (journal : Journal) (record : Record) : String :=
  record.kind.levelWord journal.styled ++ " " ++
    String.join (record.activities.map (Activity.render journal.styled)) ++
    (if record.activities.isEmpty then "" else " ") ++
    (if RecordKind.detail.threshold ≤ journal.verbosity then
      Style.dimmed.paint journal.styled record.source ++ Style.dimmed.paint journal.styled ":" ++
        " "
    else "") ++
    String.ofList (record.text.toList.flatMap journalChar) ++ "\n"

/-- The line for a record if it is shown. -/
def note (journal : Journal) (record : Record) : String :=
  if record.kind.threshold ≤ journal.verbosity then journal.line record else ""

end Journal

end Irrigation
