/-!
# Control sequences

What a terminal would show of a text that holds control sequences. A file gets that text: the
sequences are taken out, and so are the controls that are no white space.

* `ControlState`: where a character stands, outside of all sequences or inside of one;
  `ControlState.shows` says whether it is shown there, and `ControlState.next` what follows it.
* `SpacingRule`: what white space does to the sequence that it stands in.
* `ControlScan`: the scan of a text under such a rule, one character at a time.
* `stripControls`: the characters of a text that are shown.
-/

namespace Irrigation

/-- Where the next character stands. -/
inductive ControlState
  /-- Outside of all sequences. -/
  | ground
  /-- Behind an escape. -/
  | escape
  /-- In an escape sequence that has begun with a blank or punctuation. -/
  | escapeTail
  /-- In a sequence with parameters. -/
  | parameters
  /-- In a command for the terminal. -/
  | command
  /-- At the head of a string for a device. -/
  | deviceHead
  /-- Among the parameters of a string for a device. -/
  | deviceParameters
  /-- Behind the parameters of a string for a device, before its final character. -/
  | deviceTail
  /-- In a string. -/
  | string
  deriving Repr, DecidableEq

namespace ControlState

/-! ## Kinds of characters -/

/-- Whether the character is a blank or a printing character of ASCII. -/
def isVisible (c : Char) : Bool := 0x20 ≤ c.toNat && c.toNat < 0x7f

/-- Whether a control moves the place of writing, as white space does. -/
def isSpacing (c : Char) : Bool := c = '\t' || c = '\n' || c = '\r' || c = '\x0c'

/-- Whether a string ends with the character: the byte `0x9c` of its UTF-8 form closes strings. -/
def endsString (c : Char) : Bool := (String.utf8EncodeChar c).contains 0x9c

/-! ## One character -/

/-- The kind of sequence that begins with an escape and this character. -/
def afterEscape (c : Char) : ControlState :=
  if c = '[' then parameters
  else if c = ']' then command
  else if c = 'P' then deviceHead
  else if c = 'X' ∨ c = '^' ∨ c = '_' then string
  else if c.toNat < 0x30 then escapeTail
  else ground

/-- The state behind a visible character. -/
def afterVisible (c : Char) : ControlState → ControlState
  | ground => ground
  | escape => afterEscape c
  | escapeTail => if c.toNat < 0x30 then escapeTail else ground
  | parameters => if c.toNat < 0x40 then parameters else ground
  | command => command
  | deviceHead =>
    if c.toNat < 0x30 then deviceTail else if c.toNat < 0x40 then deviceParameters else string
  | deviceParameters =>
    if c.toNat < 0x30 then deviceTail else if c.toNat < 0x3c then deviceParameters else string
  | deviceTail => if c.toNat < 0x30 then deviceTail else string
  | string => string

/-- The state behind a character. An escape begins a sequence anew, and the controls `0x18` and
`0x1a` end one. A command ends with a bell. Other controls, and characters outside of ASCII, leave
a sequence as it is. -/
def next (c : Char) (state : ControlState) : ControlState :=
  if c = '\x1b' then escape
  else if c.toNat = 0x18 ∨ c.toNat = 0x1a then ground
  else if isVisible c then state.afterVisible c
  else
    match state with
    | command => if c = '\x07' then ground else command
    | string => if endsString c then ground else string
    | _ => state

/-- Whether a character is shown. In the sequences that are no strings and no commands, white space
is. -/
def shows (c : Char) : ControlState → Bool
  | ground => isVisible c || isSpacing c || 0x80 ≤ c.toNat
  | escape | escapeTail | parameters => isSpacing c
  | command | deviceHead | deviceParameters | deviceTail | string => false

end ControlState

/-! ## Texts -/

/-- What white space does to the sequence that it stands in: it ends the sequence, or it interrupts
it until the next control that is no white space. -/
inductive SpacingRule
  | ends
  | interrupts
  deriving Repr, DecidableEq

/-- Where a scan stands. -/
structure ControlScan where
  state : ControlState := .ground
  /-- Whether white space has interrupted the sequence. -/
  interrupted : Bool := false
  deriving Repr, DecidableEq

namespace ControlScan

/-- Reads a character: the scan behind it, and whether it is shown. While a sequence is
interrupted, characters are shown as outside of it, and one that is not ASCII ends it for good. -/
def step (rule : SpacingRule) (scan : ControlScan) (c : Char) : ControlScan × Bool :=
  if scan.interrupted && ControlState.ground.shows c then
    (if c.toNat < 0x80 then scan else {}, true)
  else if scan.state.shows c then
    match scan.state, rule with
    | .ground, _ | _, .ends => ({}, true)
    | _, .interrupts => ({ scan with interrupted := true }, true)
  else ({ state := scan.state.next c }, false)

/-- The characters that are shown. -/
def shown (rule : SpacingRule) : ControlScan → List Char → List Char
  | _, [] => []
  | scan, c :: rest =>
    let (after, isShown) := scan.step rule c
    if isShown then c :: after.shown rule rest else after.shown rule rest

end ControlScan

/-- The text that is shown of a text with control sequences. -/
def stripControls (rule : SpacingRule) (text : String) : String :=
  String.ofList (ControlScan.shown rule {} text.toList)

end Irrigation
