import Irrigation.Text.Number

/-!
# Names of variables for settings

A variable for a setting has a name that begins with `rain8net_`. The rest is a path: a key, and
behind it perhaps parts that lead into a value, such as `.member` or `[0]`. The case of letters does
not matter.

* `KeyPart`, `KeyPath`: a path, read.
* `KeyPath.read?`: reads a path. All of it has to be well formed.
* `KeyPath.ofName?`: the path in the name of a variable.
-/

namespace Irrigation

/-- A part that leads into a value: a member of a map, or an item of a sequence. -/
inductive KeyPart
  | member (key : String)
  | item (index : Int)
  deriving Repr, DecidableEq

/-- A key, and the parts that lead from its value to the one that is meant. -/
structure KeyPath where
  key : String
  parts : List KeyPart
  deriving Repr, DecidableEq

/-- The lower case of a character, as far as it matters to paths: of the characters outside of
ASCII only the Kelvin sign becomes an ASCII letter. -/
def lowerCase (c : Char) : Char := if c = '\u212a' then 'k' else c.toLower

/-- Whether a key in a path goes on with this character. -/
def isKeyChar (c : Char) : Bool := c.isAlphanum || c = '_' || c = '-' || c = ' '

/-- Whether the character is a blank or a tab, which may stand around an index. -/
def isIndexBlank (c : Char) : Bool := c = ' ' || c = '\t'

namespace KeyPath

/-- Reads the text between two brackets: digits, perhaps behind a minus sign, that fit a signed
64-bit integer. -/
def readIndex? (inside : List Char) : Option Int :=
  let chars := ((inside.dropWhile isIndexBlank).reverse.dropWhile isIndexBlank).reverse
  if chars.head? = some '+' then none else (readInt64 (String.ofList chars)).toOption

/-- Reads the parts behind a key. -/
def readParts? : List Char → Option (List KeyPart)
  | [] => some []
  | '.' :: rest =>
    match rest.takeWhile isKeyChar with
    | [] => none
    | key =>
      (readParts? (rest.dropWhile isKeyChar)).map (.member (String.ofList key) :: ·)
  | '[' :: rest =>
    match _h : rest.dropWhile (· ≠ ']') with
    | [] => none
    | _ :: after => do
      let index ← readIndex? (rest.takeWhile (· ≠ ']'))
      return .item index :: (← readParts? after)
  | _ => none
termination_by path => path.length
decreasing_by
  · have := (rest.dropWhile_suffix isKeyChar).length_le
    simp only [List.length_cons]
    omega
  · have := (rest.dropWhile_suffix (· ≠ ']')).length_le
    rw [_h] at this
    simp only [List.length_cons] at this ⊢
    omega

/-- Reads a path. -/
def read? (path : List Char) : Option KeyPath :=
  match path.takeWhile isKeyChar with
  | [] => none
  | key => (readParts? (path.dropWhile isKeyChar)).map (⟨String.ofList key, ·⟩)

/-- What the name of every variable for a setting begins with. -/
def nameLead : List Char := "rain8net_".toList

/-- The path in the name of a variable. -/
def ofName? (name : String) : Option KeyPath :=
  let chars := name.toList.map lowerCase
  if nameLead.isPrefixOf chars then read? (chars.drop nameLead.length) else none

end KeyPath

end Irrigation
