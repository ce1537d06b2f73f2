import Irrigation.Environment
import Irrigation.Text.Alphanumeric

/-!
# Device paths

The path of a device may refer to variables and to the home directory.

* `PathPart`: a piece of text to keep, or a reference to a variable, perhaps with a text to use
  where the variable is not set.
* `PathPart.parse`: cuts a path into parts. `$NAME` is a reference, where the name is as long as
  letters, numbers and underscores go on. So is `$` with a name in braces, which ends at the first
  closing brace and may hold `:-` and a text to fall back on. `$$` stands for one `$`. Any other
  `$` stands for itself.
* `expandPath`: puts the values in. A reference that cannot be resolved leaves the whole path as
  it is. Values are not looked at again, so only a `~` that the path itself begins with stands for
  the home directory. Without `HOME` that is the one on record for the account.
-/

namespace Irrigation

/-- A piece of a path. -/
inductive PathPart
  | text (chars : List Char)
  | reference (name : String) (fallback : Option String)
  deriving Repr, DecidableEq

/-- Whether a name in a path goes on with this character. -/
def isNameChar (c : Char) : Bool := isAlphanumeric c || c = '_'

/-- Cuts a text at the first `:-`. -/
def splitFallback : List Char → List Char × Option (List Char)
  | [] => ([], none)
  | c :: rest =>
    match c, rest with
    | ':', '-' :: fallback => ([], some fallback)
    | _, _ => (c :: (splitFallback rest).1, (splitFallback rest).2)

namespace PathPart

/-- The reference that the text between two braces is. A text that begins with `:-` is a name as
a whole. -/
def ofBraces (inside : List Char) : PathPart :=
  match splitFallback inside with
  | ([], some _) => reference (String.ofList inside) none
  | (name, fallback) => reference (String.ofList name) (fallback.map String.ofList)

/-- Cuts a path into parts. -/
def parse : List Char → List PathPart
  | [] => []
  | '$' :: '$' :: rest => text ['$'] :: parse rest
  | '$' :: '\x7b' :: rest =>
    match _h : rest.dropWhile (· ≠ '\x7d') with
    | [] => text ['$', '\x7b'] :: parse rest
    | _ :: after => ofBraces (rest.takeWhile (· ≠ '\x7d')) :: parse after
  | '$' :: c :: rest =>
    if isNameChar c then
      reference (String.ofList (c :: rest.takeWhile isNameChar)) none ::
        parse (rest.dropWhile isNameChar)
    else text ['$'] :: parse (c :: rest)
  | c :: rest => text [c] :: parse rest
termination_by path => path.length
decreasing_by
  all_goals simp only [List.length_cons]
  all_goals try omega
  · have := (rest.dropWhile_suffix (· ≠ '\x7d')).length_le
    rw [_h, List.length_cons] at this
    omega
  · have := (rest.dropWhile_suffix isNameChar).length_le
    omega

/-- The text of a part, unless it refers to a variable that is not set. -/
def value? (environment : Environment) : PathPart → Option (List Char)
  | text chars => some chars
  | reference name fallback =>
    ((environment.get? name).or fallback).map String.toList

end PathPart

/-- Puts the home directory in for a leading `~` that is the whole path or that a slash
follows. -/
def expandHome (home : Option String) : List Char → List Char
  | '~' :: rest =>
    match home, rest with
    | some home, [] => home.toList
    | some home, '/' :: _ => home.toList ++ rest
    | _, _ => '~' :: rest
  | path => path

/-- The path with the home directory and the values of variables put in. The system may have a home
directory on record for the account. -/
def expandPath (environment : Environment) (path : String) (account : Option String := none) :
    String :=
  match (PathPart.parse path.toList).mapM (PathPart.value? environment) with
  | none => path
  | some values =>
    let text := values.flatten
    String.ofList
      (if path.toList.head? = some '~' then expandHome (environment.home? account) text else text)

end Irrigation
