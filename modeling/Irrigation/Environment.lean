/-!
# Environments

A system lists variables as entries: a name, an equals sign and the value.

* `Environment`: the variables of an invocation, in order of listing.
* `Environment.ofEntries`: the variables that entries list.
* `Environment.get?`: the value of a variable.
* `Environment.home?`: the home directory, if one is named or on record.
* `Environment.forcesColour`, `Environment.forcesArgumentColour`, `Environment.refusesColour`: what
  the variables say about colours.
-/

namespace Irrigation

/-- The variables of an invocation with their values. -/
abbrev Environment := List (String × String)

namespace Environment

/-! ## Entries -/

/-- The entry for a variable. -/
def entry (name value : String) : List Char := name.toList ++ '=' :: value.toList

/-- The variable of an entry. Its name has at least one character, whatever that is, and ends before
the next equals sign. -/
def ofEntry? : List Char → Option (String × String)
  | [] => none
  | first :: rest =>
    match rest.dropWhile (· ≠ '=') with
    | [] => none
    | _ :: value =>
      some (String.ofList (first :: rest.takeWhile (· ≠ '=')), String.ofList value)

/-- The variables of the entries that hold one. -/
def ofEntries (entries : List (List Char)) : Environment := entries.filterMap ofEntry?

/-! ## Values -/

/-- What follows `lead` in an entry that begins so. -/
def valueBehind? (lead entry : List Char) : Option String :=
  if lead.isPrefixOf entry then some (String.ofList (entry.drop lead.length)) else none

/-- The value for a name: what follows the name and an equals sign in the first entry that begins
so. A name that holds an equals sign itself is looked for in the same way, and the empty name has no
value. -/
def get? (environment : Environment) (name : String) : Option String :=
  if name = "" then none
  else
    environment.findSome? fun (listed, value) => valueBehind? (entry name "") (entry listed value)

/-- The home directory: the value of `HOME` unless it is empty, else the directory that the system
has on record for the account, if it has one. -/
def home? (environment : Environment) (account : Option String := none) : Option String :=
  ((environment.get? "HOME").filter (· ≠ "")).or account

/-! ## Colours -/

/-- Whether reports and errors have colours where the output is no terminal: `CLICOLOR_FORCE` is set
to anything but `0`, the empty text included. -/
def forcesColour (environment : Environment) : Bool :=
  (environment.get? "CLICOLOR_FORCE").any (· ≠ "0")

/-- Whether messages about the arguments have colours where the output is no terminal:
`CLICOLOR_FORCE` is set to anything but the empty text, `0` included. -/
def forcesArgumentColour (environment : Environment) : Bool :=
  (environment.get? "CLICOLOR_FORCE").any (· ≠ "")

/-- Whether colours are refused. -/
def refusesColour (environment : Environment) : Bool :=
  (environment.get? "NO_COLOR").any (· ≠ "")

end Environment

end Irrigation
