/-!
# TOML values

The part of TOML that a file of two plain settings can use: entries of a key with a text or an
integer. Everything else that TOML has (tables, arrays, dates, floats, booleans, dotted keys) fits
no setting.

* `TomlValue`, `TomlEntry`: what an entry holds.
* `isTextChar`, `isWhite`: the classes of characters that the reader and the writer share.
-/

namespace Irrigation

/-- The value of an entry. -/
inductive TomlValue
  | text (value : String)
  | integer (value : Int)
  deriving Repr, DecidableEq

/-- A key with its value. -/
abbrev TomlEntry := String × TomlValue

/-- The characters that may stand as they are in comments and texts: tabs and all that are no
control characters of ASCII. -/
def isTextChar (c : Char) : Bool := c = '\t' || (32 ≤ c.toNat && c.toNat ≠ 127)

/-- Blanks within a line. -/
def isWhite (c : Char) : Bool := c = ' ' || c = '\t'

/-- The greatest integer that TOML can hold. -/
def maxTomlInteger : Nat := 0x7FFFFFFFFFFFFFFF

end Irrigation
