import Irrigation.Text.CodePoints

/-!
# Blank text

* `isBlank`: the characters with the Unicode property of white space.
* `isBlankText`: a text of such characters only, the empty text included. No device has a
  blank name.
-/

namespace Irrigation

/-- The code points of white space. -/
def blankRanges : Array (Nat × Nat) :=
  #[(0x9, 0xD), (0x20, 0x20), (0x85, 0x85), (0xA0, 0xA0), (0x1680, 0x1680), (0x2000, 0x200A),
   (0x2028, 0x2029), (0x202F, 0x202F), (0x205F, 0x205F), (0x3000, 0x3000)]

/-- Whether the character is white space. -/
def isBlank (c : Char) : Bool := inRanges blankRanges c.toNat

/-- Whether a text holds nothing but white space. -/
def isBlankText (text : String) : Bool := text.toList.all isBlank

end Irrigation
