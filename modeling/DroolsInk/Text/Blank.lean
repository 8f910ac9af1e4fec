import DroolsInk.Text.CharRange

/-!
# Blank characters

`isBlank` is the Unicode property White_Space: the ASCII blanks with vertical tab and form feed,
the next-line control, the no-break space, the spaces of various widths, and the line and
paragraph separators. The zero-width space is not among them.
-/

namespace DroolsInk.Text

/-- The characters with the Unicode property White_Space. -/
def blankRanges : List CharRange := CharRange.ofPairs [
  (0x9, 0xD), (0x20, 0x20), (0x85, 0x85), (0xA0, 0xA0), (0x1680, 0x1680), (0x2000, 0x200A),
  (0x2028, 0x2029), (0x202F, 0x202F), (0x205F, 0x205F), (0x3000, 0x3000)]

def isBlank (c : Char) : Bool := inRanges blankRanges c

end DroolsInk.Text
