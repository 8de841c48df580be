import MaskedLiterals.Text.Blank
import MaskedLiterals.Text.Category

/-!
# Characters that show nothing of their own

A quoted text spells out the characters that a reader could not see: control and format characters,
the separators other than the space, the characters for private use, code points that are given to
no character, fillers, and the marks that belong to the character in front of them.
-/

namespace MaskedLiterals.Text

def invisibleCategories : List Category :=
  [.format, .spaceSeparator, .lineSeparator, .paragraphSeparator, .privateUse, .unassigned,
   .nonspacingMark, .enclosingMark]

/-- The spacing marks with the property `Grapheme_Extend`, and the letters that are fillers. -/
def extendingRanges : List (Nat × Nat) :=
  [(0x09be, 0x09be), (0x09d7, 0x09d7), (0x0b3e, 0x0b3e), (0x0b57, 0x0b57), (0x0bbe, 0x0bbe),
   (0x0bd7, 0x0bd7), (0x0cc0, 0x0cc0), (0x0cc2, 0x0cc2), (0x0cc7, 0x0cc8), (0x0cca, 0x0ccb),
   (0x0cd5, 0x0cd6), (0x0d3e, 0x0d3e), (0x0d57, 0x0d57), (0x0dcf, 0x0dcf), (0x0ddf, 0x0ddf),
   (0x115f, 0x1160), (0x1715, 0x1715), (0x1734, 0x1734), (0x1b35, 0x1b35), (0x1b3b, 0x1b3b),
   (0x1b3d, 0x1b3d), (0x1b43, 0x1b44), (0x1baa, 0x1baa), (0x1bf2, 0x1bf3), (0x302e, 0x302f),
   (0x3164, 0x3164), (0xa953, 0xa953), (0xa9c0, 0xa9c0), (0xffa0, 0xffa0), (0x111c0, 0x111c0),
   (0x11235, 0x11235), (0x1133e, 0x1133e), (0x1134d, 0x1134d), (0x11357, 0x11357),
   (0x113b8, 0x113b8), (0x113c2, 0x113c2), (0x113c5, 0x113c5), (0x113c7, 0x113c9),
   (0x113cf, 0x113cf), (0x114b0, 0x114b0), (0x114bd, 0x114bd), (0x115af, 0x115af),
   (0x116b6, 0x116b6), (0x11930, 0x11930), (0x1193d, 0x1193d), (0x11f41, 0x11f41),
   (0x16ff0, 0x16ff1), (0x1d165, 0x1d166), (0x1d16d, 0x1d172)]

/-- Whether a character shows nothing of its own. -/
def isUnprintable (c : Char) : Bool :=
  isControl c
    || (c ≠ ' ' && invisibleCategories.any (·.contains c))
    || inRanges extendingRanges c.toNat

end MaskedLiterals.Text
