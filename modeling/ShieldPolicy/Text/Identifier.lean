import ShieldPolicy.Text.Alphanumeric
import ShieldPolicy.Text.Mark

/-!
# Identifiers

The names that can stand without quotes: a letter, `$` or `_`, and then marks, digits and connecting
punctuation too.
-/

namespace ShieldPolicy.Text

/-- Code points of the general category `Pc`. -/
def connectorRanges : List (Nat × Nat) :=
  [(0x5f, 0x5f), (0x203f, 0x2040), (0x2054, 0x2054), (0xfe33, 0xfe34), (0xfe4d, 0xfe4f),
   (0xff3f, 0xff3f)]

/-- Code points with the property `Diacritic` that are neither letters nor of the category `Mn`. -/
def diacriticRanges : List (Nat × Nat) :=
  [(0x5e, 0x5e), (0x60, 0x60), (0xa8, 0xa8), (0xaf, 0xaf), (0xb4, 0xb4), (0xb7, 0xb8),
   (0x2c2, 0x2c5), (0x2d2, 0x2df), (0x2e5, 0x2eb), (0x2ed, 0x2ed), (0x2ef, 0x2ff), (0x375, 0x375),
   (0x384, 0x385), (0xf3e, 0xf3f), (0x1063, 0x1064), (0x1069, 0x106d), (0x1087, 0x108c),
   (0x108f, 0x108f), (0x109a, 0x109b), (0x1715, 0x1715), (0x1734, 0x1734), (0x1abe, 0x1abe),
   (0x1b44, 0x1b44), (0x1baa, 0x1baa), (0x1bf2, 0x1bf3), (0x1cd3, 0x1cd3), (0x1ce1, 0x1ce1),
   (0x1cf7, 0x1cf7), (0x1fbd, 0x1fbd), (0x1fbf, 0x1fc1), (0x1fcd, 0x1fcf), (0x1fdd, 0x1fdf),
   (0x1fed, 0x1fef), (0x1ffd, 0x1ffe), (0x302e, 0x302f), (0x309b, 0x309c), (0xa700, 0xa716),
   (0xa720, 0xa721), (0xa789, 0xa78a), (0xa92e, 0xa92e), (0xa953, 0xa953), (0xa9c0, 0xa9c0),
   (0xaa7b, 0xaa7b), (0xaa7d, 0xaa7d), (0xab5b, 0xab5b), (0xab6a, 0xab6b), (0xabec, 0xabec),
   (0xff3e, 0xff3e), (0xff40, 0xff40), (0xffe3, 0xffe3), (0x111c0, 0x111c0), (0x11235, 0x11235),
   (0x1134d, 0x1134d), (0x113cf, 0x113cf), (0x116b6, 0x116b6), (0x1193d, 0x1193d),
   (0x11f41, 0x11f41), (0x16ff0, 0x16ff1), (0x1d16d, 0x1d172)]

def startsIdentifier (c : Char) : Bool := c == '$' || c == '_' || isLetter c

/-- Whether a character may stand within an identifier. The two joiners of width zero may. -/
def continuesIdentifier (c : Char) : Bool :=
  startsIdentifier c || isNonspacing c || isDecimalDigit c || c == '\u200c' || c == '\u200d' ||
    inRanges connectorRanges c.toNat || inRanges diacriticRanges c.toNat

end ShieldPolicy.Text
