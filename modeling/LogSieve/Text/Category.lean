import LogSieve.Text.Runs
import LogSieve.Text.CategoryTable

/-! Which characters can be shown as they are. Control and format characters, separators other than
the space, private and unassigned characters cannot. -/

namespace LogSieve.Text

def category? (name : String) : Option Intervals := namedIntervals? categoryRuns name

def category (name : String) : Intervals := (category? name).getD []

/-- The categories of characters that show nothing of their own. Surrogates are no characters. -/
def hiddenCategories : List String := ["cc", "cf", "co", "cn", "zl", "zp", "zs"]

def hidden : Intervals := hiddenCategories.flatMap category

def joiningMarks : Intervals :=
  category "mn" ++ category "me" ++ [
    (0x9BE, 0x9BE), (0x9D7, 0x9D7), (0xB3E, 0xB3E), (0xB57, 0xB57), (0xBBE, 0xBBE), (0xBD7, 0xBD7),
    (0xCC0, 0xCC0), (0xCC2, 0xCC2), (0xCC7, 0xCC8), (0xCCA, 0xCCB), (0xCD5, 0xCD6), (0xD3E, 0xD3E),
    (0xD57, 0xD57), (0xDCF, 0xDCF), (0xDDF, 0xDDF), (0x1715, 0x1715), (0x1734, 0x1734),
    (0x1B35, 0x1B35), (0x1B3B, 0x1B3B), (0x1B3D, 0x1B3D), (0x1B43, 0x1B44), (0x1BAA, 0x1BAA),
    (0x1BF2, 0x1BF3), (0x200C, 0x200C), (0x302E, 0x302F), (0xA953, 0xA953), (0xA9C0, 0xA9C0),
    (0xFF9E, 0xFF9F), (0x111C0, 0x111C0), (0x11235, 0x11235), (0x1133E, 0x1133E),
    (0x1134D, 0x1134D), (0x11357, 0x11357), (0x113B8, 0x113B8), (0x113C2, 0x113C2),
    (0x113C5, 0x113C5), (0x113C7, 0x113C9), (0x113CF, 0x113CF), (0x114B0, 0x114B0),
    (0x114BD, 0x114BD), (0x115AF, 0x115AF), (0x116B6, 0x116B6), (0x11930, 0x11930),
    (0x1193D, 0x1193D), (0x11F41, 0x11F41), (0x16FF0, 0x16FF1), (0x1D165, 0x1D166),
    (0x1D16D, 0x1D172), (0xE0020, 0xE007F)]

def isShown (c : Char) : Bool := c = ' ' || !Intervals.holds hidden c

def isJoining (c : Char) : Bool := Intervals.holds joiningMarks c

end LogSieve.Text
