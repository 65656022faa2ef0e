/-
White space: the characters with the Unicode property White_Space.

The property is small and fixed, so it is spelled out: the controls from tab to carriage
return, the space, the next line control, the no-break space and the typographic spaces.
Zero-width characters and the byte order mark do not have it.
-/
import AnnotationLog.Unicode.Ranges

namespace AnnotationLog.Unicode

/-- The ranges of White_Space. -/
def whiteSpace : List (Nat × Nat) :=
  [(0x0009, 0x000D), (0x0020, 0x0020), (0x0085, 0x0085), (0x00A0, 0x00A0), (0x1680, 0x1680),
   (0x2000, 0x200A), (0x2028, 0x2029), (0x202F, 0x202F), (0x205F, 0x205F), (0x3000, 0x3000)]

/-- Whether a character is white space. -/
def isWhiteSpace (c : Char) : Bool :=
  inRanges whiteSpace c

end AnnotationLog.Unicode
