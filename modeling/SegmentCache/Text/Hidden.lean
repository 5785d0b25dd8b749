import SegmentCache.Text.Combining
import SegmentCache.Text.Unassigned

/-!
# Characters that cannot be shown as they are

Quoted text writes a character by its number when showing it would leave nothing to see or would
change its neighbour.
-/

namespace SegmentCache.Text

/-- Ranges of characters that leave nothing to see: controls, format characters, separators other
than the space, private use, and the fillers of Hangul. -/
def invisibleRanges : List (Nat × Nat) :=
  [
    (0x0, 0x1F), (0x7F, 0xA0), (0xAD, 0xAD), (0x600, 0x605), (0x61C, 0x61C), (0x6DD, 0x6DD),
    (0x70F, 0x70F), (0x890, 0x891), (0x8E2, 0x8E2), (0x115F, 0x1160), (0x1680, 0x1680),
    (0x180E, 0x180E), (0x2000, 0x200F), (0x2028, 0x202F), (0x205F, 0x2064), (0x2066, 0x206F),
    (0x3000, 0x3000), (0x3164, 0x3164), (0xE000, 0xF8FF), (0xFEFF, 0xFEFF), (0xFFA0, 0xFFA0),
    (0xFFF9, 0xFFFB), (0x110BD, 0x110BD), (0x110CD, 0x110CD), (0x13430, 0x1343F),
    (0x1BCA0, 0x1BCA3), (0x1D173, 0x1D17A), (0xE0001, 0xE0001), (0xE0020, 0xE007F),
    (0xF0000, 0xFFFFD), (0x100000, 0x10FFFD)]

/-- The table of invisible characters is in order. -/
theorem areAscending_invisibleRanges : areAscending invisibleRanges = true := by
  decide +kernel

/-- Whether a character leaves nothing to see. -/
def isInvisible (c : Char) : Bool :=
  inRanges c.toNat invisibleRanges

/-- Whether a character is one of the two halfwidth sound marks of Katakana. They extend the letter
before them, but are letters themselves and have a place of their own. -/
def isSoundMark (c : Char) : Bool :=
  c = '\uFF9E' || c = '\uFF9F'

/-- Whether quoted text writes a character by its number. -/
def isHidden (c : Char) : Bool :=
  isInvisible c || isUnassigned c || (isCombining c && !isSoundMark c)

end SegmentCache.Text
