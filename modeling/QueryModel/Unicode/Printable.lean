import QueryModel.Unicode.PrintableTable
import QueryModel.Unicode.Range

/-! # Printable characters

The characters that can stand for themselves in a quoted text, wherever they are put.
-/

namespace QueryModel.Unicode

/-- Characters with a glyph of their own that does not attach to the one before. -/
def isPrintable (c : Char) : Bool :=
  if c.toNat < 0x7F then 0x20 ≤ c.toNat
  else
    !inRanges unprintableRanges c && !inRanges fillerRanges c &&
      !inRanges graphemeExtendRanges c

end QueryModel.Unicode
