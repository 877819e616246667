/-!
# Glyphs of a view

The screen of the Apple computer draws each cell of the input and output columns with two characters
of its own; these pairs stand for a shaded, an off, an on and an empty cell.
-/

set_option autoImplicit false

namespace LineControl.Apple

/-- Puts one character for each pair of two given ones, from left to right. -/
def replacePair (first second meaning : Char) : List Char → List Char
  | a :: b :: rest =>
    if a == first && b == second then meaning :: replacePair first second meaning rest
    else a :: replacePair first second meaning (b :: rest)
  | rest => rest

/-- The glyph pairs and what they stand for, in the order in which they are replaced. -/
def glyphPairs : List (Char × Char × Char) :=
  [('J', 'K', 'X'), ('L', 'M', '0'), ('^', '_', '1'), ('H', 'I', ' '), ('I', 'I', ' ')]

/-- The text with all glyph pairs replaced, one kind after the other. -/
def readGlyphs (cs : List Char) : List Char :=
  glyphPairs.foldl (fun cs (first, second, meaning) => replacePair first second meaning cs) cs

/-- The input and output cells of a view's pattern: four characters for the inputs, a separator, and
the outputs. -/
def readPattern (cs : List Char) : List Char :=
  readGlyphs (cs.take 4) ++ ' ' :: readGlyphs (cs.drop 5)

end LineControl.Apple
