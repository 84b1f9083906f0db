import Stencil.Unicode.Binary
import Stencil.Unicode.Script

/-!
# Breaks

Text is cut into the signs that a reader sees, into words and into sentences by properties of its
characters.  Each of the three properties is derived from scripts, categories and binary
properties.
-/

namespace Stencil.Unicode

/-- The characters of one code point. -/
def point (n : Nat) : InversionList := .range n n

/-- The zero width joiner. -/
def joiner : InversionList := point 0x200D

/-- Marks with a width. -/
def spacingMarks : InversionList := category ["Mc"]

/-! ## Signs -/

/-- Syllables without a final consonant. -/
def openSyllables : InversionList :=
  ⟨(List.range 399).flatMap fun i => [0xAC00 + 28 * i, 0xAC00 + 28 * i + 1]⟩

/-- Marks with a width that do not extend a sign. -/
def separateMarks : InversionList := .ofRanges [
    (0x102B, 0x102C), (0x1038, 0x1038), (0x1062, 0x1064), (0x1067, 0x106D), (0x1083, 0x1083),
    (0x1087, 0x108C), (0x108F, 0x108F), (0x109A, 0x109C), (0x1A61, 0x1A61), (0x1A63, 0x1A64),
    (0xAA7B, 0xAA7B), (0xAA7D, 0xAA7D), (0x11720, 0x11721)]

/-- Letters that belong to the sign after them. -/
def prefixedLetters : InversionList := .ofRanges [
    (0xD4E, 0xD4E), (0x111C2, 0x111C3), (0x113D1, 0x113D1), (0x1193F, 0x1193F),
    (0x11941, 0x11941), (0x11A3A, 0x11A3A), (0x11A84, 0x11A89), (0x11D46, 0x11D46),
    (0x11F02, 0x11F02)]

/-- Characters that extend a sign. -/
def signExtend : InversionList := graphemeExtend.union emojiModifier

/-- Characters that stand alone. -/
def signControl : InversionList :=
  ((category ["Zl", "Zp", "Cc", "Cf"]).union ((category ["Cn"]).inter defaultIgnorable)).diff
    (unionAll [point 0x0A, point 0x0D, joiner, prependedConcatenationMark, signExtend])

/-- The names of the values of the break between signs. -/
def signBreaks : List (String × String × InversionList) := [
    ("CN", "Control", signControl), ("CR", "CR", point 0x0D), ("EX", "Extend", signExtend),
    ("L", "L", .ofRanges [(0x1100, 0x115F), (0xA960, 0xA97C)]), ("LF", "LF", point 0x0A),
    ("LV", "LV", openSyllables),
    ("LVT", "LVT", (InversionList.range 0xAC00 0xD7A3).diff openSyllables),
    ("PP", "Prepend", prependedConcatenationMark.union prefixedLetters),
    ("RI", "Regional_Indicator", regionalIndicator),
    ("SM", "SpacingMark",
      ((spacingMarks.diff signExtend).diff separateMarks).union
        (.ofRanges [(0x0E33, 0x0E33), (0x0EB3, 0x0EB3)])),
    ("T", "T", .ofRanges [(0x11A8, 0x11FF), (0xD7CB, 0xD7FB)]),
    ("V", "V",
      .ofRanges [(0x1160, 0x11A7), (0xD7B0, 0xD7C6), (0x16D63, 0x16D63), (0x16D67, 0x16D6A)]),
    ("ZWJ", "ZWJ", joiner)]

/-! ## Words -/

/-- Letters of scripts that write words without spaces. -/
def unspacedLetters : InversionList := .ofRanges [
    (0xE01, 0xE30), (0xE32, 0xE33), (0xE40, 0xE46), (0xE81, 0xE82), (0xE84, 0xE84),
    (0xE86, 0xE8A), (0xE8C, 0xEA3), (0xEA5, 0xEA5), (0xEA7, 0xEB0), (0xEB2, 0xEB3),
    (0xEBD, 0xEBD), (0xEC0, 0xEC4), (0xEC6, 0xEC6), (0xEDC, 0xEDF), (0x1000, 0x102A),
    (0x103F, 0x103F), (0x1050, 0x1055), (0x105A, 0x105D), (0x1061, 0x1061), (0x1065, 0x1066),
    (0x106E, 0x1070), (0x1075, 0x1081), (0x108E, 0x108E), (0x1780, 0x17B3), (0x17D7, 0x17D7),
    (0x17DC, 0x17DC), (0x1950, 0x196D), (0x1970, 0x1974), (0x1980, 0x19AB), (0x19B0, 0x19C9),
    (0x1A20, 0x1A54), (0x1AA7, 0x1AA7), (0xA9E0, 0xA9E4), (0xA9E6, 0xA9EF), (0xA9FA, 0xA9FE),
    (0xAA60, 0xAA76), (0xAA7A, 0xAA7A), (0xAA7E, 0xAAAF), (0xAAB1, 0xAAB1), (0xAAB5, 0xAAB6),
    (0xAAB9, 0xAABD), (0xAAC0, 0xAAC0), (0xAAC2, 0xAAC2), (0xAADB, 0xAADD), (0x11700, 0x1171A),
    (0x11740, 0x11746)]

/-- Characters that are no letters and stand like letters in words. -/
def letterLike : InversionList := .ofRanges [
    (0x2C2, 0x2C5), (0x2D2, 0x2D7), (0x2DE, 0x2DF), (0x2E5, 0x2EB), (0x2ED, 0x2ED),
    (0x2EF, 0x2FF), (0x55A, 0x55C), (0x55E, 0x55E), (0x58A, 0x58A), (0x5F3, 0x5F3),
    (0x70F, 0x70F), (0xA708, 0xA716), (0xA720, 0xA721), (0xA789, 0xA78A), (0xAB5B, 0xAB5B)]

/-- Digits and the signs that stand in front of digits. -/
def numericSigns : InversionList :=
  unionAll [category ["Nd"], .range 0x066B 0x066C, prependedConcatenationMark.diff (point 0x070F)]

/-- Characters that extend the character before them in a word. -/
def wordExtend : InversionList :=
  (unionAll [graphemeExtend, spacingMarks, emojiModifier]).diff joiner

/-- Katakana with the signs that go with them. -/
def katakana : InversionList :=
  unionAll [script "Kana",
    .ofRanges [(0x3031, 0x3035), (0x309B, 0x309C), (0x30A0, 0x30A0), (0x30FC, 0x30FC),
      (0xFF70, 0xFF70)]]

/-- Letters of Hebrew. -/
def hebrewLetters : InversionList := (script "Hebr").inter (category ["Lo"])

/-- Letters of words. -/
def wordLetters : InversionList :=
  (alphabetic.union letterLike).diff
    (unionAll [ideographic, katakana, wordExtend, hebrewLetters, script "Hira", unspacedLetters])

/-- The names of the values of the break between words. -/
def wordBreaks : List (String × String × InversionList) := [
    ("LE", "ALetter", wordLetters), ("CR", "CR", point 0x0D), ("DQ", "Double_Quote", point 0x22),
    ("Extend", "Extend", wordExtend),
    ("EX", "ExtendNumLet", (category ["Pc"]).union (point 0x202F)),
    ("FO", "Format",
      (category ["Cf"]).diff
        (unionAll [wordExtend, .range 0x200B 0x200D, numericSigns, letterLike])),
    ("HL", "Hebrew_Letter", hebrewLetters), ("KA", "Katakana", katakana), ("LF", "LF", point 0x0A),
    ("ML", "MidLetter",
      .ofRanges [(0x3A, 0x3A), (0xB7, 0xB7), (0x0387, 0x0387), (0x055F, 0x055F), (0x05F4, 0x05F4),
        (0x2027, 0x2027), (0xFE13, 0xFE13), (0xFE55, 0xFE55), (0xFF1A, 0xFF1A)]),
    ("MN", "MidNum",
      .ofRanges [(0x2C, 0x2C), (0x3B, 0x3B), (0x037E, 0x037E), (0x0589, 0x0589), (0x060C, 0x060D),
        (0x066C, 0x066C), (0x07F8, 0x07F8), (0x2044, 0x2044), (0xFE10, 0xFE10), (0xFE14, 0xFE14),
        (0xFE50, 0xFE50), (0xFE54, 0xFE54), (0xFF0C, 0xFF0C), (0xFF1B, 0xFF1B)]),
    ("MB", "MidNumLet",
      .ofRanges [(0x2E, 0x2E), (0x2018, 0x2019), (0x2024, 0x2024), (0xFE52, 0xFE52),
        (0xFF07, 0xFF07), (0xFF0E, 0xFF0E)]),
    ("NL", "Newline", .ofRanges [(0x0B, 0x0C), (0x85, 0x85), (0x2028, 0x2029)]),
    ("NU", "Numeric", numericSigns.diff (point 0x066C)),
    ("RI", "Regional_Indicator", regionalIndicator), ("SQ", "Single_Quote", point 0x27),
    ("WSegSpace", "WSegSpace",
      .ofRanges [(0x20, 0x20), (0x1680, 0x1680), (0x2000, 0x2006), (0x2008, 0x200A),
        (0x205F, 0x205F), (0x3000, 0x3000)]),
    ("ZWJ", "ZWJ", joiner)]

/-! ## Sentences -/

/-- Characters after which a sentence may go on. -/
def sentenceContinue : InversionList := .ofRanges [
    (0x2C, 0x2D), (0x3A, 0x3B), (0x37E, 0x37E), (0x55D, 0x55D), (0x60C, 0x60D), (0x7F8, 0x7F8),
    (0x1802, 0x1802), (0x1808, 0x1808), (0x2013, 0x2014), (0x3001, 0x3001), (0xFE10, 0xFE11),
    (0xFE13, 0xFE14), (0xFE31, 0xFE32), (0xFE50, 0xFE51), (0xFE54, 0xFE55), (0xFE58, 0xFE58),
    (0xFE63, 0xFE63), (0xFF0C, 0xFF0D), (0xFF1A, 0xFF1B), (0xFF64, 0xFF64)]

/-- Separators of paragraphs. -/
def paragraphEnds : InversionList := .ofRanges [(0x85, 0x85), (0x2028, 0x2029)]

/-- Full stops, which may also end an abbreviation. -/
def fullStops : InversionList :=
  .ofRanges [(0x2E, 0x2E), (0x2024, 0x2024), (0xFE52, 0xFE52), (0xFF0E, 0xFF0E)]

/-- Characters that extend the character before them in a sentence. -/
def sentenceExtend : InversionList := unionAll [graphemeExtend, spacingMarks, joiner]

/-- Letters that may not start a sentence. -/
def sentenceLower : InversionList :=
  lowercase.diff (sentenceExtend.union (.ofRanges [(0x10D0, 0x10FA), (0x10FD, 0x10FF)]))

/-- Letters that may start a sentence. -/
def sentenceUpper : InversionList :=
  ((category ["Lt"]).union uppercase).diff (.ofRanges [(0x1C90, 0x1CBA), (0x1CBD, 0x1CBF)])

/-- Quotation marks that are no punctuation. -/
def ornamentQuotes : InversionList :=
  .ofRanges [(0x22, 0x22), (0x27, 0x27), (0x275B, 0x2760), (0x2E00, 0x2E0D), (0x1F676, 0x1F678)]

/-- The names of the values of the break between sentences. -/
def sentenceBreaks : List (String × String × InversionList) := [
    ("AT", "ATerm", fullStops), ("CR", "CR", point 0x0D),
    ("CL", "Close",
      ((category ["Ps", "Pe", "Pi", "Pf"]).union ornamentQuotes).diff
        (fullStops.union sentenceTerminal)),
    ("EX", "Extend", sentenceExtend),
    ("FO", "Format",
      (category ["Cf"]).diff (unionAll [sentenceExtend, .range 0x200C 0x200D, numericSigns])),
    ("LF", "LF", point 0x0A), ("LO", "Lower", sentenceLower), ("NU", "Numeric", numericSigns),
    ("LE", "OLetter",
      (alphabetic.union (point 0x05F3)).diff
        (unionAll [sentenceLower, sentenceUpper, sentenceExtend])),
    ("SC", "SContinue", sentenceContinue), ("SE", "Sep", paragraphEnds),
    ("SP", "Sp", blankTable.diff (unionAll [paragraphEnds, point 0x0A, point 0x0D])),
    ("ST", "STerm", sentenceTerminal.diff fullStops), ("UP", "Upper", sentenceUpper)]

end Stencil.Unicode
