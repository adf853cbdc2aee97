import TypingBundle.Text.Category
import TypingBundle.Text.PropertyRuns

/-!
Unicode properties that a character has or has not. Some are given by tables; the others are
composed of these and of general categories, in the way the standard composes them.
-/

namespace TypingBundle.Text.Property

open CharSet (ofCategories ofRanges ofPoints ofRuns)

/-! ### Letters, case and identifiers -/

def letters : CharSet := ofCategories [.lu, .ll, .lt, .lm, .lo]

def otherAlphabetic : CharSet := ofRuns otherAlphabeticRuns
def otherLowercase : CharSet := ofRuns otherLowercaseRuns

def otherUppercase : CharSet :=
  ofRanges [(0x2160, 0x216F), (0x24B6, 0x24CF), (0x1F130, 0x1F149), (0x1F150, 0x1F169),
    (0x1F170, 0x1F189)]

/-- Letters, letter-like numbers, and other characters that are used like letters. -/
def alphabetic : CharSet := (letters.union (ofCategories [.nl])).union otherAlphabetic

def lowercase : CharSet := (ofCategories [.ll]).union otherLowercase
def uppercase : CharSet := (ofCategories [.lu]).union otherUppercase
def cased : CharSet := (lowercase.union uppercase).union (ofCategories [.lt])

/-- Characters that are passed over when the case of their neighbours is looked at. -/
def caseIgnorable : CharSet :=
  (ofCategories [.mn, .me, .cf, .lm, .sk]).union
    (ofPoints [0x27, 0x2E, 0x3A, 0xB7, 0x387, 0x55F, 0x5F4, 0x2018, 0x2019, 0x2024, 0x2027, 0xFE13,
      0xFE52, 0xFE55, 0xFF07, 0xFF0E, 0xFF1A])

def changesWhenLowercased : CharSet := ofRuns changesWhenLowercasedRuns
def changesWhenUppercased : CharSet := ofRuns changesWhenUppercasedRuns

/-- Titles differ from capitals in the digraphs that have a form of their own for titles, and in
letters whose capitals are not used in titles. -/
def changesWhenTitlecased : CharSet :=
  (changesWhenUppercased.union (ofPoints [0x1C4, 0x1C7, 0x1CA, 0x1F1])).difference
    (ofRanges [(0x1C5, 0x1C5), (0x1C8, 0x1C8), (0x1CB, 0x1CB), (0x1F2, 0x1F2), (0x10D0, 0x10FA),
      (0x10FD, 0x10FF), (0x1F88, 0x1F8F), (0x1F98, 0x1F9F), (0x1FA8, 0x1FAF), (0x1FBC, 0x1FBC),
      (0x1FCC, 0x1FCC), (0x1FFC, 0x1FFC)])

/-- Folding differs from putting into small letters in some variants and ligatures, and in the
script whose letters are folded to capitals. -/
def changesWhenCasefolded : CharSet :=
  (changesWhenLowercased.union
    (ofRanges [(0xB5, 0xB5), (0xDF, 0xDF), (0x149, 0x149), (0x17F, 0x17F), (0x345, 0x345),
      (0x3C2, 0x3C2), (0x3D0, 0x3D1), (0x3D5, 0x3D6), (0x3F0, 0x3F1), (0x3F5, 0x3F5),
      (0x587, 0x587), (0x13F8, 0x13FD), (0x1C80, 0x1C88), (0x1E9A, 0x1E9B), (0x1F80, 0x1F87),
      (0x1F90, 0x1F97), (0x1FA0, 0x1FA7), (0x1FB2, 0x1FB4), (0x1FB7, 0x1FB7), (0x1FC2, 0x1FC4),
      (0x1FC7, 0x1FC7), (0x1FF2, 0x1FF4), (0x1FF7, 0x1FF7), (0xAB70, 0xABBF), (0xFB00, 0xFB06),
      (0xFB13, 0xFB17)])).difference (ofRanges [(0x13A0, 0x13F5)])

def changesWhenCasemapped : CharSet :=
  (changesWhenLowercased.union changesWhenUppercased).union changesWhenTitlecased

def softDotted : CharSet := ofRuns softDottedRuns
def patternSyntax : CharSet := ofRuns patternSyntaxRuns

def patternWhiteSpace : CharSet :=
  ofRanges [(0x9, 0xD), (0x20, 0x20), (0x85, 0x85), (0x200E, 0x200F), (0x2028, 0x2029)]

def otherIdStart : CharSet :=
  ofRanges [(0x1885, 0x1886), (0x2118, 0x2118), (0x212E, 0x212E), (0x309B, 0x309C)]

def otherIdContinue : CharSet :=
  ofRanges [(0xB7, 0xB7), (0x387, 0x387), (0x1369, 0x1371), (0x19DA, 0x19DA), (0x200C, 0x200D),
    (0x30FB, 0x30FB), (0xFF65, 0xFF65)]

def idStart : CharSet :=
  (((letters.union (ofCategories [.nl])).union otherIdStart).difference patternSyntax).difference
    patternWhiteSpace

def idContinue : CharSet :=
  (((idStart.union (ofCategories [.mn, .mc, .nd, .pc])).union otherIdContinue).difference
    patternSyntax).difference patternWhiteSpace

/-- Characters whose compatibility forms do not go on with an identifier. -/
def unstableContinue : CharSet :=
  ofRanges [(0x37A, 0x37A), (0x309B, 0x309C), (0xFC5E, 0xFC63), (0xFDFA, 0xFDFB), (0xFE70, 0xFE70),
    (0xFE72, 0xFE72), (0xFE74, 0xFE74), (0xFE76, 0xFE76), (0xFE78, 0xFE78), (0xFE7A, 0xFE7A),
    (0xFE7C, 0xFE7C), (0xFE7E, 0xFE7E)]

def xidContinue : CharSet := idContinue.difference unstableContinue

def xidStart : CharSet :=
  (idStart.difference unstableContinue).difference
    (ofRanges [(0xE33, 0xE33), (0xEB3, 0xEB3), (0xFF9E, 0xFF9F)])

def idCompatMathStart : CharSet := ofRuns idCompatMathStartRuns

def idCompatMathContinue : CharSet :=
  idCompatMathStart.union
    (ofRanges [(0xB2, 0xB3), (0xB9, 0xB9), (0x2070, 0x2070), (0x2074, 0x207E), (0x2080, 0x208E)])

/-! ### Marks and graphemes -/

def diacritic : CharSet := ofRuns diacriticRuns
def extender : CharSet := ofRuns extenderRuns
def graphemeLink : CharSet := ofRuns graphemeLinkRuns
def otherGraphemeExtend : CharSet := ofRuns otherGraphemeExtendRuns
def graphemeExtend : CharSet := (ofCategories [.mn, .me]).union otherGraphemeExtend

def graphemeBase : CharSet :=
  ((ofCategories [.cc, .cf, .cs, .co, .cn, .zl, .zp]).union graphemeExtend).complement

def modifierCombiningMark : CharSet :=
  ofRanges [(0x654, 0x655), (0x658, 0x658), (0x6DC, 0x6DC), (0x6E3, 0x6E3), (0x6E7, 0x6E8),
    (0x8CA, 0x8CB), (0x8CD, 0x8CF), (0x8D3, 0x8D3), (0x8F3, 0x8F3)]

def prependedConcatenationMark : CharSet :=
  ofRanges [(0x600, 0x605), (0x6DD, 0x6DD), (0x70F, 0x70F), (0x890, 0x891), (0x8E2, 0x8E2),
    (0x110BD, 0x110BD), (0x110CD, 0x110CD)]

def logicalOrderException : CharSet :=
  ofRanges [(0xE40, 0xE44), (0xEC0, 0xEC4), (0x19B5, 0x19B7), (0x19BA, 0x19BA), (0xAAB5, 0xAAB6),
    (0xAAB9, 0xAAB9), (0xAABB, 0xAABC)]

/-! ### Blank space, controls and invisible characters -/

def whiteSpace : CharSet :=
  ofRanges [(0x9, 0xD), (0x20, 0x20), (0x85, 0x85), (0xA0, 0xA0), (0x1680, 0x1680),
    (0x2000, 0x200A), (0x2028, 0x2029), (0x202F, 0x202F), (0x205F, 0x205F), (0x3000, 0x3000)]

def bidiControl : CharSet :=
  ofRanges [(0x61C, 0x61C), (0x200E, 0x200F), (0x202A, 0x202E), (0x2066, 0x2069)]

def joinControl : CharSet := ofRanges [(0x200C, 0x200D)]

def variationSelector : CharSet :=
  ofRanges [(0x180B, 0x180D), (0x180F, 0x180F), (0xFE00, 0xFE0F), (0xE0100, 0xE01EF)]

def otherDefaultIgnorable : CharSet :=
  ofRanges [(0x34F, 0x34F), (0x115F, 0x1160), (0x17B4, 0x17B5), (0x2065, 0x2065), (0x3164, 0x3164),
    (0xFFA0, 0xFFA0), (0xFFF0, 0xFFF8), (0xE0000, 0xE0000), (0xE0002, 0xE001F), (0xE0080, 0xE00FF),
    (0xE01F0, 0xE0FFF)]

/-- Format characters, selectors and fillers that show nothing, apart from annotations, the format
controls of hieroglyphs, and marks that do show. -/
def defaultIgnorable : CharSet :=
  (((otherDefaultIgnorable.union (ofCategories [.cf])).union variationSelector).difference
    (ofRanges [(0xFFF9, 0xFFFB), (0x13430, 0x13440)])).difference prependedConcatenationMark

def noncharacter : CharSet := ofRuns noncharacterCodePointRuns

def deprecatedCharacter : CharSet :=
  ofRanges [(0x149, 0x149), (0x673, 0x673), (0xF77, 0xF77), (0xF79, 0xF79), (0x17A3, 0x17A4),
    (0x206A, 0x206F), (0x2329, 0x232A), (0xE0001, 0xE0001)]

/-! ### Punctuation, symbols and numbers -/

def bidiMirrored : CharSet := ofRuns bidiMirroredRuns
def dash : CharSet := ofRuns dashRuns
def quotationMark : CharSet := ofRuns quotationMarkRuns
def sentenceTerminal : CharSet := ofRuns sentenceTerminalRuns
def terminalPunctuation : CharSet := ofRuns terminalPunctuationRuns
def otherMath : CharSet := ofRuns otherMathRuns
def math : CharSet := (ofCategories [.sm]).union otherMath
def asciiHexDigit : CharSet := ofRanges [(0x30, 0x39), (0x41, 0x46), (0x61, 0x66)]

def hexDigit : CharSet :=
  asciiHexDigit.union (ofRanges [(0xFF10, 0xFF19), (0xFF21, 0xFF26), (0xFF41, 0xFF46)])

/-! ### Ideographs and emoji -/

def ideographic : CharSet := ofRuns ideographicRuns
def unifiedIdeograph : CharSet := ofRuns unifiedIdeographRuns
def radical : CharSet := ofRanges [(0x2E80, 0x2E99), (0x2E9B, 0x2EF3), (0x2F00, 0x2FD5)]
def idsBinaryOperator : CharSet := ofRanges [(0x2FF0, 0x2FF1), (0x2FF4, 0x2FFD), (0x31EF, 0x31EF)]
def idsTrinaryOperator : CharSet := ofRanges [(0x2FF2, 0x2FF3)]
def idsUnaryOperator : CharSet := ofRanges [(0x2FFE, 0x2FFF)]
def emoji : CharSet := ofRuns emojiRuns
def emojiModifier : CharSet := ofRanges [(0x1F3FB, 0x1F3FF)]
def emojiModifierBase : CharSet := ofRuns emojiModifierBaseRuns
def emojiPresentation : CharSet := ofRuns emojiPresentationRuns
def extendedPictographic : CharSet := ofRuns extendedPictographicRuns
def regionalIndicator : CharSet := ofRanges [(0x1F1E6, 0x1F1FF)]

def emojiComponent : CharSet :=
  ofRanges [(0x23, 0x23), (0x2A, 0x2A), (0x30, 0x39), (0x200D, 0x200D), (0x20E3, 0x20E3),
    (0xFE0F, 0xFE0F), (0x1F1E6, 0x1F1FF), (0x1F3FB, 0x1F3FF), (0x1F9B0, 0x1F9B3),
    (0xE0020, 0xE007F)]

/-! ### Classes of text -/

def decimalDigit : CharSet := ofCategories [.nd]

/-- The characters of words: what is alphabetic, marks, decimal digits, connecting punctuation and
the two joining controls. -/
def word : CharSet :=
  (alphabetic.union (ofCategories [.mn, .mc, .me, .nd, .pc])).union joinControl

end TypingBundle.Text.Property
