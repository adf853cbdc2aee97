import TypingBundle.Text.Property
import TypingBundle.Text.Script

/-!
The classes of characters by which text is cut into graphemes, words and sentences, each with the
names it goes by.
-/

namespace TypingBundle.Text.Boundary

open CharSet (ofCategories ofRanges ofPoints ofScript)

/-- A class with its names. -/
abbrev NamedClass := List String × CharSet

def carriageReturn : CharSet := .single '\r'
def lineFeed : CharSet := .single '\n'
def joiner : CharSet := .ofPoints [0x200D]

/-- The tags that extend a flag. -/
def tags : CharSet := ofRanges [(0xE0020, 0xE007F)]

/-- Marks, modifiers and other characters that belong to the one before them. -/
def marks : CharSet :=
  ((Property.graphemeExtend.union (ofCategories [.mc])).union Property.emojiModifier).difference
    joiner

/-- The classes of graphemes. -/
def graphemeClasses : List NamedClass :=
  let extending := (Property.graphemeExtend.union Property.emojiModifier).difference joiner
  let controls := ((ofCategories [.zl, .zp, .cc, .cf]).union
    (Property.defaultIgnorable.intersection (ofCategories [.cn]))).difference
      ((Property.prependedConcatenationMark.union tags).union
        (ofPoints [0xA, 0xD, 0x200C, 0x200D]))
  let silent := ofRanges [(0x102B, 0x102C), (0x1038, 0x1038), (0x1062, 0x1064), (0x1067, 0x106D),
    (0x1083, 0x1083), (0x1087, 0x108C), (0x108F, 0x108F), (0x109A, 0x109C), (0x1A61, 0x1A61),
    (0x1A63, 0x1A64), (0xAA7B, 0xAA7B), (0xAA7D, 0xAA7D), (0x11720, 0x11721)]
  let spacing := ((ofCategories [.mc]).union (ofPoints [0xE33, 0xEB3])).difference
    (Property.graphemeExtend.union silent)
  let prepended := Property.prependedConcatenationMark.union
    (ofRanges [(0xD4E, 0xD4E), (0x111C2, 0x111C3), (0x113D1, 0x113D1), (0x1193F, 0x1193F),
      (0x11941, 0x11941), (0x11A3A, 0x11A3A), (0x11A84, 0x11A89), (0x11D46, 0x11D46),
      (0x11F02, 0x11F02)])
  let syllables := ofRanges [(0xAC00, 0xD7A3)]
  let openSyllables := ofPoints ((List.range 399).map fun i => 0xAC00 + 28 * i)
  [(["cr"], carriageReturn), (["lf"], lineFeed), (["cn", "control"], controls),
   (["ex", "extend"], extending), (["zwj"], joiner),
   (["ri", "regionalindicator"], Property.regionalIndicator), (["pp", "prepend"], prepended),
   (["sm", "spacingmark"], spacing),
   (["l"], ofRanges [(0x1100, 0x115F), (0xA960, 0xA97C)]),
   (["v"], ofRanges [(0x1160, 0x11A7), (0xD7B0, 0xD7C6), (0x16D63, 0x16D63), (0x16D67, 0x16D6A)]),
   (["t"], ofRanges [(0x11A8, 0x11FF), (0xD7CB, 0xD7FB)]),
   (["lv"], openSyllables), (["lvt"], syllables.difference openSyllables)]

/-- The scripts that write words without blanks between them. -/
def unspacedScripts : CharSet :=
  .unions (["Thai", "Laoo", "Mymr", "Khmr", "Tale", "Talu", "Lana", "Tavt", "Ahom"].map ofScript)

/-- The classes of words. -/
def wordClasses : List NamedClass :=
  let katakana := ((ofScript "Kana").union
    (ofRanges [(0x3031, 0x3035), (0x309B, 0x309C), (0x30A0, 0x30A0), (0x30FC, 0x30FC),
      (0xFF70, 0xFF70)])).difference marks
  let hebrew := (ofScript "Hebr").intersection (ofCategories [.lo])
  let letterLike := ofRanges [(0x2C2, 0x2C5), (0x2D2, 0x2D7), (0x2DE, 0x2DF), (0x2E5, 0x2EB),
    (0x2ED, 0x2ED), (0x2EF, 0x2FF), (0x55A, 0x55C), (0x55E, 0x55E), (0x58A, 0x58A), (0x5F3, 0x5F3),
    (0xA708, 0xA716), (0xA720, 0xA721), (0xA789, 0xA78A), (0xAB5B, 0xAB5B)]
  let others := .unions [Property.ideographic, katakana, marks, hebrew, ofScript "Hira",
    unspacedScripts]
  [(["cr"], carriageReturn), (["lf"], lineFeed), (["zwj"], joiner), (["extend"], marks),
   (["nl", "newline"], ofPoints [0xB, 0xC, 0x85, 0x2028, 0x2029]),
   (["ri", "regionalindicator"], Property.regionalIndicator),
   (["fo", "format"], (ofCategories [.cf]).difference (tags.union (ofRanges [(0x200B, 0x200D)]))),
   (["ka", "katakana"], katakana), (["hl", "hebrewletter"], hebrew),
   (["le", "aletter"], (Property.alphabetic.union letterLike).difference others),
   (["sq", "singlequote"], .single '\''), (["dq", "doublequote"], .single '"'),
   (["mb", "midnumlet"], ofPoints [0x2E, 0x2018, 0x2019, 0x2024, 0xFE52, 0xFF07, 0xFF0E]),
   (["ml", "midletter"],
    ofPoints [0x3A, 0xB7, 0x387, 0x55F, 0x5F4, 0x2027, 0xFE13, 0xFE55, 0xFF1A]),
   (["mn", "midnum"],
    ofPoints [0x2C, 0x3B, 0x37E, 0x589, 0x60C, 0x60D, 0x66C, 0x7F8, 0x2044, 0xFE10, 0xFE14, 0xFE50,
      0xFE54, 0xFF0C, 0xFF1B]),
   (["nu", "numeric"], Property.decimalDigit.union (ofPoints [0x66B])),
   (["ex", "extendnumlet"], (ofCategories [.pc]).union (ofPoints [0x202F])),
   (["wsegspace"], (ofCategories [.zs]).difference (ofPoints [0xA0, 0x2007, 0x202F]))]

/-- The classes of sentences. -/
def sentenceClasses : List NamedClass :=
  let extending := (Property.graphemeExtend.union (ofCategories [.mc])).union joiner
  let separators := ofPoints [0x85, 0x2028, 0x2029]
  let lower := (Property.lowercase.difference Property.graphemeExtend).difference
    (ofRanges [(0x10D0, 0x10FA), (0x10FD, 0x10FF)])
  let upper := (Property.uppercase.union (ofCategories [.lt])).difference
    (ofRanges [(0x1C90, 0x1CBA), (0x1CBD, 0x1CBF)])
  let stops := ofPoints [0x2E, 0x2024, 0xFE52, 0xFF0E]
  let closing := (ofCategories [.ps, .pe, .pi, .pf]).union
    (ofRanges [(0x22, 0x22), (0x27, 0x27), (0x275B, 0x2760), (0x2E00, 0x2E01), (0x2E06, 0x2E08),
      (0x2E0B, 0x2E0B), (0x1F676, 0x1F678)])
  [(["cr"], carriageReturn), (["lf"], lineFeed), (["ex", "extend"], extending),
   (["se", "sep"], separators),
   (["fo", "format"], (ofCategories [.cf]).difference (tags.union (ofRanges [(0x200C, 0x200D)]))),
   (["sp"], Property.whiteSpace.difference (separators.union (ofPoints [0xA, 0xD]))),
   (["lo", "lower"], lower), (["up", "upper"], upper),
   (["le", "oletter"], (Property.alphabetic.union (ofPoints [0x5F3])).difference
     (.unions [lower, upper, extending])),
   (["nu", "numeric"], Property.decimalDigit.union (ofPoints [0x66B, 0x66C])),
   (["at", "aterm"], stops), (["st", "sterm"], Property.sentenceTerminal.difference stops),
   (["sc", "scontinue"],
    ofPoints [0x2C, 0x2D, 0x3A, 0x3B, 0x37E, 0x55D, 0x60C, 0x60D, 0x7F8, 0x1802, 0x1808, 0x2013,
      0x2014, 0x3001, 0xFE10, 0xFE11, 0xFE13, 0xFE14, 0xFE31, 0xFE32, 0xFE50, 0xFE51, 0xFE54,
      0xFE55, 0xFE58, 0xFE63, 0xFF0C, 0xFF0D, 0xFF1A, 0xFF1B, 0xFF64]),
   (["cl", "close"], closing.difference (Property.sentenceTerminal.union stops))]

/-- The class of a name. -/
def named? (classes : List NamedClass) (key : String) : Option CharSet :=
  (classes.find? fun (names, _) => key ∈ names).map Prod.snd

end TypingBundle.Text.Boundary
