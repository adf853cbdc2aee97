import TypingBundle.Text.Age
import TypingBundle.Text.Boundary

/-!
The names under which patterns ask for sets of characters: the named classes of ASCII, general
categories, scripts, and properties with and without a value.
-/

namespace TypingBundle.Pattern.ClassName

open TypingBundle.Text (CharSet)

/-! ### Classes of ASCII -/

def asciiDigits : CharSet := .range 48 57
def asciiUpper : CharSet := .range 65 90
def asciiLower : CharSet := .range 97 122
def asciiLetters : CharSet := asciiUpper.union asciiLower
def asciiAlnum : CharSet := asciiDigits.union asciiLetters
def asciiWord : CharSet := asciiAlnum.union (.single '_')
def asciiSpace : CharSet := (CharSet.range 9 13).union (.single ' ')

/-- The ASCII class of a name. -/
def asciiClass? (name : String) : Option CharSet :=
  match name with
  | "alnum" => some asciiAlnum
  | "alpha" => some asciiLetters
  | "ascii" => some CharSet.ascii
  | "blank" => some (.ofPoints [9, 32])
  | "cntrl" => some (.ofRanges [(0, 31), (127, 127)])
  | "digit" => some asciiDigits
  | "graph" => some (.range 33 126)
  | "lower" => some asciiLower
  | "print" => some (.range 32 126)
  | "punct" => some ((CharSet.range 33 126).difference asciiAlnum)
  | "space" => some asciiSpace
  | "upper" => some asciiUpper
  | "word" => some asciiWord
  | "xdigit" => some Text.Property.asciiHexDigit
  | _ => none

/-! ### Names of properties -/

/-- Names are compared without case, spaces, hyphens and underscores, and without a leading `is`,
unless nothing but `c` stood after it. -/
def key (name : Text) : String :=
  let kept := fun (t : Text) =>
    (t.filter fun c => c.toNat < 128 && c ∉ [' ', '_', '-']).map Char.toLower
  match name with
  | i :: s :: rest =>
    if i.toLower = 'i' && s.toLower = 's' then
      if kept rest = ['c'] then "isc" else String.ofList (kept rest)
    else String.ofList (kept name)
  | _ => String.ofList (kept name)

/-- The general categories that go by a name. -/
def categories? (key : String) : Option (List Text.Category) :=
  match key with
  | "l" | "letter" => some [.lu, .ll, .lt, .lm, .lo]
  | "lc" | "casedletter" => some [.lu, .ll, .lt]
  | "lu" | "uppercaseletter" => some [.lu]
  | "ll" | "lowercaseletter" => some [.ll]
  | "lt" | "titlecaseletter" => some [.lt]
  | "lm" | "modifierletter" => some [.lm]
  | "lo" | "otherletter" => some [.lo]
  | "m" | "mark" | "combiningmark" => some [.mn, .mc, .me]
  | "mn" | "nonspacingmark" => some [.mn]
  | "mc" | "spacingmark" => some [.mc]
  | "me" | "enclosingmark" => some [.me]
  | "n" | "number" => some [.nd, .nl, .no]
  | "nd" | "decimalnumber" | "digit" => some [.nd]
  | "nl" | "letternumber" => some [.nl]
  | "no" | "othernumber" => some [.no]
  | "p" | "punctuation" | "punct" => some [.pc, .pd, .ps, .pe, .pi, .pf, .po]
  | "pc" | "connectorpunctuation" => some [.pc]
  | "pd" | "dashpunctuation" => some [.pd]
  | "ps" | "openpunctuation" => some [.ps]
  | "pe" | "closepunctuation" => some [.pe]
  | "pi" | "initialpunctuation" => some [.pi]
  | "pf" | "finalpunctuation" => some [.pf]
  | "po" | "otherpunctuation" => some [.po]
  | "s" | "symbol" => some [.sm, .sc, .sk, .so]
  | "sm" | "mathsymbol" => some [.sm]
  | "sc" | "currencysymbol" => some [.sc]
  | "sk" | "modifiersymbol" => some [.sk]
  | "so" | "othersymbol" => some [.so]
  | "z" | "separator" => some [.zs, .zl, .zp]
  | "zs" | "spaceseparator" => some [.zs]
  | "zl" | "lineseparator" => some [.zl]
  | "zp" | "paragraphseparator" => some [.zp]
  | "c" | "other" => some [.cc, .cf, .cs, .co, .cn]
  | "cc" | "control" | "cntrl" => some [.cc]
  | "cf" | "format" => some [.cf]
  | "co" | "privateuse" => some [.co]
  | "cn" | "unassigned" => some [.cn]
  | _ => none

/-- The set of a general category by name, with the three names for wider sets. Surrogates are no
characters, so their category has no set. -/
def category? (key : String) : Option CharSet :=
  match key with
  | "any" => some CharSet.full
  | "assigned" => some (CharSet.ofCategories [.cn]).complement
  | "ascii" => some CharSet.ascii
  | key => (categories? key).map CharSet.ofCategories

open Text.Property in
/-- The properties that a character has or has not, each with its names. -/
def properties : List (List String × CharSet) :=
  [(["ahex", "asciihexdigit"], asciiHexDigit), (["alpha", "alphabetic"], alphabetic),
   (["bidic", "bidicontrol"], bidiControl), (["bidim", "bidimirrored"], bidiMirrored),
   (["ci", "caseignorable"], caseIgnorable), (["cased"], cased),
   (["cwcf", "changeswhencasefolded"], changesWhenCasefolded),
   (["cwcm", "changeswhencasemapped"], changesWhenCasemapped),
   (["cwl", "changeswhenlowercased"], changesWhenLowercased),
   (["cwt", "changeswhentitlecased"], changesWhenTitlecased),
   (["cwu", "changeswhenuppercased"], changesWhenUppercased), (["dash"], dash),
   (["di", "defaultignorablecodepoint"], defaultIgnorable),
   (["dep", "deprecated"], deprecatedCharacter), (["dia", "diacritic"], diacritic),
   (["emoji"], emoji), (["ecomp", "emojicomponent"], emojiComponent),
   (["emod", "emojimodifier"], emojiModifier), (["ebase", "emojimodifierbase"], emojiModifierBase),
   (["epres", "emojipresentation"], emojiPresentation),
   (["extpict", "extendedpictographic"], extendedPictographic), (["ext", "extender"], extender),
   (["grbase", "graphemebase"], graphemeBase), (["grext", "graphemeextend"], graphemeExtend),
   (["grlink", "graphemelink"], graphemeLink), (["hex", "hexdigit"], hexDigit),
   (["idsb", "idsbinaryoperator"], idsBinaryOperator),
   (["idst", "idstrinaryoperator"], idsTrinaryOperator),
   (["idsu", "idsunaryoperator"], idsUnaryOperator),
   (["idcompatmathcontinue"], idCompatMathContinue), (["idcompatmathstart"], idCompatMathStart),
   (["idc", "idcontinue"], idContinue), (["ids", "idstart"], idStart),
   (["ideo", "ideographic"], ideographic), (["joinc", "joincontrol"], joinControl),
   (["loe", "logicalorderexception"], logicalOrderException), (["lower", "lowercase"], lowercase),
   (["math"], math), (["mcm", "modifiercombiningmark"], modifierCombiningMark),
   (["nchar", "noncharactercodepoint"], noncharacter),
   (["oalpha", "otheralphabetic"], otherAlphabetic),
   (["odi", "otherdefaultignorablecodepoint"], otherDefaultIgnorable),
   (["ogrext", "othergraphemeextend"], otherGraphemeExtend),
   (["oidc", "otheridcontinue"], otherIdContinue), (["oids", "otheridstart"], otherIdStart),
   (["olower", "otherlowercase"], otherLowercase), (["omath", "othermath"], otherMath),
   (["oupper", "otheruppercase"], otherUppercase), (["patsyn", "patternsyntax"], patternSyntax),
   (["patws", "patternwhitespace"], patternWhiteSpace),
   (["pcm", "prependedconcatenationmark"], prependedConcatenationMark),
   (["qmark", "quotationmark"], quotationMark), (["radical"], radical),
   (["ri", "regionalindicator"], regionalIndicator),
   (["sterm", "sentenceterminal"], sentenceTerminal), (["sd", "softdotted"], softDotted),
   (["term", "terminalpunctuation"], terminalPunctuation),
   (["uideo", "unifiedideograph"], unifiedIdeograph), (["upper", "uppercase"], uppercase),
   (["vs", "variationselector"], variationSelector),
   (["wspace", "whitespace", "space"], whiteSpace), (["xidc", "xidcontinue"], xidContinue),
   (["xids", "xidstart"], xidStart)]

/-- The set of a property without a value, of a category, or of a script. -/
def single? (key : String) : Option CharSet :=
  match properties.find? fun (names, _) => key ∈ names with
  | some (_, set) => some set
  | none => (category? key).or ((Text.scriptNamed? key).map CharSet.ofScript)

/-- The set of a property with a value. -/
def valued? (property value : String) : Option CharSet :=
  match property with
  | "gc" | "generalcategory" => category? value
  | "sc" | "script" => (Text.scriptNamed? value).map CharSet.ofScript
  | "scx" | "scriptextensions" => (Text.scriptNamed? value).map CharSet.usedByScript
  | "age" => CharSet.assignedBy? value
  | "gcb" | "graphemeclusterbreak" => Text.Boundary.named? Text.Boundary.graphemeClasses value
  | "wb" | "wordbreak" => Text.Boundary.named? Text.Boundary.wordClasses value
  | "sb" | "sentencebreak" => Text.Boundary.named? Text.Boundary.sentenceClasses value
  | _ => none

/-- The set that a query asks for, and whether it asks for all other characters, as it does with
`!=` between property and value. -/
def query? (query : Text) : Option (Bool × CharSet) :=
  let cut := fun (mark : Char) => (query.takeWhile (· ≠ mark), (query.dropWhile (· ≠ mark)).drop 1)
  let equal := fun (mark : Char) =>
    (valued? (key (cut mark).1) (key (cut mark).2)).map fun set => (false, set)
  if Text.contains ['!', '='] query then
    (valued? (key (cut '!').1) (key ((cut '!').2.drop 1))).map fun set => (true, set)
  else if ':' ∈ query then equal ':'
  else if '=' ∈ query then equal '='
  else (single? (key query)).map fun set => (false, set)

end TypingBundle.Pattern.ClassName
