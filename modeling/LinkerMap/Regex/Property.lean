import LinkerMap.Regex.CharSet
import LinkerMap.Text.Age
import LinkerMap.Text.Break
import LinkerMap.Text.ScriptExtension

/-! # Properties by name

The properties of characters that a pattern can name, alone or with a value. Case, spaces,
underscores and hyphens do not count in a name, nor does an `is` in front of it.
-/

namespace LinkerMap.Regex

open Text (CharSet Category Property Script Version GraphemeBreak WordBreak SentenceBreak)

/-- A name less what does not count in it. -/
def looseName (name : String) : String :=
  let lower := (name.toList.filter (·.toNat < 0x80)).map Char.toLower
  let hasIs := (name.toList.take 2).map Char.toLower == ['i', 's']
  let bare := (if hasIs then lower.drop 2 else lower).filter fun c =>
    c != ' ' && c != '_' && c != '-'
  String.ofList (if hasIs && bare == ['c'] then ['i', 's', 'c'] else bare)

def named? {α : Type} (table : List (List String × α)) (name : String) : Option α :=
  (table.find? (·.1.contains name)).map (·.2)

def propertyNames : List (List String × Property) :=
  [(["asciihexdigit", "ahex"], .asciiHexDigit), (["alphabetic", "alpha"], .alphabetic),
    (["bidicontrol", "bidic"], .bidiControl), (["bidimirrored", "bidim"], .bidiMirrored),
    (["caseignorable", "ci"], .caseIgnorable), (["cased"], .cased),
    (["changeswhencasefolded", "cwcf"], .changesWhenCasefolded),
    (["changeswhencasemapped", "cwcm"], .changesWhenCasemapped),
    (["changeswhenlowercased", "cwl"], .changesWhenLowercased),
    (["changeswhentitlecased", "cwt"], .changesWhenTitlecased),
    (["changeswhenuppercased", "cwu"], .changesWhenUppercased), (["dash"], .dash),
    (["defaultignorablecodepoint", "di"], .defaultIgnorableCodePoint),
    (["deprecated", "dep"], .deprecated), (["diacritic", "dia"], .diacritic),
    (["emoji"], .emoji), (["emojicomponent", "ecomp"], .emojiComponent),
    (["emojimodifier", "emod"], .emojiModifier),
    (["emojimodifierbase", "ebase"], .emojiModifierBase),
    (["emojipresentation", "epres"], .emojiPresentation),
    (["extendedpictographic", "extpict"], .extendedPictographic),
    (["extender", "ext"], .extender), (["graphemebase", "grbase"], .graphemeBase),
    (["graphemeextend", "grext"], .graphemeExtend), (["graphemelink", "grlink"], .graphemeLink),
    (["hexdigit", "hex"], .hexDigit), (["hyphen"], .hyphen),
    (["idsbinaryoperator", "idsb"], .idsBinaryOperator),
    (["idstrinaryoperator", "idst"], .idsTrinaryOperator),
    (["idsunaryoperator", "idsu"], .idsUnaryOperator),
    (["idcompatmathcontinue"], .idCompatMathContinue),
    (["idcompatmathstart"], .idCompatMathStart), (["idcontinue", "idc"], .idContinue),
    (["idstart", "ids"], .idStart), (["ideographic", "ideo"], .ideographic),
    (["joincontrol", "joinc"], .joinControl),
    (["logicalorderexception", "loe"], .logicalOrderException),
    (["lowercase", "lower"], .lowercase), (["math"], .math),
    (["modifiercombiningmark", "mcm"], .modifierCombiningMark),
    (["noncharactercodepoint", "nchar"], .noncharacterCodePoint),
    (["otheralphabetic", "oalpha"], .otherAlphabetic),
    (["otherdefaultignorablecodepoint", "odi"], .otherDefaultIgnorableCodePoint),
    (["othergraphemeextend", "ogrext"], .otherGraphemeExtend),
    (["otheridcontinue", "oidc"], .otherIdContinue), (["otheridstart", "oids"], .otherIdStart),
    (["otherlowercase", "olower"], .otherLowercase), (["othermath", "omath"], .otherMath),
    (["otheruppercase", "oupper"], .otherUppercase),
    (["patternsyntax", "patsyn"], .patternSyntax),
    (["patternwhitespace", "patws"], .patternWhiteSpace),
    (["prependedconcatenationmark", "pcm"], .prependedConcatenationMark),
    (["quotationmark", "qmark"], .quotationMark), (["radical"], .radical),
    (["regionalindicator", "ri"], .regionalIndicator),
    (["sentenceterminal", "sterm"], .sentenceTerminal), (["softdotted", "sd"], .softDotted),
    (["terminalpunctuation", "term"], .terminalPunctuation),
    (["unifiedideograph", "uideo"], .unifiedIdeograph), (["uppercase", "upper"], .uppercase),
    (["variationselector", "vs"], .variationSelector),
    (["whitespace", "wspace", "space"], .whiteSpace), (["xidcontinue", "xidc"], .xidContinue),
    (["xidstart", "xids"], .xidStart)]

/-- The names of properties whose values no pattern can ask for. -/
def otherPropertyNames : List String :=
  ["bc", "bidiclass", "bidimirroringglyph", "bidipairedbracket", "bidipairedbrackettype", "blk",
    "block", "bmg", "bpb", "bpt", "canonicalcombiningclass", "casefolding", "ccc", "ce", "cf",
    "changeswhennfkccasefolded", "cjkaccountingnumeric", "cjkcompatibilityvariant", "cjkiicore",
    "cjkirggsource", "cjkirghsource", "cjkirgjsource", "cjkirgkpsource", "cjkirgksource",
    "cjkirgmsource", "cjkirgssource", "cjkirgtsource", "cjkirguksource", "cjkirgusource",
    "cjkirgvsource", "cjkothernumeric", "cjkprimarynumeric", "cjkrsunicode", "compex",
    "compositionexclusion", "cwkcf", "decompositionmapping", "decompositiontype", "dm", "dt",
    "ea", "eastasianwidth", "equideo", "equivalentunifiedideograph", "expandsonnfc",
    "expandsonnfd", "expandsonnfkc", "expandsonnfkd", "fcnfkc", "fcnfkcclosure",
    "fullcompositionexclusion", "hangulsyllabletype", "hst", "incb", "indicconjunctbreak",
    "indicpositionalcategory", "indicsyllabiccategory", "inpc", "insc", "isc", "jamoshortname",
    "jg", "joininggroup", "joiningtype", "jsn", "jt", "kaccountingnumeric",
    "kcompatibilityvariant", "kehcat", "kehdesc", "kehhg", "kehifao", "kehjsesh", "kehnomirror",
    "kehnorotate", "kiicore", "kirggsource", "kirghsource", "kirgjsource", "kirgkpsource",
    "kirgksource", "kirgmsource", "kirgssource", "kirgtsource", "kirguksource", "kirgusource",
    "kirgvsource", "kothernumeric", "kprimarynumeric", "krsunicode", "lb", "lc", "linebreak",
    "lowercasemapping", "na", "na1", "name", "namealias", "nfcqc", "nfcquickcheck", "nfdqc",
    "nfdquickcheck", "nfkccasefold", "nfkccf", "nfkcqc", "nfkcquickcheck", "nfkcscf",
    "nfkcsimplecasefold", "nfkdqc", "nfkdquickcheck", "nt", "numerictype", "numericvalue", "nv",
    "ocomment", "scf", "sfc", "simplecasefolding", "simplelowercasemapping",
    "simpletitlecasemapping", "simpleuppercasemapping", "slc", "stc", "suc", "tc",
    "titlecasemapping", "uc", "unicode1name", "unicoderadicalstroke", "uppercasemapping", "urs",
    "verticalorientation", "vo", "xonfc", "xonfd", "xonfkc", "xonfkd"]

/-- What the name of a category stands for: categories, and perhaps what has none. -/
structure CategoryGroup where
  categories : List Category
  unassigned : Bool := false

def CategoryGroup.set (group : CategoryGroup) : CharSet :=
  if group.unassigned then Category.unassignedOr group.categories
  else Category.setOf group.categories

open Text.Category in
def categoryNames : List (List String × CategoryGroup) :=
  [(["any"], ⟨all, true⟩),
    (["assigned"], ⟨all.filter (· ≠ surrogate), false⟩),
    (["letter", "l"], ⟨letters, false⟩),
    (["casedletter", "lc"], ⟨[uppercaseLetter, lowercaseLetter, titlecaseLetter], false⟩),
    (["uppercaseletter", "lu"], ⟨[uppercaseLetter], false⟩),
    (["lowercaseletter", "ll"], ⟨[lowercaseLetter], false⟩),
    (["titlecaseletter", "lt"], ⟨[titlecaseLetter], false⟩),
    (["modifierletter", "lm"], ⟨[modifierLetter], false⟩),
    (["otherletter", "lo"], ⟨[otherLetter], false⟩),
    (["mark", "m", "combiningmark"], ⟨marks, false⟩),
    (["nonspacingmark", "mn"], ⟨[nonspacingMark], false⟩),
    (["spacingmark", "mc"], ⟨[spacingMark], false⟩),
    (["enclosingmark", "me"], ⟨[enclosingMark], false⟩),
    (["number", "n"], ⟨numbers, false⟩),
    (["decimalnumber", "nd", "digit"], ⟨[decimalNumber], false⟩),
    (["letternumber", "nl"], ⟨[letterNumber], false⟩),
    (["othernumber", "no"], ⟨[otherNumber], false⟩),
    (["punctuation", "p", "punct"], ⟨punctuation, false⟩),
    (["connectorpunctuation", "pc"], ⟨[connectorPunctuation], false⟩),
    (["dashpunctuation", "pd"], ⟨[dashPunctuation], false⟩),
    (["openpunctuation", "ps"], ⟨[openPunctuation], false⟩),
    (["closepunctuation", "pe"], ⟨[closePunctuation], false⟩),
    (["initialpunctuation", "pi"], ⟨[initialPunctuation], false⟩),
    (["finalpunctuation", "pf"], ⟨[finalPunctuation], false⟩),
    (["otherpunctuation", "po"], ⟨[otherPunctuation], false⟩),
    (["symbol", "s"], ⟨symbols, false⟩),
    (["mathsymbol", "sm"], ⟨[mathSymbol], false⟩),
    (["currencysymbol", "sc"], ⟨[currencySymbol], false⟩),
    (["modifiersymbol", "sk"], ⟨[modifierSymbol], false⟩),
    (["othersymbol", "so"], ⟨[otherSymbol], false⟩),
    (["separator", "z"], ⟨separators, false⟩),
    (["spaceseparator", "zs"], ⟨[spaceSeparator], false⟩),
    (["lineseparator", "zl"], ⟨[lineSeparator], false⟩),
    (["paragraphseparator", "zp"], ⟨[paragraphSeparator], false⟩),
    (["other", "c"], ⟨[control, format, surrogate, privateUse], true⟩),
    (["control", "cc", "cntrl"], ⟨[control], false⟩),
    (["format", "cf"], ⟨[format], false⟩),
    (["privateuse", "co"], ⟨[privateUse], false⟩),
    (["unassigned", "cn"], ⟨[], true⟩)]

/-- The names of categories and scripts that no character has. -/
def emptyNames : List String :=
  ["surrogate", "cs", "unknown", "zzzz", "katakanaorhiragana", "hrkt"]

def categorySet? (name : String) : Option CharSet :=
  if name == "ascii" then some AsciiClass.ascii.set
  else (named? categoryNames name).map (·.set)

def script? (name : String) : Option Script :=
  Script.all.find? (·.names.contains name)

def graphemeBreakNames : List (List String × GraphemeBreak) :=
  [(["cr"], .carriageReturn), (["lf"], .lineFeed), (["control", "cn"], .control),
    (["extend", "ex"], .extend), (["zwj"], .zeroWidthJoiner),
    (["regionalindicator", "ri"], .regionalIndicator), (["prepend", "pp"], .prepended),
    (["spacingmark", "sm"], .spacingMark), (["l"], .leading), (["v"], .vowel),
    (["t"], .trailing), (["lv"], .leadingVowel), (["lvt"], .leadingVowelTrailing)]

def wordBreakNames : List (List String × WordBreak) :=
  [(["cr"], .carriageReturn), (["lf"], .lineFeed), (["newline", "nl"], .newline),
    (["extend"], .extend), (["zwj"], .zeroWidthJoiner), (["format", "fo"], .format),
    (["regionalindicator", "ri"], .regionalIndicator), (["katakana", "ka"], .katakana),
    (["hebrewletter", "hl"], .hebrewLetter), (["aletter", "le"], .letter),
    (["singlequote", "sq"], .singleQuote), (["doublequote", "dq"], .doubleQuote),
    (["midnumlet", "mb"], .midNumLet), (["midletter", "ml"], .midLetter),
    (["midnum", "mn"], .midNum), (["numeric", "nu"], .numeric),
    (["extendnumlet", "ex"], .extendNumLet), (["wsegspace"], .space)]

def sentenceBreakNames : List (List String × SentenceBreak) :=
  [(["cr"], .carriageReturn), (["lf"], .lineFeed), (["extend", "ex"], .extend),
    (["sep", "se"], .separator), (["format", "fo"], .format), (["sp"], .space),
    (["lower", "lo"], .lower), (["upper", "up"], .upper), (["oletter", "le"], .otherLetter),
    (["numeric", "nu"], .numeric), (["aterm", "at"], .ambiguousTerminal),
    (["scontinue", "sc"], .continues), (["sterm", "st"], .terminal), (["close", "cl"], .close)]

inductive ValuedProperty where
  | category
  | script
  | extendedScript
  | age
  | graphemeBreak
  | wordBreak
  | sentenceBreak
  deriving DecidableEq, Repr

def valuedNames : List (List String × ValuedProperty) :=
  [(["generalcategory", "gc"], .category), (["script", "sc"], .script),
    (["scriptextensions", "scx"], .extendedScript), (["age"], .age),
    (["graphemeclusterbreak", "gcb"], .graphemeBreak), (["wordbreak", "wb"], .wordBreak),
    (["sentencebreak", "sb"], .sentenceBreak)]

def ValuedProperty.set? (value : String) : ValuedProperty → Option CharSet
  | category => categorySet? value
  | script => (script? value).map (·.set)
  | extendedScript => (script? value).map (·.extendedSet)
  | age => Version.setSince? value
  | graphemeBreak => (named? graphemeBreakNames value).map (·.set)
  | wordBreak => (named? wordBreakNames value).map (·.set)
  | sentenceBreak => (named? sentenceBreakNames value).map (·.set)

/-- The set of a name alone: a property that has no values, a category or a script. -/
def setOfName (name : String) : Except Defect CharSet :=
  match named? propertyNames name, categorySet? name, script? name with
  | some property, _, _ => .ok property.set
  | none, some members, _ => .ok members
  | none, none, some script => .ok script.set
  | none, none, none =>
    .error (if emptyNames.contains name then .propertyValueUnknown else .propertyUnknown)

/-- The set of a property of a name with a value of a name. -/
def setOfValue (name value : String) : Except Defect CharSet :=
  match named? valuedNames name with
  | some property =>
    match property.set? value with
    | some members => .ok members
    | none => .error .propertyValueUnknown
  | none =>
    let isKnown := (named? propertyNames name).isSome || otherPropertyNames.contains name
    .error (if isKnown then .propertyValueUnknown else .propertyUnknown)

/-- The members of a property, or why there are none. -/
def PropertyName.set : PropertyName → Except Defect CharSet
  | single name => setOfName (looseName name)
  | valued name value => setOfValue (looseName name) (looseName value)

end LinkerMap.Regex
