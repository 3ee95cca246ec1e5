import GrammarRules.Regex.Syntax

/-!
# Unicode properties in regular expressions

Names are compared after `normalizeName`.  A name alone can be that of a property that holds or does
not hold of a character, of a general category or of a script; with a value, the property must be
one of those that have values.  `PropertyQuery.size?` tells whether a query has an answer, and about
how many bytes the set of characters takes in a compiled expression.
-/

namespace GrammarRules.Regex

/-- A name without an initial "is" and without blanks, low lines, dashes, case and characters beyond
ASCII.  What would become `c` by that is a property of its own. -/
def normalizeName (name : String) : String :=
  let cs := name.toList.map Char.toLower
  let hasStart := cs.take 2 == ['i', 's']
  let rest := (if hasStart then cs.drop 2 else cs).filter fun c =>
    c != ' ' && c != '_' && c != '-' && c.toNat < 128
  String.ofList (if hasStart && rest == ['c'] then ['i', 's', 'c'] else rest)

/-! ## Names -/

/-- The properties that hold or do not hold of a character. -/
def characterProperties : List String :=
  ["ahex", "asciihexdigit", "alpha", "alphabetic", "bidic", "bidicontrol", "bidim", "bidimirrored",
   "cased", "caseignorable", "ci", "changeswhencasefolded", "cwcf", "changeswhencasemapped",
   "cwcm", "changeswhenlowercased", "cwl", "changeswhentitlecased", "cwt",
   "changeswhenuppercased", "cwu", "dash", "defaultignorablecodepoint", "di", "dep",
   "deprecated", "dia", "diacritic", "ebase", "ecomp", "emod", "emoji", "emojicomponent",
   "emojimodifier", "emojimodifierbase", "emojipresentation", "epres", "ext",
   "extendedpictographic", "extender", "extpict", "graphemebase", "graphemeextend",
   "graphemelink", "grbase", "grext", "grlink", "hex", "hexdigit", "hyphen", "idc",
   "idcompatmathcontinue", "idcompatmathstart", "idcontinue", "ideo", "ideographic", "ids",
   "idsb", "idsbinaryoperator", "idst", "idstart", "idstrinaryoperator", "idsu",
   "idsunaryoperator", "joinc", "joincontrol", "loe", "logicalorderexception", "lower",
   "lowercase", "math", "mcm", "modifiercombiningmark", "nchar", "noncharactercodepoint",
   "oalpha", "odi", "ogrext", "oidc", "oids", "olower", "omath", "otheralphabetic",
   "otherdefaultignorablecodepoint", "othergraphemeextend", "otheridcontinue", "otheridstart",
   "otherlowercase", "othermath", "otheruppercase", "oupper", "patsyn", "patternsyntax",
   "patternwhitespace", "patws", "pcm", "prependedconcatenationmark", "qmark", "quotationmark",
   "radical", "regionalindicator", "ri", "sd", "sentenceterminal", "softdotted", "space",
   "sterm", "term", "terminalpunctuation", "uideo", "unifiedideograph", "upper", "uppercase",
   "variationselector", "vs", "whitespace", "wspace", "xidc", "xidcontinue", "xids", "xidstart"]

/-- The general categories by their names, and the sizes of their sets. -/
def generalCategories : List (List String × Nat) :=
  [(["c", "other"], 43060), (["l", "letter"], 42732), (["ll", "lowercaseletter"], 27324),
   (["lm", "modifierletter"], 4708), (["lo", "otherletter"], 34144),
   (["lt", "titlecaseletter"], 552), (["lu", "uppercaseletter"], 26284),
   (["lc", "casedletter"], 36000), (["m", "mark", "combiningmark"], 18732),
   (["mc", "spacingmark"], 10272), (["me", "enclosingmark"], 468),
   (["mn", "nonspacingmark"], 19312), (["n", "number"], 9444),
   (["nd", "decimalnumber", "digit"], 4812), (["nl", "letternumber"], 1112),
   (["no", "othernumber"], 5100), (["p", "punctuation", "punct"], 11644),
   (["pc", "connectorpunctuation"], 540), (["pd", "dashpunctuation"], 1324),
   (["pe", "closepunctuation"], 3504), (["pf", "finalpunctuation"], 552),
   (["pi", "initialpunctuation"], 588), (["po", "otherpunctuation"], 11040),
   (["ps", "openpunctuation"], 3644), (["s", "symbol"], 15792), (["sc", "currencysymbol"], 1720),
   (["sk", "modifiersymbol"], 2020), (["sm", "mathsymbol"], 3860),
   (["so", "othersymbol"], 13156), (["z", "separator"], 608), (["zl", "lineseparator"], 164),
   (["zp", "paragraphseparator"], 164), (["zs", "spaceseparator"], 572),
   (["cc", "control", "cntrl"], 204), (["cf", "format"], 1784), (["cn", "unassigned"], 42408),
   (["co", "privateuse"], 864), (["any"], 820), (["assigned"], 42300), (["ascii"], 64)]

/-- The scripts. -/
def scripts : List String :=
  ["adlam", "adlm", "aghb", "ahom", "anatolianhieroglyphs", "arab", "arabic", "armenian", "armi",
   "armn", "avestan", "avst", "bali", "balinese", "bamu", "bamum", "bass", "bassavah", "batak",
   "batk", "beng", "bengali", "bhaiksuki", "bhks", "bopo", "bopomofo", "brah", "brahmi", "brai",
   "braille", "bugi", "buginese", "buhd", "buhid", "cakm", "canadianaboriginal", "cans", "cari",
   "carian", "caucasianalbanian", "chakma", "cham", "cher", "cherokee", "chorasmian", "chrs",
   "common", "copt", "coptic", "cpmn", "cprt", "cuneiform", "cypriot", "cyprominoan", "cyrillic",
   "cyrl", "deseret", "deva", "devanagari", "diak", "divesakuru", "dogr", "dogra", "dsrt",
   "dupl", "duployan", "egyp", "egyptianhieroglyphs", "elba", "elbasan", "elym", "elymaic",
   "ethi", "ethiopic", "gara", "garay", "geor", "georgian", "glag", "glagolitic", "gong", "gonm",
   "goth", "gothic", "gran", "grantha", "greek", "grek", "gujarati", "gujr", "gukh",
   "gunjalagondi", "gurmukhi", "guru", "gurungkhema", "han", "hang", "hangul", "hani",
   "hanifirohingya", "hano", "hanunoo", "hatr", "hatran", "hebr", "hebrew", "hira", "hiragana",
   "hluw", "hmng", "hmnp", "hung", "imperialaramaic", "inherited", "inscriptionalpahlavi",
   "inscriptionalparthian", "ital", "java", "javanese", "kaithi", "kali", "kana", "kannada",
   "katakana", "kawi", "kayahli", "khar", "kharoshthi", "khitansmallscript", "khmer", "khmr",
   "khoj", "khojki", "khudawadi", "kiratrai", "kits", "knda", "krai", "kthi", "lana", "lao",
   "laoo", "latin", "latn", "lepc", "lepcha", "limb", "limbu", "lina", "linb", "lineara",
   "linearb", "lisu", "lyci", "lycian", "lydi", "lydian", "mahajani", "mahj", "maka", "makasar",
   "malayalam", "mand", "mandaic", "mani", "manichaean", "marc", "marchen", "masaramgondi",
   "medefaidrin", "medf", "meeteimayek", "mend", "mendekikakui", "merc", "mero",
   "meroiticcursive", "meroitichieroglyphs", "miao", "mlym", "modi", "mong", "mongolian", "mro",
   "mroo", "mtei", "mult", "multani", "myanmar", "mymr", "nabataean", "nagm", "nagmundari",
   "nand", "nandinagari", "narb", "nbat", "newa", "newtailue", "nko", "nkoo", "nshu", "nushu",
   "nyiakengpuachuehmong", "ogam", "ogham", "olchiki", "olck", "oldhungarian", "olditalic",
   "oldnortharabian", "oldpermic", "oldpersian", "oldsogdian", "oldsoutharabian", "oldturkic",
   "olduyghur", "olonal", "onao", "oriya", "orkh", "orya", "osage", "osge", "osma", "osmanya",
   "ougr", "pahawhhmong", "palm", "palmyrene", "pauc", "paucinhau", "perm", "phag", "phagspa",
   "phli", "phlp", "phnx", "phoenician", "plrd", "prti", "psalterpahlavi", "qaac", "qaai",
   "rejang", "rjng", "rohg", "runic", "runr", "samaritan", "samr", "sarb", "saur", "saurashtra",
   "sgnw", "sharada", "shavian", "shaw", "shrd", "sidd", "siddham", "signwriting", "sind",
   "sinh", "sinhala", "sogd", "sogdian", "sogo", "sora", "sorasompeng", "soyo", "soyombo",
   "sund", "sundanese", "sunu", "sunuwar", "sylo", "sylotinagri", "syrc", "syriac", "tagalog",
   "tagb", "tagbanwa", "taile", "taitham", "taiviet", "takr", "takri", "tale", "talu", "tamil",
   "taml", "tang", "tangsa", "tangut", "tavt", "telu", "telugu", "tfng", "tglg", "thaa",
   "thaana", "thai", "tibetan", "tibt", "tifinagh", "tirh", "tirhuta", "tnsa", "todhri", "todr",
   "toto", "tulutigalari", "tutg", "ugar", "ugaritic", "vai", "vaii", "vith", "vithkuqi",
   "wancho", "wara", "warangciti", "wcho", "xpeo", "xsux", "yezi", "yezidi", "yi", "yiii",
   "zanabazarsquare", "zanb", "zinh", "zyyy"]

/-- The versions of Unicode in which characters have been added. -/
def ages : List String :=
  ["1.1", "2.0", "2.1", "3.0", "3.1", "3.2", "4.0", "4.1", "5.0", "5.1", "5.2", "6.0", "6.1", "6.2",
   "6.3", "7.0", "8.0", "9.0", "10.0", "11.0", "12.0", "12.1", "13.0", "14.0", "15.0", "15.1",
   "16.0", "v11", "v20", "v21", "v30", "v31", "v32", "v40", "v41", "v50", "v51", "v52", "v60",
   "v61", "v62", "v63", "v70", "v80", "v90", "v100", "v110", "v120", "v121", "v130", "v140",
   "v150", "v151", "v160"]

/-- What a character means for the boundaries of grapheme clusters. -/
def clusterBreaks : List String :=
  ["cn", "control", "cr", "ex", "extend", "l", "lf", "lv", "lvt", "pp", "prepend", "ri",
   "regionalindicator", "sm", "spacingmark", "t", "v", "zwj"]

/-- What a character means for the boundaries of sentences. -/
def sentenceBreaks : List String :=
  ["at", "aterm", "cl", "close", "cr", "ex", "extend", "fo", "format", "le", "oletter", "lf", "lo",
   "lower", "nu", "numeric", "sc", "scontinue", "se", "sep", "sp", "st", "sterm", "up", "upper"]

/-- What a character means for the boundaries of words. -/
def wordBreaks : List String :=
  ["aletter", "cr", "doublequote", "dq", "ex", "extend", "extendnumlet", "fo", "format",
   "hebrewletter", "hl", "ka", "katakana", "le", "lf", "mb", "midletter", "midnum", "midnumlet",
   "ml", "mn", "newline", "nl", "nu", "numeric", "regionalindicator", "ri", "singlequote", "sq",
   "wsegspace", "zwj"]

/-- The size of the set of a general category, if there is one of that name. -/
def generalCategory? (name : String) : Option Nat :=
  (generalCategories.find? fun category => category.1.contains name).map Prod.snd

/-- The values of a property that has values, other than the general category. -/
def propertyValues (name : String) : List String :=
  if ["sc", "script", "scx", "scriptextensions"].contains name then scripts
  else if name = "age" then ages
  else if ["gcb", "graphemeclusterbreak"].contains name then clusterBreaks
  else if ["sb", "sentencebreak"].contains name then sentenceBreaks
  else if ["wb", "wordbreak"].contains name then wordBreaks
  else []

/-! ## Queries -/

/-- About the size of a set that the tables say nothing of. -/
def usualSetSize : Nat := 1500

/-- The size of the set that a query asks for, if there is one. -/
def PropertyQuery.size? : PropertyQuery → Option Nat
  | .named name =>
    let name := normalizeName name
    if characterProperties.contains name then some usualSetSize
    else
      generalCategory? name <|>
        (if scripts.contains name then some usualSetSize else none)
  | .valued quality value =>
    let quality := normalizeName quality
    let value := normalizeName value
    if quality = "gc" ∨ quality = "generalcategory" then generalCategory? value
    else if (propertyValues quality).contains value then some usualSetSize
    else none

end GrammarRules.Regex
