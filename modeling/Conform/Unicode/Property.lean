import Conform.Unicode.Category
/-!
# Binary properties

A binary property holds of a character or does not. Most of them nearly agree with a few general
categories, so a property is recorded as those categories and the runs of code points at which it
differs from them. The properties of Unicode 16 are recorded.
-/

namespace Conform.Unicode

inductive Property where
  | alphabetic | asciiHexDigit | bidiControl | bidiMirrored | caseIgnorable | cased
  | changesWhenCasefolded | changesWhenCasemapped | changesWhenLowercased | changesWhenTitlecased
  | changesWhenUppercased | dash | defaultIgnorableCodePoint | deprecated | diacritic | emoji
  | emojiComponent | emojiModifier | emojiModifierBase | emojiPresentation | extendedPictographic
  | extender | graphemeBase | graphemeExtend | graphemeLink | hexDigit | hyphen
  | idCompatMathContinue | idCompatMathStart | idContinue | idStart | ideographic
  | idsBinaryOperator | idsTrinaryOperator | idsUnaryOperator | joinControl | logicalOrderException
  | lowercase | math | modifierCombiningMark | noncharacterCodePoint | otherAlphabetic
  | otherDefaultIgnorableCodePoint | otherGraphemeExtend | otherIDContinue | otherIDStart
  | otherLowercase | otherMath | otherUppercase | patternSyntax | patternWhiteSpace
  | prependedConcatenationMark | quotationMark | radical | regionalIndicator | sentenceTerminal
  | softDotted | terminalPunctuation | unifiedIdeograph | uppercase | variationSelector
  | whiteSpace | xidContinue | xidStart
deriving DecidableEq, Repr

namespace Property

/-- The properties with their long and short names. -/
def names : List (Property × String × String) :=
  [(.alphabetic, "Alphabetic", "Alpha"),
    (.asciiHexDigit, "ASCII_Hex_Digit", "AHex"),
    (.bidiControl, "Bidi_Control", "Bidi_C"),
    (.bidiMirrored, "Bidi_Mirrored", "Bidi_M"),
    (.caseIgnorable, "Case_Ignorable", "CI"),
    (.cased, "Cased", "Cased"),
    (.changesWhenCasefolded, "Changes_When_Casefolded", "CWCF"),
    (.changesWhenCasemapped, "Changes_When_Casemapped", "CWCM"),
    (.changesWhenLowercased, "Changes_When_Lowercased", "CWL"),
    (.changesWhenTitlecased, "Changes_When_Titlecased", "CWT"),
    (.changesWhenUppercased, "Changes_When_Uppercased", "CWU"),
    (.dash, "Dash", "Dash"),
    (.defaultIgnorableCodePoint, "Default_Ignorable_Code_Point", "DI"),
    (.deprecated, "Deprecated", "Dep"),
    (.diacritic, "Diacritic", "Dia"),
    (.emoji, "Emoji", "Emoji"),
    (.emojiComponent, "Emoji_Component", "EComp"),
    (.emojiModifier, "Emoji_Modifier", "EMod"),
    (.emojiModifierBase, "Emoji_Modifier_Base", "EBase"),
    (.emojiPresentation, "Emoji_Presentation", "EPres"),
    (.extendedPictographic, "Extended_Pictographic", "ExtPict"),
    (.extender, "Extender", "Ext"),
    (.graphemeBase, "Grapheme_Base", "Gr_Base"),
    (.graphemeExtend, "Grapheme_Extend", "Gr_Ext"),
    (.graphemeLink, "Grapheme_Link", "Gr_Link"),
    (.hexDigit, "Hex_Digit", "Hex"),
    (.hyphen, "Hyphen", "Hyphen"),
    (.idCompatMathContinue, "ID_Compat_Math_Continue", "ID_Compat_Math_Continue"),
    (.idCompatMathStart, "ID_Compat_Math_Start", "ID_Compat_Math_Start"),
    (.idContinue, "ID_Continue", "IDC"),
    (.idStart, "ID_Start", "IDS"),
    (.ideographic, "Ideographic", "Ideo"),
    (.idsBinaryOperator, "IDS_Binary_Operator", "IDSB"),
    (.idsTrinaryOperator, "IDS_Trinary_Operator", "IDST"),
    (.idsUnaryOperator, "IDS_Unary_Operator", "IDSU"),
    (.joinControl, "Join_Control", "Join_C"),
    (.logicalOrderException, "Logical_Order_Exception", "LOE"),
    (.lowercase, "Lowercase", "Lower"),
    (.math, "Math", "Math"),
    (.modifierCombiningMark, "Modifier_Combining_Mark", "MCM"),
    (.noncharacterCodePoint, "Noncharacter_Code_Point", "NChar"),
    (.otherAlphabetic, "Other_Alphabetic", "OAlpha"),
    (.otherDefaultIgnorableCodePoint, "Other_Default_Ignorable_Code_Point", "ODI"),
    (.otherGraphemeExtend, "Other_Grapheme_Extend", "OGr_Ext"),
    (.otherIDContinue, "Other_ID_Continue", "OIDC"),
    (.otherIDStart, "Other_ID_Start", "OIDS"),
    (.otherLowercase, "Other_Lowercase", "OLower"),
    (.otherMath, "Other_Math", "OMath"),
    (.otherUppercase, "Other_Uppercase", "OUpper"),
    (.patternSyntax, "Pattern_Syntax", "Pat_Syn"),
    (.patternWhiteSpace, "Pattern_White_Space", "Pat_WS"),
    (.prependedConcatenationMark, "Prepended_Concatenation_Mark", "PCM"),
    (.quotationMark, "Quotation_Mark", "QMark"),
    (.radical, "Radical", "Radical"),
    (.regionalIndicator, "Regional_Indicator", "RI"),
    (.sentenceTerminal, "Sentence_Terminal", "STerm"),
    (.softDotted, "Soft_Dotted", "SD"),
    (.terminalPunctuation, "Terminal_Punctuation", "Term"),
    (.unifiedIdeograph, "Unified_Ideograph", "UIdeo"),
    (.uppercase, "Uppercase", "Upper"),
    (.variationSelector, "Variation_Selector", "VS"),
    (.whiteSpace, "White_Space", "WSpace"),
    (.xidContinue, "XID_Continue", "XIDC"),
    (.xidStart, "XID_Start", "XIDS")]

/-- The categories with which a property nearly agrees. -/
def categories : Property → List Category
  | .alphabetic => Category.letters ++ [.spacingMark, .letterNumber]
  | .bidiMirrored => [.openPunctuation, .closePunctuation, .initialPunctuation, .finalPunctuation]
  | .caseIgnorable => [.modifierLetter, .nonspacingMark, .enclosingMark, .modifierSymbol, .format]
  | .cased => Category.casedLetters ++ [.modifierLetter]
  | .changesWhenCasefolded => [.uppercaseLetter, .titlecaseLetter]
  | .changesWhenCasemapped => Category.casedLetters
  | .changesWhenLowercased => [.uppercaseLetter, .titlecaseLetter]
  | .changesWhenTitlecased => [.lowercaseLetter]
  | .changesWhenUppercased => [.lowercaseLetter, .titlecaseLetter]
  | .dash => [.dashPunctuation]
  | .diacritic => [.modifierLetter, .modifierSymbol]
  | .graphemeBase =>
    Category.letters ++ Category.numbers ++ Category.punctuation ++ Category.symbols ++
      [.spacingMark, .spaceSeparator]
  | .graphemeExtend => [.nonspacingMark, .enclosingMark, .format]
  | .idContinue =>
    Category.letters ++
      [.nonspacingMark, .spacingMark, .decimalNumber, .letterNumber, .connectorPunctuation]
  | .idStart => Category.letters ++ [.letterNumber]
  | .lowercase => [.lowercaseLetter, .modifierLetter]
  | .math => [.mathSymbol]
  | .otherAlphabetic => [.spacingMark]
  | .patternWhiteSpace => [.lineSeparator, .paragraphSeparator]
  | .uppercase => [.uppercaseLetter]
  | .whiteSpace => Category.separators
  | .xidContinue =>
    Category.letters ++
      [.nonspacingMark, .spacingMark, .decimalNumber, .letterNumber, .connectorPunctuation]
  | .xidStart => Category.letters ++ [.letterNumber]
  | _ => []

/-- The code points that lines mark with `Y`. -/
def marked (lines : List String) : Runs Bool := .ofLines (· = "Y") lines

/-- Where a property differs from its categories. -/
def exceptions : Property → Runs Bool
  | .alphabetic => marked
    ["N837YN29Y13N576Y14NYNY2NY2NYN72Y11N48Y13NY7N16YN101Y7N4Y4N2Y2N4YN35YN30Y16N102Y11N101Y2N3",
      "Y9NY3NY4N106YN60Y12N3Y7N6Y19N55YN6Y8N12Y3N10Y2N29YN63Y4N29Y2N29Y2N62Y2N4Y2N2Y2N4YN30Y2N3Y",
      "N11Y2N62Y5NY2N25Y2N22Y3N4YN61YNY4N17YN11Y2N30YN61YN63YN3YN57Y3N5Y3NY3N8Y2N11Y2N29YN61YN6Y",
      "N5YN21Y2N28Y2N63Y4N29Y2N29YN80Y3NYN90YN2Y7N18YN99YN2Y6NY2N16YN112Y2N49Y14NY4N9Y11NY36N112",
      "Y4NY5N6Y2N25Y2N4Y3N16Y4N13YN2Y2N6YN15YN1652Y2NYN28Y3N29Y2N30Y2N67Y7N8YN190Y2N34YN118Y3N4Y2",
      "N9YN228Y2N2YN58YNY7N3YN2Y8N6Y2N74Y2N11Y3N49Y4N50Y5NYN5YNYN59Y2N32Y4N2Y3NY2N58Y2N3YNY5N56Y8",
      "N2YN170YN21YN219Y34N1729Y52N2294Y32N558Y2N30276Y8N34Y2N354YN8YN25Y2N158YN57YN38Y5N28Y11NY",
      "N44Y3N51Y4N2Y2N2YN36YN67Y6N2Y2N2Y2N12YN8YN47YN51YNY3N2Y2N5YN45Y2N247YN2YN3YN20273YN2135Y5",
      "N1670Y3NY2N5Y4N788Y4N65YN321Y2N79YN260YN54Y14N45Y2N11Y2N49Y4N11YN61Y3N36Y5NY6N77Y2N52Y9NY",
      "N14YN95Y3N2Y2NYN6YN2YN157YN3Y6N23Y2N62YN12YN109Y6N14YN104Y8N3Y2N110Y6NYN4Y2N241Y4N6Y2N30Y2",
      "N85Y8N2YN2YN106YNYN2Y7N102YNYN2Y4NY4N260Y9N259Y3N150Y4N2Y2N37Y10N42Y4N2Y4N18Y6N2Y3N46Y13",
      "N409Y7NY6N84Y22N2Y7NY2NY2N122Y6N3YNY2NY3NYN3YN72Y2N3YN349Y2N11Y2N52Y5N5Y2N16860Y12N3Y2",
      "N3616YN63Y4N19723YN5318Y2N6Y6N3725Y7NY17N2Y7NY2NY5N100YN2231YN2024Y26N6Y26N6Y26N986742"]
  | .asciiHexDigit => marked ["N48Y10N7Y6N26Y6N1114009"]
  | .bidiControl => marked ["N1564YN6641Y2N26Y5N55Y4N1105814"]
  | .bidiMirrored => marked
    ["N60YNYN8153Y8N288YN192Y4N3Y6N3YN3Y2N3Y4NY4NYNYN4Y9N5YNY18N5Y4N9Y2NYNY8NY32N2Y4N5YN9Y2N2Y19",
      "N5Y2N9Y5N2Y2N4Y24N2Y16N32Y2N1182YN2Y2N3Y2NY3N5Y4N5Y3N3Y4N437Y6NY14N8YN7Y6N3YN4Y5NY2N6YN4YN",
      "Y3N2Y2N10Y6N16Y19NY4N2YNYN2YNY4N5Y2N6Y3N24Y2N11Y2N4Y4NY2N2Y2N4Y43N2Y8NY40N5YNYN3Y5N5Y3N4Y",
      "N3Y5NYN256YN579YN474Y3N52510Y2N215Y2N28Y16N2Y2N27Y2N182YNYN55228YN57YN57YN57YN57YN993340"]
  | .caseIgnorable => marked
    ["N39YN6YN11YN124YN719YN471YN148YN6691Y2N10YN2YN56811YN62YN2YN177YN6YN11YN1048805"]
  | .cased => marked
    ["N170YN15YN510Y7N6Y12N26YNYN86YN46YN484YN230YN164Y2N269Y2N4YN31YN9YN3YN160YN167YN1236YN127Y",
      "N2320YN107YN611YN464Y6N1250Y32N822Y52N2181YN191YN469YN43Y5N5YN97Y2N93Y3N28438YN1250Y6N270Y",
      "N114YN151Y9N104YN582YN22YN137YN108YN21Y2N21627YN45Y2N2017Y2N1483YN32YN24016Y4N508Y3N40Y2",
      "N550Y13N64Y2NYN16396Y4NY7NY2N12600Y7N941YN1119YN2020Y26N6Y26N6Y26N986742"]
  | .changesWhenCasefolded => marked
    ["N181YN41YN105YN53YN453YN124YN13Y7N25Y2N3YN401YN3608Y86N2Y6N2178Y9N529Y2N228Y8N8Y8N8Y8N10Y3",
      "N2YN10Y3N2YN42Y3N2YN266YN4YN3Y3N2Y3N2YN3Y5N6YN3YN3Y2N2Y2NYN10Y2N5YN26Y16N838Y26N34464Y80",
      "N20288Y7N12Y5N55528Y26N26Y26N26Y26N26YNY2N2YN2Y2N2Y4NY8N26Y26N26Y2NY4N2Y8NY7N27Y2NY4NY5NY",
      "N3Y7N27Y26N26Y26N26Y26N26Y26N26Y26N26Y26N30Y25N33Y25N33Y25N33Y25N33Y25N33YN993333"]
  | .changesWhenCasemapped => marked
    ["N312YN84YN28Y2N14YN3YN98YN18Y6N27YN2YNYN2Y3N2YN4YN5Y2NYN2Y2NY7NY2NYN2Y3N6Y5NYNY8N2Y17N149Y",
      "N140Y3N39YN355YN39YN6007Y44N63Y13N2Y3NY16NY12N257Y2NYN610YN4YN2Y10NYN3Y5N6YN3YN3Y2NY3NY2N4",
      "YN2Y4N5Y5N22Y32N822Y52N1927YN2YN2Y5N104YN31307Y2N63Y8N21YN6YN25YN35YNYN36YN821Y35NY7N5Y9",
      "N75927Y85NY71NY2N2YN2Y2N2Y4NY12NYNY7NY65NY4N2Y8NY7NY28NY4NY5NYN3Y7NY340N2Y25NY25NY31NY25N",
      "Y31NY25NY31NY25NY31NY25NY8N1844Y10NY20N6Y6N991445"]
  | .changesWhenLowercased => marked
    ["N978Y3N7469YN4YN3Y3N2Y3N2YN3Y5N6YN3YN3Y2N2Y2NYN10Y2N5YN26Y16N838Y26N110384Y26N26Y26N26Y26",
      "N26YNY2N2YN2Y2N2Y4NY8N26Y26N26Y2NY4N2Y8NY7N27Y2NY4NY5NYN3Y7N27Y26N26Y26N26Y26N26Y26N26Y26",
      "N26Y26N30Y25N33Y25N33Y25N33Y25N33Y25N33YN993333"]
  | .changesWhenTitlecased => marked
    ["N312YN84YN28Y2N14YN3YN5YN2YN2YN38YN47YN18Y6N27YN2YNYN2Y3N2YN4YN5Y2NYN2Y2NY7NY2NYN2Y3N6Y5NY",
      "NY8N2Y17N149YN182YN355YN39YN2887Y43N2Y3N3072Y44N63Y13N2Y3NY16NY12N257Y2NYN618YN3Y2N3YN27Y",
      "N4YN4YN2Y2N8Y4N38Y16N848Y26N1927YN2YN2Y5N104YN31307Y2N63Y8N21YN6YN25YN35YNYN36YN821Y35NY7",
      "N5Y9N75953Y26N26Y7NY18N26Y26N26Y4NYNY7NY11N26Y26N26Y26N26Y26N26Y26N26Y26N26Y26N26Y26N26Y26",
      "N26Y28N28Y25NY6N26Y25NY6N26Y25NY6N26Y25NY6N26Y25NY6NYN1844Y10NY20N6Y6N991445"]
  | .changesWhenUppercased => marked
    ["N312YN84YN28Y2N14YN3YN98YN18Y6N27YN2YNYN2Y3N2YN4YN5Y2NYN2Y2NY7NY2NYN2Y3N6Y5NYNY8N2Y17N149Y",
      "N182YN355YN39YN6007Y44N63Y13N2Y3NY16NY12N257Y2NYN618YN3Y2N3YN27YN4YN4YN2Y2N8Y4N38Y16N848",
      "Y26N1927YN2YN2Y5N104YN31307Y2N63Y8N21YN6YN25YN35YNYN36YN821Y35NY7N5Y9N75953Y26N26Y7NY18N26",
      "Y26N26Y4NYNY7NY11N26Y26N26Y26N26Y26N26Y26N26Y26N26Y26N26Y26N26Y26N26Y28N28Y25NY6N26Y25NY6",
      "N26Y25NY6N26Y25NY6N26Y25NY6NYN1844Y10NY20N6Y6N991445"]
  | .dash => marked ["N8275YN39YN15YN390YN1105389"]
  | .defaultIgnorableCodePoint => marked
    ["N173YN673YN716YN2882Y2N1619Y2N85Y5N2043Y5N26Y5N49Y16N4340YN52379Y16N239YN160YN79Y9N48295Y4",
      "N5327Y8N798341Y4096N192512"]
  | .deprecated => marked ["N329YN1321YN2307YNYN2089Y2N2245Y6N697Y2N908502YN196606"]
  | .diacritic => marked
    ["N183YN584Y79NY8N5Y6N288Y5N265Y17NY27NYNY2NYN123YN10Y8N4Y2N134Y2N9Y3N67Y27N91Y11N58Y9N6YN29",
      "Y3N9YN3YN95YN15Y8N42Y9N16Y28N61YN16YN3Y4N103YN16YN110YN16YN110YN16YN47Y3N60YN16YN7YN119Y",
      "N110YN16YN110YN16YN109Y2N16YN124YN111YN11Y7NYN107YN11YNY5N75Y2N27YNYNYN4Y2N66Y3NY2N62YN112",
      "YNY2N40Y2N4Y5N25Y7NYN10Y2N96YN608Y3N948Y2N30YN148Y11N3YN5YN101YN245Y3N292YN20Y8N2YN39YN8",
      "Y15N2Y11N104YN15YN38Y9N54Y2N58YN11Y2N66Y2N152Y25N4YN6YN2Y3N126YN34Y37N4Y12N37Y11N625YN13Y",
      "N16Y13N3039Y2N113Y3N125YN661YN36Y6NY5N5YN93Y2N2Y2N94Y2N28438YN1250Y6N270YN98YN12Y2N114Y2",
      "N126YN129Y3N17YN37YN151YN27Y18N57Y4N36YN95YN12YN14YN21Y2N137YN10Y3N65Y4N26YN21Y2NYN245Y2",
      "N20272YN147Y17N605Y16N1200YN1879Y3N4YN165Y2N571Y6N65Y5NYN397Y3N70Y11N49Y4N192YN41YN72Y2",
      "N120Y2N62YN76YN9Y3N104Y2N178Y2N80Y2N16YN24Y7N3Y5N89Y3NY2N13Y2N95YN3YN123Y2N251Y2N126YN118",
      "Y2N115YN269Y2N258Y2N4YN156YN83YN18YN81YN421YN258YNY2N81YN425Y2N23YN5356Y15N11481YN2496Y5",
      "N59Y7N9Y4N508Y3N588Y4N77Y2NYN12Y2N24334Y46N2Y23N544Y3N3Y6N8Y8N2Y7N30Y4N3970Y14N368YN61Y4",
      "N507YN258Y2N736Y7N109Y3NY4N2735Y5N986112"]
  | .emoji => marked
    ["N35YN6YN5Y10N111YN4YN8077YN12YN216YN22YN90Y6N15Y2N367Y2N12YN166YN25Y11N4Y3N199YN231Y2N10Y",
      "N9YN58Y4NY5N9YN2YN2Y2N2YN4YN2YNY2N2YN3YN3Y2N8Y3N5YNYN5Y12N11Y2N2YNY2NYN18YN2Y2N18Y6NYNY2N3",
      "Y2N5YN2Y2N4Y2N11Y2N5Y2N2YN5Y2NYNY2N20Y2N5Y6NY4N2YN4YN2YN2Y6NYN2YNYNYN6YN3YN6YN10Y2N15YN2Y",
      "N4YNYN4Y3NYN11Y2N48Y3N9YN14YN14YN372Y2N463Y3N19Y2N51YN4YN1242YN12YN601YNYN114026YN202YN160",
      "Y2N12Y2N14YN2Y10N75Y26NY2N23YN20YN2Y9N21Y2N174Y34N2Y112N2Y2NY3N2Y83N2Y3NY263NY63N11Y6NY24",
      "N7Y2N2Y8N12YN2Y4N2YN4Y2N13Y2N2YN8Y2N9YN5Y3N12Y3N8Y3N2YNYN4YN6YN3YN6Y86N48Y70N5Y8N2Y3N4Y10",
      "N3YNY2N3YN2Y10N227Y12N4YN283Y47NY10NY185N112Y13N3Y10N5Y56N7Y15N2Y11N6Y9N984327"]
  | .emojiComponent => marked
    ["N35YN6YN5Y10N8147YN213YN56619YN62422Y26N507Y5N1456Y4N788076Y96N196480"]
  | .emojiModifier => marked ["N127995Y5N986112"]
  | .emojiModifierBase => marked
    ["N9757YN219YN16Y4N117879YN60Y3N2YN2Y3N117Y2N2Y11N21Y19N3YN4Y3NY3N7YNYN24YN201Y2N4YN21YN4Y2",
      "N174Y3N3Y5N83YN16Y3N9YN11YN575YN2YN8Y8N6YN9Y10N2Y3N56YN61Y2NY2NYN17Y3NY13N229Y3N42Y9",
      "N984327"]
  | .emojiPresentation => marked
    ["N8986Y2N205Y4N3YN2YN521Y2N21Y2N50Y12N43YN19YN13YN8Y2N17Y2N5Y2N8YN5YN21YN7Y2NYN4YN2YN7YN4Y2",
      "N28YN35YNYN4Y3NYN61Y3N24YN14YN859Y2N51YN4YN115886YN202YN190YN2Y10N75Y26NYN24YN20YN2Y5NY3",
      "N21Y2N174Y33N12Y9NY70NY22N12Y43N4Y5N12Y17N3YN3Y71NYNY187N2Y63N13Y4NY24N18YN26Y2N13YN86Y85",
      "N48Y70N6YN3Y3N2Y3N4Y4N11Y2N7Y9N227Y12N4YN283Y47NY10NY185N112Y13N3Y10N5Y56N7Y15N2Y11N6Y9",
      "N984327"]
  | .extendedPictographic => marked
    ["N169YN4YN8077YN12YN216YN22YN90Y6N15Y2N367Y2N12YN95YN70YN25Y11N4Y3N199YN231Y2N10YN9YN58Y4N",
      "Y6NY12NY114N10Y118N2Y11NYNYN6YN3YN6YN10Y2N15YN2YN4YNYN4Y3NYN11Y5N45Y3N9YN14YN14YN372Y2N463",
      "Y3N19Y2N51YN4YN1242YN12YN601YNYN114022Y256N13Y3N31YN60Y6N12Y2N14YN2Y10N18Y57N27Y15N10YN20Y",
      "N2Y9NY4N9Y434N5Y318N8Y266N48Y128N116Y12N85Y43N12Y4N56Y8N10Y6N40Y8N30Y82N12Y47NY10NY441N256",
      "Y1022N983042"]
  | .extender => marked
    ["N183YN536Y2N878YN441YN630YN137YN89YN752YN127YN2371YN56YN611YN398YN68YN5001YN43Y5N103Y2N93",
      "Y3N28438YN1526YN962YN22YN137YN108YN21Y2N21627YN2064Y2N1483YN27YN4YN1223YN293YN116Y2N498Y3",
      "N1231YN20649Y2N1180Y2NYN29016Y2N1201YN852Y3N988857"]
  | .graphemeBase => marked
    ["N2494YN24YN358YN24YN102YN24YN232YNYN4Y2NY2N9Y2N103YN24YN119YN15YN2357YN30YN1024YN5YNYN5Y2",
      "N101YN71Y2N5178Y2N31011YN108YN21981Y2N4640YN116YN264YN14YN9YN96YN9YN2YNY3N5YN224YN12YN241Y",
      "N262YN633YN12YN1539YN20654Y2N24947Y2N6Y6N994957"]
  | .graphemeExtend => marked
    ["N173YN1362Y6N22YN192YN49YN384Y2N80YN219YN24YN358YN24YN102YN24YN232YNYN4Y2NY2N9Y2N103YN24Y",
      "N119YN15YN2357YN30YN217YN806YN5YNYN5Y2N101YN71Y2N1047YNY3N26Y5N49Y5NY10N4030Y2N31011YN108Y",
      "N21822YN158Y2N89Y3N4289YN15YN242YN116YN264YN14YN9YN96YN9YN2YNY3N5YN224YN12YN241YN262YN633Y",
      "N12YN1539YN5358Y16N15280Y2N19630Y4N5313Y2N6Y14N798342YN196606"]
  | .graphemeLink => marked
    ["N2381YN127YN127YN127YN127YN127YN127YN127YN109Y2N16YN124YN111YN127YN201YN180Y2N1753Y2N30Y",
      "N157YN653YN227YN101Y2N70Y2N4491YN31366YN37YN151YN142YN108YN309YN246YN24145YN1542YN41YN14Y",
      "N57YN121Y2N139YN116YN180YN98YN128Y3N113YN127YN252YN127YN118YN116YN269YN259Y2N161YN83YN18Y",
      "N81YN421YN260Y2N81YN425Y2N16876YN1023696"]
  | .hexDigit => marked ["N48Y10N7Y6N26Y6N65193Y10N7Y6N26Y6N1048761"]
  | .hyphen => marked ["N45YN127YN1244YN4731YN2057Y2N3589YN739YN52583YN169YN87YN1048730"]
  | .idCompatMathContinue => marked
    ["N178Y2N5YN8118YN3Y11NY15N371YN4YN22YN111778YN25YN31YN25YN31YN25YN31YN25YN31YN25YN993340"]
  | .idCompatMathStart => marked
    ["N8706YN4YN22YN111778YN25YN31YN25YN31YN25YN31YN25YN31YN25YN993340"]
  | .idContinue => marked ["N183YN719YN4065Y9N1640YN1585Y2N266YN21YN3328YN619Y2N94YN52841YN1048730"]
  | .idStart => marked ["N6277Y2N2193YN21YN3328YN619Y2N1101667"]
  | .ideographic => marked
    ["N12294Y2N25Y9N14Y3N965Y6592N64Y20992N22784Y366N2Y106N29962YN27Y6136N8Y1238N41Y10N9319Y396",
      "N19716Y42720N32Y4154N6Y222N2Y5762N14Y7473N15Y622N2466Y542N1506Y4939N5Y4192N908368"]
  | .idsBinaryOperator => marked ["N12272Y2N2Y10N497YN1101328"]
  | .idsTrinaryOperator => marked ["N12274Y2N1101836"]
  | .idsUnaryOperator => marked ["N12286Y2N1101824"]
  | .joinControl => marked ["N8204Y2N1105906"]
  | .logicalOrderException => marked ["N3648Y5N123Y5N2800Y3N2YN37114Y2N2YNY2N1070403"]
  | .lowercase => marked
    ["N170YN15YN510Y7N6Y12N26YNYN86YN46YN484YN230YN164Y2N269Y2N4YN31YN9YN3YN160YN167YN1236YN127Y",
      "N2320YN107YN611YN464Y6N1266Y16N848Y26N2181YN191YN469YN43Y5N5YN97Y2N93Y3N28438YN1250Y6N270Y",
      "N114YN151Y9N104YN582YN22YN137YN108YN21Y2N21627YN45Y2N2017Y2N1483YN32YN24016Y4N508Y3N40Y2",
      "N550Y13N64Y2NYN16396Y4NY7NY2N12600Y7N941YN1119YN988852"]
  | .math => marked
    ["N94YN881Y3N2YN26Y2N2Y2N7200YN27Y3N11YN32Y4N24Y2N14Y2N65Y13N4YN3Y2N4Y5N18YN4YN2Y10NYN3Y5N6Y",
      "N3Y2N2Y2NY3NY6N3Y4N5Y5N75Y5N2Y4NY2NY2NYNY5N2Y2N4Y2N4Y18N2Y2NYNY7NYN6Y2N290Y4N168Y2NYN24Y",
      "N17YN445Y2N12Y9N5Y5N5Y2N2Y2N3Y5N14YNYN2Y6N24Y2N57YNYN29Y4N9Y2N342Y2N31Y10N403Y22N63Y4N32Y2",
      "N54371YNYN4YN211YNYN54465Y85NY71NY2N2YN2Y2N2Y4NY12NYNY7NY65NY4N2Y8NY7NY28NY4NY5NYN3Y7NY340",
      "N2Y25NY25NY31NY25NY31NY25NY31NY25NY31NY25NY8N2Y50N5632Y4NY27NY2NYN2YNY10NY4NYNYN6YN4YNYNYN",
      "Y3NY2NYN2YNYNYNYNYNY2NYN2Y4NY7NY4NY4NYNY10NY17N5Y3NY5NY17N987460"]
  | .modifierCombiningMark => marked ["N1620Y2N2YN131YN6YN3Y2N481Y2NY3N3YN31YN1111820"]
  | .noncharacterCodePoint => marked
    ["N64976Y32N526Y2N65534Y2N65534Y2N65534Y2N65534Y2N65534Y2N65534Y2N65534Y2N65534Y2N65534Y2",
      "N65534Y2N65534Y2N65534Y2N65534Y2N65534Y2N65534Y2N65534Y2"]
  | .otherAlphabetic => marked
    ["N837YN29Y13N576Y14NYNY2NY2NYN72Y11N48Y13NY7N16YN101Y7N4Y4N2Y2N4YN35YN30Y16N102Y11N101Y2N3",
      "Y9NY3NY4N106YN60Y12N3Y7N6Y19N55YN6Y8N12Y3N10Y2N29YN63Y4N29Y2N29Y2N62Y2N4Y2N2Y2N4YN30Y2N3Y",
      "N11Y2N62Y5NY2N25Y2N22Y3N4YN61YNY4N17YN11Y2N30YN61YN63YN3YN57Y3N5Y3NY3N8Y2N11Y2N29YN61YN6Y",
      "N5YN21Y2N28Y2N63Y4N29Y2N29YN80Y3NYN90YN2Y7N18YN99YN2Y6NY2N16YN112Y2N49Y14NY4N9Y11NY36N112",
      "Y4NY5N6Y2N25Y2N4Y3N16Y4N13YN2Y2N6YN15YN1652Y2NYN28Y3N29Y2N30Y2N67Y7N8YN190Y2N34YN118Y3N4Y2",
      "N9YN228Y2N2YN58YNY7N3YN2Y8N6Y2N74Y2N11Y3N49Y4N50Y5NYN5YNYN59Y2N32Y4N2Y3NY2N58Y2N3YNY5N56Y8",
      "N2YN170YN21YN219Y34N1729Y52N2294Y32N558Y2N30276Y8N34Y2N354YN8YN25Y2N158YN57YN38Y5N28Y11NY",
      "N44Y3N51Y4N2Y2N2YN36YN67Y6N2Y2N2Y2N12YN8YN47YN51YNY3N2Y2N5YN45Y2N247YN2YN3YN20273YN2135Y5",
      "N1670Y3NY2N5Y4N788Y4N65YN321Y2N79YN260YN54Y14N45Y2N11Y2N49Y4N11YN61Y3N36Y5NY6N77Y2N52Y9NY",
      "N14YN95Y3N2Y2NYN6YN2YN157YN3Y6N23Y2N62YN12YN109Y6N14YN104Y8N3Y2N110Y6NYN4Y2N241Y4N6Y2N30Y2",
      "N85Y8N2YN2YN106YNYN2Y7N102YNYN2Y4NY4N260Y9N259Y3N150Y4N2Y2N37Y10N42Y4N2Y4N18Y6N2Y3N46Y13",
      "N409Y7NY6N84Y22N2Y7NY2NY2N122Y6N3YNY2NY3NYN3YN72Y2N3YN349Y2N11Y2N52Y5N5Y2N16860Y12N3Y2",
      "N3616YN63Y4N19723YN5318Y2N6Y6N3725Y7NY17N2Y7NY2NY5N100YN2231YN2024Y26N6Y26N6Y26N986742"]
  | .otherDefaultIgnorableCodePoint => marked
    ["N847YN3599Y2N1619Y2N2223YN4350YN52795YN79Y9N851975YNY30N96Y128N240Y3600N192512"]
  | .otherGraphemeExtend => marked
    ["N2494YN24YN358YN24YN102YN24YN232YNYN4Y2NY2N9Y2N103YN24YN119YN15YN2357YN30YN1024YN5YNYN5Y2",
      "N101YN71Y2N1048YN4129Y2N31011YN108YN21981Y2N4640YN116YN264YN14YN9YN96YN9YN2YNY3N5YN224YN12",
      "YN241YN262YN633YN12YN1539YN20654Y2N24947Y2N6Y6N798381Y96N196480"]
  | .otherIDContinue => marked ["N183YN719YN4065Y9N1640YN1585Y2N4333YN52841YN1048730"]
  | .otherIDStart => marked ["N6277Y2N2193YN21YN3948Y2N1101667"]
  | .otherLowercase => marked
    ["N170YN15YN501Y9N7Y2N30Y5N96YN52YN3457YN3119Y63N13YN34Y37N689YN13YN16Y13N211Y16N848Y26N1938",
      "Y2N31262Y2N210YN129Y3N3Y2N866Y4N9YN23574YN2Y3NY42NY9N55413Y62N991122"]
  | .otherMath => marked
    ["N94YN881Y3N2YN26Y2N2Y2N7200YN27Y3N11YN32Y4N24Y2N14Y2N65Y13N4YN3Y2N4Y5N18YN4YN2Y10NYN3Y5N6Y",
      "N3Y2N2Y2NY3NY6N3Y4N5Y5N75Y5N2Y4NY2NY2NYNY5N2Y2N4Y2N4Y18N2Y2NYNY7NYN6Y2N290Y4N168Y2NYN24Y",
      "N17YN445Y2N12Y9N5Y5N5Y2N2Y2N3Y5N14YNYN2Y6N24Y2N57YNYN29Y4N9Y2N342Y2N31Y10N403Y22N63Y4N32Y2",
      "N54371YNYN4YN211YNYN54465Y85NY71NY2N2YN2Y2N2Y4NY12NYNY7NY65NY4N2Y8NY7NY28NY4NY5NYN3Y7NY340",
      "N2Y25NY25NY31NY25NY31NY25NY31NY25NY31NY25NY8N2Y50N5632Y4NY27NY2NYN2YNY10NY4NYNYN6YN4YNYNYN",
      "Y3NY2NYN2YNYNYNYNYNY2NYN2Y4NY7NY4NY4NYNY10NY17N5Y3NY5NY17N987460"]
  | .otherUppercase => marked ["N8544Y16N838Y26N117856Y26N6Y26N6Y26N986742"]
  | .patternSyntax => marked
    ["N33Y15N10Y7N26Y4NYN26Y4N34Y7NYNY2NYNY2N4YN4YN3YN23YN31YN7960Y24N8Y15N2Y19NY10N305Y720N160",
      "Y630N30Y1132N512Y128N385Y3N4Y25N15YN52493Y2N261Y2N1049017"]
  | .patternWhiteSpace => marked ["N9Y5N18YN100YN8072Y2N1105904"]
  | .prependedConcatenationMark => marked ["N1536Y6N215YN49YN384Y2N80YN67546YN15YN1044274"]
  | .quotationMark => marked
    ["N34YN4YN131YN15YN8028Y8N25Y2N3591YN457Y4N13Y3N52769Y4N189YN4YN90Y2N1048732"]
  | .radical => marked ["N11904Y26NY89N12Y214N1101866"]
  | .regionalIndicator => marked ["N127462Y26N986624"]
  | .sentenceTerminal => marked
    ["N33YN12YN16YN1353YN147Y3N180YN43Y3N246YN61YNYN3Y2N293Y2N1764Y2N790YN4Y2N773YN198Y2N157Y2",
      "N45YN5YN314Y2N354Y4N162Y2N10Y2N2Y2N29Y3N187Y2N65Y2N932YN23Y2N9Y3N3247Y3N306YN13YN22Y2N429Y",
      "N29948YN270Y2N227YN3YN382Y2N86Y2N95YN152Y2N147Y3N144Y2N249YN21030YN2Y2N59YN3Y2N169YN12YN16",
      "YN65YN2804Y2N1277Y5N44Y4N189Y2N117Y4N127Y3N129Y2N6YN16Y2N88Y2NY2N108YN298Y2N117Y2N373Y2N5",
      "Y15N105Y2N249Y3N517YNYN251Y2N87Y2N420Y2N692Y2N74Y2N19241Y2N133YN65Y2N11YN553Y2N296YN19974Y",
      "N7656YN992631"]
  | .softDotted => marked
    ["N105Y2N196YN281YN30YN52YN20YN320YN98YNYN6409YN51YN13YN3YN132YN157YN421YN214Y2N2866YN108453",
      "Y2N50Y2N50Y2N50Y2N50Y2N50Y2N50Y2N50Y2N50Y2N50Y2N50Y2N50Y2N50Y2N2182YN305Y2N26YN991127"]
  | .terminalPunctuation => marked
    ["N33YN10YNYN11Y2N3YN830YN8YN513YN57YN72YN14YNY3N180YN43Y11NYN235Y2N54Y6NY8N31YN261Y2N1268Y2",
      "N172YN4Y6N311Y2N789Y8N773YN124Y3N71Y2N157Y3N3YN39Y4N2Y2N314Y2N354Y4N162Y2N10Y2NY3N29Y3N187",
      "Y5N62Y2N932YN23Y2N9Y3N3247Y3N306YN13YN4YN10YNY2N3Y2N428Y2N29947Y2N269Y3N227Y5N382Y2N86Y2",
      "N95YN151Y3N147Y3N127YN16Y2N249YN21030YN2Y2N57Y3NY4N169YN10YNYN11Y2N3YN65YN2YN1082YN48Y",
      "N1158YN199YN310Y2N152Y6N68Y6N89Y4N952Y5N44Y4N189Y7N112Y4N127Y3N129Y2N6YN16Y2N88Y5N108YN298",
      "Y2N117Y3N12Y2N358Y4N3Y15N105Y2N249Y3N517YNYN251Y2N87Y2N4Y2N414Y3N45YN645Y2N74Y2N1323Y5",
      "N17913Y2N133YN65Y3N10YN553Y2N295Y2N19974YN7655Y4N992629"]
  | .unifiedIdeograph => marked
    ["N13312Y6592N64Y20992N23054Y2NYNY2N10YNYNY2N2Y3N67030Y42720N32Y4154N6Y222N2Y5762N14Y7473N15",
      "Y622N4514Y4939N5Y4192N908368"]
  | .uppercase => marked ["N8544Y16N838Y26N117856Y26N6Y26N6Y26N986742"]
  | .variationSelector => marked ["N6155Y3NYN58864Y16N852720Y240N196112"]
  | .whiteSpace => marked ["N9Y5N119YN1113978"]
  | .xidContinue => marked
    ["N183YN706YN12YN4065Y9N1640YN1585Y2N266YN21YN3328YN715YN52066Y6N406Y2N116YNYNYNYNYNYNYNY",
      "N230YN1048730"]
  | .xidStart => marked
    ["N890YN2744YN127YN2513Y2N2193YN21YN3328YN52782Y6N406Y2N116YNYNYNYNYNYNYNYN287Y2N1048672"]

/-- Whether a property holds of a character. -/
def holds (property : Property) (c : Char) : Bool :=
  property.categories.contains (category c) != (property.exceptions.get? c.toNat).getD false

/-- The code points for which a property holds. -/
def ranges (property : Property) : List Range :=
  Ranges.symmDiff (Category.table.ranges property.categories.contains)
    (property.exceptions.ranges id)

end Property

end Conform.Unicode
