import ImportSurvey.Unicode.CodeSet
import ImportSurvey.Unicode.Categories
import ImportSurvey.Unicode.Scripts
import ImportSurvey.Unicode.ScriptExtensions
import ImportSurvey.Unicode.Traits
import ImportSurvey.Unicode.Breaks
import ImportSurvey.Unicode.Ages

namespace ImportSurvey.Unicode

/-- A listed category, or the empty set. -/
def category (name : String) : CodeSet := (tableSet? categoryRanges name).getD .empty

/-- The union of listed categories. -/
def categories (names : List String) : CodeSet :=
  CodeSet.ofRanges (names.flatMap fun name => (category name).ranges.toList)

/-- A listed trait, or the empty set. -/
def trait (name : String) : CodeSet := (tableSet? traitRanges name).getD .empty

def letters : CodeSet := categories ["Lu", "Ll", "Lt", "Lm", "Lo"]

def marks : CodeSet := categories ["Mn", "Mc", "Me"]

/-- Every code point that is a character, a control or a private-use code point. -/
def assigned : CodeSet :=
  CodeSet.ofRanges ((0xD800, 0xDFFF) ::
    categoryRanges.flatMap fun entry => (CodeSet.ofText entry.2).ranges.toList)

def alphabetic : CodeSet :=
  (letters.union (category "Nl")).union (trait "Other_Alphabetic")

def whiteSpace : CodeSet := trait "White_Space"

def decimalDigits : CodeSet := category "Nd"

def lowercase : CodeSet := (category "Ll").union (trait "Other_Lowercase")

def uppercase : CodeSet := (category "Lu").union (trait "Other_Uppercase")

def graphemeExtend : CodeSet :=
  (categories ["Me", "Mn"]).union (trait "Other_Grapheme_Extend")

/-- The characters of words: letters, marks, digits, connecting punctuation and joiners. -/
def wordCharacters : CodeSet :=
  ((alphabetic.union marks).union (categories ["Nd", "Pc"])).union (trait "Join_Control")

/-- Letters and numbers of any script. -/
def alphanumeric : CodeSet := alphabetic.union (categories ["Nd", "Nl", "No"])

/-- The first 128 characters need no look at the set. -/
def isAlphabetic (c : Char) : Bool :=
  if c.toNat < 0x80 then c.isAlpha else alphabetic.containsChar c

def isAlphanumeric (c : Char) : Bool :=
  if c.toNat < 0x80 then c.isAlphanum else alphanumeric.containsChar c

/-- White space in the sense of the standard, which has 25 such characters. -/
def isWhiteSpace (c : Char) : Bool :=
  (9 ≤ c.toNat && c.toNat ≤ 13) || c.toNat == 0x20 || c.toNat == 0x85 || c.toNat == 0xA0 ||
  c.toNat == 0x1680 || (0x2000 ≤ c.toNat && c.toNat ≤ 0x200A) || c.toNat == 0x2028 ||
  c.toNat == 0x2029 || c.toNat == 0x202F || c.toNat == 0x205F || c.toNat == 0x3000

def identifierStart : CodeSet :=
  ((letters.union (category "Nl")).union (trait "Other_ID_Start")).diff
    ((trait "Pattern_Syntax").union (trait "Pattern_White_Space"))

def identifierContinue : CodeSet :=
  (identifierStart.union (categories ["Mn", "Mc", "Nd", "Pc"])).union (trait "Other_ID_Continue")

def graphemeBase : CodeSet :=
  assigned.diff ((CodeSet.range 0xD800 0xDFFF).union
    ((categories ["Cc", "Cf", "Co", "Zl", "Zp"]).union graphemeExtend))

/-- A name without what loose matching ignores. The name `isc` keeps its first letters, which are
no prefix there. -/
def looseName (name : List Char) : String :=
  let (stripped, rest) := match name with
    | 'i' :: 's' :: r | 'I' :: 'S' :: r | 'i' :: 'S' :: r | 'I' :: 's' :: r => (true, r)
    | r => (false, r)
  let kept := (rest.filter fun c =>
    c.toNat < 0x80 && c != ' ' && c != '_' && c != '-').map Char.toLower
  if stripped && kept == ['c'] then "isc" else String.ofList kept

/-- The names of the general categories, each after its short name. -/
def categoryNames : List (String × List String) := [
  ("C", ["Other"]), ("Cc", ["Control", "cntrl"]), ("Cf", ["Format"]), ("Cn", ["Unassigned"]),
  ("Co", ["Private_Use"]), ("Cs", ["Surrogate"]), ("L", ["Letter"]), ("LC", ["Cased_Letter"]),
  ("Ll", ["Lowercase_Letter"]), ("Lm", ["Modifier_Letter"]), ("Lo", ["Other_Letter"]),
  ("Lt", ["Titlecase_Letter"]), ("Lu", ["Uppercase_Letter"]), ("M", ["Mark", "Combining_Mark"]),
  ("Mc", ["Spacing_Mark"]), ("Me", ["Enclosing_Mark"]), ("Mn", ["Nonspacing_Mark"]),
  ("N", ["Number"]), ("Nd", ["Decimal_Number", "digit"]), ("Nl", ["Letter_Number"]),
  ("No", ["Other_Number"]), ("P", ["Punctuation", "punct"]), ("Pc", ["Connector_Punctuation"]),
  ("Pd", ["Dash_Punctuation"]), ("Pe", ["Close_Punctuation"]), ("Pf", ["Final_Punctuation"]),
  ("Pi", ["Initial_Punctuation"]), ("Po", ["Other_Punctuation"]), ("Ps", ["Open_Punctuation"]),
  ("S", ["Symbol"]), ("Sc", ["Currency_Symbol"]), ("Sk", ["Modifier_Symbol"]),
  ("Sm", ["Math_Symbol"]), ("So", ["Other_Symbol"]), ("Z", ["Separator"]),
  ("Zl", ["Line_Separator"]), ("Zp", ["Paragraph_Separator"]), ("Zs", ["Space_Separator"])]

/-- Looks a loose name up in a table of short names with their other names. -/
def shortName? (table : List (String × List String)) (loose : String) : Option String :=
  (table.find? fun entry =>
    (entry.1 :: entry.2).any fun n => looseName n.toList == loose).map Prod.fst

/-- The code points of a general category or of one of its unions, by loose name. No character is
a surrogate, so they are no category to ask for. -/
def categorySet? (loose : String) : Option CodeSet :=
  if loose == "any" then some .all
  else if loose == "assigned" then some assigned
  else if loose == "ascii" then some (.range 0 0x7F)
  else match shortName? categoryNames loose with
    | none => none
    | some "Cs" => none
    | some "Cn" => some (assigned.complement lastCode)
    | some "C" => some ((categories ["Cc", "Cf", "Co"]).union (assigned.complement lastCode))
    | some "LC" => some (categories ["Lu", "Ll", "Lt"])
    | some short =>
      some (categories ((categoryRanges.map Prod.fst).filter fun n =>
        n == short || (short.length == 1 && n.take 1 == short)))

/-- The code points of a script, by loose name. -/
def scriptSet? (loose : String) : Option CodeSet :=
  (shortName? scriptNames loose).bind (tableSet? scriptRanges)

/-- The code points used with a script, by loose name. -/
def scriptExtensionSet? (loose : String) : Option CodeSet :=
  (shortName? scriptNames loose).bind fun short =>
    (tableSet? scriptExtensionRanges short).or (tableSet? scriptRanges short)

/-- The yes-or-no properties that are combined from others. -/
def derivedTrait? (name : String) : Option CodeSet :=
  match name with
  | "Alphabetic" => some alphabetic
  | "Lowercase" => some lowercase
  | "Uppercase" => some uppercase
  | "Cased" => some ((lowercase.union uppercase).union (category "Lt"))
  | "Case_Ignorable" =>
    some ((categories ["Mn", "Me", "Cf", "Lm", "Sk"]).union (trait "Other_Case_Ignorable"))
  | "Changes_When_Casemapped" =>
    some (((trait "Changes_When_Lowercased").union (trait "Changes_When_Uppercased")).union
      (trait "Changes_When_Titlecased"))
  | "Math" => some ((category "Sm").union (trait "Other_Math"))
  | "Grapheme_Extend" => some graphemeExtend
  | "Grapheme_Base" => some graphemeBase
  | "ID_Start" => some identifierStart
  | "ID_Continue" => some identifierContinue
  | "XID_Start" => some (identifierStart.diff (trait "Not_XID_Start"))
  | "XID_Continue" => some (identifierContinue.diff (trait "Not_XID_Continue"))
  | _ => none

/-- The yes-or-no properties with their other names. -/
def traitNames : List (String × List String) := [
  ("ASCII_Hex_Digit", ["AHex"]), ("Alphabetic", ["Alpha"]), ("Bidi_Control", ["Bidi_C"]),
  ("Bidi_Mirrored", ["Bidi_M"]), ("Case_Ignorable", ["CI"]), ("Cased", []),
  ("Changes_When_Casefolded", ["CWCF"]), ("Changes_When_Casemapped", ["CWCM"]),
  ("Changes_When_Lowercased", ["CWL"]), ("Changes_When_Titlecased", ["CWT"]),
  ("Changes_When_Uppercased", ["CWU"]), ("Dash", []), ("Default_Ignorable_Code_Point", ["DI"]),
  ("Deprecated", ["Dep"]), ("Diacritic", ["Dia"]), ("Emoji", []), ("Emoji_Component", ["EComp"]),
  ("Emoji_Modifier", ["EMod"]), ("Emoji_Modifier_Base", ["EBase"]),
  ("Emoji_Presentation", ["EPres"]), ("Extended_Pictographic", ["ExtPict"]),
  ("Extender", ["Ext"]), ("Grapheme_Base", ["Gr_Base"]), ("Grapheme_Extend", ["Gr_Ext"]),
  ("Grapheme_Link", ["Gr_Link"]), ("Hex_Digit", ["Hex"]), ("Hyphen", []),
  ("IDS_Binary_Operator", ["IDSB"]), ("IDS_Trinary_Operator", ["IDST"]),
  ("IDS_Unary_Operator", ["IDSU"]), ("ID_Compat_Math_Continue", []),
  ("ID_Compat_Math_Start", []), ("ID_Continue", ["IDC"]), ("ID_Start", ["IDS"]),
  ("Ideographic", ["Ideo"]), ("Join_Control", ["Join_C"]), ("Logical_Order_Exception", ["LOE"]),
  ("Lowercase", ["Lower"]), ("Math", []), ("Modifier_Combining_Mark", ["MCM"]),
  ("Noncharacter_Code_Point", ["NChar"]), ("Other_Alphabetic", ["OAlpha"]),
  ("Other_Default_Ignorable_Code_Point", ["ODI"]), ("Other_Grapheme_Extend", ["OGr_Ext"]),
  ("Other_ID_Continue", ["OIDC"]), ("Other_ID_Start", ["OIDS"]), ("Other_Lowercase", ["OLower"]),
  ("Other_Math", ["OMath"]), ("Other_Uppercase", ["OUpper"]), ("Pattern_Syntax", ["Pat_Syn"]),
  ("Pattern_White_Space", ["Pat_WS"]), ("Prepended_Concatenation_Mark", ["PCM"]),
  ("Quotation_Mark", ["QMark"]), ("Radical", []), ("Regional_Indicator", ["RI"]),
  ("Sentence_Terminal", ["STerm"]), ("Soft_Dotted", ["SD"]), ("Terminal_Punctuation", ["Term"]),
  ("Unified_Ideograph", ["UIdeo"]), ("Uppercase", ["Upper"]), ("Variation_Selector", ["VS"]),
  ("White_Space", ["WSpace", "space"]), ("XID_Continue", ["XIDC"]), ("XID_Start", ["XIDS"])]

/-- The code points with a yes-or-no property, by loose name. -/
def traitSet? (loose : String) : Option CodeSet :=
  (shortName? traitNames loose).bind fun name =>
    (derivedTrait? name).or (tableSet? traitRanges name)

/-- The code points first assigned in an edition or an earlier one, as in `6.0` or `V6_0`. -/
def ageSet? (loose : String) : Option CodeSet :=
  let editions := ageRanges.map Prod.fst
  match editions.findIdx? fun e =>
    e == loose || "v" ++ String.ofList (e.toList.filter (· != '.')) == loose with
  | none => none
  | some i =>
    some (.ofRanges ((ageRanges.take (i + 1)).flatMap fun entry =>
      (CodeSet.ofText entry.2).ranges.toList))

/-- Hangul syllables that end in a vowel: every 28th of the block. -/
def openSyllables : CodeSet :=
  .ofRanges ((List.range 399).map fun k => (0xAC00 + 28 * k, 0xAC00 + 28 * k))

def graphemeBreakNames : List (String × List String) := [
  ("CN", ["Control"]), ("CR", []), ("EX", ["Extend"]), ("L", []), ("LF", []), ("LV", []),
  ("LVT", []), ("PP", ["Prepend"]), ("RI", ["Regional_Indicator"]), ("SM", ["SpacingMark"]),
  ("T", []), ("V", []), ("ZWJ", [])]

def graphemeBreakSet? (loose : String) : Option CodeSet :=
  (shortName? graphemeBreakNames loose).bind fun short =>
    match short with
    | "EX" => some (graphemeExtend.union (trait "Emoji_Modifier"))
    | "LV" => some openSyllables
    | "LVT" => some ((CodeSet.range 0xAC00 0xD7A3).diff openSyllables)
    | _ => tableSet? graphemeBreakRanges short

def wordBreakNames : List (String × List String) := [
  ("CR", []), ("DQ", ["Double_Quote"]), ("EX", ["ExtendNumLet"]), ("Extend", []),
  ("FO", ["Format"]), ("HL", ["Hebrew_Letter"]), ("KA", ["Katakana"]), ("LE", ["ALetter"]),
  ("LF", []), ("MB", ["MidNumLet"]), ("ML", ["MidLetter"]), ("MN", ["MidNum"]),
  ("NL", ["Newline"]), ("NU", ["Numeric"]), ("RI", ["Regional_Indicator"]),
  ("SQ", ["Single_Quote"]), ("WSegSpace", []), ("ZWJ", [])]

def wordBreakSet? (loose : String) : Option CodeSet :=
  (shortName? wordBreakNames loose).bind (tableSet? wordBreakRanges)

def sentenceBreakNames : List (String × List String) := [
  ("AT", ["ATerm"]), ("CL", ["Close"]), ("CR", []), ("EX", ["Extend"]), ("FO", ["Format"]),
  ("LE", ["OLetter"]), ("LF", []), ("LO", ["Lower"]), ("NU", ["Numeric"]),
  ("SC", ["SContinue"]), ("SE", ["Sep"]), ("SP", ["Sp"]), ("ST", ["STerm"]), ("UP", ["Upper"])]

def sentenceBreakSet? (loose : String) : Option CodeSet :=
  (shortName? sentenceBreakNames loose).bind (tableSet? sentenceBreakRanges)

/-- The set named by a single word: a yes-or-no property, a category or a script, in this order.
Three short names that are also names of other properties mean the category. -/
def namedSet? (name : List Char) : Option CodeSet :=
  let loose := looseName name
  let asTrait :=
    if loose == "cf" || loose == "sc" || loose == "lc" then none else traitSet? loose
  (asTrait.or (categorySet? loose)).or (scriptSet? loose)

/-- The set of the code points whose property `name` has the given value. -/
def valueSet? (name value : List Char) : Option CodeSet :=
  let loose := looseName value
  match looseName name with
  | "gc" | "generalcategory" => categorySet? loose
  | "sc" | "script" => scriptSet? loose
  | "scx" | "scriptextensions" => scriptExtensionSet? loose
  | "age" => ageSet? loose
  | "gcb" | "graphemeclusterbreak" => graphemeBreakSet? loose
  | "wb" | "wordbreak" => wordBreakSet? loose
  | "sb" | "sentencebreak" => sentenceBreakSet? loose
  | _ => none

end ImportSurvey.Unicode
