import LivePreview.Unicode.Age
import LivePreview.Unicode.Boundary
import LivePreview.Unicode.Fold

/-!
# Properties by name

`namedSet` and `valuedSet` give the code points that a property stands for, where it is written as
one word or as a property with a value. Names are compared without their case, without blanks,
underscores and dashes, and without an `is` in front.
-/

namespace LivePreview.Unicode

/-- What is wrong with the name of a property. -/
inductive PropertyFault where
  | unknown
  | unknownValue
  deriving DecidableEq, Repr, Inhabited

/-- A name as it is compared. A lone `c` behind `is` is the short name of another property. -/
def looseName (name : String) : String :=
  let cs := name.toList.map Char.toLower
  let (isPrefixed, rest) := match cs with
    | 'i' :: 's' :: rest => (true, rest)
    | _ => (false, cs)
  let kept := rest.filter fun c => c.toNat < 128 && c != ' ' && c != '_' && c != '-'
  if isPrefixed && kept = ['c'] then "isc" else String.ofList kept

/-- The short names of binary properties, with the long ones. -/
def binaryAliases : List (String × String) :=
  [("ahex", "asciihexdigit"), ("alpha", "alphabetic"), ("bidic", "bidicontrol"),
   ("ci", "caseignorable"), ("cwcf", "changeswhencasefolded"), ("cwcm", "changeswhencasemapped"),
   ("cwl", "changeswhenlowercased"), ("cwt", "changeswhentitlecased"),
   ("cwu", "changeswhenuppercased"), ("dep", "deprecated"),
   ("di", "defaultignorablecodepoint"), ("dia", "diacritic"), ("ebase", "emojimodifierbase"),
   ("ecomp", "emojicomponent"), ("emod", "emojimodifier"), ("epres", "emojipresentation"),
   ("ext", "extender"), ("extpict", "extendedpictographic"), ("grbase", "graphemebase"),
   ("grext", "graphemeextend"), ("grlink", "graphemelink"), ("hex", "hexdigit"),
   ("idc", "idcontinue"), ("ideo", "ideographic"), ("ids", "idstart"),
   ("idsb", "idsbinaryoperator"), ("idst", "idstrinaryoperator"), ("idsu", "idsunaryoperator"),
   ("joinc", "joincontrol"), ("loe", "logicalorderexception"), ("lower", "lowercase"),
   ("mcm", "modifiercombiningmark"), ("nchar", "noncharactercodepoint"),
   ("oalpha", "otheralphabetic"), ("odi", "otherdefaultignorablecodepoint"),
   ("ogrext", "othergraphemeextend"), ("oidc", "otheridcontinue"), ("oids", "otheridstart"),
   ("olower", "otherlowercase"), ("omath", "othermath"), ("oupper", "otheruppercase"),
   ("patsyn", "patternsyntax"), ("patws", "patternwhitespace"),
   ("pcm", "prependedconcatenationmark"), ("qmark", "quotationmark"),
   ("ri", "regionalindicator"), ("sd", "softdotted"), ("space", "whitespace"),
   ("sterm", "sentenceterminal"), ("term", "terminalpunctuation"),
   ("uideo", "unifiedideograph"), ("upper", "uppercase"), ("vs", "variationselector"),
   ("wspace", "whitespace"), ("xidc", "xidcontinue"), ("xids", "xidstart")]

/-- The names of properties that have values. -/
def valuedNames : List (String × String) :=
  [("age", "age"), ("gc", "generalcategory"), ("gcb", "graphemeclusterbreak"), ("sc", "script"),
   ("scx", "scriptextensions"), ("sb", "sentencebreak"), ("wb", "wordbreak")]

/-- The names of properties that the standard has and that no set is known for. -/
def otherNames : List String :=
  ["bc", "bidiclass", "bidim", "bidimirrored", "bidimirroringglyph", "bidipairedbracket",
   "bidipairedbrackettype", "blk", "block", "bmg", "bpb", "bpt", "canonicalcombiningclass",
   "casefolding", "ccc", "ce", "cf", "changeswhennfkccasefolded", "cjkaccountingnumeric",
   "cjkcompatibilityvariant", "cjkiicore", "cjkirggsource", "cjkirghsource", "cjkirgjsource",
   "cjkirgkpsource", "cjkirgksource", "cjkirgmsource", "cjkirgssource", "cjkirgtsource",
   "cjkirguksource", "cjkirgusource", "cjkirgvsource", "cjkothernumeric", "cjkprimarynumeric",
   "cjkrsunicode", "compex", "compositionexclusion", "cwkcf", "decompositionmapping",
   "decompositiontype", "dm", "dt", "ea", "eastasianwidth", "equideo",
   "equivalentunifiedideograph", "expandsonnfc", "expandsonnfd", "expandsonnfkc",
   "expandsonnfkd", "fcnfkc", "fcnfkcclosure", "fullcompositionexclusion",
   "hangulsyllabletype", "hst", "incb", "indicconjunctbreak", "indicpositionalcategory",
   "indicsyllabiccategory", "inpc", "insc", "isc", "isocomment", "jamoshortname", "jg",
   "joininggroup", "joiningtype", "jsn", "jt", "kaccountingnumeric", "kcompatibilityvariant",
   "kehcat", "kehdesc", "kehhg", "kehifao", "kehjsesh", "kehnomirror", "kehnorotate", "kiicore",
   "kirggsource", "kirghsource", "kirgjsource", "kirgkpsource", "kirgksource", "kirgmsource",
   "kirgssource", "kirgtsource", "kirguksource", "kirgusource", "kirgvsource", "kothernumeric",
   "kprimarynumeric", "krsunicode", "lb", "lc", "linebreak", "lowercasemapping", "na", "na1",
   "name", "namealias", "nfcqc", "nfcquickcheck", "nfdqc", "nfdquickcheck", "nfkccasefold",
   "nfkccf", "nfkcqc", "nfkcquickcheck", "nfkcscf", "nfkcsimplecasefold", "nfkdqc",
   "nfkdquickcheck", "nt", "numerictype", "numericvalue", "nv", "scf", "sfc",
   "simplecasefolding", "simplelowercasemapping", "simpletitlecasemapping",
   "simpleuppercasemapping", "slc", "stc", "suc", "tc", "titlecasemapping", "uc",
   "unicode1name", "unicoderadicalstroke", "uppercasemapping", "urs", "verticalorientation",
   "vo", "xonfc", "xonfd", "xonfkc", "xonfkd"]

/-- The set of a binary property, by its short or long name. -/
def binaryNamed? (name : String) : Option CodeSet :=
  binary? ((binaryAliases.lookup name).getD name)

/-- The long name of a property that has values. -/
def valuedName? (name : String) : Option String :=
  (valuedNames.find? fun p => p.1 == name || p.2 == name).map (·.2)

/-- The name is that of a property which is not binary. -/
def isOtherProperty (name : String) : Bool :=
  (valuedName? name).isSome || otherNames.contains name

/-- A general category or script, by its name. Of surrogates and unknown scripts there is none. -/
def categoryOrScript (name : String) : Except PropertyFault CodeSet :=
  match category? name <|> script? name with
  | some s => .ok s
  | none =>
    if ["cs", "surrogate", "hrkt", "katakanaorhiragana", "unknown", "zzzz"].contains name
    then .error .unknownValue else .error .unknown

/-- The set that a property written as one word stands for. -/
def namedSet (name : String) : Except PropertyFault CodeSet :=
  let name := looseName name
  if ["cf", "sc", "lc"].contains name then categoryOrScript name
  else match binaryNamed? name with
    | some s => .ok s
    | none => if isOtherProperty name then .error .unknown else categoryOrScript name

/-- The set that a property with a value stands for. -/
def valuedSet (name value : String) : Except PropertyFault CodeSet :=
  let name := looseName name
  let value := looseName value
  let found? := match valuedName? name with
    | some "generalcategory" => category? value
    | some "script" => script? value
    | some "scriptextensions" => scriptExtension? value
    | some "age" => age? value
    | some "graphemeclusterbreak" => graphemeBreak? value
    | some "wordbreak" => wordBreak? value
    | some "sentencebreak" => sentenceBreak? value
    | _ => none
  match found? with
  | some s => .ok s
  | none =>
    if (binaryNamed? name).isSome || isOtherProperty name then .error .unknownValue
    else .error .unknown

end LivePreview.Unicode
