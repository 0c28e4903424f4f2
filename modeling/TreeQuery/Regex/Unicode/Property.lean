import TreeQuery.Regex.Fault
import TreeQuery.Regex.Unicode.Age
import TreeQuery.Regex.Unicode.BinaryProperty
import TreeQuery.Regex.Unicode.Script
import TreeQuery.Text

/-!
# Properties by name

Properties and their values may be spelled loosely: case, spaces, hyphens, underscores and a leading
`is` do not matter. A name alone stands for a binary property, a general category or a script, in
this order; a name with a value selects the characters for which the property has the value.
-/

namespace TreeQuery.Regex.Unicode

/-- The names of all properties with the ways to spell them, the short name first. -/
def propertySpellings : String :=
  (" ".intercalate [
    "age Age | AHex ASCII_Hex_Digit | Alpha Alphabetic | bc Bidi_Class | Bidi_C Bidi_Control |",
    "Bidi_M Bidi_Mirrored | blk Block | bmg Bidi_Mirroring_Glyph | bpb Bidi_Paired_Bracket | bpt",
    "Bidi_Paired_Bracket_Type | Cased | ccc Canonical_Combining_Class | CE Composition_Exclusion",
    "| cf Case_Folding | CI Case_Ignorable | cjkAccountingNumeric kAccountingNumeric |",
    "cjkCompatibilityVariant kCompatibilityVariant | cjkIICore kIICore | cjkIRG_GSource",
    "kIRG_GSource | cjkIRG_HSource kIRG_HSource | cjkIRG_JSource kIRG_JSource | cjkIRG_KPSource",
    "kIRG_KPSource | cjkIRG_KSource kIRG_KSource | cjkIRG_MSource kIRG_MSource | cjkIRG_SSource",
    "kIRG_SSource | cjkIRG_TSource kIRG_TSource | cjkIRG_UKSource kIRG_UKSource | cjkIRG_USource",
    "kIRG_USource | cjkIRG_VSource kIRG_VSource | cjkMandarin kMandarin | cjkOtherNumeric",
    "kOtherNumeric | cjkPrimaryNumeric kPrimaryNumeric | cjkRSUnicode kRSUnicode",
    "Unicode_Radical_Stroke URS | cjkTotalStrokes kTotalStrokes | cjkUnihanCore2020",
    "kUnihanCore2020 | Comp_Ex Full_Composition_Exclusion | CWCF Changes_When_Casefolded | CWCM",
    "Changes_When_Casemapped | CWKCF Changes_When_NFKC_Casefolded | CWL Changes_When_Lowercased",
    "| CWT Changes_When_Titlecased | CWU Changes_When_Uppercased | Dash | Dep Deprecated | DI",
    "Default_Ignorable_Code_Point | Dia Diacritic | dm Decomposition_Mapping | dt",
    "Decomposition_Type | ea East_Asian_Width | EBase Emoji_Modifier_Base | EComp",
    "Emoji_Component | EMod Emoji_Modifier | Emoji | EPres Emoji_Presentation | EqUIdeo",
    "Equivalent_Unified_Ideograph | Ext Extender | ExtPict Extended_Pictographic | FC_NFKC",
    "FC_NFKC_Closure | gc General_Category | GCB Grapheme_Cluster_Break | Gr_Base Grapheme_Base",
    "| Gr_Ext Grapheme_Extend | Gr_Link Grapheme_Link | Hex Hex_Digit | hst Hangul_Syllable_Type",
    "| Hyphen | ID_Compat_Math_Continue | ID_Compat_Math_Start | IDC ID_Continue | Ideo",
    "Ideographic | IDS ID_Start | IDSB IDS_Binary_Operator | IDST IDS_Trinary_Operator | IDSU",
    "IDS_Unary_Operator | InCB Indic_Conjunct_Break | InPC Indic_Positional_Category | InSC",
    "Indic_Syllabic_Category | isc ISO_Comment | jg Joining_Group | Join_C Join_Control | JSN",
    "Jamo_Short_Name | jt Joining_Type | kEH_Cat | kEH_Desc | kEH_HG | kEH_IFAO | kEH_JSesh |",
    "kEH_NoMirror | kEH_NoRotate | lb Line_Break | lc Lowercase_Mapping | LOE",
    "Logical_Order_Exception | Lower Lowercase | Math | MCM Modifier_Combining_Mark | na Name |",
    "na1 Unicode_1_Name | Name_Alias | NChar Noncharacter_Code_Point | NFC_QC NFC_Quick_Check |",
    "NFD_QC NFD_Quick_Check | NFKC_CF NFKC_Casefold | NFKC_QC NFKC_Quick_Check | NFKC_SCF",
    "NFKC_Simple_Casefold | NFKD_QC NFKD_Quick_Check | nt Numeric_Type | nv Numeric_Value |",
    "OAlpha Other_Alphabetic | ODI Other_Default_Ignorable_Code_Point | OGr_Ext",
    "Other_Grapheme_Extend | OIDC Other_ID_Continue | OIDS Other_ID_Start | OLower",
    "Other_Lowercase | OMath Other_Math | OUpper Other_Uppercase | Pat_Syn Pattern_Syntax |",
    "Pat_WS Pattern_White_Space | PCM Prepended_Concatenation_Mark | QMark Quotation_Mark |",
    "Radical | RI Regional_Indicator | SB Sentence_Break | sc Script | scf Simple_Case_Folding",
    "Sfc | scx Script_Extensions | SD Soft_Dotted | slc Simple_Lowercase_Mapping | space WSpace",
    "White_Space | stc Simple_Titlecase_Mapping | STerm Sentence_Terminal | suc",
    "Simple_Uppercase_Mapping | tc Titlecase_Mapping | Term Terminal_Punctuation | uc",
    "Uppercase_Mapping | UIdeo Unified_Ideograph | Upper Uppercase | vo Vertical_Orientation |",
    "VS Variation_Selector | WB Word_Break | XIDC XID_Continue | XIDS XID_Start | XO_NFC",
    "Expands_On_NFC | XO_NFD Expands_On_NFD | XO_NFKC Expands_On_NFKC | XO_NFKD Expands_On_NFKD"])

/-- A spelling without all that does not matter in it. A lone `c` after `is` is the short name of a
property of its own. -/
def looseName (name : Text) : Text :=
  let plain (t : Text) := (t.filter fun c => c.toNat < 128 && c ∉ [' ', '_', '-']).map
    Char.toLower
  match name with
  | i :: s :: rest =>
    if i.toLower = 'i' ∧ s.toLower = 's' then
      if plain rest = ['c'] then ['i', 's', 'c'] else plain rest
    else plain name
  | _ => plain name

/-- The first name of the group in which a loosely spelled name occurs. Groups are separated by
bars. -/
def lookUp? (spellings : String) (name : Text) : Option String :=
  ((spellings.splitOn " | ").map (·.splitOn " ")).findSome? fun group =>
    if group.any fun spelling => looseName spelling.toList = name then group.head? else none

/-- The characters of a category or of all characters, all assigned ones or all ASCII ones. -/
def categoryClass? (name : Text) : Option (Char → Bool) :=
  if name = "any".toList then some fun _ => true
  else if name = "assigned".toList then some fun c => category c ≠ "Cn"
  else if name = "ascii".toList then some fun c => c.toNat < 128
  else (lookUp? categorySpellings name).map fun code => hasCategory (categoryMembers code)

/-- The characters of a script; the two values that no character has are refused. -/
def scriptClass (code : String) (scripts : Char → List String) : Except Fault (Char → Bool) :=
  if code = "Zzzz" ∨ code = "Hrkt" then .error .propertyValueNotFound
  else .ok fun c => (scripts c).contains code

/-- The characters that a name alone stands for. -/
def classNamed (name : Text) : Except Fault (Char → Bool) :=
  let name := looseName name
  let property? :=
    if ["cf", "sc", "lc"].any (·.toList = name) then none else lookUp? propertySpellings name
  match property? with
  | some property =>
    match binaryProperties.lookup property with
    | some accepts => .ok accepts
    | none => .error .propertyNotFound
  | none =>
    match categoryClass? name, lookUp? scriptSpellings name with
    | some accepts, _ => .ok accepts
    | none, some code => scriptClass code fun c => [script c]
    | none, none => .error .propertyNotFound

/-- The characters whose value in a table has one of the given spellings. -/
def classOfRuns (runs : Runs) (spellings : String) (value : Text) : Except Fault (Char → Bool) :=
  match lookUp? spellings value with
  | some short => .ok fun c => runs.value c = short
  | none => .error .propertyValueNotFound

/-- The characters for which a property has a value. -/
def classValued (name value : Text) : Except Fault (Char → Bool) :=
  let value := looseName value
  match lookUp? propertySpellings (looseName name) with
  | none => .error .propertyNotFound
  | some "gc" => (categoryClass? value).elim (.error .propertyValueNotFound) .ok
  | some "sc" =>
    (lookUp? scriptSpellings value).elim (.error .propertyValueNotFound)
      fun code => scriptClass code fun c => [script c]
  | some "scx" =>
    (lookUp? scriptSpellings value).elim (.error .propertyValueNotFound)
      fun code => scriptClass code scriptExtensions
  | some "age" =>
    let spelled (version : String) :=
      value = version.toList ∨ value = 'v' :: version.toList.filter (· ≠ '.')
    match versions.find? fun version => decide (spelled version) with
    | some version => .ok (assignedBy version)
    | none => .error .propertyValueNotFound
  | some "GCB" => classOfRuns graphemeBreakRuns graphemeBreakSpellings value
  | some "WB" => classOfRuns wordBreakRuns wordBreakSpellings value
  | some "SB" => classOfRuns sentenceBreakRuns sentenceBreakSpellings value
  | some _ => .error .propertyValueNotFound

end TreeQuery.Regex.Unicode
