import Reshape.Text.Age
import Reshape.Text.Break
import Reshape.Text.Category
import Reshape.Text.Script
import Reshape.Text.Trait

namespace Reshape.Text

def alphabetic : CharSet :=
  .unionAll [ofKind "L", ofCategories ["Nl"], ofTrait "Other_Alphabetic"]

def lowercase : CharSet := (ofCategories ["Ll"]).union (ofTrait "Other_Lowercase")

def uppercase : CharSet := (ofCategories ["Lu"]).union (ofTrait "Other_Uppercase")

def cased : CharSet := .unionAll [lowercase, uppercase, ofCategories ["Lt"]]

def caseIgnorable : CharSet :=
  (ofCategories ["Mn", "Me", "Cf", "Lm", "Sk"]).union
    (wordBreaks.unionOf ["MidLetter", "MidNumLet", "Single_Quote"].contains)

def changesWithCase : CharSet :=
  .unionAll [ofTrait "Changes_When_Lowercased", ofTrait "Changes_When_Titlecased",
    ofTrait "Changes_When_Uppercased"]

def mathematical : CharSet := (ofCategories ["Sm"]).union (ofTrait "Other_Math")

/-- Characters that are not shown where they are not known. Format characters are among
them, save those that annotate, that join hieroglyphs or that stand before numbers. -/
def ignorable : CharSet :=
  let candidates : CharSet :=
    .unionAll [ofTrait "Other_Default_Ignorable_Code_Point", ofCategories ["Cf"],
      ofTrait "Variation_Selector"]
  candidates.difference (.unionAll [ofTrait "White_Space", .range '\ufff9' '\ufffb',
    .range '𓐰' '𓑀', ofTrait "Prepended_Concatenation_Mark"])

def graphemeExtenders : CharSet :=
  (ofCategories ["Mn", "Me"]).union (ofTrait "Other_Grapheme_Extend")

def graphemeBases : CharSet :=
  assigned.difference
    ((ofCategories ["Cc", "Cf", "Co", "Zl", "Zp"]).union graphemeExtenders)

def patternMarks : CharSet := (ofTrait "Pattern_Syntax").union (ofTrait "Pattern_White_Space")

def nameStarts : CharSet :=
  (CharSet.unionAll [ofKind "L", ofCategories ["Nl"], ofTrait "Other_ID_Start"]).difference
    patternMarks

def nameParts : CharSet :=
  (CharSet.unionAll [nameStarts, ofCategories ["Mn", "Mc", "Nd", "Pc"],
    ofTrait "Other_ID_Continue"]).difference patternMarks

def unstableStarts : CharSet := .ofText
  "890 2744 127 8679+2 52161+6 406+2 116 1 1 1 1 1 1 1 287+2"

def unstableParts : CharSet := .ofText
  "890 11552+2 52161+6 406+2 116 1 1 1 1 1 1 1"

def digits : CharSet := ofCategories ["Nd"]

def blanks : CharSet := ofTrait "White_Space"

def asciiBlanks : CharSet := .union (.range '\t' '\r') (.single ' ')

def asciiWords : CharSet :=
  .unionAll [.range 'a' 'z', .range 'A' 'Z', .range '0' '9', .single '_']

/-- Characters of words: letters, marks, decimal digits, connectors such as `_`, and the
two joiners. -/
def wordCharacters : CharSet :=
  .unionAll [alphabetic, ofKind "M", ofCategories ["Nd", "Pc"], ofTrait "Join_Control"]

def derivedSet? : (name : String) → Option CharSet
  | "alphabetic" | "alpha" => some alphabetic
  | "lowercase" | "lower" => some lowercase
  | "uppercase" | "upper" => some uppercase
  | "cased" => some cased
  | "caseignorable" | "ci" => some caseIgnorable
  | "changeswhencasemapped" | "cwcm" => some changesWithCase
  | "math" => some mathematical
  | "defaultignorablecodepoint" | "di" => some ignorable
  | "graphemeextend" | "grext" => some graphemeExtenders
  | "graphemebase" | "grbase" => some graphemeBases
  | "idstart" | "ids" => some nameStarts
  | "idcontinue" | "idc" => some nameParts
  | "xidstart" | "xids" => some (nameStarts.difference unstableStarts)
  | "xidcontinue" | "xidc" => some (nameParts.difference unstableParts)
  | _ => none

/-- The characters of a property, a general category or a script. Two categories and a group
of them have the codes of properties that no set belongs to. -/
def propertySet? (name : String) : Option CharSet :=
  let name := comparedName name
  let property :=
    if ["cf", "sc", "lc"].contains name then none else (derivedSet? name).or (traits.set? name)
  property.or ((categorySet? name).or (scriptSet? name))

def propertyValueSet? (property value : String) : Option CharSet :=
  let value := comparedName value
  match comparedName property with
  | "generalcategory" | "gc" => categorySet? value
  | "script" | "sc" => scriptSet? value
  | "scriptextensions" | "scx" => scriptUseSet? value
  | "age" => ageSet? value
  | "graphemeclusterbreak" | "gcb" => graphemeBreaks.set? value
  | "wordbreak" | "wb" => wordBreaks.set? value
  | "sentencebreak" | "sb" => sentenceBreaks.set? value
  | _ => none

def youngLetters : CharSet := .ofText
  "2191 972 127 39665+2 2 1 28 24910+26 1387+3 50+2 3172+8 584+44 20676+25 2+25 286+5 6145+8
  1289+22 97+115 22733+31 1+22 8+2 53306+6 5986+12 21762+4298"

def youngDigits : CharSet := .ofText
  "73184+10"

def isLetter (character : Char) : Bool :=
  alphabetic.contains character || youngLetters.contains character

def isNumeral (character : Char) : Bool :=
  (ofKind "N").contains character || youngDigits.contains character

end Reshape.Text
