import Uplift.Regex.Breaks
import Uplift.Text.Age
/-! # Named properties of characters

The properties that a class may name: the general category, the properties with two values, scripts,
ages, and how a character breaks. Names are compared without letter case, blanks, underscores and
dashes, and without a leading `is`.

* `Property.parse?` reads what stands between the braces.
-/

namespace Uplift.Regex.Property

open Text

/-- A name in one spelling. -/
def key (name : List Char) : String :=
  let (leading, rest) := match name with
    | 'i' :: 's' :: rest | 'i' :: 'S' :: rest | 'I' :: 's' :: rest | 'I' :: 'S' :: rest =>
      (true, rest)
    | name => (false, name)
  let cs := (rest.filter fun c => c.toNat < 128 && c ≠ ' ' && c ≠ '_' && c ≠ '-').map Char.toLower
  -- With `is` before it, the short name of a category is the name of a property without characters.
  if leading && cs = ['c'] then "isc" else String.ofList cs

/-- The long name of a category, in one spelling. -/
def longName : Category → String
  | .uppercaseLetter => "uppercaseletter"
  | .lowercaseLetter => "lowercaseletter"
  | .titlecaseLetter => "titlecaseletter"
  | .modifierLetter => "modifierletter"
  | .otherLetter => "otherletter"
  | .nonspacingMark => "nonspacingmark"
  | .spacingMark => "spacingmark"
  | .enclosingMark => "enclosingmark"
  | .decimalNumber => "decimalnumber"
  | .letterNumber => "letternumber"
  | .otherNumber => "othernumber"
  | .connectorPunctuation => "connectorpunctuation"
  | .dashPunctuation => "dashpunctuation"
  | .openPunctuation => "openpunctuation"
  | .closePunctuation => "closepunctuation"
  | .initialPunctuation => "initialpunctuation"
  | .finalPunctuation => "finalpunctuation"
  | .otherPunctuation => "otherpunctuation"
  | .mathSymbol => "mathsymbol"
  | .currencySymbol => "currencysymbol"
  | .modifierSymbol => "modifiersymbol"
  | .otherSymbol => "othersymbol"
  | .spaceSeparator => "spaceseparator"
  | .lineSeparator => "lineseparator"
  | .paragraphSeparator => "paragraphseparator"
  | .control => "control"
  | .format => "format"
  | .privateUse => "privateuse"

/-- The categories whose short name begins with a letter. -/
def family (initial : Char) : List Category :=
  Category.all.filter fun k => k.shortName.toList.head? = some initial

/-- Characters without a category. -/
def unassigned : Class := .complement .assigned

/-- Letters with cases. -/
def cased : Class := .categories [.uppercaseLetter, .lowercaseLetter, .titlecaseLetter]

/-- The general category, or the union of several, with a name. -/
def category? (name : String) : Option Class :=
  let single := Category.all.find? fun k =>
    longName k = name || k.shortName.toList.map Char.toLower = name.toList
  match single with
  | some k => some (.categories [k])
  | none =>
    match name with
    | "l" | "letter" => some (.categories (family 'L'))
    | "lc" | "casedletter" => some cased
    | "m" | "mark" | "combiningmark" => some (.categories (family 'M'))
    | "n" | "number" => some (.categories (family 'N'))
    | "p" | "punctuation" | "punct" => some (.categories (family 'P'))
    | "s" | "symbol" => some (.categories (family 'S'))
    | "z" | "separator" => some (.categories (family 'Z'))
    | "c" | "other" => some (.union (.categories (family 'C')) unassigned)
    | "cn" | "unassigned" => some unassigned
    | "cntrl" => some (.categories [.control])
    | "digit" => some .digit
    | "any" => some .anything
    | "assigned" => some .assigned
    | "ascii" => some (.ranges [(0, 0x7F)])
    | _ => none

/-- The characters of a script. -/
def script? (name : String) : Option Class := (Script.find? name).map fun s => .ranges s.ranges

/-- The characters that a script uses: its own, as far as they stand for it
alone, and shared ones. -/
def scriptUse? (name : String) : Option Class :=
  (Script.find? name).map fun s =>
    .union (.diff (.ranges s.ranges) (.ranges (Script.shared.map fun (a, b, _) => (a, b))))
      (.ranges s.usedShared)

/-- The name of a version, written with a letter instead of the dot. -/
def versionKey (version : String) : String :=
  String.ofList ('v' :: version.toList.filter Char.isDigit)

/-- The characters that were there in a version. -/
def age? (name : String) : Option Class :=
  (Age.added.findIdx? fun (version, _) => version = name || versionKey version = name).map fun i =>
    .any ((Age.added.take (i + 1)).map fun (_, rs) => .ranges rs)

/-- The characters for which a property has a value. -/
def valued? (name value : String) : Option Class :=
  match name with
  | "gc" | "generalcategory" => category? value
  | "sc" | "script" => script? value
  | "scx" | "scriptextensions" => scriptUse? value
  | "age" => age? value
  | "gcb" | "graphemeclusterbreak" => Breaks.graphemes.find? value
  | "wb" | "wordbreak" => Breaks.words.find? value
  | "sb" | "sentencebreak" => Breaks.sentences.find? value
  | _ => none

/-- The characters that a name alone stands for. -/
def named? (name : String) : Option Class :=
  ((Binary.all.find? name).or (category? name)).or (script? name)

/-- A text around the first place where another one begins in it. -/
def cut? (mark : List Char) : List Char → Option (List Char × List Char)
  | [] => none
  | c :: rest =>
    match strip? mark (c :: rest) with
    | some back => some ([], back)
    | none => (cut? mark rest).map fun (front, back) => (c :: front, back)

/-- The property that stands between the braces, perhaps with a value, and whether the characters
are meant that do not have it. -/
def parse? (text : List Char) : Option (Bool × Class) :=
  let valued (negated : Bool) : List Char × List Char → Option (Bool × Class)
    | (name, value) => (valued? (key name) (key value)).map fun k => (negated, k)
  match cut? ['!', '='] text with
  | some parts => valued true parts
  | none =>
    match (cut? [':'] text).or (cut? ['='] text) with
    | some parts => valued false parts
    | none => (named? (key text)).map fun k => (false, k)

end Uplift.Regex.Property
