import SchemaForge.Pattern.CharSet
import SchemaForge.Text.Script

/-!
# Sets of characters by the names of their properties

## Main definitions

* `CharSet.named?` : the characters with the property, of the category or in the script of a
  name.
* `CharSet.valued?` : the same where the name says what kind of name the value is.
-/

namespace SchemaForge.CharSet

open Text (Category Property)

/-- A name as names are compared: without case, blanks, hyphens, underscores and a leading
`is`. -/
def normalName (name : String) : String :=
  let cs := name.toList.map Char.toLower
  let hasMark := ['i', 's'].isPrefixOf cs
  let cs := if hasMark then cs.drop 2 else cs
  let cs := cs.filter fun c => c.toNat < 0x80 && !([' ', '_', '-'].contains c)
  if hasMark && cs == ['c'] then "isc" else String.ofList cs

/-- The names of properties. -/
def propertyNames : List (List String × Property) := [
  (["alphabetic", "alpha"], .alphabetic), (["lowercase", "lower"], .lowercase),
  (["uppercase", "upper"], .uppercase), (["math"], .math), (["cased"], .cased),
  (["caseignorable", "ci"], .caseIgnorable), (["whitespace", "wspace", "space"], .whiteSpace),
  (["idstart", "ids"], .idStart), (["idcontinue", "idc"], .idContinue),
  (["xidstart", "xids"], .xidStart), (["xidcontinue", "xidc"], .xidContinue),
  (["hexdigit", "hex"], .hexDigit), (["asciihexdigit", "ahex"], .asciiHexDigit),
  (["dash"], .dash), (["quotationmark", "qmark"], .quotationMark),
  (["ideographic", "ideo"], .ideographic), (["joincontrol", "joinc"], .joinControl),
  (["defaultignorablecodepoint", "di"], .defaultIgnorable),
  (["graphemeextend", "grext"], .extending), (["regionalindicator", "ri"], .regionalIndicator),
  (["variationselector", "vs"], .variationSelector),
  (["noncharactercodepoint", "nchar"], .noncharacter), (["emoji"], .emoji),
  (["emojipresentation", "epres"], .emojiPresentation),
  (["extendedpictographic", "extpict"], .extendedPictographic)]

/-- The names of general categories and of groups of them. -/
def categoryNames : List (List String × List Category) := [
  (["c", "other"], Category.startingWith 'c'), (["l", "letter"], Category.startingWith 'l'),
  (["m", "mark", "combiningmark"], Category.startingWith 'm'),
  (["n", "number"], Category.startingWith 'n'),
  (["p", "punctuation", "punct"], Category.startingWith 'p'),
  (["s", "symbol"], Category.startingWith 's'),
  (["z", "separator"], Category.startingWith 'z'), (["lc", "casedletter"], [.lu, .ll, .lt]),
  (["cc", "control", "cntrl"], [.cc]), (["cf", "format"], [.cf]), (["cn", "unassigned"], [.cn]),
  (["co", "privateuse"], [.co]), (["ll", "lowercaseletter"], [.ll]),
  (["lm", "modifierletter"], [.lm]), (["lo", "otherletter"], [.lo]),
  (["lt", "titlecaseletter"], [.lt]), (["lu", "uppercaseletter"], [.lu]),
  (["mc", "spacingmark"], [.mc]), (["me", "enclosingmark"], [.me]),
  (["mn", "nonspacingmark"], [.mn]), (["nd", "decimalnumber", "digit"], [.nd]),
  (["nl", "letternumber"], [.nl]), (["no", "othernumber"], [.no]),
  (["pc", "connectorpunctuation"], [.pc]), (["pd", "dashpunctuation"], [.pd]),
  (["pe", "closepunctuation"], [.pe]), (["pf", "finalpunctuation"], [.pf]),
  (["pi", "initialpunctuation"], [.pi]), (["po", "otherpunctuation"], [.po]),
  (["ps", "openpunctuation"], [.ps]), (["sc", "currencysymbol"], [.sc]),
  (["sk", "modifiersymbol"], [.sk]), (["sm", "mathsymbol"], [.sm]),
  (["so", "othersymbol"], [.so]), (["zl", "lineseparator"], [.zl]),
  (["zp", "paragraphseparator"], [.zp]), (["zs", "spaceseparator"], [.zs])]

/-- What several names stand for. -/
def lookUp {α : Type} (table : List (List String × α)) (name : String) : Option α :=
  (table.find? fun e => e.1.contains name).map (·.2)

/-- The characters of the category of a name. -/
def ofCategory? (name : String) : Option CharSet :=
  if name == "any" then some all
  else if name == "assigned" then some (complement (categories [.cn]))
  else if name == "ascii" then some (range '\x00' '\x7f')
  else (lookUp categoryNames name).map categories

/-- The characters of the script of a name. -/
def ofScript? (name : String) : Option CharSet := (lookUp Text.scripts name).map among

/-- The characters with the property of a name, or of the category or script of that name. -/
def named? (name : String) : Option CharSet :=
  let name := normalName name
  ((lookUp propertyNames name).map property).or ((ofCategory? name).or (ofScript? name))

/-- The characters of a category or a script, where `kind` says which of them the name is. -/
def valued? (kind name : String) : Option CharSet :=
  let kind := normalName kind
  let name := normalName name
  if kind == "gc" || kind == "generalcategory" then ofCategory? name
  else if ["sc", "script", "scx", "scriptextensions"].contains kind then ofScript? name
  else none

end SchemaForge.CharSet
