import Workbook.Unicode.Age
import Workbook.Unicode.Break

/-!
Sets of characters by the names of the standard.

A property that a character has or has not names a set, and so does a general category or a script.
Of a property with more values, a set is named by the property and one of them.
-/

namespace Workbook
namespace Unicode

/-- The set of a name that stands alone: of a property first, then a category, then a script. -/
def find? (name : List Char) : Option CharSet :=
  CharSet.Named.find? (listedProperties ++ derivedProperties ++ categories ++ scripts) name

/-- The set of a property and its value. -/
def findValue? (property value : List Char) : Option CharSet :=
  match String.ofList (CharSet.plainName property) with
  | "gc" | "generalcategory" => CharSet.Named.find? categories value
  | "sc" | "script" => CharSet.Named.find? scripts value
  | "scx" | "scriptextensions" => (CharSet.Named.withName? scripts value).map scriptExtension
  | "age" => CharSet.Named.find? ages value
  | "gcb" | "graphemeclusterbreak" => CharSet.Named.find? graphemeBreaks value
  | "wb" | "wordbreak" => CharSet.Named.find? wordBreaks value
  | "sb" | "sentencebreak" => CharSet.Named.find? sentenceBreaks value
  | _ => none

end Unicode
end Workbook
