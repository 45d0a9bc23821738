/-!
# Values of a configuration document

A document is a table: named values in the order in which they were first written. A list of
tables can be written as one value or as sections with a common header; the values tell the
two apart. Dates and times are recognized as such and carry no content, since no configuration
uses them.
-/

namespace Toolpath.Toml

/-- A value of a document. -/
inductive Value where
  /-- A text. -/
  | string (text : String)
  /-- A whole number of at most 64 bits. -/
  | integer (number : Int)
  /-- A binary64 number. -/
  | float (number : Float)
  /-- A truth value. -/
  | boolean (value : Bool)
  /-- A date, a time or both. -/
  | moment
  /-- A list of values, written in brackets or as sections with a common header. -/
  | array (items : List Value) (inSections : Bool)
  /-- Named values in order. -/
  | table (entries : List (String × Value))

/-- Named values in order. -/
abbrev Table := List (String × Value)

/-- Value of a key. -/
def Table.get? (table : Table) (key : String) : Option Value := table.lookup key

end Toolpath.Toml
