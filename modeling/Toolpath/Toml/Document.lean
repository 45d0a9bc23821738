import Toolpath.Toml.Draft
import Toolpath.Toml.Moment

/-!
# Documents

A document is a list of lines: assignments, headers, comments and empty lines. The
assignments in front of the first header belong to the document itself, those after a header
to its table.
-/

namespace Toolpath.Toml

open Reader

/-- Greatest number of parts of a key. -/
def maxKeyParts : Nat := 79

/-- Greatest number of arrays and tables that are written inside each other. -/
def maxNesting : Nat := 79

/-- Character of a key without quotes. -/
def isBareKey (c : Char) : Bool := c.isAlphanum || c == '_' || c == '-'

/-- One part of a key. -/
def keyPart : Reader String := basicText <|> literalText <|> String.ofList <$> run1 isBareKey

/-- Key of one or more parts: the parts before the last one, and the last one. -/
def key : Reader (List String × String) := do
  let parts ← separated1 (blanks *> keyPart <* blanks) (char '.')
  match parts.getLast? with
  | some last => if parts.length ≤ maxKeyParts then return (parts.dropLast, last) else failure
  | none => failure

/-- Value that holds no other values. -/
def simpleValue : Reader Value :=
  Value.string <$> quotedText
  <|> (fun _ => Value.moment) <$> moment
  <|> Value.float <$> float
  <|> Value.integer <$> integer
  <|> (fun _ => Value.boolean true) <$> text "true"
  <|> (fun _ => Value.boolean false) <$> text "false"

/-- Values in square brackets, with commas between them and perhaps after the last. -/
def arrayOf (item : Reader Value) : Reader Value := do
  char '['
  let items ← (do
      let items ← separated1 (gap *> item <* gap) (char ',')
      discard (perhaps (char ','))
      return items)
    <|> pure []
  gap
  char ']'
  return .array items false

/-- Key, equals sign and value. -/
def assignment (item : Reader Value) : Reader Draft.Assignment := do
  let (path, key) ← key
  char '='
  blanks
  return ⟨path, key, ← item⟩

/-- Assignments in braces on one line, with commas between them. -/
def tableOf (item : Reader Value) : Reader Value := do
  char '{'
  let assignments ← separated1 (assignment item <* blanks) (char ',') <|> pure []
  blanks
  char '}'
  match Draft.assignAll assignments [] with
  | some entries => return .table (Draft.finishEntries entries)
  | none => failure

/-- Value with at most so many arrays and tables inside each other. -/
def value : Nat → Reader Value
  | 0 => simpleValue
  | levels + 1 => simpleValue <|> arrayOf (value levels) <|> tableOf (value levels)

/-- What a line of a document says. -/
inductive Line where
  /-- Nothing. -/
  | blank
  /-- An assignment in the section that it stands in. -/
  | assignment (assignment : Draft.Assignment)
  /-- The section of a table begins. -/
  | table (path : List String) (key : String)
  /-- The section of one more table of an array begins. -/
  | element (path : List String) (key : String)

/-- Header of one more table of an array. -/
def elementHeader : Reader Line := do
  text "[["
  let (path, key) ← key
  text "]]"
  lineRest
  return .element path key

/-- Header of a table. -/
def tableHeader : Reader Line := do
  char '['
  let (path, key) ← key
  char ']'
  lineRest
  return .table path key

/-- Line without a statement. -/
def blankLine : Reader Line := do
  newline <|> (comment *> lineEnd)
  return .blank

/-- Line with an assignment. -/
def assignmentLine : Reader Line := do
  let assignment ← assignment (value maxNesting)
  lineRest
  return .assignment assignment

/-- Lines of a document, which may begin with a byte order mark. -/
def lines : Reader (List Line) := do
  discard (perhaps (char '\uFEFF'))
  blanks
  let lines ← many ((blankLine <|> elementHeader <|> tableHeader <|> assignmentLine) <* blanks)
  atEnd
  return lines

/-- Assignments up to the next header, and the lines from there on. -/
def section? : List Line → List Draft.Assignment × List Line
  | .assignment a :: rest =>
    let (assignments, rest) := section? rest
    (a :: assignments, rest)
  | .blank :: rest => section? rest
  | rest => ([], rest)

/-- A section takes no lines from elsewhere. -/
theorem section?_length_le (lines : List Line) : (section? lines).2.length ≤ lines.length := by
  fun_induction section? lines with
  | case1 a rest assignments tail h ih =>
    rw [h] at ih
    exact Nat.le_succ_of_le ih
  | case2 rest ih => exact Nat.le_succ_of_le ih
  | case3 rest => exact Nat.le_refl _

/-- Fill in the sections of headers, one after the other. -/
def addSections (entries : Draft.Entries) : List Line → Option Draft.Entries
  | [] => some entries
  | .table path key :: rest => do
    let entries ← Draft.addTable path key (section? rest).1 entries
    addSections entries (section? rest).2
  | .element path key :: rest => do
    let entries ← Draft.addElement path key (section? rest).1 entries
    addSections entries (section? rest).2
  | _ :: rest => addSections entries rest
termination_by lines => lines.length
decreasing_by
  all_goals simp only [List.length_cons]
  · exact Nat.lt_succ_of_le (section?_length_le rest)
  · exact Nat.lt_succ_of_le (section?_length_le rest)
  · exact Nat.lt_succ_self _

/-- Table of a document's lines. -/
def tableOfLines? (lines : List Line) : Option Table := do
  let entries ← Draft.assignAll (section? lines).1 []
  let entries ← addSections entries (section? lines).2
  return Draft.finishEntries entries

/-- Table of a document's text, if the text is a well-formed document. -/
def parse? (text : String) : Option Table :=
  match lines text.toList with
  | some (lines, _) => tableOfLines? lines
  | none => none

end Toolpath.Toml
