import Toolpath.Binary64.Arithmetic
import Toolpath.Configuration.Basic
import Toolpath.Text.Quoted
import Toolpath.Toml.Value

/-!
# Configurations as tables

A configuration is written as a table with seven keys. Four are required: the default rates
and the segment lengths. Keys may come in any order, and no other key may occur. Values are
read in the order in which they stand; the first that does not fit is the misfit that is
reported, and missing keys are looked for after all that is there has been read.
-/

namespace Toolpath

open Toml (Value Table)

/-- What does not fit about a table. -/
inductive Misfit where
  /-- A required key is absent. -/
  | missingField (key : String)
  /-- A key that the table does not have. -/
  | unknownField (key : String) (expected : List String)
  /-- A kind of drive that does not exist. -/
  | unknownVariant (name : String)
  /-- A value of another type than its key has. -/
  | invalidType (found : Value) (expected : String)
  /-- An integer beyond the range of its key. -/
  | invalidValue (number : Int) (expected : String)
  /-- A list that is too short. -/
  | invalidLength (length : Nat) (expected : String)
  /-- A kind of drive that is neither a name nor a table. -/
  | notNameOrTable
  /-- A kind of drive that is an empty table. -/
  | noVariant
  /-- A kind of drive that is a table with several keys. -/
  | manyVariants
  /-- A kind of drive with contents of its own. -/
  | notEmptyTable
  /-- A kind of drive with sections of its own. -/
  | notEmptySections
  /-- A kind of drive whose contents are not a table; the word names their type. -/
  | notTable (found : String)

namespace Misfit

/-- Text between accents. -/
def accented (text : String) : String := "`" ++ text ++ "`"

/-- A number, with a fraction even when it is whole. -/
def pointedText (number : Float) : String :=
  let text := Binary64.plainText number
  if number.isFinite && !text.toList.contains '.' then text ++ ".0" else text

/-- What a value is called where another type is expected. -/
def describe : Value → String
  | .string text => "string " ++ Quoted.encode text
  | .integer number => "integer " ++ accented (Int.repr number)
  | .float number => "floating point " ++ accented (pointedText number)
  | .boolean value => "boolean " ++ accented (if value then "true" else "false")
  | .array .. => "sequence"
  | .table _ | .moment => "map"

/-- The keys that were expected. -/
def describeExpected (expected : List String) : String :=
  match expected with
  | [first, second] => accented first ++ " or " ++ accented second
  | _ => "one of " ++ String.intercalate ", " (expected.map accented)

/-- Message of a misfit. -/
def message : Misfit → String
  | missingField key => "missing field " ++ accented key
  | unknownField key expected =>
    "unknown field " ++ accented key ++ ", expected " ++ describeExpected expected
  | unknownVariant name => "unknown variant " ++ accented name ++ ", expected `cartesian`"
  | invalidType found expected => "invalid type: " ++ describe found ++ ", expected " ++ expected
  | invalidValue number expected =>
    "invalid value: integer " ++ accented (Int.repr number) ++ ", expected " ++ expected
  | invalidLength length expected =>
    "invalid length " ++ Nat.repr length ++ ", expected " ++ expected
  | notNameOrTable => "wanted string or table"
  | noVariant => "wanted exactly 1 element, found 0 elements"
  | manyVariants => "wanted exactly 1 element, more than 1 element"
  | notEmptyTable => "expected empty table"
  | notEmptySections => "expected empty array"
  | notTable found => "expected table, found " ++ found

end Misfit

namespace Schema

/-- A number; integers count as numbers. -/
def number : Value → Except Misfit Float
  | .integer n => .ok (Float.ofInt n)
  | .float x => .ok x
  | value => .error (.invalidType value "f64")

/-- A natural number below a bound. -/
def naturalBelow (bound : Nat) (name : String) : Value → Except Misfit Nat
  | .integer n => if 0 ≤ n && n < bound then .ok n.toNat else .error (.invalidValue n name)
  | value => .error (.invalidType value name)

/-- What is expected of steps per millimeter. -/
def ratiosName : String := "an array of length 3"

/-- Three numbers, one for each axis. Numbers beyond the third are not looked at. -/
def ratios : Value → Except Misfit (PerAxis Float)
  | .array items _ => do
    let item (index : Nat) : Except Misfit Float :=
      match items[index]? with
      | some value => number value
      | none => .error (.invalidLength index ratiosName)
    return ⟨← item 0, ← item 1, ← item 2⟩
  | value => .error (.invalidType value ratiosName)

/-- Kind of a drive by name. -/
def kindNamed (name : String) : Except Misfit DriveKind :=
  if name = "cartesian" then .ok .cartesian else .error (.unknownVariant name)

/-- A kind of drive has no contents: an empty table or an empty list. Sections are never
empty, since each begins with a header of its own. -/
def emptyContents : Value → Except Misfit Unit
  | .table [] | .array [] _ => .ok ()
  | .table _ | .array _ false => .error .notEmptyTable
  | .array _ true => .error .notEmptySections
  | .string _ => .error (.notTable "string")
  | .integer _ => .error (.notTable "integer")
  | .float _ => .error (.notTable "float")
  | .boolean _ => .error (.notTable "boolean")
  | .moment => .error (.notTable "datetime")

/-- Kind of a drive: a name, or a table with the name as its only key. -/
def kind : Value → Except Misfit DriveKind
  | .string name => kindNamed name
  | .table [] => .error .noVariant
  | .table [(name, contents)] => do
    let kind ← kindNamed name
    emptyContents contents
    return kind
  | .table _ => .error .manyVariants
  | _ => .error .notNameOrTable

/-- Keys of a drive. -/
def driveKeys : List String := ["solution", "steps_per_mm"]

/-- A drive of which some parts have been read. -/
structure DriveParts where
  /-- Kind of the drive, if it was given. -/
  kind : Option DriveKind
  /-- Steps per millimeter, if they were given. -/
  ratios : Option (PerAxis Float)

/-- Read one key of a drive. -/
def driveEntry (parts : DriveParts) (key : String) (value : Value) :
    Except Misfit DriveParts :=
  match key with
  | "solution" => do return { parts with kind := some (← kind value) }
  | "steps_per_mm" => do return { parts with ratios := some (← ratios value) }
  | _ => .error (.unknownField key driveKeys)

/-- Drive from what was read: the kind may be left out, the ratios may not. -/
def DriveParts.complete (parts : DriveParts) :
    Except Misfit (DriveConfig Float) :=
  match parts.ratios with
  | some ratios => .ok ⟨parts.kind.getD .cartesian, ratios⟩
  | none => .error (.missingField "steps_per_mm")

/-- Drive: a table, or a list of the kind and the ratios. What a list holds beyond
these is not looked at. -/
def drive : Value → Except Misfit (DriveConfig Float)
  | .table entries => do
    let parts ← entries.foldlM (fun parts (key, value) => driveEntry parts key value)
      ⟨none, none⟩
    parts.complete
  | .array (named :: steps :: _) _ => do return ⟨← kind named, ← ratios steps⟩
  | .array items _ => do
    discard (items.mapM kind)
    .error (.invalidLength 1 "struct KinematicsConfig with 2 elements")
  | .moment => .error (.unknownField "$__toml_private_datetime" driveKeys)
  | value => .error (.invalidType value "struct KinematicsConfig")

/-- Keys of a configuration, in the order in which missing ones are reported. -/
def configKeys : List String :=
  ["default_feed_rate", "default_seek_rate", "mm_per_line_segment", "mm_per_arc_segment",
    "arc_correction_interval", "backpressure_poll_us", "kinematics"]

/-- A configuration of which some parts have been read. -/
structure ConfigParts where
  /-- Default feed rate, if it was given. -/
  feedRate : Option Float
  /-- Default seek rate, if it was given. -/
  seekRate : Option Float
  /-- Greatest length of a line segment, if it was given. -/
  lineSegmentLength : Option Float
  /-- Greatest length of an arc segment, if it was given. -/
  arcSegmentLength : Option Float
  /-- Correction interval, if it was given. -/
  interval : Option Nat
  /-- Waiting time, if it was given. -/
  poll : Option Nat
  /-- Drive, if it was given. -/
  drive : Option (DriveConfig Float)

/-- Nothing has been read. -/
def ConfigParts.none : ConfigParts := ⟨.none, .none, .none, .none, .none, .none, .none⟩

/-- Read one key of a configuration. -/
def configEntry (parts : ConfigParts) (key : String) (value : Value) :
    Except Misfit ConfigParts :=
  match key with
  | "default_feed_rate" => do return { parts with feedRate := some (← number value) }
  | "default_seek_rate" => do return { parts with seekRate := some (← number value) }
  | "mm_per_line_segment" => do return { parts with lineSegmentLength := some (← number value) }
  | "mm_per_arc_segment" => do return { parts with arcSegmentLength := some (← number value) }
  | "arc_correction_interval" => do
    return { parts with interval := some (← naturalBelow UInt8.size "u8" value) }
  | "backpressure_poll_us" => do
    return { parts with poll := some (← naturalBelow UInt32.size "u32" value) }
  | "kinematics" => do return { parts with drive := some (← drive value) }
  | _ => .error (.unknownField key configKeys)

/-- A part that has to be there. -/
def required {β : Type} (key : String) : Option β → Except Misfit β
  | some part => .ok part
  | none => .error (.missingField key)

/-- Configuration from what was read. -/
def ConfigParts.complete (parts : ConfigParts) : Except Misfit (Configuration Float) := do
  let feedRate ← required "default_feed_rate" parts.feedRate
  let seekRate ← required "default_seek_rate" parts.seekRate
  let lineSegmentLength ← required "mm_per_line_segment" parts.lineSegmentLength
  let arcSegmentLength ← required "mm_per_arc_segment" parts.arcSegmentLength
  return {
    feedRate := ⟨feedRate⟩
    seekRate := ⟨seekRate⟩
    lineSegmentLength := ⟨lineSegmentLength⟩
    arcSegmentLength := ⟨arcSegmentLength⟩
    correctionInterval :=
      (parts.interval.map UInt8.ofNat).getD Configuration.standardInterval
    poll := (parts.poll.map UInt32.ofNat).getD Configuration.standardPoll
    drive := parts.drive.getD DriveConfig.standard }

/-- Configuration that a table describes. -/
def config (table : Table) : Except Misfit (Configuration Float) := do
  let parts ← table.foldlM (fun parts (key, value) => configEntry parts key value)
    ConfigParts.none
  parts.complete

/-- A key that a configuration does not have is a misfit, whatever its value. -/
theorem configEntry_unknown {key : String} (h : key ∉ configKeys) (parts : ConfigParts)
    (value : Value) : configEntry parts key value = .error (.unknownField key configKeys) := by
  simp only [configKeys, List.mem_cons, List.not_mem_nil, or_false, not_or] at h
  unfold configEntry
  split <;> simp_all

end Schema

end Toolpath
