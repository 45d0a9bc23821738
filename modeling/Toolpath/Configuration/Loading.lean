import Toolpath.Configuration.Schema
import Toolpath.Files
import Toolpath.Toml.Document

/-!
# Loading a configuration

A configuration is read from the text of a document, and a text from a file. A file that
cannot be read, a text that is no document, a document that does not fit and a configuration
that cannot be used are told apart, in this order.
-/

namespace Toolpath

namespace Configuration

/-- Configuration from the text of a document. -/
def parse (text : String) : Except (ConfigFault Float) (Configuration Float) :=
  match Toml.parse? text with
  | none => .error .malformed
  | some table =>
    match Schema.config table with
    | .error misfit => .error (.misfit (.ofString misfit.message))
    | .ok config =>
      match config.fault? with
      | some fault => .error fault
      | none => .ok config

/-- Configuration from the file with a path. -/
def load (files : Files) (path : String) : Except (ConfigFault Float) (Configuration Float) :=
  match files.readText path with
  | .error fault => .error (.unreadable (.ofString fault.message))
  | .ok text => parse text

/-- Every configuration that is read can be used. -/
theorem fault?_of_parse {text : String} {config : Configuration Float}
    (h : parse text = .ok config) : config.fault? = none := by
  unfold parse at h
  split at h
  · cases h
  · split at h
    · cases h
    · split at h
      · cases h
      · rename_i hf
        cases h
        exact hf

end Configuration

end Toolpath
