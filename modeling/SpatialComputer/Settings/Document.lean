import SpatialComputer.Document.Toml.Reader
import SpatialComputer.Settings.Decode

/-!
# Settings from a document

A configuration file is a TOML document. Settings that are read from one are also checked, so whatever comes out can be built on.
-/

namespace SpatialComputer

inductive DocumentError where
  /-- The document is not TOML, or a setting has a value of the wrong kind. -/
  | malformed
  | rejected (cause : Rejection)
deriving DecidableEq

def Settings.ofDocument (text : String) : Except DocumentError Settings :=
  match (Toml.ofText? text).bind (Settings.ofData? .lenient) with
  | none => .error .malformed
  | some settings =>
    match settings.validate with
    | .ok () => .ok settings
    | .error cause => .error (.rejected cause)

end SpatialComputer
