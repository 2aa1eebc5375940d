import KeyLayers.Host.Schema
import KeyLayers.Json.Printer
import KeyLayers.Json.Reader
import KeyLayers.Output
import KeyLayers.Text.Utf8

/-!
# Reading the compiled output back

The host reads a written file as JSON and takes it apart as a file of rules or as a fragment of a
profile.

## Main definitions

* `Output.text` — the text that is written for an output.
* `Format.validate`, `Format.readBack`, `Format.readBytes` — reading an output of a format from its
  value tree, from its text and from the bytes of a file.
-/

namespace KeyLayers

/-- The text of an output in a layout, with a line end. -/
def Output.text (o : Output) (i : Json.Indent) : String := Json.render i (o.toValue .wire) ++ "\n"

/-- The format of an output. -/
def Output.format : Output → Format
  | .rules _ => .rules
  | .profile _ => .profile

/-- Reads an output from its value tree. -/
def Format.validate : Format → Value → Except Refusal Output
  | .rules, v => (Host.RuleFile.schema.validate v).map .rules
  | .profile, v => (Host.Profile.schema.validate v).map .profile

/-- Reads an output from its text; `none` if the text is no JSON. -/
def Format.readBack (format : Format) (s : String) : Option (Except Refusal Output) :=
  (Json.read s).map format.validate

/-- Reads an output from the bytes of a file; `none` if they are no JSON text. -/
def Format.readBytes (format : Format) (bytes : List UInt8) : Option (Except Refusal Output) :=
  match Text.Utf8.decode bytes with
  | .error _ => none
  | .ok s => format.readBack (String.ofList s)

end KeyLayers
