import KeyLayers.Config.Basic

/-!
# Writing configurations

A configuration is written as a mapping of its fields in a fixed order.

## Main definitions

* `Config.toValue` — the value tree of a configuration.
* `Config.Layer.toValue`, `Config.Binding.toValue`, `Config.Event.toValue` — those of its parts.
-/

namespace KeyLayers.Config

/-- The value tree of a mapping of texts. -/
def textsValue (m : OrderedMap String) : Value := .map (m.map Value.text).entries

/-- The value tree of the tables of aliases. -/
def AliasTables.toValue (f : Form) (a : AliasTables) : Value :=
  f.record [("key", textsValue a.key), ("mod", textsValue a.mod)]

/-- The modifiers of an event. -/
def Event.modifiers : Event → List String
  | .key _ modifiers => modifiers
  | _ => []

/-- The value tree of an event. -/
def Event.toValue (f : Form) (e : Event) : Value :=
  let only (here : Event → Option String) : Value := .ofOption .text (here e)
  f.record
    [("key_code", only fun | .key code _ => some code | _ => none),
     ("modifiers", .list (e.modifiers.map .text)),
     ("consumer_key_code", only fun | .consumerKey code => some code | _ => none),
     ("apple_vendor_keyboard_key_code", only fun | .vendorKey code => some code | _ => none),
     ("shell_command", only fun | .shell command => some command | _ => none)]

/-- The value tree of a binding. -/
def Binding.toValue (f : Form) (b : Binding) : Value :=
  let only (here : Effect → Option String) : Value := .ofOption .text (here b.effect)
  f.record
    [("app", only fun | .app name => some name | _ => none),
     ("open", only fun | .openTarget target => some target | _ => none),
     ("shell", only fun | .shell command => some command | _ => none),
     ("emit", only fun | .emit chord => some chord | _ => none),
     ("to",
       match b.effect with
       | .send events => .list (events.map (Event.toValue f))
       | _ => .null),
     ("description", .ofOption .text b.description)]

/-- The value tree of a layer. -/
def Layer.toValue (f : Form) (l : Layer) : Value :=
  f.record
    [("key", .text l.key),
     ("command", match l.body with | .command b => b.toValue f | .commands _ => .null),
     ("commands",
       match l.body with
       | .command _ => .null
       | .commands bs => .map (bs.map (Binding.toValue f)).entries)]

/-- The value tree of a configuration. -/
def toValue (f : Form) (c : Config) : Value :=
  f.record
    [("version", .ofOption .int c.version),
     ("title", .ofOption .text c.title),
     ("description", .ofOption .text c.description),
     ("layout", .text c.layout),
     ("hyper", .list (c.hyper.map Modifier.toValue)),
     ("fn_function_keys", .bool c.functionKeys),
     ("alias", c.aliases.toValue f),
     ("remap", textsValue c.remap),
     ("layer", .list (c.layers.map (Layer.toValue f)))]

end KeyLayers.Config
