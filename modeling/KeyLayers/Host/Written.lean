import KeyLayers.Host.Rule
import KeyLayers.Schema.Form

/-!
# Writing the host's rules

Each part of the host's rules is written as a mapping of its fields in a fixed order.  What a
manipulator waits for is called `from` by the host.

## Main definitions

* `Host.RuleFile.toValue`, `Host.Profile.toValue` — the value trees of whole files.
* `Host.Manipulator.toValue`, … — those of their parts.
-/

namespace KeyLayers.Host

/-- The value tree of a modifier. -/
def Modifier.toValue (m : Modifier) : Value := .text m.name

/-- The value tree of a kind of conditions. -/
def ConditionKind.toValue (k : ConditionKind) : Value := .text k.name

/-- The value tree of a list of modifiers. -/
def modifiersValue (ms : List Modifier) : Value := .list (ms.map Modifier.toValue)

/-- The value tree of a condition of which only the kind is known. -/
def BareCondition.toValue (f : Form) (c : BareCondition) : Value :=
  f.record [("type", c.kind.toValue)]

/-- The value tree of a condition on a variable. -/
def Condition.toValue (f : Form) (c : Condition) : Value :=
  f.record
    [("type", ConditionKind.variableIf.toValue), ("name", .text c.name), ("value", c.value.toValue)]

/-- The value tree of the modifiers of a key to wait for. -/
def TriggerModifiers.toValue (f : Form) (m : TriggerModifiers) : Value :=
  f.record
    [("mandatory", .ofOption modifiersValue m.mandatory),
     ("optional", .ofOption modifiersValue m.optional)]

/-- The value tree of what a manipulator waits for. -/
def Trigger.toValue (f : Form) (e : Trigger) : Value :=
  f.record
    [("key_code", .text e.keyCode),
     ("modifiers", .ofOption (TriggerModifiers.toValue f) e.modifiers)]

/-- The value tree of a variable and its value. -/
def Assignment.toValue (f : Form) (v : Assignment) : Value :=
  f.record [("name", .text v.name), ("value", v.value.toValue)]

/-- The value tree of what a manipulator sends. -/
def Event.toValue (f : Form) (e : Event) : Value :=
  f.record
    [("key_code", .ofOption .text e.keyCode),
     ("consumer_key_code", .ofOption .text e.consumerKeyCode),
     ("apple_vendor_keyboard_key_code", .ofOption .text e.vendorKeyCode),
     ("shell_command", .ofOption .text e.shellCommand),
     ("set_variable", .ofOption (Assignment.toValue f) e.assignment),
     ("modifiers", .ofOption modifiersValue e.modifiers)]

/-- The value tree of a list of events. -/
def eventsValue (f : Form) (es : List Event) : Value := .list (es.map (Event.toValue f))

/-- The name of the field that says what is waited for. -/
def triggerName : Form → String
  | .full => "from_"
  | .wire => "from"

/-- The value tree of a manipulator. -/
def Manipulator.toValue (f : Form) (m : Manipulator) : Value :=
  f.record
    [("type", .text m.type),
     ("description", .ofOption .text m.description),
     ("conditions", .list (m.conditions.map (Condition.toValue f))),
     (triggerName f, m.trigger.toValue f),
     ("to", .ofOption (eventsValue f) m.onPress),
     ("to_after_key_up", .ofOption (eventsValue f) m.onRelease)]

/-- The value tree of the replacement of a key. -/
def Replacement.toValue (f : Form) (m : Replacement) : Value :=
  f.record [(triggerName f, m.trigger.toValue f), ("to", eventsValue f m.events)]

/-- The value tree of a rule. -/
def Rule.toValue (f : Form) (r : Rule) : Value :=
  f.record
    [("description", .text r.description),
     ("manipulators", .list (r.manipulators.map (Manipulator.toValue f)))]

/-- The value tree of a list of rules. -/
def rulesValue (f : Form) (rs : List Rule) : Value := .list (rs.map (Rule.toValue f))

/-- The value tree of a file of rules. -/
def RuleFile.toValue (f : Form) (s : RuleFile) : Value :=
  f.record [("title", .text s.title), ("rules", rulesValue f s.rules)]

/-- The value tree of the rules of a profile. -/
def RuleBlock.toValue (f : Form) (m : RuleBlock) : Value :=
  f.record [("rules", rulesValue f m.rules)]

/-- The value tree of the parts of a profile. -/
def Profile.toValue (f : Form) (p : Profile) : Value :=
  f.record
    [("complex_modifications", p.block.toValue f),
     ("fn_function_keys", .list (p.functionKeys.map (Replacement.toValue f)))]

end KeyLayers.Host
