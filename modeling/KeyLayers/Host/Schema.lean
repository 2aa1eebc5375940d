import KeyLayers.Host.Rule

/-!
# Reading the host's rules

Every part of the host's rules can be read back from a value tree.  Fields that are not known are
ignored.

## Main definitions

* `Host.RuleFile.schema`, `Host.Profile.schema` — reading whole files.
* `Host.Manipulator.schema`, … — reading their parts.
-/

namespace KeyLayers.Host

open Decoder

/-- Reads a modifier. -/
def Modifier.decoder : Decoder Modifier := choice all name

/-- Reads the kind of a condition. -/
def ConditionKind.decoder : Decoder ConditionKind := choice [.variableIf] name

/-- Reads a condition of which only the kind is known. -/
def BareCondition.schema : Schema BareCondition where
  title := "BaseCondition"
  decode := record "BaseCondition" fun es =>
    BareCondition.mk <$> required "type" ConditionKind.decoder es

/-- Reads a condition on a variable. -/
def Condition.schema : Schema Condition where
  title := "VarCondition"
  decode := record "VarCondition" fun es =>
    (fun _ name value => ⟨name, value⟩)
      <$> defaulted "type" ()
        (literal ConditionKind.variableIf.name "<ConditionType.VARIABLE_IF: 'variable_if'>") es
      <*> required "name" text es
      <*> required "value" Scalar.decoder es

/-- Reads the modifiers of a key to wait for. -/
def TriggerModifiers.schema : Schema TriggerModifiers where
  title := "FromModifiers"
  decode := record "FromModifiers" fun es =>
    TriggerModifiers.mk
      <$> defaulted "mandatory" none (nullable (listOf Modifier.decoder)) es
      <*> defaulted "optional" none (nullable (listOf Modifier.decoder)) es

/-- Reads what a manipulator waits for. -/
def Trigger.schema : Schema Trigger where
  title := "FromEvent"
  decode := record "FromEvent" fun es =>
    Trigger.mk
      <$> required "key_code" text es
      <*> defaulted "modifiers" none (nullable TriggerModifiers.schema.decode) es

/-- Reads a variable and its value. -/
def Assignment.schema : Schema Assignment where
  title := "Variable"
  decode := record "Variable" fun es =>
    Assignment.mk <$> required "name" text es <*> required "value" Scalar.decoder es

/-- Reads what a manipulator sends. -/
def Event.schema : Schema Event where
  title := "ToEvent"
  decode := record "ToEvent" fun es =>
    Event.mk
      <$> defaulted "key_code" none (nullable text) es
      <*> defaulted "consumer_key_code" none (nullable text) es
      <*> defaulted "apple_vendor_keyboard_key_code" none (nullable text) es
      <*> defaulted "shell_command" none (nullable text) es
      <*> defaulted "set_variable" none (nullable Assignment.schema.decode) es
      <*> defaulted "modifiers" none (nullable (listOf Modifier.decoder)) es

/-- Reads the events that a manipulator sends, if there are any. -/
def events : Decoder (Option (List Event)) := nullable (listOf Event.schema.decode)

/-- Reads what is waited for, under either of its names. -/
def triggerField (es : Entries Value) : Verdict Trigger :=
  requiredEither "from" "from_" Trigger.schema.decode es

/-- Reads a manipulator. -/
def Manipulator.schema : Schema Manipulator where
  title := "Manipulator"
  decode := record "Manipulator" fun es =>
    Manipulator.mk
      <$> defaulted "type" "basic" text es
      <*> defaulted "description" none (nullable text) es
      <*> defaulted "conditions" [] (listOf Condition.schema.decode) es
      <*> triggerField es
      <*> defaulted "to" none events es
      <*> defaulted "to_after_key_up" none events es

/-- Reads the replacement of a key. -/
def Replacement.schema : Schema Replacement where
  title := "SimpleModification"
  decode := record "SimpleModification" fun es =>
    Replacement.mk <$> triggerField es <*> required "to" (listOf Event.schema.decode) es

/-- Reads a rule. -/
def Rule.schema : Schema Rule where
  title := "Rule"
  decode := record "Rule" fun es =>
    Rule.mk
      <$> required "description" text es
      <*> required "manipulators" (listOf Manipulator.schema.decode) es

/-- Reads a file of rules. -/
def RuleFile.schema : Schema RuleFile where
  title := "RuleSet"
  decode := record "RuleSet" fun es =>
    RuleFile.mk <$> required "title" text es <*> required "rules" (listOf Rule.schema.decode) es

/-- Reads the rules of a profile. -/
def RuleBlock.schema : Schema RuleBlock where
  title := "ComplexModifications"
  decode := record "ComplexModifications" fun es =>
    RuleBlock.mk <$> defaulted "rules" [] (listOf Rule.schema.decode) es

/-- Reads the parts of a profile. -/
def Profile.schema : Schema Profile where
  title := "ProfileFragment"
  decode := record "ProfileFragment" fun es =>
    Profile.mk
      <$> defaulted "complex_modifications" {} RuleBlock.schema.decode es
      <*> defaulted "fn_function_keys" [] (listOf Replacement.schema.decode) es

end KeyLayers.Host
