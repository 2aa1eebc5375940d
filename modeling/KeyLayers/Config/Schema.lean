import KeyLayers.Config.Basic

/-!
# Reading configurations

A configuration is read from a value tree.  The parts that people write by hand often (layers,
bindings, events) have no other fields than the known ones, so that a misspelt field is noticed.

## Main definitions

* `Config.schema` — reading a configuration.
* `Config.Layer.schema`, `Config.Binding.schema`, `Config.Event.schema` — reading its parts.
-/

namespace KeyLayers.Config

open Decoder

/-- Reads the tables of aliases. -/
def AliasTables.schema : Schema AliasTables where
  title := "AliasConfig"
  decode := record "AliasConfig" fun es =>
    AliasTables.mk
      <$> defaulted "key" .empty (mappingOf text) es
      <*> defaulted "mod" .empty (mappingOf text) es

/-- Reads an event. -/
def Event.schema : Schema Event where
  title := "ToEventConfig"
  decode v := Verdict.settle Violation.message <|
    closedRecord "ToEventConfig"
      ["key_code", "modifiers", "consumer_key_code", "apple_vendor_keyboard_key_code",
       "shell_command"]
      (fun es => Event.ofFields
        <$> defaulted "key_code" none (nullable text) es
        <*> defaulted "modifiers" [] (listOf text) es
        <*> defaulted "consumer_key_code" none (nullable text) es
        <*> defaulted "apple_vendor_keyboard_key_code" none (nullable text) es
        <*> defaulted "shell_command" none (nullable text) es) v

/-- Reads a binding. -/
def Binding.schema : Schema Binding where
  title := "CommandConfig"
  decode v := Verdict.settle Violation.message <|
    closedRecord "CommandConfig" ["app", "open", "shell", "emit", "to", "description"]
      (fun es => Binding.ofFields
        <$> defaulted "app" none (nullable text) es
        <*> defaulted "open" none (nullable text) es
        <*> defaulted "shell" none (nullable text) es
        <*> defaulted "emit" none (nullable text) es
        <*> defaulted "to" none (nullable (listOf Event.schema.decode)) es
        <*> defaulted "description" none (nullable text) es) v

/-- Reads a layer. -/
def Layer.schema : Schema Layer where
  title := "LayerConfig"
  decode v := Verdict.settle Violation.message <|
    closedRecord "LayerConfig" ["key", "command", "commands"]
      (fun es => Layer.ofFields
        <$> required "key" text es
        <*> defaulted "command" none (nullable Binding.schema.decode) es
        <*> defaulted "commands" none (nullable (mappingOf Binding.schema.decode)) es) v

/-- Reads a configuration. -/
def schema : Schema Config where
  title := "Config"
  decode := record "Config" fun es =>
    Config.mk
      <$> defaulted "version" none (nullable integer) es
      <*> defaulted "title" none (nullable text) es
      <*> defaulted "description" none (nullable text) es
      <*> defaulted "layout" "qwerty" text es
      <*> defaulted "hyper" hyperChord (listOf Modifier.decoder) es
      <*> defaulted "fn_function_keys" false boolean es
      <*> defaulted "alias" {} AliasTables.schema.decode es
      <*> defaulted "remap" .empty (mappingOf text) es
      <*> defaulted "layer" [] (listOf Layer.schema.decode) es

end KeyLayers.Config
