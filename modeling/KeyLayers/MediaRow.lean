import KeyLayers.Action
import KeyLayers.Host.Rule
import KeyLayers.OrderedMap

/-!
# The media row

Beside its rules a profile says what the function keys do.  The default is the media row of Apple
keyboards.

## Main definitions

* `mediaRow` — the media row.
* `replacements` — the replacements that a table of actions stands for.
-/

namespace KeyLayers

open Host

/-- The media row. -/
def mediaRow : OrderedMap Action where
  entries :=
    [("f1", .consumerKey "display_brightness_decrement"),
     ("f2", .consumerKey "display_brightness_increment"),
     ("f3", .vendorKey "mission_control"),
     ("f4", .vendorKey "spotlight"),
     ("f5", .consumerKey "dictation"),
     ("f6", .keyPress ⟨"f6", [], false⟩),
     ("f7", .consumerKey "rewind"),
     ("f8", .consumerKey "play_or_pause"),
     ("f9", .consumerKey "fast_forward"),
     ("f10", .consumerKey "mute"),
     ("f11", .consumerKey "volume_decrement"),
     ("f12", .consumerKey "volume_increment")]
  nodup := by decide

/-- A function key was given an action that presses no key. -/
structure NoKeyAction where
  /-- The function key. -/
  keyCode : String
  /-- The action. -/
  action : Action
  deriving DecidableEq, Repr

/-- The wording of an action that presses no key. -/
def NoKeyAction.message (e : NoKeyAction) : String :=
  s!"function key {Text.quoted e.keyCode} must emit a key, got: {e.action.kindName}"

/-- The event of a function key with an action. -/
def keyEvent (keyCode : String) : Action → Except NoKeyAction Event
  | .consumerKey code => .ok { consumerKeyCode := some code }
  | .vendorKey code => .ok { vendorKeyCode := some code }
  | .keyPress p => .ok { keyCode := some p.keyCode }
  | action => .error ⟨keyCode, action⟩

/-- The replacements for the entries of a table. -/
def replacementsOf : Entries Action → Except NoKeyAction (List Replacement)
  | [] => .ok []
  | (keyCode, action) :: es =>
    match keyEvent keyCode action with
    | .error e => .error e
    | .ok event => (replacementsOf es).map (⟨⟨keyCode, none⟩, [event]⟩ :: ·)

/-- The replacements for a table of actions, in order. -/
def replacements (table : OrderedMap Action) : Except NoKeyAction (List Replacement) :=
  replacementsOf table.entries

end KeyLayers
