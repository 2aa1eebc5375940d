import KeyLayers.Proofs.Chord
import KeyLayers.Proofs.Config.Reading

/-!
# What configured keys can do

A configuration offers less than layers can hold.  None of its events sets a
variable, and the keys that it sends are sent as they are named, whatever the
layout.  Both are facts about single actions, carried here from the events
through bindings and bodies to whole configurations.

## Main definitions

* `Layers.commandList` — the commands of layers.
* `Action.IsPlain` — the actions that a configuration can describe.

## Main results

* `Layers.isPlain_of_toLayers` — layers that are read have such actions only.
-/

namespace KeyLayers

/-! ### The commands of layers -/

/-- The commands of an entry, in order. -/
def Entry.commandList : Entry → List Command
  | .leaf command => [command]
  | .sublayer commands => commands.entries.map Prod.snd

namespace Layers

/-- The commands of root keys and of sublayers, in order. -/
def commandList (l : Layers) : List Command := l.entries.entries.flatMap fun e => e.2.commandList

theorem mem_commandList {l : Layers} {e : KeyCode × Entry} {command : Command}
    (he : e ∈ l.entries.entries) (hcommand : command ∈ e.2.commandList) :
    command ∈ l.commandList :=
  List.mem_flatMap.mpr ⟨e, he, hcommand⟩

end Layers

/-! ### Plain actions -/

/-- The action sets no variable, and sends no key through the layout. -/
def Action.IsPlain : Action → Prop
  | .keyPress press => press.translate = false
  | .consumerKey _ => True
  | .vendorKey _ => True
  | .shell _ => True
  | .setVariable _ _ => False

namespace Config

variable {c : Config}

theorem Event.Denotes.isPlain {event : Event} {action : Action} (h : event.Denotes c action) :
    action.IsPlain := by
  cases h with
  | key names => exact rfl
  | consumerKey code => trivial
  | vendorKey code => trivial
  | shell command => trivial

theorem Effect.Denotes.isPlain {effect : Effect} {actions : List Action} {title : Option String}
    (h : effect.Denotes c actions title) : ∀ action ∈ actions, action.IsPlain := by
  cases h with
  | app name => exact List.forall_mem_singleton.mpr trivial
  | openTarget target => exact List.forall_mem_singleton.mpr trivial
  | shell command => exact List.forall_mem_singleton.mpr trivial
  | emit reads => exact List.forall_mem_singleton.mpr (KeyPress.translate_of_ofChord reads)
  | send each =>
    intro action haction
    obtain ⟨event, -, hevent⟩ := exists_of_mem_right each haction
    exact hevent.isPlain

theorem Binding.Denotes.isPlain {binding : Binding} {command : Command}
    (h : binding.Denotes c command) : ∀ action ∈ command.actions, action.IsPlain := by
  cases h with
  | intro effectDenotes => exact effectDenotes.isPlain

theorem Body.Denotes.isPlain {body : Body} {entry : Entry} (h : body.Denotes c entry)
    {command : Command} (hcommand : command ∈ entry.commandList) :
    ∀ action ∈ command.actions, action.IsPlain := by
  cases h with
  | command denotes =>
    obtain rfl := List.mem_singleton.mp hcommand
    exact denotes.isPlain
  | commands each =>
    obtain ⟨e, he, rfl⟩ := List.mem_map.mp hcommand
    obtain ⟨b, -, -, hb⟩ := exists_of_mem_right each he
    exact hb.isPlain

theorem Denotes.isPlain {l : Layers} (h : c.Denotes l) {command : Command}
    (hcommand : command ∈ l.commandList) : ∀ action ∈ command.actions, action.IsPlain := by
  obtain ⟨e, he, hmem⟩ := List.mem_flatMap.mp hcommand
  obtain ⟨layer, -, -, hlayer⟩ := exists_of_mem_right h he
  exact hlayer.isPlain hmem

end Config

/-- **Layers that are read have plain actions only.** -/
theorem Layers.isPlain_of_toLayers {c : Config} {l : Layers} (h : c.toLayers = .ok l)
    {command : Command} (hcommand : command ∈ l.commandList) :
    ∀ action ∈ command.actions, action.IsPlain := by
  have hread := Vocabulary.reads_layers c
  rw [h] at hread
  cases hread with
  | ok _ hdenotes => exact hdenotes.isPlain hcommand

end KeyLayers
