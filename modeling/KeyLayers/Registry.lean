import KeyLayers.Key
import KeyLayers.Layers.Basic

/-!
# The registry of sublayer variables

Each sublayer has a variable of the host that is 1 while the sublayer is open and 0 otherwise.  The
registry of all of them is made before anything is compiled, so that each sublayer knows its
siblings, also those that come later.

## Main definitions

* `sublayerVariable` — the variable of a sublayer.
* `Registry` — the registry.
* `Registry.ofLayers` — the registry of the sublayers among layers.
* `Registry.others` — the variables of all other sublayers.
-/

namespace KeyLayers

/-- The name of the variable that marks the sublayer of `key` as open. -/
def sublayerVariable (key : KeyCode) : String := "hyper_sublayer_" ++ key

/-- The variables of all sublayers. -/
structure Registry where
  /-- The names, in order. -/
  names : List String
  deriving DecidableEq, Repr

namespace Registry

/-- The variables of keys; a repeated key counts once. -/
def ofKeys (keys : List KeyCode) : Registry := ⟨(keys.map sublayerVariable).eraseDups⟩

/-- The variables of the sublayers among layers.  A command of a root key has none. -/
def ofLayers (l : Layers) : Registry :=
  ofKeys ((l.entries.entries.filter fun e => e.2.isSublayer).map Prod.fst)

/-- The variables other than that of `key`. -/
def others (r : Registry) (key : KeyCode) : List String :=
  r.names.filter (· ≠ sublayerVariable key)

/-- Whether a name is that of a variable. -/
def contains (r : Registry) (name : String) : Bool := r.names.contains name

/-- The number of variables. -/
def size (r : Registry) : Nat := r.names.length

end Registry

end KeyLayers
