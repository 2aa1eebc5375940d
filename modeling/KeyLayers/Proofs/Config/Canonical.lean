import KeyLayers.Proofs.Config.ChordForms
import KeyLayers.Proofs.OrderedMap

/-!
# Canonical spelling twice

A configuration is read under aliases in canonical spelling, and a chord brings
the aliases it is given to canonical spelling itself.  So those of a
configuration get there twice.  Two aliases may fall together the first time,
when the first gives the place and the last the value; the second time nothing
is left to fall together, and the order stays as well.

## Main definitions

* `Aliases.canonicalPairs` — aliases in canonical spelling, before any fall together.
* `Config.withCanonicalAliases` — a configuration whose aliases are in canonical spelling.

## Main results

* `KeyCode.ofText_of_ofText` — the name of a key names it.
* `Aliases.collects_canonical` — which aliases fall together.
* `Config.toLayers_withCanonicalAliases` — layers under canonical aliases.
* `canonical_idempotent` — **the second time changes nothing.**
-/

namespace KeyLayers

theorem KeyCode.ofText_eq_ok_iff {s key : String} :
    KeyCode.ofText s = .ok key ↔ canonical s = key ∧ key ≠ "" := by
  simp only [KeyCode.ofText]
  constructor
  · intro h
    split at h
    · cases h
    · next hne =>
      cases h
      exact ⟨rfl, hne⟩
  · rintro ⟨rfl, hne⟩
    exact if_neg hne

/-- The name of a key names it. -/
theorem KeyCode.ofText_of_ofText {s key : String} (h : KeyCode.ofText s = .ok key) :
    KeyCode.ofText key = .ok key := by
  obtain ⟨rfl, hne⟩ := KeyCode.ofText_eq_ok_iff.mp h
  exact KeyCode.ofText_eq_ok_iff.mpr ⟨canonical_canonical s, hne⟩

/-- The aliases in canonical spelling, of which some may have the same key. -/
def Aliases.canonicalPairs (a : Aliases) : Entries String :=
  a.entries.map fun e => (KeyLayers.canonical e.1, KeyLayers.canonical e.2)

/-- Of aliases that fall together the first gives the place and the last the value. -/
theorem Aliases.collects_canonical (a : Aliases) : a.canonical.Collects a.canonicalPairs :=
  OrderedMap.collects_ofList a.canonicalPairs

namespace Config

/-- The configuration with its aliases in canonical spelling. -/
def withCanonicalAliases (c : Config) : Config :=
  { c with aliases := ⟨c.aliases.key.canonical, c.aliases.mod.canonical⟩ }

/-- A configuration describes the same layers under canonical aliases. -/
theorem toLayers_withCanonicalAliases (c : Config) :
    c.withCanonicalAliases.toLayers = c.toLayers := by
  have hsame : Vocabulary.ofConfig c.withCanonicalAliases = Vocabulary.ofConfig c := by
    simp only [Vocabulary.ofConfig, withCanonicalAliases, Aliases.canonical_canonical]
  unfold toLayers
  rw [hsame]
  rfl

end Config

/-- **The second time changes nothing.**  The key that a text names names itself; canonical aliases
are their own canonical form, which has of aliases that fall together the place of the first and the
value of the last; and a chord reads the same under aliases and under their canonical form.  So a
binding of a configuration, which is read under the canonical form, sends what its chord says under
the aliases as they were written, and the layers are those under the canonical form. -/
theorem canonical_idempotent :
    (∀ s key, KeyCode.ofText s = .ok key → KeyCode.ofText key = .ok key) ∧
    (∀ a : Aliases, a.canonical.canonical = a.canonical ∧ a.canonical.Collects a.canonicalPairs) ∧
    (∀ keys modifiers separator translate chord,
      KeyPress.ofChord keys.canonical modifiers.canonical separator translate chord =
        KeyPress.ofChord keys modifiers separator translate chord) ∧
    ∀ c : Config,
      (∀ chord description, (Vocabulary.ofConfig c).command ⟨.emit chord, description⟩ =
        (KeyPress.ofChord c.aliases.key c.aliases.mod Chord.plus false chord).map
          fun press => ⟨[.keyPress press], description⟩) ∧
      c.withCanonicalAliases.toLayers = c.toLayers := by
  refine ⟨fun s key => KeyCode.ofText_of_ofText, fun a => ?_, KeyPress.ofChord_canonical,
    fun c => ⟨Config.command_emit c, c.toLayers_withCanonicalAliases⟩⟩
  exact ⟨a.canonical_canonical, a.collects_canonical⟩

/-- A sigma that has become a final one stays, and of two spellings of the escape key the second
gives the value. -/
theorem canonical_idempotent_escapeTwice :
    KeyCode.ofText " ΟΔΟΣ\t" = .ok "οδος" ∧ KeyCode.ofText "οδος" = .ok "οδος" ∧
    (Aliases.canonicalPairs (.ofList [("Esc", "F1"), ("Tab", " F2"), (" ESC ", "F3 ")])).LastValue
      "esc" "f3" := by
  have hkey : KeyCode.ofText " ΟΔΟΣ\t" = .ok "οδος" := by decide +kernel
  have haliases := canonical_idempotent.2.1
    (.ofList [("Esc", "F1"), ("Tab", " F2"), (" ESC ", "F3 ")])
  exact ⟨hkey, canonical_idempotent.1 _ _ hkey,
    (haliases.2.values "esc" "f3").mp (by decide +kernel)⟩

end KeyLayers
