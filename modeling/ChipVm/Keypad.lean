import ChipVm.Layout

/-!
# The keypad

The machine is played on a keypad of sixteen keys, `0` to `F`.  The processor never sees key
events; it sees a snapshot of which keys are held.  A byte that names a key is read by its lower
four bits, so every byte names one.

* `Keypad` — the snapshot, and `Keypad.released` — no key held.
* `Keypad.isDown`, `Keypad.isHeld` — whether a key is held, by its number or by a byte naming it.
* `Keypad.lowest?` — the lowest key held, which is the one a waiting program receives.
* `Keypad.press`, `Keypad.release` — the snapshot after one key moved.
* **`Keypad.lowest?_eq_none_iff`** — a waiting program waits on exactly when nothing is held.
-/

namespace ChipVm

/-- Which of the sixteen keys are held. -/
abbrev Keypad := Vector Bool keyCount

/-- The key that a byte names: its lower four bits. -/
def keyOf (b : UInt8) : Fin keyCount :=
  ⟨b.toNat % keyCount, Nat.mod_lt _ (by decide)⟩

namespace Keypad

/-- No key is held. -/
def released : Keypad := Vector.replicate keyCount false

/-- Whether key `k` is held. -/
def isDown (keys : Keypad) (k : Fin keyCount) : Bool := keys[k]

/-- Whether the key that `b` names is held. -/
def isHeld (keys : Keypad) (b : UInt8) : Bool := keys.isDown (keyOf b)

/-- The lowest key that is held, if any. -/
def lowest? (keys : Keypad) : Option (Fin keyCount) :=
  (List.finRange keyCount).find? keys.isDown

/-- The snapshot once the key that `b` names went down. -/
def press (keys : Keypad) (b : UInt8) : Keypad :=
  keys.set (keyOf b) true (keyOf b).isLt

/-- The snapshot once the key that `b` names came up. -/
def release (keys : Keypad) (b : UInt8) : Keypad :=
  keys.set (keyOf b) false (keyOf b).isLt

/-- **No key is reported exactly when none is held.** -/
theorem lowest?_eq_none_iff (keys : Keypad) :
    lowest? keys = none ↔ ∀ k, keys.isDown k = false := by
  simp [lowest?, List.find?_eq_none]

/-- A key that is reported is held. -/
theorem held_of_lowest? {keys : Keypad} {k : Fin keyCount} (h : lowest? keys = some k) :
    keys.isDown k = true :=
  List.find?_some h

end Keypad

end ChipVm
