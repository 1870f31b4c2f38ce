import ChipVm.Keypad

/-!
# The keys of the host

The keypad of the machine sits on the left four columns of the host's letter and digit keys, in the
arrangement that the keypad has on its own:

```text
1 2 3 C      1 2 3 4
4 5 6 D  on  Q W E R
7 8 9 E      A S D F
A 0 B F      Z X C V
```

* `HostKey` — a key of the host's keyboard.
* `HostKey.ofLabel` — the key with a given label.
* `HostKey.layout` — which host key stands for which key of the keypad.
* `HostKey.keypad?` — the key that a host key stands for, if it stands for one.
* **`HostKey.exists_mem_layout`** — every key of the keypad has its place.
* **`HostKey.layout_nodup`** — and only one.
-/

namespace ChipVm

/-- A key of the host's keyboard. -/
inductive HostKey where
  /-- A key that is labelled with a digit or an upper-case letter. -/
  | char (c : Char)
  /-- A function key. -/
  | function (n : Nat)
  | space
  | escape
  | enter
  | backspace
  /-- Any other key, with its label. -/
  | other (label : String)
  deriving DecidableEq, Repr

namespace HostKey

/-- The key with a given label. -/
def ofLabel (label : String) : HostKey :=
  match label.toList with
  | [c] => .char c
  | 'F' :: digits => .function ((String.ofList digits).toNat?.getD 0)
  | _ =>
      match label with
      | "Space" => .space
      | "Escape" => .escape
      | "Return" => .enter
      | "Backspace" => .backspace
      | _ => .other label

/-- Which host key stands for which key of the keypad. -/
def layout : List (HostKey × UInt8) :=
  [(.char '1', 0x1), (.char '2', 0x2), (.char '3', 0x3), (.char '4', 0xC),
   (.char 'Q', 0x4), (.char 'W', 0x5), (.char 'E', 0x6), (.char 'R', 0xD),
   (.char 'A', 0x7), (.char 'S', 0x8), (.char 'D', 0x9), (.char 'F', 0xE),
   (.char 'Z', 0xA), (.char 'X', 0x0), (.char 'C', 0xB), (.char 'V', 0xF)]

/-- The key that a host key stands for, if it stands for one. -/
def keypad? (key : HostKey) : Option UInt8 :=
  (layout.find? fun entry => entry.1 = key).map Prod.snd

/-- **Every key of the keypad has its place.** -/
theorem exists_mem_layout (k : Fin keyCount) : ∃ entry ∈ layout, keyOf entry.2 = k := by
  revert k
  decide

/-- **No host key and no key of the keypad stands in the layout twice.** -/
theorem layout_nodup : (layout.map Prod.fst).Nodup ∧ (layout.map Prod.snd).Nodup := by
  decide

end HostKey

end ChipVm
