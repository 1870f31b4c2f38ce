import ChipVm.Texture

/-!
# The window system

The screen is shown by a window system, which the host asks for a window, for events, and for each
frame to be shown.  Every one of these requests can fail.  Here the window system is a value: it
knows which request is going to fail and when, and it keeps what it was asked to show.

The size of the window is worked out before the window is asked for.  It is given in numbers of 32
bits, and if the cells are so large that it would need more, there is no window.

* `WindowCall` — the requests, and `WindowCall.message` — what is said when one fails.
* `WindowSystem` — the window system.
* `WindowSystem.attempt` — one request, which succeeds or fails.
* `WindowSystem.windowOf?` — the window for cells of a size.
* `WindowSystem.openWindow`, `WindowSystem.openEvents` — what is asked for once.
* `WindowSystem.present` — a frame.
-/

namespace ChipVm

/-- What has to be done to show something in a window. -/
inductive WindowCall where
  /-- Set the window system up. -/
  | init
  /-- Set up its video part. -/
  | video
  /-- Work out how large the window is. -/
  | size
  /-- Build the window. -/
  | window
  /-- Build the canvas that is drawn on in the window. -/
  | canvas
  /-- Set up the queue of events. -/
  | events
  /-- Create a texture. -/
  | texture
  /-- Get hold of the bytes of a texture. -/
  | lock
  /-- Copy a texture to the canvas. -/
  | copy
  deriving DecidableEq, Repr

/-- What is said when a request fails. -/
def WindowCall.message : WindowCall → String
  | .init => "init failed"
  | .video => "video failed"
  | .size => "attempt to multiply with overflow"
  | .window => "window failed"
  | .canvas => "canvas failed"
  | .events => "events failed"
  | .texture => "texture failed"
  | .lock => "lock failed"
  | .copy => "copy failed"

/-- A window: what is written on it, and its size in pixels. -/
structure Window where
  /-- The title. -/
  title : String
  /-- The width. -/
  width : Nat
  /-- The height. -/
  height : Nat
  deriving DecidableEq, Repr

/-- The window system. -/
structure WindowSystem where
  /-- How many bytes a row of a texture is longer than a row of the screen. -/
  padding : Nat
  /-- The request that is going to fail, if any, after it has succeeded a number of times. -/
  failing : Option (WindowCall × Nat)
  /-- The window, once it has been built. -/
  window : Option Window
  /-- The textures that were shown, oldest first. -/
  presented : Array (Array UInt8)

namespace WindowSystem

/-- A window system of which nothing has been asked yet. -/
def idle (padding : Nat) (failing : Option (WindowCall × Nat)) : WindowSystem :=
  { padding := padding, failing := failing, window := none, presented := #[] }

/-- The distance between the starts of two rows of a texture. -/
def pitch (ws : WindowSystem) : Nat := Texture.rowSize + ws.padding

/-- The byte that new textures are filled with. -/
def fill : UInt8 := 7

/-- The bytes of a new texture. -/
def newTexture (ws : WindowSystem) : Array UInt8 :=
  Array.replicate (displayHeight * ws.pitch) fill

/-- One request.  If it is the failing one and its successes are used up, it fails. -/
def attempt (ws : WindowSystem) (call : WindowCall) : Except WindowCall WindowSystem :=
  match ws.failing with
  | some (bad, left) =>
      if call = bad then
        match left with
        | 0 => .error call
        | left + 1 => .ok { ws with failing := some (bad, left) }
      else .ok ws
  | none => .ok ws

/-- Several requests, up to the first one that fails. -/
def attemptAll (ws : WindowSystem) : List WindowCall → Except WindowCall WindowSystem
  | [] => .ok ws
  | call :: calls =>
      match ws.attempt call with
      | .ok ws => ws.attemptAll calls
      | .error bad => .error bad

/-- The number of pixels of `cells` cells that are `scale` pixels wide, if it has 32 bits. -/
def pixels? (cells scale : Nat) : Option Nat :=
  if cells * scale < 0x100000000 then some (cells * scale) else none

/-- The window in which every cell is `scale` pixels wide and high, if it is not too large. -/
def windowOf? (scale : Nat) : Option Window := do
  let width ← pixels? displayWidth scale
  let height ← pixels? displayHeight scale
  return { title := "Emu-8", width := width, height := height }

/-- Builds a window with a canvas.  If the canvas fails, the window has been built all the same. -/
def buildWindow (ws : WindowSystem) (window : Window) : Option WindowCall × WindowSystem :=
  match ws.attempt .window with
  | .error bad => (some bad, ws)
  | .ok ws =>
      let ws := { ws with window := some window }
      match ws.attempt .canvas with
      | .error bad => (some bad, ws)
      | .ok ws => (none, ws)

/-- Sets the window system up and opens a window, unless it is too large. -/
def openWindow (ws : WindowSystem) (scale : Nat) : Option WindowCall × WindowSystem :=
  match ws.attemptAll [.init, .video] with
  | .error bad => (some bad, ws)
  | .ok ws =>
      match windowOf? scale with
      | none => (some .size, ws)
      | some window => ws.buildWindow window

/-- Sets up the queue of events. -/
def openEvents (ws : WindowSystem) : Option WindowCall × WindowSystem :=
  match ws.attempt .events with
  | .error bad => (some bad, ws)
  | .ok ws => (none, ws)

/-- Shows a frame: it is uploaded to a new texture, which is copied to the canvas and presented. -/
def present (ws : WindowSystem) (frame : Display) : Option WindowCall × WindowSystem :=
  match ws.attemptAll [.texture, .lock, .copy] with
  | .error bad => (some bad, ws)
  | .ok ws =>
      let texture := Texture.upload frame ws.pitch ws.newTexture
      (none, { ws with presented := ws.presented.push texture })

end WindowSystem

end ChipVm
