/-!
# Files

The host reads programs and reads and writes saved states.  For it a disk is a value: a tree of
directories with files in it.  A path leads from one directory to the next, name by name; it begins
at the root if its first character is a slash, and otherwise in the home directory.  One dot stands
for the directory where one is, two dots for the one around it.  A path can lead on only from a
directory that is there, so what a path leads to can be missing, but not the directory it would be
in.

* `Node`, `Place` — what can be on a disk, and where.
* `Disk`, `Disk.bare` — a disk, and one without files.
* `pathNames`, `Disk.walk`, `Disk.resolve` — where a path leads.
* `Disk.readBytes`, `Disk.readText` — what a file holds.
* `Disk.writeBytes`, `Disk.writeText` — a file with other contents.
* `DiskFault.message` — why a path cannot be used.
* **`Disk.resolve_put`** — putting a file where none of the directories is changes no path that
  leads there.
* **`Disk.readText_writeText`** — what was written is read back.
-/

namespace ChipVm

/-- What can be at a place. -/
inductive Node where
  | directory
  /-- A file, with the bytes it holds. -/
  | file (bytes : ByteArray)

/-- A place on a disk: the names that lead to it from the root, the last one first. -/
abbrev Place := List String

/-- Why a path cannot be used. -/
inductive DiskFault where
  /-- The path has a character in it that ends names. -/
  | zeroCharacter
  /-- There is nothing, or nowhere to go on from. -/
  | missing
  /-- The path goes on from a file. -/
  | notDirectory
  /-- The path leads to a directory. -/
  | isDirectory
  /-- A name or the path has too many bytes. -/
  | tooLong
  /-- What the file holds is no text. -/
  | noText
  deriving DecidableEq, Repr

/-- The sentence for a fault. -/
def DiskFault.message : DiskFault → String
  | .zeroCharacter => "file name contained an unexpected NUL byte"
  | .missing => "No such file or directory (os error 2)"
  | .notDirectory => "Not a directory (os error 20)"
  | .isDirectory => "Is a directory (os error 21)"
  | .tooLong => "File name too long (os error 36)"
  | .noText => "stream did not contain valid UTF-8"

/-- A tree of directories and files. -/
structure Disk where
  /-- What is at a place, if there is anything. -/
  node : Place → Option Node
  /-- The directory where paths begin that do not begin at the root. -/
  home : Place

/-! ## Paths -/

/-- The most bytes a name may have. -/
def nameLimit : Nat := 255

/-- The number of bytes from which on a path is too long. -/
def pathLimit : Nat := 4096

/-- The names of a path: what stands between its slashes. -/
def pathNames : List Char → List (List Char)
  | [] => [[]]
  | c :: cs =>
      if c = '/' then [] :: pathNames cs
      else
        match pathNames cs with
        | name :: names => (c :: name) :: names
        | [] => [[c]]

/-- The place that a name leads to from the directory at a place. -/
def Place.enter (place : Place) (name : String) : Except DiskFault Place :=
  if name = "" ∨ name = "." then .ok place
  else if name = ".." then .ok (place.drop 1)
  else if nameLimit < name.utf8ByteSize then .error .tooLong
  else .ok (name :: place)

/-- Whether a place is the given one or one of the places around that. -/
def Place.surrounds (place : Place) : Place → Bool
  | [] => decide (place = [])
  | name :: outer => decide (place = name :: outer) || place.surrounds outer

namespace Disk

/-- A disk without files, whose only directories are the home directory and those around it. -/
def bare (home : Place) : Disk where
  node place := if place.surrounds home then some .directory else none
  home := home

/-- The place that names lead to from a place.  There has to be a directory to go on from. -/
def walk (disk : Disk) (place : Place) : List String → Except DiskFault Place
  | [] => .ok place
  | name :: names =>
      match disk.node place with
      | none => .error .missing
      | some (.file _) => .error .notDirectory
      | some .directory =>
          match place.enter name with
          | .ok next => disk.walk next names
          | .error fault => .error fault

/-- The place where a path begins. -/
def start (disk : Disk) (path : String) : Place :=
  match path.toList with
  | '/' :: _ => []
  | _ => disk.home

/-- The place that a path leads to. -/
def resolve (disk : Disk) (path : String) : Except DiskFault Place :=
  if path.toList.any (· = '\x00') then .error .zeroCharacter
  else if path = "" then .error .missing
  else if pathLimit ≤ path.utf8ByteSize then .error .tooLong
  else disk.walk (disk.start path) ((pathNames path.toList).map String.ofList)

/-! ## Reading and writing -/

/-- The bytes of the file that a path leads to. -/
def readBytes (disk : Disk) (path : String) : Except DiskFault ByteArray :=
  match disk.resolve path with
  | .error fault => .error fault
  | .ok place =>
      match disk.node place with
      | none => .error .missing
      | some .directory => .error .isDirectory
      | some (.file bytes) => .ok bytes

/-- The text of the file that a path leads to. -/
def readText (disk : Disk) (path : String) : Except DiskFault String :=
  match disk.readBytes path with
  | .error fault => .error fault
  | .ok bytes =>
      match String.fromUTF8? bytes with
      | some text => .ok text
      | none => .error .noText

/-- The disk with something else at a place. -/
def put (disk : Disk) (place : Place) (node : Node) : Disk :=
  { disk with node := fun p => if p = place then some node else disk.node p }

/-- The disk with bytes in the file that a path leads to.  If there is no such file, there is one
afterwards. -/
def writeBytes (disk : Disk) (path : String) (bytes : ByteArray) : Except DiskFault Disk :=
  match disk.resolve path with
  | .error fault => .error fault
  | .ok place =>
      match disk.node place with
      | some .directory => .error .isDirectory
      | _ => .ok (disk.put place (.file bytes))

/-- The disk with a text in the file that a path leads to. -/
def writeText (disk : Disk) (path : String) (text : String) : Except DiskFault Disk :=
  disk.writeBytes path text.toUTF8

/-- The disk with a directory wherever names lead on from, beginning at a place. -/
def furnish (disk : Disk) (place : Place) : List String → Disk
  | [] => disk
  | name :: names =>
      match place.enter name with
      | .ok next => (disk.put place .directory).furnish next names
      | .error _ => disk.put place .directory

/-! ## What was written is read back -/

@[simp] theorem node_put_self (disk : Disk) (place : Place) (node : Node) :
    (disk.put place node).node place = some node := by
  simp [put]

/-- Putting something at one place leaves the others alone. -/
theorem node_put_of_ne (disk : Disk) {place other : Place} (node : Node) (h : other ≠ place) :
    (disk.put place node).node other = disk.node other := by
  simp [put, h]

/-- A walk that ends where no directory is does not notice what is put there. -/
theorem walk_put {disk : Disk} {target : Place} (node : Node)
    (hfree : disk.node target ≠ some .directory) {place : Place} {names : List String}
    (h : disk.walk place names = .ok target) :
    (disk.put target node).walk place names = .ok target := by
  induction names generalizing place with
  | nil => exact h
  | cons name names ih =>
      cases hnode : disk.node place with
      | none => simp [walk, hnode] at h
      | some here =>
          cases here with
          | file bytes => simp [walk, hnode] at h
          | directory =>
              have hne : place ≠ target := fun e => hfree (e ▸ hnode)
              cases hnext : place.enter name with
              | error fault => simp [walk, hnode, hnext] at h
              | ok next =>
                  have hrest : disk.walk next names = .ok target := by
                    simpa [walk, hnode, hnext] using h
                  simp [walk, node_put_of_ne disk node hne, hnode, hnext, ih hrest]

/-- **A path that leads where no directory is still leads there once something was put there.** -/
theorem resolve_put {disk : Disk} {path : String} {target : Place} (node : Node)
    (hfree : disk.node target ≠ some .directory) (h : disk.resolve path = .ok target) :
    (disk.put target node).resolve path = .ok target := by
  unfold resolve at h ⊢
  split at h
  · cases h
  · split at h
    · cases h
    · split at h
      · cases h
      · rename_i hzero hempty hlong
        rw [if_neg hzero, if_neg hempty, if_neg hlong]
        exact walk_put node hfree h

/-- Bytes that were written are read back. -/
theorem readBytes_writeBytes {disk disk' : Disk} {path : String} {bytes : ByteArray}
    (h : disk.writeBytes path bytes = .ok disk') : disk'.readBytes path = .ok bytes := by
  unfold writeBytes at h
  split at h
  · cases h
  · rename_i place hplace
    split at h
    · cases h
    · rename_i hfree
      cases h
      simp [readBytes, resolve_put (.file bytes) hfree hplace]

/-- **What was written is read back.** -/
theorem readText_writeText {disk disk' : Disk} {path text : String}
    (h : disk.writeText path text = .ok disk') : disk'.readText path = .ok text := by
  simp [readText, readBytes_writeBytes h, String.fromUTF8?, String.toUTF8, String.fromUTF8,
    text.isValidUTF8]

end Disk

end ChipVm
