import ChipVm.Options

/-!
# The command line

A command line names the program to run and any of four options, in any order.  An option that
takes a value can be written in several ways: the value may be the argument after it, or be attached
to it with an equals sign, and with the short name also without one.  An argument that begins with a
dash is never taken as the value of the option before it, except for a dash alone.  After two
dashes alone, nothing is an option any more.

An option whose value is the argument after it is not taken in at once: it waits until something
else is taken in, or the line ends.  A mistake in it is therefore reported later than a mistake that
shows on its own, such as an option that does not exist.  The same holds for the name of the
program.

* `Setting` — the options that take a value.
* `Rejection` — why a command line is not run, asking for help included.
* `Argument.ofString` — what an argument looks like.
* `CommandLine.readScale`, `CommandLine.readSpeed` — the numbers that values stand for.
* `CommandLine.Progress`, `CommandLine.settle` — what has been read, and taking in what waits.
* `CommandLine.takeArgument` — one more argument; `CommandLine.parse` — the whole line.
* **`CommandLine.parse_rom`** — a program alone is run with the standard options.
-/

namespace ChipVm

/-- An option that takes a value. -/
inductive Setting where
  | scale
  | clockSpeed
  | stateFile
  deriving DecidableEq, Repr

/-- Why a command line is not run. -/
inductive Rejection where
  /-- No program is named. -/
  | missingRom
  /-- There is no such option, or there is one name too many. -/
  | unknownArgument
  /-- An option has no value, or a file has no name. -/
  | noValue
  /-- A value is no number, or too large a one. -/
  | badNumber
  /-- An option is given twice. -/
  | repeated
  /-- An option that takes no value has one. -/
  | unexpectedValue
  /-- Help is asked for. -/
  | help
  /-- The version is asked for. -/
  | version
  deriving DecidableEq, Repr

/-! ## Arguments -/

/-- What an argument looks like. -/
inductive Argument where
  /-- Two dashes alone. -/
  | separator
  /-- Two dashes and a name, with what stands after an equals sign. -/
  | long (name : String) (value : Option String)
  /-- A dash and a letter, with what stands after the letter. -/
  | short (letter : Char) (rest : List Char)
  /-- Anything else. -/
  | plain (text : String)
  deriving DecidableEq, Repr

/-- What an argument looks like. -/
def Argument.ofString (text : String) : Argument :=
  match text.toList with
  | ['-', '-'] => .separator
  | '-' :: '-' :: rest =>
      let name := String.ofList (rest.takeWhile (· ≠ '='))
      match rest.dropWhile (· ≠ '=') with
      | [] => .long name none
      | _ :: value => .long name (some (String.ofList value))
  | '-' :: letter :: rest => .short letter rest
  | _ => .plain text

namespace CommandLine

/-- A decimal numeral, with a sign before it or without: whether the sign is a minus, and the value
of the digits. -/
def readNumeral (text : String) : Option (Bool × Nat) :=
  let (negative, digits) :=
    match text.toList with
    | '+' :: rest => (false, rest)
    | '-' :: rest => (true, rest)
    | cs => (false, cs)
  if digits ≠ [] ∧ digits.all Char.isDigit then
    some (negative, Nat.ofDigitChars 10 digits 0)
  else none

/-- The size of a cell that a text stands for: an integer that has to be in range, so that zero may
have a minus sign. -/
def readScale (text : String) : Option Nat :=
  match readNumeral text with
  | some (negative, n) =>
      if n < 0x100000000 ∧ (negative = true → n = 0) then some n else none
  | none => none

/-- The speed that a text stands for: a numeral without a minus sign. -/
def readSpeed (text : String) : Option Nat :=
  match readNumeral text with
  | some (false, n) => if n < 0x10000000000000000 then some n else none
  | _ => none

/-! ## Progress -/

/-- What has been read but not taken in. -/
inductive Waiting where
  | nothing
  /-- An option, and its value if that has been read. -/
  | setting (s : Setting) (value : Option String)
  /-- The name of the program. -/
  | rom (path : String)

/-- What has been read of a command line. -/
structure Progress where
  /-- The program. -/
  rom : Option String
  /-- The size of a cell. -/
  scale : Option Nat
  /-- The speed. -/
  clockSpeed : Option Nat
  /-- The file for the state. -/
  stateFile : Option String
  /-- Whether the option to start paused was given. -/
  paused : Bool
  /-- What waits to be taken in. -/
  waiting : Waiting

/-- Nothing has been read. -/
def Progress.start : Progress where
  rom := none
  scale := none
  clockSpeed := none
  stateFile := none
  paused := false
  waiting := .nothing

/-- Whether an option has been taken in. -/
def Progress.has (p : Progress) : Setting → Bool
  | .scale => p.scale.isSome
  | .clockSpeed => p.clockSpeed.isSome
  | .stateFile => p.stateFile.isSome

/-- Takes in the value of an option that has not been given before. -/
def takeValue (p : Progress) (s : Setting) (value : String) : Except Rejection Progress :=
  match s with
  | .scale =>
      match readScale value with
      | some n => .ok { p with scale := some n }
      | none => .error .badNumber
  | .clockSpeed =>
      match readSpeed value with
      | some n => .ok { p with clockSpeed := some n }
      | none => .error .badNumber
  | .stateFile =>
      if value = "" then .error .noValue else .ok { p with stateFile := some value }

/-- Takes in an option with its value. -/
def takeSetting (p : Progress) (s : Setting) (value : String) : Except Rejection Progress :=
  if p.has s then .error .repeated else takeValue p s value

/-- Takes in what waits. -/
def settle (p : Progress) : Except Rejection Progress :=
  let rested := { p with waiting := .nothing }
  match p.waiting with
  | .nothing => .ok rested
  | .setting _ none => .error .noValue
  | .setting s (some value) => takeSetting rested s value
  | .rom path => if path = "" then .error .noValue else .ok { rested with rom := some path }

/-! ## Reading -/

/-- An option with a value, which is attached or still to come. -/
def takeOption (p : Progress) (s : Setting) (attached : Option String) :
    Except Rejection Progress := do
  let p ← settle p
  match attached with
  | some value => takeSetting p s value
  | none => return { p with waiting := .setting s none }

/-- The option to start paused. -/
def takePaused (p : Progress) : Except Rejection Progress := do
  let p ← settle p
  if p.paused then .error .repeated else return { p with paused := true }

/-- An argument that ends the reading, unless what waits is at fault. -/
def takeRequest (p : Progress) (request : Rejection) : Except Rejection Progress := do
  let _ ← settle p
  .error request

/-- An option without a value. -/
def takeFlag (p : Progress) (value : Option String)
    (take : Progress → Except Rejection Progress) : Except Rejection Progress :=
  match value with
  | some _ => .error .unexpectedValue
  | none => take p

/-- An option by its long name. -/
def takeLong (p : Progress) (name : String) (value : Option String) :
    Except Rejection Progress :=
  match name with
  | "scale" => takeOption p .scale value
  | "clock-speed" => takeOption p .clockSpeed value
  | "state-file" => takeOption p .stateFile value
  | "paused" => takeFlag p value takePaused
  | "help" => takeFlag p value (takeRequest · .help)
  | "version" => takeFlag p value (takeRequest · .version)
  | _ => .error .unknownArgument

/-- The value that stands directly after the letter of an option. -/
def attachedValue : List Char → Option String
  | [] => none
  | '=' :: rest => some (String.ofList rest)
  | rest => some (String.ofList rest)

/-- An option by its letter. -/
def takeShort (p : Progress) (letter : Char) (rest : List Char) : Except Rejection Progress :=
  match letter with
  | 's' => takeOption p .scale (attachedValue rest)
  | 'c' => takeOption p .clockSpeed (attachedValue rest)
  | 'h' => takeRequest p .help
  | 'V' => takeRequest p .version
  | _ => .error .unknownArgument

/-- Whether the name of the program has been read. -/
def Progress.namesRom (p : Progress) : Bool :=
  match p.waiting with
  | .rom _ => true
  | _ => p.rom.isSome

/-- A name. -/
def takeName (p : Progress) (text : String) : Except Rejection Progress :=
  if p.namesRom then .error .unknownArgument
  else do
    let p ← settle p
    return { p with waiting := .rom text }

/-- An argument that is no option: the value that an option waits for, or else a name. -/
def takePlain (p : Progress) (text : String) : Except Rejection Progress :=
  match p.waiting with
  | .setting s none => .ok { p with waiting := .setting s (some text) }
  | _ => takeName p text

/-- One argument where options may stand. -/
def takeArgument (p : Progress) (a : Argument) : Except Rejection Progress :=
  match a with
  | .separator => .ok p
  | .long name value => takeLong p name value
  | .short letter rest => takeShort p letter rest
  | .plain text => takePlain p text

/-- The arguments of a line, up to two dashes alone and after them. -/
def takeAll (p : Progress) : List String → Except Rejection Progress
  | [] => .ok p
  | text :: rest =>
      match Argument.ofString text with
      | .separator => rest.foldlM takeName p
      | a =>
          match takeArgument p a with
          | .ok p => takeAll p rest
          | .error rejection => .error rejection

/-- The choices that were read, with the standard ones for what was not said. -/
def Progress.options (p : Progress) : Except Rejection Options :=
  match p.rom with
  | none => .error .missingRom
  | some rom =>
      let standard := Options.standard rom
      .ok
        { rom := rom
          scale := p.scale.getD standard.scale
          clockSpeed := p.clockSpeed.getD standard.clockSpeed
          stateFile := p.stateFile.getD standard.stateFile
          paused := p.paused }

/-- The choices that a command line makes. -/
def parse (arguments : List String) : Except Rejection Options := do
  let p ← takeAll Progress.start arguments
  let p ← settle p
  p.options

/-! ## Small facts -/

/-- **A program alone is run with the standard options.** -/
theorem parse_rom {rom : String} (h : Argument.ofString rom = .plain rom) (hne : rom ≠ "") :
    parse [rom] = .ok (Options.standard rom) := by
  simp [parse, takeAll, h, takeArgument, takePlain, takeName, Progress.start, Progress.namesRom,
    settle, Progress.options, Options.standard, hne, bind, Except.bind, pure, Except.pure]

end CommandLine

end ChipVm
