import JuliaSession.Assoc
import JuliaSession.Text.Split

/-!
# Arguments

The command line is a list of words: options of the program, the name of a command, and options of
the command. `Switches.read` reads options by a table that says which of them take a value; short
options without a value may stand together in one word.
-/

namespace JuliaSession.CommandLine

/-- An option that a command line may have. -/
structure Switch where
  /-- What it is called in the result. -/
  key : String
  /-- The ways to write it. -/
  names : List String
  /-- Does it take a value? -/
  valued : Bool
  deriving DecidableEq, Repr

/-- The options of a command line that were found, in order, with their values. -/
abbrev Found := List (String × String)

namespace Found

/-- The value of the option, the last one if it was given several times. -/
def value? (found : Found) (key : String) : Option String :=
  (found.filter fun entry => entry.1 = key).getLast?.map Prod.snd

/-- All values of an option. -/
def values (found : Found) (key : String) : List String :=
  (found.filter fun entry => entry.1 = key).map Prod.snd

/-- Was the option given? -/
def has (found : Found) (key : String) : Bool := found.any fun entry => entry.1 = key

end Found

/-- The option that a word names. -/
def switch? (switches : List Switch) (name : String) : Option Switch :=
  switches.find? fun switch => switch.names.contains name

/-- Read the letters of a word of short options. An option with a value takes the rest of the word,
or else the next word. The result are the options and the words that are left. -/
def readLetters (switches : List Switch) : List Char → List String → Option (Found × List String)
  | [], words => some ([], words)
  | letter :: rest, words =>
    match switch? switches (String.ofList ['-', letter]) with
    | none => none
    | some switch =>
      -- the rest of the word, or the next word, is the value
      if switch.valued then
        match rest, words with
        | [], [] => none
        | [], word :: words => some ([(switch.key, word)], words)
        | rest, words => some ([(switch.key, String.ofList rest)], words)
      else (readLetters switches rest words).map fun (found, words) =>
        ((switch.key, "") :: found, words)

/-- Read a word that is a long option, with the words after it. -/
def readLong (switches : List Switch) (word : List Char) (words : List String) :
    Option (Found × List String) :=
  let name := word.takeWhile (· ≠ '=')
  match switch? switches (String.ofList name), word.drop name.length with
  | none, _ => none
  | some switch, [] =>
    if switch.valued then
      match words with
      | [] => none
      | value :: words => some ([(switch.key, value)], words)
    else some ([(switch.key, "")], words)
  | some switch, _ :: value =>
    if switch.valued then some ([(switch.key, String.ofList value)], words) else none

/-- Read options up to the first word that is none; the result are the options and the words that
are left. Nothing is read when an option is unknown or lacks its value. -/
def readSwitches (switches : List Switch) : Nat → List String → Option (Found × List String)
  | 0, words => some ([], words)
  | _, [] => some ([], [])
  | limit + 1, word :: words =>
    let read : Option (Found × List String) := match word.toList with
      | ['-'] => some ([], word :: words)
      | ['-', '-'] => some ([], words)
      | '-' :: '-' :: name => readLong switches ('-' :: '-' :: name) words
      | '-' :: letters => readLetters switches letters words
      | _ => some ([], word :: words)
    match read with
    | none => none
    | some ([], words) => some ([], words)
    | some (found, words) =>
      (readSwitches switches limit words).map fun (more, words) => (found ++ more, words)

/-! ### The command line of the program -/

/-- Where the parts of an installation are, as far as the user says. -/
structure Places where
  /-- The directory of the extension. -/
  extension : Option String
  /-- The storage for the compiled server. -/
  storage : Option String
  deriving DecidableEq, Repr

/-- A command of the program. -/
inductive Command where
  /-- Start the server, open some files and wait for the server to end. -/
  | start (places : Places) (files : List String) (assumeYes : Bool)
  /-- Compile the server. -/
  | compile (places : Places)
  /-- Show the status of the server's packages. -/
  | deps (places : Places) (assumeYes : Bool)
  /-- Show the command line that would start the server. -/
  | plan (places : Places) (assumeYes : Bool)
  /-- Show the settings or where they are. -/
  | config (present path : Bool)
  deriving DecidableEq, Repr

/-- The help option, which every command has. -/
def help : Switch := ⟨"help", ["--help"], false⟩

/-- The options of the program. -/
def programSwitches : List Switch :=
  [⟨"version", ["--version", "-v"], false⟩, ⟨"level", ["--log-level"], true⟩,
    ⟨"logs", ["--print-logs"], false⟩, help]

/-- The options that name the parts of an installation. -/
def placeSwitches : List Switch :=
  [⟨"extension", ["--extension-path", "-e"], true⟩, ⟨"storage", ["--storage-path", "-s"], true⟩,
    help]

/-- The option that answers every question by yes. -/
def yes : Switch := ⟨"yes", ["--yes", "-y"], false⟩

/-- The options of a command. -/
def commandSwitches : String → Option (List Switch)
  | "start" => some (⟨"open", ["--open", "-o"], true⟩ :: yes :: placeSwitches)
  | "compile" => some placeSwitches
  | "deps" | "plan" => some (yes :: placeSwitches)
  | "config" => some [⟨"show", ["--show"], false⟩, ⟨"path", ["--path"], false⟩, help]
  | _ => none

/-- The places that options name; `variable` gives the environment variables that stand in for
options. -/
def Places.of (found : Found) (fromEnv : String → Option String) : Places :=
  let place (key name : String) : Option String :=
    match found.value? key with
    | some value => some value
    | none =>
      match fromEnv name with
      | some "" => none
      | value => value
  ⟨place "extension" "JULIALS_EXTENSION_PATH", place "storage" "JULIALS_STORAGE_PATH"⟩

/-- The command of a name with some options. -/
def Command.of (name : String) (found : Found) (fromEnv : String → Option String) :
    Option Command :=
  let places := Places.of found fromEnv
  match name with
  | "start" => some (.start places (found.values "open") (found.has "yes"))
  | "compile" => some (.compile places)
  | "deps" => some (.deps places (found.has "yes"))
  | "plan" => some (.plan places (found.has "yes"))
  | "config" => some (.config (found.has "show") (found.has "path"))
  | _ => none

/-- What a part of the command line asks for. -/
inductive Wish (α : Type) where
  /-- Help. -/
  | help
  /-- Something that cannot be understood. -/
  | unclear
  /-- Something to do. -/
  | act (what : α)
  deriving DecidableEq, Repr

/-- The command of a name with its words; no word may be left. -/
def Command.read (name : String) (words : List String) (fromEnv : String → Option String) :
    Wish Command :=
  let read (switches : List Switch) := readSwitches switches (words.length + 1) words
  match (commandSwitches name).bind read with
  | some (found, rest) =>
    if found.has "help" then .help
    else
      match rest, Command.of name found fromEnv with
      | [], some command => .act command
      | _, _ => .unclear
  | none => .unclear

end JuliaSession.CommandLine
