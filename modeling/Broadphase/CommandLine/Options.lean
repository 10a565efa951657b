import Broadphase.CommandLine.Value
import Broadphase.Text.Plain

/-! # Options of a command

A command takes options that begin with two dashes.  An option is a flag or has a value, which follows
as the next word or behind an equals sign.  A value in a word of its own is only looked at when the
next option is known to be one, or at the end; so an unknown option is reported before a bad value in
front of it.

`Options.parse` turns the words of a command line into the settings of a command. -/

namespace Broadphase.CommandLine

/-- The causes for which a command line is refused. -/
inductive UsageError where
  | noCommand
  | unknownCommand (name : String)
  | unexpectedArgument (word : String)
  | unexpectedValue (value label : String)
  | missingValue (label : String)
  | repeated (label : String)
  | badValue (value label : String) (cause : ValueError)
  | missingOptions (labels : List String)
deriving DecidableEq, Repr

/-- The wording of a refused command line; its first line says it all.  Words of the command line are
shown as plain text. -/
def UsageError.message : UsageError → String
  | noCommand => "a command is required"
  | unknownCommand name => s!"unrecognized subcommand '{Text.plain name}'"
  | unexpectedArgument word => s!"unexpected argument '{Text.plain word}' found"
  | unexpectedValue value label =>
    s!"unexpected value '{Text.plain value}' for '{label}' found; no more were expected"
  | missingValue label => s!"a value is required for '{label}' but none was supplied"
  | repeated label => s!"the argument '{label}' cannot be used multiple times"
  | badValue value label cause =>
    s!"invalid value '{Text.plain value}' for '{label}': {cause.message}"
  | missingOptions labels =>
    "the following required arguments were not provided:" ++
      String.join (labels.map fun l => "\n  " ++ l)

/-- What an option does to settings. -/
inductive Effect (σ : Type) where
  | flag (set : σ → σ)
  | value (read : String → σ → Except ValueError σ)
  /-- Values divided by commas, each read in turn; more of them may be given later. -/
  | values (read : String → σ → Except ValueError σ)

/-- An option of a command with settings `σ`. -/
structure OptionSpec (σ : Type) where
  name : String
  effect : Effect σ
  help : String

/-- A word as it stands on a command line. -/
inductive Word where
  | dashes
  | long (name : String) (value? : Option String)
  /-- One dash and letters, of which the first one counts. -/
  | short (letter : Char)
  | plain (text : String)
deriving DecidableEq, Repr

/-- Tells the kinds of words apart. -/
def Word.ofString (text : String) : Word :=
  match text.toList with
  | ['-', '-'] => .dashes
  | '-' :: '-' :: cs =>
    match cs.dropWhile (· ≠ '=') with
    | [] => .long (String.ofList cs) none
    | _ :: value => .long (String.ofList (cs.takeWhile (· ≠ '='))) (some (String.ofList value))
  | '-' :: c :: _ => .short c
  | _ => .plain text

/-- Why parsing ended before all words were read. -/
inductive Stop where
  | usage (cause : UsageError)
  | help
deriving DecidableEq, Repr

namespace OptionSpec

variable {σ : Type}

/-- The name of the value of an option. -/
def valueName (o : OptionSpec σ) : String :=
  o.name.map fun c => if c = '-' then '_' else c.toUpper

/-- The option as it is shown in messages. -/
def label (o : OptionSpec σ) : String :=
  match o.effect with
  | .flag _ => "--" ++ o.name
  | _ => "--" ++ o.name ++ " <" ++ o.valueName ++ ">"

end OptionSpec

namespace Options

variable {σ : Type}

/-- How far parsing has come. -/
structure Progress (σ : Type) where
  settings : σ
  /-- The names of the options that were used. -/
  used : List String := []
  /-- The last option if it has a value, and the word that followed it. -/
  pending : Option (OptionSpec σ × Option String) := none

/-- Refuses an option that was used before. -/
def checkUnused (o : OptionSpec σ) (p : Progress σ) : Except Stop Unit :=
  if o.name ∈ p.used then .error (.usage (.repeated o.label)) else .ok ()

/-- Reads a value into the settings. -/
def applyValue (o : OptionSpec σ) (read : String → σ → Except ValueError σ) (text : String)
    (p : Progress σ) : Except Stop (Progress σ) :=
  match read text p.settings with
  | .ok settings => .ok { p with settings, used := o.name :: p.used }
  | .error .noPath => .error (.usage (.missingValue o.label))
  | .error cause => .error (.usage (.badValue text o.label cause))

/-- Applies an option with the value that was found for it. -/
def apply (o : OptionSpec σ) (text? : Option String) (p : Progress σ) : Except Stop (Progress σ) :=
  match o.effect, text? with
  | .flag set, _ => do
    checkUnused o p
    return { p with settings := set p.settings, used := o.name :: p.used }
  | .value _, none => .error (.usage (.missingValue o.label))
  | .values _, none => .error (.usage (.missingValue o.label))
  | .value read, some text => do
    checkUnused o p
    applyValue o read text p
  | .values read, some text => (text.splitOn ",").foldlM (fun p part => applyValue o read part p) p

/-- Applies the option that is pending. -/
def settle (p : Progress σ) : Except Stop (Progress σ) :=
  match p.pending with
  | none => .ok p
  | some (o, text?) => apply o text? { p with pending := none }

/-- Takes an option that stands on the command line. -/
def takeOption (o : OptionSpec σ) (value? : Option String) (p : Progress σ) :
    Except Stop (Progress σ) :=
  match o.effect, value? with
  | .flag _, some value => .error (.usage (.unexpectedValue value o.label))
  | .flag _, none => do apply o none (← settle p)
  | _, some value => do apply o (some value) (← settle p)
  | _, none => do return { (← settle p) with pending := some (o, none) }

/-- Takes one word that is not the two dashes. -/
def takeWord (options : List (OptionSpec σ)) (word : Word) (p : Progress σ) :
    Except Stop (Progress σ) :=
  match word with
  | .long "help" (some value) => .error (.usage (.unexpectedValue value "--help"))
  | .long "help" none | .short 'h' => do
    let _ ← settle p
    throw .help
  | .long name value? =>
    match options.find? (·.name = name) with
    | some o => takeOption o value? p
    | none => .error (.usage (.unexpectedArgument ("--" ++ name)))
  | .short letter => .error (.usage (.unexpectedArgument (String.ofList ['-', letter])))
  | .plain text =>
    match p.pending with
    | some (o, none) => .ok { p with pending := some (o, some text) }
    | _ => .error (.usage (.unexpectedArgument text))
  | .dashes => .ok p

/-- Takes all words.  Behind two dashes no word is an option, and commands know no other words. -/
def takeWords (options : List (OptionSpec σ)) : List String → Progress σ → Except Stop (Progress σ)
  | [], p => settle p
  | text :: texts, p =>
    match Word.ofString text with
    | .dashes =>
      match texts with
      | [] => settle p
      | next :: _ => .error (.usage (.unexpectedArgument next))
    | word => do takeWords options texts (← takeWord options word p)

/-- Parses the words behind a command into its settings, which start from the standard ones. -/
def parse (options : List (OptionSpec σ)) (standard : σ) (texts : List String) : Except Stop σ := do
  return (← takeWords options texts { settings := standard }).settings

end Options

end Broadphase.CommandLine
