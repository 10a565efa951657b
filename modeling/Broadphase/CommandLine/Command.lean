import Broadphase.CommandLine.Options

/-! # Commands

The program knows three commands: a sweep of benchmarks, a simulation, and a single detection.  A
request is one of them, or asks for a help page or the version. -/

namespace Broadphase.CommandLine

/-- Settings of a sweep of benchmarks. -/
structure SweepSettings where
  /-- The sizes that were asked for; none stands for the standard ones. -/
  sizes : List UInt64 := []
  iterations : UInt32 := 3
  cellSize : Float := 32
  seed? : Option UInt64 := none
  json : Bool := false

/-- Settings of a simulation. -/
structure SimulateSettings where
  objects? : Option UInt64 := none
  frames : UInt64 := 120
  fps : UInt32 := 240
  config? : Option String := none
  saveConfig : Bool := false
  json : Bool := false

/-- Settings of a single detection. -/
structure DetectSettings where
  objects : UInt64
  naive : Bool := false
  cellSize : Float := 32
  seed : UInt64 := 1
  json : Bool := false

/-- A command with its settings. -/
inductive Command where
  | sweep (settings : SweepSettings)
  | simulate (settings : SimulateSettings)
  | detect (settings : DetectSettings)

/-- What a help page is about. -/
inductive Topic where
  | program
  | sweep
  | simulate
  | detect
  | help
deriving DecidableEq, Repr

/-- What is asked of the program. -/
inductive Request where
  | run (command : Command)
  | help (topic : Topic)
  | version

namespace SweepSettings

/-- The sizes of a sweep that names none. -/
def standardSizes : List UInt64 := [10, 50, 100, 500, 1000]

/-- The sizes to compare. -/
def sizesOrStandard (s : SweepSettings) : List UInt64 :=
  if s.sizes.isEmpty then standardSizes else s.sizes

/-- The options of a sweep. -/
def options : List (OptionSpec SweepSettings) := [
  { name := "sizes", help := "Comma-separated object counts, measured in order"
    effect := .values fun t s => return { s with sizes := s.sizes ++ [← Value.word64 t] } },
  { name := "iterations", help := "Measured runs per detector and size"
    effect := .value fun t s => return { s with iterations := ← Value.word32 t } },
  { name := "cell-size", help := "Spatial-hash cell edge length"
    effect := .value fun t s => return { s with cellSize := ← Value.float t } },
  { name := "seed", help := "Base seed for generated test sets"
    effect := .value fun t s => return { s with seed? := some (← Value.word64 t) } },
  { name := "json", help := "Emit JSON instead of a table"
    effect := .flag fun s => { s with json := true } }]

end SweepSettings

namespace SimulateSettings

/-- The options of a simulation. -/
def options : List (OptionSpec SimulateSettings) := [
  { name := "objects", help := "Object count (overrides the config file)"
    effect := .value fun t s => return { s with objects? := some (← Value.word64 t) } },
  { name := "frames", help := "Frames to run"
    effect := .value fun t s => return { s with frames := ← Value.word64 t } },
  { name := "fps", help := "Target frame rate of the host timer"
    effect := .value fun t s => return { s with fps := ← Value.word32 t } },
  { name := "config", help := "Directory holding `sim.json`"
    effect := .value fun t s => return { s with config? := some (← Value.path t) } },
  { name := "save-config", help := "Write the effective config back to `--config`"
    effect := .flag fun s => { s with saveConfig := true } },
  { name := "json", help := "Emit JSON instead of a table"
    effect := .flag fun s => { s with json := true } }]

/-- Saving needs a directory to save in. -/
def check (s : SimulateSettings) : Except Stop SimulateSettings :=
  if s.saveConfig && s.config?.isNone then .error (.usage (.missingOptions ["--config <CONFIG>"]))
  else .ok s

end SimulateSettings

namespace DetectSettings

/-- Settings of a detection of which the number of objects may not be known yet. -/
structure Draft where
  objects? : Option UInt64 := none
  naive : Bool := false
  cellSize : Float := 32
  seed : UInt64 := 1
  json : Bool := false

/-- The options of a detection. -/
def options : List (OptionSpec Draft) := [
  { name := "objects", help := "Object count"
    effect := .value fun t s => return { s with objects? := some (← Value.word64 t) } },
  { name := "naive", help := "Use the all-pairs detector"
    effect := .flag fun s => { s with naive := true } },
  { name := "cell-size", help := "Spatial-hash cell edge length"
    effect := .value fun t s => return { s with cellSize := ← Value.float t } },
  { name := "seed", help := "Seed for the generated set"
    effect := .value fun t s => return { s with seed := ← Value.word64 t } },
  { name := "json", help := "Emit JSON instead of a table"
    effect := .flag fun s => { s with json := true } }]

/-- The number of objects is required. -/
def check (d : Draft) : Except Stop DetectSettings :=
  match d.objects? with
  | some objects =>
    .ok { objects, naive := d.naive, cellSize := d.cellSize, seed := d.seed, json := d.json }
  | none => .error (.usage (.missingOptions ["--objects <OBJECTS>"]))

end DetectSettings

namespace Topic

/-- The word that names a command. -/
def word : Topic → String
  | program => "gridphase"
  | sweep => "sweep"
  | simulate => "simulate"
  | detect => "detect"
  | help => "help"

/-- The commands in the order in which they are listed. -/
def commands : List Topic := [sweep, simulate, detect, help]

/-- The command that a word names. -/
def ofWord? (text : String) : Option Topic := commands.find? (·.word = text)

/-- What the program or a command is for. -/
def about : Topic → String
  | program => "gridphase: broad-phase collision benchmarks and simulation"
  | sweep => "Measure naive vs spatial-hash detection across object counts"
  | simulate => "Run a headless simulation for a fixed number of frames"
  | detect => "Detect collisions once on a generated set"
  | help => "Print this message or the help of the given subcommand(s)"

/-- The lines of a help page that list something with an explanation. -/
def listing (entries : List (String × String)) : String :=
  let width := (entries.map fun e => e.1.length).foldl max 0
  String.join (entries.map fun (name, text) =>
    "  " ++ name ++ String.ofList (List.replicate (width + 2 - name.length) ' ') ++ text ++ "\n")

/-- The options of a command with their explanations. -/
def optionEntries {σ : Type} (options : List (OptionSpec σ)) : List (String × String) :=
  options.map (fun o => (o.label, o.help)) ++ [("-h, --help", "Print help")]

/-- The help page. -/
def page (topic : Topic) : String :=
  let options (entries : List (String × String)) :=
    topic.about ++ "\n\nUsage: gridphase " ++ topic.word ++ " [OPTIONS]\n\nOptions:\n" ++
      listing entries
  match topic with
  | program =>
    topic.about ++ "\n\nUsage: gridphase <COMMAND>\n\nCommands:\n" ++
      listing (commands.map fun c => (c.word, c.about)) ++ "\nOptions:\n" ++
      listing [("-h, --help", "Print help"), ("-V, --version", "Print version")]
  | sweep => options (optionEntries SweepSettings.options)
  | simulate => options (optionEntries SimulateSettings.options)
  | detect => options (optionEntries DetectSettings.options)
  | help => topic.about ++ "\n\nUsage: gridphase help [COMMAND]...\n"

end Topic

namespace Request

/-- The help page for the words behind the help command. -/
def ofHelp : List String → Except UsageError Request
  | [] => .ok (.help .program)
  | name :: names =>
    match Topic.ofWord? name, names with
    | none, _ => .error (.unknownCommand name)
    | some topic, [] => .ok (.help topic)
    | some _, next :: _ => .error (.unknownCommand next)

/-- A stop for help asks for the page of the command. -/
def ofParsed (topic : Topic) : Except Stop Command → Except UsageError Request
  | .ok command => .ok (.run command)
  | .error .help => .ok (.help topic)
  | .error (.usage cause) => .error cause

/-- The request for a command, given the words behind it. -/
def ofCommand (texts : List String) : Topic → Except UsageError Request
  | .sweep => ofParsed .sweep do
    return .sweep (← Options.parse SweepSettings.options {} texts)
  | .simulate => ofParsed .simulate do
    return .simulate (← (← Options.parse SimulateSettings.options {} texts).check)
  | .detect => ofParsed .detect do
    return .detect (← DetectSettings.check (← Options.parse DetectSettings.options {} texts))
  | .help => ofHelp texts
  | .program => .error .noCommand

/-- Behind two dashes not even a command is known by its name. -/
def afterDashes : List String → Except UsageError Request
  | [] => .error .noCommand
  | text :: _ =>
    match Topic.ofWord? text with
    | some _ => .error (.unexpectedArgument text)
    | none => .error (.unknownCommand text)

/-- The request that a command line makes. -/
def parse : List String → Except UsageError Request
  | [] => .error .noCommand
  | text :: texts =>
    match Topic.ofWord? text with
    | some topic => ofCommand texts topic
    | none =>
      match Word.ofString text with
      | .dashes => afterDashes texts
      | .long "help" none | .short 'h' => .ok (.help .program)
      | .long "version" none | .short 'V' => .ok .version
      | .long "help" (some value) => .error (.unexpectedValue value "--help")
      | .long "version" (some value) => .error (.unexpectedValue value "--version")
      | .long name _ => .error (.unexpectedArgument ("--" ++ name))
      | .short letter => .error (.unexpectedArgument (String.ofList ['-', letter]))
      | .plain _ => .error (.unknownCommand text)

end Request

end Broadphase.CommandLine
