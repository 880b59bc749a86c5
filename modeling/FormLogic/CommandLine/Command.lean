import FormLogic.CommandLine.Arguments

/-! The commands, their words and their options. -/

namespace FormLogic.CommandLine

structure WordSpec where
  /-- What the word is called, in brackets that tell whether it may be left out. -/
  title : String
  about : String
deriving DecidableEq

structure CommandSpec where
  name : String
  about : String
  words : List WordSpec
  options : List OptionSpec
deriving DecidableEq

def verbosityOptions : List OptionSpec :=
  [{ name := "verbose", letter := some 'v', kind := .counter
     about := "Increase logging verbosity" },
   { name := "quiet", letter := some 'q', kind := .counter
     about := "Decrease logging verbosity" }]

def helpOption : OptionSpec where
  name := "help"
  letter := some 'h'
  kind := .request .help
  about := "Print help"

def versionOption : OptionSpec where
  name := "version"
  letter := some 'V'
  kind := .request .version
  about := "Print version"

def programOptions : List OptionSpec := verbosityOptions ++ [helpOption, versionOption]

def OptionSpec.sortKey (o : OptionSpec) : String :=
  match o.letter with
  | some c => String.ofList [c, '0']
  | none => o.name

/-- The options of a command in the order in which they are listed: the first ones of the command's
own and of those for all commands, then the second ones, and so on; help stands last. -/
def listOptions (own : List OptionSpec) : List OptionSpec :=
  let ranked := own.zipIdx ++ verbosityOptions.zipIdx
  (ranked.mergeSort fun x y =>
    x.2 < y.2 || (x.2 = y.2 && x.1.sortKey ≤ y.1.sortKey)).map (·.1) ++ [helpOption]

def valuesOption : OptionSpec where
  name := "values"
  letter := none
  kind := .path
  about := "Field values (JSON object)"
  valueTitle := "VALUES"

def entityOption : OptionSpec where
  name := "entity"
  letter := some 'e'
  kind := .path
  about := "Entity definition (JSON)"
  valueTitle := "ENTITY"
  required := true

def formulaWord : WordSpec := ⟨"<FORMULA>", "Formula text"⟩

namespace CommandSpec

def check : CommandSpec where
  name := "check"
  about := "Validate a formula and print its inferred type"
  words := [formulaWord]
  options := listOptions
    [{ name := "schema", letter := some 's', kind := .path, valueTitle := "SCHEMA"
       about := "Entity definition (JSON) whose fields form the schema" }]

def eval : CommandSpec where
  name := "eval"
  about := "Evaluate a formula against field values"
  words := [formulaWord]
  options := listOptions [valuesOption]

def controls : CommandSpec where
  name := "controls"
  about := "Evaluate the control rules of an entity"
  words := []
  options := listOptions
    [entityOption, valuesOption,
     { name := "no-infer", letter := none, kind := .flag
       about := "Do not skip rules whose condition infers to a non-boolean type" }]

def calculate : CommandSpec where
  name := "calculate"
  about := "Compute the calculated fields of an entity"
  words := []
  options := listOptions [entityOption, valuesOption]

def conflict : CommandSpec where
  name := "conflict"
  about := "Classify an override against a computed and/or control value"
  words := []
  options := listOptions
    [{ name := "field", letter := some 'f', kind := .text, valueTitle := "FIELD"
       about := "Field id", required := true },
     { name := "override", letter := none, kind := .text, valueTitle := "OVERRIDE_VALUE"
       about := "Override value (JSON)", required := true },
     { name := "computed", letter := none, kind := .text, valueTitle := "COMPUTED"
       about := "Value computed by the field's formula (JSON)" },
     { name := "control", letter := none, kind := .text, valueTitle := "CONTROL"
       about := "Value set by a control rule (JSON)" }]

/-- Its words are the name of the command that help is wanted for; it takes no options. -/
def help : CommandSpec where
  name := "help"
  about := "Print this message or the help of the given subcommand(s)"
  words := [⟨"[COMMAND]...", "Print help for the subcommand(s)"⟩]
  options := []

def all : List CommandSpec := [check, eval, controls, calculate, conflict, help]

def find? (name : String) : Option CommandSpec := all.find? (·.name = name)

end CommandSpec

inductive Topic where
  | program
  | command (c : CommandSpec)
deriving DecidableEq

inductive Command where
  | check (formula : String) (schema : Option String)
  | eval (formula : String) (values : Option String)
  | controls (entity : String) (values : Option String) (infer : Bool)
  | calculate (entity : String) (values : Option String)
  | conflict (field given : String) (computed control : Option String)
  | help (topic : Topic)
  | version
deriving DecidableEq

def Given.isConsistent (g : Given) : Bool := !(g.has "verbose" && g.has "quiet")

def Given.command? (g : Given) (name : String) : Option Command :=
  match name, g.words with
  | "check", [formula] => some (.check formula (g.value? "schema"))
  | "eval", [formula] => some (.eval formula (g.value? "values"))
  | "controls", [] =>
    (g.value? "entity").map (.controls · (g.value? "values") !(g.has "no-infer"))
  | "calculate", [] => (g.value? "entity").map (.calculate · (g.value? "values"))
  | "conflict", [] => do
    let field ← g.value? "field"
    let given ← g.value? "override"
    some (.conflict field given (g.value? "computed") (g.value? "control"))
  | _, _ => none

def Interruption.command? (topic : Topic) : Interruption → Option Command
  | misuse => none
  | request .help => some (.help topic)
  | request .version => some .version

namespace Command

/-- Help on the command that words name. No command has commands of its own. -/
def ofHelpWords? : List String → Option Command
  | [] => some (.help .program)
  | [name] => (CommandSpec.find? name).map fun c => .help (.command c)
  | _ => none

/-- The command that a name and the arguments after it mean. What is wrong with the flags before
the name matters only if the arguments are in order. -/
def ofNamed? (before : Given) (name : String) (args : List String) : Option Command :=
  if name = "help" then ofHelpWords? args
  else do
    let c ← CommandSpec.find? name
    match sortArguments c.options c.words.length args {} with
    | .error i => i.command? (.command c)
    | .ok g => if before.isConsistent && g.isConsistent then g.command? name else none

def ofArguments? (args : List String) : Option Command :=
  match sortFlags programOptions args {} with
  | .error i => i.command? .program
  | .ok (_, []) => none
  | .ok (before, name :: rest) => ofNamed? before name rest

def files : Command → List String
  | check _ schema => schema.toList
  | eval _ values => values.toList
  | controls entity values _ | calculate entity values => entity :: values.toList
  | conflict .. | help _ | version => []

end Command

end FormLogic.CommandLine
