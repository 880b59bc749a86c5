import FormLogic.CommandLine.Command

/-! What the program tells about itself and its commands: what a command is for, how it is written,
and a table each of commands, words and options. -/

namespace FormLogic.CommandLine

def programName : String := "fieldrules"

def programVersion : String := "0.1.0"

def programAbout : String := "Check and evaluate field formulas and control rules"

/-- Lines of two columns under a title; without lines there is no title either. -/
def table (title : String) (rows : List (String × String)) : List String :=
  let width := (rows.map (·.1.length)).foldl max 0
  let line (row : String × String) : String :=
    "  " ++ row.1 ++ String.ofList (List.replicate (width - row.1.length) ' ') ++ "  " ++ row.2
  if rows.isEmpty then [] else "" :: (title ++ ":") :: rows.map line

namespace OptionSpec

def longForm (o : OptionSpec) : String :=
  "--" ++ o.name ++ (if o.takesValue then " <" ++ o.valueTitle ++ ">" else "")

def form (o : OptionSpec) : String :=
  (match o.letter with
    | some c => String.ofList ['-', c, ',', ' ']
    | none => "    ") ++ o.longForm ++ (if o.kind = .counter then "..." else "")

def isOptional (o : OptionSpec) : Bool :=
  match o.kind with
  | .request _ => false
  | .counter | .flag | .text | .path => !o.required

end OptionSpec

def optionTable (options : List OptionSpec) : List String :=
  table "Options" (options.map fun o => (o.form, o.about))

def CommandSpec.parts (c : CommandSpec) : List String :=
  (if c.options.any (·.isOptional) then ["[OPTIONS]"] else []) ++
    (c.options.filter (·.required)).map (·.longForm) ++ c.words.map (·.title)

namespace Topic

def manual : Topic → List String
  | program =>
    [programAbout, "", "Usage: " ++ programName ++ " [OPTIONS] <COMMAND>"] ++
      table "Commands" (CommandSpec.all.map fun c => (c.name, c.about)) ++
      optionTable programOptions
  | command c =>
    [c.about, "", "Usage: " ++ " ".intercalate (programName :: c.name :: c.parts)] ++
      table "Arguments" (c.words.map fun w => (w.title, w.about)) ++ optionTable c.options

end Topic

end FormLogic.CommandLine
