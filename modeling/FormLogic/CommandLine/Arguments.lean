/-! Arguments of a command line sorted into words, flags and options with values. An argument that
starts with a hyphen is no word unless it follows `--`, and no value of an option unless it is
attached to it; a hyphen alone is an ordinary word. Arguments are read from left to right, and the
first one that is out of place, or asks for something else than a command, ends the reading. -/

namespace FormLogic.CommandLine

inductive Request where
  | help
  | version
deriving DecidableEq, Repr

/-- Why the reading of arguments ends early. -/
inductive Interruption where
  | misuse
  | request (r : Request)
deriving DecidableEq, Repr

inductive OptionKind where
  | counter
  | flag
  | text
  | path
  | request (r : Request)
deriving DecidableEq, Repr

/-- An option with its name after two hyphens, and perhaps a letter for it after one. -/
structure OptionSpec where
  name : String
  letter : Option Char
  kind : OptionKind
  about : String
  valueTitle : String := ""
  required : Bool := false
deriving DecidableEq

def OptionSpec.takesValue (o : OptionSpec) : Bool := o.kind = .text ∨ o.kind = .path

structure Given where
  words : List String := []
  flags : List String := []
  values : List (String × String) := []
deriving DecidableEq

namespace Given

def addWords (g : Given) (capacity : Nat) (words : List String) : Except Interruption Given :=
  if g.words.length + words.length ≤ capacity then .ok { g with words := g.words ++ words }
  else .error .misuse

def setFlag (g : Given) (o : OptionSpec) : Except Interruption Given :=
  match o.kind with
  | .request r => .error (.request r)
  | .counter => .ok { g with flags := g.flags ++ [o.name] }
  | .flag | .text | .path =>
    if o.name ∈ g.flags then .error .misuse else .ok { g with flags := g.flags ++ [o.name] }

def setValue (g : Given) (o : OptionSpec) (value : String) : Except Interruption Given :=
  if g.values.any (·.1 = o.name) ∨ (o.kind = .path ∧ value = "") then .error .misuse
  else .ok { g with values := g.values ++ [(o.name, value)] }

def has (g : Given) (flag : String) : Bool := flag ∈ g.flags

def value? (g : Given) (name : String) : Option String :=
  (g.values.find? (·.1 = name)).map (·.2)

end Given

/-- How an argument is written. -/
inductive Shape where
  | separator
  | long (name : String) (value : Option String)
  | letters (cs : List Char)
  | word
deriving DecidableEq

def shape (arg : String) : Shape :=
  match arg.toList with
  | ['-', '-'] => .separator
  | '-' :: '-' :: cs =>
    .long (String.ofList (cs.takeWhile (· ≠ '=')))
      (match cs.dropWhile (· ≠ '=') with
        | _ :: value => some (String.ofList value)
        | [] => none)
  | '-' :: c :: cs => .letters (c :: cs)
  | _ => .word

/-- The value attached to a letter, which may follow an equals sign. -/
def attached : List Char → String
  | '=' :: cs => String.ofList cs
  | cs => String.ofList cs

/-- What an argument leaves: all that is given so far, and an option that still waits for its
value. -/
abbrev Taken := Given × Option OptionSpec

def takeLetters (specs : List OptionSpec) : List Char → Given → Except Interruption Taken
  | [], g => .ok (g, none)
  | c :: cs, g =>
    match specs.find? (·.letter = some c) with
    | none => .error .misuse
    | some o =>
      if !o.takesValue then
        match g.setFlag o with
        | .ok g => takeLetters specs cs g
        | .error i => .error i
      else if cs.isEmpty then .ok (g, some o)
      else (g.setValue o (attached cs)).map (·, none)

def takeLong (specs : List OptionSpec) (name : String) (value : Option String) (g : Given) :
    Except Interruption Taken :=
  match specs.find? (·.name = name), value with
  | none, _ => .error .misuse
  | some o, some value =>
    if o.takesValue then (g.setValue o value).map (·, none) else .error .misuse
  | some o, none => if o.takesValue then .ok (g, some o) else (g.setFlag o).map (·, none)

def sortArguments (specs : List OptionSpec) (capacity : Nat) :
    List String → Given → Except Interruption Given
  | [], g => .ok g
  | arg :: rest, g =>
    match shape arg with
    | .separator => g.addWords capacity rest
    | .word =>
      match g.addWords capacity [arg] with
      | .ok g => sortArguments specs capacity rest g
      | .error i => .error i
    | .letters cs => awaitValue rest (takeLetters specs cs g)
    | .long name value => awaitValue rest (takeLong specs name value g)
where
  awaitValue (rest : List String) : Except Interruption Taken → Except Interruption Given
    | .error i => .error i
    | .ok (g, none) => sortArguments specs capacity rest g
    | .ok (g, some o) =>
      match rest with
      | [] => .error .misuse
      | value :: rest =>
        if shape value = .word then
          match g.setValue o value with
          | .ok g => sortArguments specs capacity rest g
          | .error i => .error i
        else .error .misuse

/-- Sorts the flags before the first word; what is left starts with it. -/
def sortFlags (specs : List OptionSpec) :
    List String → Given → Except Interruption (Given × List String)
  | [], g => .ok (g, [])
  | arg :: rest, g =>
    let onward : Except Interruption Taken → Except Interruption (Given × List String)
      | .ok (g, none) => sortFlags specs rest g
      | .ok (_, some _) => .error .misuse
      | .error i => .error i
    match shape arg with
    | .separator => .error .misuse
    | .word => .ok (g, arg :: rest)
    | .letters cs => onward (takeLetters specs cs g)
    | .long name value => onward (takeLong specs name value g)

end FormLogic.CommandLine
