import TextTemplate.Text.Search

set_option autoImplicit false

/-! # Options of the command line

The arguments of a call are switches and one template. A switch has a long name and perhaps a letter; letters can be
joined behind one minus sign. The value of a switch follows an equals sign, the letter itself, or as the next argument,
which must not look like a switch. Behind `--` there are no switches. Only bindings may be repeated.

The two switches that ask for information in place of a call are left out: `--help` or `-h`, and `--version` or `-V`.
They print to the standard output and succeed; here they are unknown switches and make the arguments malformed. -/

namespace TextTemplate

/-- The options of a call. -/
structure Options where
  template : Option String := none
  /-- Bindings of variables, in order. -/
  bindings : List String := []
  left : Option String := none
  right : Option String := none
  config : Option String := none
  verbose : Bool := false
  tree : Bool := false
deriving DecidableEq, Repr

/-- The switches. -/
inductive Switch
  /-- Binds a variable. -/
  | set
  /-- Gives the left delimiter. -/
  | left
  /-- Gives the right delimiter. -/
  | right
  /-- Names a configuration file. -/
  | config
  /-- Asks for more messages. -/
  | verbose
  /-- Asks for the tree in place of the output. -/
  | tree
deriving DecidableEq, Repr

namespace Switch

/-- The switch of a long name. -/
def ofLong? (name : List Char) : Option Switch :=
  match String.ofList name with
  | "set" => some set
  | "left" => some left
  | "right" => some right
  | "config" => some config
  | "verbose" => some verbose
  | "tree" => some tree
  | _ => none

/-- The switch of a letter. -/
def ofLetter? (letter : Char) : Option Switch :=
  match letter with
  | 's' => some set
  | 'c' => some config
  | 'v' => some verbose
  | _ => none

/-- Whether a value belongs to the switch. -/
def takesValue : Switch → Bool
  | verbose | tree => false
  | _ => true

end Switch

namespace Options

/-- Takes a value that may be given once. -/
def once (old : Option String) (value : String) : Option (Option String) :=
  if old = none then some (some value) else none

/-- Sets a switch that may be set once. -/
def flag (old : Bool) : Option Bool := if old then none else some true

/-- Takes a switch with its value; a switch without one gets the empty text. -/
def apply (options : Options) (switch : Switch) (value : String) : Option Options :=
  match switch with
  | .set => some { options with bindings := options.bindings ++ [value] }
  | .left => do return { options with left := ← once options.left value }
  | .right => do return { options with right := ← once options.right value }
  | .config =>
    if value = "" then none else do return { options with config := ← once options.config value }
  | .verbose => do return { options with verbose := ← flag options.verbose }
  | .tree => do return { options with tree := ← flag options.tree }

/-- Takes the template, which must not be empty. -/
def takeTemplate (options : Options) (template : String) : Option Options :=
  if template = "" then none
  else do return { options with template := ← once options.template template }

/-- Takes joined letters; a switch whose value is still to come is given back. -/
def letters (options : Options) : List Char → Option (Options × Option Switch)
  | [] => some (options, none)
  | letter :: rest => do
    let switch ← Switch.ofLetter? letter
    if !switch.takesValue then letters (← options.apply switch "") rest
    else if rest = [] then some (options, some switch)
    else
      -- an equals sign behind the letter does not belong to the value
      let value := String.ofList (Text.dropLeading '=' rest)
      return (← options.apply switch value, none)

/-- Takes a long switch, with its value if that is in the same argument; a switch whose value is still to come is given
back. -/
def long (options : Options) (text : List Char) : Option (Options × Option Switch) :=
  match Text.splitFirst? ['='] text with
  | some (name, value) => do
    let switch ← Switch.ofLong? name
    if switch.takesValue then return (← options.apply switch (String.ofList value), none) else none
  | none => do
    let switch ← Switch.ofLong? text
    if switch.takesValue then some (options, some switch)
    else return (← options.apply switch "", none)

/-- Whether an argument can be the value of a switch. -/
def isValue (argument : String) : Bool := argument.toList.head? ≠ some '-' || argument = "-"

/-- Takes the arguments one after another; `waiting` is a switch whose value is to come. -/
def take (options : Options) (waiting : Option Switch) : List String → Option Options
  | [] => if waiting = none then some options else none
  | argument :: rest =>
    match waiting with
    | some switch =>
      if isValue argument then do take (← options.apply switch argument) none rest else none
    | none =>
      if argument = "--" then rest.foldlM takeTemplate options
      else
        match argument.toList with
        | '-' :: '-' :: name => do
          let (options, waiting) ← options.long name
          take options waiting rest
        | '-' :: first :: more => do
          let (options, waiting) ← options.letters (first :: more)
          take options waiting rest
        | _ => do take (← options.takeTemplate argument) none rest

/-- The options that arguments give, unless they are malformed. Arguments that ask for help or for the version count
as malformed. -/
def ofArguments? (arguments : List String) : Option Options := take {} none arguments

end Options

end TextTemplate
