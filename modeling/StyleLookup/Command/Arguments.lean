import StyleLookup.Matcher.Basic
import StyleLookup.Output.Format
import StyleLookup.Text.Pieces
import StyleLookup.Text.Terminal

/-!
# Arguments of the command line

A command line is read from the left.

* `--name` opens an option. An option takes the next argument as its value, and one that may have
  several values takes all that follow, as long as they do not start with a dash. What an option
  took is checked when something else follows it: an option, the stylesheet, or the end.
* `--name=value` is an option with exactly one value.
* `--` makes all that follows positional. The only positional argument is the stylesheet.

An option that does not exist, or a second stylesheet, is an error before what the last option took
is checked.
-/

namespace StyleLookup.Command

/-- How a resolution is written. -/
inductive Emit where
  | js
  | json
deriving Repr, DecidableEq

/-- The options with a value. -/
inductive OptionName where
  | from
  | selector
  | list
  | regex
  | flags
  | map
  | format
  | accessor
  | emit
deriving Repr, DecidableEq

/-- Why a command line is refused. -/
inductive UsageFault where
  | mapEntry (text : String)
  | format (text : String)
  | emit (text : String)
  /-- Arguments are missing, unknown, repeated or in conflict. -/
  | misused
deriving Repr, DecidableEq

/-- The wording for a value that an option refuses, with the styles of a terminal. -/
def refusedValue (value option reason : String) : String :=
  Text.Terminal.inStyle 31 "error:" ++ " invalid value '" ++ Text.Terminal.inStyle 33 value
    ++ "' for '" ++ Text.Terminal.inStyle 1 option ++ "'" ++ reason
    ++ "\n\nFor more information, try '" ++ Text.Terminal.inStyle 1 "--help" ++ "'."

/--
The wording of a refusal of a command line. It is not written to a terminal: its styles are taken
out, and with them whatever of their kind the arguments hold.
-/
def UsageFault.message : UsageFault → String
  | .mapEntry text =>
      Text.Terminal.plain
        (refusedValue text "--map <MAP>..." (": expected KEY=SELECTOR, got '" ++ text ++ "'"))
  | .format text =>
      Text.Terminal.plain
        (refusedValue text "--format <FORMAT>" (": " ++ Format.unknownMessage text))
  | .emit text =>
      Text.Terminal.plain
        (refusedValue text "--emit <EMIT>" "\n  [possible values: js, json]")
  | .misused => "error: the arguments do not form a command"

/-- What options and positional arguments were given. -/
structure Given where
  stylesheet : Option String
  caller : Option String
  selector : Option String
  list : Option (List String)
  regex : Option String
  flags : Option String
  map : Option (List (String × String))
  format : Option Format
  accessor : Option String
  emit : Option Emit
deriving Repr, DecidableEq

namespace OptionName

/-- The spelling of an option behind its two dashes. -/
def spelling : OptionName → String
  | .from => "from"
  | .selector => "selector"
  | .list => "list"
  | .regex => "regex"
  | .flags => "flags"
  | .map => "map"
  | .format => "format"
  | .accessor => "accessor"
  | .emit => "emit"

/-- Whether an option takes all values that follow it. -/
def takesMany : OptionName → Bool
  | .list | .map => true
  | _ => false

end OptionName

/-- The options of the subcommand that resolves. -/
def resolveOptions : List OptionName :=
  [.from, .selector, .list, .regex, .flags, .map, .format, .accessor, .emit]

/-- The options of the subcommand that checks. -/
def checkOptions : List OptionName := [.from]

/-! ## Values -/

/-- Reads an entry of a map: the key ends at the first equals sign and is not empty. -/
def mapEntry (text : String) : Except UsageFault (String × String) :=
  let chars := text.toList
  let key := chars.takeWhile (· != '=')
  match key, chars.drop key.length with
  | _ :: _, _ :: selector => .ok (String.ofList key, String.ofList selector)
  | _, _ => .error (.mapEntry text)

/-- Reads entries of a map up to the first that is none. -/
def mapEntries : List String → Except UsageFault (List (String × String))
  | [] => .ok []
  | text :: texts =>
      match mapEntry text with
      | .error fault => .error fault
      | .ok entry => (mapEntries texts).map (entry :: ·)

/-- Reads the name of a way to write. An empty name is taken for a missing one. -/
def emitOf (text : String) : Except UsageFault Emit :=
  if text = "js" then .ok .js
  else if text = "json" then .ok .json
  else if text = "" then .error .misused
  else .error (.emit text)

/-- Reads the name of a format. -/
def formatOf (text : String) : Except UsageFault Format :=
  match Format.ofName? text with
  | some format => .ok format
  | none => .error (.format text)

/-- Reads the path of an importing file, which is not empty. -/
def callerOf (text : String) : Except UsageFault String :=
  if text = "" then .error .misused else .ok text

/-- The value of an option that is given once, and with one value. -/
def once {α : Type} (before : Option α) (read : String → Except UsageFault α)
    (values : List String) : Except UsageFault (Option α) :=
  match before, values with
  | none, [value] => (read value).map some
  | _, _ => .error .misused

namespace Given

/-- Nothing is given. -/
def nothing : Given := ⟨none, none, none, none, none, none, none, none, none, none⟩

/-- Adds what an option took. Options with several values may be given again and go on then. -/
def add (g : Given) (name : OptionName) (values : List String) : Except UsageFault Given :=
  match name with
  | .from => (once g.caller callerOf values).map fun v => { g with caller := v }
  | .selector => (once g.selector .ok values).map fun v => { g with selector := v }
  | .regex => (once g.regex .ok values).map fun v => { g with regex := v }
  | .flags => (once g.flags .ok values).map fun v => { g with flags := v }
  | .format => (once g.format formatOf values).map fun v => { g with format := v }
  | .accessor => (once g.accessor .ok values).map fun v => { g with accessor := v }
  | .emit => (once g.emit emitOf values).map fun v => { g with emit := v }
  | .list =>
      if values.isEmpty then .error .misused
      else .ok { g with list := some (g.list.getD [] ++ values) }
  | .map =>
      if values.isEmpty then .error .misused
      else (mapEntries values).map fun entries =>
        { g with map := some (g.map.getD [] ++ entries) }

end Given

/-! ## Reading from the left -/

/-- What was read so far: what is settled, and the last option with what it took. -/
structure Progress where
  given : Given
  pending : Option (OptionName × List String)
  onlyPositional : Bool
deriving Repr, DecidableEq

namespace Progress

/-- Nothing was read. -/
def start : Progress := ⟨.nothing, none, false⟩

/-- Checks what the last option took. -/
def settle (p : Progress) : Except UsageFault Given :=
  match p.pending with
  | none => .ok p.given
  | some (name, values) => p.given.add name values

/-- Whether the last option takes another value. -/
def wantsValue (p : Progress) : Bool :=
  match p.pending with
  | none => false
  | some (name, values) => !p.onlyPositional && (name.takesMany || values.isEmpty)

/-- Gives the last option a value. -/
def push (p : Progress) (value : String) : Progress :=
  { p with pending := p.pending.map fun (name, values) => (name, values ++ [value]) }

/-- Takes a positional argument. -/
def positional (p : Progress) (text : String) : Except UsageFault Progress :=
  if p.given.stylesheet.isSome then .error .misused
  else p.settle.map fun g => { p with given := { g with stylesheet := some text }, pending := none }

/-- Takes an option, as written behind its two dashes. -/
def option (p : Progress) (known : List OptionName) (written : List Char) :
    Except UsageFault Progress :=
  let spelling := written.takeWhile (· != '=')
  match known.find? (·.spelling.toList == spelling), written.drop spelling.length with
  | none, _ => .error .misused
  | some name, [] => p.settle.map fun g => { p with given := g, pending := some (name, []) }
  | some name, _ :: value =>
      match p.settle with
      | .error fault => .error fault
      | .ok g =>
          (g.add name [String.ofList value]).map fun g => { p with given := g, pending := none }

/-- Takes the next argument. -/
def next (p : Progress) (known : List OptionName) (argument : String) :
    Except UsageFault Progress :=
  if p.onlyPositional then p.positional argument
  else
    match argument.toList with
    | ['-', '-'] => .ok { p with onlyPositional := true }
    | '-' :: '-' :: written => p.option known written
    | '-' :: _ :: _ => .error .misused
    | _ => if p.wantsValue then .ok (p.push argument) else p.positional argument

/-- Takes arguments from the left. -/
def nextAll (p : Progress) (known : List OptionName) : List String → Except UsageFault Progress
  | [] => .ok p
  | argument :: arguments =>
      match p.next known argument with
      | .error fault => .error fault
      | .ok p => p.nextAll known arguments

end Progress

/-- What arguments of a subcommand give. -/
def Given.ofArguments (known : List OptionName) (arguments : List String) :
    Except UsageFault Given :=
  match Progress.start.nextAll known arguments with
  | .error fault => .error fault
  | .ok p => p.settle

end StyleLookup.Command
