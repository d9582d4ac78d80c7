import TypeRegistry.Registry.Request
import TypeRegistry.Text.Digit

/-!
# Arguments of the command line

The arguments are options for the whole program, a command, and options for the command.  Every
option takes a value, behind an equals sign or as the next argument; a long name may be cut short as
long as one option only begins so, and a value may follow a short name directly.  An argument that
looks like an option is no value: one that begins with a hyphen, unless it is a lone hyphen, a
negative number, or has a blank in it and is no option.  A double hyphen attached to an option gives
it nothing: the option is there, but has no text, and its command is carried out only as far as it
goes without.

Main definitions:

- `OptionSpec`: the spellings of an option.
- `OptionValue`: what an option is given.
- `Argument`, `Argument.classify`: what an argument is, given the options at hand.
- `readOptions`: the values of the options at the front of a list of arguments.
- `Command`, `Invocation`, `Invocation.ofArguments`: what the arguments ask for.
-/

namespace TypeRegistry

open Dictionary

/-! ## Options -/

/-- An option: its long name, its short one, and whether its value must be a whole number. -/
structure OptionSpec where
  name : String
  letter : Option Char := none
  isNumber : Bool := false
deriving DecidableEq, Repr

namespace OptionSpec

/-- The long spelling. -/
def long (option : OptionSpec) : String :=
  "--" ++ option.name

/-- Whether a word is a full spelling of the option. -/
def isSpelledBy (option : OptionSpec) (word : String) : Bool :=
  word = option.long || option.letter.any fun letter => word = String.ofList ['-', letter]

/-- Whether a value is of the kind that the option takes. -/
def admits (option : OptionSpec) (value : String) : Bool :=
  !option.isNumber || (Text.wholeNumber? value).isSome

/-- The option that asks for help, which every list of options contains. -/
def help : OptionSpec := { name := "help", letter := some 'h' }

end OptionSpec

/-- What an option is given: a text, or nothing. -/
inductive OptionValue where
  | text (value : String)
  | nothing
deriving DecidableEq, Repr

namespace OptionValue

/-- What the text of a value gives to an option: nothing if it is a double hyphen. -/
def ofText (value : String) : OptionValue :=
  if value = "--" then nothing else text value

/-- The text that is given, if any is. -/
def text? : OptionValue → Option String
  | text value => some value
  | nothing => none

/-- The texts that values give, if none of them gives nothing. -/
def texts? : List OptionValue → Option (List String)
  | [] => some []
  | value :: rest => do return (← value.text?) :: (← texts? rest)

end OptionValue

/-! ## Classification -/

/-- Why arguments ask for nothing that can be done. -/
inductive UsageFault where
  | ambiguous (word : String)
  | unknown (word : String)
  | valueMissing (name : String)
  | badValue (name value : String)
  | valueUnexpected (word : String)
  | commandMissing
  | unknownCommand (name : String)
  | optionMissing (command : String)
  | helpWanted
deriving DecidableEq, Repr

/-- What an argument is: a value, an option, perhaps with a value attached, the double hyphen, or a
word that looks like an option and is none. -/
inductive Argument where
  | value (text : String)
  | option (spec : OptionSpec) (attached : Option String)
  | divider
  | stray (word : String)
deriving DecidableEq, Repr

namespace Argument

/-- The word before the first equals sign, and what stands behind it. -/
def cutValue (word : String) : String × Option String :=
  match Text.cutAt? '=' word.toList with
  | some (lead, rest) => (String.ofList lead, some (String.ofList rest))
  | none => (word, none)

/-- Whether all characters are digits, of which there is one at least. -/
def isDigits (cs : List Char) : Bool :=
  !cs.isEmpty && cs.all fun c => (Text.digitValue? c).isSome

/-- Whether a word is a hyphen with a whole number or with a decimal fraction behind it, and perhaps
a line break at the end. -/
def isNegativeNumber (word : String) : Bool :=
  match withoutFinalBreak word.toList with
  | '-' :: digits =>
    isDigits digits ||
      match Text.cutAt? '.' digits with
      | some (whole, fraction) => (whole.isEmpty || isDigits whole) && isDigits fraction
      | none => false
  | _ => false

/-- The options that a word cut short or with a value attached may stand for. -/
def candidates (options : List OptionSpec) (word : String) : List (OptionSpec × Option String) :=
  match word.toList with
  | '-' :: '-' :: _ =>
    let (lead, attached) := cutValue word
    (options.filter fun spec => Text.startsWith lead spec.long).map (·, attached)
  | '-' :: letter :: rest =>
    (options.filter fun spec => spec.letter = some letter).map (·, some (String.ofList rest))
  | _ => []

/-- What a word is that begins with a hyphen and is no full spelling of an option. -/
def classifyOther (options : List OptionSpec) (word : String) : Except UsageFault Argument :=
  match candidates options word with
  | [(spec, attached)] => .ok (.option spec attached)
  | _ :: _ :: _ => .error (.ambiguous word)
  | [] =>
    if isNegativeNumber word || Text.contains " " word then .ok (.value word)
    else .ok (.stray word)

/-- What a word is, given the options at hand. -/
def classify (options : List OptionSpec) (word : String) : Except UsageFault Argument :=
  if word = "--" then .ok .divider
  else if !Text.startsWith "-" word || word = "-" then .ok (.value word)
  else
    match options.find? (·.isSpelledBy word) with
    | some spec => .ok (.option spec none)
    | none =>
      let (lead, attached) := cutValue word
      match attached, options.find? (·.isSpelledBy lead) with
      | some text, some spec => .ok (.option spec (some text))
      | _, _ => classifyOther options word

end Argument

/-! ## Reading options -/

/-- What a value gives to an option, if it takes one and the value is of the right kind. -/
def checkValue (spec : OptionSpec) (value : String) : Except UsageFault (String × OptionValue) :=
  if spec = OptionSpec.help then .error (.valueUnexpected value)
  else
    match OptionValue.ofText value with
    | .nothing => .ok (spec.name, .nothing)
    | .text value =>
      if spec.admits value then .ok (spec.name, .text value) else .error (.badValue spec.name value)

/-- The values of the options at the front of some words, in order, and the words from the first one
on that is neither an option nor the value of one. -/
def readOptions (options : List OptionSpec) :
    List String → Except UsageFault (List (String × OptionValue) × List String)
  | [] => .ok ([], [])
  | word :: rest =>
    match Argument.classify options word with
    | .error fault => .error fault
    | .ok (.value _) => .ok ([], word :: rest)
    | .ok .divider => .error (.unknown word)
    | .ok (.stray _) => .error (.unknown word)
    | .ok (.option spec (some value)) => do
      let entry ← checkValue spec value
      let (entries, words) ← readOptions options rest
      return (entry :: entries, words)
    | .ok (.option spec none) =>
      if spec = OptionSpec.help then .error .helpWanted
      else
        match rest with
        | [] => .error (.valueMissing spec.name)
        | next :: rest =>
          match Argument.classify options next with
          | .ok (.value value) => do
            let entry ← checkValue spec value
            let (entries, words) ← readOptions options rest
            return (entry :: entries, words)
          | .ok _ => .error (.valueMissing spec.name)
          | .error fault => .error fault

/-! ## Commands -/

/-- What a command asks for: an inquiry, or the identity of the document in a file.  Where an option
is given nothing, what is left is to see whether matching or casting fails before it is needed, or
else there is no answer. -/
inductive Command where
  | inquire (inquiry : Inquiry)
  | extractFrom (path : String)
  | matchNothing (candidate : String)
  | castToNothing (instanceId : String)
  | unanswerable

/-- The options that stand before the command. -/
def globalOptions : List OptionSpec :=
  [{ name := "path", letter := some 'p' }, { name := "log-level" }, OptionSpec.help]

/-- The options of a command, the help option aside. -/
def optionsOf : (command : String) → Option (List OptionSpec)
  | "validate-id" => some [{ name := "id" }]
  | "parse-id" => some [{ name := "id" }]
  | "uuid" => some [{ name := "id" }]
  | "validate-instance" => some [{ name := "id" }]
  | "graph" => some [{ name := "id" }]
  | "match-id" => some [{ name := "candidate" }, { name := "pattern" }]
  | "extract-id" => some [{ name := "file", letter := some 'f' }]
  | "compatibility" => some [{ name := "old" }, { name := "new" }]
  | "cast" => some [{ name := "instance" }, { name := "to" }]
  | "query" => some [{ name := "expr", letter := some 'e' }, { name := "limit", isNumber := true }]
  | "attr" => some [{ name := "selector", letter := some 's' }]
  | "list" => some [{ name := "limit", isNumber := true }]
  | _ => none

namespace Command

/-- The command for the text that an option is given. -/
def forText (value : OptionValue) (command : String → Command) : Command :=
  (value.text?.map command).getD unanswerable

/-- The command for the limit among the values of options, which may be missing. -/
def forLimit (values : Dictionary OptionValue) (command : Option Int → Command) : Command :=
  match find? "limit" values with
  | none => command none
  | some value => forText value fun text => command (Text.wholeNumber? text)

/-- The inquiry about what the option with a name is given, unless that is missing. -/
def about? (name : String) (values : Dictionary OptionValue) (inquiry : String → Inquiry) :
    Option Command :=
  (find? name values).map fun value => forText value fun text => inquire (inquiry text)

/-- The command with a name and the values of its options, if none is missing. -/
def ofValues? (command : String) (values : Dictionary OptionValue) : Option Command :=
  match command with
  | "validate-id" => about? "id" values .validateId
  | "parse-id" => about? "id" values .parseId
  | "uuid" => about? "id" values .uuid
  | "validate-instance" => about? "id" values .validateInstance
  | "graph" => about? "id" values .graph
  | "attr" => about? "selector" values .select
  | "extract-id" => (find? "file" values).map fun file => forText file extractFrom
  | "match-id" => do
    let candidate ← find? "candidate" values
    let pattern ← find? "pattern" values
    return forText candidate fun candidate =>
      match pattern with
      | .text pattern => inquire (.matchId candidate pattern)
      | .nothing => matchNothing candidate
  | "compatibility" => do
    let old ← find? "old" values
    let new ← find? "new" values
    return forText old fun old => forText new fun new => inquire (.compare old new)
  | "cast" => do
    let source ← find? "instance" values
    let target ← find? "to" values
    return forText source fun source =>
      match target with
      | .text target => inquire (.cast source target)
      | .nothing => castToNothing source
  | "query" =>
    (find? "expr" values).map fun expression => forText expression fun expression =>
      forLimit values fun limit => inquire (.query expression limit)
  | "list" => some (forLimit values fun limit => inquire (.list limit))
  | _ => none

/-- The command that words spell; the last value of an option counts. -/
def ofWords (name : String) (words : List String) : Except UsageFault Command :=
  match optionsOf name with
  | none => .error (.unknownCommand name)
  | some options => do
    let (entries, rest) ← readOptions (options ++ [OptionSpec.help]) words
    match rest with
    | word :: _ => .error (.valueUnexpected word)
    | [] =>
      match ofValues? name (putAll [] entries) with
      | some command => return command
      | none => .error (.optionMissing name)

end Command

/-! ## Invocations -/

/-- What the arguments ask for: a command, with the paths of the entities to load and the level of
the log that are given. -/
structure Invocation where
  paths : List OptionValue
  logLevel : Option OptionValue
  command : Command

/-- What arguments ask for. -/
def Invocation.ofArguments (words : List String) : Except UsageFault Invocation := do
  let (entries, rest) ← readOptions globalOptions words
  match rest with
  | [] => .error .commandMissing
  | name :: rest =>
    let command ← Command.ofWords name rest
    return {
      paths := (entries.filter fun entry => entry.1 = "path").map (·.2)
      logLevel := find? "log-level" (putAll [] entries)
      command := command }

end TypeRegistry
