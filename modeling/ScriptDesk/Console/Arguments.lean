import ScriptDesk.Path

/-!
# The words of a command line

The first word names a command. Of the others one is the operand of the command: the name of a
script or the path of its file. The rest are options, before or behind it. An option that takes a
value has it in the same word behind an equals sign, or else in the next word; that one must not
look like an option. Behind a word that is two dashes there are no options. A path is never empty.
It need not be text, but the other words have to be.

`parse` reads the words; it either refuses them, or says which command they ask for, or that they
ask for help. Words are read from the left, so a wrong word before the request for help prevails.
-/

namespace ScriptDesk.Console

/-- What a command does. -/
inductive Action (unit : Type := Char) where
  /-- Create an empty script, in the given directory or else in the one that is set. -/
  | create (name : Text) (directory : Option (Path unit))
  /-- Print what a script is. -/
  | inspect (path : Path unit)
  /-- Print the program of a script. -/
  | synthesize (path : Path unit)
  /-- Print the namespaces of a script, after they were replaced if others are given. -/
  | namespaces (path : Path unit) (replacement : Option (List Text))
  deriving DecidableEq, Repr

/-- A command. -/
structure Command (unit : Type := Char) where
  /-- What it does. -/
  action : Action unit
  /-- Its result is wanted as JSON. -/
  json : Bool := false
  deriving DecidableEq, Repr

/-- What a command line asks for. -/
inductive Request (unit : Type := Char) where
  /-- How the commands are used. -/
  | help
  /-- That a command be carried out. -/
  | command (command : Command unit)
  deriving DecidableEq, Repr

/-! ## Options and the operand -/

/-- How an option is used. -/
inductive OptionUse where
  /-- Without a value, once. -/
  | flag
  /-- With a path, once. -/
  | path
  /-- With a text, any number of times. -/
  | texts
  deriving DecidableEq, Repr

/-- The form of a command. -/
structure Form where
  /-- The operand is a path. -/
  ofPath : Bool := true
  /-- The options by their names. -/
  options : List (Text × OptionUse) := []

/-- The words of a command as far as they were read. -/
structure Found (unit : Type := Char) where
  /-- The operand. -/
  operand : Option (Text unit) := none
  /-- The options with their values, in order. -/
  options : List (Text × Text unit) := []

open PathUnit (ascii spell read?)

section Units

variable {α : Type} [DecidableEq α] [PathUnit α]

namespace Found

/-- The values of an option. -/
def values (found : Found α) (name : Text) : List (Text α) :=
  (found.options.filter (·.1 = name)).map (·.2)

/-- The option was given. -/
def has (found : Found α) (name : Text) : Bool :=
  !(found.values name).isEmpty

/-- Take a word as the operand. -/
def takeOperand (found : Found α) (form : Form) (word : Text α) : Option (Found α) :=
  if found.operand.isSome then none
  else if form.ofPath && word.isEmpty then none
  else if !form.ofPath && (read? word).isNone then none
  else some { found with operand := some word }

/-- Take an option. -/
def takeOption (found : Found α) (name : Text) (use : OptionUse) (value : Text α) :
    Option (Found α) :=
  if use ≠ .texts ∧ found.has name then none
  else if use = .path ∧ value = [] then none
  else if use = .texts ∧ read? value = none then none
  else some { found with options := found.options ++ [(name, value)] }

/-- Take words as operands. -/
def takeOperands (found : Found α) (form : Form) (words : List (Text α)) : Option (Found α) :=
  words.foldlM (·.takeOperand form ·) found

end Found

/-- A name and the value behind the first equals sign, if there is one. -/
def cutName (text : Text α) : Text α × Option (Text α) :=
  match text.dropWhile (· ≠ ascii '=') with
  | [] => (text, none)
  | _ :: value => (text.takeWhile (· ≠ ascii '='), some value)

/-- What a word looks like. -/
inductive Look (unit : Type) where
  /-- Two dashes, behind which there are no options. -/
  | closing
  /-- Two dashes and the name of an option, perhaps with its value. -/
  | option (text : Text unit)
  /-- A dash and the letter of an option. -/
  | letter (letter : unit)
  /-- None of these. -/
  | plain

/-- What the word looks like. -/
def lookOf : Text α → Look α
  | first :: second :: rest =>
    if first ≠ ascii '-' then .plain
    else if second ≠ ascii '-' then .letter second
    else if rest = [] then .closing
    else .option rest
  | _ => .plain

/-- The word may be the value of an option: it does not look like one. -/
def isValue (word : Text α) : Bool :=
  match lookOf word with
  | .plain => true
  | _ => false

/-- The name of the option that asks for help. -/
def helpName : Text := "help".toList

/-- What was found among words, or a request for help. -/
inductive Reading (unit : Type) where
  /-- A request for help. -/
  | help
  /-- An operand and options. -/
  | found (found : Found unit)

/-- Read the words behind the name of a command. -/
def scan (form : Form) : Found α → List (Text α) → Option (Reading α)
  | found, [] => some (.found found)
  | found, word :: words =>
    match lookOf word with
    | .closing => (found.takeOperands form words).map .found
    | .option text => do
      let (name, value) := cutName text
      let name ← read? name
      match (helpName, OptionUse.flag) :: form.options |>.lookup name, value with
      | some .flag, none =>
        if name = helpName then some .help
        else (found.takeOption name .flag []).bind (scan form · words)
      | some .flag, some _ => none
      | some use, some value => (found.takeOption name use value).bind (scan form · words)
      | some use, none =>
        match words with
        | [] => none
        | value :: words =>
          if isValue value then (found.takeOption name use value).bind (scan form · words)
          else none
      | none, _ => none
    | .letter letter => if letter = ascii 'h' then some .help else none
    | .plain => (found.takeOperand form word).bind (scan form · words)

end Units

/-! ## Commands -/

/-- The names of the commands. -/
inductive CommandName where
  /-- Create a script. -/
  | new
  /-- Print a script. -/
  | display
  /-- Print a program. -/
  | synth
  /-- Print or replace namespaces. -/
  | ns
  deriving DecidableEq, Repr

namespace CommandName

/-- The commands by their names. -/
def all : List (Text × CommandName) :=
  [("new".toList, .new), ("show".toList, .display), ("synth".toList, .synth), ("ns".toList, .ns)]

/-- The option for JSON. -/
def jsonName : Text := "json".toList

/-- The option for the directory of a new script. -/
def directoryName : Text := "dir".toList

/-- The option for a namespace. -/
def setName : Text := "set".toList

/-- The option for no namespaces. -/
def clearName : Text := "clear".toList

/-- The form of a command. -/
def form : CommandName → Form
  | .new => { ofPath := false, options := [(directoryName, .path), (jsonName, .flag)] }
  | .display => { options := [(jsonName, .flag)] }
  | .synth => {}
  | .ns => { options := [(setName, .texts), (clearName, .flag), (jsonName, .flag)] }

variable {α : Type} [PathUnit α]

/-- The namespaces that replace those of a script; not both can be asked for. -/
def replacement? (found : Found α) : Option (Option (List Text)) := do
  match found.has clearName, ← (found.values setName).mapM read? with
  | true, [] => some (some [])
  | true, _ => none
  | false, [] => some none
  | false, names => some (some names)

/-- The action that a command does with what was found. -/
def action? (name : CommandName) (found : Found α) : Option (Action α) := do
  let operand ← found.operand
  match name with
  | .new => return .create (← read? operand) (found.values directoryName).head?
  | .display => return .inspect operand
  | .synth => return .synthesize operand
  | .ns => return .namespaces operand (← replacement? found)

/-- Read the words behind the name of a command. -/
def parse [DecidableEq α] (name : CommandName) (words : List (Text α)) : Option (Request α) := do
  match ← scan name.form {} words with
  | .help => return .help
  | .found found => return .command ⟨← name.action? found, found.has jsonName⟩

end CommandName

variable {α : Type} [DecidableEq α] [PathUnit α]

/-- The command that a word names. -/
def command? (word : Text α) : Option CommandName :=
  (read? word).bind (CommandName.all.lookup ·)

/-- Read the words behind the command that asks for help: the name of a command may follow. -/
def parseHelp : List (Text α) → Option (Request α)
  | [] => some .help
  | [word] => if word = spell helpName ∨ (command? word).isSome then some .help else none
  | _ => none

/-- Read the words of a command line. -/
def parse : List (Text α) → Option (Request α)
  | [] => none
  | word :: words =>
    if word = spell helpName then parseHelp words
    else if word = spell ("--".toList ++ helpName) ∨ word.take 2 = [ascii '-', ascii 'h'] then
      some .help
    else (command? word).bind (·.parse words)

end ScriptDesk.Console
