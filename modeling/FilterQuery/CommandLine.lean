import FilterQuery.CommandWords
import FilterQuery.QueryChecks

/-!
# The command line

A command line names one command, its options and its operand.  A request for the version or for
help is granted when it is reached, even if the command would lack something; but an option that
is given twice, an unknown format or an operand too many before it is refused.
-/

namespace FilterQuery

/-- What the command is asked to do.  A query that is absent is read from the standard input. -/
inductive Command where
  | check (query : Option String) (options : CheckOptions)
  | tokens (query : Option String)
  | topics
  | topic (name : String)
  | version
  | help
  deriving DecidableEq

inductive CommandName where
  | check
  | tokens
  | topics
  | topic
  | help
  deriving DecidableEq

namespace CommandName

def word : CommandName → String
  | check => "check"
  | tokens => "tokens"
  | topics => "docs"
  | topic => "doc"
  | help => "help"

def all : List CommandName := [check, tokens, topics, topic, help]

def named? (text : String) : Option CommandName := all.find? fun name => name.word = text

def options : CommandName → List CommandOption
  | check => [.verbose, .format, .pretty, .syntaxOnly, .help]
  | _ => [.verbose, .help]

def takesOperand : CommandName → Bool
  | topics => false
  | _ => true

theorem mem_all (name : CommandName) : name ∈ all := by
  cases name <;> decide

@[simp] theorem named?_word (name : CommandName) : named? name.word = some name := by
  cases name <;> decide

end CommandName

/-- What the words after a command give it. -/
structure CommandSettings where
  operand : Option String
  format : Option OutputFormat
  pretty : Bool
  syntaxOnly : Bool
  help : Bool
  deriving DecidableEq

namespace CommandSettings

def operandOf (takesOperand : Bool) : List String → Except UsageError (Option String)
  | [] => .ok none
  | text :: rest =>
    if takesOperand then
      match rest with
      | [] => .ok (some text)
      | extra :: _ => .error (.unexpectedOperand extra)
    else .error (.unexpectedOperand text)

def namedFormat (name : String) : Except UsageError OutputFormat :=
  match OutputFormat.ofName? name with
  | some format => .ok format
  | none => .error (.unknownFormat name)

/-- The format that is named once, if one is named. -/
def formatOf : List String → Except UsageError (Option OutputFormat)
  | [] => .ok none
  | [name] => (namedFormat name).map some
  | _ => .error (.repeatedOption CommandOption.format.name)

def givenOnce (items : List CommandItem) (option : CommandOption) : Except UsageError Bool :=
  match items.count (.flag option) with
  | 0 => .ok false
  | 1 => .ok true
  | _ => .error (.repeatedOption option.name)

def ofItems (takesOperand : Bool) (items : List CommandItem) :
    Except UsageError CommandSettings := do
  let operand ← operandOf takesOperand (CommandItem.operands items)
  let format ← formatOf (CommandItem.formats items)
  let pretty ← givenOnce items .pretty
  let syntaxOnly ← givenOnce items .syntaxOnly
  return ⟨operand, format, pretty, syntaxOnly, decide (.flag .help ∈ items)⟩

/-- The format that is asked for: that of the option, or else that of the environment. -/
def chosenFormat (environment : Option String) (settings : CommandSettings) :
    Except UsageError OutputFormat :=
  match settings.format, environment with
  | some format, _ => .ok format
  | none, some name => namedFormat name
  | none, none => .ok .tree

end CommandSettings

namespace Command

/-- A request for help with the words after it.  They name the command to be explained, and no
command has commands of its own. -/
def ofHelpWords : List String → Except UsageError Command
  | [] => .ok .help
  | word :: rest =>
    match CommandName.named? word, rest with
    | none, _ => .error (.unknownCommand word)
    | some _, [] => .ok .help
    | some _, extra :: _ => .error (.unknownCommand extra)

def ofSettings (environment : Option String) (settings : CommandSettings) :
    CommandName → Except UsageError Command
  | .check => do
    let format ← settings.chosenFormat environment
    return .check settings.operand ⟨format, settings.pretty, settings.syntaxOnly⟩
  | .tokens => .ok (.tokens settings.operand)
  | .topics => .ok .topics
  | .topic =>
    match settings.operand with
    | some topicName => .ok (.topic topicName)
    | none => .error .missingOperand
  | .help => .ok .help

def ofName (environment : Option String) (name : CommandName) (words : List String) :
    Except UsageError Command :=
  if name = .help then ofHelpWords words
  else do
    let items ← CommandItem.ofWords name.options none words
    let settings ← CommandSettings.ofItems name.takesOperand items
    if settings.help then return .help
    ofSettings environment settings name

/-- The first option among letters that ends the reading of the command line, if there is one. -/
def ofGeneralLetters (word : String) : List Char → Except UsageError (Option Command)
  | [] => .ok none
  | letter :: rest =>
    match CommandOption.lettered? CommandOption.general letter with
    | some .version => .ok (some .version)
    | some .help => .ok (some .help)
    | some _ => ofGeneralLetters word rest
    | none => .error (.unknownOption word)

/-- The command that the words of a command line stand for.  `environment` is the format that is
used when no option names one. -/
def ofWords (environment : Option String) : List String → Except UsageError Command
  | [] => .error .missingCommand
  | word :: rest =>
    match Word.ofText word with
    | .separator => .error .missingCommand
    | .operand text =>
      match CommandName.named? text with
      | some name => ofName environment name rest
      | none => .error (.unknownCommand text)
    | .short letters => do
      match ← ofGeneralLetters word letters with
      | some command => return command
      | none => ofWords environment rest
    | .long name value =>
      match CommandOption.named? CommandOption.general name, value with
      | some .version, none => .ok .version
      | some .help, none => .ok .help
      | some _, none => ofWords environment rest
      | some _, some _ => .error (.unexpectedValue word)
      | none, _ => .error (.unknownOption word)

def awaitsInput : Command → Bool
  | check none _ | tokens none => true
  | _ => false

end Command

end FilterQuery
