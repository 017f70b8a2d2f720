/-!
# The words of a command line

A word is an option, an operand, or the mark after which there are only operands.  Short options
may be written together, and an option that takes a value may have it attached or in the next
word.  Words are read from left to right, so a request for help is granted when it is reached:
what stands before it has to be in order, and what comes after it does not matter.
-/

namespace FilterQuery

/-- Why a command line is not understood. -/
inductive UsageError where
  | missingCommand
  | unknownCommand (name : String)
  | unknownOption (word : String)
  | missingValue (word : String)
  | unexpectedValue (word : String)
  | repeatedOption (name : String)
  | unknownFormat (name : String)
  | missingOperand
  | unexpectedOperand (word : String)
  deriving DecidableEq

namespace UsageError

/-- A wording of an error, on which nothing depends. -/
def message : UsageError → String
  | missingCommand => "a command is required"
  | unknownCommand name => "unknown command '" ++ name ++ "'"
  | unknownOption word => "unknown option '" ++ word ++ "'"
  | missingValue word => "a value is required for '" ++ word ++ "'"
  | unexpectedValue word => "no value is taken by '" ++ word ++ "'"
  | repeatedOption name => "the option '" ++ name ++ "' is given twice"
  | unknownFormat name => "unknown format '" ++ name ++ "'"
  | missingOperand => "an operand is required"
  | unexpectedOperand word => "unexpected operand '" ++ word ++ "'"

end UsageError

inductive CommandOption where
  | verbose
  | format
  | pretty
  | syntaxOnly
  | version
  | help
  deriving DecidableEq

namespace CommandOption

def name : CommandOption → String
  | verbose => "verbose"
  | format => "format"
  | pretty => "pretty"
  | syntaxOnly => "syntax-only"
  | version => "version"
  | help => "help"

def letter? : CommandOption → Option Char
  | verbose => some 'v'
  | format => some 'f'
  | pretty => some 'p'
  | syntaxOnly => none
  | version => some 'V'
  | help => some 'h'

/-- The options that may stand before the command. -/
def general : List CommandOption := [verbose, version, help]

def named? (known : List CommandOption) (name : String) : Option CommandOption :=
  known.find? fun option => option.name = name

def lettered? (known : List CommandOption) (letter : Char) : Option CommandOption :=
  known.find? fun option => option.letter? = some letter

end CommandOption

/-- A word of the command line by its shape. -/
inductive Word where
  | separator
  | long (name : String) (value : Option String)
  | short (letters : List Char)
  | operand (text : String)
  deriving DecidableEq

/-- The shape of a word.  A single dash is an operand. -/
def Word.ofText (text : String) : Word :=
  match text.toList with
  | ['-', '-'] => .separator
  | '-' :: '-' :: body =>
    .long (String.ofList (body.takeWhile (· ≠ '=')))
      (match body.dropWhile (· ≠ '=') with
      | [] => none
      | _ :: value => some (String.ofList value))
  | '-' :: c :: letters => .short (c :: letters)
  | _ => .operand text

/-- What a command is given: an option, an option with its value, or an operand. -/
inductive CommandItem where
  | flag (option : CommandOption)
  | format (name : String)
  | operand (text : String)
  deriving DecidableEq

namespace CommandItem

/-- The options that are written together in one word, up to a request for help, and whether the
last of them still needs its value.  The value of an option is the rest of the word, without an
equals sign in front of it. -/
def ofLetters (known : List CommandOption) (word : String) :
    List Char → Except UsageError (List CommandItem × Bool)
  | [] => .ok ([], false)
  | letter :: rest =>
    match CommandOption.lettered? known letter with
    | none => .error (.unknownOption word)
    | some .format =>
      match rest with
      | [] => .ok ([], true)
      | '=' :: value => .ok ([.format (String.ofList value)], false)
      | value => .ok ([.format (String.ofList value)], false)
    | some .help => .ok ([.flag .help], false)
    | some option =>
      (ofLetters known word rest).map fun (items, needsValue) => (.flag option :: items, needsValue)

/-- The items of the words after a command, up to a request for help.  `pending` is the word of an
option that still needs its value. -/
def ofWords (known : List CommandOption) (pending : Option String) :
    List String → Except UsageError (List CommandItem)
  | [] =>
    match pending with
    | some word => .error (.missingValue word)
    | none => .ok []
  | word :: rest =>
    match pending, Word.ofText word with
    | some _, .operand text => (ofWords known none rest).map (.format text :: ·)
    | some unfinished, _ => .error (.missingValue unfinished)
    | none, .operand text => (ofWords known none rest).map (.operand text :: ·)
    | none, .separator => .ok (rest.map .operand)
    | none, .long name value =>
      match CommandOption.named? known name, value with
      | none, _ => .error (.unknownOption word)
      | some .format, some text => (ofWords known none rest).map (.format text :: ·)
      | some .format, none => ofWords known (some word) rest
      | some .help, none => .ok [.flag .help]
      | some option, none => (ofWords known none rest).map (.flag option :: ·)
      | some _, some _ => .error (.unexpectedValue word)
    | none, .short letters => do
      let (items, needsValue) ← ofLetters known word letters
      if .flag .help ∈ items then return items
      let others ← ofWords known (if needsValue then some word else none) rest
      return items ++ others

def operands (items : List CommandItem) : List String :=
  items.filterMap fun
    | .operand text => some text
    | _ => none

def formats (items : List CommandItem) : List String :=
  items.filterMap fun
    | .format name => some name
    | _ => none

end CommandItem

end FilterQuery
