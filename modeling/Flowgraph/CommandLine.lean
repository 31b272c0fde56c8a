/-
  Flowgraph/CommandLine.lean
  ==========================
  **The words of a command** — `validate <definition>` and `run <definition> [words]`, each with
  options, read by `CommandLine.parse` into a `Request` or refused with a `UsageError`.

  An option that takes a value has it in the same word, after `=` or right after its letter, or
  in the next word.  A value, and the definition, is checked when the next option or word is
  taken up, so an option that is not known is reported before a value that is not right.  The
  second plain word of `run` begins the message: everything after it belongs to it, options
  included.  After `--` no word is an option.
-/
import Flowgraph.Config

namespace Flowgraph

/-! ### Requests -/

/-- What is asked of `run`. -/
structure RunRequest where
  definition : String
  /-- The message given by its option. -/
  messageOption : Option String
  /-- The text with more values for the state. -/
  state : Option String
  outputOnly : Bool
  options : Options
  /-- The words after the definition. -/
  rest : List String
deriving DecidableEq, Inhabited

/-- The message: that of the option, or the words after the definition without white space at
    the ends. -/
def RunRequest.message (r : RunRequest) : String :=
  r.messageOption.getD (Text.trim (" ".intercalate r.rest))

/-- What is asked of the program. -/
inductive Request
  | validate (definition : String) (verbose : Bool)
  | run (request : RunRequest)
deriving DecidableEq, Inhabited

def Request.definition : Request → String
  | validate definition _ => definition
  | run request => request.definition

/-- Why the words are refused. -/
inductive UsageError
  /-- Nothing was asked for, so help is shown. -/
  | nothingAsked
  | missingCommand
  | unknownCommand (word : String)
  /-- An option is not known, or a word is not expected. -/
  | unknownArgument (word : String)
  | missingDefinition
  | emptyDefinition
  | missingValue (option : String)
  | badNumber (option text : String)
  | unexpectedValue (option : String)
  | repeatedOption (option : String)
  | helpAsked
deriving DecidableEq, Repr

def UsageError.message : UsageError → String
  | nothingAsked | helpAsked => ""
  | missingCommand => "a command is required"
  | unknownCommand word => "unknown command '" ++ word ++ "'"
  | unknownArgument word => "unexpected argument '" ++ word ++ "'"
  | missingDefinition => "a definition is required"
  | emptyDefinition => "the path of the definition is empty"
  | missingValue option => "option '--" ++ option ++ "' needs a value"
  | badNumber option text => "option '--" ++ option ++ "' has an invalid value '" ++ text ++ "'"
  | unexpectedValue option => "option '--" ++ option ++ "' takes no value"
  | repeatedOption option => "option '--" ++ option ++ "' is given twice"

namespace CommandLine

/-! ### Options -/

/-- An option without a value. -/
inductive Switch
  | noRetry
  | noJitter
  | stream
  | outputOnly
  | verbose
  | help
deriving DecidableEq, Repr

/-- An option with a value. -/
inductive Setting
  | message
  | state
  | maxAttempts
  | initialInterval
deriving DecidableEq, Repr

/-- An option. -/
inductive Choice
  | switch (s : Switch)
  | setting (s : Setting)
deriving DecidableEq, Repr

def Switch.name : Switch → String
  | noRetry => "no-retry"
  | noJitter => "no-jitter"
  | stream => "stream"
  | outputOnly => "output-only"
  | verbose => "verbose"
  | help => "help"

def Setting.name : Setting → String
  | message => "message"
  | state => "state"
  | maxAttempts => "max-attempts"
  | initialInterval => "initial-interval-ms"

def Choice.name : Choice → String
  | switch s => s.name
  | setting s => s.name

/-- The letter of an option, if it has one. -/
def Choice.letter? : Choice → Option Char
  | switch .verbose => some 'v'
  | switch .help => some 'h'
  | setting .message => some 'm'
  | _ => none

/-- The options that may stand before and after every command. -/
def generalChoices : List Choice := [.switch .verbose, .switch .help]

/-- The options of `run`. -/
def runChoices : List Choice :=
  generalChoices ++
    [.switch .noRetry, .switch .noJitter, .switch .stream, .switch .outputOnly,
     .setting .message, .setting .state, .setting .maxAttempts, .setting .initialInterval]

/-! ### Words -/

/-- What a word looks like. -/
inductive Word
  /-- `--` alone. -/
  | separator
  /-- A long name after two hyphens, and what stands after `=`. -/
  | long (name : String) (value : Option String)
  /-- Letters after one hyphen. -/
  | letters (cs : List Char)
  | plain
deriving DecidableEq, Repr

/-- Tells what a word looks like.  A single hyphen is a plain word. -/
def Word.ofText (word : String) : Word :=
  match word.toList with
  | ['-', '-'] => separator
  | '-' :: '-' :: cs =>
    match cs.dropWhile (· ≠ '=') with
    | _ :: value => long (String.ofList (cs.takeWhile (· ≠ '='))) (some (String.ofList value))
    | [] => long (String.ofList cs) none
  | '-' :: c :: cs => letters (c :: cs)
  | _ => plain

/-- What was taken up and is not checked yet. -/
inductive Pending
  /-- An option, with its value if that has come. -/
  | setting (s : Setting) (value : Option String)
  | definition (path : String)
deriving DecidableEq, Repr

/-- What has been read of the words of a command. -/
structure Reading where
  switches : List Switch := []
  message : Option String := none
  state : Option String := none
  maxAttempts : Option UInt32 := none
  initialInterval : Option UInt64 := none
  definition : Option String := none
  pending : Option Pending := none
  rest : List String := []

namespace Reading

def has (r : Reading) : Setting → Bool
  | .message => r.message.isSome
  | .state => r.state.isSome
  | .maxAttempts => r.maxAttempts.isSome
  | .initialInterval => r.initialInterval.isSome

def maxAttempts? (text : String) : Option UInt32 :=
  match Text.integer? text with
  | some i => if 0 ≤ i ∧ i < 0x100000000 then some (UInt32.ofNat i.toNat) else none
  | none => none

def interval? (text : String) : Option UInt64 :=
  (Text.natural? UInt64.size text).map UInt64.ofNat

def set (r : Reading) (s : Setting) (value : String) : Except UsageError Reading :=
  if r.has s then .error (.repeatedOption s.name)
  else
    match s with
    | .message => .ok { r with message := some value }
    | .state => .ok { r with state := some value }
    | .maxAttempts =>
      match maxAttempts? value with
      | some n => .ok { r with maxAttempts := some n }
      | none => .error (.badNumber s.name value)
    | .initialInterval =>
      match interval? value with
      | some n => .ok { r with initialInterval := some n }
      | none => .error (.badNumber s.name value)

/-- Checks what was taken up last. -/
def settle (r : Reading) : Except UsageError Reading :=
  let settled := { r with pending := none }
  match r.pending with
  | none => .ok settled
  | some (.setting s none) => .error (.missingValue s.name)
  | some (.setting s (some value)) => settled.set s value
  | some (.definition path) =>
    if path = "" then .error .emptyDefinition else .ok { settled with definition := some path }

def turnOn (r : Reading) (s : Switch) : Except UsageError Reading := do
  let r ← r.settle
  if s = .help then throw .helpAsked
  if s ∈ r.switches then throw (.repeatedOption s.name)
  return { r with switches := s :: r.switches }

/-- Takes up an option with a value that is still to come. -/
def await (r : Reading) (s : Setting) : Except UsageError Reading := do
  return { ← r.settle with pending := some (.setting s none) }

def give (r : Reading) (s : Setting) (value : String) : Except UsageError Reading := do
  (← r.settle).set s value

def long (r : Reading) (choices : List Choice) (name : String) (value : Option String) :
    Except UsageError Reading :=
  match choices.find? (·.name = name), value with
  | none, _ => .error (.unknownArgument ("--" ++ name))
  | some (.switch s), some _ => .error (.unexpectedValue s.name)
  | some (.switch s), none => r.turnOn s
  | some (.setting s), some value => r.give s value
  | some (.setting s), none => r.await s

/-- Takes up options by their letters.  What follows the letter of an option with a value is its
    value. -/
def letters (choices : List Choice) (r : Reading) : List Char → Except UsageError Reading
  | [] => .ok r
  | c :: cs =>
    match choices.find? (·.letter? = some c), cs with
    | none, _ => .error (.unknownArgument ("-" ++ c.toString))
    | some (.switch s), _ => do letters choices (← r.turnOn s) cs
    | some (.setting s), [] => r.await s
    | some (.setting s), '=' :: value => r.give s (String.ofList value)
    | some (.setting s), value => r.give s (String.ofList value)

/-- Whether the word of the definition has been taken up. -/
def hasDefinition (r : Reading) : Bool :=
  match r.pending with
  | some (.definition _) => true
  | _ => r.definition.isSome

def define (r : Reading) (path : String) : Except UsageError Reading := do
  return { ← r.settle with pending := some (.definition path) }

end Reading

/-! ### Commands -/

/-- The commands that take a definition. -/
inductive CommandName
  | validate
  | run
deriving DecidableEq, Repr

def CommandName.ofText? : String → Option CommandName
  | "validate" => some validate
  | "run" => some run
  | _ => none

def CommandName.choices : CommandName → List Choice
  | validate => generalChoices
  | run => runChoices

/-- Reads the words after the name of a command.  `literal` tells that they are no options. -/
def readWords (command : CommandName) (literal : Bool) (r : Reading) :
    List String → Except UsageError Reading
  | [] => r.settle
  | word :: rest => do
    match if literal then .plain else Word.ofText word with
    | .separator => readWords command true r rest
    | .long name value => readWords command literal (← r.long command.choices name value) rest
    | .letters cs => readWords command literal (← r.letters command.choices cs) rest
    | .plain =>
      match literal, r.pending with
      | false, some (.setting s none) =>
        readWords command literal { r with pending := some (.setting s (some word)) } rest
      | _, _ =>
        if ¬ r.hasDefinition then readWords command literal (← r.define word) rest
        else if command = .run then return { ← r.settle with rest := word :: rest }
        else throw (.unknownArgument word)

/-- What is asked for by the words of a command.  `verbose` tells whether the option stood before
    the command. -/
def request (command : CommandName) (verbose : Bool) (r : Reading) : Except UsageError Request :=
  match r.definition with
  | none => .error .missingDefinition
  | some definition =>
    let verbose := verbose || .verbose ∈ r.switches
    match command with
    | .validate => .ok (.validate definition verbose)
    | .run => .ok (.run
      { definition
        messageOption := r.message
        state := r.state
        outputOnly := .outputOnly ∈ r.switches
        options :=
          { maxAttempts := r.maxAttempts
            initialIntervalMs := r.initialInterval
            noRetry := .noRetry ∈ r.switches
            noJitter := .noJitter ∈ r.switches
            stream := .stream ∈ r.switches
            verbose }
        rest := r.rest })

/-- Whether a word names a command, that for help included. -/
def isCommand (word : String) : Bool := (CommandName.ofText? word).isSome || word = "help"

/-- Reads the words after `help`: one command may be named. -/
def readHelp : List String → UsageError
  | [] => .helpAsked
  | word :: rest =>
    match isCommand word, rest with
    | false, _ => .unknownCommand word
    | true, [] => .helpAsked
    | true, next :: _ => .unknownCommand next

/-- Reads the words up to the command and then those of the command. -/
def readCommand (r : Reading) : List String → Except UsageError Request
  | [] => .error (if r.switches.isEmpty then .nothingAsked else .missingCommand)
  | word :: rest =>
    match CommandName.ofText? word, Word.ofText word with
    | some command, _ => do
      request command (.verbose ∈ r.switches) (← readWords command false {} rest)
    | none, .separator =>
      match rest with
      | [] => readCommand r []
      | next :: _ =>
        .error (if isCommand next then .unknownArgument next else .unknownCommand next)
    | none, .long name value => do readCommand (← r.long generalChoices name value) rest
    | none, .letters cs => do readCommand (← r.letters generalChoices cs) rest
    | none, .plain => .error (if word = "help" then readHelp rest else .unknownCommand word)

/-- Reads the words of a command line, without the name of the program. -/
def parse (words : List String) : Except UsageError Request := readCommand {} words

end CommandLine

end Flowgraph
