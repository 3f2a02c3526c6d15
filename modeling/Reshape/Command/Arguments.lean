import Reshape.Command.Output
/-!
The command line. Options stand before or after the name of a command, which has options of
its own; a value follows its option in the same word or as the next one, and letters of
options without values may share a hyphen. After two hyphens no word is an option.
-/

namespace Reshape.Command

inductive Verb where
  | convert
  | get
  | check
  | completions
deriving DecidableEq

namespace Verb

def ofName? : (name : String) → Option Verb
  | "convert" => some .convert
  | "get" => some .get
  | "check" => some .check
  | "completions" => some .completions
  | _ => none

def name : Verb → String
  | .convert => "convert"
  | .get => "get"
  | .check => "check"
  | .completions => "completions"

def operands : Verb → Nat × Nat
  | .convert | .get => (1, 2)
  | .check | .completions => (1, 1)

end Verb

inductive Flag where
  | verbose
  | quiet
  | config
  | output
  | noColor
  | delimiter
  | each
  | lines
  | strict
  | default
  | help
  | version
deriving DecidableEq

namespace Flag

def longName : Flag → String
  | .verbose => "verbose"
  | .quiet => "quiet"
  | .config => "config"
  | .output => "output"
  | .noColor => "no-color"
  | .delimiter => "delimiter"
  | .each => "each"
  | .lines => "lines"
  | .strict => "strict"
  | .default => "default"
  | .help => "help"
  | .version => "version"

def letter? : Flag → Option Char
  | .verbose => some 'v'
  | .quiet => some 'q'
  | .config => some 'c'
  | .output => some 'o'
  | .delimiter => some 'd'
  | .strict => some 's'
  | .help => some 'h'
  | .version => some 'V'
  | _ => none

def takesValue : Flag → Bool
  | .config | .output | .delimiter | .default => true
  | _ => false

/-- Whether a value may be given; files have names that are not empty. -/
def accepts : Flag → (value : String) → Bool
  | .config, value => !value.isEmpty
  | .output, value => (OutputFormat.ofName? value).isSome
  | _, _ => true

def everywhere : List Flag :=
  [.verbose, .quiet, .config, .output, .noColor, .delimiter, .help, .version]

def of : Option Verb → List Flag
  | some .convert => everywhere ++ [.each, .lines, .strict]
  | some .get => everywhere ++ [.strict, .default]
  | _ => everywhere

def ofLongName? (verb : Option Verb) (name : String) : Option Flag :=
  (of verb).find? (·.longName == name)

def ofLetter? (verb : Option Verb) (letter : Char) : Option Flag :=
  (of verb).find? (·.letter? == some letter)

def conflicts : List (Flag × Flag) := [(.quiet, .verbose), (.each, .lines), (.strict, .default)]

end Flag

/-- Why the command line asks for nothing to be run. -/
inductive Refusal where
  | rejected
  | help
  | version (verb : Option Verb)
deriving DecidableEq

structure Words where
  given : List (Flag × String) := []
  operands : List String := []

namespace Words

def has (words : Words) (flag : Flag) : Bool := words.given.any (·.1 == flag)

def value? (words : Words) (flag : Flag) : Option String := words.given.lookup flag

def count (words : Words) (flag : Flag) : Nat := (words.given.filter (·.1 == flag)).length

/-- Adds an option. Only `verbose` may be given more than once. -/
def addFlag (verb : Option Verb) (flag : Flag) (value : String) (words : Words) :
    Except Refusal Words :=
  if flag = .help then .error .help
  else if flag = .version then .error (.version verb)
  else if (flag != .verbose && words.has flag) || !flag.accepts value then .error .rejected
  else .ok { words with given := (flag, value) :: words.given }

def addOperand (verb : Verb) (operand : String) (words : Words) : Except Refusal Words :=
  let isPath := !(verb == .get && words.operands.isEmpty)
  if words.operands.length ≥ verb.operands.2 || (isPath && operand.isEmpty) then .error .rejected
  else .ok { words with operands := words.operands ++ [operand] }

/-- Options as letters after one hyphen. The last of them may take a value: the rest of the
word, without the equals sign before it, or else the next word, for which it is returned. -/
def addLetters (verb : Option Verb) : (letters : List Char) → (words : Words) →
    Except Refusal (Words × Option Flag)
  | [], words => .ok (words, none)
  | letter :: rest, words =>
      match Flag.ofLetter? verb letter with
      | none => .error .rejected
      | some flag =>
          if flag.takesValue then
            match rest with
            | [] => .ok (words, some flag)
            | '=' :: value => (words.addFlag verb flag (String.ofList value)).map (·, none)
            | value => (words.addFlag verb flag (String.ofList value)).map (·, none)
          else do addLetters verb rest (← words.addFlag verb flag "")

def addLong (verb : Option Verb) (word : List Char) (words : Words) :
    Except Refusal (Words × Option Flag) :=
  let name := String.ofList (word.takeWhile (· != '='))
  match Flag.ofLongName? verb name, word.dropWhile (· != '=') with
  | none, _ => .error .rejected
  | some flag, [] =>
      if flag.takesValue then .ok (words, some flag) else (words.addFlag verb flag "").map (·, none)
  | some flag, _ :: value =>
      if flag.takesValue then (words.addFlag verb flag (String.ofList value)).map (·, none)
      else .error .rejected

def helpWith : (names : List String) → Refusal
  | [] => .help
  | [name] => if name == "help" || (Verb.ofName? name).isSome then .help else .rejected
  | _ => .rejected

def isOption (word : String) : Bool := word.startsWith "-" && word != "-"

/-- The words of one side. Before a command's name the first word that is no option names
it, and the words after it are returned. `awaiting` is an option whose value comes next. -/
def read (verb : Option Verb) :
    (awaiting : Option Flag) → (escaped : Bool) → (arguments : List String) →
    (words : Words) → Except Refusal (Words × Option (Verb × List String))
  | some _, _, [], _ => .error .rejected
  | none, _, [], words => .ok (words, none)
  | some flag, _, word :: rest, words =>
      if isOption word then .error .rejected
      else do read verb none false rest (← words.addFlag verb flag word)
  | none, escaped, word :: rest, words =>
      if !escaped && word == "--" then read verb none true rest words
      else if !escaped && isOption word then do
        let letters := word.toList.drop 1
        let (words, awaiting) ← match letters with
          | '-' :: name => words.addLong verb name
          | letters => words.addLetters verb letters
        read verb awaiting false rest words
      else
        match verb with
        | some command => do read verb none escaped rest (← words.addOperand command word)
        | none =>
            match Verb.ofName? word with
            | some command =>
                if escaped then .error .rejected else .ok (words, some (command, rest))
            | none => .error (if word == "help" && !escaped then helpWith rest else .rejected)

def conflicting (words : Words) : Bool :=
  Flag.conflicts.any fun (one, other) => words.has one && words.has other

end Words

inductive Shell where
  | bash
  | zsh
  | fish
  | powerShell
  | elvish
deriving DecidableEq

def Shell.ofName? : (name : String) → Option Shell
  | "bash" => some .bash
  | "zsh" => some .zsh
  | "fish" => some .fish
  | "power-shell" => some .powerShell
  | "elvish" => some .elvish
  | _ => none

/-- How the items of an input are found: it is one itself, a list of them, or a line each. -/
inductive Mode where
  | single
  | each
  | lines
deriving DecidableEq

inductive Task where
  | convert (schema : String) (input : Option String) (mode : Mode) (strict : Bool)
  | get (path : String) (input : Option String) (strict : Bool) (default : Option String)
  | check (schema : String)
  | completions (shell : Shell)
deriving DecidableEq

structure Arguments where
  verbosity : Nat := 0
  quiet : Bool := false
  config : Option String := none
  output : Option OutputFormat := none
  noColor : Bool := false
  delimiter : Option String := none
  task : Task
deriving DecidableEq

namespace Arguments

def taskOf? (verb : Verb) (words : Words) : Option Task :=
  let strict := words.has .strict
  match verb, words.operands with
  | .convert, schema :: input =>
      let mode := if words.has .each then .each else if words.has .lines then .lines else .single
      some (.convert schema input.head? mode strict)
  | .get, path :: input => some (.get path input.head? strict (words.value? .default))
  | .check, [schema] => some (.check schema)
  | .completions, [shell] => (Shell.ofName? shell).map .completions
  | _, _ => none

/-- The arguments of a command line. An option that is given on both sides of the command's
name has the value after it. The configuration file may come from a variable. -/
def ofWords? (configVariable : Option String) (before : Words) (verb : Verb) (after : Words) :
    Option Arguments := do
  let task ← taskOf? verb after
  let value? (flag : Flag) := (after.value? flag).or (before.value? flag)
  let has (flag : Flag) := after.has flag || before.has flag
  let missing := !(after.has .config && before.has .config)
  if before.conflicting || after.conflicting || (missing && configVariable == some "") then none
  else
    return {
      verbosity := if after.has .verbose then after.count .verbose else before.count .verbose
      quiet := has .quiet
      config := (value? .config).or configVariable
      output := (value? .output).bind OutputFormat.ofName?
      noColor := has .noColor
      delimiter := value? .delimiter
      task }

def parse (configVariable : Option String) (arguments : List String) :
    Except Refusal Arguments := do
  match ← Words.read none none false arguments {} with
  | (_, none) => throw .rejected
  | (before, some (verb, rest)) =>
      let (after, _) ← Words.read (some verb) none false rest {}
      match ofWords? configVariable before verb after with
      | some arguments => return arguments
      | none => throw .rejected

def inputFiles (arguments : Arguments) : List String :=
  match arguments.task with
  | .convert schema input _ _ => schema :: input.toList
  | .get _ input _ _ => input.toList
  | .check schema => [schema]
  | .completions _ => []

def readsInput (arguments : Arguments) : Bool :=
  match arguments.task with
  | .convert _ input _ _ | .get _ input _ _ => input.getD "-" == "-"
  | _ => false

end Arguments

end Reshape.Command
