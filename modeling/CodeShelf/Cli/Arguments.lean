/-!
# Command lines

The commands and their arguments, and the reading of a command line.  A command line
that does not fit is refused as a whole.

An option is written `--name value`, `--name=value`, `-n value`, `-nvalue` or
`-n=value`, and at most once.  A separate value does not begin with a minus sign,
unless it is one.  After `--` everything is positional.  The option for the address of
the service may stand before the command, after it, or both, and the one after the
command counts.
-/

namespace CodeShelf.Cli

inductive CodeSource where
  | file (path : String)
  | text (code : String)
  deriving DecidableEq, Repr

inductive RunSource where
  | file (path : String)
  | text (code : String)
  | sample (name : String)
  deriving DecidableEq, Repr

inductive Command where
  | list (search : Option String)
  | show (name : String)
  | add (name : String) (source : CodeSource)
  | run (source : RunSource)
  | hello
  deriving DecidableEq, Repr

def Command.path? : Command → Option String
  | add _ (.file path) => some path
  | run (.file path) => some path
  | _ => none

structure Invocation where
  backend : Option String
  command : Command
  deriving DecidableEq, Repr

inductive OptionName where
  | backend
  | search
  | file
  | code
  | sample
  deriving DecidableEq, Repr

inductive CommandName where
  | list
  | show
  | add
  | run
  | hello
  deriving DecidableEq, Repr

namespace CommandName

def ofWord? (word : String) : Option CommandName :=
  if word = "list" then some list
  else if word = "show" then some .show
  else if word = "add" then some add
  else if word = "run" then some run
  else if word = "hello" then some hello
  else none

def options : CommandName → List OptionName
  | list => [.search]
  | .show => []
  | add => [.file, .code]
  | run => [.code, .sample]
  | hello => []

end CommandName

namespace OptionName

def longWord : OptionName → String
  | backend => "backend"
  | search => "search"
  | file => "file"
  | code => "code"
  | sample => "sample"

def letter? : OptionName → Option Char
  | backend => none
  | search => some 's'
  | file => some 'f'
  | code => some 'c'
  | sample => some 's'

end OptionName

structure Parts where
  options : List (OptionName × String) := []
  positionals : List String := []
  deriving DecidableEq, Repr

namespace Parts

def value? (name : OptionName) (p : Parts) : Option String :=
  p.options.lookup name

def add? (name : OptionName) (value : String) (p : Parts) : Option Parts :=
  if (p.value? name).isSome then none
  else some { p with options := p.options ++ [(name, value)] }

end Parts

structure OptionArgument where
  name : OptionName
  attached : Option String
  deriving DecidableEq, Repr

inductive Argument where
  | option (argument : OptionArgument)
  | positional (text : String)
  | separator
  | unknown
  deriving DecidableEq, Repr

def afterEquals? : List Char → Option String
  | '=' :: rest => some (String.ofList rest)
  | _ => none

def Argument.read (known : List OptionName) (text : String) : Argument :=
  match text.toList with
  | ['-', '-'] => .separator
  | '-' :: '-' :: rest =>
      let word := String.ofList (rest.takeWhile (· != '='))
      match known.find? fun o => o.longWord == word with
      | some name => .option ⟨name, afterEquals? (rest.dropWhile (· != '='))⟩
      | none => .unknown
  | '-' :: letter :: rest =>
      match known.find? fun o => o.letter? == some letter with
      | some name =>
          .option ⟨name,
            if rest.isEmpty then none else some ((afterEquals? rest).getD (String.ofList rest))⟩
      | none => .unknown
  | _ => .positional text

/-- Reads the arguments of a command: options and positional arguments in any order.
`expecting` is an option that waits for its value. -/
def readParts (known : List OptionName) :
    (expecting : Option OptionName) → Parts → List String → Option Parts
  | none, p, [] => some p
  | some _, _, [] => none
  | some name, p, text :: rest =>
      match Argument.read known text with
      | .positional value => (p.add? name value).bind fun p => readParts known none p rest
      | _ => none
  | none, p, text :: rest =>
      match Argument.read known text with
      | .positional value =>
          readParts known none { p with positionals := p.positionals ++ [value] } rest
      | .option ⟨name, some value⟩ =>
          (p.add? name value).bind fun p => readParts known none p rest
      | .option ⟨name, none⟩ => readParts known (some name) p rest
      | .separator => some { p with positionals := p.positionals ++ rest }
      | .unknown => none

def readHead :
    (expecting : Bool) → Parts → List String → Option (Parts × CommandName × List String)
  | _, _, [] => none
  | true, p, text :: rest =>
      match Argument.read [.backend] text with
      | .positional value => (p.add? .backend value).bind fun p => readHead false p rest
      | _ => none
  | false, p, text :: rest =>
      match Argument.read [.backend] text with
      | .positional word => (CommandName.ofWord? word).map fun name => (p, name, rest)
      | .option ⟨name, some value⟩ => (p.add? name value).bind fun p => readHead false p rest
      | .option ⟨_, none⟩ => readHead true p rest
      | _ => none

def path? (text : String) : Option String :=
  if text.isEmpty then none else some text

def codeSource? (p : Parts) : Option CodeSource :=
  match p.value? .file, p.value? .code with
  | some path, none => (path? path).map .file
  | none, some code => some (.text code)
  | _, _ => none

def runSource? (p : Parts) : Option RunSource :=
  match p.positionals, p.value? .code, p.value? .sample with
  | [path], none, none => (path? path).map .file
  | [], some code, none => some (.text code)
  | [], none, some name => some (.sample name)
  | _, _, _ => none

def command? (name : CommandName) (p : Parts) : Option Command :=
  match name, p.positionals with
  | .list, [] => some (.list (p.value? .search))
  | .show, [name] => some (.show name)
  | .add, [name] => (codeSource? p).map (.add name)
  | .run, _ => (runSource? p).map .run
  | .hello, [] => some .hello
  | _, _ => none

/-- Reads a command line.  Without an option for it the address of the service is the
one of the environment. -/
def Invocation.read? (environment : Option String) (arguments : List String) :
    Option Invocation := do
  let (head, name, rest) ← readHead false {} arguments
  let parts ← readParts (.backend :: name.options) none {} rest
  let command ← command? name parts
  let backend := (parts.value? .backend).or ((head.value? .backend).or environment)
  some ⟨backend, command⟩

end CodeShelf.Cli
