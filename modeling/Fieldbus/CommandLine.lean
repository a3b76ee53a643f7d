/-! The command line: a configuration, and a recording to replay with its format.  Each option is
given at most once, and there is nothing but options.  Words are read from left to right, and the
first one that asks for the version or for help, or that is wrong, decides. -/

namespace Fieldbus

structure Options where
  config : String := "canhub.toml"
  replay : Option String := none
  format : String := "gvret-a"
deriving DecidableEq, Inhabited

inductive Invocation where
  | run (options : Options)
  | version
  | help
  | invalid
deriving DecidableEq, Inhabited

namespace CommandLine

inductive Key where
  | config
  | replay
  | format
deriving DecidableEq

structure Given where
  config : Option String := none
  replay : Option String := none
  format : Option String := none

namespace Given

/-- Takes a value; only one is allowed for each option, and no path is empty. -/
def put (g : Given) (key : Key) (value : String) : Option Given :=
  match key with
  | .config => if g.config.isSome ∨ value = "" then none else some { g with config := some value }
  | .replay => if g.replay.isSome ∨ value = "" then none else some { g with replay := some value }
  | .format => if g.format.isSome then none else some { g with format := some value }

def options (g : Given) : Options :=
  { config := g.config.getD ({} : Options).config
    replay := g.replay
    format := g.format.getD ({} : Options).format }

end Given

inductive Word where
  | version
  | help
  /-- An option with its value, unless that is the next word. -/
  | option (key : Key) (value : Option String)
  | stop
  /-- A word that can only be a value. -/
  | plain (text : String)
  | unknown

/-- An option by its long name. -/
def longOption (name : String) (value : Option String) : Word :=
  match name with
  | "version" => if value.isNone then .version else .unknown
  | "help" => if value.isNone then .help else .unknown
  | "config" => .option .config value
  | "replay" => .option .replay value
  | "format" => .option .format value
  | _ => .unknown

/-- An option by its letter, with what follows the letter in the same word. -/
def shortOption : Char → List Char → Word
  | 'V', _ => .version
  | 'h', _ => .help
  | 'c', [] => .option .config none
  | 'c', '=' :: value => .option .config (some (String.ofList value))
  | 'c', value => .option .config (some (String.ofList value))
  | _, _ => .unknown

/-- The word that a text is; a dash alone is a value. -/
def Word.of (text : String) : Word :=
  match text.toList with
  | ['-', '-'] => .stop
  | '-' :: '-' :: rest =>
    let name := rest.takeWhile (· ≠ '=')
    let value := (rest.dropWhile (· ≠ '=')).tail?
    longOption (String.ofList name) (value.map String.ofList)
  | '-' :: letter :: rest => shortOption letter rest
  | _ => .plain text

/-- Reads words after those that gave `g`; the value of an option may still be missing. -/
def parseFrom (g : Given) (missing : Option Key) : List String → Invocation
  | [] => if missing.isNone then .run g.options else .invalid
  | text :: rest =>
    match missing, Word.of text with
    | some key, .plain value | none, .option key (some value) =>
      match g.put key value with
      | some g => parseFrom g none rest
      | none => .invalid
    | none, .option key none => parseFrom g (some key) rest
    | none, .version => .version
    | none, .help => .help
    | none, .stop => if rest.isEmpty then .run g.options else .invalid
    | _, _ => .invalid

def parse (words : List String) : Invocation := parseFrom {} none words

end CommandLine
end Fieldbus
