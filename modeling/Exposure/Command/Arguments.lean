/-!
# Arguments of the command line

There are two commands.  `header` writes the generated header, `resolve` runs a pass on the dump of
a catalog.  An option is given by its long name, with its value behind an equals sign or as the next
argument, or by a letter in a cluster, with its value behind the letter or as the next argument.
The arguments are read from left to right, and the first one that is wrong, or that asks for help,
ends the reading.
-/

namespace Exposure

/-- What the command line asks for. -/
inductive Command where
  /-- Write the generated header, to a file or to the output. -/
  | header (config : String) (out : Option String)
  /-- Run a pass on a dump, explain some names, and write the manifest. -/
  | resolve (config catalog : String) (explain : List String) (manifest : Option String)
deriving DecidableEq, Repr

namespace Command

/-- Why no command is run. -/
inductive Stop where
  | help
  | usage
deriving DecidableEq, Repr

/-- The options that have a value. -/
inductive Key where
  | config
  | out
  | catalog
  | explain
  | manifest
deriving DecidableEq, Repr

/-- The long name of an option. -/
def Key.long : Key → String
  | config => "config"
  | out => "out"
  | catalog => "catalog"
  | explain => "explain"
  | manifest => "manifest"

/-- The letter of an option, if it has one. -/
def Key.letter? : Key → Option Char
  | config => some 'c'
  | out => some 'o'
  | _ => none

/-- Whether an option may be given more than once and with an empty value. -/
def Key.isFree : Key → Bool
  | explain => true
  | _ => false

/-- The values of options, in their order. -/
abbrev Settings := List (Key × String)

/-- Add the value of an option. -/
def add (s : Settings) (k : Key) (value : String) : Except Stop Settings :=
  if ! k.isFree && (value.isEmpty || s.any (·.1 = k)) then .error .usage
  else .ok (s ++ [(k, value)])

/-- Whether an argument can be a value although it stands by itself. -/
def isValue (argument : String) : Bool :=
  match argument.toList with
  | '-' :: _ :: _ => false
  | _ => true

/-- What a cluster of letters asks for behind its flags. -/
inductive Cluster where
  | flags
  /-- An option with a value behind its letter. -/
  | valued (key : Key) (value : String)
  /-- An option whose value is the next argument. -/
  | awaiting (key : Key)
deriving DecidableEq, Repr

/-- Read a cluster of letters. -/
def cluster (keys : List Key) : List Char → Except Stop Cluster
  | [] => .ok .flags
  | c :: cs =>
      if c = 'v' then cluster keys cs
      else if c = 'h' then .error .help
      else
        match keys.find? (·.letter? = some c) with
        | none => .error .usage
        | some k =>
            match cs with
            | [] => .ok (.awaiting k)
            | '=' :: value => .ok (.valued k (String.ofList value))
            | value => .ok (.valued k (String.ofList value))

/-- Read a long name, with the value behind an equals sign if there is one. -/
def longName (keys : List Key) (cs : List Char) : Except Stop Cluster :=
  let name := String.ofList (cs.takeWhile (· ≠ '='))
  let value? := match cs.dropWhile (· ≠ '=') with
    | _ :: value => some (String.ofList value)
    | [] => none
  match keys.find? (·.long = name), value? with
  | some k, some value => .ok (.valued k value)
  | some k, none => .ok (.awaiting k)
  | none, some _ => .error .usage
  | none, none =>
      if name = "verbose" then .ok .flags
      else if name = "help" then .error .help
      else .error .usage

/-- Read the options of a command behind the given ones. -/
def settings (keys : List Key) (s : Settings) : List String → Except Stop Settings
  | [] => .ok s
  | argument :: rest => do
      let option ← match argument.toList with
        | ['-', '-'] => if rest.isEmpty then .ok .flags else .error .usage
        | '-' :: '-' :: cs => longName keys cs
        | '-' :: c :: cs => cluster keys (c :: cs)
        | _ => .error .usage
      match option with
      | .flags => settings keys s rest
      | .valued k value => settings keys (← add s k value) rest
      | .awaiting k =>
          match rest with
          | [] => .error .usage
          | value :: rest =>
              if isValue value then settings keys (← add s k value) rest else .error .usage

/-- The value of an option. -/
def value? (s : Settings) (k : Key) : Option String := s.lookup k

/-- The value of an option that must be given. -/
def required (s : Settings) (k : Key) : Except Stop String :=
  match value? s k with
  | some value => .ok value
  | none => .error .usage

/-- Read the options of `header`. -/
def parseHeader (arguments : List String) : Except Stop Command := do
  let s ← settings [.config, .out] [] arguments
  pure (.header (← required s .config) (value? s .out))

/-- Read the options of `resolve`. -/
def parseResolve (arguments : List String) : Except Stop Command := do
  let s ← settings [.config, .catalog, .explain, .manifest] [] arguments
  let explain := (s.filter (·.1 = .explain)).map Prod.snd
  pure (.resolve (← required s .config) (← required s .catalog) explain (value? s .manifest))

/-- Read the command line: flags may stand in front of the command. -/
def parse : List String → Except Stop Command
  | [] => .error .usage
  | argument :: rest =>
      if argument = "header" then parseHeader rest
      else if argument = "resolve" then parseResolve rest
      else if argument = "help" then
        match rest with
        | [] => .error .help
        | [name] => .error (if ["header", "resolve", "help"].contains name then .help else .usage)
        | _ => .error .usage
      else
        match settings [] [] [argument] with
        | .ok _ => if argument = "--" then .error .usage else parse rest
        | .error stop => .error stop

end Command

end Exposure
