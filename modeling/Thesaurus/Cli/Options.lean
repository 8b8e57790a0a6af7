/-!
Command-line options and how a list of arguments is read against them. Each argument is, in
turn, a command name, `--` (after which every argument is a plain value), a long option
`--name` or `--name=value`, a cluster of short options `-abc` whose value-taking member takes
the rest of the cluster or the next argument, the value an option waits for, or a plain
value. A value that looks like an option is never taken as one. Reading stops at the first
misuse, at a request for help or for the version, or at a command name, which hands the
remaining arguments to that command.
-/

namespace Thesaurus.Cli

/-- How an option is used. -/
inductive Arity where
  | flag
  | count
  | single
  | list
  | help
  | version
deriving DecidableEq, Repr, Inhabited

/-- What values an option takes. -/
inductive Accepts where
  | text
  | path
  | size
  | choice (values : List (String × String))
deriving Repr, Inhabited

/-- An option. -/
structure Opt where
  long : String
  short : Option Char
  arity : Arity
  valueName : String
  accepts : Accepts
  help : String
  aliases : List String
  default : Option String
deriving Repr, Inhabited

namespace Opt

/-- A switch given at most once. -/
def flag (long : String) (short : Option Char) (help : String) : Opt :=
  ⟨long, short, .flag, "", .text, help, [], none⟩

/-- An option with one value. -/
def single (long : String) (short : Option Char) (valueName : String) (accepts : Accepts)
    (help : String) : Opt :=
  ⟨long, short, .single, valueName, accepts, help, [], none⟩

/-- An option whose comma-separated values add up. -/
def list (long : String) (short : Option Char) (valueName : String) (help : String) : Opt :=
  ⟨long, short, .list, valueName, .text, help, [], none⟩

/-- Whether the option takes a value. -/
def takesValue (o : Opt) : Bool :=
  o.arity == .single || o.arity == .list

/-- How the option is written in help texts and messages: `--name`, then `<VALUE>` for one
that takes a value or `...` for one that counts. -/
def spec (o : Opt) : String :=
  "--" ++ o.long ++
    (if o.takesValue then " <" ++ o.valueName ++ ">" else if o.arity == .count then "..." else "")

end Opt

/-- A command: its name, what it does, how it is used, its options, its plain value if it
takes one, and the commands under it. -/
structure Spec where
  name : String
  about : String
  usage : String
  options : List Opt
  positional : Option (String × String)
  commands : List (String × String)
deriving Repr, Inhabited

namespace Spec

/-- The option with a long name or alias. -/
def findLong (s : Spec) (name : String) : Option Opt :=
  s.options.find? fun o => o.long == name || o.aliases.contains name

/-- The option with a short name. -/
def findShort (s : Spec) (c : Char) : Option Opt :=
  s.options.find? fun o => o.short == some c

end Spec

/-- The value of a size, as a decimal number below `2 ^ 64` with an optional plus sign. -/
def sizeValue (text : String) : Option Nat :=
  let digits := match text.toList with
    | '+' :: rest => rest
    | cs => cs
  if !digits.isEmpty && digits.all Char.isDigit then
    let n := digits.foldl (fun n c => 10 * n + (c.toNat - 48)) 0
    if n < Nat.pow 2 64 then some n else none
  else none

/-- Whether an option takes a value. -/
def accepts (a : Accepts) (value : String) : Bool :=
  match a with
  | .text => true
  | .path => !value.isEmpty
  | .size => (sizeValue value).isSome
  | .choice values => values.any (·.1 == value)

/-- What a reading has collected: the values of each option used, by long name, and the
plain values. A switch has one value per use. -/
structure Scan where
  values : List (String × List String)
  positionals : List String
deriving Repr, Inhabited

namespace Scan

/-- Nothing collected. -/
def empty : Scan := ⟨[], []⟩

/-- The values of an option, if it was used. -/
def get? (s : Scan) (long : String) : Option (List String) :=
  s.values.lookup long

/-- Whether an option was used. -/
def has (s : Scan) (long : String) : Bool :=
  (s.get? long).isSome

/-- The last value of an option, if it was used. -/
def last? (s : Scan) (long : String) : Option String :=
  (s.get? long).bind List.getLast?

/-- All the values of an option, none if it was not used. -/
def all (s : Scan) (long : String) : List String :=
  (s.get? long).getD []

/-- Adds values to an option. -/
def add (s : Scan) (long : String) (vs : List String) : Scan :=
  if s.has long then { s with values := s.values.map fun (k, xs) => if k == long then (k, xs ++ vs) else (k, xs) }
  else { s with values := s.values ++ [(long, vs)] }

end Scan

/-- Why a reading stopped before the arguments ran out. -/
inductive Halt where
  | help (long : Bool)
  | version
  | usage (message : String)
  | command (globals : Scan) (name : String) (rest : List String)
  | helpCommand (names : List String)
deriving Repr, Inhabited

/-- The misuse of an option left waiting for its value. -/
def missingValue (o : Opt) : Halt :=
  .usage ("a value is required for '" ++ o.spec ++ "' but none was supplied")

/-- Records a use of an option with its value, if it takes one. A switch or an option with
one value may be used only once; values are checked. -/
def occur (o : Opt) (s : Scan) (value : Option String) : Except Halt Scan :=
  let twice : Except Halt Scan := .error (.usage ("the argument '" ++ o.spec ++ "' cannot be used multiple times"))
  let invalid (v : String) : Except Halt Scan :=
    .error (.usage ("invalid value '" ++ v ++ "' for '" ++ o.spec ++ "'"))
  match o.arity, value with
  | .flag, _ => if s.has o.long then twice else .ok (s.add o.long ["true"])
  | .count, _ => .ok (s.add o.long [""])
  | .single, some v =>
    if s.has o.long then twice
    else if accepts o.accepts v then .ok (s.add o.long [v]) else invalid v
  | .list, some v =>
    let vs := v.splitOn ","
    match vs.find? (fun x => !accepts o.accepts x) with
    | some x => invalid x
    | none => .ok (s.add o.long vs)
  | _, _ => .ok s

/-- Records a plain value, if the command takes one more. -/
def positional (spec : Spec) (s : Scan) (arg : String) : Except Halt Scan :=
  if spec.positional.isSome && s.positionals.isEmpty then .ok { s with positionals := [arg] }
  else if spec.commands.isEmpty then .error (.usage ("unexpected argument '" ++ arg ++ "' found"))
  else .error (.usage ("unrecognized subcommand '" ++ arg ++ "'"))

/-- Reads a cluster of short options: switches are recorded in turn; an option that takes a
value takes the rest of the cluster (after an optional `=`), or, when nothing follows it,
is returned to wait for the next argument. -/
def cluster (spec : Spec) : List Char → Scan → Except Halt (Scan × Option Opt)
  | [], s => .ok (s, none)
  | c :: cs, s =>
    match spec.findShort c with
    | none => .error (.usage ("unexpected argument '-" ++ c.toString ++ "' found"))
    | some o =>
      match o.arity with
      | .help => .error (.help false)
      | .version => .error .version
      | .flag | .count => do cluster spec cs (← occur o s none)
      | .single | .list =>
        match cs with
        | [] => .ok (s, some o)
        | _ =>
          let rest := match cs with
            | '=' :: r => r
            | r => r
          do pure (← occur o s (some (String.ofList rest)), none)

/-- Splits the text after `--` at its first `=`: the name, and the value if there is one. -/
def splitLong (body : String) : String × Option String :=
  match body.splitOn "=" with
  | name :: v :: vs => (name, some ("=".intercalate (v :: vs)))
  | _ => (body, none)

/-- Reads arguments against a command's options. `waiting` is the option waiting for its
value; `trailing` holds after `--`. -/
def scan (spec : Spec) : List String → Scan → Option Opt → Bool → Except Halt Scan
  | [], s, waiting, _ =>
    match waiting with
    | some o => .error (missingValue o)
    | none => .ok s
  | arg :: rest, s, waiting, trailing =>
    if trailing then do scan spec rest (← positional spec s arg) none true
    else if spec.commands.any (·.1 == arg) then
      if arg == "help" then .error (.helpCommand rest)
      else match waiting with
        | some o => .error (missingValue o)
        | none => .error (.command s arg rest)
    else if arg == "--" then
      match waiting with
      | some o => .error (missingValue o)
      | none => scan spec rest s none true
    else if arg.startsWith "--" then
      match waiting with
      | some o => .error (missingValue o)
      | none =>
        let (name, inline) := splitLong (arg.drop 2).copy
        match spec.findLong name with
        | none => .error (.usage ("unexpected argument '--" ++ name ++ "' found"))
        | some o =>
          match o.arity, inline with
          | .help, _ => .error (.help true)
          | .version, _ => .error .version
          | .flag, some v | .count, some v =>
            .error (.usage ("unexpected value '" ++ v ++ "' for '" ++ o.spec ++ "' found"))
          | .flag, none | .count, none => do scan spec rest (← occur o s none) none false
          | _, some v => do scan spec rest (← occur o s (some v)) none false
          | _, none => scan spec rest s (some o) false
    else if arg.startsWith "-" && arg != "-" then
      match waiting with
      | some o => .error (missingValue o)
      | none => do
        let (s, waiting) ← cluster spec (arg.drop 1).copy.toList s
        scan spec rest s waiting false
    else
      match waiting with
      | some o => do scan spec rest (← occur o s (some arg)) none false
      | none => do scan spec rest (← positional spec s arg) none false

end Thesaurus.Cli
