import Thesaurus.Cli.Help

/-!
The command line of `skos-analysis`. Options that shape the output come before the command;
each command reads a vocabulary file and takes its own options and plain value:

* `expand` expands a text (or, with `--uri`, a concept URI) with thesaurus terms;
* `lookup` finds the concepts carrying a label;
* `concept` shows a concept's record;
* `stats` counts what the vocabulary holds;
* `help` shows the help of the program or of a command.
-/

namespace Thesaurus.Cli

/-- The program's name. -/
def programName : String := "skos-analysis"

/-- The program's version. -/
def version : String := "0.1.0"

/-- How results are written. -/
inductive OutputFormat where
  | human
  | json
deriving DecidableEq, Repr, Inhabited

/-- The options that come before the command. -/
def globalOptions : List Opt :=
  [⟨"verbose", some 'v', .count, "", .text, "Verbosity level (0=quiet, 1=normal, 2=verbose, 3=debug)", [], none⟩,
   Opt.flag "quiet" (some 'q') "Quiet mode (overrides verbose)",
   { Opt.single "format" (some 'f') "OUTPUT_FORMAT"
      (.choice [("human", "Human-readable format"), ("json", "JSON format")]) "Output format" with
     default := some "human" },
   Opt.flag "pretty" none "Pretty-print JSON output",
   ⟨"help", some 'h', .help, "", .text, "Print help", [], none⟩,
   ⟨"version", some 'V', .version, "", .text, "Print version", [], none⟩]

/-- The options of every command that reads a vocabulary. -/
def vocabularyOptions : List Opt :=
  [Opt.single "vocab" none "FILE" .path "Vocabulary file (N-Triples, Turtle, N3 or RDF/XML)",
   Opt.single "rdf-format" none "SYNTAX" .text
     "RDF serialization of the vocabulary; guessed from the extension when omitted",
   Opt.list "languages" none "LANGUAGES" "Retain only labels in these languages (comma-separated)"]

/-- The help option of a command. -/
def helpOption : Opt := ⟨"help", some 'h', .help, "", .text, "Print help", [], none⟩

/-- A command that reads a vocabulary, with its own options and its plain value. -/
def vocabularyCommand (name about : String) (own : List Opt) (positional : Option (String × String)) : Spec :=
  ⟨name, about,
    programName ++ " " ++ name ++ " [OPTIONS] --vocab <FILE>" ++ (positional.map (" " ++ ·.1)).getD "",
    vocabularyOptions ++ own ++ [helpOption], positional, []⟩

/-- The `expand` command. -/
def expandCommand : Spec :=
  vocabularyCommand "expand" "Expand a text with thesaurus terms"
    [Opt.single "config" (some 'c') "CONFIG_FILE" .path "Expansion configuration file (JSON)",
     Opt.list "kinds" (some 'k') "KINDS" "Expansion kinds to emit (comma-separated, e.g. altLabel,broader)",
     Opt.single "window" (some 'w') "WINDOW" .size "Longest token window matched as one label",
     Opt.flag "uri" none "Treat the text as a concept URI"]
    (some ("<TEXT>", "Text to expand"))

/-- The label kinds `lookup` searches when none is given. -/
def defaultLabelKinds : List String := ["pref", "alt", "hidden"]

/-- The `lookup` command. -/
def lookupCommand : Spec :=
  vocabularyCommand "lookup" "Find the concepts carrying a label"
    [{ Opt.list "label-kinds" none "LABEL_KINDS" "Label kinds to search (comma-separated)" with
       aliases := ["kinds"], default := some (",".intercalate defaultLabelKinds) }]
    (some ("<LABEL>", "Label to look up"))

/-- The `concept` command. -/
def conceptCommand : Spec :=
  vocabularyCommand "concept" "Show a concept record" [] (some ("<URI>", "Concept URI"))

/-- The `stats` command. -/
def statsCommand : Spec :=
  vocabularyCommand "stats" "Show vocabulary statistics" [] none

/-- The `help` command. -/
def helpCommand : Spec :=
  ⟨"help", "Print this message or the help of the given subcommand(s)",
    programName ++ " help [COMMAND]...", [], some ("[COMMAND]...", "Print help for the subcommand(s)"), []⟩

/-- The commands, in order. -/
def commands : List Spec := [expandCommand, lookupCommand, conceptCommand, statsCommand, helpCommand]

/-- The program as a whole. -/
def program : Spec :=
  ⟨programName, "Expand text with the labels and relations of a SKOS thesaurus",
    programName ++ " [OPTIONS] <COMMAND>", globalOptions, none,
    commands.map fun c => (c.name, c.about)⟩

/-- The vocabulary a command reads. -/
structure VocabularyArgs where
  vocab : String
  rdfFormat : Option String
  languages : List String
deriving Repr, Inhabited

/-- A command to run. -/
inductive Command where
  | expand (vocabulary : VocabularyArgs) (config : Option String) (kinds : List String)
      (window : Option Nat) (uri : Bool) (text : String)
  | lookup (vocabulary : VocabularyArgs) (labelKinds : List String) (label : String)
  | concept (vocabulary : VocabularyArgs) (uri : String)
  | stats (vocabulary : VocabularyArgs)
deriving Repr, Inhabited

namespace Command

/-- The command's name. -/
def name : Command → String
  | .expand .. => "expand"
  | .lookup .. => "lookup"
  | .concept .. => "concept"
  | .stats .. => "stats"

end Command

/-- A command line that runs a command. -/
structure Invocation where
  verbose : Nat
  quiet : Bool
  format : OutputFormat
  pretty : Bool
  command : Command
deriving Repr, Inhabited

/-- The detail a run reports: 0 when quiet, else one more than the count of `-v`, at least 1,
counted in a byte that wraps after 255. -/
def Invocation.verbosity (i : Invocation) : Nat :=
  if i.quiet then 0 else if i.verbose = 0 then 1 else (i.verbose + 1) % 256

/-- What a command line asks for. -/
inductive Request where
  | run (i : Invocation)
  | help (text : String)
  | version
  | usage (message : String) (usage : String)
deriving Repr, Inhabited

/-- The command of a name. -/
def commandNamed (name : String) : Option Spec :=
  commands.find? (·.name == name)

/-- The help text the help command gives for the names after it. -/
def helpFor (names : List String) : Request :=
  match names with
  | [] => .help (program.helpText true)
  | [name] =>
    match commandNamed name with
    | some c => .help (c.helpText true)
    | none => .usage ("unrecognized subcommand '" ++ name ++ "'") program.usage
  | name :: other :: _ =>
    match commandNamed name with
    | some c => .usage ("unrecognized subcommand '" ++ other ++ "'") c.usage
    | none => .usage ("unrecognized subcommand '" ++ name ++ "'") program.usage

/-- The vocabulary options read for a command, if the file is given. -/
def vocabularyOf (s : Scan) : Option VocabularyArgs :=
  (s.last? "vocab").map fun vocab => ⟨vocab, s.last? "rdf-format", s.all "languages"⟩

/-- The command a command's reading describes, if nothing it needs is missing. -/
def commandOf (name : String) (s : Scan) : Option Command := do
  let v ← vocabularyOf s
  match name with
  | "expand" =>
    pure (.expand v (s.last? "config") (s.all "kinds") ((s.last? "window").bind sizeValue)
      (s.has "uri") (← s.positionals.head?))
  | "lookup" => pure (.lookup v ((s.get? "label-kinds").getD defaultLabelKinds) (← s.positionals.head?))
  | "concept" => pure (.concept v (← s.positionals.head?))
  | "stats" => pure (.stats v)
  | _ => none

/-- Reads a command line, the program's name left out. -/
def parse (args : List String) : Request :=
  match scan program args Scan.empty none false with
  | .ok _ => .usage "a subcommand is required but one was not provided" program.usage
  | .error (.help long) => .help (program.helpText long)
  | .error .version => .version
  | .error (.usage message) => .usage message program.usage
  | .error (.helpCommand names) => helpFor names
  | .error (.command g name rest) =>
    let spec := (commandNamed name).getD helpCommand
    match scan spec rest Scan.empty none false with
    | .error (.help long) => .help (spec.helpText long)
    | .error (.usage message) => .usage message spec.usage
    | .error _ => .usage "unexpected request" spec.usage
    | .ok s =>
      match commandOf name s with
      | none => .usage "the following required arguments were not provided" spec.usage
      | some c =>
        .run ⟨min 255 (g.all "verbose").length, g.has "quiet",
          if g.last? "format" == some "json" then .json else .human, g.has "pretty", c⟩

end Thesaurus.Cli
