import Thesaurus.Cli.Options

/-!
Help texts. A command's help gives what it does, how it is used, then its commands, its plain
value and its options, one per line, their explanations aligned in a column two blanks after
the widest. A command with an option whose values are explained one by one also has a long
help, asked for with `--help`: each option's explanation stands on the lines below it,
indented by ten blanks, followed by its default and its explained values.
-/

namespace Thesaurus.Cli

/-- A run of blanks. -/
def blanks (n : Nat) : String := String.ofList (List.replicate n ' ')

/-- The indentation of explanations in the long help. -/
def deep : String := blanks 10

/-- The values of an option that are explained one by one. -/
def Opt.explained (o : Opt) : List (String × String) :=
  match o.accepts with
  | .choice values => if o.takesValue then values else []
  | _ => []

namespace Spec

/-- Whether the command has a long help. -/
def hasLongHelp (s : Spec) : Bool :=
  s.options.any fun o => !o.explained.isEmpty

/-- What an option is for; the help option points to the other form when there are two. -/
def explain (s : Spec) (o : Opt) (long : Bool) : String :=
  if o.arity == .help && s.hasLongHelp then
    if long then "Print help (see a summary with '-h')" else "Print help (see more with '--help')"
  else o.help

end Spec

/-- The start of an option's line: its short name, or room for one, and its long form. -/
def Opt.head (o : Opt) : String :=
  "  " ++ (match o.short with
    | some c => "-" ++ c.toString ++ ", "
    | none => "    ") ++ o.spec

/-- The default of an option, as help texts show it. -/
def Opt.defaultNote (o : Opt) : List String :=
  (o.default.map fun d => "[default: " ++ d ++ "]").toList

/-- The line of an option in the short help, its explanation starting two blanks after the
widest option (`widest` counts the short name's room). -/
def Spec.shortLine (s : Spec) (widest : Nat) (o : Opt) : String :=
  let values := match o.accepts with
    | .choice vs => if o.takesValue then ["[possible values: " ++ ", ".intercalate (vs.map (·.1)) ++ "]"] else []
    | _ => []
  let text := s.explain o false
  let words := (if text.isEmpty then [] else [text]) ++ o.defaultNote ++ values
  o.head ++ blanks (widest + 2 - (o.spec.length + 4)) ++ " ".intercalate words

/-- The entry of an option in the long help. -/
def Spec.longEntry (s : Spec) (o : Opt) : String :=
  let body := s.explain o true ++
    (if o.defaultNote.isEmpty then "" else "\n\n" ++ "\n".intercalate o.defaultNote)
  let body := body.replace "\n" ("\n" ++ deep)
  let width := o.explained.foldl (fun w (n, _) => max w n.length) 0
  let values :=
    if o.explained.isEmpty then ""
    else "\n\n" ++ deep ++ "Possible values:" ++
      String.join (o.explained.map fun (n, h) => "\n" ++ deep ++ "- " ++ n ++ ": " ++ blanks (width - n.length) ++ h)
  o.head ++ "\n" ++ deep ++ body ++ values

/-- The help of a command, in its long form when `long` holds and the command has one. -/
def Spec.helpText (s : Spec) (long : Bool) : String :=
  let long := long && s.hasLongHelp
  let widest := s.commands.foldl (fun w (n, _) => max w n.length) 2
  let commands := s.commands.map fun (n, a) => "  " ++ n ++ blanks (widest + 2 - n.length) ++ a
  let widestOption := s.options.foldl (fun w o => max w (o.spec.length + 4)) 2
  let options :=
    if long then "\n\n".intercalate (s.options.map s.longEntry)
    else "\n".intercalate (s.options.map (s.shortLine widestOption))
  let sections :=
    (if commands.isEmpty then [] else ["Commands:\n" ++ "\n".intercalate commands]) ++
    (match s.positional with
      | some (shown, help) => ["Arguments:\n  " ++ shown ++ "  " ++ help]
      | none => []) ++
    (if s.options.isEmpty then [] else ["Options:\n" ++ options])
  s.about ++ "\n\nUsage: " ++ s.usage ++ "\n\n" ++ "\n\n".intercalate sections ++ "\n"

end Thesaurus.Cli
