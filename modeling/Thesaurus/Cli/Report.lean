import Thesaurus.Cli.Args
import Thesaurus.Json.Value
import Thesaurus.Token
import Thesaurus.Store.Concept
import Thesaurus.Settings.Basic

/-!
What the commands print. Each result has a text for people — a titled listing with its
columns padded to fixed widths — and a JSON object whose members follow the result's fields.
-/

namespace Thesaurus.Cli

/-- A text followed by blanks up to a width in characters. -/
def padRight (s : String) (width : Nat) : String := s ++ blanks (width - s.length)

/-- A text preceded by blanks up to a width in characters. -/
def padLeft (s : String) (width : Nat) : String := blanks (width - s.length) ++ s

/-- A title and the double rule under it, as wide as the title. -/
def titled (title : String) : String :=
  title ++ "\n" ++ String.ofList (List.replicate title.length '═') ++ "\n"

/-- The counts of a vocabulary. -/
structure Stats where
  vocabulary : String
  concepts : Nat
  distinctLabels : Nat
  prefLabels : Nat
  altLabels : Nat
  hiddenLabels : Nat
  relations : Nat
  maxLabelTokens : Nat
  buildMs : Nat
deriving Repr, Inhabited

/-- The result of a command. -/
inductive Report where
  | expansion (text : String) (mode : Mode) (tokens : List Token)
  | lookup (label normalized : String) (kinds : List LabelKind) (concepts : List String)
  | concept (uri : String) (record : Option Concept)
  | stats (s : Stats)
deriving Inhabited

namespace Report

/-- The line said before the text for people when the run reports progress. -/
def title : Report → String
  | .expansion .. => "Expansion complete"
  | .lookup .. => "Lookup complete"
  | .concept .. => "Concept lookup complete"
  | .stats _ => "Statistics collected"

/-- The text of a boost in JSON: the shortest decimal that reads back as the single-precision
number, `null` for an infinity. -/
def boostJson (b : Boost) : Json :=
  match b with
  | .finite .. => .decimal ((b.shortest .single).render ⟨13, -6, false⟩ b.isNeg)
  | .infinite _ => .null

/-- A token as a JSON object. -/
def tokenJson (t : Token) : Json :=
  .obj [("text", .str t.text), ("position", .nat t.position), ("start_offset", .nat t.startOffset),
    ("end_offset", .nat t.endOffset), ("boost", boostJson t.boost),
    ("metadata", Json.opt (fun (m : Metadata) =>
      .obj [("token_type", Json.opt (fun (k : TokenType) => .str k.name) m.tokenType),
        ("expansion_kind", Json.opt (fun (k : ExpansionKind) => .str k.name) m.expansionKind)]) t.metadata),
    ("position_increment", .nat t.positionIncrement), ("position_length", .nat t.positionLength)]

/-- The result as a JSON object. -/
def toJson : Report → Json
  | .expansion text mode tokens =>
    .obj [("text", .str text), ("mode", .str mode.name), ("tokens", .arr (tokens.map tokenJson)),
      ("expansions", .nat (tokens.filter Token.isExpansion).length)]
  | .lookup label normalized kinds concepts =>
    .obj [("label", .str label), ("normalized", .str normalized),
      ("label_kinds", Json.strs (kinds.map LabelKind.name)), ("concepts", Json.strs concepts)]
  | .concept uri record => .obj [("uri", .str uri), ("concept", Json.opt Concept.toJson record)]
  | .stats s =>
    .obj [("vocabulary", .str s.vocabulary), ("concepts", .nat s.concepts),
      ("distinct_labels", .nat s.distinctLabels), ("pref_labels", .nat s.prefLabels),
      ("alt_labels", .nat s.altLabels), ("hidden_labels", .nat s.hiddenLabels),
      ("relations", .nat s.relations), ("max_label_tokens", .nat s.maxLabelTokens),
      ("build_ms", .nat s.buildMs)]

/-- The line of a token: its position, its text, its offsets, and for an expansion the
positions it spans and its kind. -/
def tokenLine (t : Token) : String :=
  "  " ++ padLeft (toString t.position) 4 ++ "  " ++ padRight t.text 24 ++ " [" ++
    toString t.startOffset ++ ".." ++ toString t.endOffset ++ "]" ++
    (match t.expansionKind with
      | some k => " +" ++ toString t.positionLength ++ " (" ++ k.name ++ ")"
      | none => "") ++ "\n"

/-- A line of a concept's record: a field name in a column of twenty, and its values. -/
def recordLine (field : String) (values : List String) : String :=
  if values.isEmpty then "" else padRight field 20 ++ " " ++ ", ".intercalate values ++ "\n"

/-- The result as text for people. -/
def human : Report → String
  | .expansion _ _ tokens =>
    titled "Expanded Tokens:" ++ String.join (tokens.map tokenLine) ++ "\n" ++
      toString tokens.length ++ " tokens, " ++ toString (tokens.filter Token.isExpansion).length ++
      " expansions\n"
  | .lookup _ normalized _ concepts =>
    if concepts.isEmpty then "No concept labelled \"" ++ normalized ++ "\"\n"
    else String.join (concepts.map (· ++ "\n"))
  | .concept uri none => "Concept not found: " ++ uri ++ "\n"
  | .concept _ (some c) =>
    "Concept: " ++ c.uri ++ "\n" ++ "═════════\n" ++
      String.join (LabelKind.all.map fun k => recordLine (k.name ++ "Label:") (c.labels k)) ++
      String.join (RelationKind.all.map fun r => recordLine (r.name ++ ":") (c.relatedBy r))
  | .stats s =>
    titled "Vocabulary Statistics:" ++
      "Vocabulary: " ++ s.vocabulary ++ "\n" ++
      "Concepts: " ++ toString s.concepts ++ "\n" ++
      "Distinct labels: " ++ toString s.distinctLabels ++ "\n" ++
      "Labels: " ++ toString s.prefLabels ++ " pref, " ++ toString s.altLabels ++ " alt, " ++
        toString s.hiddenLabels ++ " hidden\n" ++
      "Relations: " ++ toString s.relations ++ "\n" ++
      "Longest label: " ++ toString s.maxLabelTokens ++ " words\n" ++
      "Build time: " ++ toString s.buildMs ++ "ms\n"

end Report

end Thesaurus.Cli
