import Thesaurus.Rdf.Lexer

/-!
What the three line-and-token syntaxes share: the resolution of prefixed names, and the loop
that feeds tokens to a grammar and delivers its triples.

A grammar is a state machine over tokens. Each token may emit triples and report faults.
Faults are delivered before triples, the last reported first, each at the span of the token
being read; triples are delivered last emitted first. Reading stops at the first fault, so
a text is read either into all its triples or into the first fault met. When the text ends
the grammar is asked once more for triples and faults, which sit at the end of the text.
-/

namespace Thesaurus.Rdf

/-- What one token or the end of the text makes a grammar emit and report, newest first. -/
structure Out where
  emitted : List Triple
  errors : List String
deriving Inhabited

namespace Out

/-- Nothing emitted or reported. -/
def empty : Out := ⟨[], []⟩

/-- With one more triple. -/
def emit (o : Out) (t : Triple) : Out := ⟨t :: o.emitted, o.errors⟩

/-- With one more fault. -/
def fail (o : Out) (m : String) : Out := ⟨o.emitted, m :: o.errors⟩

end Out

/-- The IRI a prefixed name stands for. The IRI is checked again when the local part holds
characters that need it, or when the prefix's IRI has an empty path, since the local part
then lands in the authority. -/
def resolveName (prefixes : List (String × String)) (space name : String) (suspect : Bool) :
    Except String Term :=
  match prefixes.lookup space with
  | some start =>
    let iri := start ++ name
    if suspect || (Iri.pathOf start).isEmpty then
      match Iri.parse iri with
      | .ok _ => .ok (.iri iri)
      | .error e =>
        .error ("The prefixed name " ++ space ++ ":" ++ name ++ " builds IRI " ++ iri ++
          " that is invalid: " ++ e.text)
    else .ok (.iri iri)
  | none => .error ("The prefix " ++ space ++ ": has not been declared")

/-- A prefix table with one more entry, replacing any entry of the same name. -/
def declare (prefixes : List (String × String)) (space iri : String) : List (String × String) :=
  (space, iri) :: prefixes.filter (·.1 != space)

/-- Whether a bare word is a keyword, ignoring ASCII case. -/
def isKeyword (w k : String) : Bool := w.map Char.toLower == k

/-- A grammar over tokens, with the state `σ`. -/
structure Grammar (σ : Type) where
  dialect : Dialect
  start : σ
  base : σ → Option String
  feed : Tok → σ → σ × Out
  finish : σ → Out
  refusal : Triple → Option String

namespace Grammar

variable {σ : Type}

/-- Delivers triples emitted by one step, oldest first after the reversal, stopping at the
first that cannot be delivered. -/
def deliver (g : Grammar σ) (acc : List Triple) : List Triple → Except Fault (List Triple)
  | [] => .ok acc
  | t :: ts =>
    match g.refusal t with
    | some m => .error (.plain m)
    | none => deliver g (t :: acc) ts

/-- Reads tokens until the text ends or a fault is met; `acc` holds the triples delivered,
newest first. -/
def loop (g : Grammar σ) : Nat → Lexer → σ → List Triple → Except Fault (List Triple)
  | 0, _, _, acc => .ok acc.reverse
  | fuel + 1, lx, st, acc =>
    match lx.read g.dialect (g.base st) with
    | .fault e => .error (.located e)
    | .done p =>
      let o := g.finish st
      match o.errors with
      | m :: _ => .error (.located ⟨m, p, p⟩)
      | [] => (deliver g acc o.emitted).map List.reverse
    | .next l rest =>
      let (st', o) := g.feed l.tok st
      match o.errors with
      | m :: _ => .error (.located ⟨m.replace "TOKEN" l.source, l.start, l.stop⟩)
      | [] =>
        match deliver g acc o.emitted with
        | .ok acc' => loop g fuel rest st' acc'
        | .error f => .error f

/-- The triples of a text, in the order they are delivered, or the first fault. -/
def run (g : Grammar σ) (text : String) : Except Fault (List Triple) :=
  loop g (text.length + 2) (Lexer.start text) g.start []

end Grammar

end Thesaurus.Rdf
