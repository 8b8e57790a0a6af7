import Thesaurus.Unicode.WordBreak
import Thesaurus.Unicode.Emoji

/-!
Word segments of a text, by the word boundary rules of Unicode (UAX #29).

A segment is read from the start of the text by a machine over the Word_Break classes of its
characters. Letters run on with letters and digits, digits with digits and letters, katakana
with katakana, and connectors join all of them; a mark between two letters or two numbers
keeps them in one segment; two regional indicators make a flag; spaces run on together; an
emoji after a zero width joiner stays in the segment of what stands before the joiner.
Combining marks, format characters and joiners are carried along with the character before
them (rule WB4), and a run of them at the start of a segment makes a segment of its own with
that first character.

The machine decides while it reads: a mark after a letter or a digit keeps the segment open,
and when the letter or digit the mark needs does not follow, the segment ends before the
mark. `segments` cuts a text into such segments; they concatenate to the text
(`join_segments`).
-/

namespace Thesaurus.Unicode.WordBreak

/-- The classes that rule WB4 carries along with the character before them. -/
def isAttached : WordBreak → Bool
  | .extend | .format | .zwj => true
  | _ => false

end Thesaurus.Unicode.WordBreak

namespace Thesaurus.Text

open Thesaurus.Unicode

/-- What a run of marks read after a letter or a digit waits for. -/
inductive Awaited where
  | nothing
  | quotedLetter
  | letter
  | hebrewLetter
  | digit
deriving DecidableEq, Repr

/-- Whether the segment ends before the mark when what it awaits does not come. -/
def Awaited.required : Awaited → Bool
  | .letter | .hebrewLetter | .digit => true
  | _ => false

/-- What the reading of a segment has seen last, carried characters apart. -/
inductive Reading where
  | start
  | letter
  | hebrewLetter
  | number
  | katakana
  | connector
  | halfFlag
  | flag
  | emoji
  | joiner
  | spaces
  | marks (awaited : Awaited)
deriving DecidableEq, Repr

/-- What one character does to the reading of a segment: the reading goes on, with the length
the segment falls back to, or the segment ends at a length. -/
inductive Reading.Step where
  | go (r : Reading) (saved : Nat)
  | stop (length : Nat)

/-- The step of the reading `r` on a character of class `b` read at `index`, one that is neither
carried along nor an emoji after a joiner; `following` is the character after it. -/
def Reading.step (r : Reading) (b : WordBreak) (following : Option Char) (index saved : Nat)
    (skipped : Bool) : Reading.Step :=
  match r with
  | .start =>
    match b with
    | .cr => .stop (if following == some '\n' then index + 2 else index + 1)
    | .lf | .newline => .stop (index + 1)
    | .aLetter => .go .letter saved
    | .hebrewLetter => .go .hebrewLetter saved
    | .numeric => .go .number saved
    | .katakana => .go .katakana saved
    | .extendNumLet => .go .connector saved
    | .regionalIndicator => .go .halfFlag saved
    | .zwj => .go .joiner saved
    | .wSegSpace => .go .spaces saved
    | _ =>
      match following with
      | some d => if (WordBreak.of d).isAttached then .go (.marks .nothing) saved else .stop (index + 1)
      | none => .stop (index + 1)
  | .spaces => if b == .wSegSpace && !skipped then .go .spaces saved else .stop index
  | .joiner | .flag | .emoji => .stop index
  | .letter | .hebrewLetter =>
    match b with
    | .aLetter => .go .letter saved
    | .hebrewLetter => .go .hebrewLetter saved
    | .numeric => .go .number saved
    | .extendNumLet => .go .connector saved
    | .doubleQuote => if r == .hebrewLetter then .go (.marks .hebrewLetter) index else .stop index
    | .singleQuote =>
      if r == .hebrewLetter then .go (.marks .quotedLetter) saved else .go (.marks .letter) index
    | .midLetter | .midNumLet => .go (.marks .letter) index
    | _ => .stop index
  | .number =>
    match b with
    | .numeric => .go .number saved
    | .aLetter => .go .letter saved
    | .hebrewLetter => .go .hebrewLetter saved
    | .extendNumLet => .go .connector saved
    | .midNum | .midNumLet | .singleQuote => .go (.marks .digit) index
    | _ => .stop index
  | .katakana =>
    match b with
    | .katakana => .go .katakana saved
    | .extendNumLet => .go .connector saved
    | _ => .stop index
  | .connector =>
    match b with
    | .extendNumLet => .go .connector saved
    | .aLetter => .go .letter saved
    | .hebrewLetter => .go .hebrewLetter saved
    | .numeric => .go .number saved
    | .katakana => .go .katakana saved
    | _ => .stop index
  | .halfFlag => if b == .regionalIndicator then .go .flag saved else .stop index
  | .marks a =>
    if a == .digit && b == .numeric then .go .number saved
    else if (a == .letter || a == .quotedLetter) && b == .aLetter then .go .letter saved
    else if (a == .letter || a == .quotedLetter) && b == .hebrewLetter then .go .hebrewLetter saved
    else if a == .hebrewLetter && b == .hebrewLetter then .go .hebrewLetter saved
    else if a.required then .stop saved
    else .stop index

/-- The length of the first segment of a text. `rest` holds the characters not read yet, from
the `index`-th on; `previous` is the class of the character read last, `saved` the length the
segment falls back to when an awaited letter or digit does not come, and `skipped` whether a
carried character has been read. -/
def firstLength : List Char → Nat → Reading → WordBreak → Nat → Bool → Nat
  | [], index, r, _, saved, _ =>
    match r with
    | .marks a => if a.required then saved else index
    | _ => index
  | c :: rest, index, r, previous, saved, skipped =>
    let b := WordBreak.of c
    if r != .start && b.isAttached then firstLength rest (index + 1) r b saved true
    else if previous == .zwj && isEmoji c then firstLength rest (index + 1) .emoji b saved skipped
    else
      match r.step b rest.head? index saved skipped with
      | .go r' saved' => firstLength rest (index + 1) r' b saved' skipped
      | .stop n => n

/-- The length of the first segment of a text, at least one. -/
def segmentLength (cs : List Char) : Nat :=
  max 1 (firstLength cs 0 .start .other 0 false)

/-- The word segments of a text, in order. -/
def segments (cs : List Char) : List (List Char) :=
  match cs with
  | [] => []
  | c :: rest => (c :: rest).take (segmentLength (c :: rest)) :: segments ((c :: rest).drop (segmentLength (c :: rest)))
termination_by cs.length
decreasing_by
  simp only [List.length_drop, List.length_cons]
  have : 1 ≤ segmentLength (c :: rest) := Nat.le_max_left _ _
  omega

/-- The segments of a text concatenate to the text. -/
theorem join_segments (cs : List Char) : (segments cs).flatten = cs := by
  induction cs using segments.induct with
  | case1 => simp [segments]
  | case2 c rest ih =>
    rw [segments, List.flatten_cons, ih, List.take_append_drop]

end Thesaurus.Text
