/-!
Code point tables. A table is an array of closed ranges of code points in increasing order,
pairwise disjoint; a code point is looked up by halving the array, which finds the one range
that can hold it.
-/

namespace Thesaurus.Unicode

/-- A closed range `lo ≤ c ≤ hi` of code points. -/
structure Span where
  lo : Nat
  hi : Nat
deriving DecidableEq, Repr, Inhabited

/-- Whether the range holds the code point `c`. -/
def Span.holds (s : Span) (c : Nat) : Bool :=
  s.lo ≤ c && c ≤ s.hi

/-- The least index in `[lo, hi)` whose entry ends at or above `c`, or `hi` if there is none;
on a table in increasing order it is the only entry that can hold `c`. -/
def Span.seek {α : Type} (t : Array α) (span : α → Span) (c : Nat) (lo hi : Nat) : Nat :=
  if h : lo < hi then
    let mid := (lo + hi) / 2
    match t[mid]? with
    | some e => if (span e).hi < c then seek t span c (mid + 1) hi else seek t span c lo mid
    | none => lo
  else lo
termination_by hi - lo

/-- The entry of the table whose range holds `c`, if any. -/
def Span.find? {α : Type} (t : Array α) (span : α → Span) (c : Nat) : Option α :=
  match t[Span.seek t span c 0 t.size]? with
  | some e => if (span e).holds c then some e else none
  | none => none

/-- Whether some range of the table holds `c`. -/
def Span.within (t : Array Span) (c : Nat) : Bool :=
  (Span.find? t id c).isSome

/-- The value of the range that holds `c`, or `dflt` when no range does. -/
def Span.classify {α : Type} (t : Array (Span × α)) (dflt : α) (c : Nat) : α :=
  match Span.find? t Prod.fst c with
  | some e => e.2
  | none => dflt

end Thesaurus.Unicode
