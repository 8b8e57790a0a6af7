import Thesaurus.Store.Basic

/-!
Building a store with the steps that can fail. Concepts get 32-bit ids: they are numbered in
turn, each by the number of concepts before it, and numbering fails at a concept whose number
is no 32-bit id. The label index is also written out as a finite state transducer map from the
UTF-8 bytes of each normal label, in increasing order, to the label's number in that order, by
the transducer library's map builder; inserting a key, finishing the map and opening its bytes
may each fail with the library's message. The library is a parameter (`MapBuilder`). A store is
built from a loaded graph, and a failed load is the build's failure.
-/

namespace Thesaurus

/-- The map builder of the finite state transducer library, as the store uses it: a new builder
in memory, adding a key by its bytes with a value, the bytes of the finished map, opening such
bytes, and the value of a key and the number of keys of an opened map. -/
structure MapBuilder (β μ : Type) where
  memory : β
  insert : β → List UInt8 → Nat → Except String β
  intoInner : β → Except String (List UInt8)
  openMap : List UInt8 → Except String μ
  get : μ → List UInt8 → Option Nat
  len : μ → Nat

namespace Store

/-- The number of 32-bit concept ids. -/
def idCount : Nat := Nat.pow 2 32

/-- Numbers the concepts in turn, each by the number of concepts before it; fails at the first
whose number is no 32-bit id. -/
def numberConcepts (uris : List String) : Except Error Unit :=
  uris.zipIdx.forM fun p =>
    if p.2 < idCount then .ok () else .error (.store "too many concepts for one store")

/-- Writes the label index as a map from the UTF-8 bytes of each label, in increasing order, to
the label's number in that order. -/
def labelMap {β μ : Type} (B : MapBuilder β μ) (index : Std.TreeMap String Posting compare) :
    Except Error μ := do
  let builder ← (labelEntries index).foldlM (fun b p =>
    (B.insert b p.1 p.2).mapError fun e => .store ("FST build error: " ++ e))
    B.memory
  let bytes ← (B.intoInner builder).mapError fun e => .store ("FST finalize error: " ++ e)
  (B.openMap bytes).mapError fun e => .store ("FST creation error: " ++ e)

/-- Builds the store of a graph with the steps that can fail: numbering the concepts, then
writing the label map of the store, which the store then reads its labels through. -/
def fromGraph {β μ : Type} (B : MapBuilder β μ) (g : Graph) (f : LanguageFilter) :
    Except Error Store := do
  numberConcepts g.concepts
  let s := ofGraph g f
  let m ← labelMap B s.index
  pure { s with labels := ⟨B.get m, B.len m⟩ }

/-- Builds the store of a loaded graph; a failed load fails the build with its error. -/
def build {β μ : Type} (B : MapBuilder β μ) (load : Except Error Graph) (f : LanguageFilter) :
    Except Error Store := do
  fromGraph B (← load) f

end Store

end Thesaurus
