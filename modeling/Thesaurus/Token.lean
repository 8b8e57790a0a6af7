import Thesaurus.Kind
import Thesaurus.Number.Binary

/-!
Tokens: a text with its position in the stream, its byte offsets in the source text, a boost,
optional metadata (a token type and the expansion kind that produced it), and the position
increment and length that place it in a token graph. An expansion token stands at its
trigger's position (increment 0) and spans the matched window.
-/

namespace Thesaurus

/-- The type of a token. -/
inductive TokenType where
  | alphanum
  | num
  | cjk
  | punctuation
  | expansion
  | url
  | other
deriving DecidableEq, Repr, Inhabited

/-- The name of a token type. -/
def TokenType.name : TokenType → String
  | .alphanum => "Alphanum"
  | .num => "Num"
  | .cjk => "Cjk"
  | .punctuation => "Punctuation"
  | .expansion => "Expansion"
  | .url => "Url"
  | .other => "Other"

/-- Every token type, in order. -/
def TokenType.all : List TokenType := [.alphanum, .num, .cjk, .punctuation, .expansion, .url, .other]

/-- What a token may say about itself. -/
structure Metadata where
  tokenType : Option TokenType
  expansionKind : Option ExpansionKind
deriving DecidableEq, Repr, Inhabited

/-- The boost of a token, a single-precision number. -/
abbrev Boost := Number.Binary

/-- The boost of one. -/
def Boost.one : Boost := .finite false 1 0

/-- A token. -/
structure Token where
  text : String
  position : Nat
  startOffset : Nat
  endOffset : Nat
  boost : Boost
  metadata : Option Metadata
  positionIncrement : Nat
  positionLength : Nat
deriving DecidableEq, Repr, Inhabited

namespace Token

/-- A token with offsets, a boost of one, no metadata, increment and length one. -/
def withOffsets (text : String) (position start stop : Nat) : Token :=
  ⟨text, position, start, stop, Boost.one, none, 1, 1⟩

/-- A token at a position, with offsets zero. -/
def new (text : String) (position : Nat) : Token :=
  withOffsets text position 0 0

/-- The token with a type, keeping any expansion kind. -/
def withType (t : Token) (ty : TokenType) : Token :=
  { t with metadata := some ⟨some ty, t.metadata.bind (·.expansionKind)⟩ }

/-- The token's type, if any. -/
def tokenType (t : Token) : Option TokenType :=
  t.metadata.bind (·.tokenType)

/-- The expansion kind that produced the token, if any. -/
def expansionKind (t : Token) : Option ExpansionKind :=
  t.metadata.bind (·.expansionKind)

/-- Whether the token is an expansion. -/
def isExpansion (t : Token) : Bool :=
  t.expansionKind.isSome

/-- The length of the text in UTF-8 bytes. -/
def size (t : Token) : Nat := t.text.utf8ByteSize

/-- The token with another text. -/
def withText (t : Token) (text : String) : Token :=
  { t with text := text }

/-- The expansion of a token: another text of a kind, at the token's position, offsets and
boost, with increment 0 and spanning `window` positions (at least one). -/
def expansion (t : Token) (text : String) (kind : ExpansionKind) (window : Nat) : Token :=
  ⟨text, t.position, t.startOffset, t.endOffset, t.boost,
    some ⟨some .expansion, some kind⟩, 0, max window 1⟩

end Token

end Thesaurus
