/-!
Language tags (BCP 47). `Language.check` accepts a well-formed tag: a grandfathered tag, a
private-use tag — `x-` followed by subtags of one to eight letters and digits — or a primary
language subtag followed by extended language, script, region, variant, extension and
private-use subtags in that order. Case does not matter and the tag is not changed.
-/

namespace Thesaurus.Rdf

namespace Language

/-- The grandfathered tags made of letters and hyphens only. -/
def grandfathered : List String :=
  ["art-lojban", "cel-gaulish", "en-gb-oed", "i-ami", "i-bnn", "i-default", "i-enochian",
    "i-hak", "i-klingon", "i-lux", "i-mingo", "i-navajo", "i-pwn", "i-tao", "i-tay", "i-tsu",
    "no-bok", "no-nyn", "sgn-be-fr", "sgn-be-nl", "sgn-ch-de", "zh-guoyu", "zh-hakka",
    "zh-min", "zh-min-nan", "zh-xiang"]

/-- The faults a tag can have. -/
def emptyExtension : String := "If an extension subtag is present, it must not be empty"
/-- A private-use part with nothing after the `x`. -/
def emptyPrivateUse : String := "If the `x` subtag is present, it must not be empty"
/-- A character other than an ASCII letter, digit or hyphen. -/
def forbiddenChar : String := "The langtag contains a char not allowed"
/-- A subtag that fits no place. -/
def invalidSubtag : String := "A subtag fails to parse, it does not match any other subtags"
/-- A primary language subtag that is too short or not made of letters. -/
def invalidLanguage : String := "The given language subtag is invalid"
/-- A subtag longer than eight characters. -/
def subtagTooLong : String := "A subtag may be eight characters in length at maximum"
/-- Two hyphens in a row, or a hyphen at an end. -/
def emptySubtag : String := "A subtag should not be empty"
/-- More than three extended language subtags. -/
def tooManyExtlangs : String := "At maximum three extlangs are allowed"

/-- Where the reading of a tag stands, after each subtag. -/
inductive Stage where
  | start
  | afterLanguage
  | afterExtlang
  | afterScript
  | afterRegion
  | inExtension (expected : Bool)
  | inPrivateUse (expected : Bool)
deriving DecidableEq, Repr

/-- Whether every character is an ASCII letter. -/
def alphabetic (s : String) : Bool := s.toList.all Char.isAlpha

/-- Whether every character is an ASCII digit. -/
def numeric (s : String) : Bool := s.toList.all Char.isDigit

/-- Whether every character is an ASCII letter or digit. -/
def alphanumeric (s : String) : Bool := s.toList.all Char.isAlphanum

/-- The stage after one more subtag, or the fault. -/
def next (stage : Stage) (extlangs : Nat) (sub : String) : Except String (Stage × Nat) :=
  let n := sub.length
  let first := sub.toList.headD ' '
  if sub.isEmpty then .error emptySubtag
  else if n > 8 then .error subtagTooLong
  else match stage with
    | .start =>
      if n < 2 || !alphabetic sub then .error invalidLanguage
      else .ok (if n < 4 then .afterLanguage else .afterExtlang, extlangs)
    | .inPrivateUse _ =>
      if alphanumeric sub then .ok (.inPrivateUse false, extlangs) else .error invalidSubtag
    | _ =>
      if sub == "x" || sub == "X" then
        if stage == .inExtension true then .error emptyExtension else .ok (.inPrivateUse true, extlangs)
      else if n == 1 && alphanumeric sub then
        if stage == .inExtension true then .error emptyExtension else .ok (.inExtension true, extlangs)
      else match stage with
        | .inExtension _ =>
          if alphanumeric sub then .ok (.inExtension false, extlangs) else .error invalidSubtag
        | _ =>
          let early := stage == .afterLanguage || stage == .afterExtlang
          if stage == .afterLanguage && n == 3 && alphabetic sub then
            if extlangs + 1 > 3 then .error tooManyExtlangs else .ok (.afterLanguage, extlangs + 1)
          else if early && n == 4 && alphabetic sub then .ok (.afterScript, extlangs)
          else if (early || stage == .afterScript) &&
              ((n == 2 && alphabetic sub) || (n == 3 && numeric sub)) then .ok (.afterRegion, extlangs)
          else if (early || stage == .afterScript || stage == .afterRegion) && alphanumeric sub &&
              ((n ≥ 5 && first.isAlpha) || (n ≥ 4 && first.isDigit)) then .ok (.afterRegion, extlangs)
          else .error invalidSubtag

/-- Reads the subtags of a tag in order. -/
def walk : List String → Stage → Nat → Except String Stage
  | [], stage, _ => .ok stage
  | sub :: rest, stage, extlangs => do
    let (stage', extlangs') ← next stage extlangs sub
    walk rest stage' extlangs'

/-- Checks a language tag, returning it unchanged when it is well formed. -/
def check (tag : String) : Except String String :=
  let lower := String.ofList (tag.toList.map Char.toLower)
  if grandfathered.contains lower then .ok tag
  else if lower.startsWith "x-" then
    if !tag.toList.all (fun c => c.isAlphanum || c == '-') then .error forbiddenChar
    else if tag.length == 2 then .error emptyPrivateUse
    else
      match (tag.splitOn "-").drop 1 |>.find? (fun sub => sub.isEmpty || sub.length > 8) with
      | some sub => .error (if sub.isEmpty then emptySubtag else subtagTooLong)
      | none => .ok tag
  else do
    let stage ← walk (tag.splitOn "-") .start 0
    if stage == .inExtension true then .error emptyExtension
    else if stage == .inPrivateUse true then .error emptyPrivateUse
    else pure tag

end Language

end Thesaurus.Rdf
