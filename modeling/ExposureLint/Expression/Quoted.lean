import ExposureLint.Expression.Field

/-!
Quoted parts. A letter in front of the quote makes one bytes, keeps its backslashes as they are, or
lets it hold fields. Quoted parts in a row are one constant, and must all be of the same kind.
-/
namespace ExposureLint.Expression

structure Quoted where
  isBytes : Bool
  isRaw : Bool
  hasFields : Bool
  content : Text

namespace Quoted

/-- Of three quotes, two stand at either end of what is between the outer ones. -/
def ofText (written : Text) : Quoted :=
  let marks := written.takeWhile fun c => !isQuote c
  let quote := (written.drop marks.length).take 1
  let inside := (written.drop (marks.length + 1)).dropLast
  let isLong := 4 ≤ inside.length && inside.take 2 == quote ++ quote
  let has (mark : Char) : Bool := (Text.lowerAscii marks).contains (CodePoint.ofChar mark)
  ⟨has 'b', has 'r', has 'f', if isLong then (inside.drop 2).dropLast.dropLast else inside⟩

def checkContent (s : Surrounding) (q : Quoted) : Except Cause Unit :=
  if q.hasFields then .ok ()
  else if q.isBytes then
    if !q.content.all isAscii then .error .bytesNotAscii
    else if q.isRaw then .ok ()
    else checkByteEscapes 0 q.content
  else if q.isRaw then .ok ()
  else checkEscapes s.isName 0 q.content

def checkAll (s : Surrounding) (isBytes : Bool) : List (Quoted × Nat) → Except Cause Unit
  | [] => .ok ()
  | (q, lastLine) :: rest => do
    q.checkContent s
    if q.isBytes != isBytes then throw .mixedQuoted
    if q.hasFields then checkFields s q.isRaw lastLine q.content
    checkAll s isBytes rest

end Quoted

def Tree.ofQuoted (s : Surrounding) (parts : List (Text × Nat)) : Except Cause Tree := do
  let quoted := parts.map fun (written, line) =>
    (Quoted.ofText written, line + total (written.map lineEnds))
  let isBytes := quoted.head?.any fun q => q.1.isBytes
  Quoted.checkAll s isBytes quoted
  return if quoted.any fun q => q.1.hasFields then .other .formatted
    else .constant (if isBytes then .bytes else .text)

end ExposureLint.Expression
