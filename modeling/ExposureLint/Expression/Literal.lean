import ExposureLint.Expression.Grammar
import ExposureLint.Number.Binary64
import ExposureLint.Text.Utf8

/-!
Texts that are literals. An expression is read once, and where that fails once more for diagnosis.
It is a literal if it is made of constants, tuples, sets and mappings only, with signs in front of
numbers, and sums of a real and an imaginary one. Sets and mappings can neither be members of sets
nor keys.
-/
namespace ExposureLint.Expression

/-- The cause that is told of an expression that is wrong where `seen` tokens have been looked at.
An urgent cause further on is told in its place, and so is a bracket that is open since an earlier
line. -/
def toldCause (tokens : Array Token) (stop : Option Stop) (seen : Nat) (cause : Cause) : Cause :=
  match stop with
  | none => cause
  | some s =>
    let line := (tokens[seen - 1]?.map (·.line)).getD 0
    if s.cause.isUrgent then s.cause
    else match s.bracket with
      | some (bracket, opened) => if opened < line then .unclosed bracket else cause
      | none => cause

/-- Whether the end of the text has been looked at by way of its last token. -/
def endIsSeen (tokens : Array Token) (stop : Option Stop) (seen : Nat) : Bool :=
  seen == tokens.size && stop.any (·.isSeen)

/-- Whether an expression is wrong because a line is indented: nothing behind that has been looked
at. -/
def isIndented (tokens : Array Token) (seen : Nat) : Bool :=
  tokens[seen - 1]?.any fun t => t.lexeme == .indent || t.lexeme == .dedent

def ofScanned (surrounding : Surrounding) (start : (Rule → Reader Tree) → Reader Tree)
    (scanned : Scanned) : Except Cause Tree :=
  let tokens := scanned.tokens.toArray
  let told (seen : Nat) (cause : Cause) : Except Cause Tree :=
    .error (toldCause tokens scanned.stop seen cause)
  let complaint (seen : Nat) (cause : Cause) : Except Cause Tree :=
    if endIsSeen tokens scanned.stop seen then .error cause else told seen cause
  let stopped : Except Cause Tree :=
    .error ((scanned.stop.map (·.cause)).getD .malformed)
  let rule := Grammar.read (64 * (tokens.size + 2))
  let begin := Progress.start tokens.size
  match start rule ⟨tokens, surrounding, false⟩ begin with
  | (.found e, _) => .ok e
  | (.fault cause, p) => complaint p.seen cause
  | (.stopped, _) => stopped
  | (.absent, p) | (.refused, p) =>
    match start rule ⟨tokens, surrounding, true⟩ { begin with seen := p.seen } with
    | (.fault cause, p) => complaint p.seen cause
    | (.stopped, _) => stopped
    | (.found _, q) | (.absent, q) | (.refused, q) =>
      if isIndented tokens p.seen then .error .indented else told q.seen .malformed

/-- Checks the expression in a field, which is read as if it stood in brackets. Fields are inside
each other no deeper than `fuel`. -/
def checkFieldAt (isName : Text → Bool) : Nat → Nat → Text → Except Cause Unit
  | 0, _, _ => .ok ()
  | fuel + 1, line, written =>
    let scanned := scan line ("(" ++ written ++ ")\n")
    match ofScanned ⟨isName, checkFieldAt isName fuel⟩ Grammar.starExpressions scanned with
    | .ok _ => .ok ()
    | .error cause => .error cause.inField

def Tree.ofText (isName : Text → Bool) (t : Text) : Except Cause Tree :=
  let t := Text.normalizeLineEnds t
  ofScanned ⟨isName, checkFieldAt isName t.length⟩ Grammar.whole (scan 1 t)

/-- Why a text has no value: it cannot be taken for source, or it is no expression, or its
expression is none that is a literal. -/
inductive Fault
  | unwritable (fault : Utf8.Unwritable)
  | null
  | unreadable (cause : Cause)
  | notLiteral
  | unpacked
  | unhashable (kind : Text)
  | tooLarge
deriving DecidableEq

def Fault.message : Fault → Text
  | .unwritable fault => fault.message
  | .null => "source code string cannot contain null bytes"
  | .unreadable cause => cause.message
  | .notLiteral => "malformed node or string on line 1"
  | .unpacked => "malformed node or string: None"
  | .unhashable kind => "unhashable type: '" ++ kind ++ "'"
  | .tooLarge => "int too large to convert to float"

/-- The value of a literal, as far as it decides what can be a member or a key. -/
inductive Literal
  | constant
  | tuple (items : List Literal)
  | set
  | map

mutual

def Literal.unhashable? : Literal → Option Text
  | .constant => none
  | .tuple items => unhashableAmong? items
  | .set => some "set"
  | .map => some "dict"

def unhashableAmong? : List Literal → Option Text
  | [] => none
  | x :: rest => x.unhashable?.or (unhashableAmong? rest)

end

def Literal.checkMember (x : Literal) : Except Fault Unit :=
  match x.unhashable? with
  | some kind => .error (.unhashable kind)
  | none => .ok ()

def Tree.number? : Tree → Option Number
  | .constant (.number n) => some n
  | _ => none

def Tree.signedNumber? : Tree → Option Number
  | .unary .other _ => none
  | .unary _ operand => operand.number?
  | e => e.number?

/-- An integer is too large for a sum with an imaginary number if it is nearest to infinity. -/
def Number.isTooLarge : Number → Bool
  | .int n => match Binary64.ofInt n with
    | .infinite _ => true
    | _ => false
  | _ => false

def sumValue (sign : Sign) (left right : Tree) : Except Fault Literal :=
  match left.signedNumber?, right.number? with
  | some .imaginary, _ => .error .notLiteral
  | some n, some .imaginary =>
    if sign == .other then .error .notLiteral
    else if n.isTooLarge then .error .tooLarge
    else .ok .constant
  | _, _ => .error .notLiteral

/-- The word for a set without members, which is written as a call. -/
def isEmptySet (callee : Tree) (a : Arguments) : Bool :=
  match callee with
  | .name n => n == Text.ofString "set" && a.isEmpty
  | _ => false

mutual

/-- The value of an expression. Parts are taken in order, and each member of a set and each entry is
checked before the next one is taken. -/
def Tree.value : Tree → Except Fault Literal
  | .nothing => .error .unpacked
  | .constant _ => .ok .constant
  | .tuple items => Literal.tuple <$> values items
  | .set items => do
    checkMembers items
    return .set
  | .map entries => do
    checkEntries entries
    return .map
  | .unary sign operand =>
    if (Tree.unary sign operand).signedNumber?.isSome then .ok .constant else .error .notLiteral
  | .binary sign left right => sumValue sign left right
  | .call callee a => if isEmptySet callee a then .ok .set else .error .notLiteral
  | .name _ | .comparison _ _ | .starred _ | .other _ => .error .notLiteral

def values : List Tree → Except Fault (List Literal)
  | [] => .ok []
  | e :: rest => do
    let x ← e.value
    return x :: (← values rest)

def checkMembers : List Tree → Except Fault Unit
  | [] => .ok ()
  | e :: rest => do
    let x ← e.value
    x.checkMember
    checkMembers rest

def checkEntries : List (Tree × Tree) → Except Fault Unit
  | [] => .ok ()
  | (key, e) :: rest => do
    let k ← key.value
    let _ ← e.value
    k.checkMember
    checkEntries rest

end

def Literal.ofText (isName : Text → Bool) (t : Text) : Except Fault Literal := do
  match Utf8.unwritable? t with
  | some fault => throw (.unwritable fault)
  | none => pure ()
  if t.contains CodePoint.nul then throw .null
  let e ← (Tree.ofText isName t).mapError .unreadable
  e.value

end ExposureLint.Expression
