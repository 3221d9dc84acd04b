import ExposureLint.Text.Basic

/-!
Regular patterns over code points. `Pattern.accepts` decides whether a pattern matches a text as a
whole, by taking the derivative of the pattern at each code point in turn.
-/
namespace ExposureLint

inductive Pattern
  | never
  | nothing
  | one (among : CodePoint → Bool)
  | seq (p q : Pattern)
  | alt (p q : Pattern)
  | many (p : Pattern)

namespace Pattern

def nullable : Pattern → Bool
  | .never => false
  | .nothing => true
  | .one _ => false
  | .seq p q => p.nullable && q.nullable
  | .alt p q => p.nullable || q.nullable
  | .many _ => true

/-- One pattern after another, where what can never match is not carried along. -/
def seq' : Pattern → Pattern → Pattern
  | .never, _ => .never
  | .nothing, q => q
  | p, q => .seq p q

def alt' : Pattern → Pattern → Pattern
  | .never, q => q
  | p, .never => p
  | p, q => .alt p q

/-- The pattern of what may follow `c`. -/
def after (c : CodePoint) : Pattern → Pattern
  | .never => .never
  | .nothing => .never
  | .one among => if among c then .nothing else .never
  | .seq p q =>
    if p.nullable then alt' (seq' (p.after c) q) (q.after c) else seq' (p.after c) q
  | .alt p q => alt' (p.after c) (q.after c)
  | .many p => seq' (p.after c) (.many p)

def accepts : Pattern → Text → Bool
  | p, [] => p.nullable
  | p, c :: rest => accepts (p.after c) rest

/-- The text as a whole matches, perhaps but for a line feed at its end. -/
def acceptsLine (p : Pattern) (t : Text) : Bool :=
  p.accepts t || (t.getLast? == some (CodePoint.ofChar '\n') && p.accepts t.dropLast)

def among (set : String) : Pattern := .one (·.isIn set)

def digit : Pattern := .one CodePoint.isAsciiDigit

def word (w : String) : Pattern :=
  w.toList.foldr (fun c rest => .seq (.one (· == CodePoint.ofChar c)) rest) .nothing

def sequence (parts : List Pattern) : Pattern := parts.foldr .seq .nothing
def choice (parts : List Pattern) : Pattern := parts.foldr .alt .never
def words (ws : List String) : Pattern := choice (ws.map word)
def optional (p : Pattern) : Pattern := .alt p .nothing
def atLeastOne (p : Pattern) : Pattern := .seq p (.many p)

end Pattern
end ExposureLint
