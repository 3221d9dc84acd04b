import ExposureLint.Document.Display

/-!
Writing a value as JSON. Pairs are written as lists; bytes, dates and sets as the string of their
text. A container inside itself, and a key that is neither text nor number nor truth value nor null,
cannot be written.
-/
namespace ExposureLint.Json

/-- `indent` is the number of blanks for each level, and without it all stands on one line; `ascii`
says whether what is outside ASCII is escaped. -/
structure Style where
  indent : Option Nat
  ascii : Bool

/-- One line, in ASCII. -/
def Style.compact : Style := ⟨none, true⟩

/-- Two blanks for each level, and every character as it is. -/
def Style.report : Style := ⟨some 2, false⟩

inductive Unwritable
  | circular
  | key (kind : Text)
  | number (fault : Numeral.Fault)
deriving DecidableEq

def Unwritable.message : Unwritable → Text
  | .circular => "Circular reference detected"
  | .key kind => "keys must be str, int, float, bool or None, not " ++ kind
  | .number fault => fault.message

def hexEscaped (n : Nat) : Text := "\\u" ++ Text.ofNatHex 4 n

/-- One code point inside a string; beyond sixteen bits it takes two escapes. -/
def escaped (ascii : Bool) (c : CodePoint) : Text :=
  if c == '"' then "\\\""
  else if c == '\\' then "\\\\"
  else if c == '\n' then "\\n"
  else if c == '\r' then "\\r"
  else if c == '\t' then "\\t"
  else if c == '\x0c' then "\\f"
  else if c == '\x08' then "\\b"
  else if c.val < 0x20 then hexEscaped c.val
  else if !ascii || c.val < 0x7F then [c]
  else if c.val < 0x10000 then hexEscaped c.val
  else hexEscaped (0xD800 + (c.val - 0x10000) / 0x400)
    ++ hexEscaped (0xDC00 + (c.val - 0x10000) % 0x400)

def quoted (ascii : Bool) (t : Text) : Text := "\"" ++ t.flatMap (escaped ascii) ++ "\""

/-- The text of a number; what is not finite has words of its own. -/
def floatText (x : Binary64) : Text :=
  match x with
  | .nan _ => "NaN"
  | .infinite negative => if negative then "-Infinity" else "Infinity"
  | x => x.text

def intText (i : Int) : Except Unwritable Text := (Numeral.ofInt? i).mapError .number

def scalarText (style : Style) : Scalar → Except Unwritable Text
  | .null => .ok "null"
  | .bool b => .ok (if b then "true" else "false")
  | .int i => intText i
  | .float x => .ok (floatText x)
  | .text t => .ok (quoted style.ascii t)
  | s => (s.display?.map (quoted style.ascii)).mapError .number

/-- A key is always a string; numbers and words are put into quotes. -/
def keyText (style : Style) : Scalar → Except Unwritable Text
  | .null => .ok "\"null\""
  | .bool b => .ok (if b then "\"true\"" else "\"false\"")
  | .int i => (fun t => "\"" ++ t ++ "\"") <$> intText i
  | .float x => .ok ("\"" ++ floatText x ++ "\"")
  | .text t => .ok (quoted style.ascii t)
  | s => .error (.key s.kind)

def lineBreak (style : Style) (level : Nat) : Text :=
  match style.indent with
  | some width => CodePoint.ofChar '\n' :: List.replicate (width * level) (CodePoint.ofChar ' ')
  | none => []

def separator (style : Style) (level : Nat) : Text :=
  match style.indent with
  | some _ => "," ++ lineBreak style level
  | none => ", "

def bracketed (style : Style) (level : Nat) (opening closing : Char) (parts : List Text) : Text :=
  if parts.isEmpty then [opening, closing]
  else CodePoint.ofChar opening :: lineBreak style (level + 1)
    ++ Text.join (separator style (level + 1)) parts
    ++ lineBreak style level ++ [CodePoint.ofChar closing]

mutual

/-- `around` holds the labels of the containers around. -/
def valueText (style : Style) (around : List Nat) (level : Nat) :
    Value → Except Unwritable Text
  | .scalar s => scalarText style s
  | .list items => do
    let parts ← itemTexts style around (level + 1) items
    return bracketed style level '[' ']' parts
  | .pair first second => do
    let a ← valueText style around (level + 1) first
    let b ← valueText style around (level + 1) second
    return bracketed style level '[' ']' [a, b]
  | .map entries => do
    let parts ← entryTexts style around (level + 1) entries
    return bracketed style level '\x7b' '\x7d' parts
  | .set members =>
    ((Value.setText members).map (quoted style.ascii)).mapError .number
  | .labelled n body =>
    if around.contains n then .error .circular else valueText style (n :: around) level body
  | .ref _ => .error .circular

def itemTexts (style : Style) (around : List Nat) (level : Nat) :
    List Value → Except Unwritable (List Text)
  | [] => .ok []
  | x :: rest => do
    let t ← valueText style around level x
    let ts ← itemTexts style around level rest
    return t :: ts

def entryTexts (style : Style) (around : List Nat) (level : Nat) :
    List (Scalar × Value) → Except Unwritable (List Text)
  | [] => .ok []
  | (k, x) :: rest => do
    let key ← keyText style k
    let t ← valueText style around level x
    let ts ← entryTexts style around level rest
    return (key ++ ": " ++ t) :: ts

end

def print (style : Style) (v : Value) : Except Unwritable Text := valueText style [] 0 v

end ExposureLint.Json
