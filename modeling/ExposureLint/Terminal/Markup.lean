import ExposureLint.Terminal.Action
import ExposureLint.Terminal.Styled
import ExposureLint.Text.Emoji

/-!
Markup in texts for a terminal: a tag in brackets sets a style for what follows, and a closing tag
takes it back. A tag that begins with an at sign sets no style but an action. A backslash in front
of a tag makes it plain text, and two backslashes stand for one there. A closing tag without an
opening one is a fault. `escape` makes a text that is read as itself, but for what the two rules on
backslashes at its end and in front of brackets change.
-/
namespace ExposureLint.Markup

/-- What is between the brackets of a tag: a name, and what stands behind the first equals sign. -/
structure Tag where
  name : Text
  parameters : Option Text
deriving DecidableEq

def isEquals (c : CodePoint) : Bool := c == '='
def isBackslash (c : CodePoint) : Bool := c == '\\'
def isOpening (c : CodePoint) : Bool := c == '['
def isClosing (c : CodePoint) : Bool := c == ']'
def isSlash (c : CodePoint) : Bool := c == '/'

def Tag.ofText (inside : Text) : Tag :=
  let name := inside.takeWhile fun c => !isEquals c
  match inside.drop name.length with
  | [] => ⟨name, none⟩
  | _ :: parameters => ⟨name, some parameters⟩

def Tag.written (t : Tag) : Text :=
  match t.parameters with
  | none => "[" ++ t.name ++ "]"
  | some parameters => "[" ++ t.name ++ "=" ++ parameters ++ "]"

def Tag.description (t : Tag) : Text :=
  match t.parameters with
  | none => t.name
  | some parameters => t.name ++ " " ++ parameters

/-- A closing tag at a position that has no opening one, where one without a name closes any; an
action that cannot be read; or a colour whose parts are no numbers. -/
inductive Fault
  | unmatched (tag : Tag) (pos : Nat)
  | nothingOpen (pos : Nat)
  | action (fault : Action.Fault)
  | color (fault : Numeral.Fault)
deriving DecidableEq

def Fault.message : Fault → Text
  | .unmatched tag pos =>
    "closing tag '" ++ tag.written ++ "' at position " ++ Text.ofNat pos
      ++ " doesn't match any open tag"
  | .nothingOpen pos =>
    "closing tag '[/]' at position " ++ Text.ofNat pos ++ " has nothing to close"
  | .action fault => fault.message
  | .color fault => fault.message

/-- A tag begins with a small letter, a number sign, a slash or an at sign. -/
def isTagStart (c : CodePoint) : Bool := c.isAsciiLower || c.isIn "#/@"

def tagAt? : Text → Option Text
  | bracket :: first :: rest =>
    if isOpening bracket && isTagStart first then
      let inside := first :: rest.takeWhile fun c => !isOpening c && !isClosing c
      if (rest.drop (inside.length - 1)).head?.any isClosing then some inside else none
    else none
  | _ => none

/-- The number of backslashes at the start, and the tag behind them. -/
def escapedTagAt? (t : Text) : Option (Nat × Text) :=
  let backslashes := (t.takeWhile isBackslash).length
  (tagAt? (t.drop backslashes)).map fun inside => (backslashes, inside)

def backslashes (n : Nat) : Text := List.replicate n (CodePoint.ofChar '\\')

inductive Part
  | plain (t : Text)
  | tag (t : Tag) (pos : Nat)

def partsOf (pos count : Nat) (inside : Text) : List Part :=
  let literal := if count / 2 == 0 then [] else [Part.plain (backslashes (count / 2))]
  if count % 2 == 1 then literal ++ [.plain ("[" ++ inside ++ "]")]
  else literal ++ [.tag (.ofText inside) (pos + count)]

def plainParts (reversed : Text) : List Part :=
  if reversed.isEmpty then [] else [.plain reversed.reverse]

/-- `pos` is the position, `skip` counts the code points that a tag has taken already, and `before`
is the plain text since the last tag, in reverse. -/
def partsFrom (pos skip : Nat) (before : Text) : Text → List Part
  | [] => plainParts before
  | c :: rest =>
    match skip with
    | skip + 1 => partsFrom (pos + 1) skip before rest
    | 0 =>
      match escapedTagAt? (c :: rest) with
      | some (count, inside) =>
        plainParts before ++ partsOf pos count inside
          ++ partsFrom (pos + 1) (count + inside.length + 1) [] rest
      | none => partsFrom (pos + 1) 0 (c :: before) rest

def parts (t : Text) : List Part := partsFrom 0 0 [] t

/-- Every tag with its backslashes twice and one more. -/
def escapeFrom (skip : Nat) : Text → Text
  | [] => []
  | c :: rest =>
    match skip with
    | skip + 1 => escapeFrom skip rest
    | 0 =>
      match escapedTagAt? (c :: rest) with
      | some (count, inside) =>
        backslashes (2 * count + 1) ++ "[" ++ inside ++ "]"
          ++ escapeFrom (count + inside.length + 1) rest
      | none => c :: escapeFrom 0 rest

/-- A single backslash at the end would escape what is put behind it, so it is doubled. -/
def escape (t : Text) : Text :=
  let escaped := escapeFrom 0 t
  if (escaped.reverse.takeWhile isBackslash).length == 1 then escaped ++ backslashes 1 else escaped

/-- A backslash in front of an opening bracket stands for the bracket alone. -/
def unescapeBrackets : Text → Text
  | [] => []
  | [c] => [c]
  | c :: d :: rest =>
    if isBackslash c && isOpening d then unescapeBrackets (d :: rest)
    else c :: unescapeBrackets (d :: rest)

def shown (t : Text) : Text := Text.withoutControls (Emoji.replace (unescapeBrackets t))

/-- What is read so far: the text, the spans that are closed, the last first, and the tags that are
open, the last first, each with its start. -/
structure Reading where
  text : Text
  closed : List Span
  opened : List (Nat × Tag)

/-- The style of a tag. An action has none. -/
def Tag.style (t : Tag) : Except Fault SpanStyle :=
  if t.name.head?.any isAt then
    match Action.validate (t.parameters.getD []) with
    | .ok _ => .ok (.known .none)
    | .error fault => .error (.action fault)
  else .ok (.described t.description)
where
  isAt (c : CodePoint) : Bool := c == '@'

namespace Reading

def start : Reading := ⟨[], [], []⟩

def close (r : Reading) (entry : Nat × Tag) (opened : List (Nat × Tag)) : Except Fault Reading := do
  let style ← entry.2.style
  return ⟨r.text, ⟨entry.1, r.text.length, style⟩ :: r.closed, opened⟩

def normalName (name : Text) : Except Fault Text := (Style.normalize name).mapError .color

/-- A closing tag closes the last one of its name, or the last one if it has no name. -/
def closeTag (r : Reading) (tag : Tag) (pos : Nat) : Except Fault Reading := do
  let name := Text.strip (tag.name.drop 1)
  if name.isEmpty then
    match r.opened with
    | entry :: opened => r.close entry opened
    | [] => throw (.nothingOpen pos)
  else
    let name ← normalName name
    let isIt (entry : Nat × Tag) : Bool := entry.2.name == name
    match r.opened.find? isIt with
    | some entry => r.close entry (r.opened.eraseP isIt)
    | none => throw (.unmatched tag pos)

def add (r : Reading) : Part → Except Fault Reading
  | .plain t => .ok { r with text := r.text ++ shown t }
  | .tag tag pos =>
    if tag.name.head?.any isSlash then r.closeTag tag pos
    else do
      let tag : Tag := ⟨← normalName tag.name, tag.parameters⟩
      return { r with opened := (r.text.length, tag) :: r.opened }

/-- All that is still open is closed at the end, where actions need not be read. Spans that start
first are below, and of those that start together the ones that are closed last. -/
def finish (r : Reading) : Styled :=
  let unclosed : List Span := r.opened.map fun (start, tag) =>
    ⟨start, r.text.length, .described tag.description⟩
  let all := unclosed.reverse ++ r.closed
  let upTo := r.text.length + 1
  ⟨r.text, none, (List.range upTo).flatMap fun n => all.filter fun span => span.start == n⟩

end Reading

def read (t : Text) : Except Fault Styled :=
  Reading.finish <$> (parts t).foldlM Reading.add Reading.start

/-- The plain parts of a text, where tags show nothing. -/
def shownParts (t : Text) : Text :=
  (parts t).flatMap fun part =>
    match part with
    | .plain t => shown t
    | .tag _ _ => []

def plain (t : Text) : Text := Text.withoutControls (Emoji.replace t)

end ExposureLint.Markup
