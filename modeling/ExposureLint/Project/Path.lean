import ExposureLint.Number.Natural
import ExposureLint.Text.Lower
import ExposureLint.Text.Utf8

/-!
Paths. A path is written with slashes between its parts; empty parts and single dots do not count,
two dots are kept, since they mean the place above only once the path is followed. Not every text is
the name of something that could be on a disk.
-/
namespace ExposureLint

/-- The root is empty for a relative path, and one or two slashes otherwise. -/
structure Path where
  root : Text
  parts : List Text
deriving DecidableEq

namespace Path

def isSlash (c : CodePoint) : Bool := c == '/'

def dot : Text := "."
def dots : Text := ".."

def isDot (c : CodePoint) : Bool := c == '.'

/-- Exactly two slashes at the start are a root of their own. -/
def rootOf (t : Text) : Text :=
  match (t.takeWhile isSlash).length with
  | 0 => []
  | 2 => "//"
  | _ => "/"

def partsOf (t : Text) : List Text :=
  (t.pieces isSlash).filter fun p => !p.isEmpty && p != dot

def ofText (t : Text) : Path := ⟨rootOf t, partsOf t⟩

/-- The path in its shortest form; the place itself is a dot. -/
def text (p : Path) : Text :=
  if p.root.isEmpty && p.parts.isEmpty then dot else p.root ++ Text.join "/" p.parts

/-- A path below another; an absolute one stands by itself. -/
def join (p q : Path) : Path := if q.root.isEmpty then ⟨p.root, p.parts ++ q.parts⟩ else q

def child (p : Path) (name : Text) : Path := ⟨p.root, p.parts ++ [name]⟩

def parent (p : Path) : Path := ⟨p.root, p.parts.dropLast⟩

def name (p : Path) : Text := p.parts.getLast?.getD []

/-- The end of the name from its last dot on, unless the dot begins or ends the name. -/
def suffix (p : Path) : Text :=
  let afterDot := (p.name.reverse.takeWhile fun c => !isDot c).reverse
  let stem := p.name.length - (afterDot.length + 1)
  if afterDot.isEmpty || stem == 0 || p.name.length ≤ afterDot.length then []
  else "." ++ afterDot

/-- Parts with the two dots followed: each takes the part before it away. -/
def climbed : List Text → List Text → List Text
  | done, [] => done
  | done, p :: rest => climbed (if p == dots then done.dropLast else done ++ [p]) rest

/-- The absolute path without two dots, where `here` are the parts of the working directory. -/
def resolve (here : List Text) (p : Path) : Path :=
  ⟨"/", climbed (if p.root.isEmpty then here else []) p.parts⟩

/-- Why a text names nothing: it has a code point that ends names, or one that has no form in
bytes. -/
inductive Unnameable
  | null
  | unwritable (fault : Utf8.Unwritable)
deriving DecidableEq

def Unnameable.message : Unnameable → Text
  | .null => "embedded null byte"
  | .unwritable fault => fault.message

/-- A name may have bytes that are no text; each of them is told by one of these surrogates. -/
def isLoneByte (c : CodePoint) : Bool := 0xDC80 ≤ c.val && c.val ≤ 0xDCFF

def unnameable? (t : Text) : Option Unnameable :=
  match Utf8.unwritableBut? isLoneByte t with
  | some fault => some (.unwritable fault)
  | none => if t.contains CodePoint.nul then some .null else none

def sizeOf (t : Text) : Nat :=
  total (t.map fun c => if isLoneByte c then 1 else (Utf8.encodeOne c).length)

/-- The most bytes of one part, and of a path as a whole. -/
def partLimit : Nat := 255
def limit : Nat := 4095

/-- What is behind a part of a relative or absolute path, where two dots are kept only as far as
there is nothing for them to take away. -/
def stepped (isAbsolute : Bool) (done : List Text) (p : Text) : List Text :=
  if p != dots then done ++ [p]
  else if done.isEmpty && isAbsolute then []
  else if done.isEmpty || done.getLast? == some dots then done ++ [p]
  else done.dropLast

def unnameableFrom? (isAbsolute : Bool) (done : List Text) : List Text → Option Unnameable
  | [] => none
  | p :: rest =>
    let next := stepped isAbsolute done p
    let reached : Path := ⟨if isAbsolute then "/" else [], next⟩
    (if p == dots then none else unnameable? reached.text).or (unnameableFrom? isAbsolute next rest)

def unresolvable? (p : Path) : Option Unnameable := unnameableFrom? (!p.root.isEmpty) [] p.parts

end Path
end ExposureLint
