import ExposureLint.Record.Fault

/-!
Reading the fields of a record from values. Texts may be given as bytes in UTF-8, and truth values
as the numbers zero and one or as words. A reader collects all faults of a record before it gives
up.
-/
namespace ExposureLint.Record

/-- What a field is read as, or the rule that its value breaks. -/
abbrev Reading (α : Type) := Except Rule α

/-- The words for truth values, in any case. -/
def falseWords : List String := ["0", "off", "f", "false", "n", "no"]

def trueWords : List String := ["1", "on", "t", "true", "y", "yes"]

def boolOfWord (t : Text) : Reading Bool :=
  let word := t.lowerAscii
  if trueWords.any fun w => word == Text.ofString w then .ok true
  else if falseWords.any fun w => word == Text.ofString w then .ok false
  else .error .boolParsing

/-- Of the integers in the range of 64 bits, zero and one are truth values. -/
def boolOfInt (i : Int) : Reading Bool :=
  if i < -(twoTo 63 : Int) || (twoTo 63 : Int) ≤ i then .error .boolType
  else if i == 0 then .ok false
  else if i == 1 then .ok true
  else .error .boolParsing

/-- The whole numbers are like integers, but for the least of 64 bits. -/
def boolOfFloat (x : Binary64) : Reading Bool :=
  match x.toInt? with
  | some i => if i == -(twoTo 63 : Int) then .error .boolType else boolOfInt i
  | none => .error .boolType

def readBool : Value → Reading Bool
  | .scalar (.bool b) => .ok b
  | .scalar (.int i) => boolOfInt i
  | .scalar (.float x) => boolOfFloat x
  | .scalar (.text t) => if t.isWellFormed then boolOfWord t else .error .stringUnicode
  | .scalar (.bytes content) =>
    match Utf8.decode content with
    | .ok t => boolOfWord t
    | .error _ => .error .boolParsing
  | _ => .error .boolType

def readText : Value → Reading Text
  | .scalar (.text t) => .ok t
  | .scalar (.bytes content) => (Utf8.decode content).mapError fun _ => .stringUnicode
  | _ => .error .stringType

def readOptionalText (v : Value) : Reading (Option Text) :=
  if v.isNull then .ok none else some <$> readText v

/-- What a reader of records collects: the value of a field, which is there when no fault is. -/
structure Collected (α : Type) where
  value : Option α
  faults : List Fault

namespace Collected

def pure {α : Type} (x : α) : Collected α := ⟨some x, []⟩

def map {α β : Type} (f : α → β) (c : Collected α) : Collected β := ⟨c.value.map f, c.faults⟩

def both {α β : Type} (c : Collected (α → β)) (d : Collected α) : Collected β :=
  ⟨match c.value, d.value with
    | some f, some x => some (f x)
    | _, _ => none, c.faults ++ d.faults⟩

def ofReading {α : Type} (place : List Text) (input : Value) (r : Reading α) : Collected α :=
  match r with
  | .ok x => pure x
  | .error rule => ⟨none, [⟨place, rule, input⟩]⟩

end Collected

def required {α : Type} (record : Value) (name : String) (read : Value → Reading α) :
    Collected α :=
  let place : List Text := [Text.ofString name]
  match Value.find? (.text name) (record.entries?.getD []) with
  | some v => .ofReading place v (read v)
  | none => ⟨none, [⟨place, .missing, record⟩]⟩

def optional {α : Type} (record : Value) (name : String) (otherwise : α)
    (read : Value → Reading α) : Collected α :=
  match Value.find? (.text name) (record.entries?.getD []) with
  | some v => .ofReading [Text.ofString name] v (read v)
  | none => .pure otherwise

def readTexts (name : Text) (index : Nat) : List Value → Collected (List Text)
  | [] => .pure []
  | v :: rest =>
    let first := Collected.ofReading [name, Text.ofNat index] v (readText v)
    ((first.map List.cons).both (readTexts name (index + 1) rest))

/-- A list of texts, empty when it is not there. -/
def textList (record : Value) (name : String) : Collected (List Text) :=
  match Value.find? (.text name) (record.entries?.getD []) with
  | none => .pure []
  | some v =>
    match v.items? with
    | some items => readTexts name 0 items
    | none => ⟨none, [⟨[Text.ofString name], .listType, v⟩]⟩

def keyPlace (k : Scalar) : Text :=
  match k with
  | .text t => t
  | .bool b => if b then "1" else "0"
  | k =>
    match k.quoted? with
    | .ok t => t
    | .error _ => "<unprintable " ++ k.kind ++ " object>"

/-- The faults of the keys that are no fields. A text that is not well formed has no place. -/
def unknownKeys (record : Value) (fields : List String) : List Fault :=
  (record.entries?.getD []).filterMap fun (k, v) =>
    match k with
    | .text t =>
      if !t.isWellFormed then some ⟨[], .stringUnicode, .scalar k⟩
      else if fields.any fun f => t == Text.ofString f then none
      else some ⟨[keyPlace k], .extraForbidden, v⟩
    | k => some ⟨[keyPlace k], .invalidKey, .scalar k⟩

/-- The record, if there is no fault. What is no mapping is refused as a whole. -/
def finish {α : Type} (model : Text) (input : Value) (c : Collected α) : Except Refused α :=
  if input.entries?.isNone then .error (.faulty ⟨model, [⟨[], .mappingType, input⟩]⟩)
  else match c.value, c.faults with
    | some x, [] => .ok x
    | _, faults => .error (.ofFaults model faults)

end ExposureLint.Record
