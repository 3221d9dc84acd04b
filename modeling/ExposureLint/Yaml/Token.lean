import ExposureLint.Yaml.Error

/-!
The tokens of a YAML text. Three of them are not written but follow from the indentation: the start
of a block sequence, the start of a block mapping, and the end of a block.
-/
namespace ExposureLint.Yaml

/-- A tag as written: a handle, unless the tag is given in full, and what follows the handle. -/
structure WrittenTag where
  handle : Option Text
  suffix : Text
deriving DecidableEq

inductive DirectiveValue
  | version (major minor : Int)
  | handle (name start : Text)
  | unknown
deriving DecidableEq

inductive Lexeme
  | directive (value : DirectiveValue)
  | documentStart
  | documentEnd
  | streamEnd
  | blockSequenceStart
  | blockMappingStart
  | blockEnd
  | flowSequenceStart
  | flowMappingStart
  | flowSequenceEnd
  | flowMappingEnd
  | key
  | value
  | blockEntry
  | flowEntry
  | aliasOf (name : Text)
  | anchor (name : Text)
  | tag (written : WrittenTag)
  | scalar (content : Text) (plain : Bool)
deriving DecidableEq

structure Token where
  lexeme : Lexeme
  start : Mark
  stop : Mark
deriving DecidableEq

def Lexeme.name : Lexeme → Text
  | .directive _ => "<directive>"
  | .documentStart => "<document start>"
  | .documentEnd => "<document end>"
  | .streamEnd => "<stream end>"
  | .blockSequenceStart => "<block sequence start>"
  | .blockMappingStart => "<block mapping start>"
  | .blockEnd => "<block end>"
  | .flowSequenceStart => "["
  | .flowMappingStart => "\x7b"
  | .flowSequenceEnd => "]"
  | .flowMappingEnd => "\x7d"
  | .key => "?"
  | .value => ":"
  | .blockEntry => "-"
  | .flowEntry => ","
  | .aliasOf _ => "<alias>"
  | .anchor _ => "<anchor>"
  | .tag _ => "<tag>"
  | .scalar _ _ => "<scalar>"

/-- What reading a token gives: the token and the place after it. -/
abbrev Scanned := Except Fault (Token × Cursor)

def complain {α : Type} (context : Context) (start : Mark) (problem : Problem) (c : Cursor) :
    Except Fault α :=
  .error (.complaint ⟨.tokens, some (context, some start), problem, c.mark⟩)

def unexpected {α : Type} (context : Context) (start : Mark) (what : Expected) (c : Cursor) :
    Except Fault α :=
  complain context start (.expected what c.peek) c

end ExposureLint.Yaml
