import ExposureLint.Text.Pattern

/-!
Tags say what a node means. A scalar without a tag has the one that its form asks for; the first
character of a scalar decides which forms come into question, and in which order.
-/
namespace ExposureLint.Yaml

inductive Tag
  | null
  | bool
  | int
  | float
  | binary
  | timestamp
  | orderedMap
  | pairs
  | set
  | str
  | seq
  | map
  | merge
  | value
  | indicator
  | other (name : Text)
deriving DecidableEq

namespace Tag

def standard : List (Tag × String) := [
  (.null, "null"), (.bool, "bool"), (.int, "int"), (.float, "float"), (.binary, "binary"),
  (.timestamp, "timestamp"), (.orderedMap, "omap"), (.pairs, "pairs"), (.set, "set"),
  (.str, "str"), (.seq, "seq"), (.map, "map"), (.merge, "merge"), (.value, "value"),
  (.indicator, "yaml")]

def standardStart : Text := "tag:yaml.org,2002:"

def name : Tag → Text
  | .other name => name
  | t => standardStart ++ (((standard.find? (·.1 == t)).map (·.2)).getD "")

def ofName (name : Text) : Tag :=
  match standard.find? fun e => standardStart ++ e.2 == name with
  | some (t, _) => t
  | none => .other name

end Tag

namespace Form

open Pattern

def sign : Pattern := optional (among "-+")

def digits : Pattern := many (among "0123456789_")

def bool : Pattern := words [
  "yes", "Yes", "YES", "no", "No", "NO", "true", "True", "TRUE", "false", "False", "FALSE",
  "on", "On", "ON", "off", "Off", "OFF"]

def null : Pattern := words ["~", "null", "Null", "NULL", ""]
def merge : Pattern := word "<<"
def value : Pattern := word "="
def indicator : Pattern := words ["!", "&", "*"]

def sexagesimal : Pattern :=
  atLeastOne (sequence [word ":", optional (among "012345"), digit])

def int : Pattern := choice [
  sequence [sign, word "0b", atLeastOne (among "01_")],
  sequence [sign, word "0", atLeastOne (among "01234567_")],
  sequence [sign, .alt (word "0") (.seq (among "123456789") digits)],
  sequence [sign, word "0x", atLeastOne (among "0123456789abcdefABCDEF_")],
  sequence [sign, among "123456789", digits, sexagesimal]]

def exponent : Pattern := optional (sequence [among "eE", among "-+", atLeastOne digit])

def float : Pattern := choice [
  sequence [sign, digit, digits, word ".", digits, exponent],
  sequence [word ".", digit, digits, exponent],
  sequence [sign, digit, digits, sexagesimal, word ".", digits],
  sequence [sign, words [".inf", ".Inf", ".INF"]],
  words [".nan", ".NaN", ".NAN"]]

def oneOrTwo : Pattern := .seq digit (optional digit)
def two : Pattern := .seq digit digit
def four : Pattern := .seq two two

/-- A time of day behind a date, with a fraction and an offset where they are given. -/
def time : Pattern := sequence [
  .alt (among "Tt") (atLeastOne (among " \t")), oneOrTwo, word ":", two, word ":", two,
  optional (.seq (word ".") (.many digit)),
  optional (.seq (.many (among " \t"))
    (.alt (word "Z") (sequence [among "-+", oneOrTwo, optional (.seq (word ":") two)])))]

def timestamp : Pattern := choice [
  sequence [four, word "-", two, word "-", two],
  sequence [four, word "-", oneOrTwo, word "-", oneOrTwo, time]]

/-- A date with or without a time, where month and day may have one digit. -/
def looseTimestamp : Pattern :=
  sequence [four, word "-", oneOrTwo, word "-", oneOrTwo, optional time]

/-- A form, its tag, and the characters that a text of this form begins with. -/
structure Rule where
  tag : Tag
  pattern : Pattern
  starts : String

/-- The forms in the order in which they are tried. -/
def rules : List Rule := [
  ⟨.bool, bool, "yYnNtTfFoO"⟩,
  ⟨.float, float, "-+0123456789."⟩,
  ⟨.int, int, "-+0123456789"⟩,
  ⟨.merge, merge, "<"⟩,
  ⟨.null, null, "~nN"⟩,
  ⟨.timestamp, timestamp, "0123456789"⟩,
  ⟨.value, value, "="⟩,
  ⟨.indicator, indicator, "!&*"⟩]

end Form

def Tag.ofPlain (content : Text) : Tag :=
  match content with
  | [] => .null
  | c :: _ =>
    match Form.rules.find? fun r => c.isIn r.starts && r.pattern.acceptsLine content with
    | some r => r.tag
    | none => .str

end ExposureLint.Yaml
