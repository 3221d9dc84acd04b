import ExposureLint.Cli.Run

/-!
What a program looks at before it runs: the variables that a run reads, and what is at the places
along the paths that it may follow, that of the log of a crash among them. All else on a disk is
left out of what a run is given.
-/
namespace ExposureLint

namespace Path

/-- The places that parts lead through, from a place on. -/
def stops : Place → List Text → List Place
  | place, [] => [place]
  | place, p :: rest => place :: stops (if p == dots then place.dropLast else place ++ [p]) rest

/-- The places that a path leads through when it is followed, and those of its shortest form. -/
def stopsFrom (here : Place) (p : Path) : List Place :=
  stops (if p.root.isEmpty then here else []) p.parts ++ stops [] (p.resolve here).parts

end Path

namespace Environment

def names : List String := [
  "HOME", "XDG_DATA_HOME", "TERM", "COLORTERM", "COLUMNS", "LINES", "NO_COLOR",
  "DISPATCHLINT_PROJECT", "DISPATCHLINT_STRICT", "DISPATCHLINT_ALLOW_MISSING_SPEC",
  "DISPATCHLINT_FORMAT"]

end Environment

namespace Cli

variable [Host]

/-- The directory of the project that a command line names, if it leads to a command. -/
def project? (env : Environment) (args : List Text) : Option Path :=
  match RootChoices.read args with
  | .error _ => none
  | .ok (_, command, own) =>
    match CommandChoices.read command own with
    | .error _ => none
    | .ok c => some (Path.ofText (Settings.rootOf env (c.choices .auto)))

def consulted (here : Place) (env : Environment) (stamp : Text) (args : List Text) : List Path :=
  let inside (root : Path) : List Path :=
    root.child Settings.fileName :: specNames.map (root.resolve here).child
  let log := (env.dataDirectory "Linux").toOption.map fun data =>
    (data.child "logs").child (Disk.crashLogName stamp)
  ((project? env args).map inside).getD [] ++ log.toList

def stops (here : Place) (env : Environment) (stamp : Text) (args : List Text) : List Place :=
  ((consulted here env stamp args).flatMap (Path.stopsFrom here)).eraseDups

end Cli

namespace Disk

def newSince (before after : Disk) : List (Place × Entry) :=
  after.entries.filter fun e => before.entryAt e.1 != some e.2

end Disk
end ExposureLint
