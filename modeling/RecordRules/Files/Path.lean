/-!
# Paths

A path names a file by the directories that lead to it, separated by slashes. Empty parts and
single points in it lead nowhere. Its extension is what follows the last point of its last part,
unless that point is the first character of the part.
-/

namespace RecordRules.Path

/-- The parts of a path between its slashes. -/
def parts (path : String) : List String :=
  (path.toList.splitOn '/').map String.ofList

/-- The last part of a path that leads somewhere. -/
def fileName? (path : String) : Option String :=
  match (parts path).filter fun part => part != "" && part != "." with
  | [] => none
  | first :: others =>
    let last := others.getLast?.getD first
    if last = ".." then none else some last

/-- The extension of a path, without its point. -/
def extension? (path : String) : Option String := do
  let reversed := (← fileName? path).toList.reverse
  let ending := reversed.takeWhile (· != '.')
  match reversed.drop ending.length with
  | '.' :: _ :: _ => some (String.ofList ending.reverse)
  | _ => none

end RecordRules.Path
