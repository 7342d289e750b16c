import Attribution.Text.Split

/-!
Cgroup paths in normal form.

A path is joined onto a base segment by segment: void segments are skipped and `..` takes back the
segment before it, if there is one.
-/

namespace Attribution.Cgroup

/-- Takes one more segment onto a stack whose top is the innermost segment. -/
def climb (stack : List (List Char)) (segment : List Char) : List (List Char) :=
  if segment = [] ∨ segment = ['.'] then stack
  else if segment = ['.', '.'] then stack.tail
  else segment :: stack

/-- The segments that remain, outermost first. -/
def settle (segments : List (List Char)) : List (List Char) :=
  (segments.foldl climb []).reverse

/-- Every segment with a slash in front; no segments make the root. -/
def routeText (segments : List (List Char)) : List Char :=
  if segments.isEmpty then ['/'] else segments.flatMap ('/' :: ·)

/-- Joins a path onto a base. -/
def joinPath (base path : String) : String :=
  String.ofList (routeText (settle (Text.splitOn '/' base.toList ++ Text.splitOn '/' path.toList)))

end Attribution.Cgroup
