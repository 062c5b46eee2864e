import ThemedShell.Path.Basic

/-!
# Normal form

A path in normal form has neither dots nor repeated or trailing slashes. `normalize` works on the
text alone: each pair of dots takes back the name before it, if there is one. `stepNames` is one
round of the loop in `normalize`.
-/
namespace ThemedShell.Path

/-- The names down to a place, the last one first, after one more component. -/
def stepNames (names : List FileName) : Component → List FileName
  | .parent => names.tail
  | .name name => name :: names

/-- The names that remain when each pair of dots has taken back the name before it. -/
def normalNames (components : List Component) : List FileName :=
  (components.foldl stepNames []).reverse

/-- The path that runs through `names`, from the root or from nowhere in particular. -/
def ofNames (absolute : Bool) (names : List FileName) : Path :=
  ⟨(if absolute then [slash] else []) ++ [slash].intercalate names⟩

def normalize (p : Path) : Path := ofNames p.isAbsolute (normalNames p.components)

end ThemedShell.Path
