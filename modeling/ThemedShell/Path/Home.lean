import ThemedShell.Path.Normal

/-!
# Paths that users write

A tilde, alone or before a slash or a backslash, stands for the home directory. `resolve` turns
what a user writes into a path in normal form. `resolve`, `expand` and `isHomePath` are
`PathExpander.resolve`, `expand` and `is_home_path`; `homeRest?` is what `expand_tilde` takes off.
-/
namespace ThemedShell.Path

/-- What stands behind the tilde and its separator, if the text begins at the home directory. -/
def homeRest? : List Char → Option (List Char)
  | ['~'] => some []
  | '~' :: '/' :: rest => some rest
  | '~' :: '\\' :: rest => some rest
  | _ => none

def isHomePath (s : String) : Bool := (homeRest? s.toList).isSome

/-- The path that a text stands for. There is none for a home path if no home is known. -/
def expand (home : Option Path) (s : String) : Option Path :=
  match homeRest? s.toList with
  | none => some (.ofString s)
  | some [] => home
  | some rest => home.map (·.join (.ofString (.ofList rest)))

/-- The path that a text stands for, as seen from `base`, in normal form. -/
def resolve (home : Option Path) (base : Path) (s : String) : Option Path :=
  (expand home s).map fun p => (base.join p).normalize

end ThemedShell.Path
