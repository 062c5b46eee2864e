/-!
# Environments

The variables of a process and their values.
-/
namespace ThemedShell

abbrev Environment := List (String × String)

namespace Environment

def value? (env : Environment) (name : String) : Option String := env.lookup name

end Environment

end ThemedShell
