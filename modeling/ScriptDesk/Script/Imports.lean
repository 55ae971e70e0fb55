import ScriptDesk.Script.Config

/-!
# The imports of a program

A program imports the standard namespaces, then those of the script in the order in which they first
occur. Each is imported once and blank ones are not.
-/

namespace ScriptDesk

/-- The namespaces that every program imports, in order. -/
def standardNamespaces : List Text :=
  ["System".toList, "System.IO".toList, "System.Collections".toList,
    "System.Collections.Generic".toList, "System.Linq".toList, "System.Text".toList,
    "System.Threading.Tasks".toList]

namespace ScriptConfig

/-- The names that are neither in `seen` nor blank nor repeated, in the order in which they first
occur. -/
def fresh (seen : List Text) : List Text → List Text
  | [] => []
  | name :: names =>
    if name.isEmpty || seen.contains name then fresh seen names
    else name :: fresh (name :: seen) names

/-- The namespaces that the program of a script imports. -/
def imports (config : ScriptConfig) : List Text :=
  fresh [] (standardNamespaces ++ config.namespaces.map Text.trim)

end ScriptConfig

end ScriptDesk
