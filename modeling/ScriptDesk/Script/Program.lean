import ScriptDesk.Script.Imports

/-!
# The program of a script

A program has a line for each import, an empty line, and a class whose entry method holds the code
of the script as it stands, between the lines `opening` and `closing`. What the code throws is kept
in a property of the class.
-/

namespace ScriptDesk.Program

/-- The lines before the code. -/
def opening : List Text :=
  ["".toList,
    "namespace ScriptRuntime".toList,
    "\x7b".toList,
    "    public class Program".toList,
    "    \x7b".toList,
    "        public Exception? Exception \x7b get; private set; \x7d".toList,
    "".toList,
    "        public async Task Main()".toList,
    "        \x7b".toList,
    "            try".toList,
    "            \x7b".toList]

/-- The lines after the code. -/
def closing : List Text :=
  ["            \x7d".toList,
    "            catch (Exception ex)".toList,
    "            \x7b".toList,
    "                this.Exception = ex;".toList,
    "            \x7d".toList,
    "        \x7d".toList,
    "    \x7d".toList,
    "\x7d".toList]

/-- The line that imports a namespace. -/
def importLine (name : Text) : Text :=
  "using ".toList ++ name ++ [';']

/-- The lines, each ended by a line feed. -/
def ended (lines : List Text) : Text :=
  lines.flatMap (· ++ ['\n'])

/-- The program of a script with the given settings and code. -/
def ofScript (config : ScriptConfig) (code : Text) : Text :=
  ended (config.imports.map importLine ++ opening ++ [code] ++ closing)

end ScriptDesk.Program
