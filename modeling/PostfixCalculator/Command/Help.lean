/-!
# The help text of the command

The lines of the usage, and those that follow them when help is asked for.
-/
namespace PostfixCalculator.Command

def programName : String := "rpncalc"

def usageLines : List String := [
  "usage: rpncalc [-h] [--file FILE]",
  "               [--mime \x7btext/plain,application/json,text/json,application/json5," ++
    "text/x-json5,application/x-yaml,application/yaml,text/yaml," ++
    "text/x-yaml\x7d | --json | --json5 | --text | --yaml]",
  "               [--postfix] [--rpn] [--show-expression] [--color | --no-color]",
  "               [--no-status]",
  "               [--log-level \x7bDEBUG,INFO,WARNING,ERROR,CRITICAL\x7d | --debug | --quiet]",
  "               [--version] [-dumpversion]",
  "               [EXPRESSION ...]"]

def helpLines : List String := [
  "",
  "Evaluates whitespace-delimited arithmetic expressions such as `( 1 + 2 ) * 3`.",
  "",
  "positional arguments:",
  "  EXPRESSION            the expression to evaluate; its words are joined with",
  "                        spaces. If omitted, and no `--file` is given,",
  "                        expressions are read one per line from STDIN",
  "",
  "options:",
  "  -h, --help            show this help message and exit",
  "  --file FILE, -f FILE  evaluate every expression in this file; pass '-' to",
  "                        read from STDIN",
  "  --postfix, -p         the input is already in reverse Polish notation, e.g.",
  "                        `1 2 + 3 *`",
  "  --no-status           do not display progress bars",
  "  --version, -v         print rpncalc's version information to STDERR",
  "  -dumpversion          print rpncalc's raw version information to STDOUT and",
  "                        exit",
  "",
  "input file types:",
  "  --mime \x7btext/plain,application/json,text/json,application/json5,text/x-json5," ++
    "application/x-yaml,application/yaml,text/yaml,text/x-yaml\x7d",
  "                        explicitly specify the MIME type of `--file`",
  "  --json                equivalent to `--mime application/json`",
  "  --json5               equivalent to `--mime application/json5`",
  "  --text                equivalent to `--mime text/plain`",
  "  --yaml                equivalent to `--mime application/x-yaml`",
  "",
  "output formatting:",
  "  --rpn, -r             print the reverse Polish notation of each expression",
  "                        rather than its value",
  "  --show-expression, -s",
  "                        print each expression before its result",
  "  --color, -c           force ANSI color output; this is turned on by default",
  "                        only if run from a TTY",
  "  --no-color            do not use ANSI color in the output",
  "",
  "logging:",
  "  --log-level \x7bDEBUG,INFO,WARNING,ERROR,CRITICAL\x7d",
  "                        sets the log level for rpncalc (default=INFO)",
  "  --debug               equivalent to `--log-level=DEBUG`",
  "  --quiet               equivalent to `--log-level=CRITICAL --no-status`"]

/-- Lines with a line end after each. -/
def joinLines (lines : List String) : String := String.join (lines.map (· ++ "\n"))

def usageText : String := joinLines usageLines

def helpText : String := joinLines (usageLines ++ helpLines)

/-- What is said about arguments that are refused. -/
def refusalText (message : String) : String := s!"{programName}: error: {message}\n"

end PostfixCalculator.Command
