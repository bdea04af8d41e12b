import SourceMetrics.CommandLine.Word

/-!
# The description of the options

## Main definitions

* `CommandOption.description` — what an option does
* `helpText` — the description of the command line
-/

namespace SourceMetrics

namespace CommandOption

/-- What an option does. -/
def description : CommandOption → String
  | help => "show this help message and exit"
  | json => "Print the full result as JSON"
  | config => "JSON config file (includeTests, maxFileSize, ...)"
  | includeTests => "Include test files and directories"
  | includeNodeModules => "Descend into node_modules"
  | maxFileSize => "Skip files larger than this many bytes"
  | timeout => "Per-file timeout in milliseconds"
  | maxConcurrency => "Files analyzed at once"
  | ignore => "Gitignore-style pattern to skip (repeatable)"
  | noGitignore => "Do not read the root .gitignore"
  | noCase => "Do not count case labels"
  | noLogical => "Do not count && and ||"
  | noTernary => "Do not count ternary operators"
  | verbose => "Enable verbose logging"

/-- An option with what it does. -/
def helpLine (o : CommandOption) : String :=
  "  " ++ ", ".intercalate o.spellings ++ (if o.takesValue then " VALUE" else "") ++
    "\n                        " ++ o.description

end CommandOption

/-- How the command is called. -/
def usageLine : String := "usage: complexity-analyzer [options] paths [paths ...]"

/-- The description of the command line. -/
def helpText : String :=
  "\n".intercalate <|
    [usageLine, "",
     "Estimate cyclomatic, cognitive and nesting complexity of source files", "",
     "positional arguments:",
     "  paths                 Files or directories to analyze", "",
     "options:"] ++ CommandOption.all.map CommandOption.helpLine ++ [""]

end SourceMetrics
