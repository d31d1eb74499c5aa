/-! # The help text -/

namespace MessageCatalog

/-- The lines of the help. -/
def helpLines : List String := [
  "Extract gettext message templates from Go translation call sites found by guru",
  "",
  "Usage: gurutext [OPTIONS] [OFFSET]...",
  "",
  "Arguments:",
  "  [OFFSET]...  Position of a translation function, as `file.go:#offset`",
  "",
  "Options:",
  "      --scope <PATTERNS>   Package patterns for guru's -scope argument",
  "      --exclude <REGEX>    Exclude files matching the given regex",
  "      --sort               Sort messages alphabetically",
  "      --comment <KEYWORD>  Extract comments that start with KEYWORD",
  "      --ignore <TEXT>      Ignore calls whose preceding comment contains this text " ++
    "[default: GURUTEXT_IGNORE]",
  "      --callers <FILE>     Read guru's callers JSON from FILE instead of running guru " ++
    "(`-` for stdin)",
  "      --config <FILE>      Configuration file (default: nearest .gurutextrc.json)",
  "  -v, --verbose            Enable verbose output",
  "  -h, --help               Print help",
  "  -V, --version            Print version"]

/-- The help, one line each. -/
def helpText : String := String.join (helpLines.map (· ++ "\n"))

end MessageCatalog
