import LayeredFlags.Command.Arguments
/-!
# Usage

What the program shows when its arguments name nothing to be run.
-/

namespace LayeredFlags.Command

/-- The name and the version of the program. -/
def versionText : String := "flagstack 0.1.0\n"

/-- How the program is used. -/
def helpText : String :=
  "\n".intercalate
    ["Resolve layered build-flag overrides",
      "",
      "Usage: flagstack [OPTIONS] <COMMAND>",
      "",
      "Commands:",
      "  resolve   Resolve, validate and emit the final configuration",
      "  validate  Check constraints without emitting",
      "  explain   Show where the final state of every flag came from",
      "  parse     Parse a single layer source and print its directives",
      "  help      Print this message",
      "",
      "Options of every command:",
      "  -v, --verbose  Increase log verbosity (repeatable)",
      "      --json-logs  Emit logs as JSON",
      "  -h, --help  Print this message",
      "",
      "Options of resolve, validate and explain:",
      "  -m, --manifest <PATH>  Stack manifest (default: flagstack.toml)",
      "  -c, --catalog <PATH>  Flag catalog, instead of a manifest",
      "  -l, --layer <ID:PRIORITY:PATH>  Layer, with a catalog (repeatable)",
      "",
      "Options of resolve:",
      "  -f, --format <FORMAT>  Output syntax: header (the default) or json",
      "      --annotate  Annotate header lines with descriptions and source layers",
      "  -o, --output <PATH>  Write output to a file",
      "",
      "Options of validate:",
      "      --json  Output the full report as JSON",
      "",
      "Options of explain:",
      "      --human  Output in human-readable format instead of JSON",
      "",
      "Other options:",
      "  -V, --version  Print version, before any command",
      ""]

/-- What is shown when the arguments name nothing to be run. -/
def Stop.outcome : Stop → Outcome
  | .usage => ⟨2, "", "error: wrong usage; try 'flagstack --help'\n"⟩
  | .help => .success helpText
  | .version => .success versionText

end LayeredFlags.Command
