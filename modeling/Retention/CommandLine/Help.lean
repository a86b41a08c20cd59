import Retention.CommandLine.Arguments

/-!
# Help

What the program says about itself: its commands and options in two columns, and its version.
-/

namespace Retention.CommandLine

open Retention.Cycle (DataDomain)

def programName : String := "cycle-data"

def versionText : String := "cycler 0.1.0"

/-- Rows of two columns, the left one as wide as its widest entry. -/
def columns (rows : List (String × String)) : List String :=
  let width := (rows.map (·.1.length)).foldl max 0
  rows.map fun (left, right) =>
    "  " ++ left ++ String.ofList (List.replicate (width - left.length) ' ') ++ "  " ++ right

def domainAbout : DataDomain → String
  | .jobs => "Cycle job results and their ancillary data (default)"
  | .performance => "Cycle performance data"

def commandRows : List (String × String) :=
  [("from:treeherder", domainAbout .jobs), ("from:perfherder", domainAbout .performance),
    ("help", "Print this message or the help of the given subcommand(s)")]

def optionRows : List (String × String) :=
  [("-c, --config <CONFIG>", "Path to config file [default: cycler.toml]"),
    ("    --days <DAYS>", "Data cycle interval expressed in days. Defaults to the configured " ++
      "retention of the chosen data source"),
    ("    --chunk-size <CHUNK_SIZE>", "Maximum number of rows to delete per statement"),
    ("    --sleep-time <SLEEP_TIME>",
      "Seconds to pause between job chunks (ignored for performance data)"),
    ("    --debug", "Write debug messages to stdout"),
    ("-h, --help", "Print help")]

def versionRow : String × String := ("-V, --version", "Print version")

def domainCommand : DataDomain → String
  | .jobs => "from:treeherder"
  | .performance => "from:perfherder"

def usageLine : Topic → String
  | .program => s!"Usage: {programName} [OPTIONS] [COMMAND]"
  | .command domain => s!"Usage: {programName} {domainCommand domain} [OPTIONS]"
  | .help => s!"Usage: {programName} help [COMMAND]..."

def helpLines (topic : Topic) : List String :=
  match topic with
  | .program =>
    ["Cycle data that exceeds the time constraint limit", "", usageLine topic, "", "Commands:"] ++
      columns commandRows ++ ["", "Options:"] ++ columns (optionRows ++ [versionRow])
  | .command domain =>
    [domainAbout domain, "", usageLine topic, "", "Options:"] ++ columns optionRows
  | .help =>
    ["Print this message or the help of the given subcommand(s)", "", usageLine topic, "",
      "Arguments:"] ++ columns [("[COMMAND]...", "Print help for the subcommand(s)")]

def refusalLines (error : ArgumentError) : List String :=
  [s!"error: {error.message}", "", usageLine .program, "", "For more information, try '--help'."]

end Retention.CommandLine
