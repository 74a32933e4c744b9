/-
**Help texts.**

Main definitions:

* `Command.programName`, `Command.versionText` — the name of the program and its version;
* `Command.mainHelp` and one text for each command.
-/

set_option autoImplicit false

namespace HostRouting.Command

/-- The name of the program. -/
def programName : String := "pacrule-gen"

/-- The name of the program with its version. -/
def versionText : String := programName ++ " 0.1.0\n"

/-- A text of lines. -/
def ofLines (ls : List String) : String := String.join (ls.map (· ++ "\n"))

/-- What the command for scripts does. -/
def pacAbout : String := "Generate the PAC script for a stored configuration"

/-- What the command for decisions does. -/
def decideAbout : String := "Print the routing decision for each host"

/-- What the command for downloads does. -/
def fetchAbout : String := "Download a rule list and optionally store it in a config file"

/-- What the command for help does. -/
def helpAbout : String := "Print this message or the help of the given subcommand(s)"

/-- The help text of the program. -/
def mainHelp : String := ofLines [
  "Generate PAC scripts from proxy routing rules",
  "",
  "Usage: " ++ programName ++ " <COMMAND>",
  "",
  "Commands:",
  "  pac     " ++ pacAbout,
  "  decide  " ++ decideAbout,
  "  fetch   " ++ fetchAbout,
  "  help    " ++ helpAbout,
  "",
  "Options:",
  "  -h, --help     Print help",
  "  -V, --version  Print version"]

/-- The help text of the command for scripts. -/
def pacHelp : String := ofLines [
  pacAbout,
  "",
  "Usage: " ++ programName ++ " pac [OPTIONS] --config <CONFIG>",
  "",
  "Options:",
  "  -c, --config <CONFIG>  Config file (JSON or YAML)",
  "  -o, --output <OUTPUT>  Output file (stdout if omitted)",
  "  -v, --verbose          Verbose output",
  "  -h, --help             Print help"]

/-- The help text of the command for decisions. -/
def decideHelp : String := ofLines [
  decideAbout,
  "",
  "Usage: " ++ programName ++ " decide --config <CONFIG> <HOSTS>...",
  "",
  "Arguments:",
  "  <HOSTS>...  Hostnames to evaluate",
  "",
  "Options:",
  "  -c, --config <CONFIG>  Config file (JSON or YAML)",
  "  -h, --help             Print help"]

/-- The help text of the command for downloads. -/
def fetchHelp : String := ofLines [
  fetchAbout,
  "",
  "Usage: " ++ programName ++ " fetch [OPTIONS] --url <URL>",
  "",
  "Options:",
  "  -u, --url <URL>        Rule list URL (http or https, optionally gzip compressed)",
  "  -l, --list <LIST>      Which list the rules belong to [default: whitelist] [possible values:",
  "                         whitelist, blacklist]",
  "  -c, --config <CONFIG>  Config file to update with the fetched rules",
  "  -h, --help             Print help"]

/-- The help text of the command for help. -/
def helpHelp : String := ofLines [
  helpAbout,
  "",
  "Usage: " ++ programName ++ " help [COMMAND]...",
  "",
  "Arguments:",
  "  [COMMAND]...  Print help for the subcommand(s)"]

end HostRouting.Command
