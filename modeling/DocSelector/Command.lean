import DocSelector.Report.Check
import DocSelector.Report.Explanation
import DocSelector.Report.Listing
import DocSelector.Report.Suggestions

/-!
# Commands

The command line of the selector toolkit as a function: from the words of the command line to the
texts for the two output streams and the exit code.

## Main definitions

* `Verb`: what a command line tells to do with its arguments.
* `Command`: what a command line asks for.
* `UsageError`: why a command line cannot be understood.
* `Command.parse`: reads a command line.
* `Outcome`: the streams and the exit code.
* `runCommandLine`: the outcome of a command line.
-/

namespace DocSelector

/-- What a command line tells to do with its arguments. -/
inductive Verb where
  | lex
  | check
  | suggest
  | explain
deriving DecidableEq, Repr

namespace Verb

def all : List Verb := [lex, check, suggest, explain]

def words : Verb → List String
  | lex => ["lex"]
  | check => ["check"]
  | suggest => ["suggest"]
  | explain => ["explain", "--explain"]

def ofWord? (word : String) : Option Verb :=
  all.find? fun verb => verb.words.contains word

end Verb

/-- What a command line asks for. -/
inductive Command where
  | lex (selector : String)
  | check (selector : String)
  | suggest (name : String) (candidates : List String) (options : SuggestOptions)
  | explain (code : String)
  | help
  | version
deriving DecidableEq, Repr

/-- Why a command line cannot be understood. -/
inductive UsageError where
  /-- The verb needs more arguments than there are. -/
  | missingArguments (verb : Verb)
  /-- An argument is a flag with a bad value. -/
  | badFlag (bad : SuggestOptions.BadFlag)
  | unknownVerb (word : String)
deriving DecidableEq, Repr

namespace Command

/-- The command of a verb with the arguments behind it. Arguments that are not needed are left out
of account. -/
def ofVerb (verb : Verb) (arguments : List String) : Except UsageError Command :=
  match verb, arguments with
  | .lex, selector :: _ => .ok (lex selector)
  | .check, selector :: _ => .ok (check selector)
  | .suggest, name :: argument :: arguments =>
    match SuggestOptions.ofArguments {} (argument :: arguments) with
    | .ok (options, candidates) => .ok (suggest name candidates options)
    | .error bad => .error (.badFlag bad)
  | .explain, code :: _ => .ok (explain code)
  | verb, _ => .error (.missingArguments verb)

def helpWords : List String := ["help", "--help", "-h"]

def versionWords : List String := ["version", "--version", "-V"]

/-- Reads a command line. The empty one asks for help. -/
def parse : List String → Except UsageError Command
  | [] => .ok help
  | word :: arguments =>
    if helpWords.contains word then .ok help
    else if versionWords.contains word then .ok version
    else
      match Verb.ofWord? word with
      | some verb => ofVerb verb arguments
      | none => .error (.unknownVerb word)

end Command

/-- What a run of the program leaves behind. -/
structure Outcome where
  exitCode : Nat := 0
  output : String := ""
  errors : String := ""
deriving DecidableEq, Repr

def usage : String := Text.unlines [
  "mdsel - document selector toolkit",
  "",
  "Usage: mdsel <command> [options]",
  "",
  "Commands:",
  "  lex <selector>                  Tokenize a selector and display tokens",
  "  check <selector>                Validate a selector (fails on the first error)",
  "  suggest <name> <candidate>...   Rank candidates by edit distance",
  "  explain <code>                  Explain an error code (e.g., E0001)",
  "  help                            Show this help message",
  "  version                         Show version information",
  "",
  "Suggest options:",
  "  --max=<n>          Show at most n suggestions (default: 3)",
  "  --threshold=<n>    Maximum edit distance (default: from name length)",
  "",
  "Examples:",
  "  mdsel lex 'namespace::heading:h2[1]'",
  "  mdsel check 'block:code[0]?lang=ts'",
  "  mdsel suggest instalation installation usage configuration",
  "",
  "Set RUST_LOG=debug (or mdsel_lexer=trace) for diagnostics on stderr."]

def Verb.usage : Verb → String
  | lex => Text.unlines ["Usage: mdsel lex <selector>"]
  | check => Text.unlines ["Usage: mdsel check <selector>"]
  | suggest => Text.unlines [
      "Usage: mdsel suggest <name> <candidate>... [options]",
      "",
      "Options:",
      "  --max=<n>         Show at most n suggestions (default: 3)",
      "  --threshold=<n>   Maximum edit distance (default: from name length)"]
  | explain => Text.unlines [
      "Usage: mdsel explain <ERROR_CODE>",
      "Example: mdsel explain E0001"]

namespace Outcome

/-- A report on the standard output. -/
def ofReport (report : Report) : Outcome where
  exitCode := if report.success then 0 else 1
  output := report.text

/-- A text on the error output of a run that failed. -/
def failure (text : String) : Outcome where
  exitCode := 1
  errors := text

end Outcome

def Command.run : Command → Outcome
  | lex selector => { output := listing selector }
  | check selector =>
    let report := checkReport selector
    if report.success then .ofReport report else .failure report.text
  | suggest name candidates options => .ofReport (suggestionsReport name candidates options)
  | explain code =>
    let report := explanationReport code
    if report.success then .ofReport report else .failure (Text.unlines [report.text])
  | help => { output := usage }
  | version => { output := Text.unlines ["mdsel 0.1.0"] }

/-- The outcome of a command line that cannot be understood. -/
def UsageError.outcome : UsageError → Outcome
  | missingArguments verb => .failure verb.usage
  | badFlag bad => .failure (Text.unlines [toString bad])
  | unknownVerb word =>
    { exitCode := 1, output := usage, errors := Text.unlines [s!"Unknown command: {word}", ""] }

/-- The outcome of the program for the words of its command line. -/
def runCommandLine (arguments : List String) : Outcome :=
  match Command.parse arguments with
  | .ok command => command.run
  | .error e => e.outcome

end DocSelector
