import GatewayRegistry.CommandLine.Arguments

/-!
# Help

The help for the program and for each of its commands. It consists of tables, in which a subject is
explained beside its name, or below it where the table would become too wide. The full help differs
from the summary only where an option offers a choice whose items have something to say for
themselves: then every subject is explained below its name, in paragraphs.
-/

namespace GatewayRegistry
namespace Help

def programName : String := "jumpgate-terminal"

def version : String := "0.1.0-alpha.1"

def about : String := "Jumpgate terminal registry - gateway nodes, liveness and protocols"

/-! ### Columns -/

def padded (width : Nat) (text : String) : String :=
  text ++ String.ofList (List.replicate (width - Text.width text) ' ')

/-- A text all of whose lines but the first are moved to the right. -/
def indented (columns : Nat) (text : String) : String :=
  String.ofList <| text.toList.flatMap fun c =>
    if c = '\n' then c :: List.replicate columns ' ' else [c]

/-! ### Tables -/

/-- One row of a table. -/
structure Entry where
  /-- What is explained. Its names stand out. -/
  subject : String
  about : String := ""
  /-- Each item of a choice with what it means. -/
  choice : List (String × String) := []
  remarks : List String := []
  deriving DecidableEq, Repr

namespace Entry

/-- The remarks together with the one that names the items of the choice. -/
def allRemarks (e : Entry) : List String :=
  e.remarks ++
    if e.choice.isEmpty then [] else
      ["[possible values: " ++ ", ".intercalate (e.choice.map (·.1)) ++ "]"]

def line (e : Entry) : String :=
  " ".intercalate ((if e.about = "" then [] else [e.about]) ++ e.allRemarks)

/-- The number of columns of the explanation, without what separates the remarks from the rest. -/
def width (e : Entry) : Nat := Text.width e.about + Text.width (" ".intercalate e.allRemarks)

def choiceLines (e : Entry) : List String :=
  let width := (e.choice.map (·.1.length)).foldl max 0
  "Possible values:" :: e.choice.map fun (name, meaning) =>
    "- " ++ padded (width + 2) (name ++ ":") ++ meaning

/-- The explanation in paragraphs. -/
def paragraphs (e : Entry) : List (List String) :=
  (if e.about = "" then [] else [[e.about]]) ++
  (if e.choice.isEmpty then [] else [e.choiceLines]) ++
  (if e.remarks.isEmpty then [] else [e.remarks])

end Entry

/-- How a table is laid out. -/
inductive Layout where
  /-- The explanations form a column beside their subjects. -/
  | beside
  /-- Each explanation is on the line below its subject. -/
  | below
  /-- The explanations are below their subjects, in paragraphs. -/
  | paragraphs
  deriving DecidableEq, Repr

def pageWidth : Nat := 100

def subjectWidth (entries : List Entry) : Nat :=
  (entries.map fun e => Text.width e.subject).foldl max 0

/-- The column in which the explanations start that stand beside their subjects. -/
def explanationColumn (entries : List Entry) : Nat := subjectWidth entries + 4

/-- Whether the explanation of some subject would not fit beside a column of subjects that takes
more than two fifths of the page. -/
def isTooWide (entries : List Entry) : Bool :=
  let taken := explanationColumn entries
  taken ≤ pageWidth && 2 * pageWidth < 5 * taken &&
    entries.any fun e => pageWidth - taken < e.width

/-- The layout of a table. -/
def Layout.of (full : Bool) (entries : List Entry) : Layout :=
  if full then .paragraphs else if isTooWide entries then .below else .beside

/-- The column in which the explanations start that stand below their subjects. -/
def lowerColumn : Nat := 10

def lowerLine (text : String) : String := padded lowerColumn "" ++ indented lowerColumn text

def rows (entries : List Entry) : Layout → List String
  | .beside => entries.map fun e =>
    "  " ++ padded (subjectWidth entries) e.subject ++ "  " ++
      indented (explanationColumn entries) e.line
  | .below => entries.flatMap fun e => ["  " ++ e.subject, lowerLine e.line]
  | .paragraphs =>
    [""].intercalate <| entries.map fun e =>
      ("  " ++ e.subject) :: ([""].intercalate e.paragraphs).map lowerLine

def table (full : Bool) (heading : String) (entries : List Entry) : List String :=
  "" :: heading :: rows entries (.of full entries)

/-! ### What the tables hold -/

/-- The row of an option. -/
def optionEntry (env : Config.Environment) (o : OptionSpec) : Entry :=
  let key? := (Arguments.optionKeys.find? (·.1 == o.name)).map (·.2)
  { subject := "    " ++ Text.emphasized ("--" ++ o.name) ++ o.suffix
    about := o.help
    choice := if o.kind = .view then ListView.all.map fun v => (v.toText, v.help) else []
    remarks :=
      (key?.map fun key => "[env: " ++ key ++ "=" ++ (env key).getD "" ++ "]").toList ++
      (o.default.map fun text =>
        "[default: " ++ (if text = "" then "\"\"" else text) ++ "]").toList }

/-- The row of an option that has a short form too. -/
def shortEntry (short name about : String) : Entry where
  subject := Text.emphasized short ++ ", " ++ Text.emphasized name
  about := about

/-- The row of the option that asks for help. It points out that the other form of help says more,
or less, where that is so. -/
def helpEntry (differs full : Bool) : Entry :=
  shortEntry "-h" "--help" <| "Print help" ++
    if !differs then "" else if full then " (see a summary with '-h')"
    else " (see more with '--help')"

/-- The options of a command between the ones that can stand anywhere: first come both first ones,
in the order of their names, then both second ones, and so on. -/
def interleaved : List OptionSpec → List OptionSpec → List OptionSpec
  | [], os => os
  | os, [] => os
  | o :: os, p :: ps =>
    if o.name < p.name then o :: p :: interleaved os ps else p :: o :: interleaved os ps

/-- What the word that asks for help does. -/
def helpWordAbout : String := "Print this message or the help of the given subcommand(s)"

def ofProgram (env : Config.Environment) : List String :=
  let commands : List Entry :=
    CommandName.all.map (fun c => { subject := Text.emphasized c.toText, about := c.help }) ++
      [{ subject := Text.emphasized helpWord, about := helpWordAbout }]
  let options := globalOptions.map (optionEntry env) ++
    [helpEntry false false, shortEntry "-V" "--version" "Print version"]
  [about, "", "Usage: " ++ programName ++ " [OPTIONS] <COMMAND>"] ++
    table false "Commands:" commands ++ table false "Options:" options

def ofCommand (env : Config.Environment) (c : CommandName) (full : Bool) : List String :=
  let options := (interleaved globalOptions c.options).map (optionEntry env)
  let differs := options.any fun e => !e.choice.isEmpty
  let full := full && differs
  let argument? := c.argument?.map fun name => "<" ++ name ++ ">"
  [c.help, "", "Usage: " ++ programName ++ " " ++ c.toText ++ " [OPTIONS]" ++
      argument?.elim "" (" " ++ ·)] ++
    (argument?.elim [] fun shown => table full "Arguments:" [{ subject := shown }]) ++
    table full "Options:" (options ++ [helpEntry differs full])

def ofHelpWord : List String :=
  let argument := "[COMMAND]..."
  [helpWordAbout, "", "Usage: " ++ programName ++ " " ++ helpWord ++ " " ++ argument] ++
    table false "Arguments:" [{ subject := argument, about := "Print help for the subcommand(s)" }]

/-- The help for a topic, in full or as a summary. -/
def text (env : Config.Environment) (topic : HelpTopic) (full : Bool) : String :=
  Command.lines <| match topic with
    | .program => ofProgram env
    | .command c => ofCommand env c full
    | .help => ofHelpWord

end Help
end GatewayRegistry
