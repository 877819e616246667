import LineControl.Control.Session

/-!
# The command line

A file is listed, or run on the box if a port is named. The words are first told apart (options,
values, the two dashes after which everything is a value), then taken from left to right; what
nothing takes is left over and refused at the end.
-/

set_option autoImplicit false

namespace LineControl.CommandLine

/-- The options. -/
inductive Flag where
  | help
  | file
  | port
deriving DecidableEq

/-- The spellings of the options. -/
def spellings : List (String × Flag) :=
  [("-h", .help), ("--help", .help), ("-f", .file), ("--file", .file), ("-s", .port),
    ("--serial-port", .port)]

/-- The option with that spelling. -/
def spelled? (cs : List Char) : Option Flag :=
  (spellings.find? fun (spelling, _) => spelling.toList == cs).map (·.2)

/-- How messages name an option. -/
def Flag.name : Flag → String
  | .help => "-h/--help"
  | .file => "-f/--file"
  | .port => "-s/--serial-port"

/-- What a word of the command line is. -/
inductive Word where
  /-- A value, for an option or for nothing. -/
  | value
  /-- The two dashes after which there are only values. -/
  | dashes
  /-- An option, in its long or its short spelling, perhaps with a text attached. -/
  | flag (flag : Flag) (long : Bool) (attached : Option (List Char))
  /-- A word that looks like an option but is none. -/
  | stranger
deriving DecidableEq

/-- Why a command line is refused. -/
inductive UsageFault where
  | ambiguous (word : String) (candidates : List String)
  | valueExpected (flag : Flag)
  | valueRefused (flag : Flag) (text : List Char)
  | fileRequired
  | leftOver (words : List String)
deriving DecidableEq

/-- The wording of a fault. -/
def UsageFault.message : UsageFault → String
  | .ambiguous word candidates =>
    "ambiguous option: " ++ word ++ " could match " ++ ", ".intercalate candidates
  | .valueExpected flag => "argument " ++ flag.name ++ ": expected one argument"
  | .valueRefused flag text =>
    "argument " ++ flag.name ++ ": ignored explicit argument " ++ String.ofList (Text.quote text)
  | .fileRequired => "the following arguments are required: " ++ Flag.file.name
  | .leftOver words => "unrecognized arguments: " ++ " ".intercalate words

/-- Whether the text is a row of digits, perhaps with a point before the last of them. -/
def isUnsigned (cs : List Char) : Bool :=
  match cs.dropWhile Text.isDigit with
  | [] => !cs.isEmpty
  | '.' :: fraction => !fraction.isEmpty && fraction.all Text.isDigit
  | _ => false

/-- Whether the word is a negative number; a line end may follow it. -/
def isNegativeNumber (cs : List Char) : Bool :=
  match if cs.getLast? == some '\n' then cs.dropLast else cs with
  | '-' :: rest => isUnsigned rest
  | _ => false

/-- A word with a dash that is no option: negative numbers and texts with a blank are values. -/
def unspelled (cs : List Char) : Word :=
  if isNegativeNumber cs || cs.contains ' ' then .value else .stranger

/-- What a word is that starts with a dash but is not spelled like an option. A long option may be
cut short if that leaves one choice, and a short one may have its value attached. -/
def abbreviated (word : String) (cs name : List Char) (attached : Option (List Char)) :
    Except UsageFault Word :=
  if cs.take 2 == ['-', '-'] then
    match spellings.filter fun (spelling, _) => name.isPrefixOf spelling.toList with
    | [] => .ok (unspelled cs)
    | [(_, flag)] => .ok (.flag flag true attached)
    | several => .error (.ambiguous word (several.map (·.1)))
  else
    match spelled? (cs.take 2) with
    | some flag => .ok (.flag flag false (some (cs.drop 2)))
    | none => .ok (unspelled cs)

/-- What a word before the two dashes is. -/
def classify (word : String) : Except UsageFault Word :=
  let cs := word.toList
  let isLong := fun (cs : List Char) => cs.take 2 == ['-', '-']
  if cs.head? != some '-' || cs.length == 1 then .ok .value
  else
    match spelled? cs with
    | some flag => .ok (.flag flag (isLong cs) none)
    | none =>
      let name := cs.takeWhile (· != '=')
      match cs.dropWhile (· != '=') with
      | [] => abbreviated word cs name none
      | _ :: text =>
        match spelled? name with
        | some flag => .ok (.flag flag (isLong name) (some text))
        | none => abbreviated word cs name (some text)

/-- Tells the words apart. -/
def classifyAll : List String → Except UsageFault (List (String × Word))
  | [] => .ok []
  | word :: rest =>
    if word == "--" then .ok ((word, .dashes) :: rest.map (·, .value))
    else do
      let kind ← classify word
      return (word, kind) :: (← classifyAll rest)

/-- The value of an option: a text, or a list that was left empty. -/
inductive Value where
  | text (text : String)
  | emptyList
deriving DecidableEq

/-- The value in a text attached to an option. Two dashes are taken out, which leaves nothing. -/
def Value.ofAttached (attached : List Char) : Value :=
  if attached = ['-', '-'] then .emptyList else .text (String.ofList attached)

/-- How a value reads as a name. -/
def Value.name : Value → String
  | .text name => name
  | .emptyList => "[]"

/-- The values taken so far and the words that nothing took. -/
structure Taken where
  file : Option Value := none
  port : Option Value := none
  leftOver : List String := []

/-- Gives an option its value; the last value counts. -/
def Taken.put (taken : Taken) (flag : Flag) (value : Value) : Taken :=
  match flag with
  | .help => taken
  | .file => { taken with file := some value }
  | .port => { taken with port := some value }

/-- Accepts what is attached to the short spelling of the help option: more short options, the last
of which may have its value attached or need the one that follows. -/
def acceptCluster (valueFollows : Bool) : List Char → Except UsageFault Unit
  | [] => .error (.valueRefused .help [])
  | c :: rest =>
    match spelled? ['-', c], rest with
    | none, _ => .error (.valueRefused .help (c :: rest))
    | some .help, [] => .ok ()
    | some .help, _ => acceptCluster valueFollows rest
    | some flag, [] => if valueFollows then .ok () else .error (.valueExpected flag)
    | some _, _ => .ok ()

/-- Takes the words from left to right. There is no result if help is asked for. -/
def take : Taken → List (String × Word) → Except UsageFault (Option Taken)
  | taken, [] => .ok (some taken)
  | taken, (text, .value) :: rest | taken, (text, .dashes) :: rest
  | taken, (text, .stranger) :: rest =>
    take { taken with leftOver := taken.leftOver ++ [text] } rest
  | _, (_, .flag .help _ none) :: _ => .ok none
  | _, (_, .flag .help true (some attached)) :: _ =>
    .error (.valueRefused .help attached)
  | _, (_, .flag .help false (some attached)) :: rest =>
    (acceptCluster (rest.head?.any (·.2 == .value)) attached).map fun _ => none
  | taken, (_, .flag flag _ (some attached)) :: rest =>
    take (taken.put flag (.ofAttached attached)) rest
  | taken, (_, .flag flag _ none) :: (text, .value) :: rest =>
    take (taken.put flag (.text text)) rest
  | _, (_, .flag flag _ none) :: _ => .error (.valueExpected flag)

/-- What a command line asks for: help, or a file, to be run if a port is named. -/
inductive Invocation where
  | help
  | program (file : Value) (port : Option Value)
deriving DecidableEq

/-- Reads a command line. A missing file is noticed before words that are left over. -/
def parse (args : List String) : Except UsageFault Invocation := do
  match ← take {} (← classifyAll args) with
  | none => return .help
  | some taken =>
    match taken.file with
    | none => throw .fileRequired
    | some file =>
      if taken.leftOver.isEmpty then return .program file taken.port
      else throw (.leftOver taken.leftOver)

/-- The line that shows how the command is used. -/
def usage (command : String) : String :=
  "usage: " ++ command ++ " [-h] -f FILE [-s SERIAL_PORT]\n"

/-- The help. -/
def help (command : String) : String :=
  usage command ++
  "\nBRICK Lines\n\noptions:\n" ++
  "  -h, --help            show this help message and exit\n" ++
  "  -f FILE, --file FILE  Input file name\n" ++
  "  -s SERIAL_PORT, --serial-port SERIAL_PORT\n" ++
  "                        Name of serial device to Interface A; required to run\n" ++
  "                        a program on\n"

/-- What is shown when a command line is refused. -/
def refusal (command : String) (fault : UsageFault) : String :=
  usage command ++ command ++ ": error: " ++ fault.message ++ "\n"

/-- The exit code of a command line that is refused. -/
def refusedCode : Nat := 2

/-- What is done with a file: it is loaded and run on the port, or listed if there is none. -/
def script (limits : Limits) (file : Value) (port : Option Value) : ControlM Unit := do
  match file with
  | .text name => Control.load name (some .detect)
  | .emptyList => throw .noFileName
  match port with
  | some value =>
    Control.connect value.name
    Control.run limits
  | none => Control.display none false

/-- What a command leaves behind: its exit code or the fault that stopped it, what it wrote, and its
events. -/
structure Outcome where
  status : Except Fault Nat
  stdout : String := ""
  stderr : String := ""
  events : List Event := []

/-- Plays a script on a bench. -/
def Outcome.ofScript (bench : Bench) (action : ControlM Unit) : Outcome :=
  let report := Session.perform { bench := bench } action
  ⟨report.result.map fun _ => 0, report.output, "", report.events⟩

/-- Carries out a command line on a bench. -/
def execute (command : String) (args : List String) (bench : Bench) (screens : Nat) : Outcome :=
  match parse args with
  | .error fault => { status := .ok refusedCode, stderr := refusal command fault }
  | .ok .help => { status := .ok 0, stdout := help command }
  | .ok (.program file port) => .ofScript bench (script (bench.limits screens) file port)

end LineControl.CommandLine
