/-!
# Arguments of a command

A call names one command, with its operands, and may set options. Options that concern the whole
program may stand before or after the command, at most once on each side, and the side behind the
command wins. `Invocation.parse` reads the arguments of a call, or says how it was misused: most
misuse is answered with the usage, a value that cannot be read with a message of its own.
-/

namespace SourceLedger

/-- What the program is asked to do. -/
inductive Command where
  | ingest (files : List String)
  | verify (file : String)
  | components (file : String) (version : Option Nat)
  | drift (file : String) (version : Option Nat)
  | versions (file : String)
  | history (file qualifiedName : String)
  | stats
  deriving DecidableEq, Repr, Inhabited

/-- A call of the program. -/
structure Invocation where
  workspace : Option String
  database : Option String
  json : Bool
  command : Command
  deriving DecidableEq, Repr, Inhabited

/-- The words that name commands. -/
inductive Verb where
  | ingest
  | verify
  | components
  | drift
  | versions
  | history
  | stats
  deriving DecidableEq, Repr, Inhabited

namespace Verb

/-- All words. -/
def all : List Verb :=
  [ingest, verify, components, drift, versions, history, stats]

/-- The word itself. -/
def name : Verb → String
  | ingest => "ingest"
  | verify => "verify"
  | components => "components"
  | drift => "drift"
  | versions => "versions"
  | history => "history"
  | stats => "stats"

/-- Reads a word. -/
def ofName? (text : String) : Option Verb :=
  all.find? (·.name == text)

/-- Whether the command can be about a version that is not the latest. -/
def takesVersion : Verb → Bool
  | components | drift => true
  | _ => false

/-- The largest number of operands; there is none for files to ingest. -/
def maxOperands? : Verb → Option Nat
  | ingest => none
  | history => some 2
  | stats => some 0
  | _ => some 1

end Verb

/-- How a call is misused, or what it asks for instead of a command. -/
inductive Misuse where
  /-- The call does not fit the usage. -/
  | usage
  /-- A value cannot be read. -/
  | value (reason : String)
  | askedForHelp
  /-- The version of the program is asked for, behind a command or before any. -/
  | askedForVersion (behind : Option Verb)
  deriving DecidableEq, Repr

/-- An option. -/
inductive Flag where
  | workspace
  | database
  | json
  | verbose
  | version
  | help
  deriving DecidableEq, Repr, Inhabited

namespace Flag

/-- The option with a long name. -/
def ofLong? : String → Option Flag
  | "workspace" => some workspace
  | "database" => some database
  | "json" => some json
  | "verbose" => some verbose
  | "version" => some version
  | "help" => some help
  | _ => none

/-- The option with a letter. A letter never stands for the number of a version. -/
def ofLetter? : Char → Option Flag
  | 'w' => some workspace
  | 'v' => some verbose
  | 'V' => some version
  | 'h' => some help
  | _ => none

/-- How a value is called in messages. -/
def valueName : Flag → String
  | workspace => "--workspace <WORKSPACE>"
  | database => "--database <DATABASE>"
  | _ => "--version <VERSION>"

end Flag

/-- The options on one side of the command. -/
structure SideOptions where
  workspace : Option String := none
  database : Option String := none
  json : Bool := false
  deriving DecidableEq, Repr, Inhabited

/-- What was read of a call so far. -/
structure ArgumentState where
  verb : Option Verb := none
  before : SideOptions := {}
  behind : SideOptions := {}
  /-- The operands, last one first. -/
  operands : List String := []
  version : Option Nat := none
  deriving DecidableEq, Repr, Inhabited

/-- The complaint about a value that is not there. -/
def Misuse.noValue (name : String) : Misuse :=
  .value s!"a value is required for '{name}' but none was supplied"

/-- Reads a version number, which has to fit in 32 bits. -/
def parseVersion (text : String) : Except Misuse Nat :=
  let refuse (reason : String) : Except Misuse Nat :=
    .error (.value s!"invalid value '{text}' for '{Flag.valueName .version}': {reason}")
  let (negative, digits) := match text.toList with
    | '-' :: digits => (true, digits)
    | '+' :: digits => (false, digits)
    | digits => (false, digits)
  if text.isEmpty then refuse "cannot parse integer from empty string"
  else if digits.isEmpty || !digits.all Char.isDigit then refuse "invalid digit found in string"
  else
    let size := digits.foldl (fun value c => 10 * value + (c.toNat - '0'.toNat)) 0
    if negative && Nat.pow 2 63 < size then refuse "number too small to fit in target type"
    else if !negative && Nat.pow 2 63 ≤ size then refuse "number too large to fit in target type"
    else if negative && 0 < size then refuse s!"-{size} is not in 0..=4294967295"
    else if Nat.pow 2 32 ≤ size then refuse s!"{size} is not in 0..=4294967295"
    else .ok size

namespace ArgumentState

variable (state : ArgumentState)

/-- The options on the present side of the command. -/
def side : SideOptions :=
  if state.verb.isSome then state.behind else state.before

/-- The state with other options on the present side. -/
def withSide (options : SideOptions) : ArgumentState :=
  if state.verb.isSome then { state with behind := options } else { state with before := options }

/-- Whether an option wants a value. -/
def wantsValue (flag : Flag) : Bool :=
  match flag with
  | .workspace | .database => true
  | .version => state.verb.any Verb.takesVersion
  | _ => false

/-- Takes over an option without value. -/
def raise (flag : Flag) : Except Misuse ArgumentState :=
  match flag with
  | .json =>
    if state.side.json then .error .usage else .ok (state.withSide { state.side with json := true })
  | .verbose => .ok state
  | .help => .error .askedForHelp
  | .version => .error (.askedForVersion state.verb)
  | _ => .error .usage

/-- Takes over the value of an option. -/
def give (flag : Flag) (value : String) : Except Misuse ArgumentState :=
  match flag with
  | .workspace =>
    if state.side.workspace.isSome then .error .usage
    else if value.isEmpty then .error (.noValue flag.valueName)
    else .ok (state.withSide { state.side with workspace := some value })
  | .database =>
    if state.side.database.isSome then .error .usage
    else if value.isEmpty then .error (.noValue flag.valueName)
    else .ok (state.withSide { state.side with database := some value })
  | .version => do
    if state.version.isSome then .error .usage
    else return { state with version := some (← parseVersion value) }
  | _ => .error .usage

/-- Takes over an operand. Files are not empty. -/
def addOperand (verb : Verb) (operand : String) : Except Misuse ArgumentState :=
  if verb.maxOperands?.any (· ≤ state.operands.length) then .error .usage
  else if operand.isEmpty && (verb ≠ .history || state.operands.isEmpty) then
    .error (.noValue (if verb = .ingest then "<FILES>..." else "<FILE>"))
  else .ok { state with operands := operand :: state.operands }

/-- Takes over a word that is no option: the command first, operands after it. -/
def addWord (word : String) : Except Misuse ArgumentState :=
  match state.verb with
  | some verb => state.addOperand verb word
  | none =>
    match Verb.ofName? word with
    | some verb => .ok { state with verb := some verb }
    | none => .error .usage

/-- Takes over the letters behind a dash, and says which option still wants a value. A value may
follow its letter directly. -/
def addLetters (state : ArgumentState) :
    List Char → Except Misuse (ArgumentState × Option Flag)
  | [] => .ok (state, none)
  | letter :: rest =>
    match Flag.ofLetter? letter with
    | none => .error .usage
    | some .workspace =>
      match rest with
      | [] => .ok (state, some .workspace)
      | '=' :: value => (state.give .workspace (String.ofList value)).map (·, none)
      | value => (state.give .workspace (String.ofList value)).map (·, none)
    | some flag =>
      match state.raise flag with
      | .ok state => addLetters state rest
      | .error misuse => .error misuse

/-- Takes over an option with a long name, and says whether it still wants a value. A value may
follow an equals sign. -/
def addLong (body : List Char) : Except Misuse (ArgumentState × Option Flag) :=
  let name := String.ofList (body.takeWhile (· ≠ '='))
  match Flag.ofLong? name, body.dropWhile (· ≠ '=') with
  | none, _ => .error .usage
  | some flag, [] =>
    if state.wantsValue flag then .ok (state, some flag) else (state.raise flag).map (·, none)
  | some flag, _ :: value =>
    if state.wantsValue flag then (state.give flag (String.ofList value)).map (·, none)
    else .error .usage

/-- Takes over one word of a call, and says which option still wants a value. -/
def add (word : String) : Except Misuse (ArgumentState × Option Flag) :=
  match word.toList with
  | '-' :: '-' :: body => state.addLong body
  | '-' :: letter :: letters => state.addLetters (letter :: letters)
  | _ => (state.addWord word).map (·, none)

/-- Whether a word is an option. -/
def isOption (word : String) : Bool :=
  match word.toList with
  | '-' :: _ :: _ => true
  | _ => false

/-- Takes over operands behind a double dash. -/
def addOperands (state : ArgumentState) : List String → Except Misuse ArgumentState
  | [] => .ok state
  | word :: rest =>
    match state.verb with
    | some verb => do (← state.addOperand verb word).addOperands rest
    | none => .error .usage

/-- What the words behind a request for help come to: they may name one command, or help itself. -/
def helpOn : List String → Misuse
  | [] => .askedForHelp
  | [word] => if word = "help" || (Verb.ofName? word).isSome then .askedForHelp else .usage
  | _ => .usage

/-- Reads the words of a call. `pending` is an option whose value has to come next. -/
def readAll (state : ArgumentState) (pending : Option Flag) :
    List String → Except Misuse ArgumentState
  | [] =>
    match pending with
    | some flag => .error (.noValue flag.valueName)
    | none => .ok state
  | word :: rest =>
    match pending with
    | some flag =>
      if isOption word then
        match state.add word with
        | .error .usage => .error .usage
        | _ => .error (.noValue flag.valueName)
      else
        match state.give flag word with
        | .ok state => readAll state none rest
        | .error misuse => .error misuse
    | none =>
      if word = "--" then state.addOperands rest
      else if word = "help" && state.verb.isNone then .error (helpOn rest)
      else
        match state.add word with
        | .ok (state, pending) => readAll state pending rest
        | .error misuse => .error misuse

/-- The command of a call that was read to the end. -/
def command? : Option Command :=
  match state.verb, state.operands.reverse with
  | some .ingest, first :: rest => some (.ingest (first :: rest))
  | some .verify, [file] => some (.verify file)
  | some .components, [file] => some (.components file state.version)
  | some .drift, [file] => some (.drift file state.version)
  | some .versions, [file] => some (.versions file)
  | some .history, [file, name] => some (.history file name)
  | some .stats, [] => some .stats
  | _, _ => none

end ArgumentState

/-- Reads the arguments of a call. -/
def Invocation.parse (arguments : List String) : Except Misuse Invocation := do
  let state ← ArgumentState.readAll {} none arguments
  match state.command? with
  | some command =>
    return {
      workspace := state.behind.workspace <|> state.before.workspace
      database := state.behind.database <|> state.before.database
      json := state.before.json || state.behind.json
      command }
  | none => .error .usage

end SourceLedger
