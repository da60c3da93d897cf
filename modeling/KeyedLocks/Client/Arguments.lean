/-
The command line of the client.

Arguments are taken from the left. An option takes its value from the rest of its
own argument, or from the next argument unless that looks like an option itself.
A value that comes as an argument of its own is only looked at when the next known
option, the key, or the end arrives, so an unknown option behind it is reported
first. A double dash ends the options.

The server can be named in front of the command and behind it; behind it counts.
-/
import KeyedLocks.Text.Digits
import KeyedLocks.Text.Terminal
import KeyedLocks.Lock.Response

set_option autoImplicit false

namespace KeyedLocks.Client

/-! ## What can be asked for -/

/-- A request as the command line describes it. -/
structure LockArgs where
  key : String
  kind : LockKind
  app : String
  thread : String
  identity : Int32
  duration : Option Int64
  unit : TimeUnit
  deriving DecidableEq, Repr

/-- The request that the arguments describe, issued at a moment. A unit without a
duration has no effect. -/
def LockArgs.toRequest (a : LockArgs) (issuedAt : UInt64) : Request :=
  { key := a.key, identity := a.identity, owner := ⟨a.app, a.thread⟩, kind := a.kind
    duration := a.duration.map fun magnitude => ⟨magnitude, a.unit⟩
    issuedAt }

/-- What the client is asked to do. -/
inductive Command where
  | act (op : Operation) (args : LockArgs)
  | status
  deriving DecidableEq, Repr

/-- The commands that there is help on. -/
inductive Topic where
  | client
  | act (op : Operation)
  | status
  | help
  deriving DecidableEq, Repr

/-- A command line that was understood. The server is given if an option named
it. -/
inductive Invocation where
  | run (server : Option String) (command : Command)
  | help (topic : Topic)
  deriving DecidableEq, Repr

/-! ## Options -/

/-- An option that takes a value. -/
inductive Opt where
  | server
  | kind
  | app
  | thread
  | identity
  | duration
  | unit
  deriving DecidableEq, Repr

namespace Opt

/-- The options of a command, the server's first. -/
def all : List Opt := [server, kind, app, thread, identity, duration, unit]

/-- The long name of an option. -/
def long : Opt → String
  | server => "server"
  | kind => "kind"
  | app => "app"
  | thread => "thread"
  | identity => "identity"
  | duration => "duration"
  | unit => "unit"

/-- The short name of an option. -/
def short : Opt → Char
  | server => 's'
  | kind => 'k'
  | app => 'a'
  | thread => 't'
  | identity => 'i'
  | duration => 'd'
  | unit => 'u'

/-- An option as messages show it, with its value in capitals. -/
def shown (o : Opt) : String :=
  "--" ++ o.long ++ " <" ++ String.ofList (o.long.toList.map Char.toUpper) ++ ">"

end Opt

/-! ## Mistakes -/

/-- A command line that was not understood. -/
inductive UsageError where
  | unexpected (arg : String)
  | unknownCommand (name : String)
  | noCommand
  | noKey
  | noValue (o : Opt)
  | repeated (o : Opt)
  | badValue (o : Opt) (value : String) (reason : String)
  | helpValue (value : String)
  deriving DecidableEq, Repr

/-- The parts of the message that tells of a mistake. Each part is set off from its
neighbours by its style, so a control sequence that one part leaves open does not
reach into the next. What was given on the command line is a part of its own. -/
def UsageError.parts : UsageError → List String
  | .unexpected arg => ["error:", " unexpected argument '", arg, "' found"]
  | .unknownCommand name => ["error:", " unrecognized subcommand '", name, "'"]
  | .noCommand =>
    ["error:", " '", "easylock", "' requires a subcommand but one was not provided"]
  | .noKey => ["error:", " the following required arguments were not provided:"]
  | .noValue o =>
    ["error:", " a value is required for '", o.shown, "' but none was supplied"]
  | .repeated o =>
    ["error:", " the argument '", o.shown, "' cannot be used multiple times"]
  | .badValue o value reason =>
    ["error:", " invalid value '", value, "' for '", o.shown, "': " ++ reason]
  | .helpValue value =>
    ["error:", " unexpected value '", value, "' for '", "--help",
      "' found; no more were expected"]

/-- Parts with a hint at the help behind them. The hint is in the style of the last
part. -/
def withHint : List String → List String
  | [] => ["\n\nFor more information, try '", "--help", "'.\n"]
  | [last] => [last ++ "\n\nFor more information, try '", "--help", "'.\n"]
  | part :: next :: more => part :: withHint (next :: more)

/-- The message that tells of a mistake, without control sequences. -/
def UsageError.message (e : UsageError) : String :=
  String.ofList ((withHint e.parts).flatMap fun part => Text.Terminal.visible part.toList)

/-! ## Values -/

/-- What the options have given so far. -/
structure Draft where
  server : Option String := none
  key : Option String := none
  kind : Option LockKind := none
  app : Option String := none
  thread : Option String := none
  identity : Option Int32 := none
  duration : Option Int64 := none
  unit : Option TimeUnit := none

/-- A whole number as an option's value. -/
def readNumber (o : Opt) (value : String) : Except UsageError Int :=
  match Text.readInteger (.signed 64) value.toList with
  | .ok i => .ok i
  | .error fault => .error (.badValue o value fault.message)

/-- An identity: a number that fits 32 bits with a sign. -/
def readIdentity (value : String) : Except UsageError Int32 := do
  let i ← readNumber .identity value
  if (Text.Bounds.signed 32).contains i then return Int32.ofInt i
  else
    .error (.badValue .identity value (toString i ++ " is not in -2147483648..=2147483647"))

/-- Puts a value where there is none yet. -/
def fill {α : Type} (o : Opt) (old : Option α) (new : Except UsageError α) :
    Except UsageError (Option α) :=
  match old with
  -- That an option is repeated is told before a bad value is.
  | some _ => .error (.repeated o)
  | none => new.map some

/-- An option takes its value. -/
def Draft.accept (d : Draft) (o : Opt) (value : String) : Except UsageError Draft :=
  match o with
  | .server => do return { d with server := ← fill o d.server (.ok value) }
  | .kind => do
    let kind :=
      match LockKind.ofName? value with
      | some k => .ok k
      | none => .error (.badValue o value (LockKind.unknownMessage value))
    return { d with kind := ← fill o d.kind kind }
  | .app => do return { d with app := ← fill o d.app (.ok value) }
  | .thread => do return { d with thread := ← fill o d.thread (.ok value) }
  | .identity => do return { d with identity := ← fill o d.identity (readIdentity value) }
  | .duration => do
    let duration := (readNumber o value).map Int64.ofInt
    return { d with duration := ← fill o d.duration duration }
  | .unit => do
    let unit :=
      match TimeUnit.ofName? value with
      | some u => .ok u
      | none => .error (.badValue o value (TimeUnit.unknownMessage value))
    return { d with unit := ← fill o d.unit unit }

/-! ## One argument at a time -/

/-- The option that was seen last, and its value if that has come. -/
abbrev Pending : Type := Option (Opt × Option String)

/-- A pending option is settled. -/
def settle (d : Draft) : Pending → Except UsageError Draft
  | none => .ok d
  -- The next argument came before its value did.
  | some (o, none) => .error (.noValue o)
  | some (o, some value) => d.accept o value

/-- What an argument turns out to be: an option with its value, an option that waits
for one, a call for help, or no option at all. -/
inductive Seen where
  | withValue (o : Opt) (value : String)
  | alone (o : Opt)
  | help
  | helpWith (value : String)
  | unknown (shown : String)
  | plain

/-- A long option, after its two dashes. -/
def readLong (known : List Opt) (cs : List Char) : Seen :=
  let name := String.ofList (cs.takeWhile (· != '='))
  let value : Option String :=
    match cs.dropWhile (· != '=') with
    | [] => none
    | _ :: rest => some (String.ofList rest)
  match known.find? fun o => o.long == name with
  | some o =>
    match value with
    | some v => .withValue o v
    | none => .alone o
  | none =>
    if name = "help" then
      match value with
      | some v => .helpWith v
      | none => .help
    else .unknown ("--" ++ name)

/-- A short option, after its dash. -/
def readShort (known : List Opt) (c : Char) (rest : List Char) : Seen :=
  match known.find? fun o => o.short == c with
  | some o =>
    match rest with
    | [] => .alone o
    | '=' :: value => .withValue o (String.ofList value)
    | value => .withValue o (String.ofList value)
  | none => if c = 'h' then .help else .unknown ("-" ++ String.ofList [c])

/-- What an argument is. A dash alone is no option. -/
def readArgument (known : List Opt) (arg : String) : Seen :=
  match arg.toList with
  | '-' :: '-' :: cs => readLong known cs
  | '-' :: c :: rest => readShort known c rest
  | _ => .plain

/-! ## Commands -/

/-- What is left after the arguments were taken one by one: all that was given, or
a call for help. -/
inductive Taken where
  | all (d : Draft)
  | help

/-- An argument that is no option: the key, if the command has one. -/
def takePlain (hasKey : Bool) (d : Draft) (pending : Pending) (arg : String) :
    Except UsageError Draft :=
  if hasKey && d.key.isNone then do
    let d ← settle d pending
    return { d with key := some arg }
  else .error (.unexpected arg)

/-- The arguments behind a command. -/
def takeArguments (known : List Opt) (hasKey : Bool) (d : Draft) (pending : Pending)
    (ended : Bool) : List String → Except UsageError Taken
  | [] => (settle d pending).map .all
  | arg :: rest =>
    if ended then do
      takeArguments known hasKey (← takePlain hasKey d pending arg) none true rest
    else if arg = "--" then takeArguments known hasKey d pending true rest
    else
      match readArgument known arg with
      | .withValue o value => do
        let d ← settle d pending
        takeArguments known hasKey (← d.accept o value) none false rest
      | .alone o => do
        -- Its value may still come, so a bad one is not noticed yet.
        takeArguments known hasKey (← settle d pending) (some (o, none)) false rest
      | .help => (settle d pending).map fun _ => .help
      | .helpWith value => .error (.helpValue value)
      -- An unknown option hides what is wrong with the pending one.
      | .unknown shown => .error (.unexpected shown)
      | .plain =>
        match pending with
        | some (o, none) => takeArguments known hasKey d (some (o, some arg)) false rest
        | _ => do
          takeArguments known hasKey (← takePlain hasKey d pending arg) none false rest

/-- The request that a finished draft describes. -/
def Draft.toLockArgs (d : Draft) : Except UsageError LockArgs :=
  match d.key with
  | none => .error .noKey
  | some key =>
    .ok
      { key, kind := d.kind.getD .simple, app := d.app.getD "easylock-cli"
        thread := d.thread.getD "main", identity := d.identity.getD 0
        duration := d.duration, unit := d.unit.getD .seconds }

/-- The name of a command. -/
def commandName : Operation → String
  | .tryLock => "try-lock"
  | .lock => "lock"
  | .unlock => "unlock"

/-- The topic of a command's name. -/
def topicOf? (name : String) : Option Topic :=
  if name = "status" then some .status
  else if name = "help" then some .help
  else (Operation.all.find? fun op => commandName op == name).map .act

/-- The arguments behind the name of a command, with what was given in front. -/
def takeCommand (topic : Topic) (args : List String) :
    Except UsageError (Topic ⊕ Option String × Command) :=
  match topic with
  | .act op => do
    match ← takeArguments Opt.all true {} none false args with
    | .help => return .inl topic
    | .all d => return .inr (d.server, .act op (← d.toLockArgs))
  | _ => do
    match ← takeArguments [.server] false {} none false args with
    | .help => return .inl topic
    | .all d => return .inr (d.server, .status)

/-- The topic that help is asked on. -/
def takeHelp : Topic → List String → Except UsageError Topic
  | topic, [] => .ok topic
  | .client, name :: rest =>
    match topicOf? name with
    | some topic => takeHelp topic rest
    | none => .error (.unknownCommand name)
  | _, name :: _ => .error (.unknownCommand name)

/-- A command whose arguments are taken is settled with what stood in front of it. -/
def finish (d : Draft) (pending : Pending) (topic : Topic) (args : List String) :
    Except UsageError Invocation := do
  match ← takeCommand topic args with
  | .inl topic => return .help topic
  | .inr (server, command) =>
    -- Only now does it matter whether the option in front has a value.
    let d ← settle d pending
    return .run (server <|> d.server) command

/-- The arguments in front of a command, and the command. -/
def takeFront (d : Draft) (pending : Pending) (ended : Bool) :
    List String → Except UsageError Invocation
  | [] => do
    let _ ← settle d pending
    .error .noCommand
  | arg :: rest =>
    if ended then
      .error (if (topicOf? arg).isSome then .unexpected arg else .unknownCommand arg)
    else
      let waits :=
        match pending with
        | some (_, none) => true
        | _ => false
      -- Behind an option that waits for its value the name of a command is that value.
      match if waits then none else topicOf? arg with
      | some .help => (takeHelp .client rest).map .help
      | some topic => finish d pending topic rest
      | none =>
        if arg = "--" then takeFront d pending true rest
        else
          match readArgument [.server] arg with
          | .withValue o value => do
            let d ← settle d pending
            takeFront (← d.accept o value) none false rest
          | .alone o => do takeFront (← settle d pending) (some (o, none)) false rest
          | .help => (settle d pending).map fun _ => .help .client
          | .helpWith value => .error (.helpValue value)
          | .unknown shown => .error (.unexpected shown)
          | .plain =>
            match pending with
            | some (o, none) => takeFront d (some (o, some arg)) false rest
            | _ => .error (.unknownCommand arg)

/-- A command line, without the name of the program. -/
def parseArguments (args : List String) : Except UsageError Invocation :=
  takeFront {} none false args

/-- The option names are told apart. -/
theorem Opt.long_injective {o p : Opt} (h : o.long = p.long) : o = p := by
  revert h
  cases o <;> cases p <;> decide

end KeyedLocks.Client
