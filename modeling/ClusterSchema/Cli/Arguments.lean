import ClusterSchema.Cli.Option

/-!
# Command line arguments

From the arguments to a command with its options.  A value may stand in the argument of its option,
behind `=` or, for an option with one dash, right behind the letter; otherwise it is the next
argument, which then must not look like an option.  A single dash looks like none.  After `--` every
argument is a plain word.
-/

namespace ClusterSchema.Cli

/-- Something that ends the reading of arguments at once. -/
inductive Halt where
  | usage (error : UsageError)
  | help
  | version
deriving DecidableEq, Repr

/-- What an argument looks like. -/
inductive Token where
  /-- Two dashes and nothing else. -/
  | escape
  | long (name : String) (value : Option String)
  /-- A letter behind one dash, with what follows it. -/
  | short (letter : Char) (rest : List Char)
  | word (text : String)
deriving DecidableEq, Repr

namespace Token

/-- An argument that starts with two dashes, given what follows them. -/
def ofLong (text : List Char) : Token :=
  match Text.cutAtFirst '=' text with
  | some (name, value) => long (String.ofList name) (some (String.ofList value))
  | none => long (String.ofList text) none

/-- What an argument looks like. -/
def ofArgument (argument : String) : Token :=
  match argument.toList with
  | ['-', '-'] => escape
  | '-' :: '-' :: rest => ofLong rest
  | '-' :: letter :: rest => short letter rest
  | _ => word argument

/-- The value that follows a letter, if there is one. -/
def attached? : List Char → Option String
  | [] => none
  | '=' :: rest => some (String.ofList rest)
  | rest => some (String.ofList rest)

end Token

/-- Where options are looked for. -/
inductive Place where
  /-- Before the name of the command, where the first word is that name. -/
  | beforeCommand
  /-- Behind the name of the command. -/
  | behindCommand
deriving DecidableEq, Repr

/-- What an argument asks for. -/
inductive Request where
  | setting (option : OptionName) (value : Option String)
  | halt (reason : Halt)
  | escape
  | word (text : String)
deriving DecidableEq, Repr

namespace Request

/-- What a long option asks for. -/
def ofLong (place : Place) (name : String) (value : Option String) : Request :=
  match OptionName.ofLong? name with
  | some option => .setting option value
  | none =>
    if name = "help" ∨ name = "version" ∧ place = .beforeCommand then
      if value.isSome then .halt (.usage (.surplusValue name))
      else .halt (if name = "help" then .help else .version)
    else .halt (.usage (.unknownOption name))

/-- What a letter asks for. -/
def ofShort (place : Place) (letter : Char) (rest : List Char) : Request :=
  match OptionName.ofLetter? letter with
  | some option => .setting option (Token.attached? rest)
  | none =>
    if letter = 'h' then .halt .help
    else if letter = 'V' ∧ place = .beforeCommand then .halt .version
    else .halt (.usage (.unknownOption (String.ofList [letter])))

/-- What an argument asks for. -/
def ofArgument (place : Place) (argument : String) : Request :=
  match Token.ofArgument argument with
  | .escape => .escape
  | .long name value => ofLong place name value
  | .short letter rest => ofShort place letter rest
  | .word text => .word text

end Request

/-- Reads options up to the name of the command or, behind it, to the end; `waiting` is an option
whose value is still to come, and `argument` the command's own argument if it has been met.  Yields
the options and the words: before the command its name and everything behind it, behind it the
arguments that are no options, of which a second one is refused where it stands. -/
def readOptions (place : Place) :
    List String → (waiting : Option OptionName) → (argument : Option String) → OptionValues →
      Except Halt (OptionValues × List String)
  | [], none, argument, values => .ok (values, argument.toList)
  | [], some option, _, _ => .error (.usage (.missingValue option))
  | text :: rest, some option, argument, values =>
    match Token.ofArgument text with
    | .word value =>
      match values.put option value with
      | .ok values => readOptions place rest none argument values
      | .error error => .error (.usage error)
    | _ => .error (.usage (.missingValue option))
  | text :: rest, none, argument, values =>
    match Request.ofArgument place text with
    | .setting option (some value) =>
      match values.put option value with
      | .ok values => readOptions place rest none argument values
      | .error error => .error (.usage error)
    | .setting option none => readOptions place rest (some option) argument values
    | .halt reason => .error reason
    | .escape =>
      match place with
      | .beforeCommand => .error (.usage .missingCommand)
      | .behindCommand => .ok (values, argument.toList ++ rest)
    | .word word =>
      match place, argument with
      | .beforeCommand, _ => .ok (values, word :: rest)
      | .behindCommand, none => readOptions place rest none (some word) values
      | .behindCommand, some _ => .error (.usage (.surplusArgument word))

/-- What the program is asked to do. -/
inductive Task where
  /-- To compile the commands of an input. -/
  | compile (input : String)
  /-- To list the tables of a database. -/
  | tables (database : String)
deriving DecidableEq, Repr

/-- A task with its options. -/
structure Invocation where
  options : OptionValues
  task : Task
deriving DecidableEq, Repr

namespace Invocation

/-- A command that takes one argument, given the options before it and what stands behind it. -/
def ofCommand (outer : OptionValues) (rest : List String) (argumentName : String)
    (task : String → Task) : Except Halt Invocation := do
  let (inner, words) ← readOptions .behindCommand rest none none {}
  match words with
  | [] => throw (.usage (.missingArgument argumentName))
  | [argument] => return { options := inner.overriding outer, task := task argument }
  | _ :: surplus :: _ => throw (.usage (.surplusArgument surplus))

/-- What asking for help comes to, given what help is wanted on. -/
def helpOn : List String → Halt
  | [] | ["compile"] | ["tables"] | ["help"] => .help
  | "compile" :: name :: _ | "tables" :: name :: _ | "help" :: name :: _ | name :: _ =>
    .usage (.unknownCommand name)

/-- The invocation that arguments describe. -/
def ofArguments (arguments : List String) : Except Halt Invocation := do
  let (outer, words) ← readOptions .beforeCommand arguments none none {}
  match words with
  | "compile" :: rest => ofCommand outer rest "FILE" .compile
  | "tables" :: rest => ofCommand outer rest "DATABASE" .tables
  | "help" :: rest => throw (helpOn rest)
  | name :: _ => throw (.usage (.unknownCommand name))
  | [] => throw (.usage .missingCommand)

end Invocation

end ClusterSchema.Cli
