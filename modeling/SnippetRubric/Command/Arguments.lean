/-!
# Command line arguments

There are two commands: `check` takes a rubric, a root directory and an output format, `outline`
takes a file.  Options may stand in any order; a value follows its option as the next argument,
after an equals sign, or directly after a one-letter option.  An option with a value or a switch is
given at most once, only `-v` may be repeated.
-/

namespace SnippetRubric

/-- What is to be done. -/
inductive Command where
  | check (rubric : String) (root : Option String) (json : Bool)
  | outline (file : String)
deriving DecidableEq, Repr

/-- What a help text is about. -/
inductive HelpTopic where
  | program
  | check
  | outline
  | help
deriving DecidableEq, Repr

/-- What the arguments ask for. -/
inductive Invocation where
  | run (command : Command) (verbosity : Nat)
  | help (topic : HelpTopic)
  | version
  | misuse
deriving DecidableEq, Repr

namespace Invocation

/-- One argument, taken apart. -/
inductive Argument where
  /-- Two dashes on their own: options end here. -/
  | separator
  /-- Two dashes and a name, and what follows an equals sign. -/
  | long (name : String) (value : Option String)
  /-- One dash and letters. -/
  | short (letters : List Char)
  /-- Anything else. -/
  | word (text : String)
deriving DecidableEq, Repr

/-- Takes an argument apart. -/
def Argument.of (argument : String) : Argument :=
  match argument.toList with
  | ['-', '-'] => .separator
  | '-' :: '-' :: rest =>
      let name := rest.takeWhile (· != '=')
      match rest.drop name.length with
      | _ :: value => .long (String.ofList name) (some (String.ofList value))
      | [] => .long (String.ofList name) none
  | '-' :: c :: rest => .short (c :: rest)
  | _ => .word argument

/-- Whether an argument can be the value of the option before it. -/
def isValue (argument : String) : Bool :=
  match Argument.of argument with
  | .word text => !text.isEmpty
  | _ => false

/-- What a group of one-letter options asks for. -/
inductive Group where
  /-- Only switches; how often `-v` was among them. -/
  | switches (verbosity : Nat)
  /-- Switches, then `-r`, and what follows it in the group. -/
  | rubric (verbosity : Nat) (value : Option String)
  | help
  | version
  | unknown

/-- Reads a group of one-letter options; `-r` and `-V` are known only where they belong. -/
def Group.of (takesRubric tellsVersion : Bool) (verbosity : Nat) : List Char → Group
  | [] => .switches verbosity
  | 'v' :: rest => Group.of takesRubric tellsVersion (verbosity + 1) rest
  | 'h' :: _ => .help
  | 'V' :: _ => if tellsVersion then .version else .unknown
  | 'r' :: rest =>
      if takesRubric then
        match rest with
        | [] => .rubric verbosity none
        | '=' :: value => .rubric verbosity (some (String.ofList value))
        | value => .rubric verbosity (some (String.ofList value))
      else
        .unknown
  | _ => .unknown

/-- The options of `check` that have been read. -/
structure CheckOptions where
  rubric : Option String
  root : Option String
  json : Bool
  verbosity : Nat

namespace CheckOptions

/-- The options with a rubric; none when there is one already or the value is empty. -/
def setRubric (options : CheckOptions) (value : String) : Option CheckOptions :=
  if options.rubric.isSome || value.isEmpty then none
  else some { options with rubric := some value }

/-- The options with a root directory; none when there is one already or the value is empty. -/
def setRoot (options : CheckOptions) (value : String) : Option CheckOptions :=
  if options.root.isSome || value.isEmpty then none
  else some { options with root := some value }

/-- The command that complete options stand for. -/
def finish (options : CheckOptions) : Invocation :=
  match options.rubric with
  | some rubric => .run (.check rubric options.root options.json) options.verbosity
  | none => .misuse

end CheckOptions

/-- Reads what follows `check`. -/
def ofCheck (options : CheckOptions) : List String → Invocation
  | [] => options.finish
  | argument :: rest =>
      match Argument.of argument with
      | .separator => if rest.isEmpty then options.finish else .misuse
      | .word _ => .misuse
      | .long "verbose" none => ofCheck { options with verbosity := options.verbosity + 1 } rest
      | .long "help" none => .help .check
      | .long "json" none =>
          if options.json then .misuse else ofCheck { options with json := true } rest
      | .long "rubric" (some value) => proceed rest (options.setRubric value)
      | .long "root" (some value) => proceed rest (options.setRoot value)
      | .long "rubric" none => valued rest options.setRubric
      | .long "root" none => valued rest options.setRoot
      | .long _ _ => .misuse
      | .short letters =>
          match Group.of true false 0 letters with
          | .switches count => ofCheck { options with verbosity := options.verbosity + count } rest
          | .rubric count (some value) =>
              proceed rest
                ({ options with verbosity := options.verbosity + count }.setRubric value)
          | .rubric count none =>
              valued rest ({ options with verbosity := options.verbosity + count }.setRubric ·)
          | .help => .help .check
          | .version | .unknown => .misuse
where
  /-- Goes on with changed options. -/
  proceed (rest : List String) : Option CheckOptions → Invocation
    | some options => ofCheck options rest
    | none => .misuse
  /-- Takes the next argument as the value of an option. -/
  valued (rest : List String) (set : String → Option CheckOptions) : Invocation :=
    match rest with
    | value :: rest =>
        if isValue value then
          match set value with
          | some options => ofCheck options rest
          | none => .misuse
        else
          .misuse
    | [] => .misuse

/-- Reads what follows `outline`; after a separator everything is a word. -/
def ofOutline (file : Option String) (verbosity : Nat) (separated : Bool) :
    List String → Invocation
  | [] =>
      match file with
      | some file => .run (.outline file) verbosity
      | none => .misuse
  | argument :: rest =>
      match if separated then .word argument else Argument.of argument with
      | .separator => ofOutline file verbosity true rest
      | .word text =>
          if file.isSome || text.isEmpty then .misuse
          else ofOutline (some text) verbosity separated rest
      | .long "verbose" none => ofOutline file (verbosity + 1) separated rest
      | .long "help" none => .help .outline
      | .long _ _ => .misuse
      | .short letters =>
          match Group.of false false 0 letters with
          | .switches count => ofOutline file (verbosity + count) separated rest
          | .help => .help .outline
          | _ => .misuse

/-- Reads what follows `help`. -/
def ofHelp : List String → Invocation
  | [] => .help .program
  | ["check"] => .help .check
  | ["outline"] => .help .outline
  | ["help"] => .help .help
  | _ => .misuse

/-- Reads all arguments. -/
def ofArguments (verbosity : Nat) : List String → Invocation
  | [] => .misuse
  | argument :: rest =>
      match Argument.of argument with
      | .separator => .misuse
      | .word "check" => ofCheck ⟨none, none, false, verbosity⟩ rest
      | .word "outline" => ofOutline none verbosity false rest
      | .word "help" => ofHelp rest
      | .word _ => .misuse
      | .long "verbose" none => ofArguments (verbosity + 1) rest
      | .long "help" none => .help .program
      | .long "version" none => .version
      | .long _ _ => .misuse
      | .short letters =>
          match Group.of false true 0 letters with
          | .switches count => ofArguments (verbosity + count) rest
          | .help => .help .program
          | .version => .version
          | _ => .misuse

end Invocation
end SnippetRubric
