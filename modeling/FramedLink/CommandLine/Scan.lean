set_option autoImplicit false
set_option relaxedAutoImplicit false

/-!
# Scanning the words of a command line

A command takes options and positional words. An option is introduced by two dashes and its
name, or by one dash and its letter; the value of an option follows as the next word, or is
attached to it. The word `--` ends the options. A word that names a subcommand, where the
command has any, hands the rest of the line over to that subcommand.

A value given as a word of its own is **settled late**: it is checked when the next option or
positional word turns up, or at the end. An attached value and a bare option are settled at
once. This decides which of several mistakes in a line is reported.

## Main definitions

* `FramedLink.CommandLine.Mistake` — what may be wrong with a command line.
* `FramedLink.CommandLine.Opt` — an option; `FramedLink.CommandLine.Shape` — what a command takes.
* `FramedLink.CommandLine.scan` — the reading of a line for one command.
-/

namespace FramedLink.CommandLine

/-- What may be wrong with a command line, together with the two requests that end it early. -/
inductive Mistake where
  /-- A value is not among those allowed, or is missing. -/
  | invalidValue
  /-- A value was refused, for this reason. -/
  | refusedValue (reason : String)
  | unknownArgument
  /-- An option was given twice. -/
  | repeated
  /-- A value is attached to an option that takes none. -/
  | excessValue
  | missingArgument
  | invalidSubcommand
  | missingSubcommand
  /-- Nothing was given at all. -/
  | nothingGiven
  /-- Help was asked for. -/
  | helpRequested
  /-- The version was asked for. -/
  | versionRequested
  deriving DecidableEq, Repr

/-- What an option does. -/
inductive Effect where
  /-- It takes a value, which the check may refuse. -/
  | value (check : String → Option Mistake)
  /-- It is on once it is given. -/
  | switch
  /-- It ends the reading of the line. -/
  | request (mistake : Mistake)

/-- An option. -/
structure Opt where
  /-- The name after two dashes. -/
  long : String
  /-- The letter after one dash. -/
  short : Option Char := none
  /-- What it does. -/
  effect : Effect

/-- What a command takes. -/
structure Shape where
  /-- The options. -/
  options : List Opt
  /-- The number of positional words. -/
  positionals : Nat := 0
  /-- The names of the subcommands. -/
  subcommands : List String := []

/-- An option that waits for its value, or for its value to be settled. -/
structure Pending where
  /-- The option. -/
  opt : Opt
  /-- Its value, if that has turned up. -/
  value : Option String

/-- What has been read so far. -/
structure Reading where
  /-- The options that are settled, with their values. -/
  given : List (String × String) := []
  /-- The option that is not settled yet. -/
  pending : Option Pending := none
  /-- The positional words. -/
  words : List String := []

namespace Reading

/-- The value of an option. -/
def value? (r : Reading) (long : String) : Option String := r.given.lookup long

/-- Is a switch on? -/
def isOn (r : Reading) (long : String) : Bool := (r.value? long).isSome

/-- Settle an option with its value. -/
def give (r : Reading) (opt : Opt) (value : String) : Except Mistake Reading :=
  if (r.value? opt.long).isSome then .error .repeated
  else
    match opt.effect with
    | .value check =>
      match check value with
      | some mistake => .error mistake
      | none => .ok { r with given := r.given ++ [(opt.long, value)] }
    | _ => .ok { r with given := r.given ++ [(opt.long, value)] }

/-- Settle the option that waits. -/
def settle (r : Reading) : Except Mistake Reading :=
  match r.pending with
  | none => .ok r
  | some ⟨_, none⟩ => .error .invalidValue
  | some ⟨opt, some value⟩ => { r with pending := none }.give opt value

/-- Does an option wait for the next word as its value? -/
def awaitsValue (r : Reading) : Bool :=
  match r.pending with
  | some ⟨_, none⟩ => true
  | _ => false

/-- Go on with an option and the value attached to it. -/
def takeOption (r : Reading) (opt : Opt) (attached : Option String) : Except Mistake Reading := do
  match opt.effect, attached with
  | .value _, some value => (← r.settle).give opt value
  | .value _, none => return { (← r.settle) with pending := some ⟨opt, none⟩ }
  | .switch, _ => (← r.settle).give opt ""
  | .request mistake, _ =>
    let _ ← r.settle
    throw mistake

end Reading

/-! ## Words -/

/-- What a word looks like. -/
inductive Word where
  /-- The end of the options. -/
  | escape
  /-- An option by its name, with the value attached after an equals sign. -/
  | long (name : String) (attached : Option String)
  /-- Options by their letters. -/
  | short (letters : List Char)
  | plain (text : String)
  deriving DecidableEq, Repr

/-- Tell the kinds of word apart. A dash alone is a plain word. -/
def Word.ofString (s : String) : Word :=
  match s.toList with
  | ['-', '-'] => .escape
  | '-' :: '-' :: rest =>
    let name := String.ofList (rest.takeWhile (· != '='))
    match rest.dropWhile (· != '=') with
    | [] => .long name none
    | _ :: value => .long name (some (String.ofList value))
  | '-' :: c :: rest => .short (c :: rest)
  | _ => .plain s

/-- Read options by their letters. What follows the letter of an option that takes a value is
its value, after an equals sign or not. -/
def readLetters (shape : Shape) (r : Reading) : List Char → Except Mistake Reading
  | [] => .ok r
  | c :: rest =>
    match shape.options.find? (·.short == some c) with
    | none => .error .unknownArgument
    | some opt =>
      match opt.effect with
      | .value _ =>
        match rest with
        | [] => r.takeOption opt none
        | '=' :: value => r.takeOption opt (some (String.ofList value))
        | value => r.takeOption opt (some (String.ofList value))
      | _ => do readLetters shape (← r.takeOption opt none) rest

/-- Read an option by its name. -/
def readName (shape : Shape) (r : Reading) (name : String) (attached : Option String) :
    Except Mistake Reading :=
  match shape.options.find? (·.long == name) with
  | none => .error .unknownArgument
  | some opt =>
    match opt.effect, attached with
    | .value _, _ => r.takeOption opt attached
    | _, none => r.takeOption opt none
    | _, some _ => .error .excessValue

/-- Take a positional word. One too many is an unknown argument, or an unknown subcommand where
the command has subcommands and the word does not name one. -/
def readPlain (shape : Shape) (r : Reading) (escaped : Bool) (text : String) :
    Except Mistake Reading :=
  if r.words.length < shape.positionals then do
    let r ← r.settle
    return { r with words := r.words ++ [text] }
  else if shape.subcommands.isEmpty then .error .unknownArgument
  else if escaped && shape.subcommands.contains text then .error .unknownArgument
  else .error .invalidSubcommand

/-! ## Lines -/

/-- The rest of a line that belongs to a subcommand. -/
structure Handover where
  /-- The name of the subcommand. -/
  name : String
  /-- The words after it. -/
  rest : List String
  deriving DecidableEq, Repr

/-- Read a line for one command, up to its end or to the name of a subcommand. After `escaped`,
every word is positional. The last option may be left unsettled. -/
def scan (shape : Shape) (escaped : Bool) (r : Reading) :
    List String → Except Mistake (Reading × Option Handover)
  | [] => .ok (r, none)
  | text :: rest =>
    if escaped then do scan shape true (← readPlain shape r true text) rest
    else if !r.awaitsValue && shape.subcommands.contains text then .ok (r, some ⟨text, rest⟩)
    else
      match Word.ofString text with
      | .escape => scan shape true r rest
      | .long name attached => do scan shape false (← readName shape r name attached) rest
      | .short letters => do scan shape false (← readLetters shape r letters) rest
      | .plain text =>
        match r.pending with
        | some ⟨opt, none⟩ => scan shape false { r with pending := some ⟨opt, some text⟩ } rest
        | _ => do scan shape false (← readPlain shape r false text) rest

end FramedLink.CommandLine
