import Enclosure.Text.Similarity

/-!
# Command-line arguments

Arguments are options, which start with a dash, and positional ones. A long option may have its
value behind an equals sign, a short one right behind its letter, and either in the next argument;
short options without a value may share a dash. Two dashes end the options.
-/

set_option autoImplicit false

namespace Enclosure

/-- An option of a command. -/
structure OptionSpec (α : Type) where
  key : α
  /-- Its long name, with the dashes. -/
  long : String
  /-- Its letter, if it has one. -/
  short : Option Char
  takesValue : Bool

/-- What is wrong with the form of arguments. -/
inductive ArgumentFault
  /-- There is no such option, but perhaps some with a similar name. -/
  | noSuchOption (name : String) (similar : List String)
  /-- An option has no value. -/
  | needsValue (name : String)
  /-- An option has a value that it does not take. -/
  | takesNoValue (name : String)
deriving DecidableEq

/-- Options with their values, in the order in which they were given, and the positional
arguments. -/
structure Arguments (α : Type) where
  options : List (α × Option String)
  positional : List String

namespace Arguments

variable {α : Type}

/-- Options in front of other arguments. -/
def withOptions (given : List (α × Option String)) (a : Arguments α) : Arguments α :=
  { a with options := given ++ a.options }

/-- A positional argument in front of other arguments. -/
def withPositional (arg : String) (a : Arguments α) : Arguments α :=
  { a with positional := arg :: a.positional }

section

variable [DecidableEq α]

/-- The last value given for an option. -/
def value? (a : Arguments α) (key : α) : Option String :=
  (a.options.reverse.find? fun o => o.1 = key).bind Prod.snd

/-- Whether an option was given. -/
def has (a : Arguments α) (key : α) : Bool :=
  a.options.any fun o => o.1 = key

/-- The options given, each once, in the order in which they first were. -/
def keys (a : Arguments α) : List α :=
  (a.options.map Prod.fst).eraseDups

end

/-- What the options in one argument are, and the option whose value is the next argument, with the
name by which it was given. -/
structure OneArgument (α : Type) where
  given : List (α × Option String)
  open? : Option (α × String)

/-- A long option, with its value if one is attached. -/
def readLong (spec : OptionSpec α) (name : String) (attached : Option String) :
    Except ArgumentFault (OneArgument α) :=
  match spec.takesValue, attached with
  | true, some v => .ok ⟨[(spec.key, some v)], none⟩
  | true, none => .ok ⟨[], some (spec.key, name)⟩
  | false, some _ => .error (.takesNoValue name)
  | false, none => .ok ⟨[(spec.key, none)], none⟩

/-- The short options behind one dash. -/
def readShort (specs : List (OptionSpec α)) : List Char → Except ArgumentFault (OneArgument α)
  | [] => .ok ⟨[], none⟩
  | c :: rest =>
    let name := String.ofList ['-', c]
    match specs.find? fun s => s.short = some c with
    | none => .error (.noSuchOption name [])
    | some spec =>
      if spec.takesValue then
        if rest.isEmpty then .ok ⟨[], some (spec.key, name)⟩
        else .ok ⟨[(spec.key, some (String.ofList rest))], none⟩
      else
        (readShort specs rest).map fun one => { one with given := (spec.key, none) :: one.given }

/-- The name in an argument, and the value behind an equals sign if there is one. -/
def splitValue (cs : List Char) : String × Option String :=
  match cs.dropWhile (· ≠ '=') with
  | [] => (String.ofList cs, none)
  | _ :: value => (String.ofList (cs.takeWhile (· ≠ '=')), some (String.ofList value))

/-- The fault of a long option that does not exist. -/
def unknownLong (specs : List (OptionSpec α)) (name : String) : ArgumentFault :=
  .noSuchOption name (Similarity.closest (specs.map OptionSpec.long) name)

/-- The options in one argument. -/
def readOption (specs : List (OptionSpec α)) (arg : String) :
    Except ArgumentFault (OneArgument α) :=
  let (name, attached) := splitValue arg.toList
  match specs.find? fun s => s.long = name with
  | some spec => readLong spec name attached
  | none =>
    match arg.toList with
    | '-' :: '-' :: _ => .error (unknownLong specs name)
    | _ :: letters => readShort specs letters
    | [] => .ok ⟨[], none⟩

/-- Whether an argument holds options. -/
def isOption (arg : String) : Bool :=
  match arg.toList with
  | '-' :: _ :: _ => true
  | _ => false

/-- Read arguments. Where options must come first, the first positional argument ends them. -/
def read (specs : List (OptionSpec α)) (optionsFirst : Bool) :
    List String → Except ArgumentFault (Arguments α)
  | [] => .ok ⟨[], []⟩
  | arg :: rest =>
    if arg = "--" then .ok ⟨[], rest⟩
    else if isOption arg then
      match readOption specs arg with
      | .error e => .error e
      | .ok ⟨given, none⟩ => (read specs optionsFirst rest).map (withOptions given)
      | .ok ⟨given, some (key, name)⟩ =>
        match rest with
        | [] => .error (.needsValue name)
        | v :: rest => (read specs optionsFirst rest).map (withOptions (given ++ [(key, some v)]))
    else if optionsFirst then .ok ⟨[], arg :: rest⟩
    else (read specs optionsFirst rest).map (withPositional arg)

end Arguments

end Enclosure
