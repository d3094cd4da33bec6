import DocPages.Decimal.Read
import DocPages.Table
/-! # Arguments of a command line

A command line is a command and, in any order, options with their values: the value is the next
argument, or stands behind an equals sign in the same one.  No option may occur twice, and nothing
else may occur.  Hyphens and underscores in the name of an option are the same. -/
set_option autoImplicit false
namespace DocPages.Command

inductive Action
  | generate
  | list
  deriving DecidableEq

inductive Setting
  | page
  | config
  | outputDir
  deriving DecidableEq

inductive UsageError
  | noAction
  | unknownAction (name : String)
  | unknownOption (argument : String)
  | unexpectedArgument (argument : String)
  | missingValue (setting : Setting)
  | repeatedOption (setting : Setting)
  deriving DecidableEq

structure Arguments where
  action : Action
  values : Table Setting String

def Action.named? : String → Option Action
  | "generate" => some .generate
  | "list" => some .list
  | _ => none

def Action.settings : Action → List Setting
  | .generate => [.page, .config, .outputDir]
  | .list => [.config]

def Setting.option : Setting → String
  | .page => "--page"
  | .config => "--config"
  | .outputDir => "--output-dir"

def isNumber (s : String) : Bool :=
  (Decimal.readFloat s).isSome
    || (s.toList.getLast? == some 'j' && (Decimal.readFloat (String.ofList s.toList.dropLast)).isSome)

/-- An argument with a hyphen in front is taken for an option unless it is a number. -/
def looksLikeOption (argument : String) : Bool :=
  argument.toList.head? == some '-' && !isNumber argument

def splitOption (argument : String) : String × Option String :=
  let cs := argument.toList
  let name := cs.takeWhile (· ≠ '=')
  let name' := String.ofList (name.map fun c => if c = '_' then '-' else c)
  (name', if name.length < cs.length then some (String.ofList (cs.drop (name.length + 1))) else none)

def Action.setting? (action : Action) (name : String) : Option Setting :=
  action.settings.find? fun setting => setting.option == name

namespace Arguments

def give (a : Arguments) (setting : Setting) (value : String) : Except UsageError Arguments :=
  if a.values.contains setting then .error (.repeatedOption setting)
  else .ok { a with values := a.values.insert setting value }

def readOptions : Arguments → List String → Except UsageError Arguments
  | a, [] => .ok a
  | a, argument :: rest =>
    if argument = "--" then
      match rest with
      | [] => .ok a
      | extra :: _ => .error (.unexpectedArgument extra)
    else if !looksLikeOption argument then .error (.unexpectedArgument argument)
    else
      match a.action.setting? (splitOption argument).1, (splitOption argument).2 with
      | none, _ => .error (.unknownOption argument)
      | some setting, some value => do readOptions (← a.give setting value) rest
      | some setting, none =>
        match rest with
        | [] => .error (.missingValue setting)
        | value :: rest =>
          if looksLikeOption value then .error (.missingValue setting)
          else do readOptions (← a.give setting value) rest

def read : List String → Except UsageError Arguments
  | [] => .error .noAction
  | name :: rest =>
    match Action.named? name with
    | none => .error (.unknownAction name)
    | some action => readOptions ⟨action, .empty⟩ rest

end Arguments
end DocPages.Command
