import Telemetry.Number.Numeral
import Telemetry.Number.Whole

/-! # Arguments of the command line

One bare word is the command; options may stand before and after it. Some options take the next
argument for their value, unless it is empty or starts with two hyphens. Empty arguments between
options are skipped. All errors are collected.
-/
namespace Telemetry.Command

/-- The options that take a value. -/
inductive Setting where
  | logLevel | port | host
  deriving DecidableEq

namespace Setting

def token : Setting → String
  | logLevel => "--log-level"
  | port => "--port"
  | host => "--host"

def all : List Setting := [logLevel, port, host]

def ofToken? (token : String) : Option Setting := all.find? fun setting => setting.token == token

end Setting

inductive ArgumentError where
  | missingValue (option : String)
  | invalidPort (value : String)
  | unknownOption (token : String)
  | unexpected (token : String)
  deriving DecidableEq

def ArgumentError.message : ArgumentError → String
  | missingValue option => "Missing value for " ++ option
  | invalidPort value => "Invalid port: " ++ value
  | unknownOption token => "Unknown option: " ++ token
  | unexpected token => "Unexpected argument: " ++ token

structure Arguments where
  command : Option String := none
  logLevel : Option String := none
  port : Option Number := none
  host : Option String := none
  pretty : Bool := false
  errors : List ArgumentError := []

namespace Arguments

def isValue (token : String) : Bool := !token.isEmpty && token.toList.take 2 != ['-', '-']

def isOption (token : String) : Bool := token.toList.head? == some '-'

/-- A port is a numeral of a whole number below `2 ^ 16`. -/
def port? (value : String) : Option Number :=
  let x := Number.ofText value
  if x.isWhole && Number.le 0 x && Number.le x 65535 then some x else none

def addError (a : Arguments) (e : ArgumentError) : Arguments := { a with errors := a.errors ++ [e] }

/-- Takes the value of an option; of several the last counts. -/
def set (a : Arguments) (setting : Setting) (value : String) : Arguments :=
  match setting with
  | .logLevel => { a with logLevel := some value }
  | .host => { a with host := some value }
  | .port =>
    match port? value with
    | some port => { a with port := some port }
    | none => a.addError (.invalidPort value)

/-- An option without a value is an error. It takes back an earlier level or host. -/
def miss (a : Arguments) (setting : Setting) : Arguments :=
  let told := a.addError (.missingValue setting.token)
  match setting with
  | .logLevel => { told with logLevel := none }
  | .host => { told with host := none }
  | .port => told

/-- Takes an argument that stands for itself. -/
def takeWord (a : Arguments) (token : String) : Arguments :=
  if token.isEmpty then a
  else if token = "--pretty" ∨ token = "-p" then { a with pretty := true }
  else if token = "--help" ∨ token = "-h" then { a with command := some "help" }
  else if isOption token then a.addError (.unknownOption token)
  else if a.command.isNone then { a with command := some token }
  else a.addError (.unexpected token)

/-- Reads arguments from left to right. -/
def read (a : Arguments) : List String → Arguments
  | [] => a
  | token :: rest =>
    match Setting.ofToken? token with
    | none => (a.takeWord token).read rest
    | some setting =>
      match rest with
      | [] => a.miss setting
      | value :: others =>
        if isValue value then (a.set setting value).read others
        else (a.miss setting).read (value :: others)

def parse (argv : List String) : Arguments := Arguments.read {} argv

/-- Without a command the help is shown. -/
def commandName (a : Arguments) : String := a.command.getD "help"

end Arguments

end Telemetry.Command
