/-!
# Usage errors

Why arguments cannot be read, and what is said about it.
-/

namespace ShieldPolicy

inductive UsageError where
  | unknownArgument (text : String)
  | unknownCommand (text : String)
  | missingValue (option : String)
  | emptyPath (option : String)
  /-- An option that takes no value has one attached. -/
  | unexpectedValue (option : String)
  | repeatedOption (option : String)
  | missingOption (option : String)
  | help (command : Option String)
deriving DecidableEq

def UsageError.message : UsageError → String
  | .unknownArgument text => "unexpected argument '" ++ text ++ "' found"
  | .unknownCommand text => "unrecognized subcommand '" ++ text ++ "'"
  | .missingValue option => "a value is required for '--" ++ option ++ "' but none was supplied"
  | .emptyPath option => "the value for '--" ++ option ++ "' must not be empty"
  | .unexpectedValue option => "unexpected value for '--" ++ option ++ "' found"
  | .repeatedOption option => "the argument '--" ++ option ++ "' cannot be used multiple times"
  | .missingOption option => "the required argument '--" ++ option ++ "' was not provided"
  | .help none => "help was asked for"
  | .help (some command) => "help on '" ++ command ++ "' was asked for"

end ShieldPolicy
