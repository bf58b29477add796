import ShieldPolicy.CommandLine

/-!
# Help

The text that tells how the program is used, built from the options that it has.
-/

namespace ShieldPolicy.CommandLine

def columns (rows : List (String × String)) : String :=
  let width := (rows.map fun (name, _) => name.length).foldl max 0
  String.join (rows.map fun (name, about) =>
    "  " ++ name ++ String.ofList (List.replicate (width + 2 - name.length) ' ') ++ about ++ "\n")

def OptionSpec.row {α : Type} (o : OptionSpec α) : String × String :=
  ("--" ++ o.name ++ (if o.takesValue then " <VALUE>" else ""), o.about)

def helpRow : String × String := ("-h, --help", "Print help")

def commandRows : List (String × String) :=
  [ ("host", "Serve the host protocol (requests on standard input, responses on standard error)"),
    ("manifest", "Print the generator manifest as JSON"),
    ("generate", "Generate the policy from a JSON file that describes the models"),
    ("help", "Print this message or the help of a command") ]

def optionRows (command : String) : List (String × String) :=
  (if command = "generate" then generateOptions.map OptionSpec.row else []) ++ [helpRow]

def helpText : Option String → String
  | none =>
    "Generate a default-allow tRPC shield permission policy from a data model\n\n" ++
      "Usage: shieldgen [OPTIONS] [COMMAND]\n\nCommands:\n" ++ columns commandRows ++
      "\nOptions:\n" ++ columns (programOptions.map OptionSpec.row ++ [helpRow])
  | some command =>
    (commandRows.lookup command).getD "" ++ "\n\nUsage: shieldgen " ++ command ++
      " [OPTIONS]\n\nOptions:\n" ++ columns (optionRows command)

end ShieldPolicy.CommandLine
