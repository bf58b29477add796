import ShieldPolicy.FileSystem.Fault
import ShieldPolicy.Path
import ShieldPolicy.Text.Quoted

/-!
# Failures of settings

Why settings and their workspace cannot be loaded, or logging not be set up as they ask.
-/

namespace ShieldPolicy

inductive SettingsError where
  | fileNotFound (path : Path)
  /-- The file cannot be read, or it is not of the format that its name tells. -/
  | unreadableFile (origin : String) (reason : String)
  | notTable (found origin : String)
  | wrongType (found expected : String) (key origin : Option String)
  /-- A value stands where a group of settings was expected. -/
  | wrongShape (found expected : String)
  | logDirectory (fault : FileFault)
  | logFile (path : Path) (fault : FileFault)
  | noLogFile
  | logFormat (format : String)
  | logOutput (output : String)
  | logDirective (reason : String)
  /-- The workspace has no root, for its path starts from the current directory. -/
  | noCurrentDirectory (fault : FileFault)
deriving DecidableEq

def SettingsError.message : SettingsError → String
  | .fileNotFound path => "Config file not found: " ++ path.text
  | .unreadableFile origin reason => "cannot read " ++ origin ++ ": " ++ reason
  | .notTable found origin =>
    "invalid type: " ++ found ++ ", expected a map in " ++ origin ++ " in " ++ origin
  | .wrongShape found expected => "invalid type: " ++ found ++ ", expected " ++ expected
  | .wrongType found expected key origin =>
    "invalid type: " ++ found ++ ", expected " ++ expected ++
      (match key with
        | some key => " for key `" ++ key ++ "`"
        | none => "") ++
      (match origin with
        | some origin => " in " ++ origin
        | none => "")
  | .logDirectory fault => "Failed to create log directory: " ++ fault.message
  | .logFile path fault =>
    "Failed to open log file " ++ Text.quoted path.text ++ ": " ++ fault.message
  | .noLogFile => "No log file path could be determined"
  | .logFormat format =>
    "Invalid log format: " ++ format ++ " (must be 'json' or 'text')"
  | .logOutput output =>
    "Invalid log output: " ++ output ++ " (must be 'stdout', 'stderr', or 'file')"
  | .logDirective reason => "Invalid log directive: " ++ reason
  | .noCurrentDirectory fault => fault.message

end ShieldPolicy
