import ShieldPolicy.Settings
import ShieldPolicy.Settings.Layer

/-!
# Settings from layers

The merged layers are read into settings. Scalars are converted to the type of their key; a list in
place of a group of settings holds them in order.
-/

namespace ShieldPolicy

/-- The failure seen from one level further out. -/
def SettingsError.within (segment : String) (isIndex : Bool) : SettingsError → SettingsError
  | .wrongType found expected key origin =>
    let whole := match key with
      | none => segment
      | some inner =>
        if isIndex || inner.toList.head?.all (· == '[') then segment ++ inner
        else segment ++ "." ++ inner
    .wrongType found expected (some whole) origin
  | e => e

namespace Setting

def described : Setting → String
  | .absent _ => "unit value"
  | .flag _ b => "boolean `" ++ toString b ++ "`"
  | .integer _ i => "integer `" ++ toString i ++ "`"
  | .real _ x => "floating point `" ++ x.write .shown ++ "`"
  | .text _ s => "string " ++ Text.quoted s
  | .list _ _ => "sequence"
  | .table _ _ => "map"

/-- A text. Numbers and truth values are written out. -/
def text? : Setting → Except SettingsError String
  | .text _ s => .ok s
  | .flag _ b => .ok (toString b)
  | .integer _ i => .ok (toString i)
  | .real _ x => .ok (x.write .plain)
  | s => .error (.wrongType s.described "a string" none s.origin)

def flagWord? (word : String) : Option Bool :=
  if word = "1" ∨ word = "true" ∨ word = "on" ∨ word = "yes" then some true
  else if word = "0" ∨ word = "false" ∨ word = "off" ∨ word = "no" then some false
  else none

/-- A truth value. Numbers are true unless zero, and some words are understood. -/
def flag? : Setting → Except SettingsError Bool
  | .flag _ b => .ok b
  | .integer _ i => .ok (i != 0)
  | .real _ x => .ok (!x.isZero)
  | .text o s =>
    let word := Text.lowercase s
    match flagWord? word with
    | some b => .ok b
    | none => .error (.wrongType ("string " ++ Text.quoted word) "a boolean" none o)
  | s => .error (.wrongType s.described "a boolean" none s.origin)

def optional? {α : Type} (read : Setting → Except SettingsError α) :
    Setting → Except SettingsError (Option α)
  | .absent _ => .ok none
  | s => (read s).map some

def path? (s : Setting) : Except SettingsError Path := s.text?.map Path.mk

def members? {α : Type} (read : Setting → Except SettingsError α) :
    Setting → Except SettingsError (List (String × α))
  | .table _ members =>
    members.mapM fun (key, s) => return (key, ← (read s).mapError (.within key false))
  | s => .error (.wrongShape s.described "a map")

structure Field (ρ : Type) where
  name : String
  read : Setting → Except SettingsError (ρ → ρ)

def field {ρ α : Type} (name : String) (read : Setting → Except SettingsError α)
    (put : α → ρ → ρ) : Field ρ :=
  ⟨name, fun s => (read s).map put⟩

/-- Takes the members of a table into a group of settings. Unknown keys do not matter. -/
def readMembers {ρ : Type} (fields : List (Field ρ)) :
    List (String × Setting) → ρ → Except SettingsError ρ
  | [], r => .ok r
  | (key, s) :: rest, r =>
    match fields.find? fun f => f.name == key with
    | none => readMembers fields rest r
    | some f => do
      let put ← (f.read s).mapError (.within key false)
      readMembers fields rest (put r)

/-- Takes items in order into a group of settings; `count` items came before. -/
def readItems {ρ : Type} : Nat → List (Field ρ) → List Setting → ρ → Except SettingsError ρ
  | count, f :: fields, s :: rest, r => do
    let put ← (f.read s).mapError (.within ("[" ++ toString count ++ "]") true)
    readItems (count + 1) fields rest (put r)
  | _, _, _, r => .ok r

def group? {ρ : Type} (name : String) (fields : List (Field ρ)) (blank : ρ) :
    Setting → Except SettingsError ρ
  | .table _ members => readMembers fields members blank
  | .list _ items => readItems 0 fields items blank
  | s => .error (.wrongShape s.described ("struct " ++ name))

end Setting

open Setting in
def GeneratorSettings.fields : List (Setting.Field GeneratorSettings) :=
  [ field "context_path" (optional? path?) fun contextPath s => { s with contextPath },
    field "output" path? fun output s => { s with output },
    field "schema" (optional? path?) fun schema s => { s with schema },
    field "provider" text? fun provider s => { s with provider },
    field "client_version" (optional? text?) fun clientVersion s => { s with clientVersion } ]

def GeneratorSettings.ofSetting : Setting → Except SettingsError GeneratorSettings :=
  Setting.group? "GeneratorSettings" fields {}

open Setting in
def LoggingSettings.fields : List (Setting.Field LoggingSettings) :=
  [ field "enabled" flag? fun enabled s => { s with enabled },
    field "level" text? fun level s => { s with level },
    field "format" text? fun format s => { s with format },
    field "output" text? fun output s => { s with output },
    field "file" (optional? path?) fun file s => { s with file },
    field "color" flag? fun color s => { s with color },
    field "modules" (members? text?) fun modules s => { s with modules } ]

def LoggingSettings.ofSetting : Setting → Except SettingsError LoggingSettings :=
  Setting.group? "LoggingConfig" fields {}

open Setting in
def Settings.fields : List (Setting.Field Settings) :=
  [ field "generator" GeneratorSettings.ofSetting fun generator s => { s with generator },
    field "logging" LoggingSettings.ofSetting fun logging s => { s with logging } ]

def Settings.ofSetting : Setting → Except SettingsError Settings :=
  Setting.group? "ShieldgenConfig" fields {}

end ShieldPolicy
