import Stencil.Check
import Stencil.Fault
import Stencil.Log.Console

/-! The settings of the program: what they are, what they are if nothing is said, and which data
fit them. -/

set_option autoImplicit false

namespace Stencil

namespace Settings

/-- Where the settings were read from. -/
structure Paths where
  repoRoot : String
  configsDir : String
  deriving DecidableEq, Repr

structure App where
  product : String
  env : String
  paths : Paths
  deriving DecidableEq, Repr

/-- Data that the host shares with templates. -/
structure Shared where
  appData : Entries
  bundle : Entries
  deriving Repr

end Settings

structure Settings where
  app : Settings.App
  host : Settings.Shared
  -- Import paths of the providers that are registered at the start.
  providers : List String
  logging : Log.ConsoleSettings
  deriving Repr

namespace Settings

def default : Settings where
  app := ⟨"Pict", "local", ⟨".", "configs"⟩⟩
  host := ⟨[], []⟩
  providers := []
  logging := ⟨"INFO", true, true⟩

def checkPaths : Value → Checked Paths :=
  Check.model ["repo_root", "configs_dir"] fun entries =>
    .both .mk
      (Check.field entries "repo_root" Settings.default.app.paths.repoRoot Check.text)
      (Check.field entries "configs_dir" Settings.default.app.paths.configsDir Check.text)

def checkApp : Value → Checked App :=
  Check.model ["product", "env", "paths"] fun entries =>
    .both (fun names paths => ⟨names.1, names.2, paths⟩)
      (.both Prod.mk
        (Check.field entries "product" Settings.default.app.product Check.text)
        (Check.field entries "env" Settings.default.app.env Check.text))
      (Check.field entries "paths" Settings.default.app.paths checkPaths)

def checkShared : Value → Checked Shared :=
  Check.model ["app_data", "bundle"] fun entries =>
    .both .mk
      (Check.field entries "app_data" Settings.default.host.appData Check.textKeyed)
      (Check.field entries "bundle" Settings.default.host.bundle Check.textKeyed)

def checkProviders : Value → Checked (List String) :=
  Check.model ["providers"] fun entries =>
    Check.field entries "providers" Settings.default.providers Check.texts

def checkLogging : Value → Checked Log.ConsoleSettings :=
  Check.model ["level", "console", "json_lines"] fun entries =>
    .both (fun level forms => ⟨level, forms.1, forms.2⟩)
      (Check.field entries "level" Settings.default.logging.level Check.text)
      (.both Prod.mk
        (Check.field entries "console" Settings.default.logging.console Check.bool)
        (Check.field entries "json_lines" Settings.default.logging.jsonLines Check.bool))

/-- Settings that fit, or all that is wrong with them. -/
def checkSettings : Value → Checked Settings :=
  Check.model ["app", "host", "templates", "logging"] fun entries =>
    .both (fun (app, host) (providers, logging) => ⟨app, host, providers, logging⟩)
      (.both Prod.mk
        (Check.field entries "app" Settings.default.app checkApp)
        (Check.field entries "host" Settings.default.host checkShared))
      (.both Prod.mk
        (Check.field entries "templates" Settings.default.providers checkProviders)
        (Check.field entries "logging" Settings.default.logging checkLogging))

def modelName : String := "Settings"

def ofValue (data : Value) : Except Report Settings :=
  (checkSettings data).toReport modelName

def dictOf (fields : List (String × Value)) : Value :=
  .dict (fields.map fun (name, value) => (.text name, value))

def dump (s : Settings) : Value :=
  dictOf [
    ("app", dictOf [
      ("product", .text s.app.product),
      ("env", .text s.app.env),
      ("paths", dictOf [
        ("repo_root", .text s.app.paths.repoRoot),
        ("configs_dir", .text s.app.paths.configsDir)])]),
    ("host", dictOf [("app_data", .dict s.host.appData), ("bundle", .dict s.host.bundle)]),
    ("templates", dictOf [("providers", .list (s.providers.map .text))]),
    ("logging", dictOf [
      ("level", .text s.logging.level),
      ("console", .bool s.logging.console),
      ("json_lines", .bool s.logging.jsonLines)])]

/-- Settings as a record whose sections can be looked into. -/
def view (s : Settings) : Value :=
  .record (.section modelName) [
    ("app", .record (.section "AppConfig") [
      ("product", .text s.app.product),
      ("env", .text s.app.env),
      ("paths", .record (.section "PathsConfig") [
        ("repo_root", .text s.app.paths.repoRoot),
        ("configs_dir", .text s.app.paths.configsDir)])]),
    ("host", .record (.section "HostConfig") [
      ("app_data", .dict s.host.appData), ("bundle", .dict s.host.bundle)]),
    ("templates", .record (.section "TemplatesConfig") [("providers", .list (s.providers.map .text))]),
    ("logging", .record (.section "LoggingConfig") [
      ("level", .text s.logging.level),
      ("console", .bool s.logging.console),
      ("json_lines", .bool s.logging.jsonLines)])]

end Settings

end Stencil
