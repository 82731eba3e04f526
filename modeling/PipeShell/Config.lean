import PipeShell.DotEnv
import PipeShell.System.Directories
import PipeShell.Text.Comparison

/-! # Configuration

What the shell reads from its environment when it starts: where it keeps its
files, how it looks, and how much it logs. -/

set_option autoImplicit false

namespace PipeShell

open PipeShell.System

/-- The ways to edit a line. -/
inductive EditMode where
  | emacs
  | vi
  deriving DecidableEq, Repr

/-- The edit mode of a name in either case; any other name means the usual
one. -/
def EditMode.named (name : String) : EditMode :=
  if Text.equalsIgnoringCase name "vi" then .vi else .emacs

/-- The configuration of a session. -/
structure Config where
  /-- The name the shell goes by. -/
  name : String
  configDirectory : String
  theme : String
  historyFile : String
  editorMode : String
  logLevel : String
  logDirectory : String
  deriving DecidableEq, Repr

namespace Config

def shellName : String := "minish"

def directoryOf (environment : Environment) : String :=
  match environment.get? "HOME" with
  | some home => Path.join home ".config/minish"
  | none => "tmp"

/-- The configuration without any wishes of the user. -/
def standard (environment : Environment) : Config where
  name := shellName
  configDirectory := directoryOf environment
  theme := "default"
  historyFile := Path.join (directoryOf environment) ".minish_history"
  editorMode := "emacs"
  logLevel := "warn"
  logDirectory := Path.join (directoryOf environment) "logs"

/-- The configuration with the wishes of the user, one variable for each. -/
def ofEnvironment (environment : Environment) : Config :=
  let usual := standard environment
  { usual with
    theme := (environment.get? "MINISH_THEME").getD usual.theme
    editorMode := (environment.get? "MINISH_EDITOR").getD usual.editorMode
    historyFile := (environment.get? "MINISH_HISTORY").getD usual.historyFile
    logLevel := (environment.get? "MINISH_LOG_LEVEL").getD usual.logLevel
    logDirectory := (environment.get? "MINISH_LOG_DIR").getD usual.logDirectory }

def editMode (config : Config) : EditMode := .named config.editorMode

def directories (config : Config) : List String :=
  (Path.parent? config.historyFile).toList ++ [config.logDirectory]

/-- Makes directories, with the complaints about those that cannot be made. -/
def prepare (viewer : Viewer) (files : FileSystem) : List String → FileSystem × List String
  | [] => (files, [])
  | directory :: rest =>
    match files.makeDirectories viewer directory with
    | .ok files => prepare viewer files rest
    | .error failure =>
      let (files, complaints) := prepare viewer files rest
      (files, (shellName ++ ": cannot create " ++ directory ++ ": " ++ failure.message) :: complaints)

end Config

/-- What reading the configuration leaves behind. -/
structure Startup where
  config : Config
  /-- The environment with the variables of the file. -/
  environment : Environment
  files : FileSystem
  complaints : List String

def Config.load (files : FileSystem) (viewer : Viewer) (environment : Environment) : Startup :=
  let environment := DotEnv.load files viewer environment
  let config := Config.ofEnvironment environment
  let (files, complaints) := Config.prepare viewer files config.directories
  { config, environment, files, complaints }

end PipeShell
