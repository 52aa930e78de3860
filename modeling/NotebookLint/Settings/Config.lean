import NotebookLint.Settings
import NotebookLint.Settings.File.Toml
import NotebookLint.Settings.File.Yaml

/-!
# Configuration files

A configuration file is named on the command line or found next to the working directory: in the
nearest directory on the way to the root, not above the first one that holds a repository.
-/

namespace NotebookLint.Settings

/-- The names of configuration files, in the order in which they are looked for. -/
def configNames : List String := ["nbcheck.toml", "nbcheck.yaml", "nbcheck.yml"]

/-- The entry that marks the root of a repository. -/
def repositoryMark : String := ".git"

/-- A path and the directories around it, from the inside, with fuel for them. -/
def ancestors : (fuel : Nat) → String → List String
  | 0, path => [path]
  | fuel + 1, path =>
    path ::
      (match Path.parent? path with
        | some parent => ancestors fuel parent
        | none => [])

/-- The configuration file in a directory. -/
def configIn (tree : FileTree) (directory : String) : Option String :=
  (configNames.map (Path.join directory)).find? fun path => tree.isFile "/" path

/-- The configuration file in the first of some directories that holds one, up to the first that
is the root of a repository. -/
def firstConfig (tree : FileTree) : List String → Option String
  | [] => none
  | directory :: outer =>
    match configIn tree directory with
    | some path => some path
    | none =>
      if tree.pathExists "/" (Path.join directory repositoryMark) then none
      else firstConfig tree outer

/-- The configuration file for a directory. -/
def findConfig (tree : FileTree) (directory : String) : Option String :=
  firstConfig tree (ancestors directory.length directory)

/-- What a file of this name says: YAML by its extension, TOML otherwise. -/
def parseConfig (path : String) (text : List Char) : Option FileSettings :=
  match Path.extension? path with
  | some "yaml" | some "yml" => Yaml.settings text
  | _ => Toml.settings text

/-- What a configuration file says. -/
def loadConfig (tree : FileTree) (path : String) : Except SettingsError FileSettings :=
  match tree.readText "/" path with
  | .error fault => .error (.unreadableConfig path fault)
  | .ok text =>
    match parseConfig path text.toList with
    | some file => .ok file
    | none => .error (.malformedConfig path)

/-- The settings that a command line asks for in a working directory. -/
def resolve (tree : FileTree) (cwd : String) (given : Arguments) : Except SettingsError Settings :=
  let configPath := match given.config with
    | some path => some (Path.join cwd path)
    | none => findConfig tree cwd
  match configPath with
  | none => ofArguments given cwd none .empty
  | some path => (loadConfig tree path).bind (ofArguments given cwd (some path))

end NotebookLint.Settings
