import BotBench.Settings.Basic
import BotBench.Yaml.Value

/-! # Settings files

Settings are read from a file whose path is given directly, or by an environment variable, or else
is the default path. A file that does not exist gives the defaults. The file holds a mapping, and
the settings stand under its key `simulator`. -/

namespace BotBench.Settings

/-- The path of the settings file when none is given. -/
def defaultPath : String := "config/botdeck.yaml"

/-- A path as its parts, without empty parts and parts that stay in place, and whether it starts at
the root. -/
structure FilePath where
  rooted : Bool
  parts : List String
  deriving DecidableEq, Repr

/-- Split a text at a character. -/
def splitAt (c : Char) (cs : List Char) : List (List Char) :=
  cs.foldr (fun d pieces =>
    match pieces with
    | piece :: rest => if d == c then [] :: piece :: rest else (d :: piece) :: rest
    | [] => [[d]]) [[]]

/-- Read a path. -/
def FilePath.ofString (s : String) : FilePath where
  rooted := s.toList.head? == some '/'
  parts := ((splitAt '/' s.toList).map String.ofList).filter fun part => part != "" && part != "."

/-- A path as it is written in messages. -/
def FilePath.toString (path : FilePath) : String :=
  let joined := String.intercalate "/" path.parts
  if path.rooted then "/" ++ joined else if joined.isEmpty then "." else joined

/-- The files below the working directory: path and text. -/
abbrev FileTree := List (List String × String)

/-- What a path leads to. -/
inductive Entry
  | file (text : String)
  | directory
  | missing

/-- Whether a directory exists below the working directory. -/
def FileTree.hasDirectory (tree : FileTree) (parts : List String) : Bool :=
  tree.any fun file => parts.isPrefixOf file.1 && parts.length < file.1.length

/-- Follow the parts of a path from a directory. Going up leads to the parent of a directory that
exists. -/
def FileTree.follow (tree : FileTree) : List String → List String → Option (List String)
  | here, [] => some here
  | here, part :: rest =>
      if here.isEmpty || tree.hasDirectory here then
        if part == ".." then
          if here.isEmpty then none else tree.follow here.dropLast rest
        else tree.follow (here ++ [part]) rest
      else none

/-- What a path leads to in a tree of files. Paths out of the tree lead nowhere. -/
def FileTree.lookup (tree : FileTree) (path : FilePath) : Entry :=
  if path.rooted then (if path.parts.isEmpty then .directory else .missing)
  else
    match tree.follow [] path.parts with
    | none => .missing
    | some parts =>
        match tree.find? fun file => file.1 == parts with
        | some (_, text) => .file text
        | none => if parts.isEmpty || tree.hasDirectory parts then .directory else .missing

/-- Why settings cannot be loaded. -/
inductive LoadFault
  /-- There is a file, but no reader for it. -/
  | readerMissing
  /-- The path leads to a directory. -/
  | isDirectory (path : String)
  /-- The document has no value. -/
  | document (fault : Yaml.Fault)
  /-- The document holds a value of this kind and no mapping. -/
  | notMapping (kind : String)
  /-- The section of the settings is no mapping. -/
  | invalidSection (path : String)
  /-- A setting cannot be converted. -/
  | setting (fault : SettingFault)
  deriving DecidableEq, Repr

/-- The wording of a document's fault. -/
def documentMessage : Yaml.Fault → String
  | .malformed => ""
  | .badDate problem => problem
  | .notWhole base text =>
      let digits := if base == 10 then text.toList.filter (· != '_') else []
      Number.wholeProblem base digits (Text.shortQuoted text)
  | .notReal text => "could not convert string to float: " ++ Text.quoted text

/-- The wording of a fault. -/
def LoadFault.message : LoadFault → String
  | .readerMissing => "PyYAML is required to load simulator settings."
  | .isDirectory path => "[Errno 21] Is a directory: " ++ Text.quoted path
  | .document fault => documentMessage fault
  | .notMapping kind => "'" ++ kind ++ "' object has no attribute 'get'"
  | .invalidSection path => "Invalid simulator settings in " ++ path
  | .setting fault => fault.message

/-- What a fault is reported as. -/
def LoadFault.report : LoadFault → Report
  | .readerMissing => .noReader
  | .isDirectory _ => .directory
  | .document .malformed => .malformed
  | .document _ => .badValue
  | .notMapping _ => .noMapping
  | .invalidSection _ => .badValue
  | .setting fault => fault.report

/-- A value of a document as a setting. -/
def rawOfValue : Yaml.Value → RawSetting
  | .bool value => .flag value
  | .int value => .whole value
  | .float value => .real value
  | .text value => .written (.text value)
  | .bytes value => .written (.bytes value)
  | value => .unconvertible value.kind

/-- The entries of a mapping whose keys are texts. -/
def textEntries (pairs : List (Yaml.Value × Yaml.Value)) : List (String × RawSetting) :=
  pairs.filterMap fun (key, value) =>
    match key with
    | .text name => some (name, rawOfValue value)
    | _ => none

/-- The value under a text key. -/
def textKey? (name : String) (pairs : List (Yaml.Value × Yaml.Value)) : Option Yaml.Value :=
  (pairs.find? fun pair => pair.1.sameText (.text name)).map (·.2)

/-- The settings of a document's value. An empty document gives the defaults. -/
def ofDocument (path : FilePath) (value : Yaml.Value) : Except LoadFault Settings :=
  if value.isEmpty then .ok {}
  else
    match value with
    | .map pairs =>
        match textKey? "simulator" pairs with
        | none => .ok {}
        | some (.map inner) => (fromMapping (textEntries inner)).mapError .setting
        | some _ => .error (.invalidSection path.toString)
    | value => .error (.notMapping value.kind)

/-- The path of the settings file: the given path, else that of the environment, else the default.
An empty path counts as none. -/
def choosePath (given environment : Option String) : FilePath :=
  let nonEmpty (path : Option String) : Option String := path.filter fun s => !s.isEmpty
  .ofString (((nonEmpty given).or (nonEmpty environment)).getD defaultPath)

/-- Load the settings from a tree of files. -/
def load (tree : FileTree) (given environment : Option String) (hasReader : Bool) :
    Except LoadFault Settings :=
  let path := choosePath given environment
  match tree.lookup path with
  | .missing => .ok {}
  | .directory => .error (if hasReader then .isDirectory path.toString else .readerMissing)
  | .file text =>
      if !hasReader then .error .readerMissing
      else
        match Yaml.Value.ofText text with
        | .error fault => .error (.document fault)
        | .ok value => ofDocument path value

end BotBench.Settings
