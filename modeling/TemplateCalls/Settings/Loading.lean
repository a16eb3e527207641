import TemplateCalls.Files
import TemplateCalls.Settings

/-!
# Settings from a file

The file with settings is looked for in a directory and in the directories around it, the nearest
first. An entry of its name counts whatever it is. A place that cannot be looked up ends the search.

The file is a YAML mapping; a blank document counts as an empty one, and so does a file that does
not exist. Of several values for one key the last counts. A charset from the environment, unless
empty, takes the place of the file's.

A file may be missing, or be no YAML document, or not hold a mapping, and settings may be invalid:
these are faults of the configuration. Others come from below: a directory in the place of the file,
a text that its reader gives up or that holds a scalar that denotes nothing, a key that is not text,
or a name that cannot be looked up.
-/

namespace TemplateCalls

open Files (Path Found)

inductive SettingsFault where
  | fileNotFound (path : Path)
  | malformedFile (path : Path)
  | notMapping (path : Path)
  | invalid (violations : Violations)
  | isDirectory (path : Path)
  | nameTooLong (path : Path)
  | unreadable (fault : Yaml.Fault)
  | keyNotText
  deriving DecidableEq, Repr

namespace SettingsFault

def isConfiguration : SettingsFault → Bool
  | .fileNotFound _ | .malformedFile _ | .notMapping _ | .invalid _ => true
  | .isDirectory _ | .nameTooLong _ | .unreadable _ | .keyNotText => false

def message : SettingsFault → String
  | .fileNotFound path => "Config file not found: " ++ path.toString
  | .malformedFile path =>
    "Invalid YAML in " ++ path.toString ++ ": " ++ Yaml.Fault.malformed.message
  | .notMapping path => "Config file " ++ path.toString ++ " must contain a mapping"
  | .invalid violations => "Invalid configuration: " ++ violations.message
  | .isDirectory path => "[Errno 21] Is a directory: " ++ Text.quote path.toString
  | .nameTooLong path => "[Errno 36] File name too long: " ++ Text.quote path.toString
  | .unreadable fault => fault.message
  | .keyNotText => "keywords must be strings"

end SettingsFault

namespace Settings

/-! ## Finding the file -/

def fileName : String := "tplgen.yaml"

/-- The places where the file is looked for, nearest first. -/
def candidates (start : Path) : List Path := start.ancestors.map (·.child fileName)

/-- The first of some places at which there is an entry. -/
def firstEntry (find : Path → Found) : List Path → Except SettingsFault (Option Path)
  | [] => .ok none
  | path :: rest =>
    match find path with
    | .nothing => firstEntry find rest
    | .directory | .file _ => .ok (some path)
    | .nameTooLong => .error (.nameTooLong path)

/-- The nearest of the places at which there is an entry. -/
def nearest (find : Path → Found) (start : Path) : Except SettingsFault (Option Path) :=
  firstEntry find (candidates start)

/-! ## Loading -/

/-- A text with its line ends turned into line feeds. -/
def unifyLineEnds : List Char → List Char
  | '\r' :: '\n' :: rest => '\n' :: unifyLineEnds rest
  | '\r' :: rest => '\n' :: unifyLineEnds rest
  | character :: rest => character :: unifyLineEnds rest
  | [] => []

def pairsOfFile (read : Yaml.Reader) (path : Path) (text : String) :
    Except SettingsFault (List (RawValue × RawValue)) :=
  match read (unifyLineEnds text.toList) with
  | .ok .blank => .ok []
  | .ok (.mapping pairs) => .ok pairs
  | .ok .other => .error (.notMapping path)
  | .error .malformed => .error (.malformedFile path)
  | .error fault => .error (.unreadable fault)

def pairsAt (read : Yaml.Reader) (path : Path) :
    Found → Except SettingsFault (List (RawValue × RawValue))
  | .nothing => .ok []
  | .directory => .error (.isDirectory path)
  | .file text => pairsOfFile read path text
  | .nameTooLong => .error (.nameTooLong path)

def lastValue? (key : String) (pairs : List (RawValue × RawValue)) : Option RawValue :=
  (pairs.reverse.find? (·.1 == .text (.ofString key))).map (·.2)

def draftOfPairs (pairs : List (RawValue × RawValue)) : Except SettingsFault Draft :=
  if pairs.all (·.1.isText) then
    .ok ⟨lastValue? "charset" pairs, lastValue? "function_name" pairs⟩
  else .error .keyNotText

def draftOfEnvironment (charset : Option String) : Draft :=
  ⟨(charset.filter (!·.isEmpty)).map (.text <| .ofString ·), none⟩

/-- The settings in the file at a path, if one is given. -/
def load (read : Yaml.Reader) (find : Path → Found) (environmentCharset : Option String)
    (path : Option Path) : Except SettingsFault Settings := do
  let pairs ←
    match path with
    | some path => pairsAt read path (find path)
    | none => .ok []
  let draft := (draftOfEnvironment environmentCharset).orElse (← draftOfPairs pairs)
  (ofDraft draft).mapError .invalid

end Settings

end TemplateCalls
