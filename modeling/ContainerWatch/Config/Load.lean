import ContainerWatch.Config.Reading
import ContainerWatch.Failure.System
/-!
# Loading settings

Settings are loaded from a file whose path the surroundings may give.  Where there is nothing at the
path every setting has its default; that is the only case in which defaults stand in for a file.
-/

namespace ContainerWatch

/-- What there is at a path. -/
inductive Entry where
  | nothing
  | directory
  | file (content : ByteArray)

/-- What there is at every path. -/
abbrev FileTree := String → Entry

/-- The text of a file, or why it cannot be read. -/
def Entry.text : Entry → Except String String
  | nothing => .error SystemError.notFound.message
  | directory => .error SystemError.isDirectory.message
  | file content =>
    match String.fromUTF8? content with
    | some text => .ok text
    | none => .error "stream did not contain valid UTF-8"

namespace Config

/-- The settings in what there is at a path. -/
def ofEntry (e : Entry) (complaint : Complaint) : Except Error Config :=
  match e.text with
  | .error cause => .error (.unreadable cause)
  | .ok text => ofText text complaint

/-- The settings in the file at a path. -/
def fromFile (files : FileTree) (path : String) (complaint : Complaint := untold) : Except Error Config :=
  ofEntry (files path) complaint

/-- The path of the settings unless the surroundings give another one. -/
def defaultPath : String := "config.yaml"

/-- The settings of the program; the path is the one that the surroundings give, if they do. -/
def load (files : FileTree) (given : Option String) (complaint : Complaint := untold) :
    Except Error Config :=
  let path := given.getD defaultPath
  match files path with
  | .nothing => .ok {}
  | .directory | .file _ => fromFile files path complaint

end Config

end ContainerWatch
