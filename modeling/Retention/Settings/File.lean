import Retention.Settings.Basic

/-!
# Settings files

Settings are read from a file, which may not be there, be a directory, or hold bytes that are no
text. Its path may lead through what is no directory, or have a name in it that no file can have.
-/

namespace Retention.Settings

/-- What stands at a path. -/
inductive FileContent
  | missing
  | notDirectory
  | nameTooLong
  | directory
  | bytes (content : ByteArray)

namespace FileContent

/-- The text in the file, or why there is none. -/
def text : FileContent → Except String String
  | missing => .error "No such file or directory (os error 2)"
  | notDirectory => .error "Not a directory (os error 20)"
  | nameTooLong => .error "File name too long (os error 36)"
  | directory => .error "Is a directory (os error 21)"
  | bytes content =>
    match String.fromUTF8? content with
    | some text => .ok text
    | none => .error "stream did not contain valid UTF-8"

end FileContent

def ofFile (env : Environment) (path : String) (content : FileContent) :
    Except Problem Settings := do
  let text ← content.text.mapError (Problem.unreadable path)
  ofText env text

end Retention.Settings
