import RouteTemplate.CommandLine.Command

namespace RouteTemplate.Text

/-- The 25 code points with the property `White_Space`. -/
def isBlank (c : Char) : Bool :=
  let n := c.toNat
  (9 ≤ n && n ≤ 13) || n == 0x20 || n == 0x85 || n == 0xA0 || n == 0x1680 ||
    (0x2000 ≤ n && n ≤ 0x200A) || n == 0x2028 || n == 0x2029 || n == 0x202F || n == 0x205F ||
    n == 0x3000

def allBlank (text : String) : Bool := text.toList.all isBlank

end RouteTemplate.Text

namespace RouteTemplate.CommandLine

inductive ReadFault where
  | notFound
  | notDirectory
  | isDirectory
  | nameTooLong
  | notUtf8
  | other (text : String)
  deriving DecidableEq, Repr

def ReadFault.message : ReadFault → String
  | notFound => "No such file or directory (os error 2)"
  | notDirectory => "Not a directory (os error 20)"
  | isDirectory => "Is a directory (os error 21)"
  | nameTooLong => "File name too long (os error 36)"
  | notUtf8 => "stream did not contain valid UTF-8"
  | other text => text

inductive Subject where
  | tree
  | manifest
  deriving DecidableEq, Repr

def Subject.text : Subject → String
  | tree => "route tree"
  | manifest => "manifest"

inductive InputError where
  | missing (subject : Subject)
  | unreadableInput (fault : ReadFault)
  | unreadableFile (path : String) (fault : ReadFault)
  | blank (subject : Subject)
  deriving DecidableEq, Repr

def InputError.message : InputError → String
  | missing subject =>
    subject.text ++ " is required: use a path, `-` for stdin, or inline JSON"
  | unreadableInput fault => "failed to read stdin: " ++ fault.message
  | unreadableFile path fault => "failed to read '" ++ path ++ "': " ++ fault.message
  | blank subject => subject.text ++ " cannot be empty"

structure World where
  input : Except ReadFault ByteArray
  file : String → Except ReadFault ByteArray

def utf8Text (bytes : ByteArray) : Except ReadFault String :=
  match String.fromUTF8? bytes with
  | some text => .ok text
  | none => .error .notUtf8

namespace World

def text (world : World) (subject : Subject) : Option Source → Except InputError String
  | none => .error (.missing subject)
  | some (.inline text) => .ok text
  | some .standardInput => (world.input >>= utf8Text).mapError .unreadableInput
  | some (.file path) => (world.file path >>= utf8Text).mapError (.unreadableFile path)

def load (world : World) (subject : Subject) (source : Option Source) :
    Except InputError String := do
  let text ← world.text subject source
  if Text.allBlank text then .error (.blank subject) else return text

end World

end RouteTemplate.CommandLine
