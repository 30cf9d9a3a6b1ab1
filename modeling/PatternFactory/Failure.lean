import PatternFactory.Config.Basic
import PatternFactory.Name.Qualified
import PatternFactory.PathName

/-!
# Failures

A failure ends a run.  Each has a cause; the wording is given by `FileError.message` and
`Failure.message`.
-/

namespace PatternFactory

/-- Why something could not be done with a file. -/
inductive FileError where
  | notFound
  | alreadyExists
  | notDirectory
  | isDirectory
  | notEmpty
  | nameTooLong
  | nulInName
  | notText
  | alreadyEmitted (name : QualifiedName)
  | other (text : String)
  deriving DecidableEq, Repr

namespace FileError

/-- The wording of an error of the operating system, which has a number. -/
def numbered (text : String) (number : Nat) : String :=
  text ++ " (os error " ++ toString number ++ ")"

/-- The error of the operating system with a number and a text. -/
def ofNumber (number : Nat) (text : String) : FileError :=
  match number with
  | 2 => notFound
  | 17 => alreadyExists
  | 20 => notDirectory
  | 21 => isDirectory
  | 36 => nameTooLong
  | 39 => notEmpty
  | _ => other (numbered text number)

/-- The wording. -/
def message : FileError → String
  | notFound => numbered "No such file or directory" 2
  | alreadyExists => numbered "File exists" 17
  | notDirectory => numbered "Not a directory" 20
  | isDirectory => numbered "Is a directory" 21
  | nameTooLong => numbered "File name too long" 36
  | notEmpty => numbered "Directory not empty" 39
  | nulInName => "file name contained an unexpected NUL byte"
  | notText => "stream did not contain valid UTF-8"
  | alreadyEmitted name => name.text ++ " was already emitted"
  | other text => text

end FileError

/-- The name of the configuration file. -/
def configFileName : String := "patgen.toml"

/-- Why a run ends early. -/
inductive Failure where
  /-- The root of the sources is no directory. -/
  | noSourceRoot (root : PathName)
  /-- A directory of the sources cannot be listed. -/
  | unreadableTree (path : PathName) (cause : FileError)
  | unreadableSource (path : PathName) (cause : FileError)
  | unreadableConfig (path : PathName) (cause : FileError)
  /-- A source text, be it generated, does not follow the grammar. -/
  | badSource (path : PathName) (error : SyntaxError)
  /-- The configuration file does not follow its format. -/
  | badConfigFile (report : String)
  /-- The configuration holds something that cannot be used. -/
  | badConfig (fault : ConfigFault)
  /-- The path of the runtime cannot be read when the renderer is made. -/
  | badRuntimePath (path : String) (fault : SyntaxFault)
  /-- No text can be written for the unit of this name. -/
  | unrenderable (name : QualifiedName)
  | emission (name : QualifiedName) (cause : FileError)
  /-- There are still new declarations after the last round that is allowed. -/
  | roundLimit (rounds : Nat) (marker : String)
  deriving DecidableEq, Repr

namespace Failure

/-- The wording of a failure that has to do with files. -/
def aboutFiles (text : String) : String := "File system error: " ++ text

/-- The wording of a failure that has to do with the configuration. -/
def aboutConfig (text : String) : String := "Configuration error: " ++ text

/-- The wording. -/
def message : Failure → String
  | noSourceRoot _ => aboutFiles "Source root is not a directory"
  | unreadableTree path cause =>
    aboutFiles ("Failed to walk source tree: IO error for operation on " ++ path.text ++ ": "
      ++ cause.message)
  | unreadableSource _ cause => aboutFiles ("Failed to read source file: " ++ cause.message)
  | unreadableConfig _ cause => aboutFiles ("Failed to read config file: " ++ cause.message)
  | badSource path e =>
    "Parse error in " ++ path.text ++ ":" ++ toString e.pos.line ++ ":" ++ toString e.pos.column
      ++ ": " ++ e.fault.message
  | badConfigFile report => aboutConfig ("Failed to parse " ++ configFileName ++ ": " ++ report)
  | badConfig (.badGlob fault) => fault.message
  | badConfig fault => aboutConfig fault.message
  | badRuntimePath path fault =>
    aboutConfig ((ConfigFault.badRuntimePath path).message ++ ": " ++ fault.message)
  | unrenderable name => "No text can be written for " ++ name.text
  | emission name _ => "Error writing " ++ name.text
  | roundLimit rounds marker =>
    "Gave up after " ++ toString rounds ++ " rounds: generated sources keep introducing #["
      ++ marker ++ "] declarations"

/-- The error behind the failure, if there is one that can be told by itself. -/
def cause? : Failure → Option FileError
  | unreadableTree _ cause => some cause
  | unreadableSource _ cause => some cause
  | unreadableConfig _ cause => some cause
  | emission _ cause => some cause
  | _ => none

end Failure

end PatternFactory
