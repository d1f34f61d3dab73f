import ContainerWatch.Numeral
/-!
# Failures of the system

The failures of system calls, which are known by number, and their texts.
-/

namespace ContainerWatch

/-- A failure of a system call. -/
structure SystemError where
  number : Int
  deriving DecidableEq, Repr

namespace SystemError

/-- Nothing is at a path. -/
def notFound : SystemError := ⟨2⟩

/-- A directory is where a file is needed. -/
def isDirectory : SystemError := ⟨21⟩

/-- What a failure is. -/
def description (e : SystemError) : String :=
  match e.number with
  | 1 => "Operation not permitted"
  | 2 => "No such file or directory"
  | 5 => "Input/output error"
  | 13 => "Permission denied"
  | 21 => "Is a directory"
  | n => "Unknown error " ++ String.ofList (Numeral.decimalInt n)

/-- The text of a failure: what it is, and its number. -/
def message (e : SystemError) : String :=
  e.description ++ " (os error " ++ String.ofList (Numeral.decimalInt e.number) ++ ")"

end SystemError

end ContainerWatch
