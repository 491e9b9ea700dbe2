import Mpdcron.Lib.CString

/-! `utils.h`: what the modules read of their group in the configuration file. -/

namespace Mpdcron.Utils

open CString

inductive KeyFileCode where
  | groupNotFound
  | keyNotFound
  | other
  deriving DecidableEq, Repr

structure KeyFileError where
  code : KeyFileCode
  message : Bytes
  deriving DecidableEq, Repr

/-- The values of the group of a module in the configuration file. -/
structure KeyFile where
  getString : Bytes → Except KeyFileError Bytes
  getInteger : Bytes → Except KeyFileError Int
  getStringList : Bytes → Except KeyFileError (List Bytes)

def KeyFileError.notFound (error : KeyFileError) : Bool :=
  error.code = .groupNotFound ∨ error.code = .keyNotFound

/-- The value of `load_string`, which was `value` before, or the error's text. -/
def loadString (fd : KeyFile) (grp name : Bytes) (mustload : Bool) (value : Option Bytes) :
    Except Bytes (Option Bytes) :=
  if value.isSome then .ok value
  else
    match fd.getString name with
    | .ok value => .ok (some (chomp value))
    | .error error =>
        if error.notFound ∧ mustload = false then .ok none
        else
          .error (lit "Failed to load string " ++ grp ++ lit "." ++ name ++ lit ": " ++ error.message)

def loadInteger (fd : KeyFile) (grp name : Bytes) (mustload : Bool) (value : Int) :
    Except Bytes Int :=
  if value ≠ -1 then .ok value
  else
    match fd.getInteger name with
    | .ok value => .ok value
    | .error error =>
        if error.notFound ∧ mustload = false then .ok (-1)
        else
          .error (lit "Failed to load integer " ++ grp ++ lit "." ++ name ++ lit ": " ++ error.message)

/-- A list that may be absent, as each `file_load` reads it; `shown` is what the error names. -/
def loadStringList (fd : KeyFile) (name shown : Bytes) : Except Bytes (Option (List Bytes)) :=
  match fd.getStringList name with
  | .ok values => .ok (some values)
  | .error error =>
      if error.notFound then .ok none
      else .error (lit "Failed to load " ++ shown ++ lit ": " ++ error.message)

/-- `g_build_filename` of a directory and a name -/
def buildFilename (directory name : Bytes) : Bytes :=
  if directory = [] then name else directory.rdropWhile (· = 47) ++ 47 :: name

/-- The list that the file gives for a key, if it has one. -/
def KeyFile.list (fd : KeyFile) (key : Bytes) : Option (List Bytes) :=
  (fd.getStringList key).toOption

/-- A list that is loaded is the one of the file. -/
theorem loadStringList_ok (fd : KeyFile) (name shown : Bytes) (values : Option (List Bytes))
    (loaded : loadStringList fd name shown = .ok values) : values = fd.list name := by
  rw [loadStringList] at loaded
  rw [KeyFile.list]
  cases given : fd.getStringList name with
  | ok list =>
      rw [given] at loaded
      cases loaded
      rfl
  | error error =>
      rw [given] at loaded
      dsimp only at loaded
      split_ifs at loaded
      cases loaded
      rfl

end Mpdcron.Utils
