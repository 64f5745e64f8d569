/-
This file shows any text file, usually a diagram, inside a page of its own.
-/

import TreeWatch.Files
import TreeWatch.Page

namespace TreeWatch

/-- Why a file cannot be shown. -/
inductive PreviewError where
  | unreadable (path : String) (fault : FileFault)
  | notText (path : String)
  deriving DecidableEq, Repr

namespace PreviewError

def message : PreviewError → String
  | unreadable path fault => "cannot read " ++ path ++ ": " ++ fault.message
  | notText path => path ++ " is not UTF-8 text"

/-- The cause below the error. -/
def source? : PreviewError → Option String
  | unreadable _ fault => some fault.message
  | notText _ => none

end PreviewError

/-- The page for the content that was read from a path. -/
def previewPage (path : String) (content : Except FileFault Bytes) :
    Except PreviewError String :=
  match content with
  | .error fault => .error (.unreadable path fault)
  | .ok bytes =>
    match Utf8.decode? bytes with
    | some text => .ok (Page.preview text)
    | none => .error (.notText path)

end TreeWatch
