import Counterpart.Token.Printer

/-!
# Why code is not in the grammar

A fault says what was wanted and where. Faults inside attribute arguments reach the user, so
they carry a wording; everywhere else it only matters that there is one.
-/

namespace Counterpart

/-- What is wrong at some token. -/
inductive Complaint where
  /-- One of the given pieces should stand here; the pieces are spelled as they are shown. -/
  | wanted (pieces : List String)
  /-- A keyword stands where a name should. -/
  | keyword (word : String)
  /-- The code should have ended, or the group that it is in. -/
  | leftover (scope : Option Delimiter)
  /-- An attribute stands before the value of an attribute. -/
  | nestedAttribute
  /-- A rule that the grammar states on its own. -/
  | rule (text : String)
deriving DecidableEq, Repr, Inhabited

namespace Complaint

/-- The wording. -/
def message : Complaint → String
  | .wanted [] => "unexpected token"
  | .wanted [piece] => "expected " ++ piece
  | .wanted [first, second] => "expected " ++ first ++ " or " ++ second
  | .wanted pieces => "expected one of: " ++ ", ".intercalate pieces
  | .keyword word => "expected identifier, found keyword `" ++ word ++ "`"
  | .leftover none => "unexpected token"
  | .leftover (some delimiter) =>
    "unexpected token, expected `" ++ delimiter.closing ++ "`"
  | .nestedAttribute => "unexpected attribute inside of attribute"
  | .rule text => text

end Complaint

/-- A complaint, whether the code had already ended, and the region it is about. -/
structure Fault where
  complaint : Complaint
  atEnd : Bool
  region : Option Region
deriving DecidableEq, Repr, Inhabited

namespace Fault

/-- The wording; the end of the code is mentioned first. -/
def message (fault : Fault) : String :=
  if !fault.atEnd then fault.complaint.message
  else
    match fault.complaint with
    | .wanted [] => "unexpected end of input"
    | complaint => "unexpected end of input, " ++ complaint.message

end Fault

end Counterpart
