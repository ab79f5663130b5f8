import ChatServer.Text.Quoted

/-!
Descriptions of values for people to read: a record is its name and its fields, an optional
value says whether it is there, and a secret shows only that it is kept back.
-/

namespace ChatServer.Text

/-- What stands for a secret. -/
def redacted : String := quoted "[REDACTED]"

/-- A record with its fields in order: `Name \x7b first: 1, second: 2 \x7d`. -/
def record (name : String) (fields : List (String × String)) : String :=
  name ++ " \x7b " ++ ", ".intercalate (fields.map fun (field, value) => field ++ ": " ++ value)
    ++ " \x7d"

/-- An optional value: `Some(value)` or `None`. -/
def optional : Option String → String
  | some value => "Some(" ++ value ++ ")"
  | none => "None"

/-- A list in square brackets. -/
def sequence (values : List String) : String :=
  "[" ++ ", ".intercalate values ++ "]"

/-- A whole number of seconds as a length of time; nothing at all is counted in nanoseconds. -/
def seconds (n : Nat) : String :=
  if n = 0 then "0ns" else toString n ++ "s"

end ChatServer.Text
