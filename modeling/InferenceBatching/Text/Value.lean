namespace InferenceBatching.Text

/-!
# Text of values in messages

Messages show lists between square brackets and optional values by constructor.
-/

/-- Items between square brackets, separated by a comma and a blank. -/
def bracketed
    (items : List String) :
    String :=
  "[" ++ ", ".intercalate items ++ "]"

/-- A list of natural numbers. -/
def ofNats
    (values : List Nat) :
    String :=
  bracketed (values.map toString)

/-- A list of integers. -/
def ofInts
    (values : List Int) :
    String :=
  bracketed (values.map toString)

/-- A value that may be absent, given the text of a present one. -/
def ofOption :
    Option String →
    String
  | none => "None"
  | some text => "Some(" ++ text ++ ")"

end InferenceBatching.Text
