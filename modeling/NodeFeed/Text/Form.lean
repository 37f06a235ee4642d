import NodeFeed.Text.Quoted

/-!
The programmer's form of a value: a name with its fields in braces, a name around one value, a list
in brackets, an optional value by name.
-/

namespace NodeFeed.Text.Form

def joined (items : List String) : String := ", ".intercalate items

def fields (name : String) (fs : List (String × String)) : String :=
  name ++ " \x7b " ++ joined (fs.map fun f => f.1 ++ ": " ++ f.2) ++ " \x7d"

def around (name inner : String) : String := name ++ "(" ++ inner ++ ")"

def list (items : List String) : String := "[" ++ joined items ++ "]"

def optional : Option String → String
  | none => "None"
  | some s => around "Some" s

def flag (b : Bool) : String := if b then "true" else "false"

end NodeFeed.Text.Form
