/-
JSON values and their texts.

`compact` writes a value without blanks, `pretty` with one item a line and two blanks for each
level. Numbers that are not finite have no JSON text and are written `null`.
-/
import RelStore.Decimal.Shortest
import RelStore.Json.Quoted

namespace RelStore

inductive Json where
  | null
  | bool (b : Bool)
  | number (n : Binary64)
  | string (s : String)
  | array (items : List Json)
  | object (fields : List (String × Json))
  deriving Repr

namespace Json

instance : Inhabited Json := ⟨.null⟩

/-- The value under a key of an object. -/
def get? (json : Json) (key : String) : Option Json :=
  match json with
  | .object fields => fields.lookup key
  | _ => none

def numberText (n : Binary64) : String := if n.isFinite then n.text else "null"

def openBrace : String := "\x7b"

def closeBrace : String := "\x7d"

mutual

def compact : Json → String
  | .null => "null"
  | .bool b => if b then "true" else "false"
  | .number n => numberText n
  | .string s => quoted s
  | .array items => "[" ++ String.intercalate "," (compactItems items) ++ "]"
  | .object fields => openBrace ++ String.intercalate "," (compactFields fields) ++ closeBrace

def compactItems : List Json → List String
  | [] => []
  | item :: rest => compact item :: compactItems rest

def compactFields : List (String × Json) → List String
  | [] => []
  | (key, value) :: rest => (quoted key ++ ":" ++ compact value) :: compactFields rest

end

/-- Items between brackets, one a line, indented by `depth` levels; empty brackets stay together. -/
def block (opening closing : String) (depth : Nat) (items : List String) : String :=
  if items.isEmpty then opening ++ closing
  else
    let newline (levels : Nat) := "\n" ++ String.ofList (List.replicate (2 * levels) ' ')
    opening ++ newline (depth + 1) ++ String.intercalate ("," ++ newline (depth + 1)) items ++
      newline depth ++ closing

mutual

def prettyAt (depth : Nat) : Json → String
  | .array items => block "[" "]" depth (prettyItems (depth + 1) items)
  | .object fields => block openBrace closeBrace depth (prettyFields (depth + 1) fields)
  | .null => "null"
  | .bool b => if b then "true" else "false"
  | .number n => numberText n
  | .string s => quoted s

def prettyItems (depth : Nat) : List Json → List String
  | [] => []
  | item :: rest => prettyAt depth item :: prettyItems depth rest

def prettyFields (depth : Nat) : List (String × Json) → List String
  | [] => []
  | (key, value) :: rest => (quoted key ++ ": " ++ prettyAt depth value) :: prettyFields depth rest

end

def pretty (json : Json) : String := prettyAt 0 json

end Json

end RelStore
