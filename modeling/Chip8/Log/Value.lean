import Chip8.Text.Numeral
import Chip8.Text.Quoted

/-!
# `Chip8.Log.Value`: values in the log

A setting has a value of one of a few kinds. A value that stands for
itself is written as it is (`Value.render`). One that is an item of
another is written in full (`Value.renderItem`), with its text in
quotation marks, so that commas and brackets are told apart from text.
A value with a number of too many digits in it is not written at all
(`Value.unwritable?`).
-/

set_option autoImplicit false

namespace Chip8.Log

/-- A value in a list of settings. -/
inductive Value where
  /-- Text. -/
  | text (s : String)
  /-- A number. -/
  | number (v : Int)
  /-- Yes or no. -/
  | flag (b : Bool)
  /-- No value. -/
  | none
  /-- A list of values. -/
  | list (items : List Value)
  /-- Values with names. -/
  | record (fields : List (String × Value))

namespace Value

/-- Texts with commas between them. -/
def commaSeparated (texts : List String) : String := ", ".intercalate texts

mutual

/-- The text of a value inside another. -/
def renderItem : Value → String
  | text s => Text.quoted s
  | number v => toString v
  | flag true => "True"
  | flag false => "False"
  | none => "None"
  | list items => "[" ++ commaSeparated (renderItems items) ++ "]"
  | record fields => "\x7b" ++ commaSeparated (renderFields fields) ++ "\x7d"

/-- The texts of the items of a list. -/
def renderItems : List Value → List String
  | [] => []
  | v :: vs => renderItem v :: renderItems vs

/-- The texts of the fields of a record. -/
def renderFields : List (String × Value) → List String
  | [] => []
  | (key, v) :: rest => (Text.quoted key ++ ": " ++ renderItem v) :: renderFields rest

end

/-- The text of a value. -/
def render : Value → String
  | text s => s
  | v => v.renderItem

mutual

/-- The numbers in a value, in the order in which they are written. -/
def numbers : Value → List Int
  | number v => [v]
  | list items => itemNumbers items
  | record fields => fieldNumbers fields
  | text _ | flag _ | none => []

/-- The numbers in the items of a list. -/
def itemNumbers : List Value → List Int
  | [] => []
  | v :: vs => numbers v ++ itemNumbers vs

/-- The numbers in the fields of a record. -/
def fieldNumbers : List (String × Value) → List Int
  | [] => []
  | (_, v) :: rest => numbers v ++ fieldNumbers rest

end

/-- The first number in a value that has too many digits to be
written. -/
def unwritable? (v : Value) : Option Int := v.numbers.find? fun n => !Text.Numeral.isWritable n

example : (list [number 1, none, list [flag true]]).render = "[1, None, [True]]" := by
  decide +kernel

end Value

end Chip8.Log
