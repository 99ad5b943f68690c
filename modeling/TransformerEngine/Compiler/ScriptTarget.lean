import TransformerEngine.Text.Blank
import TransformerEngine.Text.Lowercase

/-!
# Script targets

The language versions that a compilation can be aimed at. Each has one canonical name;
reading is more generous than writing: it ignores ASCII case and surrounding blanks and
takes `es6` for `es2015`. `ofString?_name` says that what is written is read back.
-/

namespace TransformerEngine

/-- A language version. -/
inductive ScriptTarget where
  | es3
  | es5
  | es2015
  | es2016
  | es2017
  | es2018
  | es2019
  | es2020
  | es2021
  | es2022
  | esnext
  | json
  | latest
deriving DecidableEq, Repr

namespace ScriptTarget

/-- The version used where none is asked for. -/
instance : Inhabited ScriptTarget := ⟨es5⟩

/-- The canonical name. -/
def name : ScriptTarget → String
  | es3 => "es3"
  | es5 => "es5"
  | es2015 => "es2015"
  | es2016 => "es2016"
  | es2017 => "es2017"
  | es2018 => "es2018"
  | es2019 => "es2019"
  | es2020 => "es2020"
  | es2021 => "es2021"
  | es2022 => "es2022"
  | esnext => "esnext"
  | json => "json"
  | latest => "latest"

/-- The version that a lower-case name without blanks stands for. -/
def ofName? : String → Option ScriptTarget
  | "es3" => some es3
  | "es5" => some es5
  | "es6" => some es2015
  | "es2015" => some es2015
  | "es2016" => some es2016
  | "es2017" => some es2017
  | "es2018" => some es2018
  | "es2019" => some es2019
  | "es2020" => some es2020
  | "es2021" => some es2021
  | "es2022" => some es2022
  | "esnext" => some esnext
  | "json" => some json
  | "latest" => some latest
  | _ => none

/-- The version that `text` stands for. -/
def ofString? (text : String) : Option ScriptTarget :=
  ofName? (Text.lowercaseAscii (Text.trim text))

/-- The message about a text that names no version. -/
def unknownMessage (text : String) : String := s!"unknown script target '{text}'"

theorem ofString?_name (target : ScriptTarget) : ofString? target.name = some target := by
  cases target <;> decide +kernel

end ScriptTarget

end TransformerEngine
