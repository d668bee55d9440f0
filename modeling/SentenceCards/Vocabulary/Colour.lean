/-!
# Card colours

Each category of word is shown in a colour of its own.
-/

namespace SentenceCards

/-- The colours in which cards are shown. -/
inductive Colour where
  | purple | gray | blue | green | red | orange | yellow | lightBlue | brown | pink | teal
  deriving DecidableEq, Inhabited

namespace Colour

/-- Every colour, in the order in which they are listed. -/
def all : List Colour :=
  [purple, gray, blue, green, red, orange, yellow, lightBlue, brown, pink, teal]

/-- The name under which a colour is stored. -/
def name : Colour → String
  | purple => "purple"
  | gray => "gray"
  | blue => "blue"
  | green => "green"
  | red => "red"
  | orange => "orange"
  | yellow => "yellow"
  | lightBlue => "lightblue"
  | brown => "brown"
  | pink => "pink"
  | teal => "teal"

/-- Red, green and blue as two hexadecimal digits each. -/
def hex : Colour → String
  | purple => "#9333EA"
  | gray => "#6B7280"
  | blue => "#3B82F6"
  | green => "#10B981"
  | red => "#EF4444"
  | orange => "#F59E0B"
  | yellow => "#EAB308"
  | lightBlue => "#38BDF8"
  | brown => "#92400E"
  | pink => "#EC4899"
  | teal => "#14B8A6"

/-- The terminal code that switches to the colour. -/
def code : Colour → String
  | purple => "\x1b[35m"
  | gray => "\x1b[90m"
  | blue => "\x1b[34m"
  | green => "\x1b[32m"
  | red => "\x1b[31m"
  | orange => "\x1b[38;5;208m"
  | yellow => "\x1b[33m"
  | lightBlue => "\x1b[96m"
  | brown => "\x1b[38;5;130m"
  | pink => "\x1b[95m"
  | teal => "\x1b[36m"

/-- The colour with the given name. -/
def ofName? (name : String) : Option Colour :=
  all.find? (·.name == name)

theorem ofName?_name (colour : Colour) : ofName? colour.name = some colour := by
  cases colour <;> decide

end Colour

/-- The terminal code that ends a colour or a style. -/
def plainCode : String := "\x1b[0m"

/-- The text between a terminal code and the code that ends it. -/
def inStyle (code text : String) : String := code ++ text ++ plainCode

end SentenceCards
