/-!
# Terminal styles

A styled text stands between an escape sequence that turns the style on and one that resets the
terminal.  A reset inside the text would end the style too early, so the style is turned on again
after it.
-/

namespace SnippetRubric

/-- How a piece of output looks. -/
inductive Style where
  | bold
  | dimmed
  | red
  | green
  | yellow
  | cyan
deriving DecidableEq, Repr

namespace Style

/-- The number of a style in escape sequences. -/
def code : Style → Nat
  | bold => 1
  | dimmed => 2
  | red => 31
  | green => 32
  | yellow => 33
  | cyan => 36

/-- The sequence that turns a style on. -/
def on (style : Style) : List Char :=
  Char.ofNat 27 :: '[' :: (toString style.code).toList ++ ['m']

/-- The sequence that resets the terminal. -/
def reset : List Char :=
  [Char.ofNat 27, '[', '0', 'm']

/-- The text with the style turned on again after every reset. -/
def renewed (style : Style) : List Char → List Char
  | a :: '[' :: '0' :: 'm' :: rest =>
      if a = Char.ofNat 27 then reset ++ style.on ++ renewed style rest
      else a :: renewed style ('[' :: '0' :: 'm' :: rest)
  | c :: rest => c :: renewed style rest
  | [] => []

/-- The text in a style, where styles are shown at all. -/
def paint (style : Style) (shown : Bool) (text : String) : String :=
  if shown then String.ofList (style.on ++ style.renewed text.toList ++ reset) else text

end Style
end SnippetRubric
