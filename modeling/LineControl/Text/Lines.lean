/-!
# Lines of a text

A carriage return, a line feed, or the two in this order end a line; nothing else does.
-/

set_option autoImplicit false

namespace LineControl.Text

/-- The lines of a text without their ends. A last line needs no end, and after the last end there
is no further line. -/
def lines : List Char → List (List Char)
  | [] => []
  | '\r' :: '\n' :: rest => [] :: lines rest
  | '\r' :: rest => [] :: lines rest
  | '\n' :: rest => [] :: lines rest
  | c :: rest =>
    match lines rest with
    | [] => [[c]]
    | line :: later => (c :: line) :: later

end LineControl.Text
