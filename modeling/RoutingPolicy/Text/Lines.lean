/-!
# Texts of lines

A text of lines ends every line, the last one included, with a line feed.
-/

set_option autoImplicit false

namespace RoutingPolicy.Text

def ofLines (lines : List String) : String := String.join (lines.map (· ++ "\n"))

end RoutingPolicy.Text
