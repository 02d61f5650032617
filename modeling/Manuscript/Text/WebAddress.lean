import Manuscript.Text.Blank
import Manuscript.Text.LetterCase

/-!
# Web addresses

The scheme of an address is `http` or `https` in any letter case, followed by a colon and two
slashes.
-/

namespace Manuscript.WebAddress

/-- What follows the scheme of an address. -/
def dropScheme? (text : Text) : Option Text := do
  let rest ← Text.dropLetters? "http".toList text
  Text.dropFront? "://".toList (Text.skipLetter 's' rest)

end Manuscript.WebAddress
