/-!
Contract: the character that ends a text handed to the operating system.

Owns: the test whether a text holds it, which such a text must not.

Does not own: what happens to a text that holds it.
-/

namespace Rollout.Text

def holdsNul (text : String) : Bool :=
  text.toList.any fun character => character.toNat == 0

end Rollout.Text
