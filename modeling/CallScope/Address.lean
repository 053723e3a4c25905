import CallScope.Numeral.Positional

/-!
This module contains code addresses.
-/

namespace CallScope

abbrev Address := Int

/--
The address that marks symbols which are defined elsewhere.
-/
def Address.undefined : Address := 0

def Address.text (address : Address) : String :=
  Numeral.hexText address

end CallScope
