import Ardents.Groups.KeyEpochs
import Ardents.Groups.Recovery

/-!
# Rotating the key with the members

Accepting, declining, leaving and removing change who is in a group. Each hands over its change
together with a key rotation, and the two are applied, logged and persisted as one.
-/

namespace Ardents.Groups

open Go
open Crypto (Time)

/-! ## The rule -/

section

variable {S : GroupState} {inp : OperationInputs} {change : GroupEvent}

end

/-! ## The operations that rotate -/

section

variable {s : Stores} {S : GroupState} {inp : OperationInputs} {change rotation : GroupEvent}
  {op : GroupOperation} {persist : Option GroupError}

end

/-! ## The other calls -/

section

variable {s : Stores} {S : GroupState} {event : GroupEvent}

end

end Ardents.Groups
