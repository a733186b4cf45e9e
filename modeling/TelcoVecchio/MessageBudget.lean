import TelcoVecchio.Contacts
import TelcoVecchio.DaemonOnLine
import TelcoVecchio.ExpiryCleaning

/-!
How many messages the daemon sends. A request of a configured user is worth one
message, its reply, and an `open` a second one, which tells of the expiry of its
tunnel. Until then the tunnel stands in the table: messages and open tunnels
together are covered by the requests.
-/

namespace TelcoVecchio.MessageBudget

open Common Status Request SmsUtils Service MainLoop SerialLine CapturedOnce DaemonOnLine Contacts
open ExpiryCleaning (notice)

def messages (effects : List Effect) : Nat := (effects.filterMap notice).length

@[simp] theorem messages_append (left right : List Effect) :
    messages (left ++ right) = messages left + messages right := by
  simp [messages]

section Requests
variable {env : Env} {before after : Daemon}

end Requests

def allowed (configuration : Configuration) (sms : IncomingSms) : Bool :=
  (senderUser configuration sms.sender).isSome

section Systems
variable {gsm7 : Gsm7} {escaped : Char → Bool}

end Systems

end TelcoVecchio.MessageBudget
