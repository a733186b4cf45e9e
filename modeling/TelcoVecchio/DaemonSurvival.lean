import TelcoVecchio.Contacts
import TelcoVecchio.RequestLanguage
import TelcoVecchio.ExpiryCleaning
import TelcoVecchio.PduReading
import TelcoVecchio.SenderAuthentication
import TelcoVecchio.TunnelSetup
import TelcoVecchio.ModemAnswers

/-!
What ends the daemon. The main loop is fed with the PDU lines that `wait_sms`
captures, and every message it sends goes through the checks of `send_sms`; a
panic on the way is the end of the task. With a clock that is never set back
and names that are notified at numbers that can be written, no routine and no
sending panics: only a line that cannot be cut, an ssh process that says
nothing, and a modem answer without the expected key do.
-/

namespace TelcoVecchio.DaemonSurvival

open Common Status SshUtils Request SmsUtils Service MainLoop RequestLanguage ExpiryCleaning
  TunnelSetup ModemAnswers Contacts PduReading

inductive LineEnd where
  | timedOut (internetPing : Nat → IpAddr → Except SurgeError Unit) (order : Order TunnelEntry)
      (calls : CleanUpCalls)
  | captured (delay : Nat) (env : Env) (pdu : String)
  | failed (delay : Nat)

def LineEnd.wait (gsm7 : Gsm7) : LineEnd → WaitEnd
  | .timedOut internetPing order calls => .timedOut internetPing order calls
  | .captured delay env pdu =>
      match readPdu gsm7 pdu with
      | .ok sms => .received delay env sms
      | _ => .failed delay
  | .failed delay => .failed delay

def Encodable (number : String) : Prop := (encodePhoneNumber number).isSome = true

section Lines
variable (gsm7 : Gsm7) (escaped : Char → Bool)

end Lines

/-! Numbers. A sender has been cut out of twelve bytes of the line, so it can be
written again. -/

/-- What the turns keep: a tunnel belongs to the name of a user who can be
written to, and was opened in the past. -/
structure Kept (configuration : Configuration) (loop : Loop) : Prop where
  configured : loop.daemon.context.configuration = configuration
  dialled : ∀ key tunnel, loop.daemon.context.tunnels.lookup key = some tunnel →
    ∃ user ∈ configuration.users, user.name = tunnel.user ∧ Encodable user.phoneNumber
  past : ∀ key tunnel, loop.daemon.context.tunnels.lookup key = some tunnel →
    tunnel.creationDate ≤ loop.clock

section Turns
variable (gsm7 : Gsm7) (escaped : Char → Bool) {configuration : Configuration}

end Turns

/-! Requests. -/

section Queries
variable (parse : String → Option JsonValue) (path : List String) (text unparsed unread : String)
  (next : String → Outcome Bool)

end Queries

section Survival
variable (gsm7 : Gsm7) (escaped : Char → Bool)

end Survival

end TelcoVecchio.DaemonSurvival
