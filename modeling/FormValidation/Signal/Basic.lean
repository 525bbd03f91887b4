import FormValidation.Signal.Receivers
import FormValidation.Text.Quoted

/-!
# Signals

A signal hands a payload to all receivers that are connected at that moment, in the order of connection.
What a receiver does may change the signal, and may send another payload through it; that payload is
handed to everybody before the receiver goes on.  Whoever was connected when a payload was sent gets it,
also if he was disconnected or replaced in the meantime.

`Signal.perform` carries out a list of acts.  A payload that is sent is replaced by the acts of all its
receivers, so the acts that are still to do form one list.
-/

namespace FormValidation

/-- What a receiver does: it notes something down, changes the signal or sends a payload through it. -/
inductive Act (π ε : Type) where
  | note (entry : ε)
  | connect (id : String) (receiver : π → List (Act π ε))
  | disconnect (id : String)
  | send (payload : π)

/-- A receiver: its acts when it gets a payload. -/
abbrev Receiver (π ε : Type) := π → List (Act π ε)

/-- A signal for payloads of type `π`, whose receivers note down entries of type `ε`. -/
abbrev Signal (π ε : Type) := Receivers (Receiver π ε)

namespace Signal

variable {π ε : Type}

/-- The acts of all receivers on a payload. -/
def reactions (s : Signal π ε) (payload : π) : List (Act π ε) :=
  s.toList.flatMap fun receiver => receiver payload

/-- Carries out acts one after the other; the signal afterwards and what was noted down.  `none` if the
acts are not done after so many steps. -/
def perform : Nat → Signal π ε → List (Act π ε) → Option (Signal π ε × List ε)
  | _, s, [] => some (s, [])
  | 0, _, _ :: _ => none
  | fuel + 1, s, .note entry :: acts =>
      (perform fuel s acts).map fun (s, entries) => (s, entry :: entries)
  | fuel + 1, s, .connect id receiver :: acts => perform fuel (s.connect id receiver) acts
  | fuel + 1, s, .disconnect id :: acts => perform fuel (s.disconnect id) acts
  | fuel + 1, s, .send payload :: acts => perform fuel s (s.reactions payload ++ acts)

def send (fuel : Nat) (s : Signal π ε) (payload : π) : Option (Signal π ε × List ε) :=
  perform fuel s (s.reactions payload)

def text (s : Signal π ε) : String :=
  "Signal \x7b receivers: [" ++ ", ".intercalate (s.ids.map Text.quoted) ++ "] \x7d"

end Signal
end FormValidation
