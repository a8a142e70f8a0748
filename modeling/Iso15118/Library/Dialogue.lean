import Iso15118.Library.Run

/-!
# Dialogues of two parties

A client and a server take turns: there is at most one message between them, which is a request
of the client or a response of the server. A coupling says what holds of both of them while a
message is on its way. What every step of one party keeps holds after every run of both.
-/

namespace Dialogue

open Transition

universe u

variable {α β q r : Type u}

/-- What the two parties may do. A party that receives a message may send one. A party that waits
in vain sends nothing. -/
structure Parties (α β q r : Type u) where
  client : α → r → α → Option q → Prop
  server : β → q → β → Option r → Prop
  clientWaits : α → α → Prop
  serverWaits : β → β → Prop

/-- The message that is on its way. -/
inductive Mail (q r : Type u) where
  | none
  | request (message : q)
  | response (message : r)

/-- What a client has sent. -/
def Mail.ofRequest : Option q → Mail q r
  | .none => .none
  | .some message => .request message

/-- What a server has sent. -/
def Mail.ofResponse : Option r → Mail q r
  | .none => .none
  | .some message => .response message

/-- Both parties, with the message between them. -/
structure Config (α β q r : Type u) where
  client : α
  server : β
  mail : Mail q r

/-- The party that moves. -/
inductive Party where
  | client
  | server
  deriving DecidableEq

variable (parties : Parties α β q r)

/-- A party receives the message that is for it, or gives up waiting. -/
inductive Parties.Step : Config α β q r → Party → Config α β q r → Prop where
  | serves {client : α} {server next : β} {message : q} {sends : Option r}
      (taken : parties.server server message next sends) :
      Step ⟨client, server, .request message⟩ .server ⟨client, next, .ofResponse sends⟩
  | asks {client next : α} {server : β} {message : r} {sends : Option q}
      (taken : parties.client client message next sends) :
      Step ⟨client, server, .response message⟩ .client ⟨next, server, .ofRequest sends⟩
  | clientWaits {client next : α} {server : β} {mail : Mail q r}
      (waits : parties.clientWaits client next) :
      Step ⟨client, server, mail⟩ .client ⟨next, server, mail⟩
  | serverWaits {client : α} {server next : β} {mail : Mail q r}
      (waits : parties.serverWaits server next) :
      Step ⟨client, server, mail⟩ .server ⟨client, next, mail⟩

/-- What holds while a request, or a response, is on its way. -/
structure Coupling (α β q r : Type u) where
  asked : α → β → q → Prop
  answered : α → β → r → Prop

namespace Coupling

/-- The coupling of a configuration. Without a message there is nothing to say. -/
def Holds (coupling : Coupling α β q r) (config : Config α β q r) : Prop :=
  match config.mail with
  | .none => True
  | .request message => coupling.asked config.client config.server message
  | .response message => coupling.answered config.client config.server message

/-- Every step of a party keeps the coupling. -/
structure Kept (coupling : Coupling α β q r) : Prop where
  serves : ∀ client server message next response,
    coupling.asked client server message →
      parties.server server message next (some response) → coupling.answered client next response
  asks : ∀ client server message next request,
    coupling.answered client server message →
      parties.client client message next (some request) → coupling.asked next server request
  clientWaits : ∀ client next, parties.clientWaits client next →
    (∀ server message, coupling.asked client server message →
      coupling.asked next server message) ∧
    ∀ server message, coupling.answered client server message →
      coupling.answered next server message
  serverWaits : ∀ server next, parties.serverWaits server next →
    (∀ client message, coupling.asked client server message →
      coupling.asked client next message) ∧
    ∀ client message, coupling.answered client server message →
      coupling.answered client next message

variable {parties} {coupling : Coupling α β q r}

theorem Kept.step (kept : coupling.Kept parties) {config next : Config α β q r} {party : Party}
    (holds : coupling.Holds config) (step : parties.Step config party next) :
    coupling.Holds next := by
  cases step with
  | @serves client server next message sends taken =>
      cases sends with
      | none => trivial
      | some response => exact kept.serves client server message next response holds taken
  | @asks client next server message sends taken =>
      cases sends with
      | none => trivial
      | some request => exact kept.asks client server message next request holds taken
  | @clientWaits client next server mail waits =>
      cases mail with
      | none => trivial
      | request message => exact (kept.clientWaits client next waits).1 server message holds
      | response message => exact (kept.clientWaits client next waits).2 server message holds
  | @serverWaits client server next mail waits =>
      cases mail with
      | none => trivial
      | request message => exact (kept.serverWaits server next waits).1 client message holds
      | response message => exact (kept.serverWaits server next waits).2 client message holds

/-- A coupling that holds at the start of a dialogue holds in all of it. -/
theorem Kept.run (kept : coupling.Kept parties) {start config : Config α β q r}
    {history : List Party} (initial : coupling.Holds start)
    (run : Run parties.Step start history config) : coupling.Holds config :=
  run.invariant initial fun _ _ _ holds step => kept.step holds step

end Coupling

end Dialogue
