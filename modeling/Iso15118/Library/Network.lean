import Iso15118.Library.Dialogue

/-!
# Dialogues over connections

The parties of a dialogue, joined by a connection that carries any number of messages in each
direction and keeps their order. Each party may read at any time. That they take turns is not part
of the model but follows from what they do: as long as each of them sends only what answers
something that it has read, there is never more than one message in the connection.
-/

namespace Dialogue

open Transition

universe u

variable {α β q r : Type u}

/-- Both parties, with the messages to each of them that have not been read, the oldest first. -/
structure Network (α β q r : Type u) where
  client : α
  server : β
  requests : List q
  responses : List r

/-- A party reads a message, or gives up waiting. A read that returns several messages at once may
have any effect. -/
inductive Parties.Moves (parties : Parties α β q r) :
    Network α β q r → Party → Network α β q r → Prop where
  | serves {client : α} {server next : β} {message : q} {requests : List q} {responses : List r}
      {sends : Option r} (taken : parties.server server message next sends) :
      Moves parties ⟨client, server, message :: requests, responses⟩ .server
        ⟨client, next, requests, responses ++ sends.toList⟩
  | asks {client next : α} {server : β} {message : r} {requests : List q} {responses : List r}
      {sends : Option q} (taken : parties.client client message next sends) :
      Moves parties ⟨client, server, requests, message :: responses⟩ .client
        ⟨next, server, requests ++ sends.toList, responses⟩
  | clientWaits {client next : α} {server : β} {requests : List q} {responses : List r}
      (waits : parties.clientWaits client next) :
      Moves parties ⟨client, server, requests, responses⟩ .client
        ⟨next, server, requests, responses⟩
  | serverWaits {client : α} {server next : β} {requests : List q} {responses : List r}
      (waits : parties.serverWaits server next) :
      Moves parties ⟨client, server, requests, responses⟩ .server
        ⟨client, next, requests, responses⟩
  | serverMerges {network after : Network α β q r} (several : 1 < network.requests.length) :
      Moves parties network .server after
  | clientMerges {network after : Network α β q r} (several : 1 < network.responses.length) :
      Moves parties network .client after

/-- The connection while the parties take turns. -/
def Config.network (config : Config α β q r) : Network α β q r :=
  match config.mail with
  | .none => ⟨config.client, config.server, [], []⟩
  | .request message => ⟨config.client, config.server, [message], []⟩
  | .response message => ⟨config.client, config.server, [], [message]⟩

variable {parties : Parties α β q r}

theorem network_ofResponse {client : α} {server : β} {sends : Option r} :
    Config.network (q := q) ⟨client, server, .ofResponse sends⟩ =
      ⟨client, server, [], sends.toList⟩ := by
  cases sends <;> rfl

theorem network_ofRequest {client : α} {server : β} {sends : Option q} :
    Config.network (r := r) ⟨client, server, .ofRequest sends⟩ =
      ⟨client, server, sends.toList, []⟩ := by
  cases sends <;> rfl

theorem moves_of_step {config next : Config α β q r} {party : Party}
    (step : parties.Step config party next) : parties.Moves config.network party next.network := by
  cases step with
  | serves taken =>
      rw [network_ofResponse]
      exact .serves taken
  | asks taken =>
      rw [network_ofRequest]
      exact .asks taken
  | @clientWaits client next server mail waits =>
      cases mail <;> exact .clientWaits waits
  | @serverWaits client server next mail waits =>
      cases mail <;> exact .serverWaits waits

theorem step_of_moves {config : Config α β q r} {party : Party} {after : Network α β q r}
    (moves : parties.Moves config.network party after) :
    ∃ next, parties.Step config party next ∧ after = next.network := by
  obtain ⟨client, server, mail⟩ := config
  cases mail with
  | none =>
      cases moves with
      | clientWaits waits => exact ⟨_, .clientWaits waits, rfl⟩
      | serverWaits waits => exact ⟨_, .serverWaits waits, rfl⟩
      | serverMerges several | clientMerges several => cases several
  | request message =>
      cases moves with
      | serves taken => exact ⟨_, .serves taken, network_ofResponse.symm⟩
      | clientWaits waits => exact ⟨_, .clientWaits waits, rfl⟩
      | serverWaits waits => exact ⟨_, .serverWaits waits, rfl⟩
      | serverMerges several | clientMerges several => simp [Config.network] at several
  | response message =>
      cases moves with
      | asks taken => exact ⟨_, .asks taken, network_ofRequest.symm⟩
      | clientWaits waits => exact ⟨_, .clientWaits waits, rfl⟩
      | serverWaits waits => exact ⟨_, .serverWaits waits, rfl⟩
      | serverMerges several | clientMerges several => simp [Config.network] at several

/-- Parties that start with one message take turns in every run, and so do not need to be told
to. -/
theorem run_moves_iff {start : Config α β q r} {history : List Party} {after : Network α β q r} :
    Run parties.Moves start.network history after ↔
      ∃ config, Run parties.Step start history config ∧ after = config.network := by
  constructor
  · intro run
    induction run with
    | start => exact ⟨start, .start, rfl⟩
    | step past last inductionHypothesis =>
        obtain ⟨config, before, rfl⟩ := inductionHypothesis
        obtain ⟨next, step, same⟩ := step_of_moves last
        exact ⟨next, .step before step, same⟩
  · rintro ⟨config, run, rfl⟩
    induction run with
    | start => exact .start
    | step past last inductionHypothesis => exact .step inductionHypothesis (moves_of_step last)

end Dialogue
