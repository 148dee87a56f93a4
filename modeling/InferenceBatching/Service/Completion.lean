import InferenceBatching.Service.Backend

namespace InferenceBatching

/-!
# Completions

A completion carries the end of one request to whoever submitted it: into a
channel with room for one outcome, to a callback, or nowhere. It fires once, and
one that is dropped before fires with a failure. A request carries the number of
its completion; what has become of the completion is seen by its submitter too.
-/

/-- Where the end of a request goes. -/
inductive CompletionSink where
  | channel
  | callback
  | detached
  deriving Repr, DecidableEq

/-- A completion with what has become of it. -/
structure Completion where
  sink : CompletionSink
  isPending : Bool := true
  mailbox? : Option Outcome := none
  hasReceiver : Bool := false
  taken : List Outcome := []
  called : List Outcome := []
  deriving Repr, DecidableEq

/-- What a receiver may do with the channel of a completion. -/
inductive ReceiverAction where
  | poll
  | receive
  | leave
  deriving Repr, DecidableEq

namespace Completion

/-- A completion that has not fired; only a channel comes with a receiver. -/
def new
    (sink : CompletionSink) :
    Completion :=
  { sink := sink, hasReceiver := sink = .channel }

/-- The failure of a request whose completion was dropped. -/
def droppedError : RequestError :=
  .unavailable "request dropped before completion"

/-- The failure given by a channel whose outcome has been taken already. -/
def closedError : RequestError :=
  .unavailable "completion channel closed"

/-- Fire with an outcome, unless the completion has fired. -/
def fire
    (completion : Completion)
    (outcome : Outcome) :
    Completion :=
  if completion.isPending then
    let fired := { completion with isPending := false }
    match completion.sink with
    | .channel => if completion.hasReceiver then { fired with mailbox? := some outcome } else fired
    | .callback => { fired with called := completion.called ++ [outcome] }
    | .detached => fired
  else
    completion

/-- Drop the completion. -/
def drop
    (completion : Completion) :
    Completion :=
  completion.fire (.failed droppedError)

/-- Use the completion up: fire it and drop what is left, which cannot fire any more. -/
def complete
    (completion : Completion)
    (outcome : Outcome) :
    Completion :=
  (completion.fire outcome).drop

/-- Drop the receiver, with an outcome that has not been taken. -/
def dropReceiver
    (completion : Completion) :
    Completion :=
  { completion with hasReceiver := false, mailbox? := none }

/-- Take the outcome out of the channel, if it is there. -/
def takeOut
    (completion : Completion) :
    Completion :=
  { completion with
    mailbox? := none
    taken := completion.taken ++ completion.mailbox?.toList }

/-- Take the outcome if it is there. -/
def poll
    (completion : Completion) :
    Option Outcome × Completion :=
  (completion.mailbox?, completion.takeOut)

/-- Wait for the outcome. Once it has been taken, the channel is closed. -/
def receive
    (completion : Completion) :
    Option Outcome × Completion :=
  if completion.hasReceiver then
    match completion.mailbox? with
    | some outcome => (some outcome, completion.takeOut)
    | none =>
        if completion.isPending then
          (none, completion)
        else
          (some (.failed closedError), completion)
  else
    (none, completion)

/-- The completion after its receiver has done something. -/
def afterReceiver
    (completion : Completion) :
    ReceiverAction →
    Completion
  | .poll => completion.poll.2
  | .receive => completion.receive.2
  | .leave => completion.dropReceiver

/-- The description of a completion that has not fired. -/
def describe
    (completion : Completion) :
    String :=
  let sink := if completion.sink = .channel then "channel" else "callback"
  "Completion \x7b sink: \"" ++ sink ++ "\" \x7d"

end Completion

end InferenceBatching
