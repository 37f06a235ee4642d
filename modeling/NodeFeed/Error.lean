import NodeFeed.Control

/-!
The errors a caller can meet, by cause, with the one wording of each. `label` is the stable name for
logs, `cause` the text of the error underneath where there is one.
-/

namespace NodeFeed

inductive BuildError where
  | socket (name : String) (cause : Errno)
  | connect (address : String) (cause : Errno)
  | control (endpoint : String) (cause : Errno)
  | spawn (cause : String)
  deriving DecidableEq, Repr

namespace BuildError

def label : BuildError → String
  | socket .. => "build_socket"
  | connect .. => "build_connect"
  | control .. => "build_control"
  | spawn _ => "build_spawn"

def cause : BuildError → String
  | socket _ e | connect _ e | control _ e => e.message
  | spawn text => text

def message (e : BuildError) : String :=
  (match e with
    | socket name _ => "failed to create " ++ name ++ " socket: "
    | connect address _ => "failed to connect to publisher " ++ address ++ ": "
    | control endpoint _ => "failed to set up control transport at " ++ endpoint ++ ": "
    | spawn _ => "failed to spawn handler thread: ") ++ e.cause

end BuildError

inductive SubscribeError where
  | disabled
  | exited
  | control (verb : String) (topic : Topic) (cause : Errno)
  deriving DecidableEq, Repr

namespace SubscribeError

def label : SubscribeError → String
  | disabled => "subscribe_disabled"
  | exited => "subscribe_exited"
  | control .. => "subscribe_control"

def message : SubscribeError → String
  | disabled => "subscribe disabled"
  | exited => "subscription backend exited"
  | control verb topic e =>
    "failed to send " ++ verb ++ " " ++ topic.name ++ " to handler: " ++ e.message

def cause : SubscribeError → Option String
  | disabled | exited => none
  | control _ _ e => some e.message

end SubscribeError

inductive CloseError where
  | alreadyClosed
  | control (cause : Errno)
  deriving DecidableEq, Repr

namespace CloseError

def label : CloseError → String
  | alreadyClosed => "close_already_closed"
  | control _ => "close_control"

def message : CloseError → String
  | alreadyClosed => "already closed"
  | control e => "failed to send term to handler: " ++ e.message

def cause : CloseError → Option String
  | alreadyClosed => none
  | control e => some e.message

end CloseError

inductive HandlerError where
  | poll (cause : Errno)
  | filter (verb : Verb) (topic : Topic) (cause : Errno)
  deriving DecidableEq, Repr

namespace HandlerError

def message : HandlerError → String
  | poll e => "poll failed: " ++ e.message
  | filter verb topic e => verb.name ++ " filter " ++ topic.name ++ " failed: " ++ e.message

end HandlerError
end NodeFeed
