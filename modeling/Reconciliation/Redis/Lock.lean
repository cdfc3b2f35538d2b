import Reconciliation.Lock.Access
import Reconciliation.Text.Numeral

/-!
# Locks in a key-value server

A lock is a key that holds a token and runs out by itself. Taking a lock sets the key if it
is not set; giving it back runs a script that deletes the key if it still holds the
lease's token. A script is run by its digest, and loaded first if the server does not
know it.

As with a database, a `Link` keeps what was sent and the replies still to come.
-/

namespace Reconciliation.Redis

/-- A word of a command. -/
inductive Word where
  | text (s : String)
  | token (n : Nat)
  /-- The digest of the script that gives a lock back. -/
  | digest
deriving DecidableEq, Repr

/-- How the server replies to a command. -/
inductive Reply where
  | status (s : String)
  | integer (n : Int)
  | nil
  | error (message : String)
  /-- The connection breaks. -/
  | broken
deriving DecidableEq, Repr

/-- A server and what was sent to it. -/
structure Link where
  /-- Whether the server can be reached. -/
  reachable : Bool
  /-- What stands before a name in its key. -/
  keyHead : String
  /-- The replies to come; where they run out the server agrees. -/
  replies : List Reply
  /-- What was sent, oldest first. -/
  sent : List (List Word)
  /-- The last token given out. -/
  lastToken : Nat
  /-- What the client says of a reply that it was not due. -/
  complaint : Reply → String := fun _ => ""
  /-- What the client says where the server cannot be reached. -/
  absence : String := ""

/-- What stands before a name in its key if nothing else is said. -/
def defaultKeyHead : String := "reconciler:lock:"

/-- The script that gives a lock back. -/
def releaseScript : String :=
  "\nif redis.call(\"GET\", KEYS[1]) == ARGV[1] then\n" ++
    "    return redis.call(\"DEL\", KEYS[1])\nelse\n    return 0\nend\n"

/-- Whether an error says that the server does not know a script. -/
def unknownScript (message : String) : Bool :=
  message.toList.takeWhile (· != ' ') == "NOSCRIPT".toList

/-- Whether a reply is a number: an integer, or a status that reads as one of 64 bits. -/
def isNumber : Reply → Bool
  | .integer _ => true
  | .status s => (Text.readInteger 9223372036854775808 9223372036854775807 s.toList).isOk
  | _ => false

namespace Link

/-- A server to which nothing has been sent. -/
def fresh (reachable : Bool) (keyHead : String) : Link where
  reachable
  keyHead
  replies := []
  sent := []
  lastToken := 0

/-- The server with the replies for what comes next, and nothing sent yet. -/
def expecting (l : Link) (replies : List Reply) : Link := { l with replies, sent := [] }

/-- The key of a name. -/
def key (l : Link) (name : String) : String := l.keyHead ++ name

/-- Sends a command and takes its reply. -/
def send (l : Link) (command : List Word) : Reply × Link :=
  let sent := l.sent ++ [command]
  match l.replies with
  | [] => (.status "OK", { l with sent })
  | reply :: replies => (reply, { l with sent, replies })

/-- Runs the script on a key and a token; loads it first if the server does not know it. -/
def runScript (l : Link) (key : String) (token : Nat) : Reply × Link :=
  let command : List Word := [.text "EVALSHA", .digest, .text "1", .text key, .token token]
  match l.send command with
  | (.error message, l) =>
    -- a server that was started again does not know the script any more
    if unknownScript message then
      match l.send [.text "SCRIPT", .text "LOAD", .text releaseScript] with
      | (.error message, l) => (.error message, l)
      | (.broken, l) => (.broken, l)
      | (_, l) => l.send command
    else (.error message, l)
  | (reply, l) => (reply, l)

end Link

/-- The failure of an operation on a name, of which the client says this. -/
def failure (operation name text : String) : LockError :=
  .backend (operation ++ " " ++ name ++ ": " ++ text)

/-- For how many milliseconds a key is kept: those of the term, and at least one. -/
def lifetime (term : Term) : Nat := max term.millis 1

/-- Takes a lock. -/
def acquire (name : String) (term : Term) (l : Link) :
    Except LockError (Option Lease) × Link :=
  match checkTerm name term with
  | .error e => (.error e, l)
  | .ok () =>
    -- the lifetime is sent as milliseconds in 64 bits
    if 18446744073709551615 < term.millis then (.error (.invalidDuration name .outOfRange), l)
    else if !l.reachable then (.error (.backend l.absence), l)
    else
      let token := l.lastToken + 1
      match ({ l with lastToken := token } : Link).send
          [.text "SET", .text (l.key name), .token token, .text "NX", .text "PX",
            .text (Nat.repr (lifetime term))] with
      | (.status _, l) => (.ok (some ⟨name, token, term⟩), l)
      | (.nil, l) => (.ok none, l)
      | (reply, after) => (.error (failure "acquire" name (l.complaint reply)), after)

/-- Gives a lease back. -/
def release (lease : Lease) (l : Link) : Except LockError Unit × Link :=
  if !l.reachable then (.error (.backend l.absence), l)
  else
    let (reply, after) := l.runScript (l.key lease.name) lease.token
    (if isNumber reply then .ok ()
      else .error (failure "release" lease.name (l.complaint reply)), after)

instance : LockProvider Link where
  acquire name term l := let (r, l) := acquire name term l; (.ok r, l)
  release := release

end Reconciliation.Redis
