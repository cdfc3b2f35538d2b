import Reconciliation.Proofs.Exclusion
import Reconciliation.Proofs.Terms
import Reconciliation.Redis.Lock

/-!
# For how long a key is kept

A term is checked as a span of milliseconds with sign, and is sent as milliseconds without sign, cut
down and at least one. What passes the check has at most `2 ^ 63 - 1` of them, so the second range
check refuses nothing, and no key is kept for longer than its term, unless that is no millisecond.

* `millis_le_of_checkTerm`: the second check is never reached by a term that it would refuse.
* `Term.lastsFor_lifetime`: the number of milliseconds that is sent.
* `Redis.acquire_accepted`: what is sent, and what is made of the reply.
* `Redis.release_spoke`: what is sent for a lease, whenever it is given back.
* `Redis.keeps_for_term`: all that for a server that can be reached.
-/

namespace Reconciliation

variable {name : String} {term : Term}

/-- Milliseconds for which something with a term can be kept: those of the term, cut down, and one
for a term below a millisecond. -/
structure Term.LastsFor (term : Term) (ms : Nat) : Prop where
  positive : 1 ≤ ms
  fits : ms ≤ 2 ^ 63 - 1
  notLonger : (ofMillis 1).nanos ≤ term.nanos → (ofMillis ms).nanos ≤ term.nanos
  notShorter : term.nanos < (ofMillis (ms + 1)).nanos
  shortest : term.nanos < (ofMillis 1).nanos → ms = 1

/-- **The second range check refuses nothing** that the first one lets through. -/
theorem millis_le_of_checkTerm (h : checkTerm name term = .ok ()) :
    term.millis ≤ 18446744073709551615 := by
  have hmost := millis_of_checkTerm h
  omega

/-- **What is sent lasts for the term.** -/
theorem Term.lastsFor_lifetime (h : checkTerm name term = .ok ()) :
    term.LastsFor (Redis.lifetime term) := by
  have hfits := millis_of_checkTerm h
  have hlifetime : Redis.lifetime term = max (term.nanos / 1000000) 1 := rfl
  rw [millis] at hfits
  refine ⟨?_, ?_, ?_, ?_, ?_⟩ <;> simp only [ofMillis, hlifetime] <;> omega

namespace Redis

/-- The command that sets a key to a token if it is not set, to be kept for some milliseconds. -/
def taking (key : String) (token ms : Nat) : List Word :=
  [.text "SET", .text key, .token token, .text "NX", .text "PX", .text (Nat.repr ms)]

/-- The command that runs the script on a key and a token. -/
def returning (key : String) (token : Nat) : List Word :=
  [.text "EVALSHA", .digest, .text "1", .text key, .token token]

/-- The command that makes the script known. -/
def loading : List Word := [.text "SCRIPT", .text "LOAD", .text releaseScript]

/-- The reply to the next command. -/
def Link.next (l : Link) : Reply := l.replies.head?.getD (.status "OK")

/-- What is made of the reply to a key that is to be set: the lease if it was, none if it was set
before, and otherwise a failure, with what the client says of the reply. -/
def Link.granted (l : Link) (lease : Lease) : Reply → Except LockError (Option Lease)
  | .status _ => .ok (some lease)
  | .nil => .ok none
  | reply => .error (failure "acquire" lease.name (l.complaint reply))

/-! ## What is sent -/

/-- What a server has been sent between two moments. It stays the same server. -/
structure Link.Spoke (l : Link) (commands : List (List Word)) (m : Link) : Prop where
  sent : m.sent = l.sent ++ commands
  keyHead : m.keyHead = l.keyHead
  reachable : m.reachable = l.reachable

namespace Link

variable {l m n : Link} {xs ys : List (List Word)}

/-- A link that nothing is sent to stays as it is. -/
theorem Spoke.refl (l : Link) : l.Spoke [] l := ⟨(List.append_nil _).symm, rfl, rfl⟩

/-- What is spoken one after another is spoken in one. -/
theorem Spoke.trans (h : l.Spoke xs m) (h' : m.Spoke ys n) : l.Spoke (xs ++ ys) n where
  sent := by rw [h'.sent, h.sent, List.append_assoc]
  keyHead := h'.keyHead.trans h.keyHead
  reachable := h'.reachable.trans h.reachable

/-- A command that is sent is all that is sent. -/
theorem send_spoke (l : Link) (command : List Word) : l.Spoke [command] (l.send command).2 := by
  rw [send]
  cases l.replies <;> exact ⟨rfl, rfl, rfl⟩

/-- It has the next reply. -/
theorem send_fst (l : Link) (command : List Word) : (l.send command).1 = l.next := by
  rw [send, next]
  cases l.replies <;> rfl

/-- **The script is run on one key with one token**, once more after it was made known. -/
theorem runScript_spoke (l : Link) (key : String) (token : Nat) :
    ∃ more, l.Spoke (returning key token :: more) (l.runScript key token).2 ∧
      ∀ c ∈ more, c = loading ∨ c = returning key token := by
  have hrun := l.send_spoke (returning key token)
  rcases hfirst : l.send (returning key token) with ⟨reply, m⟩
  rw [hfirst] at hrun
  have hone : ∃ more, l.Spoke (returning key token :: more) m ∧
      ∀ c ∈ more, c = loading ∨ c = returning key token := ⟨[], hrun, List.forall_mem_nil _⟩
  rw [returning] at hfirst
  simp only [runScript, hfirst]
  cases reply with
  | status _ | integer _ | nil | broken => exact hone
  | error message =>
    dsimp only
    split
    case isFalse => exact hone
    case isTrue =>
      -- the server does not know the script, so it is told it and asked once more
      have hload := hrun.trans (m.send_spoke loading)
      rcases hsecond : m.send loading with ⟨reply, n⟩
      rw [hsecond] at hload
      rw [loading] at hsecond
      rw [hsecond]
      cases reply with
      | error _ | broken => exact ⟨[loading], hload, by simp⟩
      | status _ | integer _ | nil =>
        exact ⟨[loading, returning key token],
          hload.trans (n.send_spoke (returning key token)), by simp⟩

end Link

/-! ## Taking a lock -/

variable {l : Link}

/-- A term that no lock can be held for is refused before anything is sent. -/
theorem acquire_refused {e : LockError} (h : checkTerm name term = .error e) :
    acquire name term l = (.error e, l) := by
  rw [acquire, h]

/-- **A term that passes the check is sent**, for the second check refuses nothing more. -/
theorem acquire_accepted (h : checkTerm name term = .ok ()) (hl : l.reachable = true) :
    acquire name term l =
      (l.granted ⟨name, l.lastToken + 1, term⟩ l.next,
        (({ l with lastToken := l.lastToken + 1 } : Link).send
          (taking (l.key name) (l.lastToken + 1) (lifetime term))).2) := by
  have hmillis := Nat.not_lt.2 (millis_le_of_checkTerm h)
  have hthere : ¬ (!l.reachable) = true := by
    rw [hl]
    decide
  rw [← (show ({ l with lastToken := l.lastToken + 1 } : Link).next = l.next from rfl),
    ← Link.send_fst _ (taking (l.key name) (l.lastToken + 1) (lifetime term)), acquire, h]
  dsimp only
  rw [if_neg hmillis, if_neg hthere, taking]
  rcases Link.send _ [_, _, _, _, _, _] with ⟨_ | _ | _ | _ | _, m⟩ <;> rfl

/-- What is sent for a term that passes the check. -/
theorem acquire_spoke_accepted (h : checkTerm name term = .ok ()) (hl : l.reachable = true) :
    l.Spoke [taking (l.key name) (l.lastToken + 1) (lifetime term)] (acquire name term l).2 := by
  rw [acquire_accepted h hl]
  obtain ⟨hsent, hkeyHead, hreachable⟩ := Link.send_spoke { l with lastToken := l.lastToken + 1 }
    (taking (l.key name) (l.lastToken + 1) (lifetime term))
  exact ⟨hsent, hkeyHead, hreachable⟩

/-- A server that cannot be reached is sent nothing. -/
theorem acquire_unreachable (h : checkTerm name term = .ok ()) (hl : l.reachable = false) :
    (acquire name term l).2 = l := by
  rw [acquire, h]
  dsimp only
  split
  · rfl
  · rw [hl]
    rfl

/-- Taking a lock sends some commands, and changes nothing else on the link. -/
theorem acquire_spoke (name : String) (term : Term) (l : Link) :
    ∃ commands, l.Spoke commands (acquire name term l).2 := by
  cases h : checkTerm name term with
  | error e => exact ⟨[], by rw [acquire_refused h]; exact .refl l⟩
  | ok =>
    cases hl : l.reachable with
    | false => exact ⟨[], by rw [acquire_unreachable h hl]; exact .refl l⟩
    | true => exact ⟨_, acquire_spoke_accepted h hl⟩

/-! ## Giving a lock back -/

/-- **A lease is given back** by its token, under the key of its name. -/
theorem release_spoke (lease : Lease) (hl : l.reachable = true) :
    ∃ more, l.Spoke (returning (l.key lease.name) lease.token :: more) (release lease l).2 ∧
      ∀ c ∈ more, c = loading ∨ c = returning (l.key lease.name) lease.token := by
  have hthere : ¬ (!l.reachable) = true := by
    rw [hl]
    decide
  rw [release, if_neg hthere]
  exact l.runScript_spoke (l.key lease.name) lease.token

/-- What is done with locks, one call after the other. Time does not matter to who asks. -/
def Link.turn (l : Link) : LockAction → Link
  | .wait _ => l
  | .acquire name term => (Redis.acquire name term l).2
  | .release lease => (Redis.release lease l).2

/-- A link after some actions. -/
def Link.after (l : Link) (actions : List LockAction) : Link := actions.foldl turn l

/-- Any action sends some commands, and changes nothing else on the link. -/
theorem turn_spoke (l : Link) (a : LockAction) : ∃ commands, l.Spoke commands (l.turn a) := by
  cases a with
  | wait time => exact ⟨[], .refl l⟩
  | acquire name term => exact acquire_spoke name term l
  | release lease =>
    cases hl : l.reachable with
    | false =>
      refine ⟨[], ?_⟩
      rw [Link.turn, release, hl]
      exact .refl l
    | true =>
      obtain ⟨more, hspoke, -⟩ := release_spoke lease hl
      exact ⟨_, hspoke⟩

/-- It stays the same server, whatever is done. -/
theorem after_spoke (l : Link) (actions : List LockAction) :
    ∃ commands, l.Spoke commands (l.after actions) := by
  induction actions generalizing l with
  | nil => exact ⟨[], .refl l⟩
  | cons a actions ih =>
    obtain ⟨xs, hxs⟩ := turn_spoke l a
    obtain ⟨ys, hys⟩ := ih (l.turn a)
    exact ⟨xs ++ ys, hxs.trans hys⟩

/-! ## The lifetime -/

/-- A key that is kept for the term of its lease. -/
structure KeptForTerm (name : String) (term : Term) (l : Link) : Prop where
  /-- The key is to be set exactly where the term passes the check. -/
  sent_iff : (∃ token ms, l.Spoke [taking (l.key name) token ms] (acquire name term l).2) ↔
    checkTerm name term = .ok ()
  /-- Otherwise the error is that of the check, and nothing is sent. -/
  refused : ∀ e, checkTerm name term = .error e → acquire name term l = (.error e, l)
  /-- What passes the first check passes the second. -/
  inRange : checkTerm name term = .ok () → term.millis ≤ 2 ^ 64 - 1
  /-- The lease has the token that was sent, which is a new one; and whatever is done in between, to
  give it back runs the script on the same key with this token. -/
  accepted : checkTerm name term = .ok () → ∃ ms, term.LastsFor ms ∧
    l.Spoke [taking (l.key name) (l.lastToken + 1) ms] (acquire name term l).2 ∧
    (acquire name term l).1 = l.granted ⟨name, l.lastToken + 1, term⟩ l.next ∧
    ∀ actions : List LockAction, ∃ more,
      ((acquire name term l).2.after actions).Spoke
        (returning (l.key name) (l.lastToken + 1) :: more)
        (release ⟨name, l.lastToken + 1, term⟩ ((acquire name term l).2.after actions)).2 ∧
      ∀ c ∈ more, c = loading ∨ c = returning (l.key name) (l.lastToken + 1)

/-- **A key is kept for the term of its lease**, at a server that can be reached. It is to be set
exactly for the terms that pass the check, for the milliseconds that the term has, cut down and at
least one; and the lease gives back that key with that token. -/
theorem keeps_for_term (name : String) (term : Term) (hl : l.reachable = true) :
    KeptForTerm name term l := by
  refine ⟨⟨?_, fun h => ⟨_, _, acquire_spoke_accepted h hl⟩⟩, fun _ => acquire_refused,
    millis_le_of_checkTerm, fun h => ?_⟩
  · rintro ⟨token, ms, hspoke⟩
    cases h : checkTerm name term with
    | ok => rfl
    | error e =>
      -- nothing was sent
      rw [acquire_refused h] at hspoke
      exact absurd hspoke.sent (by simp)
  · have haccepted := acquire_spoke_accepted h hl
    refine ⟨_, Term.lastsFor_lifetime h, haccepted, by rw [acquire_accepted h hl],
      fun actions => ?_⟩
    obtain ⟨commands, hspoke⟩ := after_spoke (acquire name term l).2 actions
    have hkey : ((acquire name term l).2.after actions).key name = l.key name := by
      rw [Link.key, hspoke.keyHead, haccepted.keyHead, Link.key]
    have hthere := hspoke.reachable.trans (haccepted.reachable.trans hl)
    have hreleased := release_spoke ⟨name, l.lastToken + 1, term⟩ hthere
    rwa [hkey] at hreleased

/-- A server that will agree to all, and one word before the names in its keys. -/
def sampleLink : Link := .fresh true "t:"

/-- The longest term is sent as the greatest number of 64 bits with sign, one nanosecond more is
refused, and the shortest term is sent as a millisecond. -/
theorem keeps_sampleLink :
    sampleLink.reachable = true ∧
      KeptForTerm "p" .longest sampleLink ∧
      (acquire "p" .longest sampleLink).2.sent = [taking "t:p" 1 9223372036854775807] ∧
      acquire "p" ⟨Term.longest.nanos + 1⟩ sampleLink =
        (.error (.invalidDuration "p" .outOfRange), sampleLink) ∧
      (acquire "p" ⟨1⟩ sampleLink).2.sent = [taking "t:p" 1 1] := by
  have hkept : ∀ term, KeptForTerm "p" term sampleLink := fun term => keeps_for_term "p" term rfl
  refine ⟨rfl, hkept _, rfl, (hkept _).refused _ rfl, ?_⟩
  obtain ⟨ms, hlasts, hspoke, -⟩ := (hkept ⟨1⟩).accepted rfl
  rw [hspoke.sent, hlasts.shortest (by decide)]
  rfl

end Redis

end Reconciliation
