import NodeGateway.Execution.Request
import NodeGateway.Request.Script

/-!
# Waiting for Inclusion

A transaction that was broadcast is waited for by asking for its receipt again and again, with a
pause between the end of one request and the start of the next, and for a limited time.

At one instant a receipt comes before the end of the time, and the end of the time before another
pause. Times are milliseconds from the start of the wait.
-/

namespace NodeGateway.Inclusion

/-- How a **wait** ends: when, with what, and when its requests were begun. -/
structure Waited (α : Type) where
  finish : Nat
  outcome : Outcome α
  starts : List Nat

/-- How many requests were begun. -/
def Waited.requests (waited : Waited α) : Nat := waited.starts.length

/-- The fault of a transaction that was not included in time. -/
def notIncluded (hash : Hash) (timeout : Duration) : Fault :=
  .timeout ("transaction " ++ hash.text ++ " was not included within " ++ timeout.describe)

/-- Asks from the instant `now` on, which is not behind `limit`, beginning with request `k`, at most
`fuel` times. Where the time is up, or nothing is left to be tried, the outcome is `late`. -/
def pollFrom (late : Fault) (pause limit : Nat) (answers : Nat → Answer (Option α)) :
    (fuel k now : Nat) → Waited α
  | 0, _, _ => { finish := limit, outcome := .error late, starts := [] }
  | fuel + 1, k, now =>
    let answer := answers k
    let ended := now + answer.millis
    if limit < ended then { finish := limit, outcome := .error late, starts := [now] }
    else match answer.outcome with
      | .error fault => { finish := ended, outcome := .error fault, starts := [now] }
      | .ok (some value) => { finish := ended, outcome := .ok value, starts := [now] }
      | .ok none =>
        if limit < ended + pause then { finish := limit, outcome := .error late, starts := [now] }
        else
          let later := pollFrom late pause limit answers fuel (k + 1) (ended + pause)
          { later with starts := now :: later.starts }

/-- **Waits** for the receipt of a transaction, request `k` being answered with `answers k`. Where
the pause is at least a millisecond there are never more requests than milliseconds to wait, and one
more. Where there is no pause, `spare` further requests may take no time at all. -/
def waitFor (hash : Hash) (pause timeout : Duration) (spare : Nat)
    (answers : Nat → Answer (Option α)) : Waited α :=
  let limit := timeout.ceilMillis
  pollFrom (notIncluded hash timeout) pause.ceilMillis limit answers (limit + spare + 1) 0 0

/-- Waits for the receipt of a transaction, the requests being answered as a script says. -/
def wait (hash : Hash) (missing : Fault) (pause timeout : Duration)
    (receipts : Script (Option α)) : Waited α :=
  waitFor hash pause timeout receipts.length (receipts.answer missing)

end NodeGateway.Inclusion
