import NodeGateway.Fault
import NodeGateway.Time

/-!
# Scripts

The behaviour of an endpoint, written down in advance: what it answers to its first request, its
second and so on. The last answer of a script is repeated for ever. With scripts in place of
endpoints a run of the gateway is a function of its input.
-/

namespace NodeGateway

/-- One **answer** of an endpoint: how many milliseconds it takes, how far the wall clock is put
forward when the request begins, and the outcome. -/
structure Answer (α : Type) where
  outcome : Outcome α
  millis : Nat := 0
  jump : Int := 0

/-- The **script** of an endpoint. -/
abbrev Script (α : Type) := List (Answer α)

namespace Script

/-- The next answer of a script and the script behind it. An empty script answers with
`missing`. -/
def next (missing : Fault) : Script α → Answer α × Script α
  | [] => ({ outcome := .error missing }, [])
  | [last] => (last, [last])
  | answer :: rest => (answer, rest)

/-- The script behind some answers. -/
def drop : Nat → Script α → Script α
  | 0, script => script
  | _ + 1, [] => []
  | _ + 1, [last] => [last]
  | count + 1, _ :: next :: rest => drop count (next :: rest)

/-- The **answer** to the request with the given number, the first one being number zero. -/
def answer (missing : Fault) (script : Script α) (number : Nat) : Answer α :=
  ((script.drop number).next missing).1

end Script

end NodeGateway
