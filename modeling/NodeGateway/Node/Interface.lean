import NodeGateway.Request.Script

/-!
# Interfaces of Nodes

An **interface** is what can be asked of a node: the requests, the method that each of them
belongs to, and the type of answer that each method gives. Everything that works for any kind of
node is stated for an arbitrary interface: a scripted node, a dialogue with a node, and the pool
that stands in front of two of them.
-/

namespace NodeGateway

/-- What can be **asked of a node**. -/
structure Interface where
  Request : Type
  Method : Type
  method : Request → Method
  Answer : Method → Type
  [decEq : DecidableEq Method]

namespace Interface

instance (I : Interface) : DecidableEq I.Method := I.decEq

/-- The type of answer to a request. -/
abbrev Reply (I : Interface) (request : I.Request) : Type := I.Answer (I.method request)

/-- Two interfaces side by side: every request goes to one of the two nodes. -/
def both (I J : Interface) : Interface where
  Request := I.Request ⊕ J.Request
  Method := I.Method ⊕ J.Method
  method
    | .inl request => .inl (I.method request)
    | .inr request => .inr (J.method request)
  Answer
    | .inl method => I.Answer method
    | .inr method => J.Answer method
  decEq := fun
    | .inl a, .inl b => if h : a = b then .isTrue (h ▸ rfl) else .isFalse (by simpa using h)
    | .inr a, .inr b => if h : a = b then .isTrue (h ▸ rfl) else .isFalse (by simpa using h)
    | .inl _, .inr _ => .isFalse (by simp)
    | .inr _, .inl _ => .isFalse (by simp)

end Interface

/-- A **scripted node**: for each method the script of its answers, and the fault that a method
without a script answers with. -/
structure ScriptedNode (I : Interface) where
  scripts : (method : I.Method) → Script (I.Answer method)
  missing : I.Method → Fault

namespace ScriptedNode

/-- A node without any script. -/
def empty (missing : I.Method → Fault) : ScriptedNode I := ⟨fun _ => [], missing⟩

/-- The node with another script for one method. -/
def setScript (method : I.Method) (script : Script (I.Answer method)) (node : ScriptedNode I) :
    ScriptedNode I :=
  { node with
    scripts := fun other => if h : other = method then h ▸ script else node.scripts other }

/-- The node's next answer to a request, and the node with the scripts behind it. -/
def respond (request : I.Request) (node : ScriptedNode I) :
    Answer (I.Reply request) × ScriptedNode I :=
  let method := I.method request
  let (answer, rest) := (node.scripts method).next (node.missing method)
  (answer, node.setScript method rest)

end ScriptedNode

end NodeGateway
