import NodeGateway.Json.Writer
import NodeGateway.Problem
import NodeGateway.Wording

/-!
# Responses of the Service

What the service sends back to its callers: a status, and a document, a text or nothing.
-/

namespace NodeGateway.Service

/-- The **body** of a response. -/
inductive Body where
  | nothing
  | text (text : String)
  | document (value : Json)

/-- A **response** of the service. -/
structure Response where
  status : Nat
  body : Body

namespace Response

/-- The response with a document. -/
def ok (value : Json) : Response := ⟨200, .document value⟩

/-- The response to a request that could not be served. -/
def ofProblem (problem : Problem) : Response := ⟨problem.status, .text problem.message⟩

/-- The response to a request for something that is not there. -/
def notFound : Response := ⟨404, .nothing⟩

/-- The response to a request whose query cannot be read. -/
def unreadableQuery [Wording] (query : List Char) : Response :=
  ⟨400, .text ("Query deserialize error: " ++ Wording.query query)⟩

/-- The response to a request whose body cannot be read. -/
def unreadableBody [Wording] (body : String) : Response :=
  ⟨400, .text ("Json deserialize error: " ++ Wording.body body)⟩

/-- The response to a request without a body where one is due. -/
def missingBody : Response := ⟨400, .text "Content type error"⟩

/-- The response to a request that may have met a problem. -/
def ofResult (write : α → Json) : Except Problem α → Response
  | .ok value => ok (write value)
  | .error problem => ofProblem problem

end Response

end NodeGateway.Service
