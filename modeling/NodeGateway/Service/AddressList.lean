import NodeGateway.Bytes
import NodeGateway.Problem
import NodeGateway.Text.Blank
import NodeGateway.Text.HexError

/-!
# Lists of Addresses

How callers write several addresses in one parameter: separated by commas, with blanks around each
of them, and in any spelling of the hexadecimal form. Pieces that hold nothing but blanks do not
count. The first piece that is no address makes the whole list a bad request.
-/

namespace NodeGateway.AddressList

/-- The pieces of a list that count, without the blanks around them. -/
def pieces (text : String) : List (List Char) :=
  ((Text.splitAt ',' text.toList).map Text.trim).filter (!·.isEmpty)

/-- The problem of a piece that is no address. -/
def notAnAddress (piece : List Char) : Problem :=
  let text := String.ofList piece
  .badRequest ("'" ++ text ++ "' is not an address: " ++ (HexError.ofText 20 text).message)

/-- Reads one piece. -/
def readPiece (piece : List Char) : Except Problem Address :=
  match FixedBytes.read? 20 (String.ofList piece) with
  | some address => .ok address
  | none => .error (notAnAddress piece)

/-- Reads a **list of addresses**, in its order and with its repetitions. -/
def read (text : String) : Except Problem (List Address) := (pieces text).mapM readPiece

end NodeGateway.AddressList
