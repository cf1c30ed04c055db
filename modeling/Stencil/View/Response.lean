import Stencil.Charset.Coding
import Stencil.Journal

/-!
Where rendered text goes. A sink is told the content type and then given the body once. `Response`
keeps the body in the octets of its charset.
-/

namespace Stencil

/-- The outcome of writing a body: whether it worked, the sink afterwards, and what is reported. -/
structure Written (σ : Type) where
  answer : Except FileError Unit
  sink : σ
  events : List Event := []

class Sink (σ : Type) where
  setContentType : σ → String → σ
  writeBody : σ → String → Charset → Written σ

structure Response where
  contentType : String
  body : Bytes
  charset : Charset
  deriving DecidableEq, Repr

namespace Response

def new (charset : Charset) : Response :=
  ⟨"", [], charset⟩

def text (response : Response) : String :=
  response.charset.decodeString response.body

/-- Takes a body in the output charset of `charset`. -/
def writeBody (response : Response) (body : String) (charset : Charset) : Written Response where
  answer := .ok ()
  sink := { response with body := charset.encode body.toList, charset := charset.output }
  events := if charset.Covers body.toList then [] else [.unmappable charset.output]

instance : Sink Response where
  setContentType response contentType := { response with contentType := contentType }
  writeBody := writeBody

end Response

/-- A text that grows by each body. -/
instance : Sink String where
  setContentType text _ := text
  writeBody text body _ := { answer := .ok (), sink := text ++ body }

end Stencil
