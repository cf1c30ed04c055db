import Stencil.Proofs.Charset.Coding
import Stencil.Proofs.View.Sinks

/-!
The text of a response. After any calls of a response, its text is the body that was written last, with
a reference for each character that the charset lacks, exactly if that body is not written as a byte
order mark (`text_iff`).
-/

namespace Stencil

namespace Response

def take (response : Response) : SinkCall → Response
  | .contentType contentType => Sink.setContentType response contentType
  | .body text charset => (Sink.writeBody response text charset).sink

def run (response : Response) (calls : List SinkCall) : Response :=
  calls.foldl take response

/-- The body that is written last, after one that was written before. -/
def lastBody? (held : Option (String × Charset)) : List SinkCall → Option (String × Charset)
  | [] => held
  | .contentType _ :: rest => lastBody? held rest
  | .body text charset :: rest => lastBody? (some (text, charset)) rest

def Holds (response : Response) (held : Option (String × Charset)) : Prop :=
  ∀ text charset, held = some (text, charset) →
    response.body = charset.encode text.toList ∧ response.charset = charset.output

theorem holds_run (calls : List SinkCall) (response : Response) (held : Option (String × Charset))
    (holds : response.Holds held) : (response.run calls).Holds (lastBody? held calls) := by
  induction calls generalizing response held with
  | nil => exact holds
  | cons call rest ih =>
      cases call with
      | contentType contentType => exact ih (response.take (.contentType contentType)) held holds
      | body text charset =>
          refine ih (response.take (.body text charset)) (some (text, charset)) ?_
          intro other own same
          cases same
          exact ⟨rfl, rfl⟩

/-- After the last body in one of the charsets that are UTF-8 or have one octet for each character, the
text of a response is that body as it is shown in the charset, exactly if there is no byte order mark in
front of its octets. In UTF-8 there is one just where the body starts with U+FEFF. Behind a mark the
octets are read as the mark says. -/
theorem text_iff (fresh : Charset) (calls : List SinkCall) (body : String) (charset : Charset)
    (simple : charset.Simple) (last : lastBody? none calls = some (body, charset)) :
    (((new fresh).run calls).text.toList = charset.output.shown body.toList ↔
        Charset.sniff (charset.encode body.toList) = none) ∧
      (charset.output = .utf8 → (Charset.sniff (charset.encode body.toList) = none ↔
        ∀ tail, body.toList ≠ '\uFEFF' :: tail)) ∧
      ∀ marked rest, Charset.sniff (charset.encode body.toList) = some (marked, rest) →
        ((new fresh).run calls).text.toList = marked.decodeUnmarked rest := by
  obtain ⟨octets, output⟩ := holds_run calls (new fresh) none nofun body charset last
  have read : ((new fresh).run calls).text.toList =
      charset.output.decode (charset.encode body.toList) := by
    unfold text Charset.decodeString
    rw [octets, output, String.toList_ofList]
  rw [read]
  refine ⟨Charset.decode_encode_iff simple body.toList, ?_, ?_⟩
  · intro utf8
    rw [charset.encode_utf8 utf8]
    exact Charset.sniff_utf8_eq_none_iff body.toList
  · intro marked rest told
    unfold Charset.decode
    rw [told]

theorem text_iff_references :
    ((new .utf8).run [.body "lost" .utf8, .contentType "text/html",
      .body "café ✓" (.page .windows1252), .contentType "text/plain"]).text.toList =
        "café &#10003;".toList := by
  obtain ⟨reads, _⟩ := text_iff .utf8 [.body "lost" .utf8, .contentType "text/html",
    .body "café ✓" (.page .windows1252), .contentType "text/plain"] "café ✓" (.page .windows1252)
    (.page .windows1252) rfl
  exact (reads.mpr (by decide +kernel)).trans (by decide +kernel)

/-- The first three characters are a byte order mark in octets, so the last one is lost. -/
theorem text_of_mark :
    Charset.shown (.page .windows1252) "ï»¿é".toList = "ï»¿é".toList ∧
      ((new .utf8).run [.body "ï»¿é" (.page .windows1252)]).text.toList = ['\uFFFD'] := by
  decide +kernel

end Response

end Stencil
