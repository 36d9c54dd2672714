import SubpathCsi.Json.Printer
import SubpathCsi.Text.Base64

/-!
# Answers to admission requests

A pod is admitted as it is, rejected, or admitted with a patch. `Response.toJson` writes the answer;
the patch is a text in base 64.
-/

namespace SubpathCsi.Admission

/-- An answer to an admission request, which is told by its identifier. -/
inductive Response where
  /-- The pod is admitted as it is. -/
  | allowed (uid : Json) (message : String)
  /-- The pod is rejected. -/
  | errored (uid : Json) (code : Int) (message : String)
  /-- The pod is admitted with a patch. -/
  | patched (uid : Json) (operations : List Json)
  deriving Repr

namespace Response

/-- A status. -/
def status (code : Int) (message : String) : Json :=
  .obj [("code", .int code), ("message", .str message)]

/-- The text of a patch. -/
def encode (operations : List Json) : String := Base64.ofString (Json.arr operations).text

/-- Writes an answer. An empty patch is left out. -/
def toJson : Response → Json
  | allowed uid message =>
    .obj [("uid", uid), ("allowed", .bool true), ("status", status 200 message)]
  | errored uid code message =>
    .obj [("uid", uid), ("allowed", .bool false), ("status", status code message)]
  | patched uid operations =>
    .obj ([("uid", uid), ("allowed", .bool true)] ++
      (if operations.isEmpty then []
        else [("patchType", .str "JSONPatch"), ("patch", .str (encode operations))]))

/-- Writes an answer as a review of its own. -/
def review (r : Response) : Json :=
  .obj [("apiVersion", .str "admission.k8s.io/v1"), ("kind", .str "AdmissionReview"),
    ("response", r.toJson)]

end Response

end SubpathCsi.Admission
