import HeapKit.Request.Digest
import HeapKit.Request.Buffer
import HeapKit.Request.Views
import HeapKit.Request.ChunkScript
import HeapKit.Request.ArrayScript
import HeapKit.Request.VectorMapScript
import HeapKit.Request.ConfigScript
import HeapKit.Json.Parse

/-!
# Answering requests

One request is one line holding one document; its answer is one line holding
one document. The `op` field selects what runs. A request that fails as a whole
is answered by its failure.
-/

namespace HeapKit.Request

/-- Runs the request named by the `op` field. -/
def dispatch (request : Json) : Outcome Json :=
  match request.field? "op" with
  | none => refuse "missing field \"op\""
  | some (.string op) =>
    match op with
    | "hash" => digest request
    | "buf" => fieldCodec request
    | "inline_capacity" => inlineCapacityOf request
    | "index_range" => indexRangeScript request
    | "span" => spanScript request
    | "stringref" => stringRefScript request
    | "mem" => memoryRequest request
    | "chunk_source" => chunkSourceRequest request
    | "vector" => vectorScript request
    | "array" => arrayScript request
    | "hashmap" => hashMapScript request
    | "vectormap" => vectorMapScript request
    | "default_config" => defaultConfigRequest request
    | "parse_config" => parseConfigRequest request
    | "load_config" => loadConfigRequest request
    | "validate_config" => validateConfigRequest request
    | "flags" => flagsRequest request
    | other => refuse ("unknown op " ++ Quoted.quote other)
  | some _ => refuse "field \"op\" is not a string"

/-- The answer document of a request document. -/
def answer (request : Json) : Json :=
  match request with
  | .object _ =>
    match dispatch request with
    | .ok result => result
    | .error failure => failure.toJson
  | _ => (Failure.badInput "request is not an object").toJson

/-- The answer line of a request line. -/
def answerLine (line : String) : String :=
  match Json.parse line with
  | .ok request => (answer request).render
  | .error message => (Failure.badInput ("invalid JSON: " ++ message)).toJson.render

end HeapKit.Request
