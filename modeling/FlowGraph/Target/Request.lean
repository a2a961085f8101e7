import FlowGraph.Settings

/-!
Parameters of nodes that send requests: method and address, authentication,
query, headers, and a body where the method has one.
-/

namespace FlowGraph.Request

def text : Json → String
  | .str s => s
  | .null => ""
  | v => v.compact

def pair (name value : String) : Json :=
  .obj [("name", .str name), ("value", .str value)]

/-- Names with text values, out of an object or a list of such pairs. -/
def pairs : Json → List Json
  | .obj fields => fields.map fun (name, v) => pair name (text v)
  | .arr items => items.filterMap fun item =>
    ((item.get? "name").bind Json.str?).map fun name =>
      pair name (((item.get? "value").map text).getD "")
  | _ => []

def authentication (auth : Option Json) : Fields Json :=
  let kind := match auth with
    | some (.str kind) => some kind
    | some (.obj fields) => some ((Settings.text? fields "type").getD "none")
    | _ => none
  let generic (name : String) : Fields Json :=
    [("authentication", .str "genericCredentialType"), ("genericAuthType", .str name)]
  match kind.map Text.lowerAscii with
  | none => []
  | some "basic" => generic "httpBasicAuth"
  | some "header" => generic "httpHeaderAuth"
  | some _ => [("authentication", .str "none")]

/-- A list of pairs under its name, with the switch that turns it on; nothing for
an empty list. -/
def pairList (switch name : String) (v : Option Json) : Fields Json :=
  match (v.map pairs).getD [] with
  | [] => []
  | list => [(switch, .bool true), (name, .obj [("parameters", .arr list)])]

def bodyMethods : List String := ["POST", "PUT", "PATCH"]

def body (v : Json) : Fields Json :=
  ("sendBody", .bool true) ::
    match v with
    | .obj _ =>
      [("contentType", .str "json"), ("specifyBody", .str "keypair"),
        ("bodyParameters", .obj [("parameters", .arr (pairs v))])]
    | v => [("specifyBody", .str "json"), ("jsonBody", .str v.render)]

def parameters (s : Settings) : Fields Json :=
  let method := Text.upperAscii ((s.text? "method").getD "GET")
  let body := match s.get? "body" with
    | some v => if bodyMethods.contains method then body v else []
    | none => []
  let options := match s.number? "timeout" with
    | some n => [("timeout", n)]
    | none => []
  [("method", .str method), ("url", .str ((s.text? "url").getD ""))] ++
    authentication (s.get? "auth") ++
    pairList "sendQuery" "queryParameters" (s.get? "query") ++
    pairList "sendHeaders" "headerParameters" (s.get? "headers") ++
    body ++ [("options", .obj options)]

end FlowGraph.Request
