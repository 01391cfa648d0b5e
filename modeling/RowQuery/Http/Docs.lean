import RowQuery.Json.Value

/-!
# The description of the service

The machine-readable description of the routes, and the page that shows it.
-/
namespace RowQuery.Http.Docs
open Json

def appName : String := "CSV Query Genie"

def version : String := "1.0.0"

def text (s : String) : Value := .string s

def texts (ss : List String) : Value := .list (ss.map text)

def schemaRef (name : String) : Value := .object [("$ref", text ("#/components/schemas/" ++ name))]

def jsonContent (schema : String) : Value :=
  .object [("application/json", .object [("schema", schemaRef schema)])]

def answer (status description : String) : String × Value :=
  (status, .object [("description", text description)])

def healthOperation (summary operation description schema : String) : Value := .object [
  ("get", .object [
    ("tags", texts ["health"]),
    ("summary", text summary),
    ("operationId", text operation),
    ("responses", .object [
      ("200", .object [("description", text description), ("content", jsonContent schema)])])])]

def queryOperation : Value := .object [
  ("post", .object [
    ("tags", texts ["query"]),
    ("summary", text "Filter rows with a natural-language query"),
    ("description", text ("Returns the rows that satisfy every generated condition, in their\n" ++
      "original order. Cells missing from a row are returned as `null`.")),
    ("operationId", text "run_query"),
    ("requestBody", .object [("content", jsonContent "QueryRequest"), ("required", .bool true)]),
    ("responses", .object [
      answer "200" "Filtered rows",
      answer "400" "Malformed request body or data",
      answer "500" "AI filter generation or evaluation failed"])])]

def stringProperty (name : String) : String × Value := (name, .object [("type", text "string")])

def schemas : Value := .object [
  ("HealthResponse", .object [
    ("type", text "object"),
    ("required", texts ["status", "version"]),
    ("properties", .object [stringProperty "status", stringProperty "version"])]),
  ("QueryRequest", .object [
    ("type", text "object"),
    ("description", text "Request body for `POST /query`"),
    ("required", texts ["query", "data"]),
    ("properties", .object [
      ("data", .object [
        ("type", text "array"),
        ("items", .object [("type", text "object")]),
        ("description", text "Rows to filter; each row is a JSON object keyed by column name")]),
      ("query", .object [
        ("type", text "string"),
        ("description", text "Natural-language description of the rows to keep")])])]),
  ("RootResponse", .object [
    ("type", text "object"),
    ("required", texts ["message"]),
    ("properties", .object [stringProperty "message"])])]

def tag (name description : String) : Value :=
  .object [("name", text name), ("description", text description)]

def description : Value := .object [
  ("openapi", text "3.1.0"),
  ("info", .object [
    ("title", text (appName ++ " API")),
    ("description", text "Filter tabular data with natural-language queries"),
    ("license", .object [("name", text "")]),
    ("version", text version)]),
  ("paths", .object [
    ("/", healthOperation "Root liveness message" "root" "Service is running" "RootResponse"),
    ("/api/v1/health",
      healthOperation "Health check endpoint" "health" "Service is healthy" "HealthResponse"),
    ("/query", queryOperation)]),
  ("components", .object [("schemas", schemas)]),
  ("tags", .list [
    tag "health" "Liveness endpoints",
    tag "query" "Natural-language row filtering"])]

def page : String := "\n".intercalate [
  "<!DOCTYPE html>",
  "<html lang=\"en\">",
  "<head>",
  "    <meta charset=\"UTF-8\">",
  "    <meta name=\"viewport\" content=\"width=device-width, initial-scale=1.0\">",
  "    <title>" ++ appName ++ " API</title>",
  "    <link rel=\"stylesheet\" type=\"text/css\" " ++
    "href=\"https://unpkg.com/swagger-ui-dist@5/swagger-ui.css\">",
  "</head>",
  "<body>",
  "    <div id=\"swagger-ui\"></div>",
  "    <script src=\"https://unpkg.com/swagger-ui-dist@5/swagger-ui-bundle.js\"></script>",
  "    <script>",
  "        window.onload = () => \x7b",
  "            window.ui = SwaggerUIBundle(\x7b",
  "                url: \"/api/openapi.json\",",
  "                dom_id: '#swagger-ui',",
  "                deepLinking: true",
  "            \x7d);",
  "        \x7d;",
  "    </script>",
  "</body>",
  "</html>"]

end RowQuery.Http.Docs
