import RowQuery.Json.Printer

/-!
# Prompts

What a model is told before it sees a query, and what it is told when its answer could not be read.
The headers stand in one line of the prompt as a JSON list of strings, in which no line break is
left bare, so no header can add a line.
-/
namespace RowQuery.Prompt
open Json

def beforeHeaders : String :=
  "You are an AI data analysis assistant. Convert the user's natural language query into a " ++
  "structured JSON filter over a table with the CSV headers listed below.\n" ++
  "Each filter object must have the keys 'header', 'operator', and 'value'.\n" ++
  "- 'header' must be exactly one of the CSV headers: "

def afterHeaders : String :=
  "\n- 'operator' must be one of: '===', '!==', '>', '<', '>=', '<=', 'contains', '!contains'.\n" ++
  "- 'value' must be a number for numeric comparisons, otherwise a string.\n" ++
  "If the query is ambiguous or cannot be converted, use an empty array [].\n" ++
  "You MUST only return a JSON object with a single key \"filters\" whose value is the array of " ++
  "filter objects. Do not include any extra text, explanations, or markdown formatting such as " ++
  "```json."

def headerList (headers : List String) : Value := .list (headers.map .string)

def system (headers : List String) : String :=
  beforeHeaders ++ (headerList headers).text ++ afterHeaders

def correction : String :=
  "Your previous response was not valid JSON. Please correct it. You must only return a JSON " ++
  "object with a 'filters' key containing an array, with no extra text or formatting."

end RowQuery.Prompt
